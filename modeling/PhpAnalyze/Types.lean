import Mathlib.Algebra.BigOperators.Group.List.Basic
import Mathlib.Algebra.Ring.Nat
import Mathlib.Data.Int.Order.Basic
import Mathlib.Data.Nat.Notation

/-! # The in-memory data model (`recorder/types.rs`)

Field names follow the source.  Numbers:

* byte counts (`usize`) and the 64-bit counters are natural numbers.  An estimate never
  exceeds the memory it estimates, so it fits in a `usize`; `callIdSeq` is checked by the
  code and the check is kept (`Trace.nextCallId`).
* 32-bit and narrower numbers keep their width where the code can reach it: `virtualDepth`
  and `droppedBegins` saturate, `nextFnId` is checked, `CallFrame.depth` is truncated.
* clock and memory readings are `i64`, modelled as integers with explicit saturation.
* `str::len` is the length of the UTF-8 encoding, `String.utf8ByteSize`. -/

namespace PhpAnalyze

inductive FunctionKind where
  | function
  | method
  | closure
  | internal
deriving DecidableEq, Repr

inductive FunctionKey where
  | function (file function : String) (line : UInt32)
  | method (class_ method : String)
  | closure (file : String) (line : UInt32)
  | internal (name : String)
deriving DecidableEq, Repr

/-- Borrowed view of a `FunctionKey`; variants and fields mirror it. -/
inductive FunctionKeyRef where
  | function (file function : String) (line : UInt32)
  | method (class_ method : String)
  | closure (file : String) (line : UInt32)
  | internal (name : String)
deriving DecidableEq, Repr

/-- Structural equality against a borrowed view. -/
def FunctionKey.matchesRef : FunctionKey → FunctionKeyRef → Bool
  | .function f₁ fn₁ l₁, .function f₂ fn₂ l₂ => f₁ == f₂ && fn₁ == fn₂ && l₁ == l₂
  | .method c₁ m₁, .method c₂ m₂ => c₁ == c₂ && m₁ == m₂
  | .closure f₁ l₁, .closure f₂ l₂ => f₁ == f₂ && l₁ == l₂
  | .internal n₁, .internal n₂ => n₁ == n₂
  | _, _ => false

def FunctionKey.asRef : FunctionKey → FunctionKeyRef
  | .function file fn line => .function file fn line
  | .method class_ meth => .method class_ meth
  | .closure file line => .closure file line
  | .internal name => .internal name

def FunctionKeyRef.toOwned : FunctionKeyRef → FunctionKey
  | .function file fn line => .function file fn line
  | .method class_ meth => .method class_ meth
  | .closure file line => .closure file line
  | .internal name => .internal name

@[simp] theorem FunctionKeyRef.asRef_toOwned (k : FunctionKeyRef) : k.toOwned.asRef = k := by
  cases k <;> rfl

@[simp] theorem FunctionKey.toOwned_asRef (k : FunctionKey) : k.asRef.toOwned = k := by
  cases k <;> rfl

/-- The predicate of the borrowed probe is equality with the owned key. -/
@[simp] theorem FunctionKey.matchesRef_iff {k : FunctionKey} {r : FunctionKeyRef} :
    k.matchesRef r = true ↔ k = r.toOwned := by
  cases k <;> cases r <;> simp [matchesRef, FunctionKeyRef.toOwned, and_assoc]

structure CallFrame where
  callId : ℕ
  parent : ℕ
  fnId : ℕ
  depth : ℕ
  tInNs : ℤ
  cpuUInNs : ℤ
  cpuSInNs : ℤ
  memInBytes : ℤ
deriving DecidableEq, Repr

structure CallRecord where
  callId : ℕ
  parent : ℕ
  fnId : ℕ
  depth : ℕ
  tInNs : ℤ
  tOutNs : ℤ
  cpuUNs : ℤ
  cpuSNs : ℤ
  memInBytes : ℤ
  memOutBytes : ℤ
  abnormalExit : Bool
deriving DecidableEq, Repr

/-- `i64::saturating_sub`. -/
def saturatingSubI64 (a b : ℤ) : ℤ := max (-2 ^ 63) (min (2 ^ 63 - 1) (a - b))

/-- The record of a frame that is still open at `MSHUTDOWN`. -/
def CallFrame.intoAbnormalCallRecord (self : CallFrame)
    (tOutNs cpuUNowNs cpuSNowNs memOutBytes : ℤ) : CallRecord where
  callId := self.callId
  parent := self.parent
  fnId := self.fnId
  depth := self.depth
  tInNs := self.tInNs
  tOutNs := tOutNs
  cpuUNs := max (saturatingSubI64 cpuUNowNs self.cpuUInNs) 0
  cpuSNs := max (saturatingSubI64 cpuSNowNs self.cpuSInNs) 0
  memInBytes := self.memInBytes
  memOutBytes := memOutBytes
  abnormalExit := true

structure DictEntry where
  fnId : ℕ
  fqn : String
  file : String
  line : UInt32
  kind : FunctionKind
deriving DecidableEq, Repr

/-- `[u8; 16]`. -/
abbrev TraceId := Vector UInt8 16

/-- The allocation behind an `Arc<AtomicU64>`. -/
abbrev ArcId := ℕ

abbrev Instant := ℕ

structure MetaPartial where
  schemaVersion : ℕ
  traceId : TraceId
  host : String
  pid : UInt32
  startTimeRealtimeNs : ℤ
  sapi : String
  uriOrScript : String
deriving DecidableEq

/-- A batch handed off from the recorder to the shipper.  `dropCounter` is a clone of the
`Arc` of the trace, not a snapshot of the counter. -/
structure PendingBatch where
  metaPartial : MetaPartial
  dict : List DictEntry
  calls : List CallRecord
  sizeEstimate : ℕ
  dropCounter : ArcId
deriving DecidableEq

def callRecordFixedBytes : ℕ := 64

def dictEntryFixedBytes : ℕ := 24

/-- The contribution of one dictionary entry to the size estimate. -/
def DictEntry.bytes (entry : DictEntry) : ℕ :=
  dictEntryFixedBytes + entry.fqn.utf8ByteSize + entry.file.utf8ByteSize

/-- `64` bytes a call and `24 + len(fqn) + len(file)` a dictionary entry. -/
def estimateBatchBytes (dict : List DictEntry) (calls : List CallRecord) : ℕ :=
  (dict.map DictEntry.bytes).sum + calls.length * callRecordFixedBytes

inductive ShipperMessage where
  | batch (batch : PendingBatch)
  | drain (deadline : Instant)
deriving DecidableEq

structure RequestIdentity where
  host : String
  sapi : String
  pid : UInt32
  uriOrScript : String
deriving DecidableEq

structure TraceLimits where
  maxDepth : ℕ
  bufferCapBytes : ℕ
  flushRecords : ℕ
  flushBytes : ℕ
deriving DecidableEq, Repr

structure EntrySnapshots where
  tInNs : ℤ
  cpuUInNs : ℤ
  cpuSInNs : ℤ
  memInBytes : ℤ
deriving DecidableEq, Repr

structure ExitSnapshots where
  tOutNs : ℤ
  cpuUNowNs : ℤ
  cpuSNowNs : ℤ
  memOutBytes : ℤ
deriving DecidableEq, Repr

/-- `u32::MAX`. -/
def u32Max : ℕ := 2 ^ 32 - 1

/-- `u32::saturating_add(1)`. -/
def saturatingSucc (n : ℕ) : ℕ := min (n + 1) u32Max

theorem saturatingSucc_of_lt {n : ℕ} (h : n < u32Max) : saturatingSucc n = n + 1 := by
  unfold saturatingSucc
  omega

/-- `usize::saturating_add`. -/
def saturatingAddUsize (a b : ℕ) : ℕ := min (a + b) (2 ^ 64 - 1)

end PhpAnalyze
