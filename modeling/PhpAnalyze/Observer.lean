import PhpAnalyze.CallSite
import PhpAnalyze.Lib.Bracket
import PhpAnalyze.Lib.Machine
import PhpAnalyze.Trace

/-! # The observer (`recorder/observer.rs`)

The begin handler on both paths, the end handler, the threshold flush, `RINIT` and
`RSHUTDOWN`.  Release-build semantics: a `debug_assert!` is not evaluated.

Both begin paths have one shape, a gate that projects a cost and an accept tail that
interns; `BeginPlan` is what they put into it, and `beginOn_eq` runs each path by its plan.

The functions that may flush act on a `Recorder`, a worker with the list of the batches
that it has handed to `try_send_batch` and of the answers. -/

namespace PhpAnalyze

/-! ### Begin -/

/-- `virtual_depth.saturating_add(1)`. -/
def Worker.deepen (w : Worker) : Worker :=
  { w with trace := { w.trace with virtualDepth := saturatingSucc w.trace.virtualDepth } }

/-- The body of both gate predicates: depth gate, then cap gate. -/
def Worker.wouldAccept (w : Worker) (wouldAdd : Trace → ℕ) : Bool × Worker :=
  let w := w.deepen
  if w.trace.maxDepth < w.trace.virtualDepth then (false, w.recordDrop)
  else if w.trace.bufferCapBytes < saturatingAddUsize w.shared.snapshot (wouldAdd w.trace) then
    (false, w.recordDrop)
  else (true, w)

/-- The body of both accept tails. -/
def Worker.acceptBegin (w : Worker) (keyRef : FunctionKeyRef)
    (build : ℕ → FunctionKey × DictEntry) (snapshots : EntrySnapshots) : Option Worker :=
  match w.trace.nextCallId with
  | none => none
  | some (callId, trace) =>
      let parent := trace.parent
      -- `(virtual_depth - 1) as u16`
      let depth := (trace.virtualDepth - 1) % 2 ^ 16
      match Worker.pushDictEntryViaInternRef { w with trace } keyRef build with
      | none => none
      | some (fnId, w) =>
          let frame : CallFrame :=
            { callId, parent, fnId, depth
              tInNs := snapshots.tInNs
              cpuUInNs := snapshots.cpuUInNs
              cpuSInNs := snapshots.cpuSInNs
              memInBytes := snapshots.memInBytes }
          some { w with trace := { w.trace with stack := frame :: w.trace.stack } }

def dictMissCostRef (t : Trace) (keyRef : FunctionKeyRef) (fqn file : String) : ℕ :=
  if t.dictionary.containsKeyRef keyRef then 0
  else dictEntryFixedBytes + fqn.utf8ByteSize + file.utf8ByteSize

def beginWouldAccept (w : Worker) (categorised : Categorised) : Bool × Worker :=
  w.wouldAccept fun t =>
    callRecordFixedBytes +
      dictMissCostRef t categorised.key.asRef categorised.fqn categorised.file

def beginWithSnapshotsAccept (w : Worker) (categorised : Categorised)
    (snapshots : EntrySnapshots) : Option Worker :=
  w.acceptBegin categorised.key.asRef
    (fun fnId => (categorised.key,
      { fnId
        fqn := categorised.fqn
        file := categorised.file
        line := categorised.line
        kind := categorised.kind })) snapshots

def beginWithSnapshots (w : Worker) (categorised : Categorised) (snapshots : EntrySnapshots) :
    Option Worker :=
  let (accept, w) := beginWouldAccept w categorised
  if accept then beginWithSnapshotsAccept w categorised snapshots else some w

def beginLazyWouldAccept (w : Worker) (lazy : LazyCategorised) : Bool × Worker :=
  w.wouldAccept fun t =>
    if t.dictionary.containsKeyRef lazy.keyRef then callRecordFixedBytes
    else callRecordFixedBytes + dictEntryFixedBytes + lazy.fqnSpec.renderLen +
      lazy.file.utf8ByteSize

def beginWithSnapshotsLazyAccept (w : Worker) (lazy : LazyCategorised)
    (snapshots : EntrySnapshots) : Option Worker :=
  w.acceptBegin lazy.keyRef
    (fun fnId => (lazy.keyRef.toOwned,
      { fnId
        fqn := lazy.fqnSpec.render
        file := lazy.file
        line := lazy.line
        kind := lazy.kind })) snapshots

def beginWithSnapshotsLazy (w : Worker) (lazy : LazyCategorised) (snapshots : EntrySnapshots) :
    Option Worker :=
  let (accept, w) := beginLazyWouldAccept w lazy
  if accept then beginWithSnapshotsLazyAccept w lazy snapshots else some w

/-- The two ways to run a begin. -/
inductive BeginPath where
  | owning
  | lazy
deriving DecidableEq, Repr

def beginOn (path : BeginPath) (w : Worker) (site : RawCallSite) (snapshots : EntrySnapshots) :
    Option Worker :=
  match path with
  | .owning => beginWithSnapshots w (categorise site) snapshots
  | .lazy => beginWithSnapshotsLazy w (categoriseLazy site) snapshots

/-- What a begin path knows of a call site: the key to probe, the projected cost of a miss,
and the key and entry to store on a miss.  The projection is exact. -/
structure BeginPlan where
  keyRef : FunctionKeyRef
  missCost : ℕ
  build : ℕ → FunctionKey × DictEntry
  build_key : ∀ fnId, (build fnId).1 = keyRef.toOwned
  build_fnId : ∀ fnId, (build fnId).2.fnId = fnId
  build_bytes : ∀ fnId, (build fnId).2.bytes = missCost

/-- The cost projected by the cap gate. -/
def BeginPlan.wouldAdd (plan : BeginPlan) (t : Trace) : ℕ :=
  callRecordFixedBytes + if t.dictionary.containsKeyRef plan.keyRef then 0 else plan.missCost

def Categorised.plan (categorised : Categorised) : BeginPlan where
  keyRef := categorised.key.asRef
  missCost := dictEntryFixedBytes + categorised.fqn.utf8ByteSize + categorised.file.utf8ByteSize
  build fnId := (categorised.key,
    { fnId
      fqn := categorised.fqn
      file := categorised.file
      line := categorised.line
      kind := categorised.kind })
  build_key _ := categorised.key.toOwned_asRef.symm
  build_fnId _ := rfl
  build_bytes _ := rfl

def LazyCategorised.plan (lazy : LazyCategorised) : BeginPlan where
  keyRef := lazy.keyRef
  missCost := dictEntryFixedBytes + lazy.fqnSpec.renderLen + lazy.file.utf8ByteSize
  build fnId := (lazy.keyRef.toOwned,
    { fnId
      fqn := lazy.fqnSpec.render
      file := lazy.file
      line := lazy.line
      kind := lazy.kind })
  build_key _ := rfl
  build_fnId _ := rfl
  build_bytes _ := by simp only [DictEntry.bytes, FqnSpec.renderLen_eq]

def BeginPath.plan (path : BeginPath) (site : RawCallSite) : BeginPlan :=
  match path with
  | .owning => (categorise site).plan
  | .lazy => (categoriseLazy site).plan

/-- A begin by its plan. -/
def Worker.beginPlanned (w : Worker) (plan : BeginPlan) (snapshots : EntrySnapshots) :
    Option Worker :=
  let (accept, w) := w.wouldAccept plan.wouldAdd
  if accept then w.acceptBegin plan.keyRef plan.build snapshots else some w

theorem beginLazyWouldAccept_eq (w : Worker) (lazy : LazyCategorised) :
    beginLazyWouldAccept w lazy = w.wouldAccept lazy.plan.wouldAdd := by
  unfold beginLazyWouldAccept
  congr 1
  funext t
  by_cases h : t.dictionary.containsKeyRef lazy.keyRef
  · simp [BeginPlan.wouldAdd, LazyCategorised.plan, h]
  · simp [BeginPlan.wouldAdd, LazyCategorised.plan, h, Nat.add_assoc]

/-- Each path runs its plan. -/
theorem beginOn_eq (path : BeginPath) (w : Worker) (site : RawCallSite)
    (snapshots : EntrySnapshots) :
    beginOn path w site snapshots = w.beginPlanned (path.plan site) snapshots := by
  cases path with
  | owning => rfl
  | lazy =>
      simp only [beginOn, beginWithSnapshotsLazy, beginLazyWouldAccept_eq]
      rfl

theorem Worker.wouldAccept_fst_iff {w : Worker} {wouldAdd : Trace → ℕ} :
    (w.wouldAccept wouldAdd).1 = true ↔
      saturatingSucc w.trace.virtualDepth ≤ w.trace.maxDepth ∧
        saturatingAddUsize w.shared.snapshot (wouldAdd w.deepen.trace) ≤
          w.trace.bufferCapBytes := by
  simp only [wouldAccept]
  split_ifs with hdepth hcap
  · exact iff_of_false (by simp) fun h => absurd h.1 (Nat.not_le.mpr hdepth)
  · exact iff_of_false (by simp) fun h => absurd h.2 (Nat.not_le.mpr hcap)
  · exact iff_of_true rfl ⟨Nat.not_lt.mp hdepth, Nat.not_lt.mp hcap⟩

/-- A gate that rejects only counts the drop. -/
theorem Worker.wouldAccept_snd {w : Worker} {wouldAdd : Trace → ℕ} :
    (w.wouldAccept wouldAdd).2 =
      if (w.wouldAccept wouldAdd).1 then w.deepen else w.deepen.recordDrop := by
  simp only [wouldAccept]
  split_ifs <;> first | rfl | contradiction

/-! ### End and flush -/

/-- Why a flush was emitted; `rshutdown` is the final flush. -/
inductive FlushTrigger where
  | records
  | bytes
  | rshutdown
deriving DecidableEq, Repr

def FlushTrigger.asStr : FlushTrigger → String
  | .records => "records"
  | .bytes => "bytes"
  | .rshutdown => "rshutdown"

def flushPredicateTrigger (t : Trace) : Option FlushTrigger :=
  if t.flushRecords ≤ t.buffer.length then some .records
  else if t.flushBytes ≤ t.bufferEstimatedBytes then some .bytes
  else none

def endWouldAccept (t : Trace) : Bool × Trace :=
  let t := { t with virtualDepth := t.virtualDepth - 1 }
  if 0 < t.droppedBegins then (false, { t with droppedBegins := t.droppedBegins - 1 })
  else (true, t)

/-- The record that `finish_call_record` builds. -/
def CallFrame.intoCallRecord (frame : CallFrame) (snapshots : ExitSnapshots) (abnormal : Bool) :
    CallRecord where
  callId := frame.callId
  parent := frame.parent
  fnId := frame.fnId
  depth := frame.depth
  tInNs := frame.tInNs
  tOutNs := snapshots.tOutNs
  cpuUNs := max (saturatingSubI64 snapshots.cpuUNowNs frame.cpuUInNs) 0
  cpuSNs := max (saturatingSubI64 snapshots.cpuSNowNs frame.cpuSInNs) 0
  memInBytes := frame.memInBytes
  memOutBytes := snapshots.memOutBytes
  abnormalExit := abnormal

/-- A worker and the batches it has handed to `try_send_batch`, with the answers. -/
structure Recorder extends Worker where
  handed : List (PendingBatch × TrySend)

namespace Recorder

/-- Flush and hand the batch to `try_send_batch`. -/
def flushAndSend (r : Recorder) (answer : TrySend) : Recorder :=
  let (batch, trace) := r.trace.flushIntoPendingBatch
  { trace
    shared := trySendBatch answer batch r.shared
    handed := r.handed ++ [(batch, answer)] }

def finishCallRecord (r : Recorder) (popped : Option CallFrame) (snapshots : ExitSnapshots)
    (abnormal : Bool) (answer : TrySend) : Recorder :=
  match popped with
  | none => r
  | some frame =>
      let r := { r with
        toWorker := r.toWorker.pushRecord (frame.intoCallRecord snapshots abnormal) }
      match flushPredicateTrigger r.trace with
      | some _ => r.flushAndSend answer
      | none => r

def endWithSnapshotsAccept (r : Recorder) (snapshots : ExitSnapshots) (abnormal : Bool)
    (answer : TrySend) : Recorder :=
  match r.trace.stack with
  | [] => r.finishCallRecord none snapshots abnormal answer
  | frame :: stack =>
      { r with trace := { r.trace with stack } }.finishCallRecord (some frame) snapshots abnormal
        answer

def endWithSnapshots (r : Recorder) (snapshots : ExitSnapshots) (abnormal : Bool)
    (answer : TrySend) : Recorder :=
  let (accept, trace) := endWouldAccept r.trace
  let r := { r with trace }
  if accept then r.endWithSnapshotsAccept snapshots abnormal answer else r

end Recorder

/-! ### `RINIT` and `RSHUTDOWN` -/

/-- What `RINIT` reads: identity, limits, the clock, and the counter it allocates. -/
structure Rinit where
  identity : RequestIdentity
  limits : TraceLimits
  startTimeRealtimeNs : ℤ
  dropCounter : ArcId
deriving DecidableEq

/-- Install a fresh trace; a stale one gives its bytes back and is dropped. -/
def rinitAllocateTrace (slot : Option Trace) (shared : Shared) (rinit : Rinit) : Worker :=
  let shared := match slot with
    | some stale => shared.sub stale.bufferEstimatedBytes
    | none => shared
  { trace := Trace.new rinit.identity rinit.limits rinit.startTimeRealtimeNs rinit.dropCounter
    shared := shared.allocCounter rinit.dropCounter }

/-- `while let Some(frame) = trace.stack.pop()`. -/
def drainFrames (exit : ExitSnapshots) : List CallFrame → Worker → Worker
  | [], w => w
  | frame :: stack, w =>
      let record := frame.intoAbnormalCallRecord exit.tOutNs exit.cpuUNowNs exit.cpuSNowNs
        exit.memOutBytes
      drainFrames exit stack
        (Worker.pushRecord { w with trace := { w.trace with stack } } record)

def drainOpenFramesIntoBuffer (w : Worker) (exit : ExitSnapshots) : Worker :=
  drainFrames exit w.trace.stack w

/-- `RSHUTDOWN`.  The result holds the trace as it is just before it is dropped. -/
def Recorder.rshutdownReleaseTrace (r : Recorder) (exit : ExitSnapshots) (answer : TrySend) :
    Recorder :=
  let r := { r with toWorker := drainOpenFramesIntoBuffer r.toWorker exit }
  let r := if r.trace.buffer.isEmpty then r else r.flushAndSend answer
  { r with shared := r.shared.sub r.trace.bufferEstimatedBytes }

end PhpAnalyze
