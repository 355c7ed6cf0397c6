import Mathlib.Logic.Function.Basic
import PhpAnalyze.Types

/-! # The process-wide state (`recorder/accounting.rs`, `recorder/flush.rs`)

`Shared` is what the PHP threads and the shipper thread have in common: the budget
`BYTES_IN_MEMORY` and the drop counters, one `Arc<AtomicU64>` for each trace.  `fetch_sub`
wraps; the flag `underflowed` is not part of the program, it remembers that a `sub` asked
for more than the counter held.

`trySendBatch` settles the budget and the drop counter of a batch by the answer that
`Sender::try_send` gave (`TrySend`). -/

namespace PhpAnalyze

structure Shared where
  bytesInMemory : ℕ
  underflowed : Bool
  dropCounters : ArcId → ℕ

namespace Shared

def init : Shared where
  bytesInMemory := 0
  underflowed := false
  dropCounters := fun _ => 0

/-- `accounting::add`. -/
def add (s : Shared) (bytes : ℕ) : Shared := { s with bytesInMemory := s.bytesInMemory + bytes }

/-- `accounting::sub`. -/
def sub (s : Shared) (bytes : ℕ) : Shared :=
  if bytes ≤ s.bytesInMemory then { s with bytesInMemory := s.bytesInMemory - bytes }
  else { s with bytesInMemory := s.bytesInMemory + 2 ^ 64 - bytes, underflowed := true }

/-- `accounting::snapshot`. -/
def snapshot (s : Shared) : ℕ := s.bytesInMemory

/-- `drop_counter.fetch_add(n)`. -/
def fetchAdd (s : Shared) (arc : ArcId) (n : ℕ) : Shared :=
  { s with dropCounters := Function.update s.dropCounters arc (s.dropCounters arc + n) }

/-- `Arc::new(AtomicU64::new(0))`. -/
def allocCounter (s : Shared) (arc : ArcId) : Shared :=
  { s with dropCounters := Function.update s.dropCounters arc 0 }

variable (s : Shared) (arc arc' : ArcId) (n bytes : ℕ)

@[simp] theorem bytesInMemory_add : (s.add bytes).bytesInMemory = s.bytesInMemory + bytes := rfl

@[simp] theorem dropCounters_add : (s.add bytes).dropCounters = s.dropCounters := rfl

@[simp] theorem dropCounters_sub : (s.sub bytes).dropCounters = s.dropCounters := by
  unfold sub
  split <;> rfl

theorem dropCounters_fetchAdd :
    (s.fetchAdd arc n).dropCounters arc' =
      s.dropCounters arc' + if arc' = arc then n else 0 := by
  by_cases h : arc' = arc
  · subst h; simp [fetchAdd]
  · simp [fetchAdd, h]

theorem dropCounters_allocCounter :
    (s.allocCounter arc).dropCounters arc' = if arc' = arc then 0 else s.dropCounters arc' := by
  by_cases h : arc' = arc
  · subst h; simp [allocCounter]
  · simp [allocCounter, h]

variable {s bytes}

theorem sub_of_le (h : bytes ≤ s.bytesInMemory) :
    s.sub bytes = { s with bytesInMemory := s.bytesInMemory - bytes } := if_pos h

end Shared

/-- What `try_send_batch` finds: no `Sender` in the slot, or an answer of `try_send`. -/
inductive TrySend where
  | noSender
  | ok
  | full
  | disconnected
deriving DecidableEq, Repr

/-- `try_send_batch`.  After `ok` the channel owns the batch and its bytes. -/
def trySendBatch (answer : TrySend) (batch : PendingBatch) (s : Shared) : Shared :=
  match answer with
  | .noSender => s.sub batch.sizeEstimate
  | .ok => s
  | .full => (s.sub batch.sizeEstimate).fetchAdd batch.dropCounter batch.calls.length
  | .disconnected => s.sub batch.sizeEstimate

/-- The answer decides what happens to the drop counter: only a full channel counts. -/
theorem dropCounters_trySendBatch (answer : TrySend) (batch : PendingBatch) (s : Shared)
    (arc : ArcId) :
    (trySendBatch answer batch s).dropCounters arc = s.dropCounters arc +
      if arc = batch.dropCounter ∧ answer = .full then batch.calls.length else 0 := by
  cases answer <;> simp [trySendBatch, Shared.dropCounters_fetchAdd]

end PhpAnalyze
