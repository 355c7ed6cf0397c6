import PhpAnalyze.Lib.Places
import PhpAnalyze.System

/-! # The byte budget is conserved

Every byte of `BYTES_IN_MEMORY` is held by someone: by a live trace, by a batch in a
recorder's hand, by a batch in the channel, or by the batch that the shipper is consuming.
With one exception: a batch that is sent after the last `try_recv` goes down with the receiver,
and nobody returns its bytes (`balanced_lost`).

`Settles before after s s'` says that a party whose holding goes from `before` to `after`
changes the counter by as much and subtracts no more than there is.  It is proved for each
accounting operation, then for each step of a thread (`settles_thread`) and of the shipper
(`settles_shipper`); a run adds these up (`balanced_run`). -/

namespace PhpAnalyze

open Machine Places

/-! ### Settling one holding -/

/-- The counter follows a holding that goes from `before` to `after`. -/
structure Shared.Settles (before after : ℕ) (s s' : Shared) : Prop where
  bytes : s'.bytesInMemory + before = s.bytesInMemory + after
  underflowed : s'.underflowed = s.underflowed

namespace Shared

variable {s s' s'' : Shared} {before after : ℕ}

theorem Settles.refl (s : Shared) (held : ℕ) : Settles held held s s := ⟨rfl, rfl⟩

theorem Settles.trans {between : ℕ} (h : Settles before between s s')
    (h' : Settles between after s' s'') : Settles before after s s'' := by
  obtain ⟨hbytes, hflag⟩ := h
  obtain ⟨hbytes', hflag'⟩ := h'
  exact ⟨by omega, hflag'.trans hflag⟩

theorem settles_add (s : Shared) (held bytes : ℕ) : Settles held (held + bytes) s (s.add bytes) :=
  ⟨by rw [bytesInMemory_add]; omega, rfl⟩

theorem settles_sub {held bytes : ℕ} (hbytes : bytes ≤ held) (hheld : held ≤ s.bytesInMemory) :
    Settles held (held - bytes) s (s.sub bytes) := by
  rw [sub_of_le (hbytes.trans hheld)]
  exact ⟨by dsimp only; omega, rfl⟩

theorem settles_fetchAdd (s : Shared) (arc : ArcId) (n held : ℕ) :
    Settles held held s (s.fetchAdd arc n) := ⟨rfl, rfl⟩

theorem settles_allocCounter (s : Shared) (arc : ArcId) (held : ℕ) :
    Settles held held s (s.allocCounter arc) := ⟨rfl, rfl⟩

end Shared

open Shared

/-! ### The holdings -/

def PhpThread.liveBytes : PhpThread → ℕ
  | .noTrace => 0
  | .live trace => trace.bufferEstimatedBytes
  | .admitted trace _ _ => trace.bufferEstimatedBytes
  | .handing trace _ => trace.bufferEstimatedBytes
  | .draining trace _ => trace.bufferEstimatedBytes
  | .handingLast trace _ => trace.bufferEstimatedBytes
  | .releasing trace => trace.bufferEstimatedBytes

def PhpThread.heldBytes (t : PhpThread) : ℕ :=
  t.liveBytes + batchWeight PendingBatch.sizeEstimate t.hand

def Shipper.heldBytes (s : Shipper) : ℕ := s.heldWeight PendingBatch.sizeEstimate

/-! ### One step of a party -/

/-- In every arm of `try_send_batch` the batch leaves the hand: its bytes go to the channel
or back to the budget. -/
theorem settles_trySendBatch {s : Shared} {batch : PendingBatch} {rest : ℕ} (answer : TrySend)
    (h : rest + batch.sizeEstimate ≤ s.bytesInMemory) :
    Settles (rest + batch.sizeEstimate)
      (rest + batchWeight PendingBatch.sizeEstimate (answer.queued batch)) s
      (trySendBatch answer batch s) := by
  have hsub := settles_sub (Nat.le_add_left batch.sizeEstimate rest) h
  rw [Nat.add_sub_cancel] at hsub
  cases answer with
  | noSender => exact hsub
  | ok => exact Settles.refl s _
  | full => exact hsub.trans (settles_fetchAdd _ _ _ _)
  | disconnected => exact hsub

theorem flushIntoPendingBatch_bytes (t : Trace) :
    t.flushIntoPendingBatch.2.bufferEstimatedBytes + t.flushIntoPendingBatch.1.sizeEstimate =
      t.bufferEstimatedBytes :=
  Nat.zero_add _

/-- **Every step of a thread settles** what the thread holds and puts in the channel. -/
theorem settles_thread {arc : ArcId} {shared : Shared} {t : PhpThread} {e : PhpEvent}
    {move : PhpMove} (h : PhpThread.Step arc shared t e move)
    (hheld : t.heldBytes ≤ shared.bytesInMemory) :
    Settles t.heldBytes
      (move.thread.heldBytes + batchWeight PendingBatch.sizeEstimate move.queued) shared
      move.shared := by
  cases h with
  | rinit => exact settles_allocCounter _ _ _
  | rinitStale stale =>
      refine Settles.trans ?_ (settles_allocCounter _ _ _)
      have hsub := settles_sub (Nat.le_refl stale.bufferEstimatedBytes) hheld
      rw [Nat.sub_self] at hsub
      exact hsub
  | ignore => exact Settles.refl _ _
  | dropBegin => exact settles_fetchAdd _ _ _ _
  | admitBegin => exact Settles.refl _ _
  | acceptBegin => exact settles_add _ _ _
  | quietEnd trace =>
      simp only [PhpThread.heldBytes, PhpThread.liveBytes, PhpThread.hand,
        bufferEstimatedBytes_endWouldAccept]
      exact Settles.refl _ _
  | emitEnd trace =>
      simp only [PhpThread.heldBytes, PhpThread.liveBytes, PhpThread.hand, Trace.emit,
        bufferEstimatedBytes_endWouldAccept]
      exact settles_add _ _ _
  | flushEnd trace =>
      simp only [PhpThread.heldBytes, PhpThread.liveBytes, PhpThread.hand,
        batchWeight_some, flushIntoPendingBatch_bytes, Trace.emit,
        bufferEstimatedBytes_endWouldAccept]
      exact settles_add _ _ _
  | send trace batch answer => exact settles_trySendBatch answer hheld
  | rshutdown => exact Settles.refl _ _
  | drainFrame => exact settles_add _ _ _
  | skipFlush => exact Settles.refl _ _
  | flushLast trace =>
      simp only [PhpThread.heldBytes, PhpThread.liveBytes, PhpThread.hand,
        batchWeight_some, flushIntoPendingBatch_bytes]
      exact Settles.refl _ _
  | sendLast trace batch answer => exact settles_trySendBatch answer hheld
  | release trace =>
      have hsub := settles_sub (Nat.le_refl trace.bufferEstimatedBytes) hheld
      rw [Nat.sub_self] at hsub
      exact hsub

theorem settles_bumpDropCounterOnDrop (batch : PendingBatch) (outcome : OnBatchOutcome)
    (s : Shared) (held : ℕ) : Settles held held s (bumpDropCounterOnDrop batch outcome s) := by
  cases outcome with
  | sent => exact Settles.refl s held
  | dropped => exact settles_fetchAdd _ _ _ _

/-- **Every step of the shipper settles** what is in the channel and in its hand. -/
theorem settles_shipper {env : NoticeEnv} {s s' : Shipper} {e : ShipperEvent}
    (h : Shipper.Step env s e s') (hheld : s.heldBytes ≤ s.shared.bytesInMemory) :
    Settles s.heldBytes s'.heldBytes s.shared s'.shared := by
  unfold Shipper.heldBytes at hheld ⊢
  obtain ⟨left, heffect, hweight⟩ := Shipper.effect_step h
  have hleft := hweight PendingBatch.sizeEstimate
  cases heffect with
  | quiet hshared =>
      rw [hshared, ← hleft]
      exact Settles.refl _ _
  | settled batch droppedRecords outcome hshared =>
      rw [batchWeight_some] at hleft
      rw [hshared]
      apply Settles.trans (settles_bumpDropCounterOnDrop batch outcome s.shared _)
      have hsub := settles_sub (s := bumpDropCounterOnDrop batch outcome s.shared)
        (Nat.le_of_add_left_le hleft.le) (by cases outcome <;> exact hheld)
      rw [← hleft, Nat.add_sub_cancel] at hsub
      rw [← hleft]
      exact hsub
  | abandoned batch hshared =>
      rw [batchWeight_some] at hleft
      rw [hshared]
      have hsub := settles_sub (Nat.le_of_add_left_le hleft.le) hheld
      rw [← hleft, Nat.add_sub_cancel] at hsub
      rw [← hleft]
      exact hsub

/-! ### The invariant of the process -/

namespace System

variable {ι : Type*} [Fintype ι] {env : NoticeEnv}

/-- The counter is what all parties hold together, and no `sub` was too large. -/
structure Balanced (s : System ι) : Prop where
  bytes : s.shared.bytesInMemory = total PhpThread.heldBytes s.threads + s.toShipper.heldBytes
  exact : s.shared.underflowed = false

theorem balanced_init : (init ι).Balanced where
  bytes := (total_eq_zero PhpThread.heldBytes (f := fun _ : ι => .noTrace) fun _ => rfl).symm
  exact := rfl

variable [DecidableEq ι]

/-- **Step lemma**: every step of the process keeps the balance. -/
theorem Balanced.step {s s' : System ι} {e : SystemEvent ι} (h : s.Balanced)
    (hstep : s.step env e = some s') : s'.Balanced := by
  obtain ⟨hbytes, hexact⟩ := h
  cases step_cases hstep with
  | php i e move hmove =>
      have hle := weigh_le_total PhpThread.heldBytes s.threads i
      obtain ⟨hmoved, hflag⟩ := settles_thread hmove (by omega)
      have hupdate := total_update PhpThread.heldBytes s.threads i move.thread
      refine ⟨?_, hflag.trans hexact⟩
      simp only [moved, Shipper.heldBytes, Shipper.heldWeight, queueWeight_append,
        queueWeight_toList] at hbytes ⊢
      omega
  | shipper e shipper hshipper =>
      obtain ⟨hmoved, hflag⟩ := settles_shipper hshipper (by omega)
      refine ⟨?_, hflag.trans hexact⟩
      dsimp only
      omega
  | environment e s' drains hphp hshipper hframe =>
      refine ⟨?_, by rw [hframe.shared]; exact hexact⟩
      simp only [Shipper.heldBytes, Shipper.heldWeight, hframe.shared, hframe.threads,
        hframe.channel, hframe.pc, queueWeight_append, queueWeight_drains, Nat.add_zero]
      exact hbytes

/-- **Run lemma**: every reachable process is balanced. -/
theorem balanced_run {es : List (SystemEvent ι)} {s : System ι}
    (h : run (step env) (init ι) es = some s) : s.Balanced :=
  run_invariant (fun _ _ _ hstep hs => Balanced.step hs hstep) h balanced_init

/-- The counter is the sum of the estimates of the live traces and of the batches in a recorder's
hand, in the channel and with the shipper, no `sub` was too large, and a process that holds
nothing has a counter of zero. -/
structure Conserved (s : System ι) : Prop where
  bytes : s.shared.bytesInMemory =
    (∑ i, (s.threads i).liveBytes) +
      (∑ i, batchWeight PendingBatch.sizeEstimate (s.threads i).hand) +
      queueWeight PendingBatch.sizeEstimate s.queued +
      batchWeight PendingBatch.sizeEstimate s.pc.batch
  exact : s.shared.underflowed = false
  zero : (∀ i, s.threads i = .noTrace) → (∀ message ∈ s.queued, message.batch? = none) →
    s.pc.batch = none → s.shared.bytesInMemory = 0

/-- At every step boundary the counter is what is held and what was lost with the receiver. -/
theorem balanced_lost {es : List (SystemEvent ι)} {s : System ι}
    (h : run (step env) (init ι) es = some s) :
    s.shared.bytesInMemory =
      (∑ i, (s.threads i).liveBytes) +
        (∑ i, batchWeight PendingBatch.sizeEstimate (s.threads i).hand) +
        queueWeight PendingBatch.sizeEstimate s.queued +
        batchWeight PendingBatch.sizeEstimate s.pc.batch +
        (s.lost.map PendingBatch.sizeEstimate).sum := by
  have hbytes := (balanced_run h).bytes
  have hchannel := queueWeight_channel PendingBatch.sizeEstimate s
  have hthreads : total PhpThread.heldBytes s.threads =
      (∑ i, (s.threads i).liveBytes) +
        ∑ i, batchWeight PendingBatch.sizeEstimate (s.threads i).hand :=
    Finset.sum_add_distrib
  rw [Shipper.heldBytes, Shipper.heldWeight] at hbytes
  omega

/-- **The byte budget is conserved, up to the last moment**: in every interleaving in which the
receiver is not dropped with a batch in its channel, every state reached conserves the budget. -/
theorem byte_budget_conserved {es : List (SystemEvent ι)} {s : System ι}
    (h : run (step env) (init ι) es = some s)
    (hkept : Along (step env) (fun s e => s.destroysBatch e = false) (init ι) es) :
    s.Conserved := by
  have hbytes := balanced_lost h
  rw [(lost_eq_nil_iff h).mpr hkept, List.map_nil, List.sum_nil, Nat.add_zero] at hbytes
  refine ⟨hbytes, (balanced_run h).exact, fun hthreads hqueued hpc => ?_⟩
  have hlive : ∑ i, (s.threads i).liveBytes = 0 :=
    Finset.sum_eq_zero fun i _ => by rw [hthreads i]; rfl
  have hhand : ∑ i, batchWeight PendingBatch.sizeEstimate (s.threads i).hand = 0 :=
    Finset.sum_eq_zero fun i _ => by rw [hthreads i]; rfl
  rw [hbytes, hlive, hhand, queueWeight_eq_zero _ hqueued, hpc]
  rfl

/-- Two threads: one has a batch refused and its trace replaced by a second `RINIT`, the
other has a batch with the shipper and a frame open. -/
def twoThreads : List (SystemEvent (Fin 2)) :=
  (rinitOf ⟨8, 4096, 1, 4096⟩ :: callOf "f").map (.php 0) ++
    (.php 0 (.trySend .full) :: (rinitOf ⟨8, 4096, 1, 4096⟩ :: callOf "g").map (.php 1)) ++
    [.php 1 (.trySend .ok), .php 0 (.beginGate .lazy (callSiteOf "h")), .shipper .loop,
      .php 0 (.beginAccept (entryAt 3)), .php 0 (rinitOf ⟨8, 4096, 1, 4096⟩),
      .php 1 (.beginGate .owning (callSiteOf "h")), .shipper .recv]

theorem byte_budget_conserved_two_threads :
    ∃ s, run (step noticeEnvOf) (init (Fin 2)) twoThreads = some s ∧ s.Conserved :=
  ⟨(run (step noticeEnvOf) (init (Fin 2)) twoThreads).get (by decide), (Option.some_get _).symm,
    byte_budget_conserved (Option.some_get _).symm (by decide)⟩

/-- One request whose only batch is sent after the last `try_recv` has found the channel empty. -/
def lastMomentRun : List (SystemEvent (Fin 1)) :=
  phpSteps (rinitOf ⟨8, 4096, 1, 4096⟩ :: callOf "f") ++
    [.mshutdown (.takeSender 5), .mshutdown .publishDrainDeadline, .shipper .loop, .tick 5,
      .shipper .timeout, .shipper .tryRecv] ++
    phpSteps [.trySend .ok, .rshutdown (exitAt 3), .drain, .release] ++
    [.shipper .dropReceiver]

/-- After `lastMomentRun` no trace is live and no batch is anywhere, and its bytes are still
billed. -/
theorem not_every_budget_conserved :
    ¬ ∀ (es : List (SystemEvent (Fin 1))) (s : System (Fin 1)),
      run (step noticeEnvOf) (init (Fin 1)) es = some s → s.Conserved := by
  intro h
  have hzero := (h lastMomentRun _ (Option.some_get (by decide)).symm).zero
    (fun i => by rw [Fin.eq_zero i]; rfl) (by decide) (by decide)
  revert hzero
  decide

end System

end PhpAnalyze
