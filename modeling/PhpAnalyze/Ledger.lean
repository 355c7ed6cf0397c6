import PhpAnalyze.Lib.Places
import PhpAnalyze.System

/-! # The ledger of a trace

A trace is named by its drop counter.  Every begin that a thread observes for it is at every
moment in one place of the ledger: in the drop counter, in a record that was sent, in a
record that was abandoned at the deadline, or in flight (an open frame, the buffer, a batch
in a hand, in the channel or with the shipper).  No step loses an entry
(`account_thread`, `account_shipper`, `ledger_run`).

When everything has come to rest nothing is in flight, and what was observed is what was
sent, dropped, abandoned or lost.  The drop counter itself does not count what was abandoned
(the `try_recv` loop of `run_drain_phase` has no `bump_drop_counter_on_drop`), nor what was sent
after the last `try_recv` and lost with the receiver. -/

namespace PhpAnalyze

open Machine Places

/-! ### The entries of a trace -/

def PendingBatch.recordsOf (arc : ArcId) (batch : PendingBatch) : ℕ :=
  if batch.dropCounter = arc then batch.calls.length else 0

/-- The records and the open frames of the trace. -/
def Trace.recordsOf (arc : ArcId) (t : Trace) : ℕ :=
  if t.dropCounter = arc then t.buffer.length + t.stack.length else 0

namespace PhpThread

/-- The begins of this trace that the thread has in flight; the final flush of `RSHUTDOWN`
leaves none in the trace. -/
def recordsOf (arc : ArcId) : PhpThread → ℕ
  | .noTrace => 0
  | .live trace => trace.recordsOf arc
  | .admitted trace _ _ => trace.recordsOf arc + if trace.dropCounter = arc then 1 else 0
  | .handing trace batch => trace.recordsOf arc + batch.recordsOf arc
  | .draining trace _ => trace.recordsOf arc
  | .handingLast _ batch => batch.recordsOf arc
  | .releasing _ => 0

/-- The thread observes a begin of this trace. -/
def observesBegin (arc : ArcId) : PhpThread → PhpEvent → Bool
  | .live trace, .beginGate _ _ => trace.dropCounter = arc
  | _, _ => false

/-- Every `try_send` answers `Ok` or `Full`, and no `RINIT` finds a stale trace. -/
def orderly : PhpThread → PhpEvent → Bool
  | .live _, .rinit _ _ _ => false
  | _, .trySend answer => answer = .ok || answer = .full
  | _, _ => true

def released : PhpThread → Bool
  | .noTrace => true
  | _ => false

def dropCounter? : PhpThread → Option ArcId
  | .noTrace => none
  | .live trace => trace.dropCounter
  | .admitted trace _ _ => trace.dropCounter
  | .handing trace _ => trace.dropCounter
  | .draining trace _ => trace.dropCounter
  | .handingLast trace _ => trace.dropCounter
  | .releasing trace => trace.dropCounter

theorem dropCounter_of_observesBegin {arc : ArcId} {t : PhpThread} {e : PhpEvent}
    (h : t.observesBegin arc e = true) : t.dropCounter? = some arc := by
  unfold observesBegin at h
  split at h
  · exact congrArg some (of_decide_eq_true h)
  · cases h

theorem dropCounter_step {fresh : ArcId} {shared : Shared} {t : PhpThread} {e : PhpEvent}
    {move : PhpMove} (h : Step fresh shared t e move) {arc : ArcId}
    (harc : move.thread.dropCounter? = some arc) :
    t.dropCounter? = some arc ∨ arc = fresh ∧ System.allocates e = 1 := by
  cases h with
  | rinit => exact .inr ⟨(Option.some.inj harc).symm, rfl⟩
  | rinitStale => exact .inr ⟨(Option.some.inj harc).symm, rfl⟩
  | quietEnd trace => exact .inl (by simpa [dropCounter?] using harc)
  | emitEnd trace => exact .inl (by simpa [dropCounter?, Trace.emit] using harc)
  | flushEnd trace =>
      exact .inl (by simpa [dropCounter?, Trace.emit, Trace.flushIntoPendingBatch] using harc)
  | release => cases harc
  | _ => exact .inl harc

theorem calls_ne_nil_step {fresh : ArcId} {shared : Shared} {t : PhpThread} {e : PhpEvent}
    {move : PhpMove} (h : Step fresh shared t e move)
    (hhand : ∀ batch, t.hand = some batch → batch.calls ≠ []) {batch : PendingBatch}
    (hbatch : move.thread.hand = some batch ∨ move.queued = some batch) : batch.calls ≠ [] := by
  cases h with
  | flushEnd trace exit abnormal frame stack =>
      obtain hbatch | hbatch := hbatch
      · cases hbatch
        simp [Trace.flushIntoPendingBatch, Trace.emit]
      · cases hbatch
  | flushLast trace exit hstack hbuffer =>
      obtain hbatch | hbatch := hbatch
      · cases hbatch
        exact hbuffer
      · cases hbatch
  | send trace sent answer =>
      obtain hbatch | hbatch := hbatch
      · cases hbatch
      · cases answer <;> cases hbatch
        exact hhand _ rfl
  | sendLast trace sent answer =>
      obtain hbatch | hbatch := hbatch
      · cases hbatch
      · cases answer <;> cases hbatch
        exact hhand _ rfl
  | _ => obtain hbatch | hbatch := hbatch <;> cases hbatch

end PhpThread

theorem recordsOf_flushIntoPendingBatch (arc : ArcId) (t : Trace) :
    t.flushIntoPendingBatch.2.recordsOf arc + t.flushIntoPendingBatch.1.recordsOf arc =
      t.recordsOf arc := by
  by_cases harc : t.dropCounter = arc
  · simp [Trace.recordsOf, PendingBatch.recordsOf, Trace.flushIntoPendingBatch, harc,
      Nat.add_comm]
  · simp [Trace.recordsOf, PendingBatch.recordsOf, Trace.flushIntoPendingBatch, harc]

theorem recordsOf_flushLast (arc : ArcId) {t : Trace} (hstack : t.stack = []) :
    t.flushIntoPendingBatch.1.recordsOf arc = t.recordsOf arc := by
  rw [← recordsOf_flushIntoPendingBatch arc t]
  simp [Trace.recordsOf, Trace.flushIntoPendingBatch, hstack]

theorem recordsOf_emit (arc : ArcId) {t : Trace} {frame : CallFrame} {stack : List CallFrame}
    (hstack : t.stack = frame :: stack) (record : CallRecord) :
    (t.emit stack record).recordsOf arc = t.recordsOf arc := by
  simp only [Trace.recordsOf, Trace.emit, hstack, List.length_append, List.length_cons,
    List.length_nil]
  split <;> omega

theorem recordsOf_endWouldAccept (arc : ArcId) (t : Trace) :
    (endWouldAccept t).2.recordsOf arc = t.recordsOf arc := by
  simp [Trace.recordsOf]

theorem recordsOf_pushFrame (arc : ArcId) (t : Trace) (fnId : ℕ) (entry : EntrySnapshots)
    (dictionary : Dictionary) (bytes : ℕ) :
    (t.pushFrame fnId entry dictionary bytes).recordsOf arc =
      t.recordsOf arc + if t.dropCounter = arc then 1 else 0 := by
  by_cases harc : t.dropCounter = arc
  · simp [Trace.recordsOf, Trace.pushFrame, harc, Nat.add_assoc]
  · simp [Trace.recordsOf, Trace.pushFrame, harc]

theorem account_trySendBatch {answer : TrySend} (horderly : answer = .ok ∨ answer = .full)
    (arc : ArcId) (batch : PendingBatch) (shared : Shared) :
    batchWeight (PendingBatch.recordsOf arc) (answer.queued batch) +
        (trySendBatch answer batch shared).dropCounters arc =
      batch.recordsOf arc + shared.dropCounters arc := by
  rw [dropCounters_trySendBatch]
  rcases horderly with rfl | rfl
  · simp [TrySend.queued]
  · simp [TrySend.queued, PendingBatch.recordsOf, eq_comm, Nat.add_comm]

/-- **Every step of a thread balances**: what it has in flight, what it puts in the channel and
what the drop counter gains are what it had, and the begin that it observes. -/
theorem account_thread {fresh : ArcId} {shared : Shared} {t : PhpThread} {e : PhpEvent}
    {move : PhpMove} (h : PhpThread.Step fresh shared t e move) (horderly : t.orderly e = true)
    (hfresh : shared.dropCounters fresh = 0) (arc : ArcId) :
    move.thread.recordsOf arc + batchWeight (PendingBatch.recordsOf arc) move.queued +
        move.shared.dropCounters arc =
      t.recordsOf arc + shared.dropCounters arc + if t.observesBegin arc e then 1 else 0 := by
  cases h with
  | rinit =>
      have halloc : (shared.allocCounter fresh).dropCounters arc = shared.dropCounters arc := by
        rw [Shared.dropCounters_allocCounter]
        split
        · rw [‹arc = fresh›, hfresh]
        · rfl
      simp [PhpThread.recordsOf, Trace.recordsOf, Trace.new, halloc, PhpThread.observesBegin]
  | rinitStale => cases horderly
  | ignore e hignores => cases e <;> simp [PhpThread.observesBegin]
  | dropBegin trace =>
      have hkeep : (Worker.mk trace shared).deepen.recordDrop.trace.recordsOf arc =
          trace.recordsOf arc := rfl
      simp only [PhpThread.recordsOf, hkeep, Shared.dropCounters_fetchAdd, batchWeight_none,
        PhpThread.observesBegin, decide_eq_true_eq, eq_comm (a := arc)]
      omega
  | admitBegin trace =>
      have hkeep : (Worker.mk trace shared).deepen.trace.recordsOf arc = trace.recordsOf arc := rfl
      have harc : (Worker.mk trace shared).deepen.trace.dropCounter = trace.dropCounter := rfl
      simp only [PhpThread.recordsOf, hkeep, harc, batchWeight_none, PhpThread.observesBegin,
        decide_eq_true_eq]
      omega
  | acceptBegin trace =>
      simp [PhpThread.recordsOf, recordsOf_pushFrame, PhpThread.observesBegin]
  | quietEnd =>
      simp [PhpThread.recordsOf, recordsOf_endWouldAccept, PhpThread.observesBegin]
  | emitEnd trace exit abnormal frame stack hstack =>
      simp [PhpThread.recordsOf, recordsOf_emit arc ((stack_endWouldAccept trace).trans hstack),
        recordsOf_endWouldAccept, PhpThread.observesBegin]
  | flushEnd trace exit abnormal frame stack hstack =>
      simp [PhpThread.recordsOf, recordsOf_flushIntoPendingBatch,
        recordsOf_emit arc ((stack_endWouldAccept trace).trans hstack),
        recordsOf_endWouldAccept, PhpThread.observesBegin]
  | send trace batch answer =>
      have hsend := account_trySendBatch (by simpa [PhpThread.orderly] using horderly) arc batch
        shared
      simp only [PhpThread.recordsOf, PhpThread.observesBegin, Bool.false_eq_true, ↓reduceIte]
      omega
  | rshutdown => simp [PhpThread.recordsOf, PhpThread.observesBegin]
  | drainFrame trace exit frame stack hstack =>
      simp [PhpThread.recordsOf, recordsOf_emit arc hstack, PhpThread.observesBegin]
  | skipFlush trace exit hstack hbuffer =>
      simp [PhpThread.recordsOf, Trace.recordsOf, hstack, hbuffer, PhpThread.observesBegin]
  | flushLast trace exit hstack =>
      simp [PhpThread.recordsOf, recordsOf_flushLast arc hstack, PhpThread.observesBegin]
  | sendLast trace batch answer =>
      have hsend := account_trySendBatch (by simpa [PhpThread.orderly] using horderly) arc batch
        shared
      simp only [PhpThread.recordsOf, PhpThread.observesBegin, Bool.false_eq_true, ↓reduceIte]
      omega
  | release => simp [PhpThread.recordsOf, PhpThread.observesBegin]

/-! ### The shipper -/

namespace Shipper

/-- The records of this trace in batches whose outcome was `Sent`. -/
def sentRecords (s : Shipper) (arc : ArcId) : ℕ :=
  ((s.settled.filter fun x => x.outcome = .sent).map fun x => x.batch.recordsOf arc).sum

/-- The records of this trace in batches that the deadline abandoned. -/
def abandonedRecords (s : Shipper) (arc : ArcId) : ℕ :=
  (s.abandoned.map (PendingBatch.recordsOf arc)).sum

/-- Where the shipper's side of the ledger has the entries of this trace. -/
def account (s : Shipper) (arc : ArcId) : ℕ :=
  s.shared.dropCounters arc + s.sentRecords arc + s.abandonedRecords arc +
    queueWeight (PendingBatch.recordsOf arc) s.channel +
    batchWeight (PendingBatch.recordsOf arc) s.pc.batch

/-- The step takes a batch out of the channel to abandon it. -/
def abandonsBatch (s : Shipper) : ShipperEvent → Bool
  | .tryRecv => s.channel.head?.any fun message => message.batch?.isSome
  | _ => false

theorem sentRecords_settled {s s' : Shipper} {batch : PendingBatch} {droppedRecords : ℕ}
    {outcome : OnBatchOutcome}
    (hshared : s'.shared = (bumpDropCounterOnDrop batch outcome s.shared).sub batch.sizeEstimate)
    (hsettled : s'.settled = s.settled ++ [⟨batch, droppedRecords, outcome⟩]) (arc : ArcId) :
    s'.shared.dropCounters arc + s'.sentRecords arc =
      s.shared.dropCounters arc + s.sentRecords arc + batch.recordsOf arc := by
  unfold sentRecords
  rw [hshared, hsettled, Shared.dropCounters_sub, List.filter_append, List.map_append,
    List.sum_append]
  cases outcome with
  | sent => simp [bumpDropCounterOnDrop, Nat.add_assoc]
  | dropped reason attempts =>
      simp [bumpDropCounterOnDrop, Shared.dropCounters_fetchAdd, PendingBatch.recordsOf, eq_comm,
        Nat.add_right_comm]

/-- **Every step of the shipper balances**: a settled batch is sent or counted, and an abandoned
one is remembered. -/
theorem account_shipper {env : NoticeEnv} {s s' : Shipper} {e : ShipperEvent}
    (h : Step env s e s') (arc : ArcId) : s'.account arc = s.account arc := by
  obtain ⟨left, heffect, hweight⟩ := effect_step h
  have hleft := hweight (PendingBatch.recordsOf arc)
  unfold heldWeight at hleft
  unfold account
  cases heffect with
  | quiet hshared hsettled habandoned =>
      rw [batchWeight_none] at hleft
      rw [sentRecords, sentRecords, abandonedRecords, abandonedRecords, hshared, hsettled,
        habandoned]
      omega
  | settled batch droppedRecords outcome hshared hsettled habandoned =>
      have hsent := sentRecords_settled hshared hsettled arc
      rw [batchWeight_some] at hleft
      rw [abandonedRecords, abandonedRecords, habandoned]
      omega
  | abandoned batch hshared hsettled habandoned =>
      rw [batchWeight_some] at hleft
      rw [sentRecords, sentRecords, abandonedRecords, abandonedRecords, hshared, hsettled,
        habandoned, Shared.dropCounters_sub, List.map_append, List.sum_append,
        List.map_singleton, List.sum_singleton]
      omega

theorem mem_channel_step {env : NoticeEnv} {s s' : Shipper} {e : ShipperEvent}
    (h : Step env s e s') {message : ShipperMessage} (hmessage : message ∈ s'.channel) :
    message ∈ s.channel := by
  cases h with
  | recvBatch deadline batch rest hpc hchannel =>
      rw [hchannel]
      exact List.mem_cons_of_mem _ hmessage
  | recvDrain deadline entry rest hpc hchannel =>
      rw [hchannel]
      exact List.mem_cons_of_mem _ hmessage
  | handled batch deadline droppedRecords outcome => cases outcome <;> exact hmessage
  | abandonBatch abandoned batch rest hpc hchannel =>
      rw [hchannel]
      exact List.mem_cons_of_mem _ hmessage
  | skipDrain abandoned entry rest hpc hchannel =>
      rw [hchannel]
      exact List.mem_cons_of_mem _ hmessage
  | _ => exact hmessage

theorem abandoned_step {env : NoticeEnv} {s s' : Shipper} {e : ShipperEvent}
    (h : Step env s e s') :
    (s'.abandoned = [] ↔ s.abandoned = [] ∧ s.abandonsBatch e = false) ∧
      ∀ batch ∈ s'.abandoned, batch ∈ s.abandoned ∨ .batch batch ∈ s.channel := by
  cases h with
  | handled batch deadline droppedRecords outcome =>
      cases outcome <;> exact ⟨by simp [drainedConsume, abandonsBatch], fun _ => .inl⟩
  | abandonBatch abandoned batch rest hpc hchannel =>
      refine ⟨by simp [abandonsBatch, hchannel, ShipperMessage.batch?], fun other hother => ?_⟩
      rcases List.mem_append.mp hother with hold | hnew
      · exact .inl hold
      · exact .inr (by rw [hchannel, List.mem_singleton.mp hnew]; exact List.mem_cons_self)
  | skipDrain abandoned entry rest hpc hchannel =>
      exact ⟨by simp [abandonsBatch, hchannel, ShipperMessage.batch?], fun _ => .inl⟩
  | giveUp abandoned hpc hchannel => exact ⟨by simp [abandonsBatch, hchannel], fun _ => .inl⟩
  | _ => exact ⟨by simp [abandonsBatch], fun _ => .inl⟩

end Shipper

/-! ### The process -/

namespace System

variable {ι : Type*}

def observesBegin (arc : ArcId) (s : System ι) : SystemEvent ι → Bool
  | .php i e => (s.threads i).observesBegin arc e
  | _ => false

def orderly (s : System ι) : SystemEvent ι → Bool
  | .php i e => (s.threads i).orderly e
  | _ => true

def abandonsBatch (s : System ι) : SystemEvent ι → Bool
  | .shipper e => s.toShipper.abandonsBatch e
  | _ => false

/-- The records of this trace in batches that were lost with the receiver. -/
def lostRecords (s : System ι) (arc : ArcId) : ℕ := (s.lost.map (PendingBatch.recordsOf arc)).sum

def Allocated (s : System ι) : Prop :=
  ∀ i arc, (s.threads i).dropCounter? = some arc → arc < s.nextArc

theorem Allocated.observesBegin_eq_false {s : System ι} (h : s.Allocated) {arc : ArcId}
    (harc : s.nextArc ≤ arc) (e : SystemEvent ι) : s.observesBegin arc e = false := by
  cases e with
  | php i e =>
      apply Bool.eq_false_iff.mpr
      intro hobserves
      have hlt := h i arc (PhpThread.dropCounter_of_observesBegin hobserves)
      exact absurd hlt (Nat.not_lt.mpr harc)
  | _ => rfl

variable [DecidableEq ι] {env : NoticeEnv} {s s' : System ι} {e : SystemEvent ι}

theorem nextArc_le_step (hstep : Step env s e s') : s.nextArc ≤ s'.nextArc := by
  cases hstep with
  | php => exact Nat.le_add_right _ _
  | shipper => exact Nat.le_refl _
  | environment e s' drains hphp hshipper hframe => exact hframe.nextArc.ge

theorem Allocated.step (h : s.Allocated) (hstep : Step env s e s') : s'.Allocated := by
  intro i arc harc
  cases hstep with
  | php j e move hmove =>
      have hle : s.nextArc ≤ (s.moved j e move).nextArc := Nat.le_add_right _ _
      by_cases hij : i = j
      · subst hij
        rw [threads_moved_self] at harc
        rcases PhpThread.dropCounter_step hmove harc with hold | ⟨rfl, halloc⟩
        · exact Nat.lt_of_lt_of_le (h i arc hold) hle
        · show s.nextArc < s.nextArc + allocates e
          rw [halloc]
          exact Nat.lt_succ_self _
      · rw [threads_moved_of_ne s hij] at harc
        exact Nat.lt_of_lt_of_le (h i arc harc) hle
  | shipper e shipper => exact h i arc harc
  | environment e s' drains hphp hshipper hframe =>
      rw [hframe.threads] at harc
      rw [hframe.nextArc]
      exact h i arc harc

/-! ### The batches on their way -/

/-- Every batch on its way holds a record, also those that were abandoned. -/
structure Delivery (s : System ι) : Prop where
  hand : ∀ i batch, (s.threads i).hand = some batch → batch.calls ≠ []
  channel : ∀ batch, .batch batch ∈ s.channel → batch.calls ≠ []
  abandoned : ∀ batch ∈ s.abandoned, batch.calls ≠ []

omit [DecidableEq ι] in
theorem delivery_init : Delivery (init ι) where
  hand _ _ h := by cases h
  channel _ h := by cases h
  abandoned _ h := by cases h

section delivery

theorem Delivery.php (h : Delivery s) {i : ι} {e : PhpEvent} {move : PhpMove}
    (hmove : PhpThread.Step s.nextArc s.shared (s.threads i) e move) :
    Delivery (s.moved i e move) := by
  have hnew : ∀ {batch}, move.thread.hand = some batch ∨ move.queued = some batch →
      batch.calls ≠ [] := PhpThread.calls_ne_nil_step hmove (h.hand i)
  refine ⟨fun j batch hbatch => ?_, fun batch hbatch => ?_, h.abandoned⟩
  · by_cases hij : j = i
    · subst hij
      rw [threads_moved_self] at hbatch
      exact hnew (.inl hbatch)
    · rw [threads_moved_of_ne s hij] at hbatch
      exact h.hand j batch hbatch
  · rcases List.mem_append.mp hbatch with hold | hqueued
    · exact h.channel batch hold
    · exact hnew (.inr (by simpa using hqueued))

omit [DecidableEq ι] in
theorem Delivery.shipper (h : Delivery s) {e : ShipperEvent} {shipper : Shipper}
    (hshipper : Shipper.Step env s.toShipper e shipper) :
    Delivery { s with toShipper := shipper } := by
  refine ⟨h.hand, fun batch hbatch => h.channel batch (Shipper.mem_channel_step hshipper hbatch),
    fun batch hbatch => ?_⟩
  rcases (Shipper.abandoned_step hshipper).2 batch hbatch with hold | hchannel
  · exact h.abandoned batch hold
  · exact h.channel batch hchannel

omit [DecidableEq ι] in
theorem Delivery.environment (h : Delivery s) {drains : List Instant}
    (hframe : Environment s s' drains) : Delivery s' := by
  refine ⟨?_, fun batch hbatch => ?_, ?_⟩
  · rw [hframe.threads]
    exact h.hand
  · rw [hframe.channel] at hbatch
    exact h.channel batch (by simpa using hbatch)
  · rw [hframe.abandoned]
    exact h.abandoned

/-- **Step lemma** for the batches. -/
theorem Delivery.step (h : Delivery s) (hstep : Step env s e s') : Delivery s' := by
  cases hstep with
  | php i e move hmove => exact h.php hmove
  | shipper e shipper hshipper => exact h.shipper hshipper
  | environment e s' drains hphp hshipper hframe => exact h.environment hframe

variable {es : List (SystemEvent ι)}

/-- **Run lemma** for the batches. -/
theorem delivery_run (h : run (step env) (init ι) es = some s) : Delivery s :=
  run_invariant (fun _ _ _ hstep ih => Delivery.step ih (step_cases hstep)) h delivery_init

theorem abandoned_system_step (hstep : Step env s e s') :
    s'.abandoned = [] ↔ s.abandoned = [] ∧ s.abandonsBatch e = false := by
  cases hstep with
  | php i e move => simp [moved, abandonsBatch]
  | shipper e shipper hshipper => exact (Shipper.abandoned_step hshipper).1
  | environment e s' drains hphp hshipper hframe =>
      have hkeep : s.abandonsBatch e = false := by
        cases e with
        | shipper e => exact absurd rfl (hshipper e)
        | _ => rfl
      simp [hframe.abandoned, hkeep]

/-- Nothing is abandoned exactly if no step abandons a batch. -/
theorem abandoned_eq_nil_iff (h : run (step env) (init ι) es = some s) :
    s.abandoned = [] ↔ Along (step env) (fun s e => s.abandonsBatch e = false) (init ι) es := by
  have hiff := run_iff_along (fun _ _ _ hstep => abandoned_system_step (step_cases hstep)) h
  rwa [and_iff_right (show (init ι).abandoned = [] from rfl)] at hiff

theorem records_eq_zero_iff {batches : List PendingBatch}
    (h : ∀ batch ∈ batches, batch.calls ≠ []) :
    (∀ arc, (batches.map (PendingBatch.recordsOf arc)).sum = 0) ↔ batches = [] := by
  constructor
  · intro hzero
    apply List.eq_nil_iff_forall_not_mem.mpr
    intro batch hbatch
    have hrecords : batch.recordsOf batch.dropCounter = 0 :=
      List.sum_eq_zero_iff_forall_eq_nat.mp (hzero batch.dropCounter) _ (List.mem_map_of_mem hbatch)
    rw [PendingBatch.recordsOf, if_pos rfl] at hrecords
    exact h batch hbatch (List.length_eq_zero_iff.mp hrecords)
  · rintro rfl arc
    rfl

omit [DecidableEq ι] in
theorem Delivery.lost (h : Delivery s) : ∀ batch ∈ s.lost, batch.calls ≠ [] := by
  intro batch hbatch
  unfold System.lost at hbatch
  split at hbatch
  · cases hbatch
  · obtain ⟨message, hmessage, hthis⟩ := List.mem_filterMap.mp hbatch
    cases message <;> cases hthis
    exact h.channel batch hmessage

/-- Some trace has abandoned or lost records exactly when some step abandons or destroys a
batch. -/
theorem missing_eq_zero_iff (h : run (step env) (init ι) es = some s) :
    (∀ arc, s.abandonedRecords arc + s.lostRecords arc = 0) ↔
      Along (step env) (fun s e => s.abandonsBatch e = false ∧ s.destroysBatch e = false)
        (init ι) es := by
  have hdelivery := delivery_run h
  rw [along_and, ← abandoned_eq_nil_iff h, ← lost_eq_nil_iff h,
    ← records_eq_zero_iff hdelivery.abandoned, ← records_eq_zero_iff hdelivery.lost, ← forall_and]
  exact forall_congr' fun arc => Nat.add_eq_zero_iff

end delivery

/-! ### The entries -/

variable [Fintype ι]

omit [DecidableEq ι] in
/-- Where the ledger has the entries of this trace. -/
def account (s : System ι) (arc : ArcId) : ℕ :=
  total (PhpThread.recordsOf arc) s.threads + s.toShipper.account arc

/-- **Step lemma**: a step enters the begin that it observes and loses no entry. -/
theorem account_step (hstep : Step env s e s') (horderly : s.orderly e = true)
    (hfresh : s.shared.dropCounters s.nextArc = 0) (arc : ArcId) :
    s'.account arc = s.account arc + if s.observesBegin arc e then 1 else 0 := by
  cases hstep with
  | php i e move hmove =>
      have hthread := account_thread hmove horderly hfresh arc
      have hupdate := total_update (PhpThread.recordsOf arc) s.threads i move.thread
      show (s.moved i e move).account arc =
        s.account arc + if (s.threads i).observesBegin arc e then 1 else 0
      simp only [account, moved, Shipper.account, Shipper.sentRecords, Shipper.abandonedRecords,
        queueWeight_append, queueWeight_toList]
      omega
  | shipper e shipper hshipper =>
      simp only [account, Shipper.account_shipper hshipper, observesBegin, Bool.false_eq_true,
        ↓reduceIte, Nat.add_zero]
  | environment e s' drains hphp hshipper hframe =>
      have hnone : s.observesBegin arc e = false := by
        cases e with
        | php i e => exact absurd rfl (hphp i e)
        | _ => rfl
      simp only [account, Shipper.account, Shipper.sentRecords, Shipper.abandonedRecords,
        hframe.shared, hframe.threads, hframe.channel, hframe.pc, hframe.settled,
        hframe.abandoned, queueWeight_append, queueWeight_drains, hnone, Bool.false_eq_true,
        ↓reduceIte, Nat.add_zero]

/-- The invariant of the ledger after the events `es`. -/
structure Ledger (env : NoticeEnv) (es : List (SystemEvent ι)) (s : System ι) : Prop where
  entries : ∀ arc, s.account arc = tally (step env) (observesBegin arc) (init ι) es
  unused : ∀ arc, s.nextArc ≤ arc → s.account arc = 0
  allocated : s.Allocated

theorem ledger_init : Ledger env [] (init ι) := by
  have hzero : ∀ arc, (init ι).account arc = 0 := by
    intro arc
    have htotal : total (PhpThread.recordsOf arc) (init ι).threads = 0 :=
      total_eq_zero _ fun _ => rfl
    rw [account, htotal]
    rfl
  exact ⟨hzero, fun arc _ => hzero arc, fun i arc h => by cases h⟩

/-- **Run lemma**: in every orderly run the ledger has exactly the observed begins. -/
theorem ledger_run {es : List (SystemEvent ι)} (h : run (step env) (init ι) es = some s)
    (horderly : Along (step env) (fun s e => s.orderly e = true) (init ι) es) :
    Ledger env es s := by
  refine run_induction (P := fun es s =>
    Along (step env) (fun s e => s.orderly e = true) (init ι) es → Ledger env es s)
    (fun _ => ledger_init) ?_ h horderly
  intro es s e s' hrun ih hstep horderly
  obtain ⟨hbefore, hthis⟩ := along_append.mp horderly
  obtain ⟨hentries, hunused, hallocated⟩ := ih hbefore
  have hcases := step_cases hstep
  have hfresh : s.shared.dropCounters s.nextArc = 0 := by
    have hzero := hunused s.nextArc (Nat.le_refl _)
    simp only [account, Shipper.account] at hzero
    omega
  have haccount := account_step hcases (hthis s hrun).1 hfresh
  refine ⟨fun arc => ?_, fun arc harc => ?_, hallocated.step hcases⟩
  · rw [haccount, hentries, tally_snoc _ hrun]
  · have hold : s.nextArc ≤ arc := (nextArc_le_step hcases).trans harc
    rw [haccount, hunused arc hold, hallocated.observesBegin_eq_false hold]
    rfl

omit [DecidableEq ι] in
/-- At rest every entry is dropped, sent, abandoned or lost. -/
theorem account_at_rest (hreleased : ∀ i, (s.threads i).released = true)
    (hreturned : s.receiverAlive = false) (arc : ArcId) :
    s.account arc =
      s.sentRecords arc + s.shared.dropCounters arc + s.abandonedRecords arc +
        s.lostRecords arc := by
  have hthreads : total (PhpThread.recordsOf arc) s.threads = 0 := by
    apply total_eq_zero
    intro i
    have hthis := hreleased i
    cases hthread : s.threads i with
    | noTrace => rfl
    | _ =>
        rw [hthread] at hthis
        cases hthis
  have hpc : s.pc.batch = none := by
    cases hpc : s.pc with
    | returned exit => rfl
    | _ => simp [receiverAlive, hpc] at hreturned
  have hchannel : queueWeight (PendingBatch.recordsOf arc) s.channel = s.lostRecords arc := by
    rw [queueWeight_channel, queued, hreturned, lostRecords]
    exact Nat.zero_add _
  rw [account, hthreads, Shipper.account, hchannel, hpc]
  simp only [batchWeight_none]
  omega

/-- **No silent loss, up to abandonment and the last moment**: in every orderly run that comes to
rest (all traces released, the loop returned), the begins observed for each trace are the records
sent and the final drop counter, if and only if no batch was abandoned at the deadline and the
receiver was not dropped with a batch in its channel. -/
theorem ledger_balanced_iff {es : List (SystemEvent ι)} (h : run (step env) (init ι) es = some s)
    (horderly : Along (step env) (fun s e => s.orderly e = true) (init ι) es)
    (hreleased : ∀ i, (s.threads i).released = true) (hreturned : s.receiverAlive = false) :
    (∀ arc, tally (step env) (observesBegin arc) (init ι) es =
        s.sentRecords arc + s.shared.dropCounters arc) ↔
      Along (step env) (fun s e => s.abandonsBatch e = false ∧ s.destroysBatch e = false)
        (init ι) es := by
  have hentries := (ledger_run h horderly).entries
  rw [← missing_eq_zero_iff h]
  refine forall_congr' fun arc => ?_
  rw [← hentries, account_at_rest hreleased hreturned]
  omega

/-- Two requests: a begin dropped at the depth limit, a batch refused by the full channel, a
batch sent, and a batch whose retries are exhausted in the drain phase. -/
def lossyRun : List (SystemEvent (Fin 1)) :=
  phpSteps ([rinitOf ⟨1, 4096, 1, 4096⟩, .beginGate .lazy (callSiteOf "f"),
      .beginAccept (entryAt 1), .beginGate .owning (callSiteOf "g"), .endCall (exitAt 2) false,
      .endCall (exitAt 3) false, .trySend .full] ++ callOf "h" ++
      [.trySend .ok, .rshutdown (exitAt 4), .drain, .release]) ++
    phpSteps (rinitOf ⟨1, 4096, 9, 4096⟩ :: callOf "h" ++
      [.rshutdown (exitAt 5), .drain, .trySend .ok, .release]) ++
    [.shipper .loop, .shipper .recv, .shipper .encode, .shipper (.handled .sent),
      .mshutdown (.takeSender 5), .mshutdown .publishDrainDeadline, .shipper .loop,
      .mshutdown (.sendDrain true), .shipper .recv, .shipper .encode,
      .shipper (.handled (.dropped (.httpStatus 500) 4)), .mshutdown .dropSender,
      .shipper .recv, .shipper .recv, .mshutdown .join]

theorem ledger_balanced_iff_lossy :
    ∃ s, run (step noticeEnvOf) (init (Fin 1)) lossyRun = some s ∧
      ∀ arc, tally (step noticeEnvOf) (observesBegin arc) (init (Fin 1)) lossyRun =
        s.sentRecords arc + s.shared.dropCounters arc :=
  ⟨(run (step noticeEnvOf) (init (Fin 1)) lossyRun).get (by decide), (Option.some_get _).symm,
    (ledger_balanced_iff (Option.some_get _).symm (by decide) (by decide) (by decide)).mpr
      (by decide)⟩

/-- One request whose only batch is sent after `recv_deadline` has looked into the channel for
the last time, and before it reads the clock. -/
def lateRun : List (SystemEvent (Fin 1)) :=
  phpSteps (rinitOf ⟨8, 4096, 1, 4096⟩ :: callOf "f") ++
    [.mshutdown (.takeSender 5), .mshutdown .publishDrainDeadline, .shipper .loop, .tick 5] ++
    phpSteps [.trySend .ok, .rshutdown (exitAt 3), .drain, .release] ++
    [.shipper .timeout, .mshutdown (.sendDrain true), .mshutdown .dropSender, .shipper .tryRecv,
      .shipper .tryRecv, .shipper .tryRecv, .shipper .dropReceiver, .mshutdown .join]

/-- In `lateRun` one begin is observed, its record is not sent, and the drop counter of the
trace stays at zero. -/
theorem not_every_ledger_balanced :
    ¬ ∀ (es : List (SystemEvent (Fin 1))) (s : System (Fin 1)),
      run (step noticeEnvOf) (init (Fin 1)) es = some s →
      Along (step noticeEnvOf) (fun s e => s.orderly e = true) (init (Fin 1)) es →
      (∀ i, (s.threads i).released = true) → s.receiverAlive = false →
      ∀ arc, tally (step noticeEnvOf) (observesBegin arc) (init (Fin 1)) es =
        s.sentRecords arc + s.shared.dropCounters arc := by
  intro h
  have hbalanced := h lateRun _ (Option.some_get (by decide)).symm (by decide) (by decide)
    (by decide) 0
  revert hbalanced
  decide

end System

end PhpAnalyze
