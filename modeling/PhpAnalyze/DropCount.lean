import PhpAnalyze.Ledger

/-! # What `dropped_records` counts

The drop counter of a trace is bumped by its thread, for the begins that a gate drops and for
a batch that a full channel refuses, and by the shipper, for a batch whose outcome is
`Dropped`.  Nothing else changes it: an allocation takes a counter that is still zero.  So the
counter is at every moment the sum of these three (`counted_run`), and what a batch is
stamped with, read when it is encoded, is this sum at that moment
(`dropped_records_sound`). -/

namespace PhpAnalyze

open Machine

namespace PhpThread

/-- The begins of this trace that a gate drops at this step. -/
def gateDrops (arc : ArcId) (shared : Shared) : PhpThread → PhpEvent → ℕ
  | .live trace, .beginGate path site =>
      if trace.dropCounter = arc ∧ (beginGateOn path ⟨trace, shared⟩ site).1 = false then 1 else 0
  | _, _ => 0

/-- The records of this trace that a full channel refuses at this step. -/
def refusedRecords (arc : ArcId) : PhpThread → PhpEvent → ℕ
  | .handing _ batch, .trySend .full => batch.recordsOf arc
  | .handingLast _ batch, .trySend .full => batch.recordsOf arc
  | _, _ => 0

variable {fresh : ArcId} {shared : Shared} {t : PhpThread} {e : PhpEvent} {move : PhpMove}

theorem dropCounters_trySend (answer : TrySend) (batch : PendingBatch) (shared : Shared)
    (arc : ArcId) :
    (trySendBatch answer batch shared).dropCounters arc =
      shared.dropCounters arc + if answer = .full then batch.recordsOf arc else 0 := by
  rw [dropCounters_trySendBatch]
  by_cases harc : arc = batch.dropCounter
  · simp [PendingBatch.recordsOf, harc]
  · simp [PendingBatch.recordsOf, harc, Ne.symm harc]

theorem dropCounters_alloc (hfresh : shared.dropCounters fresh = 0) (arc : ArcId) :
    (shared.allocCounter fresh).dropCounters arc = shared.dropCounters arc := by
  rw [Shared.dropCounters_allocCounter]
  split
  · rw [‹arc = fresh›, hfresh]
  · rfl

theorem dropCounters_beginGate {trace : Trace} {path : BeginPath} {site : RawCallSite}
    (h : (PhpThread.live trace).step fresh shared (.beginGate path site) = some move)
    (arc : ArcId) :
    move.shared.dropCounters arc = shared.dropCounters arc +
      gateDrops arc shared (.live trace) (.beginGate path site) := by
  rcases beginGate_cases h with ⟨hgate, rfl⟩ | ⟨hgate, rfl⟩
  · simp [gateDrops, hgate]
  · simp [gateDrops, hgate, Shared.dropCounters_fetchAdd, eq_comm]

/-- **What a step of a thread adds to the drop counters.** -/
theorem dropCounters_step (h : t.step fresh shared e = some move)
    (hfresh : shared.dropCounters fresh = 0) (arc : ArcId) :
    move.shared.dropCounters arc =
      shared.dropCounters arc + (t.gateDrops arc shared e + t.refusedRecords arc e) := by
  cases step_cases h with
  | dropBegin trace path site => exact dropCounters_beginGate h arc
  | admitBegin trace path site => exact dropCounters_beginGate h arc
  | rinit => exact dropCounters_alloc hfresh arc
  | rinitStale stale =>
      have hfresh' : (shared.sub stale.bufferEstimatedBytes).dropCounters fresh = 0 := by
        rw [Shared.dropCounters_sub, hfresh]
      refine (dropCounters_alloc hfresh' arc).trans ?_
      rw [Shared.dropCounters_sub]
      rfl
  | send trace batch answer =>
      refine (dropCounters_trySend answer batch shared arc).trans ?_
      cases answer <;> simp [gateDrops, refusedRecords]
  | sendLast trace batch answer =>
      refine (dropCounters_trySend answer batch shared arc).trans ?_
      cases answer <;> simp [gateDrops, refusedRecords]
  | release trace =>
      show (shared.sub trace.bufferEstimatedBytes).dropCounters arc = _
      rw [Shared.dropCounters_sub]
      rfl
  | ignore e hignores => cases e <;> rfl
  | _ => rfl

theorem hand_step (h : Step fresh shared t e move) {batch : PendingBatch}
    (hbatch : move.thread.hand = some batch) :
    t.hand = some batch ∨ t.dropCounter? = some batch.dropCounter := by
  cases h with
  | flushEnd trace =>
      cases hbatch
      exact .inr (by simp [dropCounter?, Trace.flushIntoPendingBatch, Trace.emit])
  | flushLast trace =>
      cases hbatch
      exact .inr rfl
  | _ => cases hbatch

theorem queued_step (h : Step fresh shared t e move) {batch : PendingBatch}
    (hbatch : move.queued = some batch) : t.hand = some batch := by
  cases h with
  | send trace sent answer | sendLast trace sent answer =>
      cases answer <;> cases hbatch
      rfl
  | _ => cases hbatch

end PhpThread

/-! ### The shipper -/

namespace Shipper

def droppedOutcomes (s : Shipper) (arc : ArcId) : ℕ :=
  ((s.settled.filter fun x => x.outcome ≠ .sent).map fun x => x.batch.recordsOf arc).sum

variable {env : NoticeEnv} {s s' : Shipper} {e : ShipperEvent}

/-- **What a step of the shipper adds to the drop counters** is in the outcomes. -/
theorem dropCounters_step (h : Step env s e s') (arc : ArcId) :
    s'.shared.dropCounters arc + s.droppedOutcomes arc =
      s.shared.dropCounters arc + s'.droppedOutcomes arc := by
  obtain ⟨left, heffect, -⟩ := held_step h
  unfold droppedOutcomes
  cases heffect with
  | quiet hshared hsettled => rw [hshared, hsettled]
  | settled batch droppedRecords outcome hshared hsettled =>
      rw [hshared, hsettled, Shared.dropCounters_sub, List.filter_append, List.map_append,
        List.sum_append]
      cases outcome with
      | sent => simp [bumpDropCounterOnDrop]
      | dropped reason attempts =>
          simp [bumpDropCounterOnDrop, Shared.dropCounters_fetchAdd, PendingBatch.recordsOf,
            eq_comm]
          omega
  | abandoned batch hshared hsettled => rw [hshared, hsettled, Shared.dropCounters_sub]

theorem droppedOutcomes_le_step (h : Step env s e s') (arc : ArcId) :
    s.droppedOutcomes arc ≤ s'.droppedOutcomes arc := by
  obtain ⟨left, heffect, -⟩ := held_step h
  unfold droppedOutcomes
  cases heffect with
  | quiet hshared hsettled => rw [hsettled]
  | settled batch droppedRecords outcome hshared hsettled =>
      rw [hsettled, List.filter_append, List.map_append, List.sum_append]
      exact Nat.le_add_right _ _
  | abandoned batch hshared hsettled => rw [hsettled]

theorem dropCounters_step_of_ne (h : Step env s e s') {arc : ArcId}
    (harc : ∀ batch ∈ s.held, arc ≠ batch.dropCounter) :
    s'.shared.dropCounters arc = s.shared.dropCounters arc := by
  obtain ⟨left, heffect, hheld⟩ := held_step h
  cases heffect with
  | quiet hshared => rw [hshared]
  | settled batch droppedRecords outcome hshared =>
      have hmem : batch ∈ s.held := by
        rw [hheld]
        exact List.mem_append_left _ (List.mem_singleton_self _)
      have hne := harc batch hmem
      rw [hshared, Shared.dropCounters_sub]
      cases outcome <;> simp [bumpDropCounterOnDrop, Shared.dropCounters_fetchAdd, hne]
  | abandoned batch hshared => rw [hshared, Shared.dropCounters_sub]

theorem mem_held_step (h : Step env s e s') {batch : PendingBatch} (hbatch : batch ∈ s'.held) :
    batch ∈ s.held := by
  obtain ⟨left, -, hheld⟩ := held_step h
  rw [hheld]
  exact List.mem_append_right _ hbatch

end Shipper

/-! ### The process -/

namespace System

variable {ι : Type*}

def gateDrops (arc : ArcId) (s : System ι) : SystemEvent ι → ℕ
  | .php i e => (s.threads i).gateDrops arc s.shared e
  | _ => 0

def refusedRecords (arc : ArcId) (s : System ι) : SystemEvent ι → ℕ
  | .php i e => (s.threads i).refusedRecords arc e
  | _ => 0

/-- The batch is in the hand of a thread, in the channel or with the shipper. -/
def OnItsWay (s : System ι) (batch : PendingBatch) : Prop :=
  (∃ i, (s.threads i).hand = some batch) ∨ batch ∈ s.toShipper.held

variable [DecidableEq ι] {env : NoticeEnv} {s s' : System ι} {e : SystemEvent ι}

theorem onItsWay_step (hstep : Step env s e s') {batch : PendingBatch} (h : s'.OnItsWay batch) :
    s.OnItsWay batch ∨ ∃ i, (s.threads i).dropCounter? = some batch.dropCounter ∧
      (s'.threads i).hand = some batch := by
  cases hstep with
  | php i e move hmove =>
      rcases h with ⟨j, hhand⟩ | hheld
      · by_cases hij : j = i
        · subst hij
          have hhand' := hhand
          rw [threads_moved_self] at hhand'
          rcases PhpThread.hand_step hmove hhand' with hold | hnew
          · exact .inl (.inl ⟨j, hold⟩)
          · exact .inr ⟨j, hnew, hhand⟩
        · rw [threads_moved_of_ne s hij] at hhand
          exact .inl (.inl ⟨j, hhand⟩)
      · have hheld' : batch ∈ s.toShipper.held ∨ move.queued = some batch := by
          simp only [Shipper.held, moved, List.mem_append, List.filterMap_append] at hheld ⊢
          rcases hheld with hpc | hchannel | hqueued
          · exact .inl (.inl hpc)
          · exact .inl (.inr hchannel)
          · cases hq : move.queued with
            | none => simp [hq] at hqueued
            | some queued =>
                simp only [hq, Option.toList_some, List.map_cons, List.map_nil,
                  List.filterMap_cons, List.filterMap_nil, ShipperMessage.batch?,
                  List.mem_singleton] at hqueued
                exact .inr (by rw [hqueued])
        rcases hheld' with hold | hqueued
        · exact .inl (.inr hold)
        · exact .inl (.inl ⟨i, PhpThread.queued_step hmove hqueued⟩)
  | shipper e shipper hshipper =>
      rcases h with hhand | hheld
      · exact .inl (.inl hhand)
      · exact .inl (.inr (Shipper.mem_held_step hshipper hheld))
  | environment e s' drains hphp hshipper hframe =>
      rcases h with ⟨i, hhand⟩ | hheld
      · rw [hframe.threads] at hhand
        exact .inl (.inl ⟨i, hhand⟩)
      · have hdrains : (drains.map ShipperMessage.drain).filterMap ShipperMessage.batch? = [] := by
          simp [List.filterMap_eq_nil_iff, ShipperMessage.batch?]
        rw [Shipper.held, hframe.pc, hframe.channel, List.filterMap_append, hdrains,
          List.append_nil] at hheld
        exact .inl (.inr hheld)

/-- The drop counters are the drops that were counted, nobody uses a counter that is not
allocated, and every batch on its way was flushed before. -/
structure Counted (env : NoticeEnv) (es : List (SystemEvent ι)) (s : System ι) : Prop where
  counters : ∀ arc, s.shared.dropCounters arc =
    accrued (step env) (gateDrops arc) (init ι) es +
      accrued (step env) (refusedRecords arc) (init ι) es + s.droppedOutcomes arc
  fresh : ∀ arc, s.nextArc ≤ arc → s.shared.dropCounters arc = 0
  allocated : s.Allocated
  onItsWay : ∀ batch, s.OnItsWay batch → batch.dropCounter < s.nextArc
  flushed : ∀ batch, s.OnItsWay batch → ∃ flushed t i, flushed <+: es ∧
    run (step env) (init ι) flushed = some t ∧ (t.threads i).hand = some batch

theorem counted_init : Counted env [] (init ι) where
  counters := fun _ => rfl
  fresh := fun _ _ => rfl
  allocated := fun _ _ h => by cases h
  onItsWay := by
    rintro batch (⟨i, hhand⟩ | hheld)
    · cases hhand
    · cases hheld
  flushed := by
    rintro batch (⟨i, hhand⟩ | hheld)
    · cases hhand
    · cases hheld

variable {es : List (SystemEvent ι)}

theorem Counted.no_drops (h : Counted env es s) {arc : ArcId} (harc : s.nextArc ≤ arc) (i : ι)
    (e : PhpEvent) :
    (s.threads i).gateDrops arc s.shared e + (s.threads i).refusedRecords arc e = 0 := by
  have hgate : (s.threads i).gateDrops arc s.shared e = 0 := by
    unfold PhpThread.gateDrops
    split
    · have hlt := h.allocated i _ (by rw [‹s.threads i = _›]; rfl)
      rw [if_neg]
      rintro ⟨rfl, -⟩
      exact absurd hlt (Nat.not_lt.mpr harc)
    · rfl
  have hrefused : ∀ batch, (s.threads i).hand = some batch → batch.recordsOf arc = 0 := by
    intro batch hhand
    have hlt := h.onItsWay batch (.inl ⟨i, hhand⟩)
    exact if_neg (Nat.ne_of_lt (Nat.lt_of_lt_of_le hlt harc))
  rw [hgate, Nat.zero_add]
  unfold PhpThread.refusedRecords
  split
  · exact hrefused _ (by rw [‹s.threads i = _›]; rfl)
  · exact hrefused _ (by rw [‹s.threads i = _›]; rfl)
  · rfl

theorem Counted.php (h : Counted env es s) {i : ι} {e : PhpEvent} {move : PhpMove}
    (hmove : (s.threads i).step s.nextArc s.shared e = some move) (arc : ArcId) :
    (s.moved i e move).shared.dropCounters arc = s.shared.dropCounters arc +
      (s.gateDrops arc (.php i e) + s.refusedRecords arc (.php i e)) :=
  PhpThread.dropCounters_step hmove (h.fresh s.nextArc (Nat.le_refl _)) arc

/-- **What a step adds to the drop counters**, outcomes apart. -/
theorem Counted.dropCounters_step (h : Counted env es s) (hstep : s.step env e = some s')
    (arc : ArcId) :
    s'.shared.dropCounters arc + s.droppedOutcomes arc =
      s.shared.dropCounters arc + s'.droppedOutcomes arc +
        (s.gateDrops arc e + s.refusedRecords arc e) := by
  cases step_cases hstep with
  | php i e move =>
      obtain ⟨move', hmove, heq⟩ := move_of_php hstep
      have hthread := h.php hmove arc
      have hsettled : (s.moved i e move).droppedOutcomes arc = s.droppedOutcomes arc := rfl
      rw [hsettled, heq, hthread]
      omega
  | shipper e shipper hshipper => exact Shipper.dropCounters_step hshipper arc
  | environment e s' drains hphp hshipper hframe =>
      have hgate : s.gateDrops arc e + s.refusedRecords arc e = 0 := by
        cases e with
        | php i e => exact absurd rfl (hphp i e)
        | _ => rfl
      rw [hgate, Shipper.droppedOutcomes, Shipper.droppedOutcomes, hframe.shared, hframe.settled]
      rfl

theorem Counted.fresh_step (h : Counted env es s) (hstep : s.step env e = some s') {arc : ArcId}
    (harc : s.nextArc ≤ arc) : s'.shared.dropCounters arc = 0 := by
  have hzero := h.fresh arc harc
  cases step_cases hstep with
  | php i e move =>
      obtain ⟨move', hmove, heq⟩ := move_of_php hstep
      have hnone := h.no_drops harc i e
      rw [heq, h.php hmove arc, hzero, Nat.zero_add]
      exact hnone
  | shipper e shipper hshipper =>
      refine (Shipper.dropCounters_step_of_ne hshipper fun batch hbatch => ?_).trans hzero
      have hlt := h.onItsWay batch (.inr hbatch)
      exact (Nat.ne_of_lt (Nat.lt_of_lt_of_le hlt harc)).symm
  | environment e s' drains hphp hshipper hframe =>
      rw [hframe.shared]
      exact hzero

/-- **Step lemma.** -/
theorem Counted.step (h : Counted env es s) (hrun : run (System.step env) (init ι) es = some s)
    (hstep : s.step env e = some s') : Counted env (es ++ [e]) s' := by
  have hcases := step_cases hstep
  have hnext := nextArc_le_step hcases
  refine ⟨fun arc => ?_, fun arc harc => h.fresh_step hstep (hnext.trans harc),
    h.allocated.step hcases, fun batch hbatch => ?_, fun batch hbatch => ?_⟩
  · have hbefore := h.counters arc
    have hthis := h.dropCounters_step hstep arc
    rw [accrued_snoc _ hrun, accrued_snoc _ hrun]
    omega
  · rcases onItsWay_step hcases hbatch with hold | ⟨i, harc, -⟩
    · exact Nat.lt_of_lt_of_le (h.onItsWay batch hold) hnext
    · exact Nat.lt_of_lt_of_le (h.allocated i _ harc) hnext
  · rcases onItsWay_step hcases hbatch with hold | ⟨i, -, hhand⟩
    · obtain ⟨flushed, t, j, hprefix, ht⟩ := h.flushed batch hold
      exact ⟨flushed, t, j, hprefix.trans (List.prefix_append _ _), ht⟩
    · exact ⟨es ++ [e], s', i, List.prefix_refl _, run_snoc_eq_some.mpr ⟨s, hrun, hstep⟩, hhand⟩

/-- **Run lemma**: the drop counters are exact in every run. -/
theorem counted_run (h : run (step env) (init ι) es = some s) : Counted env es s :=
  run_induction (P := Counted env) counted_init
    (fun _ _ _ _ hrun ih hstep => ih.step hrun hstep) h

/-! ### The stamps -/

/-- What the batch is stamped with when it is encoded in this state. -/
def stamp (env : NoticeEnv) (s : System ι) (batch : PendingBatch) : ℕ :=
  (batchToWire env.uuidToString s.shared batch).metaFull.droppedRecords

/-- The stamp of a batch that is encoded after the events `es`. -/
structure SoundCount (env : NoticeEnv) (es : List (SystemEvent ι)) (s : System ι)
    (batch : PendingBatch) : Prop where
  flushed : ∃ flushed t i, flushed <+: es ∧ run (step env) (init ι) flushed = some t ∧
    (t.threads i).hand = some batch
  /-- The stamp has the drops before the flush, or any other moment, and the outcomes of the
  batches that were encoded before. -/
  lower : ∀ flushed, flushed <+: es →
    accrued (step env) (gateDrops batch.dropCounter) (init ι) flushed +
      accrued (step env) (refusedRecords batch.dropCounter) (init ι) flushed +
      s.droppedOutcomes batch.dropCounter ≤ stamp env s batch
  upper : stamp env s batch ≤
    accrued (step env) (gateDrops batch.dropCounter) (init ι) es +
      accrued (step env) (refusedRecords batch.dropCounter) (init ι) es +
      s.droppedOutcomes batch.dropCounter

theorem droppedOutcomes_le_run {t : System ι} (h : run (step env) s es = some t) (arc : ArcId) :
    s.droppedOutcomes arc ≤ t.droppedOutcomes arc := by
  refine run_invariant (I := fun t => s.droppedOutcomes arc ≤ t.droppedOutcomes arc) ?_ h
    (Nat.le_refl _)
  intro t e t' hstep hle
  refine hle.trans ?_
  cases step_cases hstep with
  | php i e move => exact Nat.le_refl _
  | shipper e shipper hshipper => exact Shipper.droppedOutcomes_le_step hshipper arc
  | environment e s' drains hphp hshipper hframe =>
      rw [Shipper.droppedOutcomes, Shipper.droppedOutcomes, hframe.settled]

/-- **`dropped_records` is a sound cumulative count.**  A batch that is encoded is stamped with
all that was counted for its trace: no less than the drops before its flush and the outcomes
of the batches encoded before it, and no more than was dropped by then.  A batch of the trace
that is encoded later is stamped with no less. -/
theorem dropped_records_sound (h : run (step env) (init ι) es = some s) {batch : PendingBatch}
    {deadline : Option Instant} (hpc : s.pc = .consuming batch deadline) :
    SoundCount env es s batch ∧
      ∀ fs t later deadline', run (step env) s fs = some t →
        t.pc = .consuming later deadline' → later.dropCounter = batch.dropCounter →
        stamp env s batch ≤ stamp env t later := by
  have hcounted := counted_run h
  have hstamp := hcounted.counters batch.dropCounter
  refine ⟨⟨?_, fun flushed hprefix => ?_, hstamp.le⟩, fun fs t later deadline' hfs _ harc => ?_⟩
  · refine hcounted.flushed batch (.inr ?_)
    rw [Shipper.held, hpc]
    exact List.mem_cons_self
  · obtain ⟨rest, rfl⟩ := hprefix
    have hgate := accrued_le_append (gateDrops batch.dropCounter) h
    have hrefused := accrued_le_append (refusedRecords batch.dropCounter) h
    refine Nat.le_trans ?_ hstamp.ge
    omega
  · have hrun := run_append_eq_some.mpr ⟨s, h, hfs⟩
    have hlater := (counted_run hrun).counters batch.dropCounter
    have hgate := accrued_le_append (gateDrops batch.dropCounter) hrun
    have hrefused := accrued_le_append (refusedRecords batch.dropCounter) hrun
    have houtcomes := droppedOutcomes_le_run hfs batch.dropCounter
    show s.shared.dropCounters batch.dropCounter ≤ t.shared.dropCounters later.dropCounter
    rw [harc]
    omega

/-- Three batches of one trace: a begin is dropped before the first one is flushed, and the
second one is refused. -/
def threeBatches : List (SystemEvent (Fin 1)) :=
  phpSteps ([rinitOf ⟨1, 4096, 1, 4096⟩, .beginGate .lazy (callSiteOf "f"),
      .beginAccept (entryAt 1), .beginGate .owning (callSiteOf "g"), .endCall (exitAt 2) false,
      .endCall (exitAt 3) false, .trySend .ok] ++ callOf "h" ++ [.trySend .full] ++ callOf "f" ++
      [.trySend .ok]) ++
    [.shipper .loop, .shipper .recv]

/-- The first one is dropped when its attempts fail. -/
def untilThird : List (SystemEvent (Fin 1)) :=
  [.shipper .encode, .shipper (.handled (.dropped .timeout 3)), .shipper .loop, .shipper .recv]

theorem dropped_records_sound_three_batches :
    ∃ s t first third, run (step noticeEnvOf) (init (Fin 1)) threeBatches = some s ∧
      SoundCount noticeEnvOf threeBatches s first ∧ stamp noticeEnvOf s first = 2 ∧
      run (step noticeEnvOf) s untilThird = some t ∧ stamp noticeEnvOf t third = 3 ∧
      stamp noticeEnvOf s first ≤ stamp noticeEnvOf t third := by
  have hrun := (Option.some_get (show (run (step noticeEnvOf) (init (Fin 1))
    threeBatches).isSome = true by decide)).symm
  have hfs := (Option.some_get (show (run (step noticeEnvOf) ((run (step noticeEnvOf)
    (init (Fin 1)) threeBatches).get (by decide)) untilThird).isSome = true by decide)).symm
  obtain ⟨hsound, hlater⟩ := dropped_records_sound hrun rfl
  exact ⟨_, _, _, _, hrun, hsound, by decide, hfs, by decide, hlater _ _ _ _ hfs rfl rfl⟩

end System

end PhpAnalyze
