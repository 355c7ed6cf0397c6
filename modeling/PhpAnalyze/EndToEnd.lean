import PhpAnalyze.Pipeline

/-! # Where every call ends

In an orderly run of the pipeline that comes to rest, every begin that was observed for a trace is
in a batch that the server has stored, in the drop counter of the trace, or in a batch that the
deadline abandoned; whatever the network does (`every_call_is_stored_or_counted`).  When the
network loses nothing, the stored batches are in the store once, and nothing else is
(`every_call_is_stored_once_or_counted`).

The ledger of the process gives the numbers, and the store comes from the exchanges with the
server; the two meet in the batches that were sent (`Consumption.sentBatches_step`). -/

namespace PhpAnalyze

open Machine

/-! ### The batches that were sent -/

def sentBatches (consumed : List (PendingBatch × BatchFate)) : List PendingBatch :=
  (consumed.filter fun x => x.2 = .sent).map Prod.fst

/-- The batches whose outcome was `Sent`. -/
def Shipper.sentBatches (s : Shipper) : List PendingBatch :=
  (s.settled.filter fun x => x.outcome = .sent).map Settled.batch

theorem Shipper.sentRecords_eq (s : Shipper) (arc : ArcId) :
    s.sentRecords arc = (s.sentBatches.map (PendingBatch.recordsOf arc)).sum := by
  unfold Shipper.sentRecords Shipper.sentBatches
  rw [List.map_map]
  rfl

theorem sentBatches_append (xs ys : List (PendingBatch × BatchFate)) :
    sentBatches (xs ++ ys) = sentBatches xs ++ sentBatches ys := by
  unfold sentBatches
  rw [List.filter_append, List.map_append]

theorem Shipper.sentBatches_handled {env : NoticeEnv} {s s' : Shipper} {outcome : OnBatchOutcome}
    (h : Shipper.Step env s (.handled outcome) s') {batch : PendingBatch}
    {deadline : Option Instant} {droppedRecords : ℕ}
    (hpc : s.pc = .handling batch deadline droppedRecords) :
    s'.sentBatches = s.sentBatches ++
      PhpAnalyze.sentBatches [(batch, Consumption.fateOf outcome)] := by
  cases h with
  | handled _ _ _ _ hpc' =>
      rw [hpc] at hpc'
      cases hpc'
      unfold Shipper.sentBatches
      rw [List.filter_append, List.map_append]
      cases outcome <;> rfl

theorem Consumption.sentBatches_step {env : NoticeEnv} {c c' : Consumption} {e : ConsumptionEvent}
    (h : c.step env e = some c') (hsent : c.sentBatches = PhpAnalyze.sentBatches c.consumed) :
    c'.sentBatches = PhpAnalyze.sentBatches c'.consumed := by
  cases Consumption.step_cases h with
  | loop hloop | recv hloop | timeout hloop | dropReceiver hloop =>
      cases hloop <;> exact hsent
  | tryRecv hloop =>
      have hconsumed : PhpAnalyze.sentBatches ((c.history ++ (nextBatch c.toShipper).toList.map
          fun batch => Change.consumed batch .abandoned).filterMap Change.consumed?) =
            PhpAnalyze.sentBatches c.consumed := by
        cases nextBatch c.toShipper with
        | none => simp [consumed]
        | some batch =>
            rw [List.filterMap_append, sentBatches_append]
            exact List.append_nil _
      refine Eq.trans ?_ hconsumed.symm
      cases hloop <;> exact hsent
  | encode hpc => exact hsent
  | encodeFailed hpc hloop =>
      rw [consumed_snoc rfl, sentBatches_append, ← hsent]
      exact Shipper.sentBatches_handled hloop rfl
  | onBatch outcome hpc hloop =>
      rw [consumed_snoc rfl, sentBatches_append, ← hsent]
      exact Shipper.sentBatches_handled hloop hpc
  | other op =>
      have hconsumed :
          (c.history ++ [Change.other op]).filterMap Change.consumed? = c.consumed := by
        rw [List.filterMap_append]
        exact List.append_nil _
      exact hsent.trans (congrArg PhpAnalyze.sentBatches hconsumed.symm)
  | send | close | publishDrainDeadline | tick | drainDropNotices => exact hsent

/-- What was put in the channel is what met its fate and what is held, in this order. -/
theorem Consumption.order_step {env : NoticeEnv} {c c' : Consumption} {e : ConsumptionEvent}
    (h : c.step env e = some c') (horder : c.enqueued = c.consumed.map Prod.fst ++ c.held) :
    c'.enqueued = c'.consumed.map Prod.fst ++ c'.held := by
  cases Consumption.step_cases h with
  | loop hloop => exact horder.trans (congrArg _ (quiet_step hloop (.inl rfl)).held.symm)
  | recv hloop => exact horder.trans (congrArg _ (quiet_step hloop (.inr (.inl rfl))).held.symm)
  | timeout hloop =>
      exact horder.trans (congrArg _ (quiet_step hloop (.inr (.inr (.inl rfl)))).held.symm)
  | dropReceiver hloop =>
      exact horder.trans (congrArg _ (quiet_step hloop (.inr (.inr (.inr (.inl rfl))))).held.symm)
  | tryRecv hloop =>
      cases hnext : nextBatch c.toShipper with
      | none =>
          have hheld := (quiet_step hloop (.inr (.inr (.inr (.inr ⟨rfl, hnext⟩))))).held
          simpa [consumed, hheld] using horder
      | some batch =>
          rw [show c.enqueued = _ from horder]
          cases hloop with
          | abandonBatch abandoned first rest hpc hchannel =>
              obtain rfl : first = batch := by
                simpa [nextBatch, hchannel, ShipperMessage.batch?] using hnext
              simp [consumed, Change.consumed?, Shipper.held, hpc, hchannel, ShipperPc.batch,
                ShipperMessage.batch?]
          | skipDrain abandoned entry rest hpc hchannel =>
              simp [nextBatch, hchannel, ShipperMessage.batch?] at hnext
          | giveUp abandoned hpc hchannel => simp [nextBatch, hchannel] at hnext
  | encode hpc =>
      rw [show c.enqueued = _ from horder]
      simp [consumed, Shipper.held, hpc, ShipperPc.batch]
  | @encodeFailed batch deadline shipper hpc hloop =>
      rw [consumed_snoc rfl, show c.enqueued = _ from horder]
      cases hloop with
      | handled _ _ _ _ hpc' =>
          cases hpc'
          simp only [held_handled]
          simp [Shipper.held, hpc, ShipperPc.batch]
  | @onBatch batch deadline droppedRecords shipper outcome hpc hloop =>
      rw [consumed_snoc rfl, show c.enqueued = _ from horder]
      cases hloop with
      | handled _ _ _ _ hpc' =>
          rw [hpc] at hpc'
          cases hpc'
          simp only [held_handled]
          simp [Shipper.held, hpc, ShipperPc.batch]
  | send message =>
      rw [show c.enqueued = _ from horder]
      cases message <;> simp [consumed, Shipper.held, List.filterMap_cons, ShipperMessage.batch?]
  | other op =>
      simpa [consumed, List.filterMap_cons, Change.consumed?, Shipper.held] using horder
  | close | publishDrainDeadline | tick | drainDropNotices => exact horder

/-! ### What the copies say -/

section copied

variable {uuidToString : TraceId → String} {consumed : List (PendingBatch × BatchFate)}
  {store : List Wire.Batch}

/-- Of every batch that was sent there is a copy. -/
theorem Copied.exists_sublist {C : BatchFate → ℕ → Prop}
    (hC : ∀ copies, C .sent copies → 1 ≤ copies) (h : Copied uuidToString C consumed store) :
    ∃ sent : List (PendingBatch × ℕ), sent.map Prod.fst = sentBatches consumed ∧
      (sent.map fun x => wireForm uuidToString x.1 x.2).Sublist store := by
  obtain ⟨pieces, rfl, hpieces⟩ := h
  induction hpieces with
  | nil => exact ⟨[], rfl, List.Sublist.refl _⟩
  | @cons x piece consumed pieces hpiece _ ih =>
      obtain ⟨droppedRecords, copies, hcopies, rfl⟩ := hpiece
      obtain ⟨sent, hsent, hsub⟩ := ih
      obtain ⟨batch, fate⟩ := x
      by_cases hfate : fate = .sent
      · subst hfate
        refine ⟨(batch, droppedRecords) :: sent, ?_, ?_⟩
        · rw [List.map_cons, hsent]
          rfl
        · have hcopy : [wireForm uuidToString batch droppedRecords].Sublist
              (List.replicate copies (wireForm uuidToString batch droppedRecords)) :=
            (List.replicate_sublist_replicate _).mpr (hC copies hcopies)
          exact hcopy.append hsub
      · refine ⟨sent, ?_, hsub.trans (List.sublist_append_right _ _)⟩
        rw [hsent]
        unfold sentBatches
        rw [List.filter_cons_of_neg (by simpa using hfate)]

/-- Of every batch that was sent there is one copy, and there are no others. -/
theorem Copied.exists_eq {C : BatchFate → ℕ → Prop} (hC : ∀ copies, C .sent copies → copies = 1)
    (hnone : ∀ fate copies, C fate copies → fate ≠ .sent → copies = 0)
    (h : Copied uuidToString C consumed store) :
    ∃ sent : List (PendingBatch × ℕ), sent.map Prod.fst = sentBatches consumed ∧
      store = sent.map fun x => wireForm uuidToString x.1 x.2 := by
  obtain ⟨pieces, rfl, hpieces⟩ := h
  induction hpieces with
  | nil => exact ⟨[], rfl, rfl⟩
  | @cons x piece consumed pieces hpiece _ ih =>
      obtain ⟨droppedRecords, copies, hcopies, rfl⟩ := hpiece
      obtain ⟨sent, hsent, hstore⟩ := ih
      obtain ⟨batch, fate⟩ := x
      by_cases hfate : fate = .sent
      · subst hfate
        refine ⟨(batch, droppedRecords) :: sent, ?_, ?_⟩
        · rw [List.map_cons, hsent]
          rfl
        · rw [List.flatten_cons, hstore, hC copies hcopies]
          rfl
      · refine ⟨sent, ?_, ?_⟩
        · rw [hsent]
          unfold sentBatches
          rw [List.filter_cons_of_neg (by simpa using hfate)]
        · rw [List.flatten_cons, hnone fate copies hcopies hfate, hstore]
          rfl

end copied

namespace Pipeline

/-! ### The ledger -/

section ledger

variable {ι Addr : Type} {s : Pipeline ι Addr}

def observesBegin (arc : ArcId) (s : Pipeline ι Addr) : PipelineEvent ι Addr → Bool
  | .php i e => (s.threads i).observesBegin arc e
  | _ => false

/-- Every `try_send` answers `Ok` or `Full`, and no `RINIT` finds a stale trace. -/
def orderly (s : Pipeline ι Addr) : PipelineEvent ι Addr → Bool
  | .php i e => (s.threads i).orderly e
  | _ => true

theorem not_php_of_mem {e : PipelineEvent ι Addr} (he : ∀ i e', e ≠ .php i e')
    {x : SystemEvent ι} (hx : x ∈ s.systemEvents e) (i : ι) (e' : PhpEvent) : x ≠ .php i e' := by
  rintro rfl
  cases e with
  | php j e => exact he j e rfl
  | mshutdown e => simp [systemEvents] at hx
  | delivery e =>
      cases e with
      | attempt | visit => simp [systemEvents] at hx
      | shipper e =>
          cases e with
          | call => simp [systemEvents] at hx
          | finish =>
              simp only [systemEvents] at hx
              split at hx <;> simp at hx
          | consumption e =>
              cases e with
              | tick => simp [systemEvents] at hx
              | encode ok => cases ok <;> simp [systemEvents, shipperEvents] at hx
              | loop | recv | timeout | tryRecv | dropReceiver | onBatch | send | close
              | publishDrainDeadline | other | drainDropNotices =>
                  simp [systemEvents, shipperEvents] at hx

variable [DecidableEq ι] (env : NoticeEnv)

theorem tally_systemEvents (arc : ArcId) (s : Pipeline ι Addr) (e : PipelineEvent ι Addr) :
    tally (System.step env) (System.observesBegin arc) s.toSystem (s.systemEvents e) =
      if s.observesBegin arc e then 1 else 0 := by
  by_cases hphp : ∃ i e', e = .php i e'
  · obtain ⟨i, e', rfl⟩ := hphp
    exact tally_singleton _ _ _
  · have hno : ∀ i e', e ≠ .php i e' := fun i e' he => hphp ⟨i, e', he⟩
    have hnone : s.observesBegin arc e = false := by
      cases e with
      | php i e => exact absurd rfl (hno i e)
      | mshutdown | delivery => rfl
    rw [hnone, if_neg Bool.false_ne_true]
    refine tally_eq_zero_iff.mpr (along_of_forall fun x hx t => ?_)
    cases x with
    | php i e' => exact absurd rfl (not_php_of_mem hno hx i e')
    | _ => rfl

theorem along_systemEvents {e : PipelineEvent ι Addr}
    (horderly : s.orderly e = true) :
    Along (System.step env) (fun s e => s.orderly e = true) s.toSystem (s.systemEvents e) := by
  by_cases hphp : ∃ i e', e = .php i e'
  · obtain ⟨i, e', rfl⟩ := hphp
    exact ⟨horderly, fun _ _ => trivial⟩
  · have hno : ∀ i e', e ≠ .php i e' := fun i e' he => hphp ⟨i, e', he⟩
    refine along_of_forall fun x hx t => ?_
    cases x with
    | php i e' => exact absurd rfl (not_php_of_mem hno hx i e')
    | _ => rfl

end ledger

section invariants

variable {ι Addr : Type} [DecidableEq ι] [DecidableEq Addr] {uuidToString : TraceId → String}
  {codec : WireCodec} {poster : RmpEncodeAndHttpPost} {d : Instant} {args : StubIngest.Args}
  {target : String} {asError : ℕ → Option UreqError} {files : String → Option (List UInt8)}
  {es : List (PipelineEvent ι Addr)} {s s' : Pipeline ι Addr}

/-! ### The store between the steps -/

theorem phase_step {P : AttemptOutcome → Bool → Prop} {C : BatchFate → ℕ → Prop}
    (hdelivers : Delivery.Delivers poster.retryCount P C) {e : PipelineEvent ι Addr}
    (hexchanges : ∀ e', e = .delivery e' →
      Delivery.Exchanges uuidToString codec poster args target asError P s.toDelivery e')
    (hstep : s.step uuidToString codec poster d args target asError e = some s')
    (h : Delivery.Phase uuidToString poster P C s.toDelivery) :
    Delivery.Phase uuidToString poster P C s'.toDelivery := by
  cases step_cases hstep with
  | php i e move =>
      -- a thread leaves the handle, the history and the server alone
      refine ⟨h.idle, fun p hp => ?_⟩
      obtain ⟨batch, droppedRecords, turns, base, hhandling⟩ := h.busy p hp
      exact ⟨batch, droppedRecords, turns, base, hhandling.pc, hhandling.follows,
        hhandling.verdicts, hhandling.each, hhandling.copied, hhandling.store⟩
  | mshutdown e mshutdown => exact h
  | deliver e' mshutdown hattempt hdelivery =>
      refine h.step hdelivers ?_ hdelivery
      intro transmission he'
      exact hexchanges _ (hattempt transmission he') transmission he'

/-- **Run lemma** for the store. -/
theorem phase_run {P : AttemptOutcome → Bool → Prop} {C : BatchFate → ℕ → Prop}
    (hdelivers : Delivery.Delivers poster.retryCount P C)
    (hexchanges : Along (step uuidToString codec poster d args target asError)
      (fun s e => ∀ e', e = .delivery e' →
        Delivery.Exchanges uuidToString codec poster args target asError P s.toDelivery e')
      (start ι files) es)
    (h : run (step uuidToString codec poster d args target asError) (start ι files) es = some s) :
    Delivery.Phase uuidToString poster P C s.toDelivery :=
  run_invariant_along (I := fun s => Delivery.Phase uuidToString poster P C s.toDelivery)
    (fun _ _ _ _ hexchange hstep hphase => phase_step hdelivers hexchange hstep hphase) h
    hexchanges (Delivery.phase_start Shared.init files)

theorem consumption_step {e : DeliveryEvent Addr} {delivery delivery' : Delivery Addr}
    (h : delivery.step uuidToString codec poster d args target asError e = some delivery') :
    delivery'.toConsumption = delivery.toConsumption ∨
      ∃ e', delivery.toConsumption.step (poster.noticeEnv uuidToString) e' =
        some delivery'.toConsumption := by
  cases Delivery.step_cases h with
  | around _ _ hc | handle _ _ hc | finish _ hc => exact .inr ⟨_, hc⟩
  | call | attempt | visit => exact .inl rfl

theorem sentBatches_run
    (h : run (step uuidToString codec poster d args target asError) (start ι files) es = some s) :
    s.toShipper.sentBatches = sentBatches s.consumed := by
  refine run_invariant (I := fun s : Pipeline ι Addr =>
    s.toShipper.sentBatches = sentBatches s.consumed) ?_ h rfl
  intro s e s' hstep hs
  cases step_cases hstep with
  | php i e move => exact hs
  | mshutdown e mshutdown => exact hs
  | @deliver e delivery e' mshutdown hattempt hdelivery =>
      rcases consumption_step hdelivery with hsame | ⟨e', hc⟩
      · show delivery.toConsumption.sentBatches = sentBatches delivery.toConsumption.consumed
        rw [hsame]
        exact hs
      · exact Consumption.sentBatches_step hc hs

theorem entries_run [Fintype ι]
    (h : run (step uuidToString codec poster d args target asError) (start ι files) es = some s)
    (horderly : Along (step uuidToString codec poster d args target asError)
      (fun s e => s.orderly e = true) (start ι files) es) (arc : ArcId) :
    tally (step uuidToString codec poster d args target asError) (observesBegin arc)
      (start ι files) es = s.toSystem.account arc := by
  have hrefines := refines_system ι Addr uuidToString codec poster d args target asError
  have hrun := hrefines.run_matched h
  have hrest := hrefines.along_matched (fun _ _ _ _ ho => along_systemEvents _ ho) h horderly
  have htally := hrefines.tally_matched (fun s e _ _ => tally_systemEvents _ arc s e) h
  rw [toSystem_start] at hrun hrest htally
  rw [← htally, (System.ledger_run hrun hrest).entries arc]

theorem ledger_at_rest [Fintype ι]
    (h : run (step uuidToString codec poster d args target asError) (start ι files) es = some s)
    (horderly : Along (step uuidToString codec poster d args target asError)
      (fun s e => s.orderly e = true) (start ι files) es)
    (hreleased : ∀ i, (s.threads i).released = true)
    (hreturned : s.toSystem.receiverAlive = false) (arc : ArcId) :
    tally (step uuidToString codec poster d args target asError) (observesBegin arc)
        (start ι files) es =
      (s.toShipper.sentBatches.map (PendingBatch.recordsOf arc)).sum +
        s.shared.dropCounters arc + s.abandonedRecords arc + s.toSystem.lostRecords arc := by
  have hrun := (refines_system ι Addr uuidToString codec poster d args target asError).run_matched h
  have haccount := System.account_at_rest (s := s.toSystem) hreleased hreturned arc
  have hsent : s.toSystem.sentRecords arc =
      (s.toShipper.sentBatches.map (PendingBatch.recordsOf arc)).sum :=
    s.toShipper.sentRecords_eq arc
  rw [entries_run h horderly, haccount, hsent]
  rfl

theorem order_run
    (h : run (step uuidToString codec poster d args target asError) (start ι files) es = some s) :
    s.enqueued = s.consumed.map Prod.fst ++ s.held := by
  refine run_invariant (I := fun s : Pipeline ι Addr =>
    s.enqueued = s.consumed.map Prod.fst ++ s.held) ?_ h rfl
  intro s e s' hstep hs
  cases step_cases hstep with
  | php i e move =>
      have hheld : (s.moved i e move).held = s.held ++ move.queued.toList := by
        cases hqueued : move.queued <;>
          simp [moved, hqueued, Shipper.held, ShipperMessage.batch?]
      have henqueued : (s.moved i e move).enqueued = s.enqueued ++ move.queued.toList := rfl
      rw [henqueued, hheld, hs, List.append_assoc]
      rfl
  | mshutdown e mshutdown => exact hs
  | @deliver e delivery e' mshutdown hattempt hdelivery =>
      rcases consumption_step hdelivery with hsame | ⟨e', hc⟩
      · show delivery.toConsumption.enqueued = delivery.toConsumption.consumed.map Prod.fst ++
          delivery.toConsumption.held
        rw [hsame]
        exact hs
      · exact Consumption.order_step hc hs

theorem exchanges_of_fits {P : AttemptOutcome → Bool → Prop} (hreaches : Reaches args target)
    (hfits : Along (step uuidToString codec poster d args target asError)
      (fun s _ => s.toDelivery.Fits uuidToString codec) (start ι files) es)
    (hP : ∀ transmission, .delivery (.attempt transmission) ∈ es → ∀ server bytes wire,
      codec.decode bytes = some wire →
        P (transmit codec args target asError server (poster.request bytes) transmission).1
          (transmission.stores poster args)) :
    Along (step uuidToString codec poster d args target asError)
      (fun s e => ∀ e', e = .delivery e' →
        Delivery.Exchanges uuidToString codec poster args target asError P s.toDelivery e')
      (start ι files) es := by
  refine along_iff.mpr fun pre e post t hes ht e' he => ?_
  refine Delivery.exchange_of_fits hreaches (along_iff.mp hfits pre e post t hes ht) ?_
  rintro transmission rfl
  exact hP transmission (by simp [hes, he])

omit [DecidableEq ι] [DecidableEq Addr] in
/-- When the loop has returned, nothing is on its way to the server. -/
theorem store_at_rest {P : AttemptOutcome → Bool → Prop} {C : BatchFate → ℕ → Prop}
    (h : Delivery.Phase uuidToString poster P C s.toDelivery)
    (hreturned : s.toSystem.receiverAlive = false) :
    Copied uuidToString C s.consumed s.server.store := by
  cases hprogram : s.program with
  | none => exact (h.idle hprogram).2
  | some p =>
      obtain ⟨batch, droppedRecords, turns, base, hhandling⟩ := h.busy p hprogram
      obtain ⟨deadline, hpc⟩ := hhandling.pc
      have hpc' : s.toSystem.pc = .handling batch deadline droppedRecords := hpc
      simp [System.receiverAlive, hpc'] at hreturned

/-- At rest the begins are in the sent batches, in the drop counter, abandoned, or lost. -/
theorem accounted_at_rest [Fintype ι]
    (horderly : Along (step uuidToString codec poster d args target asError)
      (fun s e => s.orderly e = true) (start ι files) es)
    (h : run (step uuidToString codec poster d args target asError) (start ι files) es = some s)
    (hreleased : ∀ i, (s.threads i).released = true)
    (hreturned : s.toSystem.receiverAlive = false) {sent : List (PendingBatch × ℕ)}
    (hsent : sent.map Prod.fst = sentBatches s.consumed) :
    (sent.map Prod.fst).Sublist s.enqueued ∧
      ∀ arc, tally (step uuidToString codec poster d args target asError) (observesBegin arc)
          (start ι files) es =
        (sent.map fun x => x.1.recordsOf arc).sum + s.shared.dropCounters arc +
          s.abandonedRecords arc + s.toSystem.lostRecords arc := by
  refine ⟨?_, fun arc => ?_⟩
  · rw [hsent, order_run h]
    exact (List.filter_sublist.map _).trans (List.sublist_append_left _ _)
  · rw [ledger_at_rest h horderly hreleased hreturned, sentBatches_run h, ← hsent, List.map_map]
    rfl

/-- **Without losses every recorded call is in the store once.**  If every request and every
answer arrives, the captures are written and the status counts as a success: the store is the
sent batches in the order of the channel, each once, and the begins observed for each trace are
their records, the drop counter, the records abandoned at the deadline, and those lost with the
receiver. -/
theorem every_call_is_stored_once_or_counted [Fintype ι] (hreaches : Reaches args target)
    (htoken : poster.authToken = args.authToken) (hok : asError args.respondWith = none)
    (harrive : ∀ transmission, .delivery (.attempt transmission) ∈ es → transmission.Arrives args)
    (hfits : Along (step uuidToString codec poster d args target asError)
      (fun s _ => s.toDelivery.Fits uuidToString codec) (start ι files) es)
    (horderly : Along (step uuidToString codec poster d args target asError)
      (fun s e => s.orderly e = true) (start ι files) es)
    (h : run (step uuidToString codec poster d args target asError) (start ι files) es = some s)
    (hreleased : ∀ i, (s.threads i).released = true)
    (hreturned : s.toSystem.receiverAlive = false) :
    ∃ sent : List (PendingBatch × ℕ), (sent.map Prod.fst).Sublist s.enqueued ∧
      (s.server.store = sent.map fun x => wireForm uuidToString x.1 x.2) ∧
      ∀ arc, tally (step uuidToString codec poster d args target asError) (observesBegin arc)
          (start ι files) es =
        (sent.map fun x => x.1.recordsOf arc).sum + s.shared.dropCounters arc +
          s.abandonedRecords arc + s.toSystem.lostRecords arc := by
  have hverdict : statusVerdict asError args.respondWith = .sent := by rw [statusVerdict, hok]
  have hphase := phase_run Delivery.delivers_exactlyOnce (exchanges_of_fits hreaches hfits
    fun transmission he server bytes wire hdecode =>
      hverdict ▸ Delivery.verdict_of_arrives hreaches htoken (harrive transmission he) server
        hdecode) h
  obtain ⟨sent, hsent, hstore⟩ := (store_at_rest hphase hreturned).exists_eq
    (fun _ hcopies => hcopies) (fun fate copies hcopies hfate => by
      cases fate with
      | sent => exact absurd rfl hfate
      | dropped => exact hcopies.1
      | abandoned => exact hcopies)
  obtain ⟨hsub, hledger⟩ := accounted_at_rest horderly h hreleased hreturned hsent
  exact ⟨sent, hsub, hstore, hledger⟩

end invariants

/-! ### A run -/

/-- The first batch of a request that records two calls. -/
def recordedBatch : PendingBatch where
  metaPartial :=
    { schemaVersion := 1
      traceId := Vector.replicate 16 0
      host := "host"
      pid := 1
      startTimeRealtimeNs := 0
      sapi := "cli"
      uriOrScript := "index.php" }
  dict := [{ fnId := 1, fqn := "f", file := "", line := 0, kind := .function }]
  calls :=
    [{ callId := 1, parent := 0, fnId := 1, depth := 0, tInNs := 1, tOutNs := 3, cpuUNs := 0,
       cpuSNs := 0, memInBytes := 0, memOutBytes := 0, abnormalExit := false }]
  sizeEstimate := 89
  dropCounter := 0

def secondRecorded : PendingBatch :=
  { recordedBatch with
    dict := [{ fnId := 2, fqn := "h", file := "", line := 0, kind := .function }]
    calls :=
      [{ callId := 2, parent := 0, fnId := 2, depth := 0, tInNs := 1, tOutNs := 2, cpuUNs := 0,
         cpuSNs := 0, memInBytes := 0, memOutBytes := 0, abnormalExit := false }] }

def recordedWire : Wire.Batch := wireForm Uuid.hyphenated recordedBatch 1

/-- The second batch, after this many drops. -/
def secondRecordedWire (droppedRecords : ℕ) : Wire.Batch :=
  wireForm Uuid.hyphenated secondRecorded droppedRecords

def recordedValues : List Msgpack.Value :=
  [recordedWire.toValue, (secondRecordedWire 1).toValue, (secondRecordedWire 2).toValue]

def recordedCodec : WireCodec := Delivery.codecOfAll recordedValues

def sampleStep :
    Pipeline Unit ℕ → PipelineEvent Unit ℕ → Option (Pipeline Unit ℕ) :=
  step Uuid.hyphenated recordedCodec (Delivery.samplePoster "s3cret") 5 StubIngest.sampleArgs
    "/v1/ingest" Delivery.statusAsError

def sampleStart : Pipeline Unit ℕ := start Unit fun _ => none

/-- A request that records two calls, each in a batch, and drops a callee at the depth limit. -/
def recordedRequest : List PhpEvent :=
  [rinitOf ⟨1, 4096, 1, 4096⟩, .beginGate .lazy (callSiteOf "f"), .beginAccept (entryAt 1),
    .beginGate .lazy (callSiteOf "g"), .endCall (exitAt 2) false, .endCall (exitAt 3) false,
    .trySend .ok] ++ callOf "h" ++ [.trySend .ok, .rshutdown (exitAt 4), .drain, .release]

/-- After the request these attempts send the first batch, and one the second; then comes
`MSHUTDOWN`. -/
def recorded (attempts : List (DeliveryEvent ℕ)) : List (PipelineEvent Unit ℕ) :=
  recordedRequest.map (.php ()) ++
    (Delivery.take ++ attempts ++ DeliveryEvent.shipper .finish ::
      Delivery.take ++ [Delivery.answerArrives, .shipper .finish]).map .delivery ++
    [.mshutdown (.takeSender 5), .mshutdown .publishDrainDeadline, .mshutdown (.sendDrain true),
      .mshutdown .dropSender] ++
    ([.loop, .recv, .recv].map fun e => .delivery (.shipper (.consumption e))) ++
    [.mshutdown .join]

/-- Only the batches of the request are handled. -/
def handlesRecorded (s : Pipeline Unit ℕ) : Bool :=
  match s.pc with
  | .handling batch _ droppedRecords =>
      batch = recordedBatch ∧ droppedRecords = 1 ∨
        batch = secondRecorded ∧ (droppedRecords = 1 ∨ droppedRecords = 2)
  | _ => true

theorem inRange_recorded : recordedBatch.InRange ∧ secondRecorded.InRange := by
  refine ⟨⟨by decide, by simp [InI64, recordedBatch], by decide, fun call hcall => ?_⟩,
    ⟨by decide, by simp [InI64, recordedBatch, secondRecorded], by decide,
      fun call hcall => ?_⟩⟩ <;>
  · obtain rfl := List.mem_singleton.mp hcall
    constructor <;> simp [InI64]

theorem fits_recorded {s : Pipeline Unit ℕ} (h : s.handlesRecorded = true) :
    s.toDelivery.Fits Uuid.hyphenated recordedCodec := by
  have hdistinct : (recordedValues.map Msgpack.Value.toBytes).Nodup := by decide +kernel
  intro batch deadline droppedRecords hpc
  have hpc' : s.pc = .handling batch deadline droppedRecords := hpc
  obtain ⟨rfl, rfl⟩ | ⟨rfl, rfl | rfl⟩ : batch = recordedBatch ∧ droppedRecords = 1 ∨
      batch = secondRecorded ∧ (droppedRecords = 1 ∨ droppedRecords = 2) := by
    simpa [handlesRecorded, hpc'] using h
  · exact ⟨inRange_recorded.1, by decide, Delivery.survives_codecOfAll (.head _) hdistinct⟩
  · exact ⟨inRange_recorded.2, by decide,
      Delivery.survives_codecOfAll (.tail _ (.head _)) hdistinct⟩
  · exact ⟨inRange_recorded.2, by decide,
      Delivery.survives_codecOfAll (.tail _ (.tail _ (.head _))) hdistinct⟩

theorem along_fits {es : List (PipelineEvent Unit ℕ)}
    (h : Along sampleStep (fun s _ => s.handlesRecorded = true) sampleStart es) :
    Along sampleStep
      (fun s _ => s.toDelivery.Fits Uuid.hyphenated recordedCodec)
      sampleStart es :=
  along_iff.mpr fun pre e post t hes ht => fits_recorded (along_iff.mp h pre e post t hes ht)

def recordedOnce : List (PipelineEvent Unit ℕ) := recorded [Delivery.answerArrives]

theorem every_call_is_stored_once_or_counted_two_answers :
    ∃ s, run sampleStep sampleStart recordedOnce = some s ∧
      s.server.store = [recordedWire, secondRecordedWire 1] ∧ s.shared.dropCounters 0 = 1 ∧
      ∃ sent : List (PendingBatch × ℕ),
        (s.server.store = sent.map fun x => wireForm Uuid.hyphenated x.1 x.2) ∧
        tally sampleStep (observesBegin 0) sampleStart recordedOnce =
          (sent.map fun x => x.1.recordsOf 0).sum + s.shared.dropCounters 0 +
            s.abandonedRecords 0 + s.toSystem.lostRecords 0 := by
  have hrun := (Option.some_get (show (run sampleStep sampleStart recordedOnce).isSome = true by
    decide +kernel)).symm
  have harrive : ∀ transmission, .delivery (.attempt transmission) ∈ recordedOnce →
      transmission.Arrives StubIngest.sampleArgs := by
    intro transmission hmem
    obtain rfl : transmission = .answered Delivery.sampleArrival none := by
      simpa [recordedOnce, recorded, Delivery.take, Delivery.answerArrives] using hmem
    exact ⟨Delivery.sampleArrival, rfl, fun _ => rfl⟩
  obtain ⟨sent, -, hstore, hledger⟩ := every_call_is_stored_once_or_counted
    (Delivery.reaches_sample rfl) rfl rfl harrive (along_fits (by decide +kernel))
    (by decide +kernel) hrun (by decide +kernel) (by decide +kernel)
  exact ⟨_, hrun, by decide +kernel, by decide +kernel, sent, hstore, hledger 0⟩

end Pipeline

end PhpAnalyze
