import PhpAnalyze.Budget
import PhpAnalyze.Stage
import PhpAnalyze.TokenSecrecy

/-! # From `MINIT` to `MSHUTDOWN`

What a whole process with the extension leaves behind: in the store of the server and the drop
counters, in the byte budget, and in the PHP error log.

* Unless the OS has refused the shipper thread, `try_send` only answers `Ok` or `Full`, and no
  `RINIT` finds a stale trace (`orderly_run`).  So the ledger of `EndToEnd` holds without a
  condition on the answers (`every_request_is_accounted_for`).
* No byte of the budget is left at the end (`budget_at_stop`).
* Every batch that was queued meets its fate before the process ends, and the error log has the
  notices of the dropped ones, in the order of the channel (`error_log_at_stop`).
* After a refused spawn nothing leaves the process (`refused_spawn_silences`).
* A disabled extension says why, once, and does nothing else (`disabled_only_explains_itself`). -/

namespace PhpAnalyze

open Machine

/-! ### The notices -/

namespace Consumption

variable {env : NoticeEnv}

theorem dropNotices_handled {s s' : Shipper} {outcome : OnBatchOutcome}
    (h : Shipper.Step env s (.handled outcome) s') {batch : PendingBatch}
    {deadline : Option Instant} {droppedRecords : ℕ}
    (hpc : s.pc = .handling batch deadline droppedRecords) :
    s'.dropNotices = s.dropNotices ++ [(batch, fateOf outcome)].filterMap (noticeOf env) := by
  cases h with
  | handled _ _ _ _ hpc' =>
      rw [hpc] at hpc'
      cases hpc'
      cases outcome with
      | sent => exact (List.append_nil _).symm
      | dropped reason attempts => rfl

/-- There is a notice for each dropped batch. -/
def Noticed (env : NoticeEnv) (c : Consumption) : Prop :=
  c.returnedNotices ++ c.dropNotices = c.consumed.filterMap (noticeOf env)

theorem Noticed.settled {c c' : Consumption} (h : c.Noticed env) {batch : PendingBatch}
    {fate : BatchFate} (hhistory : c'.history = c.history ++ [.consumed batch fate])
    (hreturned : c'.returnedNotices = c.returnedNotices)
    (hqueued : c'.dropNotices = c.dropNotices ++ [(batch, fate)].filterMap (noticeOf env)) :
    c'.Noticed env := by
  unfold Noticed at h ⊢
  rw [hreturned, hqueued, ← List.append_assoc, h, consumed_snoc hhistory, List.filterMap_append]

/-- **Step lemma.** -/
theorem Noticed.step {c c' : Consumption} {e : ConsumptionEvent} (h : c.Noticed env)
    (hstep : c.step env e = some c') : c'.Noticed env := by
  cases step_cases hstep with
  | loop hloop => exact (congrArg _ (quiet_step hloop (.inl rfl)).dropNotices).trans h
  | recv hloop => exact (congrArg _ (quiet_step hloop (.inr (.inl rfl))).dropNotices).trans h
  | timeout hloop =>
      exact (congrArg _ (quiet_step hloop (.inr (.inr (.inl rfl)))).dropNotices).trans h
  | dropReceiver hloop =>
      exact (congrArg _ (quiet_step hloop (.inr (.inr (.inr (.inl rfl))))).dropNotices).trans h
  | tryRecv hloop =>
      cases hnext : nextBatch c.toShipper with
      | none =>
          have hquiet := quiet_step hloop (.inr (.inr (.inr (.inr ⟨rfl, hnext⟩))))
          unfold Noticed at h ⊢
          simpa [consumed, hquiet.dropNotices] using h
      | some batch =>
          refine h.settled rfl rfl ?_
          cases hloop <;> exact (List.append_nil _).symm
  | encode => exact h
  | encodeFailed hpc hloop => exact h.settled rfl rfl (dropNotices_handled hloop rfl)
  | onBatch outcome hpc hloop => exact h.settled rfl rfl (dropNotices_handled hloop hpc)
  | other op =>
      unfold Noticed at h ⊢
      simpa [consumed, List.filterMap_cons, Change.consumed?] using h
  | drainDropNotices =>
      unfold Noticed at h ⊢
      rw [List.append_nil]
      exact h
  | send | close | publishDrainDeadline | tick => exact h

end Consumption

/-! ### What a loop leaves behind -/

theorem ShipperPc.exit_eq_none {pc : ShipperPc} (h : pc.calm = true) : pc.exit = none := by
  cases pc with
  | returning | returned => cases h
  | _ => rfl

/-- With its result the loop leaves no batch behind. -/
def Shipper.Emptied (s : Shipper) : Prop := ∀ exit, s.pc.exit = some exit → s.held = []

namespace Shipper.Emptied

variable {env : NoticeEnv}

theorem step {s s' : Shipper} {e : ShipperEvent} (h : s.Emptied) (hstep : Shipper.Step env s e s') :
    s'.Emptied := by
  intro exit hexit
  rcases held_of_exit hstep hexit with hheld | hbefore
  · exact hheld
  · obtain ⟨left, -, hleft⟩ := Shipper.held_step hstep
    rw [h exit hbefore] at hleft
    exact (List.append_eq_nil_iff.mp hleft.symm).2

theorem consumption {c c' : Consumption} {e : ConsumptionEvent} (h : c.toShipper.Emptied)
    (hsend : ∀ message, e ≠ .send message) (hc : c.step env e = some c') :
    c'.toShipper.Emptied := by
  cases Consumption.step_cases hc with
  | loop hloop | recv hloop | timeout hloop | tryRecv hloop | dropReceiver hloop
  | onBatch _ _ hloop => exact h.step hloop
  | encode =>
      intro exit hexit
      cases hexit
  | encodeFailed hpc hloop =>
      refine step (fun exit hexit => ?_) hloop
      cases hexit
  | send message => exact absurd rfl (hsend message)
  | close | publishDrainDeadline | tick | other | drainDropNotices => exact h

end Shipper.Emptied

theorem System.lostRecords_eq_zero {ι : Type*} {s : System ι} (h : s.held = []) (arc : ArcId) :
    s.lostRecords arc = 0 := by
  have hbatches := (List.append_eq_nil_iff.mp h).2
  rw [lostRecords, lost, hbatches]
  split <;> rfl

namespace Pipeline

variable {Addr : Type} [DecidableEq Addr] {uuidToString : TraceId → String}
  {codec : WireCodec} {poster : RmpEncodeAndHttpPost} {d : Instant} {args : StubIngest.Args}
  {target : String} {asError : ℕ → Option UreqError} {files : String → Option (List UInt8)}
  {es : List (PipelineEvent Unit Addr)} {s s' : Pipeline Unit Addr}

theorem noticed_run
    (h : run (step uuidToString codec poster d args target asError) (start Unit files) es =
      some s) : s.toConsumption.Noticed (poster.noticeEnv uuidToString) := by
  refine run_invariant (I := fun s : Pipeline Unit Addr =>
    s.toConsumption.Noticed (poster.noticeEnv uuidToString)) ?_ h rfl
  intro s e s' hstep hs
  cases step_cases hstep with
  | php i e move => exact hs
  | mshutdown e mshutdown => exact hs
  | @deliver e delivery e' mshutdown hattempt hdelivery =>
      rcases consumption_step hdelivery with hsame | ⟨e', hc⟩
      · rw [show ({ s with toDelivery := delivery, mshutdown } : Pipeline Unit Addr).toConsumption =
          s.toConsumption from hsame]
        exact hs
      · exact hs.step hc

theorem returnedNotices_delivery {e : DeliveryEvent Addr} (he : e.readsNotices = false)
    (hstep : s.step uuidToString codec poster d args target asError (.delivery e) = some s') :
    s'.returnedNotices = s.returnedNotices := by
  obtain ⟨hown, delivery, hdelivery, rfl⟩ := delivery_cases hstep
  cases Delivery.step_cases hdelivery with
  | around _ _ hc =>
      cases Consumption.step_cases hc with
      | drainDropNotices => cases he
      | _ => rfl
  | handle _ _ hc =>
      cases Consumption.step_cases hc with
      | encode => rfl
  | finish _ hc =>
      cases Consumption.step_cases hc with
      | onBatch => rfl
  | call | attempt | visit => rfl

omit [DecidableEq Addr] in
theorem Asleep.held (h : s.Asleep) : s.held = [] := by
  unfold Shipper.held
  rw [h.pc, List.filterMap_eq_nil_iff.mpr h.channel]
  rfl

theorem emptied_delivery (h : s.toShipper.Emptied) {e : DeliveryEvent Addr}
    (hstep : s.step uuidToString codec poster d args target asError (.delivery e) = some s') :
    s'.toShipper.Emptied := by
  obtain ⟨hown, delivery, hdelivery, rfl⟩ := delivery_cases hstep
  cases Delivery.step_cases hdelivery with
  | around _ _ hc =>
      refine h.consumption ?_ hc
      rintro message rfl
      cases hown
  | handle _ _ hc | finish _ hc => exact h.consumption (by simp) hc
  | call | attempt | visit => exact h

theorem emptied_mshutdown (h : s.toShipper.Emptied) {e : MshutdownEvent}
    (hstep : s.step uuidToString codec poster d args target asError (.mshutdown e) = some s') :
    s'.toShipper.Emptied := by
  obtain ⟨channel, closed, drainDeadline, mshutdown, rfl, hchannel⟩ := mshutdown_eq hstep
  intro exit hexit
  have hheld := h exit hexit
  rcases hchannel with rfl | ⟨deadline, rfl⟩
  · exact hheld
  · simpa [Shipper.held, ShipperMessage.batch?] using hheld

/-- A thread that puts a batch in the channel has a trace. -/
theorem emptied_php (h : s.toShipper.Emptied)
    (hexit : s.threads () ≠ .noTrace → s.pc.exit = none) {e : PhpEvent}
    (hstep : s.step uuidToString codec poster d args target asError (.php () e) = some s') :
    s'.toShipper.Emptied := by
  obtain ⟨move, hmove, -, rfl⟩ := php_cases hstep
  by_cases hnone : s.threads () = .noTrace
  · rw [hnone] at hmove
    have hqueued : move.queued = none := by
      cases PhpThread.step_cases hmove with
      | rinit | ignore => rfl
    intro exit hpc
    have hheld := h exit hpc
    simpa [moved, hqueued, Shipper.held] using hheld
  · intro exit hpc
    have hpc' : s.pc.exit = some exit := hpc
    rw [hexit hnone] at hpc'
    cases hpc'

/-- When nobody holds anything, the budget is at zero. -/
theorem bytes_at_rest
    (h : run (step uuidToString codec poster d args target asError) (start Unit files) es =
      some s) (hthread : s.threads () = .noTrace) (hheld : s.held = []) :
    s.shared.bytesInMemory = 0 ∧ s.shared.underflowed = false := by
  have hrun := (refines_system Unit Addr uuidToString codec poster d args target
    asError).run_matched h
  obtain ⟨hbytes, hexact⟩ := System.balanced_run hrun
  refine ⟨?_, hexact⟩
  have hthreads : Places.total PhpThread.heldBytes s.toSystem.threads = 0 := by
    apply Places.total_eq_zero
    rintro ⟨⟩
    show PhpThread.heldBytes (s.threads ()) = 0
    rw [hthread]
    rfl
  have hshipper : s.toSystem.toShipper.heldBytes = 0 := by
    show s.toShipper.heldWeight PendingBatch.sizeEstimate = 0
    rw [← Shipper.sum_map_held, hheld]
    rfl
  have hbytes' : s.shared.bytesInMemory = _ := hbytes
  rw [hbytes', hthreads, hshipper]

end Pipeline

namespace HookPc

def queue : HookPc → List String
  | .emitting queue _ => queue
  | _ => []

theorem queue_emitQueued (notices : List String) (last : Bool) :
    (emitQueued notices last).queue = notices := by
  unfold emitQueued
  split
  case isTrue hempty =>
    rw [List.isEmpty_iff.mp hempty]
    split <;> rfl
  case isFalse => rfl

end HookPc

theorem PhpThread.observesBegin_eq_false (arc : ArcId) (t : PhpThread) {e : PhpEvent}
    (he : ∀ path site, e ≠ .beginGate path site) : t.observesBegin arc e = false := by
  unfold PhpThread.observesBegin
  split
  · exact absurd rfl (he _ _)
  · rfl

namespace Extension

variable {Addr : Type}

/-! ### A refused spawn is final -/

theorem spawnFailed_spawn (ok : Bool) {s : ShipperSlots} (h : s.spawnFailed = true) :
    s.spawnWithOnBatchFactoryInner ok = (s, []) := by
  unfold ShipperSlots.spawnWithOnBatchFactoryInner
  rw [if_pos h]

theorem spawnFailed_startup (debugPath : String → String)
    (resolved : Config × List ConfigWarning) (m : Module) :
    (startupBody debugPath resolved m).slots.spawnFailed = m.slots.spawnFailed := by
  unfold startupBody installShipperIfEnabled ShipperSlots.installChannelAtMinit
  dsimp only
  split
  · split <;> rfl
  · rfl

section act

variable {debugPath : String → String} {version : String}
  {resolved : Config × List ConfigWarning} {poster : RmpEncodeAndHttpPost} {s : Extension Addr}
  {e : ExtensionEvent Addr} {e' : Option (PipelineEvent Unit Addr)} {m : Module}

theorem spawnFailed_act (h : Act debugPath resolved s e e' m)
    (hfailed : s.slots.spawnFailed = true) : m.slots.spawnFailed = true := by
  cases h with
  | startup hhook => exact (spawnFailed_startup debugPath resolved s.toModule).trans hfailed
  | spawn spawns config hhook =>
      show (s.slots.spawnWithOnBatchFactoryInner spawns).1.spawnFailed = true
      rw [spawnFailed_spawn spawns hfailed]
      exact hfailed
  | _ => exact hfailed

theorem readsNotices_of_permits {e : DeliveryEvent Addr} (h : s.permits e = true) :
    e.readsNotices = false := by
  unfold permits DeliveryEvent.elsewhere at h
  cases hreads : e.readsNotices with
  | false => rfl
  | true =>
      unfold DeliveryEvent.readsNotices at hreads
      split at hreads
      · simp [DeliveryEvent.readsNotices] at h
      · cases hreads

/-! ### What `try_send` answers -/

theorem Stage.answer (h : Stage resolved.1 s)
    (hnone : s.threads () ≠ .noTrace) (hfailed : s.slots.spawnFailed = false) :
    s.answer = .ok ∨ s.answer = .full := by
  cases h with
  | loaded _ hfresh | disabled _ _ _ _ _ _ hfresh | installed _ _ _ _ _ hfresh =>
      exact absurd hfresh.thread hnone
  | running _ _ hslots _ _ hcalm =>
      have halive : s.toSystem.receiverAlive = true := by
        have hcalm' : s.toSystem.pc.calm = true := hcalm.pc
        unfold System.receiverAlive
        split
        case h_1 exit hpc =>
          rw [hpc] at hcalm'
          cases hcalm'
        case h_2 => rfl
      unfold Extension.answer Extension.receiverAlive
      rw [hslots, halive]
      cases s.hasRoom with
      | true => exact .inl rfl
      | false => exact .inr rfl
  | failed _ _ hslots =>
      rw [hslots] at hfailed
      cases hfailed
  | closing _ _ _ _ _ hthread | closed _ _ _ _ _ hthread => exact absurd hthread hnone

/-- **Every step of a thread is orderly**, unless a spawn was refused. -/
theorem orderly_act [DecidableEq Addr] {uuidToString : TraceId → String} {codec : WireCodec}
    {d : Instant} {args : StubIngest.Args} {target : String} {asError : ℕ → Option UreqError}
    {e' : PipelineEvent Unit Addr} {p : Pipeline Unit Addr} (h : Stage resolved.1 s)
    (hfailed : s.slots.spawnFailed = false)
    (hact : Act debugPath resolved s e (some e') m)
    (hstep : s.toPipeline.step uuidToString codec poster d args target asError e' = some p) :
    s.toPipeline.orderly e' = true := by
  generalize hasked : some e' = asked at hact
  cases hact with
  | allocate readings startTimeRealtimeNs config hhook =>
      cases hasked
      have hnone : s.threads () = .noTrace := h.thread (by simp [hhook])
      show PhpThread.orderly (s.threads ()) _ = true
      rw [hnone]
      rfl
  | observe e hhook he =>
      cases hasked
      show PhpThread.orderly (s.threads ()) e = true
      cases e with
      | rinit | trySend => cases he
      | _ => cases s.threads () <;> rfl
  | trySend hhook =>
      cases hasked
      obtain ⟨move, hmove, -⟩ := Pipeline.php_cases hstep
      have hnone : s.threads () ≠ .noTrace := by
        intro hnone
        rw [hnone] at hmove
        cases hmove
      have hanswer := h.answer hnone hfailed
      show PhpThread.orderly (s.threads ()) _ = true
      unfold PhpThread.orderly
      simpa using hanswer
  | rshutdown | drain | release =>
      cases hasked
      show PhpThread.orderly (s.threads ()) _ = true
      cases s.threads () <;> rfl
  | take | shutdown | join | drainDropNotices | delivery =>
      cases hasked
      rfl
  | startup | rinit | spawn | unobserved | emit | leave | senderless | threadless => cases hasked

end act

/-! ### The end of a process -/

theorem Stage.at_stop {config : Config} {s : Extension Addr} (h : Stage config s)
    (hstopped : s.hook = .stopped) :
    s.dropNotices = [] ∧
      ((s.Asleep ∧ (s.slots.spawnFailed = false → s.Unused)) ∨ ∃ exit, s.pc = .returned exit) := by
  cases h with
  | disabled _ _ _ _ _ _ hfresh =>
      exact ⟨hfresh.dropNotices, .inl ⟨hfresh.toAsleep, fun _ => hfresh.toUnused⟩⟩
  | failed _ _ hslots _ _ hasleep =>
      refine ⟨hasleep.dropNotices, .inl ⟨hasleep, fun hspawned => ?_⟩⟩
      rw [hslots] at hspawned
      cases hspawned
  | closed awake _ _ _ _ _ hunused hreturned hread =>
      refine ⟨hread.resolve_left (by simp [hstopped]), ?_⟩
      cases awake with
      | true => exact .inr (hreturned rfl)
      | false => exact .inl ⟨(hunused rfl).toAsleep, fun _ => hunused rfl⟩
  | loaded hmodule => simp [hmodule, Module.init] at hstopped
  | installed _ _ _ hhook | running _ _ _ hhook => simp [hstopped, HookPc.serving] at hhook
  | closing _ _ _ _ hhook => simp [hstopped] at hhook

theorem Stage.exit_eq_none {config : Config} {s : Extension Addr} (h : Stage config s)
    (hthread : s.threads () ≠ .noTrace) : s.pc.exit = none := by
  cases h with
  | loaded _ hfresh | disabled _ _ _ _ _ _ hfresh | installed _ _ _ _ _ hfresh =>
      exact absurd hfresh.thread hthread
  | running _ _ _ _ _ hcalm | failed _ _ _ _ _ _ hcalm => exact ShipperPc.exit_eq_none hcalm.pc
  | closing _ _ _ _ _ hnone | closed _ _ _ _ _ hnone => exact absurd hnone hthread

def observesBegin (arc : ArcId) (s : Extension Addr) : ExtensionEvent Addr → Bool
  | .observe e => s.observer = .recorder && (s.threads ()).observesBegin arc e
  | _ => false

section run

variable [DecidableEq Addr] {debugPath : String → String} {version : String}
  {resolved : Config × List ConfigWarning} {uuidToString : TraceId → String}
  {codec : WireCodec} {poster : RmpEncodeAndHttpPost} {d : Instant} {args : StubIngest.Args}
  {target : String} {asError : ℕ → Option UreqError} {files : String → Option (List UInt8)}
  {es : List (ExtensionEvent Addr)} {s s' : Extension Addr}

theorem tally_pipelineEvents (arc : ArcId) {e : ExtensionEvent Addr}
    (hstep : s.step debugPath version resolved uuidToString codec poster d args target asError e =
      some s') :
    tally (Pipeline.step uuidToString codec poster d args target asError)
        (Pipeline.observesBegin arc) s.toPipeline
        (s.pipelineEvents debugPath version resolved poster e) =
      if s.observesBegin arc e then 1 else 0 := by
  obtain ⟨e', hact, -, hevents⟩ := exists_act hstep
  obtain ⟨p, m⟩ := s'
  rw [hevents]
  dsimp only at hact
  cases hact with
  | observe e hhook he hobserver =>
      refine (tally_singleton _ _ _).trans ?_
      simp only [observesBegin, hobserver, decide_true, Bool.true_and]
      rfl
  | unobserved e _ hobserver => simp [observesBegin, hobserver]
  | allocate | trySend | rshutdown | drain | release | drainDropNotices | take | shutdown | join
  | delivery =>
      refine (tally_singleton _ _ _).trans ?_
      simp [observesBegin, Pipeline.observesBegin, PhpThread.observesBegin_eq_false]
  | _ => rfl

theorem along_pipelineEvents {P : Pipeline Unit Addr → Prop} {e : ExtensionEvent Addr}
    (hstep : s.step debugPath version resolved uuidToString codec poster d args target asError e =
      some s') (hs : P s.toPipeline) :
    Along (Pipeline.step uuidToString codec poster d args target asError) (fun s _ => P s)
      s.toPipeline (s.pipelineEvents debugPath version resolved poster e) := by
  obtain ⟨e', -, -, hevents⟩ := exists_act hstep
  rw [hevents]
  cases e' with
  | none => trivial
  | some e' => exact ⟨hs, fun _ _ => trivial⟩

/-- **Run lemma**: unless a spawn was refused, the pipeline runs orderly. -/
theorem orderly_run
    (h : run (step debugPath version resolved uuidToString codec poster d args target asError)
      (start files) es = some s) (hspawned : s.slots.spawnFailed = false) :
    Along (Pipeline.step uuidToString codec poster d args target asError)
      (fun s e => s.orderly e = true) (Pipeline.start Unit files)
      (matched (step debugPath version resolved uuidToString codec poster d args target asError)
        (pipelineEvents debugPath version resolved poster) (start files) es) := by
  have hrefines := refines_pipeline Addr debugPath version resolved uuidToString codec poster d
    args target asError
  refine run_induction (P := fun es (s : Extension Addr) => s.slots.spawnFailed = false →
    Along (Pipeline.step uuidToString codec poster d args target asError)
      (fun s e => s.orderly e = true) (Pipeline.start Unit files)
      (matched (step debugPath version resolved uuidToString codec poster d args target asError)
        (pipelineEvents debugPath version resolved poster) (start files) es))
    (fun _ => trivial) ?_ h hspawned
  intro es s e s' hpre ih hstep hspawned'
  obtain ⟨e', hact, hafter, hevents⟩ := exists_act hstep
  have hspawned : s.slots.spawnFailed = false := by
    cases hfailed : s.slots.spawnFailed with
    | false => rfl
    | true => exact (spawnFailed_act hact hfailed).symm.trans hspawned'
  rw [matched_snoc hpre]
  refine along_append.mpr ⟨ih hspawned, fun p hp => ?_⟩
  have hp' : some s.toPipeline = some p := (hrefines.run_matched hpre).symm.trans hp
  cases hp'
  rw [hevents]
  cases e' with
  | none => trivial
  | some e' => exact ⟨orderly_act (stage_run hpre) hspawned hact hafter, fun _ _ => trivial⟩

/-- **Run lemma**: no batch comes too late in a process. -/
theorem emptied_run
    (h : run (step debugPath version resolved uuidToString codec poster d args target asError)
      (start files) es = some s) : s.toShipper.Emptied := by
  refine run_induction (P := fun _ (s : Extension Addr) => s.toShipper.Emptied)
    (fun exit hexit => by cases hexit) ?_ h
  intro es s e s' hpre hs hstep
  obtain ⟨e', -, hafter, -⟩ := exists_act hstep
  cases e' with
  | none =>
      have hsame : s'.toPipeline = s.toPipeline := (Option.some.inj hafter).symm
      rw [hsame]
      exact hs
  | some e' =>
      have hafter : s.toPipeline.step uuidToString codec poster d args target asError e' =
        some s'.toPipeline := hafter
      cases e' with
      | php i e => exact Pipeline.emptied_php hs (stage_run hpre).exit_eq_none hafter
      | mshutdown e => exact Pipeline.emptied_mshutdown hs hafter
      | delivery e => exact Pipeline.emptied_delivery hs hafter

/-- A loop that has returned has left nothing behind. -/
theorem held_at_rest {exit : ShipperExit}
    (h : run (step debugPath version resolved uuidToString codec poster d args target asError)
      (start files) es = some s) (hpc : s.pc = .returned exit) :
    s.held = [] ∧ s.toSystem.receiverAlive = false := by
  have hpc' : s.toSystem.pc = .returned exit := hpc
  refine ⟨emptied_run h exit (by rw [hpc]; rfl), ?_⟩
  unfold System.receiverAlive
  rw [hpc']

omit [DecidableEq Addr] in
theorem account_unused (h : s.Unused) (arc : ArcId) : s.toSystem.account arc = 0 := by
  have hthreads : Places.total (PhpThread.recordsOf arc) s.toSystem.threads = 0 := by
    apply Places.total_eq_zero
    rintro ⟨⟩
    show PhpThread.recordsOf arc (s.threads ()) = 0
    rw [h.thread]
    rfl
  have hchannel : queueWeight (PendingBatch.recordsOf arc) s.toSystem.channel = 0 :=
    queueWeight_eq_zero _ h.channel
  have hshared : s.toSystem.shared = Shared.init := h.shared
  have hsettled : s.toSystem.settled = [] := h.settled
  have habandoned : s.toSystem.abandoned = [] := h.abandoned
  have hpc : s.toSystem.pc = .head := h.pc
  rw [System.account, hthreads, Shipper.account, Shipper.sentRecords, Shipper.abandonedRecords,
    hchannel, hshared, hsettled, habandoned, hpc]
  rfl

/-- **No byte is left**: when the last hook has returned, the budget is back at zero, whatever the
OS, the network and the deadline have done. -/
theorem budget_at_stop
    (h : run (step debugPath version resolved uuidToString codec poster d args target asError)
      (start files) es = some s) (hstopped : s.hook = .stopped) :
    s.shared.bytesInMemory = 0 ∧ s.shared.underflowed = false := by
  have hstage := stage_run h
  have hrun := (refines_pipeline Addr debugPath version resolved uuidToString codec poster d args
    target asError).run_matched h
  apply Pipeline.bytes_at_rest hrun (hstage.thread (by simp [hstopped]))
  rcases (hstage.at_stop hstopped).2 with ⟨hasleep, -⟩ | ⟨exit, hpc⟩
  · exact hasleep.held
  · exact (held_at_rest h hpc).1

/-- **Nothing is silently lost in a process.**  When the last hook has returned and no spawn was
refused, whatever the network does: the begins that the recorder observed for each trace are the
records of the stored batches, the drop counter, and the records abandoned at the deadline. -/
theorem every_request_is_accounted_for (hreaches : Reaches args target)
    (herror : ∀ status ∈ [401, 415, 400, 500], asError status ≠ none)
    (hfits : Along (step debugPath version resolved uuidToString codec poster d args target asError)
      (fun s _ => s.toDelivery.Fits uuidToString codec) (start files) es)
    (h : run (step debugPath version resolved uuidToString codec poster d args target asError)
      (start files) es = some s) (hstopped : s.hook = .stopped)
    (hspawned : s.slots.spawnFailed = false) :
    ∃ sent : List (PendingBatch × ℕ), (sent.map Prod.fst).Sublist s.enqueued ∧
      (sent.map fun x => wireForm uuidToString x.1 x.2).Sublist s.server.store ∧
      ∀ arc, tally (step debugPath version resolved uuidToString codec poster d args target asError)
          (observesBegin arc) (start files) es =
        (sent.map fun x => x.1.recordsOf arc).sum + s.shared.dropCounters arc +
          s.abandonedRecords arc := by
  have hstage := stage_run h
  have hrefines := refines_pipeline Addr debugPath version resolved uuidToString codec poster d
    args target asError
  have hrun := hrefines.run_matched h
  have horderly := orderly_run h hspawned
  have htally := fun arc =>
    hrefines.tally_matched (fun _ _ _ hstep => tally_pipelineEvents arc hstep) h
  rcases (hstage.at_stop hstopped).2 with ⟨-, hunused⟩ | ⟨exit, hpc⟩
  · have hunused := hunused hspawned
    refine ⟨[], List.nil_sublist _, List.nil_sublist _, fun arc => ?_⟩
    have hentries := Pipeline.entries_run hrun horderly arc
    rw [← htally]
    refine hentries.trans ?_
    rw [account_unused hunused, hunused.shared, Shipper.abandonedRecords, hunused.abandoned]
    rfl
  · obtain ⟨hheld, hreturned⟩ := held_at_rest h hpc
    have hfits' := hrefines.along_matched (fun _ _ _ hstep hfit =>
      along_pipelineEvents (P := fun p => p.toDelivery.Fits uuidToString codec) hstep hfit) h hfits
    have hphase := Pipeline.phase_run Delivery.delivers_atLeastOnce
      (Pipeline.exchanges_of_fits hreaches hfits' fun transmission _ server bytes wire _ =>
        stores_of_sent hreaches herror) hrun
    obtain ⟨sent, hsent, hstore⟩ := (Pipeline.store_at_rest hphase hreturned).exists_sublist
      fun copies hcopies => hcopies.1
    have hreleased : ∀ i, (s.threads i).released = true := by
      rintro ⟨⟩
      exact PhpThread.released_iff.mpr (hstage.thread (by simp [hstopped]))
    obtain ⟨hsub, hledger⟩ := Pipeline.accounted_at_rest horderly hrun hreleased hreturned hsent
    refine ⟨sent, hsub, hstore, fun arc => ?_⟩
    have hlost : s.toSystem.lostRecords arc = 0 := System.lostRecords_eq_zero hheld arc
    rw [← htally, ← Nat.add_zero (_ + s.abandonedRecords arc), ← hlost]
    exact hledger arc

/-! ### The error log -/

/-- The error log has what `MINIT` has logged, the warning of a refused spawn, and what the drains
have returned; some of the last notices may still be to be emitted. -/
structure Logged (debugPath : String → String) (resolved : Config × List ConfigWarning)
    (s : Extension Addr) : Prop where
  log : s.errorLog ++ s.hook.queue.map phpNotice =
    startupErrors debugPath resolved ++
      (if s.slots.spawnFailed then [spawnFailureWarning] else []) ++
        s.returnedNotices.map phpNotice
  queue : s.hook.queue.IsSuffix s.returnedNotices

omit [DecidableEq Addr] in
theorem Logged.quiet (h : s.Logged debugPath resolved) (herrorLog : s'.errorLog = s.errorLog)
    (hqueue : s'.hook.queue = s.hook.queue) (hfailed : s'.slots.spawnFailed = s.slots.spawnFailed)
    (hreturned : s'.returnedNotices = s.returnedNotices) : s'.Logged debugPath resolved := by
  constructor
  · rw [herrorLog, hqueue, hfailed, hreturned, h.log]
  · rw [hqueue, hreturned]
    exact h.queue

theorem Logged.php (h : s.Logged debugPath resolved) {e : PhpEvent} {p : Pipeline Unit Addr}
    {m : Module} (herrorLog : m.errorLog = s.errorLog) (hqueue : m.hook.queue = s.hook.queue)
    (hslots : m.slots = s.slots)
    (hstep : s.toPipeline.step uuidToString codec poster d args target asError (.php () e) =
      some p) :
    ({ toPipeline := p, toModule := m } : Extension Addr).Logged debugPath resolved := by
  refine h.quiet herrorLog hqueue (congrArg _ hslots) ?_
  obtain ⟨move, -, -, rfl⟩ := Pipeline.php_cases hstep
  rfl

theorem Logged.mshutdown (h : s.Logged debugPath resolved) {e : MshutdownEvent}
    {p : Pipeline Unit Addr} {m : Module} (herrorLog : m.errorLog = s.errorLog)
    (hqueue : m.hook.queue = s.hook.queue) (hfailed : m.slots.spawnFailed = s.slots.spawnFailed)
    (hstep : s.toPipeline.step uuidToString codec poster d args target asError (.mshutdown e) =
      some p) :
    ({ toPipeline := p, toModule := m } : Extension Addr).Logged debugPath resolved := by
  refine h.quiet herrorLog hqueue hfailed ?_
  obtain ⟨channel, closed, drainDeadline, mshutdown, rfl, -⟩ := Pipeline.mshutdown_eq hstep
  rfl

omit [DecidableEq Addr] in
/-- A spawn is refused at most once, before there is any notice. -/
theorem Logged.spawn (h : s.Logged debugPath resolved) (hstage : Stage resolved.1 s)
    (hhook : s.hook = .idle) (spawns : Bool) :
    ({ s with
        toModule := { s.toModule with
          slots := (s.slots.spawnWithOnBatchFactoryInner spawns).1
          hook := .rinit
          errorLog := s.errorLog ++ (s.slots.spawnWithOnBatchFactoryInner spawns).2 } } :
      Extension Addr).Logged debugPath resolved := by
  obtain ⟨hlog, -⟩ := h
  rw [hhook] at hlog
  refine ⟨?_, List.nil_suffix⟩
  cases hstage with
  | installed _ _ hslots _ _ hfresh =>
      have hreturned : s.returnedNotices = [] := hfresh.returnedNotices
      rw [hslots] at hlog ⊢
      simp only [hreturned, HookPc.queue] at hlog ⊢
      cases spawns with
      | true | false => simpa [ShipperSlots.spawnWithOnBatchFactoryInner, ShipperSlots.installed,
          ShipperSlots.init] using hlog
  | disabled _ _ _ hslots | running _ _ hslots | failed _ _ hslots =>
      rw [hslots] at hlog ⊢
      simpa [HookPc.queue, ShipperSlots.spawnWithOnBatchFactoryInner, ShipperSlots.init,
        ShipperSlots.started, ShipperSlots.refused] using hlog
  | loaded hmodule => simp [hmodule, Module.init] at hhook
  | closing _ _ _ _ hhook' => simp [hhook] at hhook'
  | closed _ _ _ _ hhook' => simp [hhook, HookPc.ending] at hhook'

/-- **Run lemma** for the error log. -/
theorem logged_run
    (h : run (step debugPath version resolved uuidToString codec poster d args target asError)
      (start files) es = some s) (hhook : s.hook ≠ .loaded) : s.Logged debugPath resolved := by
  refine run_induction (P := fun _ (s : Extension Addr) => s.hook ≠ .loaded →
    s.Logged debugPath resolved) (fun hne => absurd rfl hne) ?_ h hhook
  intro es s e s' hpre ih hstep hhook'
  have hstage := stage_run hpre
  obtain ⟨e', hact, hafter, -⟩ := exists_act hstep
  obtain ⟨p, m⟩ := s'
  dsimp only at hact hafter
  have hsome : ∀ e, e' = some e →
      s.toPipeline.step uuidToString codec poster d args target asError e = some p := by
    rintro e rfl
    exact hafter
  cases hact with
  | startup hhook =>
      cases hafter
      cases hstage with
      | loaded hmodule hfresh =>
          have hreturned : s.returnedNotices = [] := hfresh.returnedNotices
          refine ⟨?_, List.nil_suffix⟩
          rw [spawnFailed_startup]
          simp [hmodule, hreturned, startupBody, Module.init, ShipperSlots.init, HookPc.queue]
      | disabled _ _ _ _ hhook' | failed _ _ _ hhook' =>
          simp [hhook, HookPc.serving, HookPc.ending] at hhook'
      | installed _ _ _ hhook' | running _ _ _ hhook' | closed _ _ _ _ hhook' =>
          simp [hhook, HookPc.serving, HookPc.ending] at hhook'
      | closing _ _ _ _ hhook' => simp [hhook] at hhook'
  | rinit spawns hhook =>
      cases hafter
      exact (ih (by simp [hhook])).quiet rfl (by rw [hhook]; rfl) rfl rfl
  | spawn spawns config hhook =>
      cases hafter
      exact (ih (by simp [hhook])).spawn hstage hhook spawns
  | allocate readings startTimeRealtimeNs config hhook =>
      exact (ih (by simp [hhook])).php rfl (by rw [hhook]; rfl) rfl (hsome _ rfl)
  | unobserved e =>
      cases hafter
      exact ih hhook'
  | observe e hhook =>
      exact (ih hhook').php rfl rfl rfl (hsome _ rfl)
  | trySend hhook | drain hhook => exact (ih (by simp [hhook])).php rfl rfl rfl (hsome _ rfl)
  | rshutdown exit hhook =>
      refine (ih (by simp [hhook])).php rfl ?_ rfl (hsome _ rfl)
      rw [hhook]
      dsimp only
      split <;> rfl
  | release hhook =>
      exact (ih (by simp [hhook])).php rfl (by rw [hhook]; rfl) rfl (hsome _ rfl)
  | drainDropNotices last hhook =>
      obtain ⟨hlog, -⟩ := ih (by simp [hhook])
      obtain rfl := Pipeline.drainDropNotices_eq (hsome _ rfl)
      rw [hhook] at hlog
      constructor
      · simp only [HookPc.queue_emitQueued, List.map_append]
        rw [← List.append_assoc, ← hlog]
        simp [HookPc.queue]
      · simp only [HookPc.queue_emitQueued]
        exact List.suffix_append _ _
  | emit notice queue last hhook =>
      cases hafter
      obtain ⟨hlog, hqueue⟩ := ih (by simp [hhook])
      rw [hhook] at hlog hqueue
      constructor
      · simp only [HookPc.queue_emitQueued]
        rw [← hlog]
        simp [HookPc.queue]
      · simp only [HookPc.queue_emitQueued]
        exact (List.suffix_cons notice queue).trans hqueue
  | leave hhook | senderless _ hhook | threadless hhook =>
      cases hafter
      exact (ih (by simp [hhook])).quiet rfl (by rw [hhook]; rfl) rfl rfl
  | take config hhook =>
      exact (ih (by simp [hhook])).mshutdown rfl (by rw [hhook]; rfl) rfl (hsome _ rfl)
  | shutdown e hhook =>
      exact (ih (by simp [hhook])).mshutdown rfl rfl rfl (hsome _ rfl)
  | join hhook =>
      exact (ih (by simp [hhook])).mshutdown rfl (by rw [hhook]; rfl) rfl (hsome _ rfl)
  | delivery e hpermits =>
      exact (ih hhook').quiet rfl rfl rfl
        (Pipeline.returnedNotices_delivery (readsNotices_of_permits hpermits) (hsome _ rfl))

omit [DecidableEq Addr] in
theorem Logged.errorLog_eq (h : s.Logged debugPath resolved) (hreturned : s.returnedNotices = []) :
    s.errorLog = startupErrors debugPath resolved ++
      if s.slots.spawnFailed then [spawnFailureWarning] else [] := by
  obtain ⟨hlog, hqueue⟩ := h
  rw [hreturned] at hlog hqueue
  rw [List.suffix_nil.mp hqueue] at hlog
  simpa using hlog

/-- **The error log of a process.**  When the last hook has returned, every batch that was queued
has met its fate, in order; and the log is what `MINIT` has found, the warning if the spawn was
refused, and the notices of the dropped batches, in this order and each once. -/
theorem error_log_at_stop
    (h : run (step debugPath version resolved uuidToString codec poster d args target asError)
      (start files) es = some s) (hstopped : s.hook = .stopped) :
    s.enqueued = s.consumed.map Prod.fst ∧
      s.errorLog = startupErrors debugPath resolved ++
        (if s.slots.spawnFailed then [spawnFailureWarning] else []) ++
          (s.consumed.filterMap (noticeOf (poster.noticeEnv uuidToString))).map phpNotice := by
  have hrun := (refines_pipeline Addr debugPath version resolved uuidToString codec poster d args
    target asError).run_matched h
  obtain ⟨hread, hend⟩ := (stage_run h).at_stop hstopped
  have hheld : s.held = [] := by
    rcases hend with ⟨hasleep, -⟩ | ⟨exit, hpc⟩
    · exact hasleep.held
    · exact (held_at_rest h hpc).1
  have horder : s.enqueued = s.consumed.map Prod.fst ++ s.held := Pipeline.order_run hrun
  have hnoticed : s.returnedNotices ++ s.dropNotices = _ := Pipeline.noticed_run hrun
  obtain ⟨hlog, -⟩ := logged_run h (by simp [hstopped])
  constructor
  · rw [horder, hheld, List.append_nil]
  · rw [hread, List.append_nil] at hnoticed
    rw [← hnoticed, ← hlog, hstopped]
    exact (List.append_nil _).symm

/-- **A disabled extension only explains itself**: in every run with a configuration that disables
it, it observes nothing, installs nothing and leaves the server alone; and the error log says once
why it is disabled. -/
theorem disabled_only_explains_itself {readToString : String → Except String String} {raw : RawIni}
    (hoff : (Config.fromIniValues readToString raw).1.enabled = false)
    (h : run (step debugPath version (Config.fromIniValues readToString raw) uuidToString codec
      poster d args target asError) (start files) es = some s) (hhook : s.hook ≠ .loaded) :
    (∀ info, s.observer.shouldObserve s.config info = false) ∧ s.slots = .init ∧
      s.threads () = .noTrace ∧ s.shared = .init ∧ s.enqueued = [] ∧ s.server.store = [] ∧
      if raw.masterEnabled then
        s.errorLog = (Config.fromIniValues readToString raw).2.map (ConfigWarning.error debugPath) ∧
          (Config.fromIniValues readToString raw).2.countP ConfigWarning.disabling = 1
      else s.errorLog = [phpNotice "php_analyze: disabled by php_analyze.enabled = 0"] := by
  have hvalid := every_resolved_config_valid readToString raw
  have hlogged := logged_run h hhook
  cases stage_run h with
  | loaded hmodule => exact absurd (congrArg Module.hook hmodule) hhook
  | disabled _ hconfig hobserver hslots _ _ hfresh =>
      have hlog := hlogged.errorLog_eq hfresh.returnedNotices
      refine ⟨fun info => ?_, hslots, hfresh.thread, hfresh.shared, hfresh.enqueued, hfresh.store,
        ?_⟩
      · rw [hobserver]
        rfl
      · have hnone : ShipperSlots.init.spawnFailed = false := rfl
        rw [hslots, hnone, if_neg Bool.false_ne_true, List.append_nil] at hlog
        rw [hlog]
        unfold startupErrors emitMasterSwitchNoticeIfOff
        split
        case isTrue hmaster =>
          have hreason : (Config.fromIniValues readToString raw).1.disableReason ≠
              some .masterSwitchOff := by
            intro hreason
            rw [hvalid.master_iff.mp hreason] at hmaster
            cases hmaster
          dsimp only
          rw [if_neg hreason]
          exact ⟨List.append_nil _, hvalid.warned_once hoff hreason⟩
        case isFalse hmaster =>
          have hmaster : raw.masterEnabled = false := by simpa using hmaster
          dsimp only
          rw [if_pos (hvalid.master_iff.mpr hmaster), hvalid.quiet hmaster]
          rfl
  | installed hon | running hon | failed hon | closing _ hon | closed _ hon =>
      rw [hoff] at hon
      cases hon

theorem spawnFailed_run (hfailed : s.slots.spawnFailed = true)
    (h : run (step debugPath version resolved uuidToString codec poster d args target asError) s
      es = some s') : s'.slots.spawnFailed = true := by
  refine run_invariant (I := fun s : Extension Addr => s.slots.spawnFailed = true) ?_ h hfailed
  intro s e s' hstep hfailed
  obtain ⟨e', hact, -⟩ := exists_act hstep
  exact spawnFailed_act hact hfailed

/-- The OS is asked for the first thread, and refuses. -/
theorem spawnFailed_of_refusal (h : Stage resolved.1 s) (hreceiver : s.slots.receiver = true)
    (hstep : s.step debugPath version resolved uuidToString codec poster d args target asError
      (.rinit false) = some s') (hasked : s'.hook = .rinit) : s'.slots.spawnFailed = true := by
  obtain ⟨e', hact, -⟩ := exists_act hstep
  obtain ⟨p, m⟩ := s'
  dsimp only at hact hasked ⊢
  cases hact with
  | rinit => cases hasked
  | spawn _ config hhook =>
      cases h with
      | installed _ _ hslots =>
          rw [hslots]
          rfl
      | loaded hmodule => simp [hmodule, Module.init] at hhook
      | disabled _ _ _ hslots | running _ _ hslots | failed _ _ hslots =>
          rw [hslots] at hreceiver
          cases hreceiver
      | closing _ _ _ _ hhook' => simp [hhook] at hhook'
      | closed _ _ _ _ hhook' => simp [hhook, HookPc.ending] at hhook'

/-- Nothing was queued, and nothing is. -/
theorem silent_of_spawnFailed
    (h : run (step debugPath version resolved uuidToString codec poster d args target asError)
      (start files) es = some s) (hfailed : s.slots.spawnFailed = true) :
    s.answer = .noSender ∧ s.enqueued = [] ∧ s.consumed = [] ∧ s.server.store = [] ∧
      s.errorLog = startupErrors debugPath resolved ++ [spawnFailureWarning] := by
  cases stage_run h with
  | failed _ _ hslots hhook _ hasleep =>
      have hloaded : s.hook ≠ .loaded := by
        intro hloaded
        simp [hloaded, HookPc.serving, HookPc.ending] at hhook
      have hlog := (logged_run h hloaded).errorLog_eq hasleep.returnedNotices
      refine ⟨?_, hasleep.enqueued, ?_, hasleep.store, ?_⟩
      · unfold answer
        rw [hslots]
        rfl
      · show s.history.filterMap Change.consumed? = []
        rw [hasleep.history]
        rfl
      · rw [hlog, hfailed]
        rfl
  | loaded hmodule =>
      have hinit : s.slots = .init := congrArg Module.slots hmodule
      rw [hinit] at hfailed
      cases hfailed
  | disabled _ _ _ hslots | installed _ _ hslots | running _ _ hslots =>
      rw [hslots] at hfailed
      cases hfailed
  | closing awake _ _ hslots | closed awake _ _ hslots =>
      rw [hslots] at hfailed
      cases awake <;> cases hfailed

/-- **A refused spawn silences the process.**  An `RINIT` that asks the OS for the thread and is
refused sets the flag; and in every state after a state with the flag it is still set,
`try_send_batch` finds no `Sender`, nothing was ever queued, consumed or stored, and the error log
has the warning, once. -/
theorem refused_spawn_silences
    (h : run (step debugPath version resolved uuidToString codec poster d args target asError)
      (start files) es = some s) :
    (∀ s', s.slots.receiver = true →
      s.step debugPath version resolved uuidToString codec poster d args target asError
        (.rinit false) = some s' → s'.hook = .rinit → s'.slots.spawnFailed = true) ∧
    (s.slots.spawnFailed = true → ∀ later t,
      run (step debugPath version resolved uuidToString codec poster d args target asError) s
        later = some t →
      t.slots.spawnFailed = true ∧ t.answer = .noSender ∧ t.enqueued = [] ∧ t.consumed = [] ∧
        t.server.store = [] ∧
        t.errorLog = startupErrors debugPath resolved ++ [spawnFailureWarning]) := by
  constructor
  · intro s' hreceiver hstep hasked
    exact spawnFailed_of_refusal (stage_run h) hreceiver hstep hasked
  · intro hfailed later t hlater
    have hstill := spawnFailed_run hfailed hlater
    have hrun : run (step debugPath version resolved uuidToString codec poster d args target
        asError) (start files) (es ++ later) = some t := by
      rw [run_append, h]
      exact hlater
    exact ⟨hstill, silent_of_spawnFailed hrun hstill⟩

end run

/-! ### Two processes -/

/-- A configuration that leads to `Delivery.samplePoster`. -/
def sampleConfig : Config :=
  { Config.disabled .masterSwitchOff with
    enabled := true
    disableReason := none
    serverUrl := some "http://127.0.0.1:9999/v1/ingest"
    authToken := "s3cret"
    authTokenSource := .inline
    maxDepth := 1
    bufferCapBytes := 4096
    flushRecords := 1
    flushBytes := 4096
    retryCount := 2
    retryBackoff := fromMillis 200
    httpTimeout := fromMillis 5000
    shutdownGrace := 5
    shipperQueueDepth := 2 }

def sampleReadings : SapiReadings where
  sapiName := "cli"
  requestUri := none
  argv0 := some "index.php"
  pathTranslated := none
  hostname := some "host"
  pid := 1

def sampleStep : Extension ℕ → ExtensionEvent ℕ → Option (Extension ℕ) :=
  step id "0.1.0" (sampleConfig, [.httpScheme]) Uuid.hyphenated
    Pipeline.recordedCodec (Delivery.samplePoster "s3cret") 5
    StubIngest.sampleArgs "/v1/ingest" Delivery.statusAsError

def sampleStart : Extension ℕ := start fun _ => none

/-- A request that records two calls, each in a batch; the callee of the first is dropped at the
depth limit. -/
def oneRequest : List (ExtensionEvent ℕ) :=
  [.startup, .rinit true, .allocate sampleReadings 0, .observe (.beginGate .lazy (callSiteOf "f")),
    .observe (.beginAccept (entryAt 1)), .observe (.beginGate .lazy (callSiteOf "g")),
    .observe (.endCall (exitAt 2) false), .observe (.endCall (exitAt 3) false), .trySend] ++
    (callOf "h").map .observe ++
    [.trySend, .rshutdown (exitAt 4), .drain, .release, .drainDropNotices]

/-- The loop reads the `Drain`, and finds the channel closed. -/
def closeDown : List (ExtensionEvent ℕ) :=
  [.mshutdown, .shutdown .publishDrainDeadline, .shutdown (.sendDrain true), .shutdown .dropSender,
    .delivery (.shipper (.consumption .loop)), .delivery (.shipper (.consumption .recv)),
    .delivery (.shipper (.consumption .recv)), .shutdown .join, .drainDropNotices]

/-- A process with one request; these attempts send its batches. -/
def lifetime (first second : List (DeliveryEvent ℕ)) : List (ExtensionEvent ℕ) :=
  oneRequest ++
    (Delivery.take ++ first ++ DeliveryEvent.shipper .finish ::
      Delivery.take ++ second ++ [DeliveryEvent.shipper .finish]).map .delivery ++
    closeDown

/-- The answer to the first attempt is lost. -/
def lostAnswerLifetime : List (ExtensionEvent ℕ) :=
  lifetime (.attempt (.answered Delivery.sampleArrival (some .timeout)) :: Delivery.again ++
    [Delivery.answerArrives]) [Delivery.answerArrives]

def threeLost : List (DeliveryEvent ℕ) :=
  .attempt (.lost .connectionFailed) :: Delivery.again ++
    .attempt (.lost .connectionFailed) :: Delivery.again ++ [.attempt (.lost .connectionFailed)]

def droppedLifetime : List (ExtensionEvent ℕ) := lifetime threeLost threeLost ++ [.emit, .emit]

theorem along_fits {es : List (ExtensionEvent ℕ)}
    (h : Along sampleStep (fun s _ => s.toPipeline.handlesRecorded = true) sampleStart es) :
    Along sampleStep
      (fun s _ => s.toDelivery.Fits Uuid.hyphenated Pipeline.recordedCodec)
      sampleStart es :=
  along_iff.mpr fun pre e post t hes ht =>
    Pipeline.fits_recorded (along_iff.mp h pre e post t hes ht)

/-- Three begins were observed: two are records of the batches, of which the first is in the store
twice, and one is in the drop counter. -/
theorem every_request_is_accounted_for_lost_answer :
    ∃ s, run sampleStep sampleStart lostAnswerLifetime = some s ∧
      s.server.store = [Pipeline.recordedWire, Pipeline.recordedWire,
        Pipeline.secondRecordedWire 1] ∧
      ∃ sent : List (PendingBatch × ℕ), (sent.map Prod.fst).Sublist s.enqueued ∧
        (sent.map fun x => wireForm Uuid.hyphenated x.1 x.2).Sublist s.server.store ∧
        tally sampleStep (observesBegin 0) sampleStart lostAnswerLifetime =
          (sent.map fun x => x.1.recordsOf 0).sum + s.shared.dropCounters 0 +
            s.abandonedRecords 0 := by
  have hrun := (Option.some_get (show (run sampleStep sampleStart lostAnswerLifetime).isSome = true
    by decide +kernel)).symm
  obtain ⟨sent, hsent, hstored, hledger⟩ := every_request_is_accounted_for
    (Delivery.reaches_sample rfl) Delivery.rejections_fail (along_fits (by decide +kernel)) hrun
    (by decide +kernel) (by decide +kernel)
  exact ⟨_, hrun, by decide +kernel, sent, hsent, hstored, hledger 0⟩

theorem budget_at_stop_dropped :
    ∃ s, run sampleStep sampleStart droppedLifetime = some s ∧
      s.shared.bytesInMemory = 0 ∧ s.shared.underflowed = false := by
  have hrun := (Option.some_get (show (run sampleStep sampleStart droppedLifetime).isSome = true by
    decide +kernel)).symm
  exact ⟨_, hrun, budget_at_stop hrun (by decide +kernel)⟩

/-- Each batch is dropped after three attempts. -/
theorem error_log_at_stop_dropped :
    ∃ s, run sampleStep sampleStart droppedLifetime = some s ∧
      s.consumed = [(Pipeline.recordedBatch, .dropped true .connectRefused 3),
        (Pipeline.secondRecorded, .dropped true .connectRefused 3)] ∧
      s.enqueued = s.consumed.map Prod.fst ∧
      s.errorLog = startupErrors id (sampleConfig, [.httpScheme]) ++
        (if s.slots.spawnFailed then [spawnFailureWarning] else []) ++
          (s.consumed.filterMap (noticeOf
            ((Delivery.samplePoster "s3cret").noticeEnv Uuid.hyphenated))).map phpNotice := by
  have hrun := (Option.some_get (show (run sampleStep sampleStart droppedLifetime).isSome = true by
    decide +kernel)).symm
  exact ⟨_, hrun, by decide +kernel, error_log_at_stop hrun (by decide +kernel)⟩

def rawWithoutUrl : RawIni := { rawWithToken "alpha" with serverUrl := none }

theorem disabled_only_explains_itself_without_url :
    ∃ s, run (step id "0.1.0" (Config.fromIniValues (fun _ => .error "No such file") rawWithoutUrl)
        Uuid.hyphenated Pipeline.recordedCodec (Delivery.samplePoster "s3cret") 5
        StubIngest.sampleArgs "/v1/ingest" Delivery.statusAsError) sampleStart
          [.startup, .rinit true, .observe (.endCall (exitAt 2) false), .rshutdown (exitAt 4),
            .drainDropNotices, .mshutdown] = some s ∧
      (∀ info, s.observer.shouldObserve s.config info = false) ∧
      if rawWithoutUrl.masterEnabled then
        s.errorLog = (Config.fromIniValues (fun _ => .error "No such file") rawWithoutUrl).2.map
            (ConfigWarning.error id) ∧
          (Config.fromIniValues (fun _ => .error "No such file") rawWithoutUrl).2.countP
            ConfigWarning.disabling = 1
      else s.errorLog = [phpNotice "php_analyze: disabled by php_analyze.enabled = 0"] := by
  have hrun := (Option.some_get (show (run (step id "0.1.0"
    (Config.fromIniValues (fun _ => .error "No such file") rawWithoutUrl) Uuid.hyphenated
    Pipeline.recordedCodec (Delivery.samplePoster "s3cret") 5 StubIngest.sampleArgs
    "/v1/ingest" Delivery.statusAsError) sampleStart
      [.startup, .rinit true, .observe (.endCall (exitAt 2) false), .rshutdown (exitAt 4),
        .drainDropNotices, .mshutdown]).isSome = true by decide +kernel)).symm
  obtain ⟨hobserver, -, -, -, -, -, hlog⟩ :=
    disabled_only_explains_itself (by decide +kernel) hrun (by decide +kernel)
  exact ⟨_, hrun, hobserver, hlog⟩

/-- What comes after the refusal: a request that flushes its call, and another. -/
def afterRefusal : List (ExtensionEvent ℕ) :=
  [.allocate sampleReadings 0, .observe (.beginGate .lazy (callSiteOf "f")),
    .observe (.beginAccept (entryAt 1)), .observe (.endCall (exitAt 2) false), .trySend,
    .rshutdown (exitAt 4), .drain, .release, .drainDropNotices, .rinit true,
    .allocate sampleReadings 5]

def startedUp : Extension ℕ := (run sampleStep sampleStart [.startup]).get (by decide +kernel)

/-- After an `RINIT` to which the OS has refused the thread. -/
def refused : Extension ℕ := (sampleStep startedUp (.rinit false)).get (by decide +kernel)

theorem refused_spawn_silences_two_requests :
    ∃ t, run sampleStep sampleStart [.startup] = some startedUp ∧
      sampleStep startedUp (.rinit false) = some refused ∧
      run sampleStep refused afterRefusal = some t ∧ t.slots.spawnFailed = true ∧
      t.answer = .noSender ∧ t.enqueued = [] ∧ t.consumed = [] ∧ t.server.store = [] ∧
      t.errorLog = startupErrors id (sampleConfig, [.httpScheme]) ++ [spawnFailureWarning] := by
  have hstarted : run sampleStep sampleStart [.startup] = some startedUp :=
    (Option.some_get _).symm
  have hrefused : sampleStep startedUp (.rinit false) = some refused := (Option.some_get _).symm
  have hlater := (Option.some_get (show (run sampleStep refused afterRefusal).isSome = true by
    decide +kernel)).symm
  have hfailed := (refused_spawn_silences hstarted).1 _ (by decide +kernel) hrefused
    (by decide +kernel)
  have hrun := run_snoc_eq_some.mpr ⟨_, hstarted, hrefused⟩
  exact ⟨_, hstarted, hrefused, hlater, (refused_spawn_silences hrun).2 hfailed _ _ hlater⟩

end Extension

end PhpAnalyze
