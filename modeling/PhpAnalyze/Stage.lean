import PhpAnalyze.EndToEnd
import PhpAnalyze.Extension

/-! # The stages of a process

A process with the extension is in one of seven stages, and each stage says what the slots are and
what the pipeline is doing.  Until the shipper thread is started the pipeline is `Asleep`, and
`Unused` until a request is recorded; until `MSHUTDOWN` the loop of the thread is `Calm`.

The hooks only move from one stage to another (`Stage.step`). -/

namespace PhpAnalyze

open Machine

namespace PhpThread

variable {arc : ArcId} {shared : Shared} {t : PhpThread} {e : PhpEvent} {move : PhpMove}

theorem released_iff : t.released = true ↔ t = .noTrace := by
  cases t <;> simp [released]

/-- Only an `Ok` of `try_send` puts a batch in the channel. -/
theorem queued_eq_none (h : t.step arc shared e = some move) (he : e ≠ .trySend .ok) :
    move.queued = none := by
  cases step_cases h with
  | send trace batch answer | sendLast trace batch answer =>
      have hanswer : answer ≠ .ok := by
        rintro rfl
        exact he rfl
      simp [TrySend.queued, hanswer]
  | _ => rfl

/-- Without a trace only `RINIT` does something. -/
theorem noTrace_step (h : PhpThread.noTrace.step arc shared e = some move)
    (he : ∀ identity limits startTimeRealtimeNs, e ≠ .rinit identity limits startTimeRealtimeNs) :
    move = ⟨.noTrace, shared, none⟩ := by
  cases step_cases h with
  | rinit identity limits startTimeRealtimeNs => exact absurd rfl (he _ _ _)
  | ignore => rfl

end PhpThread

/-! ### The loop before `MSHUTDOWN` -/

/-- The loop has neither seen a deadline nor returned. -/
def ShipperPc.calm : ShipperPc → Bool
  | .head => true
  | .receiving deadline => deadline.isNone
  | .consuming _ deadline => deadline.isNone
  | .handling _ deadline _ => deadline.isNone
  | .abandoning _ => false
  | .returning _ => false
  | .returned _ => false

/-- The channel is open, and only batches are in it; no deadline was published. -/
structure Shipper.Calm (s : Shipper) : Prop where
  isOpen : s.closed = false
  drainDeadline : s.drainDeadline = none
  channel : ∀ message ∈ s.channel, message.batch?.isSome = true
  pc : s.pc.calm = true

namespace Shipper.Calm

variable {env : NoticeEnv}

/-- **Step lemma**: a calm loop stays calm. -/
theorem step {s s' : Shipper} {e : ShipperEvent} (h : s.Calm) (hstep : Shipper.Step env s e s') :
    s'.Calm := by
  have hcalm := h.pc
  cases hstep with
  | loop hpc => exact { h with pc := by simp [ShipperPc.calm, h.drainDeadline] }
  | recvBatch deadline batch rest hpc hchannel =>
      rw [hpc] at hcalm
      refine { h with channel := fun message hmem => h.channel message ?_, pc := hcalm }
      rw [hchannel]
      exact List.mem_cons_of_mem _ hmem
  | recvDrain deadline entry rest hpc hchannel =>
      have hbatch := h.channel (.drain entry) (hchannel ▸ List.mem_cons_self)
      cases hbatch
  | recvClosed deadline hpc hchannel hclosed =>
      rw [h.isOpen] at hclosed
      cases hclosed
  | encode batch deadline hpc =>
      rw [hpc] at hcalm
      exact { h with pc := hcalm }
  | handled batch deadline droppedRecords outcome hpc =>
      rw [hpc] at hcalm
      obtain rfl := Option.isNone_iff_eq_none.mp hcalm
      cases outcome with
      | sent | dropped => exact ⟨h.isOpen, h.drainDeadline, h.channel, rfl⟩
  | timeout deadline hpc | abandonBatch _ _ _ hpc | skipDrain _ _ _ hpc | giveUp _ hpc
  | dropReceiver _ hpc =>
      rw [hpc] at hcalm
      cases hcalm

theorem consumption (Addr : Type) {c c' : Consumption} {e : ConsumptionEvent}
    (h : c.toShipper.Calm)
    (hown : Pipeline.own (.shipper (.consumption e) : DeliveryEvent Addr) = true)
    (hc : c.step env e = some c') : c'.toShipper.Calm := by
  cases Consumption.step_cases hc with
  | loop hloop | recv hloop | timeout hloop | tryRecv hloop | dropReceiver hloop =>
      exact h.step hloop
  | encode hpc =>
      have hcalm := h.pc
      rw [hpc] at hcalm
      exact { h with pc := hcalm }
  | encodeFailed hpc hloop =>
      have hcalm := h.pc
      rw [hpc] at hcalm
      refine step ?_ hloop
      exact { h with pc := hcalm }
  | onBatch outcome hpc hloop => exact h.step hloop
  | send | close | publishDrainDeadline | other => cases hown
  | tick | drainDropNotices => exact { h with }

end Shipper.Calm

namespace Pipeline

variable {Addr : Type}

/-- The shipper thread has not been started, and no batch was put in the channel. -/
structure Asleep (s : Pipeline Unit Addr) : Prop where
  pc : s.pc = .head
  program : s.program = none
  history : s.history = []
  enqueued : s.enqueued = []
  channel : ∀ message ∈ s.channel, message.batch? = none
  settled : s.settled = []
  abandoned : s.abandoned = []
  returnedNotices : s.returnedNotices = []
  dropNotices : s.dropNotices = []
  store : s.server.store = []

/-- No request was recorded either. -/
structure Unused (s : Pipeline Unit Addr) : Prop extends Asleep s where
  thread : s.threads () = .noTrace
  shared : s.shared = Shared.init

theorem unused_start (files : String → Option (List UInt8)) :
    (start Unit files : Pipeline Unit Addr).Unused where
  pc := rfl
  program := rfl
  history := rfl
  enqueued := rfl
  channel := fun _ h => absurd h List.not_mem_nil
  settled := rfl
  abandoned := rfl
  returnedNotices := rfl
  dropNotices := rfl
  store := rfl
  thread := rfl
  shared := rfl

section step

variable [DecidableEq Addr] {uuidToString : TraceId → String} {codec : WireCodec}
  {poster : RmpEncodeAndHttpPost} {d : Instant} {args : StubIngest.Args} {target : String}
  {asError : ℕ → Option UreqError} {s s' : Pipeline Unit Addr}

/-! ### What one step is -/

omit [DecidableEq Addr] in
@[simp] theorem threads_moved (s : Pipeline Unit Addr) (e : PhpEvent) (move : PhpMove) :
    (s.moved () e move).threads () = move.thread := by
  simp [moved]

theorem php_cases {e : PhpEvent}
    (h : s.step uuidToString codec poster d args target asError (.php () e) = some s') :
    ∃ move, (s.threads ()).step s.nextArc s.shared e = some move ∧
      (move.queued.isSome = true → s.toSystem.receiverAlive = true) ∧ s' = s.moved () e move := by
  simp only [step] at h
  split at h
  case h_1 move hmove =>
    split at h
    case isTrue => cases h
    case isFalse halive =>
      cases h
      refine ⟨move, hmove, fun hqueued => ?_, rfl⟩
      simpa [hqueued] using halive
  case h_2 => cases h

theorem delivery_cases {e : DeliveryEvent Addr}
    (h : s.step uuidToString codec poster d args target asError (.delivery e) = some s') :
    own e = true ∧ ∃ delivery,
      s.toDelivery.step uuidToString codec poster d args target asError e = some delivery ∧
      s' = { s with toDelivery := delivery } := by
  simp only [step] at h
  split at h
  case isTrue hown =>
    obtain ⟨delivery, hdelivery, rfl⟩ := Option.map_eq_some_iff.mp h
    exact ⟨hown, delivery, hdelivery, rfl⟩
  case isFalse => cases h

theorem tick_eq {now : Instant}
    (h : s.step uuidToString codec poster d args target asError
      (.delivery (.shipper (.consumption (.tick now)))) = some s') :
    s' = { s with now } := by
  obtain ⟨-, delivery, hdelivery, rfl⟩ := delivery_cases h
  cases Delivery.step_cases hdelivery with
  | around _ _ hc =>
      cases hc
      rfl

theorem visit_eq {e : StubIngest.Event Addr}
    (h : s.step uuidToString codec poster d args target asError (.delivery (.visit e)) =
      some s') : s' = s := by
  obtain ⟨-, delivery, hdelivery, rfl⟩ := delivery_cases h
  cases Delivery.step_cases hdelivery with
  | visit hmethod =>
      rw [StubIngest.dispatch_of_other (by simp [StubIngest.Event.isIngest, hmethod])
        (by simp [StubIngest.Event.isReset, hmethod])]

theorem drainDropNotices_eq
    (h : s.step uuidToString codec poster d args target asError
      (.delivery (.shipper (.consumption .drainDropNotices))) = some s') :
    s' = { s with
      returnedNotices := s.returnedNotices ++ s.dropNotices
      dropNotices := [] } := by
  obtain ⟨-, delivery, hdelivery, rfl⟩ := delivery_cases h
  cases Delivery.step_cases hdelivery with
  | around _ _ hc =>
      cases hc
      rfl

/-- What the steps of `drain_and_join_at_mshutdown` do. -/
inductive MshutdownStep (d : Instant) (s : Pipeline Unit Addr) :
    MshutdownEvent → Pipeline Unit Addr → Prop
  | take (grace) (hbefore : s.mshutdown = .before) :
      MshutdownStep d s (.takeSender grace) { s with mshutdown := .taken d }
  | publish (deadline) (htaken : s.mshutdown = .taken deadline) :
      MshutdownStep d s .publishDrainDeadline
        { s with drainDeadline := some deadline, mshutdown := .published deadline }
  | send (deadline) (hpublished : s.mshutdown = .published deadline) :
      MshutdownStep d s (.sendDrain true)
        { s with channel := s.channel ++ [.drain deadline], mshutdown := .drainSent }
  | giveUp (deadline) (hpublished : s.mshutdown = .published deadline) :
      MshutdownStep d s (.sendDrain false) { s with mshutdown := .drainSent }
  | close (hsent : s.mshutdown = .drainSent) :
      MshutdownStep d s .dropSender { s with closed := true, mshutdown := .joining }
  | join (exit) (hjoining : s.mshutdown = .joining) (hpc : s.pc = .returned exit) :
      MshutdownStep d s .join { s with mshutdown := .joined exit }

theorem mshutdown_cases {e : MshutdownEvent}
    (h : s.step uuidToString codec poster d args target asError (.mshutdown e) = some s') :
    MshutdownStep d s e s' := by
  simp only [step, mshutdownStep] at h
  split at h
  case h_1 grace hbefore =>
    split at h
    case isTrue =>
      cases h
      exact .take grace hbefore
    case isFalse => cases h
  case h_2 deadline htaken =>
    obtain ⟨delivery, hdelivery, rfl⟩ := Option.map_eq_some_iff.mp h
    cases Delivery.step_cases hdelivery with
    | around _ _ hc =>
        cases hc
        exact .publish deadline htaken
  case h_3 deadline delivered hpublished =>
    cases delivered with
    | false =>
        cases h
        exact .giveUp deadline hpublished
    | true =>
        rw [if_pos rfl] at h
        split at h
        case isTrue =>
          obtain ⟨delivery, hdelivery, rfl⟩ := Option.map_eq_some_iff.mp h
          cases Delivery.step_cases hdelivery with
          | around _ _ hc =>
              cases Consumption.step_cases hc with
              | send =>
                  simp only [ShipperMessage.batch?, Option.toList_none, List.append_nil]
                  exact .send deadline hpublished
        case isFalse => cases h
  case h_4 hsent =>
    obtain ⟨delivery, hdelivery, rfl⟩ := Option.map_eq_some_iff.mp h
    cases Delivery.step_cases hdelivery with
    | around _ _ hc =>
        cases hc
        exact .close hsent
  case h_5 hjoining =>
    split at h
    case h_1 exit hpc =>
      cases h
      exact .join exit hjoining hpc
    case h_2 => cases h
  case h_6 => cases h

/-- `MSHUTDOWN` puts a `Drain` in the channel, or nothing. -/
theorem mshutdown_eq {e : MshutdownEvent}
    (h : s.step uuidToString codec poster d args target asError (.mshutdown e) = some s') :
    ∃ channel closed drainDeadline mshutdown,
      s' = { s with channel, closed, drainDeadline, mshutdown } ∧
      (channel = s.channel ∨ ∃ deadline, channel = s.channel ++ [.drain deadline]) := by
  cases mshutdown_cases h with
  | send deadline => exact ⟨_, s.closed, s.drainDeadline, _, rfl, .inr ⟨deadline, rfl⟩⟩
  | take | publish | giveUp | close | join => exact ⟨_, _, _, _, rfl, .inl rfl⟩

/-! ### Nothing wakes a pipeline but the shipper thread -/

theorem Asleep.php (h : s.Asleep) {e : PhpEvent} (he : e ≠ .trySend .ok)
    (hstep : s.step uuidToString codec poster d args target asError (.php () e) = some s') :
    s'.Asleep := by
  obtain ⟨move, hmove, -, rfl⟩ := php_cases hstep
  have hqueued := PhpThread.queued_eq_none hmove he
  refine { h with enqueued := ?_, channel := ?_ }
  · simp [moved, hqueued, h.enqueued]
  · simpa [moved, hqueued] using h.channel

theorem Unused.php (h : s.Unused) {e : PhpEvent}
    (he : ∀ identity limits startTimeRealtimeNs, e ≠ .rinit identity limits startTimeRealtimeNs)
    (hstep : s.step uuidToString codec poster d args target asError (.php () e) = some s') :
    s'.Unused := by
  obtain ⟨move, hmove, -, rfl⟩ := php_cases hstep
  rw [h.thread] at hmove
  obtain rfl := PhpThread.noTrace_step hmove he
  refine { h with
    enqueued := (List.append_nil _).trans h.enqueued
    channel := ?_
    thread := threads_moved s e _ }
  show ∀ message ∈ s.channel ++ [], message.batch? = none
  rw [List.append_nil]
  exact h.channel

theorem Asleep.mshutdown (h : s.Asleep) {e : MshutdownEvent}
    (hstep : s.step uuidToString codec poster d args target asError (.mshutdown e) = some s') :
    s'.Asleep := by
  obtain ⟨channel, closed, drainDeadline, mshutdown, rfl, hchannel⟩ := mshutdown_eq hstep
  refine { h with channel := ?_ }
  rcases hchannel with rfl | ⟨deadline, rfl⟩
  · exact h.channel
  · intro message hmem
    rcases List.mem_append.mp hmem with hmem | hmem
    · exact h.channel message hmem
    · obtain rfl := List.mem_singleton.mp hmem
      rfl

theorem Unused.mshutdown (h : s.Unused) {e : MshutdownEvent}
    (hstep : s.step uuidToString codec poster d args target asError (.mshutdown e) = some s') :
    s'.Unused := by
  have hasleep := h.toAsleep.mshutdown hstep
  obtain ⟨channel, closed, drainDeadline, mshutdown, rfl, -⟩ := mshutdown_eq hstep
  exact { hasleep with thread := h.thread, shared := h.shared }

/-- While the thread sleeps only the time passes. -/
theorem Asleep.quiet (h : s.Asleep) {e : DeliveryEvent Addr}
    (he : e.elsewhere = true ∨ e.readsNotices = true)
    (hstep : s.step uuidToString codec poster d args target asError (.delivery e) = some s') :
    ∃ now, s' = { s with now } := by
  unfold DeliveryEvent.elsewhere DeliveryEvent.readsNotices at he
  rcases he with he | he
  · split at he
    · exact ⟨_, tick_eq hstep⟩
    · exact ⟨s.now, visit_eq hstep⟩
    · cases he
  · split at he
    · refine ⟨s.now, (drainDropNotices_eq hstep).trans ?_⟩
      simp only [h.dropNotices, List.append_nil]
    · cases he

theorem Asleep.delivery (h : s.Asleep) {e : DeliveryEvent Addr}
    (he : e.elsewhere = true ∨ e.readsNotices = true)
    (hstep : s.step uuidToString codec poster d args target asError (.delivery e) = some s') :
    s'.Asleep := by
  obtain ⟨now, rfl⟩ := h.quiet he hstep
  exact { h with }

theorem Unused.delivery (h : s.Unused) {e : DeliveryEvent Addr}
    (he : e.elsewhere = true ∨ e.readsNotices = true)
    (hstep : s.step uuidToString codec poster d args target asError (.delivery e) = some s') :
    s'.Unused := by
  obtain ⟨now, rfl⟩ := h.toAsleep.quiet he hstep
  exact { h with }

/-! ### The loop before and after `MSHUTDOWN` -/

theorem calm_php (h : s.toShipper.Calm) {e : PhpEvent}
    (hstep : s.step uuidToString codec poster d args target asError (.php () e) = some s') :
    s'.toShipper.Calm := by
  obtain ⟨move, -, -, rfl⟩ := php_cases hstep
  refine { h with channel := fun message hmem => ?_ }
  rcases List.mem_append.mp hmem with hmem | hmem
  · exact h.channel message hmem
  · obtain ⟨batch, -, rfl⟩ := List.mem_map.mp hmem
    rfl

theorem calm_delivery (h : s.toShipper.Calm) {e : DeliveryEvent Addr}
    (hstep : s.step uuidToString codec poster d args target asError (.delivery e) = some s') :
    s'.toShipper.Calm := by
  obtain ⟨hown, delivery, hdelivery, rfl⟩ := delivery_cases hstep
  cases Delivery.step_cases hdelivery with
  | around _ _ hc => exact h.consumption Addr hown hc
  | handle _ _ hc => exact h.consumption Addr rfl hc
  | finish _ hc => exact h.consumption Addr rfl hc
  | call | attempt | visit => exact { h with }

/-- A loop that has returned queues no notice. -/
theorem returned_delivery {exit : ShipperExit} (h : s.pc = .returned exit)
    {e : DeliveryEvent Addr}
    (hstep : s.step uuidToString codec poster d args target asError (.delivery e) = some s') :
    s'.pc = .returned exit ∧ (s.dropNotices = [] → s'.dropNotices = []) := by
  obtain ⟨hown, delivery, hdelivery, rfl⟩ := delivery_cases hstep
  cases Delivery.step_cases hdelivery with
  | @around e c _ _ hc =>
      cases Consumption.step_cases hc with
      | loop hloop | recv hloop | timeout hloop | tryRecv hloop | dropReceiver hloop =>
          cases hloop <;> simp_all
      | drainDropNotices => exact ⟨h, fun _ => rfl⟩
      | encode hpc | encodeFailed hpc | onBatch _ hpc =>
          rw [h] at hpc
          cases hpc
      | send | close | publishDrainDeadline | tick | other => exact ⟨h, id⟩
  | handle hpc =>
      have hpc' : s.pc = _ := hpc
      rw [h] at hpc'
      cases hpc'
  | finish _ hc =>
      cases Consumption.step_cases hc with
      | onBatch _ hpc =>
          have hpc' : s.pc = _ := hpc
          rw [h] at hpc'
          cases hpc'
  | call | attempt | visit => exact ⟨h, id⟩

/-! ### What a step leaves alone -/

theorem mshutdown_php {e : PhpEvent}
    (hstep : s.step uuidToString codec poster d args target asError (.php () e) = some s') :
    s'.mshutdown = s.mshutdown := by
  obtain ⟨move, -, -, rfl⟩ := php_cases hstep
  rfl

theorem thread_php (h : s.threads () = .noTrace) {e : PhpEvent}
    (he : ∀ identity limits startTimeRealtimeNs, e ≠ .rinit identity limits startTimeRealtimeNs)
    (hstep : s.step uuidToString codec poster d args target asError (.php () e) = some s') :
    s'.threads () = .noTrace := by
  obtain ⟨move, hmove, -, rfl⟩ := php_cases hstep
  rw [h] at hmove
  rw [PhpThread.noTrace_step hmove he, threads_moved]

theorem thread_release
    (hstep : s.step uuidToString codec poster d args target asError (.php () .release) =
      some s') : s'.threads () = .noTrace := by
  obtain ⟨move, hmove, -, rfl⟩ := php_cases hstep
  rw [threads_moved]
  generalize s.threads () = thread at hmove
  cases PhpThread.step_cases hmove with
  | ignore | release => rfl

theorem frame_delivery {e : DeliveryEvent Addr}
    (hstep : s.step uuidToString codec poster d args target asError (.delivery e) = some s') :
    s'.threads = s.threads ∧ s'.mshutdown = s.mshutdown := by
  obtain ⟨-, delivery, -, rfl⟩ := delivery_cases hstep
  exact ⟨rfl, rfl⟩

theorem thread_mshutdown {e : MshutdownEvent}
    (hstep : s.step uuidToString codec poster d args target asError (.mshutdown e) = some s') :
    s'.threads = s.threads := by
  obtain ⟨channel, closed, drainDeadline, mshutdown, rfl, -⟩ := mshutdown_eq hstep
  rfl

/-- `join` waits for the loop. -/
theorem returned_of_join
    (hstep : s.step uuidToString codec poster d args target asError (.mshutdown .join) =
      some s') : ∃ exit, s'.pc = .returned exit := by
  cases mshutdown_cases hstep with
  | join exit _ hpc => exact ⟨exit, hpc⟩

end step

/-- Neither a request nor `MSHUTDOWN` has begun. -/
structure Fresh (s : Pipeline Unit Addr) : Prop extends Unused s where
  calm : s.toShipper.Calm
  before : s.mshutdown = .before

theorem fresh_start (files : String → Option (List UInt8)) :
    (start Unit files : Pipeline Unit Addr).Fresh :=
  { unused_start files with
    calm := ⟨rfl, rfl, fun _ h => absurd h List.not_mem_nil, rfl⟩
    before := rfl }

section fresh

variable [DecidableEq Addr] {uuidToString : TraceId → String} {codec : WireCodec}
  {poster : RmpEncodeAndHttpPost} {d : Instant} {args : StubIngest.Args} {target : String}
  {asError : ℕ → Option UreqError} {s s' : Pipeline Unit Addr}

theorem Fresh.php (h : s.Fresh) {e : PhpEvent}
    (he : ∀ identity limits startTimeRealtimeNs, e ≠ .rinit identity limits startTimeRealtimeNs)
    (hstep : s.step uuidToString codec poster d args target asError (.php () e) = some s') :
    s'.Fresh :=
  { h.toUnused.php he hstep with
    calm := calm_php h.calm hstep
    before := (mshutdown_php hstep).trans h.before }

theorem Fresh.delivery (h : s.Fresh) {e : DeliveryEvent Addr}
    (he : e.elsewhere = true ∨ e.readsNotices = true)
    (hstep : s.step uuidToString codec poster d args target asError (.delivery e) = some s') :
    s'.Fresh :=
  { h.toUnused.delivery he hstep with
    calm := calm_delivery h.calm hstep
    before := (frame_delivery hstep).2.trans h.before }

end fresh

end Pipeline

/-! ### The stages -/

namespace ShipperSlots

/-- After `install_channel_at_minit`. -/
def installed (depth : ℕ) : ShipperSlots :=
  { init with sender := true, receiver := true, capacity := depth }

/-- After the OS has started the thread. -/
def started (depth : ℕ) : ShipperSlots :=
  { init with
    sender := true, spawned := true, handle := true, running := true, capacity := depth }

/-- After the OS has refused. -/
def refused (depth : ℕ) : ShipperSlots := { init with spawnFailed := true, capacity := depth }

/-- In `drain_and_join_at_mshutdown`, with the `Sender` taken. -/
def closing (awake : Bool) (depth : ℕ) : ShipperSlots :=
  { if awake then started depth else installed depth with sender := false }

/-- After `drain_and_join_at_mshutdown`. -/
def closed (awake : Bool) (depth : ℕ) : ShipperSlots :=
  { closing awake depth with handle := false }

end ShipperSlots

namespace HookPc

/-- After `MINIT` and before `MSHUTDOWN`. -/
def serving : HookPc → Bool
  | .idle => true
  | .rinit => true
  | .request => true
  | .notices last => !last
  | .emitting _ last => !last
  | _ => false

/-- After `drain_and_join_at_mshutdown`. -/
def ending : HookPc → Bool
  | .notices last => last
  | .emitting _ last => last
  | .stopped => true
  | _ => false

theorem ending_eq_false {hook : HookPc} (h : hook.serving = true) : hook.ending = false := by
  cases hook with
  | notices last | emitting _ last => simpa [serving, ending] using h
  | loaded | mshutdown | stopped => cases h
  | idle | rinit | request => rfl

theorem serving_emitQueued (queue : List String) : (emitQueued queue false).serving = true := by
  unfold emitQueued
  split <;> rfl

theorem ending_emitQueued (queue : List String) : (emitQueued queue true).ending = true := by
  unfold emitQueued
  split <;> rfl

theorem emitQueued_ne (queue : List String) (last : Bool) :
    emitQueued queue last ≠ .rinit ∧ emitQueued queue last ≠ .request := by
  unfold emitQueued
  split
  · split <;> exact ⟨by simp, by simp⟩
  · exact ⟨by simp, by simp⟩

end HookPc

namespace Extension

/-- The stages of a process with this configuration. -/
inductive Stage {Addr : Type} (config : Config) (s : Extension Addr) : Prop
  | loaded (hmodule : s.toModule = .init) (hfresh : s.Fresh)
  | disabled (hoff : config.enabled = false) (hconfig : s.config = some config)
      (hobserver : s.observer = .disabled) (hslots : s.slots = .init)
      (hhook : s.hook.serving = true ∨ s.hook.ending = true) (hrinit : s.hook ≠ .rinit)
      (hfresh : s.Fresh)
  | installed (hon : config.enabled = true) (hconfig : s.config = some config)
      (hslots : s.slots = .installed config.shipperQueueDepth)
      (hhook : s.hook.serving = true) (hrinit : s.hook ≠ .rinit) (hfresh : s.Fresh)
  | running (hon : config.enabled = true) (hconfig : s.config = some config)
      (hslots : s.slots = .started config.shipperQueueDepth) (hhook : s.hook.serving = true)
      (hthread : s.hook ≠ .request → s.threads () = .noTrace) (hcalm : s.toShipper.Calm)
      (hbefore : s.toPipeline.mshutdown = .before)
  | failed (hon : config.enabled = true) (hconfig : s.config = some config)
      (hslots : s.slots = .refused config.shipperQueueDepth)
      (hhook : s.hook.serving = true ∨ s.hook.ending = true)
      (hthread : s.hook ≠ .request → s.threads () = .noTrace) (hasleep : s.Asleep)
      (hcalm : s.toShipper.Calm)
  | closing (awake : Bool) (hon : config.enabled = true) (hconfig : s.config = some config)
      (hslots : s.slots = .closing awake config.shipperQueueDepth) (hhook : s.hook = .mshutdown)
      (hthread : s.threads () = .noTrace) (hunused : awake = false → s.Unused)
  | closed (awake : Bool) (hon : config.enabled = true) (hconfig : s.config = some config)
      (hslots : s.slots = .closed awake config.shipperQueueDepth) (hhook : s.hook.ending = true)
      (hthread : s.threads () = .noTrace) (hunused : awake = false → s.Unused)
      (hreturned : awake = true → ∃ exit, s.pc = .returned exit)
      (hread : s.hook = .notices true ∨ s.dropNotices = [])

variable {Addr : Type} {config : Config} {s : Extension Addr}

theorem Stage.thread (h : Stage config s) (hhook : s.hook ≠ .request) :
    s.threads () = .noTrace := by
  cases h with
  | loaded _ hfresh | disabled _ _ _ _ _ _ hfresh | installed _ _ _ _ _ hfresh =>
      exact hfresh.thread
  | running _ _ _ _ hthread | failed _ _ _ _ hthread => exact hthread hhook
  | closing _ _ _ _ _ hthread | closed _ _ _ _ _ hthread => exact hthread

theorem Stage.config_eq (h : Stage config s) (hhook : s.hook ≠ .loaded) :
    s.config = some config := by
  cases h with
  | loaded hmodule => exact absurd (congrArg Module.hook hmodule) hhook
  | disabled _ hconfig | installed _ hconfig | running _ hconfig | failed _ hconfig => exact hconfig
  | closing _ _ hconfig | closed _ _ hconfig => exact hconfig

theorem Stage.enabled (h : Stage config s) {config' : Config} (hhook : s.hook ≠ .loaded)
    (hconfig : s.config = some config') (hon : config'.enabled = true) :
    config.enabled = true := by
  rw [h.config_eq hhook] at hconfig
  cases hconfig
  exact hon

/-! ### The hooks move from stage to stage -/

section hooks

variable {debugPath : String → String} {version : String}
  {resolved : Config × List ConfigWarning} {poster : RmpEncodeAndHttpPost}

theorem Stage.startup (h : Stage resolved.1 s) (hhook : s.hook = .loaded) :
    Stage resolved.1 { s with toModule := startupBody debugPath resolved s.toModule } := by
  cases h with
  | loaded hmodule hfresh =>
      rw [hmodule]
      cases hon : resolved.1.enabled with
      | true =>
          refine .installed hon rfl ?_ rfl (by simp [startupBody]) hfresh
          simp [startupBody, installShipperIfEnabled, hon, ShipperSlots.installChannelAtMinit,
            Module.init, ShipperSlots.init, ShipperSlots.installed]
      | false =>
          refine .disabled hon rfl ?_ ?_ (.inl rfl) (by simp [startupBody]) hfresh
          · simp [startupBody, buildBootObserver, hon]
          · simp [startupBody, installShipperIfEnabled, hon, Module.init]
  | disabled _ _ _ _ hhook' | failed _ _ _ hhook' =>
      simp [hhook, HookPc.serving, HookPc.ending] at hhook'
  | installed _ _ _ hhook' | running _ _ _ hhook' | closed _ _ _ _ hhook' =>
      simp [hhook, HookPc.serving, HookPc.ending] at hhook'
  | closing _ _ _ _ hhook' => simp [hhook] at hhook'

theorem Stage.rinit (h : Stage config s) (hhook : s.hook = .idle) :
    Stage config { s with toModule := { s.toModule with hook := .request } } := by
  have hnone : s.threads () = .noTrace := h.thread (by simp [hhook])
  cases h with
  | loaded hmodule => simp [hmodule, Module.init] at hhook
  | disabled hoff hconfig hobserver hslots _ _ hfresh =>
      exact .disabled hoff hconfig hobserver hslots (.inl rfl) (by simp) hfresh
  | installed hon hconfig hslots _ _ hfresh =>
      exact .installed hon hconfig hslots rfl (by simp) hfresh
  | running hon hconfig hslots _ _ hcalm hbefore =>
      exact .running hon hconfig hslots rfl (fun _ => hnone) hcalm hbefore
  | failed hon hconfig hslots _ _ hasleep hcalm =>
      exact .failed hon hconfig hslots (.inl rfl) (fun _ => hnone) hasleep hcalm
  | closing _ _ _ _ hhook' => simp [hhook] at hhook'
  | closed _ _ _ _ hhook' => simp [hhook, HookPc.ending] at hhook'

/-- The first call of the spawn starts the thread, or it fails; the others do nothing. -/
theorem Stage.spawn (h : Stage config s) {spawns : Bool} {errorLog : List PhpError}
    (hhook : s.hook = .idle) (hon : config.enabled = true) :
    Stage config
      { s with
        toModule := { s.toModule with
          slots := (s.slots.spawnWithOnBatchFactoryInner spawns).1
          hook := .rinit
          errorLog } } := by
  have hnone : s.threads () = .noTrace := h.thread (by simp [hhook])
  cases h with
  | loaded hmodule => simp [hmodule, Module.init] at hhook
  | disabled hoff =>
      rw [hoff] at hon
      cases hon
  | installed _ hconfig hslots _ _ hfresh =>
      rw [hslots]
      cases spawns with
      | true =>
          exact .running hon hconfig rfl rfl (fun _ => hfresh.thread) hfresh.calm hfresh.before
      | false =>
          exact .failed hon hconfig rfl (.inl rfl) (fun _ => hfresh.thread) hfresh.toAsleep
            hfresh.calm
  | running _ hconfig hslots _ _ hcalm hbefore =>
      rw [hslots]
      exact .running hon hconfig rfl rfl (fun _ => hnone) hcalm hbefore
  | failed _ hconfig hslots _ _ hasleep hcalm =>
      rw [hslots]
      exact .failed hon hconfig rfl (.inl rfl) (fun _ => hnone) hasleep hcalm
  | closing _ _ _ _ hhook' => simp [hhook] at hhook'
  | closed _ _ _ _ hhook' => simp [hhook, HookPc.ending] at hhook'

theorem Stage.leave (h : Stage config s) (hhook : s.hook = .idle) (hoff : config.enabled = false) :
    Stage config { s with toModule := { s.toModule with hook := .stopped } } := by
  cases h with
  | disabled _ hconfig hobserver hslots _ _ hfresh =>
      exact .disabled hoff hconfig hobserver hslots (.inr rfl) (by simp) hfresh
  | loaded hmodule => simp [hmodule, Module.init] at hhook
  | installed hon | running hon | failed hon | closing _ hon | closed _ hon =>
      rw [hoff] at hon
      cases hon

/-- Only a refused spawn leaves no `Sender`. -/
theorem Stage.senderless (h : Stage config s) (hhook : s.hook = .idle)
    (hon : config.enabled = true) (hsender : s.slots.sender = false) :
    Stage config { s with toModule := { s.toModule with hook := .notices true } } := by
  have hnone : s.threads () = .noTrace := h.thread (by simp [hhook])
  cases h with
  | failed _ hconfig hslots _ _ hasleep hcalm =>
      exact .failed hon hconfig hslots (.inr rfl) (fun _ => hnone) hasleep hcalm
  | loaded hmodule => simp [hmodule, Module.init] at hhook
  | disabled hoff =>
      rw [hoff] at hon
      cases hon
  | installed _ _ hslots | running _ _ hslots =>
      rw [hslots] at hsender
      cases hsender
  | closing _ _ _ _ hhook' => simp [hhook] at hhook'
  | closed _ _ _ _ hhook' => simp [hhook, HookPc.ending] at hhook'

theorem Stage.threadless (h : Stage config s) (hhook : s.hook = .mshutdown)
    (hhandle : s.slots.handle = false) :
    Stage config { s with toModule := { s.toModule with hook := .notices true } } := by
  cases h with
  | closing awake hon hconfig hslots _ hthread hunused =>
      cases awake with
      | true =>
          rw [hslots] at hhandle
          cases hhandle
      | false =>
          exact .closed false hon hconfig hslots rfl hthread hunused
            (fun h => absurd h Bool.false_ne_true) (.inl rfl)
  | loaded hmodule => simp [hmodule, Module.init] at hhook
  | disabled _ _ _ _ hhook' | failed _ _ _ hhook' =>
      simp [hhook, HookPc.serving, HookPc.ending] at hhook'
  | installed _ _ _ hhook' | running _ _ _ hhook' | closed _ _ _ _ hhook' =>
      simp [hhook, HookPc.serving, HookPc.ending] at hhook'

section pipeline

variable [DecidableEq Addr] {uuidToString : TraceId → String} {codec : WireCodec} {d : Instant}
  {args : StubIngest.Args} {target : String} {asError : ℕ → Option UreqError}
  {p : Pipeline Unit Addr}

/-- A step of the PHP thread between `MINIT` and `MSHUTDOWN`. -/
theorem Stage.php (h : Stage config s) {e : PhpEvent} {hook : HookPc}
    (hserving : s.hook.serving = true)
    (he : s.hook ≠ .rinit →
      ∀ identity limits startTimeRealtimeNs, e ≠ .rinit identity limits startTimeRealtimeNs)
    (hsend : s.slots.sender = false → e ≠ .trySend .ok)
    (hserving' : hook.serving = true) (hrinit' : hook ≠ .rinit)
    (hthread' : hook ≠ .request → p.threads () = .noTrace)
    (hstep : s.toPipeline.step uuidToString codec poster d args target asError (.php () e) =
      some p) :
    Stage config { toPipeline := p, toModule := { s.toModule with hook } } := by
  cases h with
  | loaded hmodule => simp [hmodule, Module.init, HookPc.serving] at hserving
  | disabled hoff hconfig hobserver hslots _ hrinit hfresh =>
      exact .disabled hoff hconfig hobserver hslots (.inl hserving') hrinit'
        (hfresh.php (he hrinit) hstep)
  | installed hon hconfig hslots _ hrinit hfresh =>
      exact .installed hon hconfig hslots hserving' hrinit' (hfresh.php (he hrinit) hstep)
  | running hon hconfig hslots _ _ hcalm hbefore =>
      exact .running hon hconfig hslots hserving' hthread' (Pipeline.calm_php hcalm hstep)
        ((Pipeline.mshutdown_php hstep).trans hbefore)
  | failed hon hconfig hslots _ _ hasleep hcalm =>
      exact .failed hon hconfig hslots (.inl hserving') hthread'
        (hasleep.php (hsend (congrArg ShipperSlots.sender hslots)) hstep)
        (Pipeline.calm_php hcalm hstep)
  | closing _ _ _ _ hhook => simp [hhook, HookPc.serving] at hserving
  | closed _ _ _ _ hhook => simp [HookPc.ending_eq_false hserving] at hhook

/-- A step of the delivery, or `drain_drop_notices`. -/
theorem Stage.delivery (h : Stage config s) {e : DeliveryEvent Addr}
    (he : s.permits e = true ∨ e.readsNotices = true)
    (hstep : s.toPipeline.step uuidToString codec poster d args target asError (.delivery e) =
      some p) :
    Stage config { s with toPipeline := p } := by
  obtain ⟨hthreads, hmshutdown⟩ := Pipeline.frame_delivery hstep
  have hthread : s.threads () = .noTrace → p.threads () = .noTrace :=
    (congrFun hthreads ()).trans
  have hquiet : s.slots.running = false → e.elsewhere = true ∨ e.readsNotices = true := by
    intro hrunning
    refine he.imp_left fun hpermits => ?_
    simpa [permits, hrunning] using hpermits
  cases h with
  | loaded hmodule hfresh =>
      exact .loaded hmodule (hfresh.delivery (hquiet (by rw [hmodule]; rfl)) hstep)
  | disabled hoff hconfig hobserver hslots hhook hrinit hfresh =>
      exact .disabled hoff hconfig hobserver hslots hhook hrinit
        (hfresh.delivery (hquiet (by rw [hslots]; rfl)) hstep)
  | installed hon hconfig hslots hhook hrinit hfresh =>
      exact .installed hon hconfig hslots hhook hrinit
        (hfresh.delivery (hquiet (by rw [hslots]; rfl)) hstep)
  | running hon hconfig hslots hhook hnone hcalm hbefore =>
      exact .running hon hconfig hslots hhook (fun hne => hthread (hnone hne))
        (Pipeline.calm_delivery hcalm hstep) (hmshutdown.trans hbefore)
  | failed hon hconfig hslots hhook hnone hasleep hcalm =>
      exact .failed hon hconfig hslots hhook (fun hne => hthread (hnone hne))
        (hasleep.delivery (hquiet (by rw [hslots]; rfl)) hstep) (Pipeline.calm_delivery hcalm hstep)
  | closing awake hon hconfig hslots hhook hnone hunused =>
      refine .closing awake hon hconfig hslots hhook (hthread hnone) fun hawake => ?_
      subst hawake
      exact (hunused rfl).delivery (hquiet (by rw [hslots]; rfl)) hstep
  | closed awake hon hconfig hslots hhook hnone hunused hreturned hread =>
      cases awake with
      | false =>
          have hquiet' := hquiet (by rw [hslots]; rfl)
          have hunused' := (hunused rfl).delivery hquiet' hstep
          exact .closed false hon hconfig hslots hhook hunused'.thread (fun _ => hunused')
            (fun h => absurd h Bool.false_ne_true) (.inr hunused'.dropNotices)
      | true =>
          obtain ⟨exit, hexit⟩ := hreturned rfl
          obtain ⟨hexit', hread'⟩ := Pipeline.returned_delivery hexit hstep
          exact .closed true hon hconfig hslots hhook (hthread hnone)
            (fun h => absurd h.symm Bool.false_ne_true) (fun _ => ⟨exit, hexit'⟩)
            (hread.imp_right hread')

/-- `MSHUTDOWN` takes the `Sender`. -/
theorem Stage.take (h : Stage config s) {grace : ℕ} (hhook : s.hook = .idle)
    (hon : config.enabled = true) (hsender : s.slots.sender = true)
    (hstep : s.toPipeline.step uuidToString codec poster d args target asError
      (.mshutdown (.takeSender grace)) = some p) :
    Stage config
      { toPipeline := p
        toModule := { s.toModule with
          slots := { s.slots with sender := false }
          hook := .mshutdown } } := by
  have hnone : s.threads () = .noTrace := h.thread (by simp [hhook])
  have hthread := (congrFun (Pipeline.thread_mshutdown hstep) ()).trans hnone
  cases h with
  | installed _ hconfig hslots _ _ hfresh =>
      rw [hslots]
      exact .closing false hon hconfig rfl rfl hthread fun _ => hfresh.toUnused.mshutdown hstep
  | running _ hconfig hslots =>
      rw [hslots]
      exact .closing true hon hconfig rfl rfl hthread fun h => absurd h.symm Bool.false_ne_true
  | loaded hmodule => simp [hmodule, Module.init] at hhook
  | disabled hoff =>
      rw [hoff] at hon
      cases hon
  | failed _ _ hslots =>
      rw [hslots] at hsender
      cases hsender
  | closing _ _ _ _ hhook' => simp [hhook] at hhook'
  | closed _ _ _ _ hhook' => simp [hhook, HookPc.ending] at hhook'

/-- What `drain_and_join_at_mshutdown` does to the channel and the cell. -/
theorem Stage.shutdown (h : Stage config s) {e : MshutdownEvent} (hhook : s.hook = .mshutdown)
    (hstep : s.toPipeline.step uuidToString codec poster d args target asError (.mshutdown e) =
      some p) : Stage config { s with toPipeline := p } := by
  cases h with
  | closing awake hon hconfig hslots _ hthread hunused =>
      refine .closing awake hon hconfig hslots hhook ?_
        fun hawake => (hunused hawake).mshutdown hstep
      exact (congrFun (Pipeline.thread_mshutdown hstep) ()).trans hthread
  | loaded hmodule => simp [hmodule, Module.init] at hhook
  | disabled _ _ _ _ hhook' | failed _ _ _ hhook' =>
      simp [hhook, HookPc.serving, HookPc.ending] at hhook'
  | installed _ _ _ hhook' | running _ _ _ hhook' | closed _ _ _ _ hhook' =>
      simp [hhook, HookPc.serving, HookPc.ending] at hhook'

theorem Stage.join (h : Stage config s) (hhook : s.hook = .mshutdown)
    (hhandle : s.slots.handle = true)
    (hstep : s.toPipeline.step uuidToString codec poster d args target asError
      (.mshutdown .join) = some p) :
    Stage config
      { toPipeline := p
        toModule := { s.toModule with
          slots := { s.slots with handle := false }
          hook := .notices true } } := by
  cases h with
  | closing awake hon hconfig hslots _ hthread hunused =>
      rw [hslots] at hhandle ⊢
      cases awake with
      | true =>
          refine .closed true hon hconfig rfl rfl ?_ (fun h => absurd h.symm Bool.false_ne_true)
            (fun _ => Pipeline.returned_of_join hstep) (.inl rfl)
          exact (congrFun (Pipeline.thread_mshutdown hstep) ()).trans hthread
      | false => cases hhandle
  | loaded hmodule => simp [hmodule, Module.init] at hhook
  | disabled _ _ _ _ hhook' | failed _ _ _ hhook' =>
      simp [hhook, HookPc.serving, HookPc.ending] at hhook'
  | installed _ _ _ hhook' | running _ _ _ hhook' | closed _ _ _ _ hhook' =>
      simp [hhook, HookPc.serving, HookPc.ending] at hhook'

end pipeline

/-- The loop of `emit_queued_drop_notices` goes on, or the hook returns. -/
theorem Stage.report (h : Stage config s) {queue : List String} {last : Bool}
    {errorLog : List PhpError}
    (hhook : s.hook = .notices last ∨ ∃ notice rest, s.hook = .emitting (notice :: rest) last)
    (hread : s.hook = .notices true → s.dropNotices = []) :
    Stage config
      { s with toModule := { s.toModule with hook := .emitQueued queue last, errorLog } } := by
  have hhere : s.hook.serving = !last ∧ s.hook.ending = last ∧ s.hook ≠ .loaded ∧
      s.hook ≠ .request ∧ s.hook ≠ .mshutdown := by
    rcases hhook with hhook | ⟨notice, rest, hhook⟩ <;> simp [hhook, HookPc.serving, HookPc.ending]
  obtain ⟨hserving, hending, hloaded, hrequest, hmshutdown⟩ := hhere
  have hnone := h.thread hrequest
  have hrinit' := (HookPc.emitQueued_ne queue last).1
  have hhook' : (HookPc.emitQueued queue last).serving = true ∨
      (HookPc.emitQueued queue last).ending = true := by
    cases last with
    | true => exact .inr (HookPc.ending_emitQueued _)
    | false => exact .inl (HookPc.serving_emitQueued _)
  cases h with
  | loaded hmodule => exact absurd (congrArg Module.hook hmodule) hloaded
  | disabled hoff hconfig hobserver hslots _ _ hfresh =>
      exact .disabled hoff hconfig hobserver hslots hhook' hrinit' hfresh
  | installed hon hconfig hslots hserving' _ hfresh =>
      obtain rfl : last = false := by simpa [hserving] using hserving'
      exact .installed hon hconfig hslots (HookPc.serving_emitQueued _) hrinit' hfresh
  | running hon hconfig hslots hserving' _ hcalm hbefore =>
      obtain rfl : last = false := by simpa [hserving] using hserving'
      exact .running hon hconfig hslots (HookPc.serving_emitQueued _) (fun _ => hnone) hcalm
        hbefore
  | failed hon hconfig hslots _ _ hasleep hcalm =>
      exact .failed hon hconfig hslots hhook' (fun _ => hnone) hasleep hcalm
  | closing _ _ _ _ hmshutdown' => exact absurd hmshutdown' hmshutdown
  | closed awake hon hconfig hslots hending' _ hunused hreturned hread' =>
      obtain rfl : last = true := hending.symm.trans hending'
      exact .closed awake hon hconfig hslots (HookPc.ending_emitQueued _) hnone hunused hreturned
        (.inr (hread'.elim hread id))

section run

variable [DecidableEq Addr] {uuidToString : TraceId → String} {codec : WireCodec} {d : Instant}
  {args : StubIngest.Args} {target : String} {asError : ℕ → Option UreqError}

/-- **Step lemma**: every step leads from a stage to a stage. -/
theorem Stage.step (h : Stage resolved.1 s) {s' : Extension Addr} {e : ExtensionEvent Addr}
    (hstep : s.step debugPath version resolved uuidToString codec poster d args target asError e =
      some s') : Stage resolved.1 s' := by
  obtain ⟨e', hact, hafter, -⟩ := exists_act hstep
  obtain ⟨p, m⟩ := s'
  dsimp only at hact hafter
  have hsome : ∀ e, e' = some e →
      s.toPipeline.step uuidToString codec poster d args target asError e = some p := by
    rintro e rfl
    exact hafter
  cases hact with
  | startup hhook =>
      cases hafter
      exact h.startup hhook
  | rinit spawns hhook =>
      cases hafter
      exact h.rinit hhook
  | spawn spawns config hhook hconfig hon =>
      cases hafter
      exact h.spawn hhook (h.enabled (by simp [hhook]) hconfig hon)
  | allocate readings startTimeRealtimeNs config hhook =>
      refine h.php (by rw [hhook]; rfl) (fun hne => absurd hhook hne) (by simp) rfl (by simp) ?_
        (hsome _ rfl)
      exact fun hne => absurd rfl hne
  | unobserved e =>
      cases hafter
      exact h
  | observe e hhook he =>
      have hnot : ∀ identity limits startTimeRealtimeNs,
          e ≠ .rinit identity limits startTimeRealtimeNs := by
        rintro identity limits startTimeRealtimeNs rfl
        cases he
      have hserving : s.hook.serving = true ∧ s.hook ≠ .rinit := by
        rcases hhook with hhook | hhook <;> simp [hhook, HookPc.serving]
      refine h.php hserving.1 (fun _ => hnot) ?_ hserving.1 hserving.2 ?_ (hsome _ rfl)
      · rintro - rfl
        cases he
      · exact fun hne => Pipeline.thread_php (h.thread hne) hnot (hsome _ rfl)
  | trySend hhook =>
      have hserving : s.hook.serving = true := by rw [hhook]; rfl
      refine h.php hserving (by simp) ?_ hserving (by simp [hhook]) (fun hne => absurd hhook hne)
        (hsome _ rfl)
      intro hsender
      simp [answer, hsender]
  | rshutdown exit hhook =>
      refine h.php (by rw [hhook]; rfl) (by simp) (by simp) (by split <;> rfl)
        (by split <;> simp) ?_ (hsome _ rfl)
      intro hne
      have hreleased : (s.threads ()).released = true := by simpa using hne
      exact Pipeline.thread_php (PhpThread.released_iff.mp hreleased) (by simp) (hsome _ rfl)
  | drain hhook =>
      have hserving : s.hook.serving = true := by rw [hhook]; rfl
      exact h.php hserving (by simp) (by simp) hserving (by simp [hhook])
        (fun hne => absurd hhook hne) (hsome _ rfl)
  | release hhook =>
      exact h.php (by rw [hhook]; rfl) (by simp) (by simp) rfl (by simp)
        (fun _ => Pipeline.thread_release (hsome _ rfl)) (hsome _ rfl)
  | drainDropNotices last hhook =>
      have hread : p.dropNotices = [] := by rw [Pipeline.drainDropNotices_eq (hsome _ rfl)]
      exact (h.delivery (.inr rfl) (hsome _ rfl)).report (.inl hhook) fun _ => hread
  | emit notice queue last hhook =>
      cases hafter
      exact h.report (.inr ⟨notice, queue, hhook⟩) (by simp [hhook])
  | leave hhook hoff =>
      cases hafter
      exact h.leave hhook (hoff _ (h.config_eq (by simp [hhook])))
  | take config hhook hconfig hon hsender =>
      exact h.take hhook (h.enabled (by simp [hhook]) hconfig hon) hsender (hsome _ rfl)
  | senderless config hhook hconfig hon hsender =>
      cases hafter
      exact h.senderless hhook (h.enabled (by simp [hhook]) hconfig hon) hsender
  | shutdown e hhook => exact h.shutdown hhook (hsome _ rfl)
  | join hhook hhandle => exact h.join hhook hhandle (hsome _ rfl)
  | threadless hhook hhandle =>
      cases hafter
      exact h.threadless hhook hhandle
  | delivery e hpermits => exact h.delivery (.inl hpermits) (hsome _ rfl)

/-- **Run lemma**: every process is in a stage. -/
theorem stage_run {files : String → Option (List UInt8)} {es : List (ExtensionEvent Addr)}
    (h : run (step debugPath version resolved uuidToString codec poster d args target asError)
      (start files) es = some s) : Stage resolved.1 s :=
  run_invariant (I := Stage resolved.1) (fun _ _ _ hstep hs => hs.step hstep) h
    (.loaded rfl (Pipeline.fresh_start files))

end run

end hooks

end Extension

end PhpAnalyze
