import PhpAnalyze.AtLeastOnce
import PhpAnalyze.Ledger
import PhpAnalyze.Lib.Refinement

/-! # From the call to the store

`Pipeline` is the whole way of a call: the PHP threads of `System`, the shipper with its poster,
the network and the server of `Delivery`, and `drain_and_join_at_mshutdown`, all on one
process-wide state.  A step is one of a thread, of `MSHUTDOWN`, or of the delivery; only the
threads and `MSHUTDOWN` put messages in the channel.

The pipeline refines `System` (`refines_system`), and between the steps of the delivery its store
is the one that `Delivery` describes (`phase_run`).  Together they follow every observed begin to
its end (`every_call_is_stored_or_counted`). -/

namespace PhpAnalyze

open Machine

structure Pipeline (ι Addr : Type) extends Delivery Addr where
  threads : ι → PhpThread
  nextArc : ArcId
  mshutdown : Mshutdown

inductive PipelineEvent (ι Addr : Type) where
  | php (i : ι) (e : PhpEvent)
  | mshutdown (e : MshutdownEvent)
  | delivery (e : DeliveryEvent Addr)

/-- The shipper with all notices that were ever queued. -/
def Consumption.allNotices (c : Consumption) : Shipper :=
  { c.toShipper with dropNotices := c.returnedNotices ++ c.dropNotices }

namespace Pipeline

variable {ι Addr : Type}

/-- The process without the network and the server. -/
def toSystem (s : Pipeline ι Addr) : System ι where
  toShipper := s.toConsumption.allNotices
  threads := s.threads
  nextArc := s.nextArc
  mshutdown := s.mshutdown

def start (ι : Type) (files : String → Option (List UInt8)) : Pipeline ι Addr where
  toDelivery := .start Shared.init files
  threads := fun _ => .noTrace
  nextArc := 0
  mshutdown := .before

@[simp] theorem toSystem_start (files : String → Option (List UInt8)) :
    (start ι files : Pipeline ι Addr).toSystem = System.init ι := rfl

def own : DeliveryEvent Addr → Bool
  | .shipper (.consumption (.send _)) => false
  | .shipper (.consumption .close) => false
  | .shipper (.consumption (.publishDrainDeadline _)) => false
  | .shipper (.consumption (.other _)) => false
  | _ => true

section step

variable [DecidableEq ι] [DecidableEq Addr] (uuidToString : TraceId → String)
  (codec : WireCodec) (poster : RmpEncodeAndHttpPost) (d : Instant) (args : StubIngest.Args)
  (target : String) (asError : ℕ → Option UreqError)

def moved (s : Pipeline ι Addr) (i : ι) (e : PhpEvent) (move : PhpMove) : Pipeline ι Addr :=
  { s with
    shared := move.shared
    channel := s.channel ++ move.queued.toList.map .batch
    enqueued := s.enqueued ++ move.queued.toList
    threads := Function.update s.threads i move.thread
    nextArc := s.nextArc + System.allocates e }

/-- A step of the delivery, after which `MSHUTDOWN` is at `mshutdown`. -/
def deliver (s : Pipeline ι Addr) (e : DeliveryEvent Addr) (mshutdown : Mshutdown) :
    Option (Pipeline ι Addr) :=
  (s.toDelivery.step uuidToString codec poster d args target asError e).map fun delivery =>
    { s with toDelivery := delivery, mshutdown }

/-- `drain_and_join_at_mshutdown`; its deadline is `d`. -/
def mshutdownStep (s : Pipeline ι Addr) (e : MshutdownEvent) : Option (Pipeline ι Addr) :=
  match s.mshutdown, e with
  | .before, .takeSender grace =>
      if s.now + grace = d then some { s with mshutdown := .taken d } else none
  | .taken deadline, .publishDrainDeadline =>
      s.deliver uuidToString codec poster d args target asError
        (.shipper (.consumption (.publishDrainDeadline deadline))) (.published deadline)
  | .published deadline, .sendDrain delivered =>
      if delivered then
        if s.toSystem.receiverAlive then
          s.deliver uuidToString codec poster d args target asError
            (.shipper (.consumption (.send (.drain deadline)))) .drainSent
        else none
      else some { s with mshutdown := .drainSent }
  | .drainSent, .dropSender =>
      s.deliver uuidToString codec poster d args target asError
        (.shipper (.consumption .close)) .joining
  | .joining, .join =>
      match s.pc with
      | .returned exit => some { s with mshutdown := .joined exit }
      | _ => none
  | _, _ => none

def step (s : Pipeline ι Addr) : PipelineEvent ι Addr → Option (Pipeline ι Addr)
  | .php i e =>
      match (s.threads i).step s.nextArc s.shared e with
      | some move =>
          if move.queued.isSome && !s.toSystem.receiverAlive then none else some (s.moved i e move)
      | none => none
  | .mshutdown e => s.mshutdownStep uuidToString codec poster d args target asError e
  | .delivery e =>
      if own e then s.deliver uuidToString codec poster d args target asError e s.mshutdown
      else none

/-- What one step can do to the delivery; an attempt is a step of the delivery itself. -/
inductive Step (s : Pipeline ι Addr) : PipelineEvent ι Addr → Pipeline ι Addr → Prop
  | php (i e) (move : PhpMove) : Step s (.php i e) (s.moved i e move)
  | mshutdown (e mshutdown) : Step s (.mshutdown e) { s with mshutdown }
  | deliver {e delivery} (e' : DeliveryEvent Addr) (mshutdown)
      (hattempt : ∀ transmission, e' = .attempt transmission → e = .delivery e')
      (h : s.toDelivery.step uuidToString codec poster d args target asError e' = some delivery) :
      Step s e { s with toDelivery := delivery, mshutdown }

variable {uuidToString codec poster d args target asError}

/-- **The three kinds of steps.** -/
theorem step_cases {s s' : Pipeline ι Addr} {e : PipelineEvent ι Addr}
    (h : s.step uuidToString codec poster d args target asError e = some s') :
    Step uuidToString codec poster d args target asError s e s' := by
  cases e with
  | php i e =>
      simp only [step] at h
      split at h
      · split at h
        · cases h
        · cases h
          exact .php i e _
      · cases h
  | mshutdown e =>
      simp only [step, mshutdownStep] at h
      split at h
      · split at h
        · cases h
          exact .mshutdown _ _
        · cases h
      · obtain ⟨delivery, hdelivery, rfl⟩ := Option.map_eq_some_iff.mp h
        exact .deliver (.shipper _) _ nofun hdelivery
      · split at h
        · split at h
          · obtain ⟨delivery, hdelivery, rfl⟩ := Option.map_eq_some_iff.mp h
            exact .deliver (.shipper _) _ nofun hdelivery
          · cases h
        · cases h
          exact .mshutdown _ _
      · obtain ⟨delivery, hdelivery, rfl⟩ := Option.map_eq_some_iff.mp h
        exact .deliver (.shipper _) _ nofun hdelivery
      · split at h
        · cases h
          exact .mshutdown _ _
        · cases h
      · cases h
  | delivery e =>
      simp only [step] at h
      split at h
      · obtain ⟨delivery, hdelivery, rfl⟩ := Option.map_eq_some_iff.mp h
        exact .deliver e _ (fun _ _ => rfl) hdelivery
      · cases h

end step

end Pipeline

/-! ### The pipeline refines the process -/

/-- The steps of the loop in a step of the consumption. -/
def shipperEvents : ConsumptionEvent → List ShipperEvent
  | .loop => [.loop]
  | .recv => [.recv]
  | .timeout => [.timeout]
  | .tryRecv => [.tryRecv]
  | .dropReceiver => [.dropReceiver]
  | .encode true => [.encode]
  | .encode false => [.encode, .handled (.dropped .encodeFailed 0)]
  | .onBatch outcome => [.handled outcome]
  | _ => []

namespace Shipper

/-- The shipper with these notices before its own. -/
def afterNotices (earlier : List String) (s : Shipper) : Shipper :=
  { s with dropNotices := earlier ++ s.dropNotices }

theorem step_afterNotices (env : NoticeEnv) (earlier : List String) (s : Shipper)
    (e : ShipperEvent) :
    (s.afterNotices earlier).step env e = (s.step env e).map (afterNotices earlier) := by
  obtain ⟨shared, channel, closed, drainDeadline, now, pc, drained, notices, settled,
    abandoned⟩ := s
  cases pc with
  | head => cases e <;> rfl
  | receiving deadline =>
      cases e with
      | recv =>
          cases channel with
          | nil => cases closed <;> rfl
          | cons message rest => cases message <;> rfl
      | timeout =>
          cases deadline with
          | none => rfl
          | some deadline =>
              show (if deadline ≤ now then _ else _) =
                Option.map _ (if deadline ≤ now then _ else _)
              split <;> rfl
      | loop | encode | handled | tryRecv | dropReceiver => cases deadline <;> rfl
  | consuming batch deadline => cases e <;> rfl
  | handling batch deadline droppedRecords =>
      cases e with
      | handled outcome =>
          cases outcome with
          | sent => rfl
          | dropped reason attempts =>
              simp [step, drainedConsume, afterNotices]
      | loop | recv | timeout | encode | tryRecv | dropReceiver => rfl
  | abandoning abandoned =>
      cases e with
      | tryRecv =>
          cases channel with
          | nil => rfl
          | cons message rest => cases message <;> rfl
      | loop | recv | timeout | encode | handled | dropReceiver => rfl
  | returning exit => cases e <;> rfl
  | returned exit => cases e <;> rfl

theorem run_afterNotices (env : NoticeEnv) (earlier : List String) (s : Shipper)
    (es : List ShipperEvent) :
    run (step env) (s.afterNotices earlier) es =
      (run (step env) s es).map (afterNotices earlier) := by
  induction es generalizing s with
  | nil => rfl
  | cons e es ih =>
      rw [run_cons, run_cons, step_afterNotices]
      cases s.step env e with
      | none => rfl
      | some s' => exact ih s'

end Shipper

namespace Consumption

variable {env : NoticeEnv} {c c' : Consumption} {e : ConsumptionEvent}

theorem run_allNotices {es : List ShipperEvent} {shipper : Shipper}
    (h : run (Shipper.step env) c.toShipper es = some shipper) :
    run (Shipper.step env) c.allNotices es =
      some { shipper with dropNotices := c.returnedNotices ++ shipper.dropNotices } := by
  have hnotices := Shipper.run_afterNotices env c.returnedNotices c.toShipper es
  rw [h] at hnotices
  exact hnotices

theorem run_shipperEvents (htick : ∀ now, e ≠ .tick now) (hclose : e ≠ .close)
    (hpublish : ∀ deadline, e ≠ .publishDrainDeadline deadline) (hother : ∀ op, e ≠ .other op)
    (hsend : ∀ message, e ≠ .send message) (h : c.step env e = some c') :
    run (Shipper.step env) c.allNotices (shipperEvents e) = some c'.allNotices := by
  cases e with
  | loop | recv | timeout | tryRecv | dropReceiver =>
      obtain ⟨shipper, hshipper, rfl⟩ := Option.map_eq_some_iff.mp h
      exact run_allNotices ((run_singleton _ _ _).trans hshipper)
  | encode ok =>
      simp only [step, encode] at h
      split at h
      case h_1 =>
        cases ok with
        | true =>
            obtain ⟨shipper, hshipper, rfl⟩ := Option.map_eq_some_iff.mp h
            exact run_allNotices ((run_singleton _ _ _).trans hshipper)
        | false =>
            rw [if_neg Bool.false_ne_true] at h
            obtain ⟨shipper, hshipper, rfl⟩ := Option.map_eq_some_iff.mp h
            obtain ⟨encoding, hencode, hhandled⟩ := Option.bind_eq_some_iff.mp hshipper
            exact run_allNotices (run_cons_eq_some.mpr
              ⟨encoding, hencode, (run_singleton _ _ _).trans hhandled⟩)
      case h_2 => cases h
  | onBatch outcome =>
      simp only [step, onBatch] at h
      split at h
      case h_1 hpc =>
        obtain ⟨shipper, hshipper, rfl⟩ := Option.map_eq_some_iff.mp h
        exact run_allNotices ((run_singleton _ _ _).trans hshipper)
      case h_2 => cases h
  | send message => exact absurd rfl (hsend message)
  | close => exact absurd rfl hclose
  | publishDrainDeadline deadline => exact absurd rfl (hpublish deadline)
  | tick now => exact absurd rfl (htick now)
  | other op => exact absurd rfl (hother op)
  | drainDropNotices =>
      cases h
      simp [shipperEvents, allNotices]

end Consumption

/-- The loop runs in the process as it runs alone. -/
theorem System.run_shipper {ι : Type*} [DecidableEq ι] {env : NoticeEnv} {s : System ι}
    {es : List ShipperEvent} {shipper : Shipper}
    (h : run (Shipper.step env) s.toShipper es = some shipper) :
    run (System.step env) s (es.map .shipper) = some { s with toShipper := shipper } := by
  induction es generalizing s with
  | nil =>
      cases h
      rfl
  | cons e es ih =>
      obtain ⟨next, hnext, hrun⟩ := run_cons_eq_some.mp h
      refine run_cons_eq_some.mpr ⟨{ s with toShipper := next }, ?_, ih hrun⟩
      show Option.map _ (s.toShipper.step env e) = _
      rw [hnext]
      rfl

namespace Pipeline

variable {ι Addr : Type}

/-- The steps of the process in a step of the pipeline. -/
def systemEvents (s : Pipeline ι Addr) : PipelineEvent ι Addr → List (SystemEvent ι)
  | .php i e => [.php i e]
  | .mshutdown e => [.mshutdown e]
  | .delivery (.shipper (.consumption (.tick now))) => [.tick now]
  | .delivery (.shipper (.consumption e)) => (shipperEvents e).map .shipper
  | .delivery (.shipper .finish) =>
      match s.program with
      | some (.ret (some outcome)) => [.shipper (.handled outcome)]
      | _ => []
  | .delivery _ => []

section refinement

variable {uuidToString : TraceId → String}
  {codec : WireCodec} {poster : RmpEncodeAndHttpPost} {d : Instant} {args : StubIngest.Args}
  {target : String} {asError : ℕ → Option UreqError} {s s' : Pipeline ι Addr}

section system

variable [DecidableEq ι]

theorem toSystem_consumption {e : ConsumptionEvent} {c : Consumption}
    (htick : ∀ now, e ≠ .tick now) (hown : own (.shipper (.consumption e) : DeliveryEvent Addr))
    (hc : s.toConsumption.step (poster.noticeEnv uuidToString) e = some c) :
    run (System.step (poster.noticeEnv uuidToString)) s.toSystem
        ((shipperEvents e).map .shipper) =
      some { s.toSystem with toShipper := c.allNotices } := by
  apply System.run_shipper
  refine Consumption.run_shipperEvents htick ?_ ?_ ?_ ?_ hc
  · rintro rfl
    cases hown
  · rintro deadline rfl
    cases hown
  · rintro op rfl
    cases hown
  · rintro message rfl
    cases hown

theorem toSystem_delivery [DecidableEq Addr] {e : DeliveryEvent Addr} {delivery : Delivery Addr}
    (hown : own e = true)
    (hstep : s.toDelivery.step uuidToString codec poster d args target asError e = some delivery) :
    run (System.step (poster.noticeEnv uuidToString)) s.toSystem (s.systemEvents (.delivery e)) =
      some { s.toSystem with toShipper := delivery.allNotices } := by
  by_cases htick : ∃ now, e = .shipper (.consumption (.tick now))
  · obtain ⟨now, rfl⟩ := htick
    by_cases hnow : s.now ≤ now
    · simp only [Delivery.step, Delivery.agrees, ↓reduceIte, Delivery.shipperStep,
        HttpShipper.step, HttpShipper.around, HttpShipper.agrees, hnow, decide_true,
        Consumption.step] at hstep
      cases hstep
      have hnow' : s.toSystem.now ≤ now := hnow
      simp only [systemEvents, run_singleton, System.step, hnow', ↓reduceIte]
      rfl
    · simp [Delivery.step, Delivery.agrees, Delivery.shipperStep, HttpShipper.step,
        HttpShipper.around, HttpShipper.agrees, hnow] at hstep
  · cases Delivery.step_cases hstep with
    | @around e c hencode honBatch hc =>
        have hnot : ∀ now, e ≠ .tick now := by
          rintro now rfl
          exact htick ⟨now, rfl⟩
        have h := toSystem_consumption hnot hown hc
        cases e with
        | tick now => exact absurd rfl (hnot now)
        | loop | recv | timeout | tryRecv | dropReceiver | encode | onBatch | send | close
        | publishDrainDeadline | other | drainDropNotices => exact h
    | handle hpc hbytes hc => exact toSystem_consumption (by simp) hown hc
    | call verdict hquiet hprogram => rfl
    | attempt transmission => rfl
    | @finish outcome c hprogram hc =>
        have h := Consumption.run_shipperEvents (by simp) (by simp) (by simp) (by simp) (by simp) hc
        have hevents : s.systemEvents (.delivery (.shipper .finish)) =
            [ShipperEvent.handled outcome].map .shipper := by
          simp only [systemEvents, hprogram, List.map_cons, List.map_nil]
        rw [hevents]
        exact System.run_shipper h
    | visit => rfl

end system

variable [DecidableEq Addr]

theorem toSystem_mshutdown {e : MshutdownEvent}
    (hstep : s.mshutdownStep uuidToString codec poster d args target asError e = some s') :
    s.toSystem.mshutdownStep e = some s'.toSystem := by
  unfold mshutdownStep at hstep
  split at hstep
  case h_1 grace hbefore =>
    have hbefore' : s.toSystem.mshutdown = .before := hbefore
    split at hstep
    case isTrue hd =>
      cases hstep
      simp only [System.mshutdownStep, hbefore']
      rw [← hd]
      rfl
    case isFalse => cases hstep
  case h_2 deadline htaken =>
    have htaken' : s.toSystem.mshutdown = .taken deadline := htaken
    obtain ⟨delivery, hdelivery, rfl⟩ := Option.map_eq_some_iff.mp hstep
    cases Delivery.step_cases hdelivery with
    | around _ _ hc =>
        cases hc
        simp only [System.mshutdownStep, htaken']
        rfl
  case h_3 deadline delivered hpublished =>
    have hpublished' : s.toSystem.mshutdown = .published deadline := hpublished
    cases delivered with
    | false =>
        cases hstep
        simp only [System.mshutdownStep, hpublished']
        rfl
    | true =>
        simp only [↓reduceIte] at hstep
        split at hstep
        case isTrue halive =>
          obtain ⟨delivery, hdelivery, rfl⟩ := Option.map_eq_some_iff.mp hstep
          cases Delivery.step_cases hdelivery with
          | around _ _ hc =>
              cases Consumption.step_cases hc with
              | send =>
                  have hput : System.receiverAlive { s.toSystem with mshutdown := .drainSent } =
                      true := halive
                  simp only [System.mshutdownStep, hpublished', ↓reduceIte, System.putDrain, hput]
                  rfl
        case isFalse => cases hstep
  case h_4 hsent =>
    have hsent' : s.toSystem.mshutdown = .drainSent := hsent
    obtain ⟨delivery, hdelivery, rfl⟩ := Option.map_eq_some_iff.mp hstep
    cases Delivery.step_cases hdelivery with
    | around _ _ hc =>
        cases hc
        simp only [System.mshutdownStep, hsent']
        rfl
  case h_5 hjoining =>
    have hjoining' : s.toSystem.mshutdown = .joining := hjoining
    split at hstep
    case h_1 exit hreturned =>
      cases hstep
      have hpc : s.toSystem.pc = .returned exit := hreturned
      simp only [System.mshutdownStep, hjoining', hpc]
      rfl
    case h_2 => cases hstep
  case h_6 => cases hstep

variable (ι Addr uuidToString codec poster d args target asError) in
/-- **The pipeline refines the process.** -/
theorem refines_system [DecidableEq ι] :
    Refines (step uuidToString codec poster d args target asError)
      (System.step (poster.noticeEnv uuidToString))
      (toSystem : Pipeline ι Addr → System ι) systemEvents := by
  intro s e s' hstep
  cases e with
  | php i e =>
      have hmove : (s.toSystem.threads i).step s.toSystem.nextArc s.toSystem.shared e =
          (s.threads i).step s.nextArc s.shared e := rfl
      show run (System.step _) s.toSystem [.php i e] = _
      simp only [step] at hstep
      simp only [run_singleton, System.step, hmove]
      split at hstep
      · split at hstep
        · cases hstep
        · cases hstep
          simp only [*]
          rfl
      · cases hstep
  | mshutdown e => exact (run_singleton _ _ _).trans (toSystem_mshutdown hstep)
  | delivery e =>
      simp only [step] at hstep
      split at hstep
      case isTrue hown =>
        obtain ⟨delivery, hdelivery, rfl⟩ := Option.map_eq_some_iff.mp hstep
        exact toSystem_delivery hown hdelivery
      case isFalse => cases hstep

end refinement

end Pipeline

end PhpAnalyze
