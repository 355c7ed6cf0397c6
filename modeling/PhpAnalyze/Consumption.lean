import PhpAnalyze.DropNotice
import PhpAnalyze.Lib.Machine

/-! # Every batch is consumed once, in order

`Consumption.step` puts the loop of the shipper among those it works with: whoever sends,
closes the channel and publishes the deadline, the encoder and the `OnBatch` step with any
outcomes, the PHP threads on the shared counters, and the readers of the drop notices.

`Account.apply` says what it is for: a batch that is taken out of the channel has one fate,
and each fate has its own effect.  The loop is a replay of the fates of the batches, in the
order in which they were put in the channel (`each_batch_handled_once`). -/

namespace PhpAnalyze

open Machine

/-! ### What consuming a batch means -/

inductive BatchFate where
  | sent
  /-- `encoded` tells whether the batch came as far as the `OnBatch` step. -/
  | dropped (encoded : Bool) (reason : DropReason) (attempts : ℕ)
  | abandoned
deriving DecidableEq, Repr

/-- The outcome that `drained_consume` has seen. -/
def BatchFate.outcome? : BatchFate → Option OnBatchOutcome
  | .sent => some .sent
  | .dropped _ reason attempts => some (.dropped reason attempts)
  | .abandoned => none

def BatchFate.encoding : BatchFate → Bool
  | .abandoned => false
  | _ => true

/-- The batch was passed to the `OnBatch` step. -/
def BatchFate.passed : BatchFate → Bool
  | .sent => true
  | .dropped encoded _ _ => encoded
  | .abandoned => false

/-- An operation of another thread on the shared counters. -/
inductive SharedOp where
  | add (bytes : ℕ)
  | sub (bytes : ℕ)
  | fetchAdd (arc : ArcId) (n : ℕ)
deriving DecidableEq, Repr

def SharedOp.apply : SharedOp → Shared → Shared
  | .add bytes, s => s.add bytes
  | .sub bytes, s => s.sub bytes
  | .fetchAdd arc n, s => s.fetchAdd arc n

/-- What can change the account. -/
inductive Change where
  | consumed (batch : PendingBatch) (fate : BatchFate)
  | other (op : SharedOp)
deriving DecidableEq

def Change.consumed? : Change → Option (PendingBatch × BatchFate)
  | .consumed batch fate => some (batch, fate)
  | .other _ => none

def Change.other? : Change → Option SharedOp
  | .consumed _ _ => none
  | .other op => some op

/-- What the outside sees of the consumption. -/
structure Account where
  shared : Shared
  batchesDrained : ℕ
  batchesAbandoned : ℕ
  notices : List String

def Account.start (shared : Shared) : Account where
  shared := shared
  batchesDrained := 0
  batchesAbandoned := 0
  notices := []

variable (env : NoticeEnv)

/-- A sent batch is counted as drained; a dropped one is counted by its drop counter and noticed
once; an abandoned one is counted as abandoned.  Each returns its bytes once. -/
def Account.apply (a : Account) : Change → Account
  | .consumed batch .sent =>
      { a with
        shared := a.shared.sub batch.sizeEstimate
        batchesDrained := a.batchesDrained + 1 }
  | .consumed batch (.dropped _ reason attempts) =>
      { a with
        shared :=
          (a.shared.fetchAdd batch.dropCounter batch.calls.length).sub batch.sizeEstimate
        notices := a.notices ++ [formatDropNotice env batch reason attempts] }
  | .consumed batch .abandoned =>
      { a with
        shared := a.shared.sub batch.sizeEstimate
        batchesAbandoned := a.batchesAbandoned + 1 }
  | .other op => { a with shared := op.apply a.shared }

def Account.replay (a : Account) (history : List Change) : Account :=
  history.foldl (Account.apply env) a

def noticeOf : PendingBatch × BatchFate → Option String
  | (batch, .dropped _ reason attempts) => some (formatDropNotice env batch reason attempts)
  | _ => none

def droppedBatch? : PendingBatch × BatchFate → Option PendingBatch
  | (batch, .dropped _ _ _) => some batch
  | _ => none

theorem map_namedRecords_noticeOf (c : PendingBatch × BatchFate) :
    (noticeOf env c).map namedRecords =
      (droppedBatch? c).map fun batch => some batch.calls.length := by
  obtain ⟨batch, fate⟩ := c
  cases fate with
  | dropped encoded reason attempts =>
      exact congrArg some (namedRecords_formatDropNotice env batch reason attempts)
  | _ => rfl

/-! ### The loop and its surroundings -/

inductive ConsumptionEvent where
  | loop
  | recv
  | timeout
  | tryRecv
  | dropReceiver
  | encode (ok : Bool)
  | onBatch (outcome : OnBatchOutcome)
  | send (message : ShipperMessage)
  | close
  | publishDrainDeadline (deadline : Instant)
  | tick (now : Instant)
  | other (op : SharedOp)
  | drainDropNotices
deriving DecidableEq

def ConsumptionEvent.other? : ConsumptionEvent → Option SharedOp
  | .other op => some op
  | _ => none

/-- The shipper with what there is to remember of a run. -/
structure Consumption extends Shipper where
  /-- The batches that were put in the channel. -/
  enqueued : List PendingBatch
  encoderCalls : List PendingBatch
  onBatchCalls : List PendingBatch
  /-- What all `drain_drop_notices` returned. -/
  returnedNotices : List String
  history : List Change

namespace Consumption

def start (shared : Shared) : Consumption where
  shared := shared
  channel := []
  closed := false
  drainDeadline := none
  now := 0
  pc := .head
  batchesDrained := 0
  dropNotices := []
  settled := []
  abandoned := []
  enqueued := []
  encoderCalls := []
  onBatchCalls := []
  returnedNotices := []
  history := []

def fateOf : OnBatchOutcome → BatchFate
  | .sent => .sent
  | .dropped reason attempts => .dropped true reason attempts

def nextBatch (s : Shipper) : Option PendingBatch := s.channel.head?.bind ShipperMessage.batch?

/-- A step of the loop that has no history. -/
def control (s : Consumption) (e : ShipperEvent) : Option Consumption :=
  (s.toShipper.step env e).map fun shipper => { s with toShipper := shipper }

/-- `encode_and_handle`, as far as the encoder decides. -/
def encode (s : Consumption) (ok : Bool) : Option Consumption :=
  match s.pc with
  | .consuming batch _ =>
      if ok then
        (s.toShipper.step env .encode).map fun shipper =>
          { s with
            toShipper := shipper
            encoderCalls := s.encoderCalls ++ [batch]
            onBatchCalls := s.onBatchCalls ++ [batch] }
      else
        ((s.toShipper.step env .encode).bind fun shipper =>
          shipper.step env (.handled (.dropped .encodeFailed 0))).map fun shipper =>
            { s with
              toShipper := shipper
              encoderCalls := s.encoderCalls ++ [batch]
              history := s.history ++ [.consumed batch (.dropped false .encodeFailed 0)] }
  | _ => none

def onBatch (s : Consumption) (outcome : OnBatchOutcome) : Option Consumption :=
  match s.pc with
  | .handling batch _ _ =>
      (s.toShipper.step env (.handled outcome)).map fun shipper =>
        { s with
          toShipper := shipper
          history := s.history ++ [.consumed batch (fateOf outcome)] }
  | _ => none

def step (s : Consumption) : ConsumptionEvent → Option Consumption
  | .loop => s.control env .loop
  | .recv => s.control env .recv
  | .timeout => s.control env .timeout
  | .tryRecv =>
      (s.toShipper.step env .tryRecv).map fun shipper =>
        { s with
          toShipper := shipper
          history := s.history ++
            (nextBatch s.toShipper).toList.map fun batch => .consumed batch .abandoned }
  | .dropReceiver => s.control env .dropReceiver
  | .encode ok => s.encode env ok
  | .onBatch outcome => s.onBatch env outcome
  | .send message =>
      if s.closed then none
      else some { s with
        channel := s.channel ++ [message]
        enqueued := s.enqueued ++ message.batch?.toList }
  | .close => some { s with closed := true }
  | .publishDrainDeadline deadline => some { s with drainDeadline := some deadline }
  | .tick now => some { s with now }
  | .other op => some { s with
      shared := op.apply s.shared
      history := s.history ++ [.other op] }
  | .drainDropNotices => some { s with
      returnedNotices := s.returnedNotices ++ s.dropNotices
      dropNotices := [] }

inductive Step (s : Consumption) : ConsumptionEvent → Consumption → Prop
  | loop {shipper} (h : Shipper.Step env s.toShipper .loop shipper) :
      Step s .loop { s with toShipper := shipper }
  | recv {shipper} (h : Shipper.Step env s.toShipper .recv shipper) :
      Step s .recv { s with toShipper := shipper }
  | timeout {shipper} (h : Shipper.Step env s.toShipper .timeout shipper) :
      Step s .timeout { s with toShipper := shipper }
  | tryRecv {shipper} (h : Shipper.Step env s.toShipper .tryRecv shipper) :
      Step s .tryRecv { s with
        toShipper := shipper
        history := s.history ++
          (nextBatch s.toShipper).toList.map fun batch => .consumed batch .abandoned }
  | dropReceiver {shipper} (h : Shipper.Step env s.toShipper .dropReceiver shipper) :
      Step s .dropReceiver { s with toShipper := shipper }
  | encode {batch deadline} (hpc : s.pc = .consuming batch deadline) :
      Step s (.encode true) { s with
        pc := .handling batch deadline (s.shared.dropCounters batch.dropCounter)
        encoderCalls := s.encoderCalls ++ [batch]
        onBatchCalls := s.onBatchCalls ++ [batch] }
  | encodeFailed {batch deadline shipper} (hpc : s.pc = .consuming batch deadline)
      (h : Shipper.Step env { s.toShipper with
          pc := .handling batch deadline (s.shared.dropCounters batch.dropCounter) }
        (.handled (.dropped .encodeFailed 0)) shipper) :
      Step s (.encode false) { s with
        toShipper := shipper
        encoderCalls := s.encoderCalls ++ [batch]
        history := s.history ++ [.consumed batch (.dropped false .encodeFailed 0)] }
  | onBatch {batch deadline droppedRecords shipper} (outcome)
      (hpc : s.pc = .handling batch deadline droppedRecords)
      (h : Shipper.Step env s.toShipper (.handled outcome) shipper) :
      Step s (.onBatch outcome) { s with
        toShipper := shipper
        history := s.history ++ [.consumed batch (fateOf outcome)] }
  | send (message) (hopen : s.closed = false) :
      Step s (.send message) { s with
        channel := s.channel ++ [message]
        enqueued := s.enqueued ++ message.batch?.toList }
  | close : Step s .close { s with closed := true }
  | publishDrainDeadline (deadline) :
      Step s (.publishDrainDeadline deadline) { s with drainDeadline := some deadline }
  | tick (now) : Step s (.tick now) { s with now }
  | other (op) :
      Step s (.other op) { s with
        shared := op.apply s.shared
        history := s.history ++ [.other op] }
  | drainDropNotices :
      Step s .drainDropNotices { s with
        returnedNotices := s.returnedNotices ++ s.dropNotices
        dropNotices := [] }

variable {env} in
/-- **The cases of a step.** -/
theorem step_cases {s s' : Consumption} {e : ConsumptionEvent} (h : s.step env e = some s') :
    Step env s e s' := by
  cases e with
  | loop =>
      obtain ⟨shipper, hshipper, rfl⟩ := Option.map_eq_some_iff.mp h
      exact .loop (Shipper.step_cases hshipper)
  | recv =>
      obtain ⟨shipper, hshipper, rfl⟩ := Option.map_eq_some_iff.mp h
      exact .recv (Shipper.step_cases hshipper)
  | timeout =>
      obtain ⟨shipper, hshipper, rfl⟩ := Option.map_eq_some_iff.mp h
      exact .timeout (Shipper.step_cases hshipper)
  | tryRecv =>
      obtain ⟨shipper, hshipper, rfl⟩ := Option.map_eq_some_iff.mp h
      exact .tryRecv (Shipper.step_cases hshipper)
  | dropReceiver =>
      obtain ⟨shipper, hshipper, rfl⟩ := Option.map_eq_some_iff.mp h
      exact .dropReceiver (Shipper.step_cases hshipper)
  | encode ok =>
      simp only [step, encode] at h
      split at h
      case h_1 batch deadline hpc =>
        have hencode : s.toShipper.step env .encode = some { s.toShipper with
            pc := .handling batch deadline (s.shared.dropCounters batch.dropCounter) } := by
          simp [Shipper.step, hpc]
        rw [hencode] at h
        cases ok with
        | true =>
            cases h
            exact .encode hpc
        | false =>
            rw [if_neg Bool.false_ne_true, Option.bind_some] at h
            obtain ⟨shipper, hhandled, rfl⟩ := Option.map_eq_some_iff.mp h
            exact .encodeFailed hpc (Shipper.step_cases hhandled)
      case h_2 => cases h
  | onBatch outcome =>
      simp only [step, onBatch] at h
      split at h
      case h_1 hpc =>
        obtain ⟨shipper, hshipper, rfl⟩ := Option.map_eq_some_iff.mp h
        exact .onBatch outcome hpc (Shipper.step_cases hshipper)
      case h_2 => cases h
  | send message =>
      simp only [step] at h
      split at h
      case isTrue => cases h
      case isFalse hopen =>
        cases h
        exact .send message (by simpa using hopen)
  | close =>
      cases h
      exact .close
  | publishDrainDeadline deadline =>
      cases h
      exact .publishDrainDeadline deadline
  | tick now =>
      cases h
      exact .tick now
  | other op =>
      cases h
      exact .other op
  | drainDropNotices =>
      cases h
      exact .drainDropNotices

/-! ### The account of a state -/

/-- What the loop has counted or returned as `batches_abandoned_at_deadline`. -/
def abandonedCount : ShipperPc → ℕ
  | .abandoning abandoned => abandoned
  | .returning exit => exit.batchesAbandonedAtDeadline
  | .returned exit => exit.batchesAbandonedAtDeadline
  | _ => 0

def account (s : Consumption) : Account where
  shared := s.shared
  batchesDrained := s.batchesDrained
  batchesAbandoned := abandonedCount s.pc
  notices := s.returnedNotices ++ s.dropNotices

/-- The batches that were taken out of the channel and have met their fate. -/
def consumed (s : Consumption) : List (PendingBatch × BatchFate) :=
  s.history.filterMap Change.consumed?

theorem consumed_snoc {s s' : Consumption} {batch : PendingBatch} {fate : BatchFate}
    (h : s'.history = s.history ++ [.consumed batch fate]) :
    s'.consumed = s.consumed ++ [(batch, fate)] := by
  simp [consumed, h, Change.consumed?]

def handling : ShipperPc → Option PendingBatch
  | .handling batch _ _ => some batch
  | _ => none

variable {env}

/-! ### The steps of the loop -/

/-- A step of the loop that consumes nothing and passes nothing on. -/
structure Quiet (s s' : Shipper) : Prop where
  shared : s'.shared = s.shared
  batchesDrained : s'.batchesDrained = s.batchesDrained
  dropNotices : s'.dropNotices = s.dropNotices
  abandonedCount : abandonedCount s'.pc = abandonedCount s.pc
  handling : handling s'.pc = handling s.pc
  held : s'.held = s.held

/-- The steps that have no history are quiet. -/
theorem quiet_step {s s' : Shipper} {e : ShipperEvent} (h : Shipper.Step env s e s')
    (he : e = .loop ∨ e = .recv ∨ e = .timeout ∨ e = .dropReceiver ∨
      e = .tryRecv ∧ nextBatch s = none) : Quiet s s' := by
  cases h with
  | loop hpc =>
      refine ⟨rfl, rfl, rfl, ?_, ?_, ?_⟩ <;> simp [hpc, abandonedCount, handling, Shipper.held,
        ShipperPc.batch]
  | recvBatch deadline batch rest hpc hchannel =>
      refine ⟨rfl, rfl, rfl, ?_, ?_, ?_⟩ <;> simp [hpc, hchannel, abandonedCount, handling,
        Shipper.held, ShipperPc.batch, ShipperMessage.batch?]
  | recvDrain deadline entry rest hpc hchannel =>
      refine ⟨rfl, rfl, rfl, ?_, ?_, ?_⟩ <;> simp [hpc, hchannel, abandonedCount, handling,
        Shipper.held, ShipperPc.batch, List.filterMap_cons, ShipperMessage.batch?]
  | recvClosed deadline hpc =>
      refine ⟨rfl, rfl, rfl, ?_, ?_, ?_⟩ <;> simp [hpc, abandonedCount, handling, Shipper.held,
        ShipperPc.batch, Shipper.closedExit]
  | timeout deadline hpc =>
      refine ⟨rfl, rfl, rfl, ?_, ?_, ?_⟩ <;> simp [hpc, abandonedCount, handling, Shipper.held,
        ShipperPc.batch]
  | skipDrain abandoned entry rest hpc hchannel =>
      refine ⟨rfl, rfl, rfl, ?_, ?_, ?_⟩ <;> simp [hchannel, Shipper.held,
        List.filterMap_cons, ShipperMessage.batch?]
  | giveUp abandoned hpc =>
      refine ⟨rfl, rfl, rfl, ?_, ?_, ?_⟩ <;> simp [hpc, abandonedCount, handling, Shipper.held,
        ShipperPc.batch, Shipper.deadlineExit]
  | dropReceiver exit hpc =>
      refine ⟨rfl, rfl, rfl, ?_, ?_, ?_⟩ <;> simp [hpc, abandonedCount, handling, Shipper.held,
        ShipperPc.batch]
  | abandonBatch abandoned batch rest hpc hchannel =>
      simp [nextBatch, hchannel, ShipperMessage.batch?] at he
  | encode | handled => simp at he

/-- What is true of the result of the loop. -/
def Exited (s : Shipper) : Prop :=
  ∀ exit, s.pc.exit = some exit → exit.batchesDrained = s.batchesDrained ∧
    (exit.drainCompleted = true →
      exit.batchesAbandonedAtDeadline = 0 ∧ s.channel = [] ∧ s.closed = true)

theorem exited_step {s s' : Shipper} {e : ShipperEvent} (h : Shipper.Step env s e s')
    (hs : Exited s) : Exited s' := by
  intro exit hexit
  cases h with
  | recvClosed deadline hpc hchannel hclosed =>
      cases hexit
      exact ⟨rfl, fun _ => ⟨rfl, hchannel, hclosed⟩⟩
  | giveUp abandoned hpc hchannel =>
      cases hexit
      exact ⟨rfl, fun hcompleted => by simp [Shipper.deadlineExit] at hcompleted⟩
  | dropReceiver exit' hpc => exact hs exit ((congrArg ShipperPc.exit hpc).trans hexit)
  | handled batch deadline droppedRecords outcome => simp at hexit
  | skipDrain abandoned entry rest hpc =>
      rw [show _ = s.pc from rfl, hpc] at hexit
      cases hexit
  | _ => cases hexit

/-! ### The invariant -/

/-- The counters are a replay of the history, and the history follows the channel. -/
structure Accounted (env : NoticeEnv) (shared : Shared) (es : List ConsumptionEvent)
    (s : Consumption) : Prop where
  account : s.account = (Account.start shared).replay env s.history
  others : s.history.filterMap Change.other? = es.filterMap ConsumptionEvent.other?
  order : s.enqueued = s.consumed.map Prod.fst ++ s.held
  encoder : s.encoderCalls =
    (s.consumed.filter fun c => c.2.encoding).map Prod.fst ++ (handling s.pc).toList
  onBatch : s.onBatchCalls =
    (s.consumed.filter fun c => c.2.passed).map Prod.fst ++ (handling s.pc).toList
  exited : Exited s.toShipper

theorem accounted_start (shared : Shared) : Accounted env shared [] (start shared) where
  account := rfl
  others := rfl
  order := rfl
  encoder := rfl
  onBatch := rfl
  exited := fun exit h => by cases h

theorem replay_snoc (a : Account) (history : List Change) (change : Change) :
    a.replay env (history ++ [change]) = (a.replay env history).apply env change := by
  simp [Account.replay]

variable {shared : Shared} {es : List ConsumptionEvent} {s : Consumption}

theorem Accounted.quiet (h : Accounted env shared es s) {shipper : Shipper} {e : ShipperEvent}
    (hstep : Shipper.Step env s.toShipper e shipper) (hquiet : Quiet s.toShipper shipper) :
    Accounted env shared es { s with toShipper := shipper } where
  account := by
    rw [← h.account]
    simp only [Consumption.account, hquiet.shared, hquiet.batchesDrained,
      hquiet.abandonedCount, hquiet.dropNotices]
  others := h.others
  order := h.order.trans (by rw [hquiet.held]; rfl)
  encoder := h.encoder.trans (by rw [hquiet.handling]; rfl)
  onBatch := h.onBatch.trans (by rw [hquiet.handling]; rfl)
  exited := exited_step hstep h.exited

/-- A batch meets its fate: it is the first that the shipper held. -/
theorem Accounted.consume (h : Accounted env shared es s) {s' : Consumption} {batch : PendingBatch}
    {fate : BatchFate} (hhistory : s'.history = s.history ++ [.consumed batch fate])
    (haccount : s'.account = s.account.apply env (.consumed batch fate))
    (henqueued : s'.enqueued = s.enqueued) (hheld : s.held = batch :: s'.held)
    (hencoder : s'.encoderCalls =
      (s.consumed.filter fun c => c.2.encoding).map Prod.fst ++
        if fate.encoding then [batch] else [])
    (honBatch : s'.onBatchCalls =
      (s.consumed.filter fun c => c.2.passed).map Prod.fst ++ if fate.passed then [batch] else [])
    (hhandling : handling s'.pc = none) (hexited : Exited s'.toShipper) :
    Accounted env shared es s' := by
  have hconsumed := consumed_snoc hhistory
  refine ⟨?_, ?_, ?_, ?_, ?_, hexited⟩
  · rw [haccount, hhistory, replay_snoc, h.account]
  · rw [hhistory, List.filterMap_append, h.others]
    exact List.append_nil _
  · rw [henqueued, h.order, hheld, hconsumed]
    simp
  · rw [hencoder, hconsumed, hhandling, List.filter_append, List.map_append]
    cases fate <;> simp [BatchFate.encoding]
  · rw [honBatch, hconsumed, hhandling, List.filter_append, List.map_append]
    cases hpassed : fate.passed <;> simp [hpassed]

theorem Accounted.tryRecv (h : Accounted env shared es s) {shipper : Shipper}
    (hstep : Shipper.Step env s.toShipper .tryRecv shipper) :
    Accounted env shared es { s with
      toShipper := shipper
      history := s.history ++
        (nextBatch s.toShipper).toList.map fun batch => .consumed batch .abandoned } := by
  have hexited := exited_step hstep h.exited
  cases hnext : nextBatch s.toShipper with
  | none =>
      have hquiet := h.quiet hstep (quiet_step hstep (.inr (.inr (.inr (.inr ⟨rfl, hnext⟩)))))
      simpa using hquiet
  | some batch =>
      cases hstep with
      | abandonBatch abandoned first rest hpc hchannel =>
          obtain rfl : first = batch := by
            simpa [nextBatch, hchannel, ShipperMessage.batch?] using hnext
          refine h.consume rfl ?_ rfl ?_ ?_ ?_ rfl hexited
          · simp [Consumption.account, Account.apply, hpc, abandonedCount]
          · simp [Shipper.held, hpc, hchannel, ShipperPc.batch, ShipperMessage.batch?]
          · simpa [hpc, handling, BatchFate.encoding] using h.encoder
          · simpa [hpc, handling, BatchFate.passed] using h.onBatch
      | skipDrain abandoned entry rest hpc hchannel =>
          simp [nextBatch, hchannel, ShipperMessage.batch?] at hnext
      | giveUp abandoned hpc hchannel =>
          simp [nextBatch, hchannel] at hnext

theorem account_drainedConsume (s : Consumption) (batch : PendingBatch) {fate : BatchFate}
    {outcome : OnBatchOutcome} (hfate : fate.outcome? = some outcome) {pc : ShipperPc}
    (hpc : abandonedCount s.pc = 0) (hpc' : abandonedCount pc = 0) (handlingPc : ShipperPc)
    (settled : List Settled) (encoderCalls : List PendingBatch) (history : List Change) :
    ({ s with
      toShipper := { { s.toShipper with pc := handlingPc }.drainedConsume env batch outcome with
        pc, settled }
      encoderCalls, history } : Consumption).account =
        s.account.apply env (.consumed batch fate) := by
  cases fate with
  | sent =>
      cases hfate
      simp [Consumption.account, Shipper.drainedConsume, bumpDropCounterOnDrop, Account.apply, hpc,
        hpc']
  | dropped encoded reason attempts =>
      cases hfate
      simp [Consumption.account, Shipper.drainedConsume, bumpDropCounterOnDrop, Account.apply, hpc,
        hpc']
  | abandoned => cases hfate

@[simp] theorem outcome?_fateOf (outcome : OnBatchOutcome) :
    (fateOf outcome).outcome? = some outcome := by
  cases outcome <;> rfl

@[simp] theorem passed_fateOf (outcome : OnBatchOutcome) : (fateOf outcome).passed = true := by
  cases outcome <;> rfl

@[simp] theorem encoding_fateOf (outcome : OnBatchOutcome) : (fateOf outcome).encoding = true := by
  cases outcome <;> rfl

@[simp] theorem abandonedCount_afterBatch (deadline : Option Instant) :
    abandonedCount (Shipper.afterBatch deadline) = 0 := by
  cases deadline <;> rfl

@[simp] theorem handling_afterBatch (deadline : Option Instant) :
    handling (Shipper.afterBatch deadline) = none := by
  cases deadline <;> rfl

theorem held_handled (s : Shipper) (batch : PendingBatch) (outcome : OnBatchOutcome)
    (deadline : Option Instant) (settled : List Settled) :
    ({ s.drainedConsume env batch outcome with
      pc := Shipper.afterBatch deadline, settled } : Shipper).held =
        s.channel.filterMap ShipperMessage.batch? := by
  cases outcome <;> simp [Shipper.held, Shipper.drainedConsume]

/-- `drained_consume` gives the batch that `OnBatch::handle` has, or that did not encode, its
fate. -/
theorem Accounted.handled (h : Accounted env shared es s) {shipper : Shipper} {pc : ShipperPc}
    {batch : PendingBatch} {deadline : Option Instant} {droppedRecords : ℕ}
    {outcome : OnBatchOutcome} {fate : BatchFate} {encoderCalls : List PendingBatch}
    (hpc : pc = .handling batch deadline droppedRecords)
    (hstep : Shipper.Step env { s.toShipper with pc } (.handled outcome) shipper)
    (hfate : fate.outcome? = some outcome) (hheld : s.pc.batch = some batch)
    (hcount : abandonedCount s.pc = 0)
    (hencoder : encoderCalls = (s.consumed.filter fun c => c.2.encoding).map Prod.fst ++
      if fate.encoding then [batch] else [])
    (honBatch : s.onBatchCalls =
      (s.consumed.filter fun c => c.2.passed).map Prod.fst ++ if fate.passed then [batch] else []) :
    Accounted env shared es { s with
      toShipper := shipper
      encoderCalls
      history := s.history ++ [.consumed batch fate] } := by
  have hexited := exited_step hstep fun exit hexit => by
    rw [hpc] at hexit
    cases hexit
  cases hstep with
  | handled batch' deadline' droppedRecords' _ hpc' =>
      obtain ⟨rfl, rfl, rfl⟩ : batch = batch' ∧ deadline = deadline' ∧
          droppedRecords = droppedRecords' := by simpa using hpc.symm.trans hpc'
      refine h.consume rfl ?_ rfl ?_ hencoder honBatch (handling_afterBatch _) hexited
      · exact account_drainedConsume s batch hfate hcount (abandonedCount_afterBatch _) _ _ _ _
      · simp only [held_handled]
        rw [Shipper.held, hheld]
        rfl

/-- **Step lemma**: every step keeps the account. -/
theorem Accounted.step (h : Accounted env shared es s) {e : ConsumptionEvent} {s' : Consumption}
    (hstep : s.step env e = some s') : Accounted env shared (es ++ [e]) s' := by
  have hsnoc : e.other? = none → Accounted env shared es s' →
      Accounted env shared (es ++ [e]) s' := by
    intro he h'
    refine { h' with others := h'.others.trans ?_ }
    simp [he]
  cases step_cases hstep with
  | loop hloop => exact hsnoc rfl (h.quiet hloop (quiet_step hloop (.inl rfl)))
  | recv hrecv => exact hsnoc rfl (h.quiet hrecv (quiet_step hrecv (.inr (.inl rfl))))
  | timeout htimeout =>
      exact hsnoc rfl (h.quiet htimeout (quiet_step htimeout (.inr (.inr (.inl rfl)))))
  | tryRecv htryRecv => exact hsnoc rfl (h.tryRecv htryRecv)
  | dropReceiver hdrop =>
      exact hsnoc rfl (h.quiet hdrop (quiet_step hdrop (.inr (.inr (.inr (.inl rfl))))))
  | @encode batch deadline hpc =>
      have hencoder := h.encoder
      have honBatch := h.onBatch
      rw [hpc] at hencoder honBatch
      refine hsnoc rfl ⟨?_, h.others, ?_, ?_, ?_, fun exit hexit => by cases hexit⟩
      · rw [← h.account]
        simp [Consumption.account, abandonedCount, hpc]
      · rw [h.order]
        simp [consumed, Shipper.held, hpc, ShipperPc.batch]
      · simpa [handling, consumed] using hencoder
      · simpa [handling, consumed] using honBatch
  | @encodeFailed batch deadline shipper hpc hhandled =>
      refine hsnoc rfl (h.handled rfl hhandled rfl (by rw [hpc]; rfl) (by rw [hpc]; rfl) ?_ ?_)
      · simpa [hpc, handling, BatchFate.encoding] using congrArg (· ++ [batch]) h.encoder
      · simpa [hpc, handling, BatchFate.passed] using h.onBatch
  | @onBatch batch deadline droppedRecords shipper outcome hpc hhandled =>
      refine hsnoc rfl (h.handled hpc hhandled (outcome?_fateOf outcome) (by rw [hpc]; rfl)
        (by rw [hpc]; rfl) ?_ ?_)
      · simpa [hpc, handling] using h.encoder
      · simpa [hpc, handling] using h.onBatch
  | send message hopen =>
      refine hsnoc rfl { h with order := ?_, exited := fun exit hexit => ?_ }
      · rw [h.order]
        cases message <;>
          simp [consumed, Shipper.held, List.filterMap_cons, ShipperMessage.batch?]
      · obtain ⟨hdrained, hcompleted⟩ := h.exited exit hexit
        exact ⟨hdrained, fun hd => absurd (hcompleted hd).2.2 (by simp [hopen])⟩
  | close =>
      refine hsnoc rfl { h with exited := fun exit hexit => ?_ }
      obtain ⟨hdrained, hcompleted⟩ := h.exited exit hexit
      exact ⟨hdrained, fun hd => ⟨(hcompleted hd).1, (hcompleted hd).2.1, rfl⟩⟩
  | publishDrainDeadline deadline => exact hsnoc rfl { h with }
  | tick now => exact hsnoc rfl { h with }
  | other op =>
      refine { h with account := ?_, others := ?_, order := ?_, encoder := ?_, onBatch := ?_ }
      · rw [replay_snoc, ← h.account]
        rfl
      · simp [h.others, Change.other?, ConsumptionEvent.other?]
      · simpa [consumed, List.filterMap_cons, Change.consumed?, Shipper.held] using h.order
      · simpa [consumed, List.filterMap_cons, Change.consumed?] using h.encoder
      · simpa [consumed, List.filterMap_cons, Change.consumed?] using h.onBatch
  | drainDropNotices =>
      refine hsnoc rfl { h with account := ?_ }
      rw [← h.account]
      simp [Consumption.account]

/-- **Run lemma.** -/
theorem accounted_run (h : run (step env) (start shared) es = some s) :
    Accounted env shared es s := by
  refine run_induction (P := Accounted env shared) (accounted_start shared) ?_ h
  intro es s e s' _ hs hstep
  exact hs.step hstep

/-! ### What a history adds up to -/

/-- The records that a consumed batch adds to this drop counter. -/
def droppedRecords (arc : ArcId) : PendingBatch × BatchFate → ℕ
  | (batch, .dropped _ _ _) => if arc = batch.dropCounter then batch.calls.length else 0
  | _ => 0

def addedRecords (arc : ArcId) : SharedOp → ℕ
  | .fetchAdd arc' n => if arc = arc' then n else 0
  | _ => 0

theorem filterMap_singleton {β : Type} (f : Change → Option β) (change : Change) :
    [change].filterMap f = (f change).toList := by
  cases hf : f change <;> simp [hf]

/-- A counter that goes up with each batch of one fate counts the batches of this fate. -/
theorem countP_replay {counter : Account → ℕ} {fate : BatchFate}
    (happly : ∀ a change, counter (a.apply env change) =
      counter a + change.consumed?.toList.countP fun c => c.2 = fate)
    (a : Account) (history : List Change) :
    counter (a.replay env history) = counter a +
      (history.filterMap Change.consumed?).countP fun c => c.2 = fate := by
  induction history using List.reverseRecOn with
  | nil => rfl
  | append_singleton history change ih =>
      rw [replay_snoc, happly, ih, List.filterMap_append, List.countP_append, filterMap_singleton,
        Nat.add_assoc]

theorem batchesDrained_replay (a : Account) (history : List Change) :
    (a.replay env history).batchesDrained = a.batchesDrained +
      (history.filterMap Change.consumed?).countP fun c => c.2 = .sent := by
  refine countP_replay (fun a change => ?_) a history
  match change with
  | .consumed batch .sent => rfl
  | .consumed batch (.dropped ..) => rfl
  | .consumed batch .abandoned => rfl
  | .other op => rfl

theorem batchesAbandoned_replay (a : Account) (history : List Change) :
    (a.replay env history).batchesAbandoned = a.batchesAbandoned +
      (history.filterMap Change.consumed?).countP fun c => c.2 = .abandoned := by
  refine countP_replay (fun a change => ?_) a history
  match change with
  | .consumed batch .sent => rfl
  | .consumed batch (.dropped ..) => rfl
  | .consumed batch .abandoned => rfl
  | .other op => rfl

theorem notices_replay (a : Account) (history : List Change) :
    (a.replay env history).notices = a.notices ++
      (history.filterMap Change.consumed?).filterMap (noticeOf env) := by
  induction history using List.reverseRecOn with
  | nil => exact (List.append_nil _).symm
  | append_singleton history change ih =>
      rw [replay_snoc, List.filterMap_append, List.filterMap_append, ← List.append_assoc, ← ih]
      match change with
      | .consumed batch .sent => exact (List.append_nil _).symm
      | .consumed batch (.dropped ..) => rfl
      | .consumed batch .abandoned => exact (List.append_nil _).symm
      | .other op => exact (List.append_nil _).symm

theorem dropCounters_apply (a : Account) (change : Change) (arc : ArcId) :
    (a.apply env change).shared.dropCounters arc = a.shared.dropCounters arc +
      ((change.consumed?.toList.map (droppedRecords arc)).sum +
        (change.other?.toList.map (addedRecords arc)).sum) := by
  match change with
  | .consumed batch .sent =>
      simp [Account.apply, Change.consumed?, Change.other?, droppedRecords]
  | .consumed batch (.dropped ..) =>
      simp [Account.apply, Change.consumed?, Change.other?, droppedRecords,
        Shared.dropCounters_fetchAdd]
  | .consumed batch .abandoned =>
      simp [Account.apply, Change.consumed?, Change.other?, droppedRecords]
  | .other (.add bytes) =>
      simp [Account.apply, Change.consumed?, Change.other?, SharedOp.apply, addedRecords]
  | .other (.sub bytes) =>
      simp [Account.apply, Change.consumed?, Change.other?, SharedOp.apply, addedRecords]
  | .other (.fetchAdd arc' n) =>
      simp [Account.apply, Change.consumed?, Change.other?, SharedOp.apply, addedRecords,
        Shared.dropCounters_fetchAdd]

theorem dropCounters_replay (a : Account) (history : List Change) (arc : ArcId) :
    (a.replay env history).shared.dropCounters arc = a.shared.dropCounters arc +
      (((history.filterMap Change.consumed?).map (droppedRecords arc)).sum +
        ((history.filterMap Change.other?).map (addedRecords arc)).sum) := by
  induction history using List.reverseRecOn with
  | nil => rfl
  | append_singleton history change ih =>
      rw [replay_snoc, dropCounters_apply, ih, List.filterMap_append, List.filterMap_append,
        filterMap_singleton, filterMap_singleton, List.map_append, List.map_append,
        List.sum_append, List.sum_append]
      omega

/-! ### The main result -/

/-- The batches of the channel are consumed exactly once, in order. -/
structure HandledOnce (env : NoticeEnv) (shared : Shared) (es : List ConsumptionEvent)
    (s : Consumption) : Prop extends Accounted env shared es s where
  inOrder : s.onBatchCalls.Sublist s.enqueued
  drained : s.batchesDrained = s.consumed.countP fun c => c.2 = .sent
  counted : ∀ arc, s.shared.dropCounters arc = shared.dropCounters arc +
    ((s.consumed.map (droppedRecords arc)).sum +
      ((es.filterMap ConsumptionEvent.other?).map (addedRecords arc)).sum)
  noticed : s.returnedNotices ++ s.dropNotices = s.consumed.filterMap (noticeOf env)
  named : (s.returnedNotices ++ s.dropNotices).map namedRecords =
    (s.consumed.filterMap droppedBatch?).map fun batch => some batch.calls.length
  abandonedOnce : abandonedCount s.pc = s.consumed.countP fun c => c.2 = .abandoned
  exit : ∀ exit, s.pc = .returned exit →
    exit.batchesDrained = (s.consumed.countP fun c => c.2 = .sent) ∧
      exit.batchesAbandonedAtDeadline = (s.consumed.countP fun c => c.2 = .abandoned) ∧
      (exit.drainCompleted = true →
        exit.batchesAbandonedAtDeadline = 0 ∧ s.encoderCalls = s.enqueued)

theorem handling_sublist_held (s : Shipper) : (handling s.pc).toList.Sublist s.held := by
  have hbatch : (handling s.pc).toList.Sublist s.pc.batch.toList := by
    cases s.pc <;> simp [handling, ShipperPc.batch]
  exact hbatch.trans (List.sublist_append_left _ _)

theorem filter_encoding_of_none_abandoned {consumed : List (PendingBatch × BatchFate)}
    (h : (consumed.countP fun c => c.2 = .abandoned) = 0) :
    (consumed.filter fun c => c.2.encoding) = consumed := by
  rw [List.filter_eq_self]
  intro c hc
  have hfate := List.countP_eq_zero.mp h c hc
  cases hfate' : c.2 with
  | abandoned => simp [hfate'] at hfate
  | _ => rfl

theorem Accounted.abandonedCount_eq (h : Accounted env shared es s) :
    abandonedCount s.pc = s.consumed.countP fun c => c.2 = .abandoned := by
  have hcount := congrArg Account.batchesAbandoned h.account
  rw [batchesAbandoned_replay] at hcount
  exact hcount.trans (Nat.zero_add _)

/-- **Each batch is handled once, in order**: in every run of the loop with its surroundings, the
batches that were put in the channel are those that met their fate, in order, and those that the
shipper still holds; all counters and notices are the sum of these fates, and the notices name the
numbers of records of the dropped batches, in order; and a loop that returns `drain_completed` has
abandoned nothing and encoded all. -/
theorem each_batch_handled_once (h : run (step env) (start shared) es = some s) :
    HandledOnce env shared es s := by
  have hs := accounted_run h
  have hdrained : s.batchesDrained = s.consumed.countP fun c => c.2 = .sent := by
    have hcount := congrArg Account.batchesDrained hs.account
    rw [batchesDrained_replay] at hcount
    exact hcount.trans (Nat.zero_add _)
  have hnoticed : s.returnedNotices ++ s.dropNotices = s.consumed.filterMap (noticeOf env) := by
    have hnotices := congrArg Account.notices hs.account
    rw [notices_replay] at hnotices
    exact hnotices.trans (List.nil_append _)
  refine { hs with
    inOrder := ?_
    drained := hdrained
    counted := fun arc => ?_
    noticed := hnoticed
    named := ?_
    abandonedOnce := hs.abandonedCount_eq
    exit := fun exit hexit => ?_ }
  · rw [hs.onBatch, hs.order]
    exact (List.filter_sublist.map _).append (handling_sublist_held s.toShipper)
  · have hcount := congrArg (fun a => a.shared.dropCounters arc) hs.account
    simp only [dropCounters_replay, hs.others] at hcount
    exact hcount
  · rw [hnoticed, List.map_filterMap, List.map_filterMap]
    simp only [map_namedRecords_noticeOf]
  · obtain ⟨hexitDrained, hcompleted⟩ := hs.exited exit (by rw [hexit]; rfl)
    have habandoned := hs.abandonedCount_eq
    rw [hexit] at habandoned
    refine ⟨hexitDrained.trans hdrained, habandoned, fun hd => ⟨(hcompleted hd).1, ?_⟩⟩
    have hnone : (s.consumed.countP fun c => c.2 = .abandoned) = 0 :=
      habandoned.symm.trans (hcompleted hd).1
    have hheld : s.held = [] := by
      rw [Shipper.held, hexit, (hcompleted hd).2.1]
      rfl
    rw [hs.encoder, hs.order, filter_encoding_of_none_abandoned hnone, hheld, hexit]
    rfl

/-- A batch of one record of the trace with this drop counter. -/
def batchOf (arc : ArcId) : PendingBatch where
  metaPartial :=
    { schemaVersion := 1
      traceId := Vector.replicate 16 0
      host := "host"
      pid := 1
      startTimeRealtimeNs := 0
      sapi := "cli"
      uriOrScript := "index.php" }
  dict := []
  calls := [⟨1, 0, 1, 0, 0, 1, 0, 0, 0, 0, false⟩]
  sizeEstimate := 64
  dropCounter := arc

/-- Four batches: one is sent, one does not encode, one is dropped after the deadline was
published in the middle of its retries, and one is abandoned. -/
def fourBatches : List ConsumptionEvent :=
  [.send (.batch (batchOf 0)), .other (.add 256), .loop, .recv, .encode true,
    .send (.batch (batchOf 1)), .onBatch .sent, .loop, .send (.batch (batchOf 0)), .recv,
    .encode false, .drainDropNotices, .loop, .recv, .encode true, .publishDrainDeadline 5,
    .send (.batch (batchOf 1)), .other (.fetchAdd 1 1), .tick 6,
    .onBatch (.dropped .deadlineExceeded 1), .loop, .timeout, .send (.drain 5), .tryRecv,
    .close, .tryRecv, .tryRecv, .dropReceiver]

theorem each_batch_handled_once_four_batches :
    ∃ s, run (step noticeEnvOf) (start Shared.init) fourBatches = some s ∧
      HandledOnce noticeEnvOf Shared.init fourBatches s :=
  ⟨(run (step noticeEnvOf) (start Shared.init) fourBatches).get (by decide),
    (Option.some_get _).symm, each_batch_handled_once (Option.some_get _).symm⟩

end Consumption

end PhpAnalyze
