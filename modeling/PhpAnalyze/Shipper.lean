import PhpAnalyze.Lib.Uuid
import PhpAnalyze.Wire

/-! # The shipper (`shipper/mod.rs`, `shipper/on_batch.rs`)

`Shipper.step` is `run_loop` with its drain phase, one channel operation, one encode or one
`OnBatch` call at a time.  What the code outside the loop decides is part of the event: the
outcome of `encode_and_handle`, and that `recv_deadline` gave up.

* The channel is a queue, `closed` when every `Sender` is gone; `recv` on an empty open
  channel blocks, which is no step.
* `recv_deadline` may give up only once its deadline has passed, and then at any time.
* The last `try_recv` finds the queue empty, and only then, with the frame of `run_loop`, the
  receiver is dropped (`dropReceiver`): what was sent in between goes down with the channel.
  Where the loop found the channel closed nobody can send any more, and both are one step.
* `settled` and `abandoned` are not part of the program: they remember what became of every
  batch that was taken out of the channel. -/

namespace PhpAnalyze

inductive DropReason where
  | httpStatus (code : UInt16)
  | timeout
  | connectRefused
  | tlsError
  | transport
  | encodeFailed
  | deadlineExceeded
deriving DecidableEq, Repr

def DropReason.display : DropReason → String
  | .httpStatus code => "http " ++ toString code.toNat
  | .timeout => "timeout"
  | .connectRefused => "connect_refused"
  | .tlsError => "tls_error"
  | .transport => "transport"
  | .encodeFailed => "encode_failed"
  | .deadlineExceeded => "deadline_exceeded"

inductive OnBatchOutcome where
  | sent
  | dropped (reason : DropReason) (attempts : ℕ)
deriving DecidableEq, Repr

/-- What a notice needs from outside: the `uuid` crate's rendering, and the handler's URL. -/
structure NoticeEnv where
  uuidToString : TraceId → String
  serverUrl : Option String

def formatDropNotice (env : NoticeEnv) (batch : PendingBatch) (reason : DropReason)
    (attempts : ℕ) : String :=
  "php-analyze: dropped " ++ toString batch.calls.length ++ " records from trace " ++
    env.uuidToString batch.metaPartial.traceId ++ ": " ++ env.serverUrl.getD "" ++ " " ++
    reason.display ++ " (attempt " ++ toString attempts ++ ")"

structure ShipperExit where
  batchesDrained : ℕ
  drainCompleted : Bool
  batchesAbandonedAtDeadline : ℕ
deriving DecidableEq, Repr

/-- Every `Dropped` outcome counts the records of the batch. -/
def bumpDropCounterOnDrop (batch : PendingBatch) (outcome : OnBatchOutcome) (s : Shared) :
    Shared :=
  match outcome with
  | .dropped _ _ => s.fetchAdd batch.dropCounter batch.calls.length
  | .sent => s

/-- Where the loop is. -/
inductive ShipperPc where
  | head
  /-- In `recv` of `run_loop`, or, with a deadline, in `recv_deadline` of `run_drain_phase`. -/
  | receiving (deadline : Option Instant)
  | consuming (batch : PendingBatch) (deadline : Option Instant)
  /-- The batch is encoded with the counter it read, and in `OnBatch::handle`. -/
  | handling (batch : PendingBatch) (deadline : Option Instant) (droppedRecords : ℕ)
  /-- In the `try_recv` loop after the deadline. -/
  | abandoning (abandoned : ℕ)
  /-- After the last `try_recv`: the result is there, and the receiver too. -/
  | returning (exit : ShipperExit)
  /-- The frame is left and the receiver dropped. -/
  | returned (exit : ShipperExit)
deriving DecidableEq

/-- The result of the loop, once it is there. -/
def ShipperPc.exit : ShipperPc → Option ShipperExit
  | .returning exit => some exit
  | .returned exit => some exit
  | _ => none

/-- A batch that went through `drained_consume`. -/
structure Settled where
  batch : PendingBatch
  droppedRecords : ℕ
  outcome : OnBatchOutcome
deriving DecidableEq

/-- The shipper thread with the process-wide state it works on. -/
structure Shipper where
  shared : Shared
  channel : List ShipperMessage
  closed : Bool
  drainDeadline : Option Instant
  now : Instant
  pc : ShipperPc
  batchesDrained : ℕ
  dropNotices : List String
  settled : List Settled
  abandoned : List PendingBatch

inductive ShipperEvent where
  | loop
  | recv
  /-- `recv_deadline` gives up. -/
  | timeout
  | encode
  | handled (outcome : OnBatchOutcome)
  | tryRecv
  | dropReceiver
deriving DecidableEq, Repr

namespace Shipper

variable (env : NoticeEnv)

/-- `drained_consume`, from the return of `encode_and_handle` on. -/
def drainedConsume (s : Shipper) (batch : PendingBatch) (outcome : OnBatchOutcome) : Shipper :=
  let s := { s with
    shared := (bumpDropCounterOnDrop batch outcome s.shared).sub batch.sizeEstimate }
  match outcome with
  | .dropped reason attempts =>
      { s with dropNotices := s.dropNotices ++ [formatDropNotice env batch reason attempts] }
  | .sent => { s with batchesDrained := s.batchesDrained + 1 }

def afterBatch : Option Instant → ShipperPc
  | none => .head
  | some deadline => .receiving (some deadline)

def closedExit (s : Shipper) : ShipperExit where
  batchesDrained := s.batchesDrained
  drainCompleted := true
  batchesAbandonedAtDeadline := 0

def deadlineExit (s : Shipper) (abandoned : ℕ) : ShipperExit where
  batchesDrained := s.batchesDrained
  drainCompleted := false
  batchesAbandonedAtDeadline := abandoned

/-- `run_loop` and `run_drain_phase`. -/
def step (s : Shipper) (e : ShipperEvent) : Option Shipper :=
  match s.pc, e with
  | .head, .loop => some { s with pc := .receiving s.drainDeadline }
  | .receiving deadline, .recv =>
      match s.channel with
      | .batch batch :: rest => some { s with channel := rest, pc := .consuming batch deadline }
      -- a `Drain` starts the drain phase; a second one is tolerated
      | .drain entry :: rest =>
          some { s with channel := rest, pc := .receiving (some (deadline.getD entry)) }
      | [] => if s.closed then some { s with pc := .returned s.closedExit } else none
  | .receiving (some deadline), .timeout =>
      if deadline ≤ s.now then some { s with pc := .abandoning 0 } else none
  | .consuming batch deadline, .encode =>
      some { s with pc := .handling batch deadline (s.shared.dropCounters batch.dropCounter) }
  | .handling batch deadline droppedRecords, .handled outcome =>
      some { s.drainedConsume env batch outcome with
        pc := afterBatch deadline
        settled := s.settled ++ [{ batch, droppedRecords, outcome }] }
  | .abandoning abandoned, .tryRecv =>
      match s.channel with
      | .batch batch :: rest =>
          some { s with
            shared := s.shared.sub batch.sizeEstimate
            channel := rest
            pc := .abandoning (abandoned + 1)
            abandoned := s.abandoned ++ [batch] }
      | .drain _ :: rest => some { s with channel := rest }
      | [] => some { s with pc := .returning (s.deadlineExit abandoned) }
  | .returning exit, .dropReceiver => some { s with pc := .returned exit }
  | _, _ => none

inductive Step (s : Shipper) : ShipperEvent → Shipper → Prop
  | loop (hpc : s.pc = .head) : Step s .loop { s with pc := .receiving s.drainDeadline }
  | recvBatch (deadline batch rest) (hpc : s.pc = .receiving deadline)
      (hchannel : s.channel = .batch batch :: rest) :
      Step s .recv { s with channel := rest, pc := .consuming batch deadline }
  | recvDrain (deadline entry rest) (hpc : s.pc = .receiving deadline)
      (hchannel : s.channel = .drain entry :: rest) :
      Step s .recv { s with channel := rest, pc := .receiving (some (deadline.getD entry)) }
  | recvClosed (deadline) (hpc : s.pc = .receiving deadline) (hchannel : s.channel = [])
      (hclosed : s.closed = true) : Step s .recv { s with pc := .returned s.closedExit }
  | timeout (deadline) (hpc : s.pc = .receiving (some deadline)) (hnow : deadline ≤ s.now) :
      Step s .timeout { s with pc := .abandoning 0 }
  | encode (batch deadline) (hpc : s.pc = .consuming batch deadline) :
      Step s .encode
        { s with pc := .handling batch deadline (s.shared.dropCounters batch.dropCounter) }
  | handled (batch deadline droppedRecords outcome)
      (hpc : s.pc = .handling batch deadline droppedRecords) :
      Step s (.handled outcome)
        { s.drainedConsume env batch outcome with
          pc := afterBatch deadline
          settled := s.settled ++ [{ batch, droppedRecords, outcome }] }
  | abandonBatch (abandoned batch rest) (hpc : s.pc = .abandoning abandoned)
      (hchannel : s.channel = .batch batch :: rest) :
      Step s .tryRecv
        { s with
          shared := s.shared.sub batch.sizeEstimate
          channel := rest
          pc := .abandoning (abandoned + 1)
          abandoned := s.abandoned ++ [batch] }
  | skipDrain (abandoned entry rest) (hpc : s.pc = .abandoning abandoned)
      (hchannel : s.channel = .drain entry :: rest) :
      Step s .tryRecv { s with channel := rest }
  | giveUp (abandoned) (hpc : s.pc = .abandoning abandoned) (hchannel : s.channel = []) :
      Step s .tryRecv { s with pc := .returning (s.deadlineExit abandoned) }
  | dropReceiver (exit) (hpc : s.pc = .returning exit) :
      Step s .dropReceiver { s with pc := .returned exit }

variable {env}

/-- **The eleven cases of a step.** -/
theorem step_cases {s s' : Shipper} {e : ShipperEvent} (h : s.step env e = some s') :
    Step env s e s' := by
  unfold step at h
  split at h
  · cases h
    exact .loop ‹_›
  · split at h
    · cases h
      exact .recvBatch _ _ _ ‹_› ‹_›
    · cases h
      exact .recvDrain _ _ _ ‹_› ‹_›
    · split at h
      · cases h
        exact .recvClosed _ ‹_› ‹_› ‹_›
      · cases h
  · split at h
    · cases h
      exact .timeout _ ‹_› ‹_›
    · cases h
  · cases h
    exact .encode _ _ ‹_›
  · cases h
    exact .handled _ _ _ _ ‹_›
  · split at h
    · cases h
      exact .abandonBatch _ _ _ ‹_› ‹_›
    · cases h
      exact .skipDrain _ _ _ ‹_› ‹_›
    · cases h
      exact .giveUp _ ‹_› ‹_›
  · cases h
    exact .dropReceiver _ ‹_›
  · cases h

end Shipper

/-! ### Weighing batches -/

def ShipperMessage.batch? : ShipperMessage → Option PendingBatch
  | .batch pending => some pending
  | .drain _ => none

/-- The batch that was received and is not settled. -/
def ShipperPc.batch : ShipperPc → Option PendingBatch
  | .consuming batch _ => some batch
  | .handling batch _ _ => some batch
  | _ => none

def batchWeight (f : PendingBatch → ℕ) (batch : Option PendingBatch) : ℕ := batch.elim 0 f

def queueWeight (f : PendingBatch → ℕ) (channel : List ShipperMessage) : ℕ :=
  (channel.map fun message => batchWeight f message.batch?).sum

section weight

variable (f : PendingBatch → ℕ)

@[simp] theorem batchWeight_none : batchWeight f none = 0 := rfl

@[simp] theorem batchWeight_some (batch : PendingBatch) : batchWeight f (some batch) = f batch :=
  rfl

@[simp] theorem batch_afterBatch (deadline : Option Instant) :
    (Shipper.afterBatch deadline).batch = none := by
  cases deadline <;> rfl

@[simp] theorem exit_afterBatch (deadline : Option Instant) :
    (Shipper.afterBatch deadline).exit = none := by
  cases deadline <;> rfl

@[simp] theorem queueWeight_nil : queueWeight f [] = 0 := rfl

@[simp] theorem queueWeight_batch_cons (batch : PendingBatch) (rest : List ShipperMessage) :
    queueWeight f (.batch batch :: rest) = f batch + queueWeight f rest := by
  simp [queueWeight, ShipperMessage.batch?]

@[simp] theorem queueWeight_drain_cons (entry : Instant) (rest : List ShipperMessage) :
    queueWeight f (.drain entry :: rest) = queueWeight f rest := by
  simp [queueWeight, ShipperMessage.batch?]

theorem queueWeight_append (channel channel' : List ShipperMessage) :
    queueWeight f (channel ++ channel') = queueWeight f channel + queueWeight f channel' := by
  simp [queueWeight]

theorem queueWeight_toList (batch : Option PendingBatch) :
    queueWeight f (batch.toList.map .batch) = batchWeight f batch := by
  cases batch <;> simp

theorem queueWeight_drains (drains : List Instant) :
    queueWeight f (drains.map .drain) = 0 := by
  induction drains with
  | nil => rfl
  | cons entry drains ih => rw [List.map_cons, queueWeight_drain_cons, ih]

theorem queueWeight_eq_zero {channel : List ShipperMessage}
    (h : ∀ message ∈ channel, message.batch? = none) : queueWeight f channel = 0 := by
  apply List.sum_eq_zero
  intro weight hweight
  obtain ⟨message, hmessage, rfl⟩ := List.mem_map.mp hweight
  rw [h message hmessage]
  rfl

def Shipper.heldWeight (s : Shipper) : ℕ := queueWeight f s.channel + batchWeight f s.pc.batch

end weight

namespace Shipper

/-- What becomes of the batch that leaves the shipper, if one does. -/
inductive Effect (s s' : Shipper) : Option PendingBatch → Prop
  | quiet (hshared : s'.shared = s.shared) (hsettled : s'.settled = s.settled)
      (habandoned : s'.abandoned = s.abandoned) : Effect s s' none
  | settled (batch : PendingBatch) (droppedRecords : ℕ) (outcome : OnBatchOutcome)
      (hshared : s'.shared =
        (bumpDropCounterOnDrop batch outcome s.shared).sub batch.sizeEstimate)
      (hsettled : s'.settled = s.settled ++ [⟨batch, droppedRecords, outcome⟩])
      (habandoned : s'.abandoned = s.abandoned) : Effect s s' (some batch)
  | abandoned (batch : PendingBatch)
      (hshared : s'.shared = s.shared.sub batch.sizeEstimate)
      (hsettled : s'.settled = s.settled)
      (habandoned : s'.abandoned = s.abandoned ++ [batch]) : Effect s s' (some batch)

variable {env : NoticeEnv} {s s' : Shipper} {e : ShipperEvent}

/-- What is with the shipper and in the channel, in the order of the channel. -/
def held (s : Shipper) : List PendingBatch :=
  s.pc.batch.toList ++ s.channel.filterMap ShipperMessage.batch?

theorem sum_map_filterMap_batch (f : PendingBatch → ℕ) (channel : List ShipperMessage) :
    ((channel.filterMap ShipperMessage.batch?).map f).sum = queueWeight f channel := by
  induction channel with
  | nil => rfl
  | cons message channel ih =>
      cases message with
      | batch batch =>
          rw [queueWeight_batch_cons, ← ih]
          rfl
      | drain entry =>
          rw [queueWeight_drain_cons, ← ih]
          rfl

theorem sum_map_toList (f : PendingBatch → ℕ) (batch : Option PendingBatch) :
    (batch.toList.map f).sum = batchWeight f batch := by
  cases batch <;> simp

theorem sum_map_held (f : PendingBatch → ℕ) (s : Shipper) :
    (s.held.map f).sum = s.heldWeight f := by
  rw [held, List.map_append, List.sum_append, sum_map_toList, sum_map_filterMap_batch,
    Nat.add_comm, heldWeight]

/-- The shipper loses no batch and changes no order: what it held is the batch that leaves it,
if one does, and what it holds. -/
theorem held_step (h : Step env s e s') :
    ∃ left, Effect s s' left ∧ s.held = left.toList ++ s'.held := by
  cases h with
  | loop hpc =>
      refine ⟨none, .quiet rfl rfl rfl, ?_⟩
      rw [held, held, hpc]
      rfl
  | recvBatch deadline batch rest hpc hchannel =>
      refine ⟨none, .quiet rfl rfl rfl, ?_⟩
      rw [held, held, hpc, hchannel]
      rfl
  | recvDrain deadline entry rest hpc hchannel =>
      refine ⟨none, .quiet rfl rfl rfl, ?_⟩
      rw [held, held, hpc, hchannel]
      rfl
  | recvClosed deadline hpc =>
      refine ⟨none, .quiet rfl rfl rfl, ?_⟩
      rw [held, held, hpc]
      rfl
  | timeout deadline hpc =>
      refine ⟨none, .quiet rfl rfl rfl, ?_⟩
      rw [held, held, hpc]
      rfl
  | encode batch deadline hpc =>
      refine ⟨none, .quiet rfl rfl rfl, ?_⟩
      rw [held, held, hpc]
      rfl
  | handled batch deadline droppedRecords outcome hpc =>
      refine ⟨some batch, ?_, ?_⟩
      · cases outcome <;> exact .settled batch droppedRecords _ rfl rfl rfl
      · rw [held, held, hpc]
        dsimp only
        rw [batch_afterBatch]
        cases outcome <;> rfl
  | abandonBatch abandoned batch rest hpc hchannel =>
      refine ⟨some batch, .abandoned batch rfl rfl rfl, ?_⟩
      rw [held, held, hpc, hchannel]
      rfl
  | skipDrain abandoned entry rest hpc hchannel =>
      refine ⟨none, .quiet rfl rfl rfl, ?_⟩
      rw [held, held, hchannel]
      rfl
  | giveUp abandoned hpc =>
      refine ⟨none, .quiet rfl rfl rfl, ?_⟩
      rw [held, held, hpc]
      rfl
  | dropReceiver exit hpc =>
      refine ⟨none, .quiet rfl rfl rfl, ?_⟩
      rw [held, held, hpc]
      rfl

/-- The shipper loses no weight: what it holds less is the batch that leaves it. -/
theorem effect_step (h : Step env s e s') :
    ∃ left, Effect s s' left ∧ ∀ f, s'.heldWeight f + batchWeight f left = s.heldWeight f := by
  obtain ⟨left, heffect, hheld⟩ := held_step h
  refine ⟨left, heffect, fun f => ?_⟩
  rw [← sum_map_held f s, hheld, List.map_append, List.sum_append, sum_map_toList, sum_map_held,
    Nat.add_comm]

end Shipper

/-! ### Values for concrete runs -/

def noticeEnvOf : NoticeEnv where
  uuidToString := Uuid.hyphenated
  serverUrl := some "http://127.0.0.1:9999/v1/ingest"

end PhpAnalyze
