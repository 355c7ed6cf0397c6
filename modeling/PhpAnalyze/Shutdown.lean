import PhpAnalyze.Lifetime

/-! # `MSHUTDOWN` returns

`join` waits for the shipper thread, the thread waits for the network, and the channel and the
deadline cell are between them.  Two facts together say that the hook returns: as long as it has
not, some part of the process has a step to take (`Extension.progress`), and these steps run out
(`Extension.left_step`).  Both hold whatever the clock, the network and the server do.

`left` counts the steps of the process that may still come.  A batch costs a bounded number of
them, because `run_with_retry` asks a bounded number of questions (`within_runWithRetry`). -/

namespace PhpAnalyze

open Machine Interaction

/-! ### What there is left to do -/

/-- The steps of the loop that a message may lead to, if `run_with_retry` asks at most `n`
questions, up to the notice of a dropped batch. -/
def ShipperMessage.cost (n : ℕ) : ShipperMessage → ℕ
  | .batch _ => n + 5
  | .drain _ => 1

theorem ShipperMessage.sum_cost_le (n : ℕ) (channel : List ShipperMessage)
    (h : ∀ message ∈ channel, message.batch?.isSome = true) :
    (channel.map (cost n)).sum ≤ (n + 6) * (channel.filterMap batch?).length := by
  induction channel with
  | nil => simp
  | cons message channel ih =>
      have hrest := ih fun message hmem => h message (List.mem_cons_of_mem _ hmem)
      cases message with
      | batch pending =>
          simp only [List.map_cons, List.sum_cons, cost, batch?, List.filterMap_cons,
            List.length_cons, Nat.mul_add]
          omega
      | drain deadline =>
          have hbatch := h (.drain deadline) List.mem_cons_self
          cases hbatch

def ShipperPc.cost (n : ℕ) : ShipperPc → ℕ
  | .head => 4
  | .receiving _ => 3
  | .consuming _ _ => n + 7
  | .handling _ _ _ => 6
  | .abandoning _ => 2
  | .returning _ => 1
  | .returned _ => 0

/-- The steps of `drain_and_join_at_mshutdown` before `join`, and one for its `Drain`. -/
def Mshutdown.cost : Mshutdown → ℕ
  | .before => 5
  | .taken _ => 4
  | .published _ => 3
  | .drainSent => 1
  | .joining => 0
  | .joined _ => 0

/-- The steps of the hook apart from these, with the notices that it has read. -/
def HookPc.cost : HookPc → ℕ
  | .mshutdown => 2
  | .notices _ => 1
  | .emitting queue _ => queue.length
  | _ => 0

theorem HookPc.cost_emitQueued (queue : List String) (last : Bool) :
    (emitQueued queue last).cost = queue.length := by
  unfold emitQueued
  split
  case isTrue hempty =>
    rw [List.isEmpty_iff.mp hempty]
    split <;> rfl
  case isFalse => rfl

namespace Shipper

/-- The steps of the loop, and of the hook for its notices. -/
def left (n : ℕ) (s : Shipper) : ℕ :=
  (s.channel.map (ShipperMessage.cost n)).sum + s.pc.cost n + s.dropNotices.length

variable {env : NoticeEnv} {n : ℕ} {s s' : Shipper} {e : ShipperEvent}

theorem left_encode (n : ℕ) {batch : PendingBatch} {deadline : Option Instant}
    (droppedRecords : ℕ) (hpc : s.pc = .consuming batch deadline) :
    1 + n + left n { s with pc := .handling batch deadline droppedRecords } ≤ s.left n := by
  simp only [left, hpc, ShipperPc.cost]
  omega

/-- A step of the loop is one of those that were left. -/
theorem Step.left_step (n : ℕ) (h : Step env s e s') : 1 + s'.left n ≤ s.left n := by
  cases h with
  | handled batch deadline droppedRecords outcome hpc =>
      have hcost : s.pc.cost n = 6 := congrArg _ hpc
      have hnext : (afterBatch deadline).cost n ≤ 4 := by
        cases deadline <;> simp [afterBatch, ShipperPc.cost]
      cases outcome with
      | sent =>
          simp only [left, drainedConsume, hcost]
          omega
      | dropped reason attempts =>
          simp only [left, drainedConsume, hcost, List.length_append, List.length_singleton]
          omega
  | loop hpc | recvClosed _ hpc | timeout _ hpc | encode _ _ hpc | giveUp _ hpc
  | dropReceiver _ hpc =>
      simp only [left, hpc, ShipperPc.cost]
      omega
  | recvBatch _ _ _ hpc hchannel | recvDrain _ _ _ hpc hchannel | abandonBatch _ _ _ hpc hchannel
  | skipDrain _ _ _ hpc hchannel =>
      simp only [left, hpc, hchannel, ShipperPc.cost, ShipperMessage.cost, List.map_cons,
        List.sum_cons]
      omega

theorem Step.closed_eq (h : Step env s e s') : s'.closed = s.closed := by
  cases h with
  | handled _ _ _ outcome => cases outcome <;> rfl
  | _ => rfl

end Shipper

theorem Consumption.handling_eq_none_around {env : NoticeEnv} {c c' : Consumption}
    {e : ConsumptionEvent} (hencode : e ≠ .encode true) (h : c.step env e = some c')
    (hnone : handling c.pc = none) : handling c'.pc = none := by
  cases step_cases h with
  | loop hloop | recv hloop | timeout hloop | dropReceiver hloop => cases hloop <;> rfl
  | tryRecv hloop =>
      cases hloop with
      | skipDrain => exact hnone
      | abandonBatch | giveUp => rfl
  | encode => exact absurd rfl hencode
  | encodeFailed _ hloop | onBatch _ _ hloop =>
      cases hloop
      exact handling_afterBatch _
  | send | close | publishDrainDeadline | tick | other | drainDropNotices => exact hnone

namespace Delivery

variable {Addr : Type} {uuidToString : TraceId → String} {codec : WireCodec}
  {poster : RmpEncodeAndHttpPost} {s s' : Delivery Addr}

variable (uuidToString codec poster) in
/-- The loop is in `handle`, with an encoded batch, as long as there is a program. -/
inductive InHandle (s : Delivery Addr) : Prop
  | outside (hprogram : s.program = none) (hpc : Consumption.handling s.pc = none)
  | inside {batch deadline droppedRecords bytes turns p}
      (hpc : s.pc = .handling batch deadline droppedRecords)
      (hbytes : encodedBytes codec uuidToString batch droppedRecords = some bytes)
      (hprogram : s.program = some p)
      (hfollows : Follows (runWithRetry poster.retryCount poster.retryBackoffMs) turns p)

theorem InHandle.turn (h : s.InHandle uuidToString codec poster) {q : RetryCall}
    {next : RetryAnswer q → RetryProgram} (hprogram : s.program = some (.ask q next))
    (answer : RetryAnswer q) (hpc : s'.pc = s.pc) (hprogram' : s'.program = some (next answer)) :
    s'.InHandle uuidToString codec poster := by
  cases h with
  | outside hnone =>
      rw [hnone] at hprogram
      cases hprogram
  | inside hhandling hbytes hsome hfollows =>
      rw [hprogram] at hsome
      cases hsome
      exact .inside (hpc.trans hhandling) hbytes hprogram' (hfollows.snoc answer)

theorem InHandle.within (h : s.InHandle uuidToString codec poster) {p : RetryProgram}
    (hprogram : s.program = some p) : Within (5 * (poster.retryCount + 1)) p := by
  cases h with
  | outside hnone =>
      rw [hnone] at hprogram
      cases hprogram
  | inside _ _ hsome hfollows =>
      rw [hprogram] at hsome
      cases hsome
      exact within_runWithRetry.follows hfollows

variable [DecidableEq Addr] {d : Instant} {args : StubIngest.Args} {target : String}
  {asError : ℕ → Option UreqError} {e : DeliveryEvent Addr}

/-- **Step lemma.** -/
theorem InHandle.step (h : s.InHandle uuidToString codec poster)
    (hstep : s.step uuidToString codec poster d args target asError e = some s') :
    s'.InHandle uuidToString codec poster := by
  cases step_cases hstep with
  | around hencode honBatch hc =>
      cases h with
      | outside hprogram hpc =>
          exact .outside hprogram (Consumption.handling_eq_none_around hencode hc hpc)
      | inside hpc hbytes hprogram hfollows =>
          have hsame := (frame_around honBatch hc (by simp [hpc, Consumption.handling])).1
          exact .inside (hsame.trans hpc) hbytes hprogram hfollows
  | handle hpc hbytes hc =>
      cases Consumption.step_cases hc with
      | encode hconsuming =>
          have hsame := hpc.symm.trans hconsuming
          cases hsame
          exact .inside rfl hbytes rfl (.nil _)
  | call verdict _ hprogram => exact h.turn hprogram (s.answer verdict _) rfl rfl
  | attempt _ hprogram => exact h.turn hprogram _ rfl rfl
  | finish hprogram hc =>
      refine .outside rfl ?_
      cases Consumption.step_cases hc with
      | onBatch _ _ hloop =>
          cases hloop
          exact Consumption.handling_afterBatch _
  | visit =>
      cases h with
      | outside hprogram hpc => exact .outside hprogram hpc
      | inside hpc hbytes hprogram hfollows => exact .inside hpc hbytes hprogram hfollows

noncomputable def left (n : ℕ) (s : Delivery Addr) : ℕ :=
  s.toShipper.left n + s.program.elim 0 questions

/-- **A step of the delivery is one of those that were left.** -/
theorem left_step (h : s.InHandle uuidToString codec poster) (hown : Pipeline.own e = true)
    (hreads : e.readsNotices = false)
    (hstep : s.step uuidToString codec poster d args target asError e = some s') :
    (if e.elsewhere then 0 else 1) + s'.left (5 * (poster.retryCount + 1)) ≤
      s.left (5 * (poster.retryCount + 1)) := by
  generalize hn : 5 * (poster.retryCount + 1) = n
  unfold left
  cases step_cases hstep with
  | @around e c hencode honBatch hc =>
      cases Consumption.step_cases hc with
      | loop hloop | recv hloop | timeout hloop | tryRecv hloop | dropReceiver hloop =>
          have hleft := hloop.left_step n
          simp only [DeliveryEvent.elsewhere, Bool.false_eq_true, if_false]
          omega
      | encode => exact absurd rfl hencode
      | @encodeFailed batch _ _ hpc hloop =>
          have hbefore := Shipper.left_encode n (s.shared.dropCounters batch.dropCounter) hpc
          have hleft := hloop.left_step n
          simp only [DeliveryEvent.elsewhere, Bool.false_eq_true, if_false] at hleft ⊢
          omega
      | onBatch outcome => exact absurd rfl (honBatch outcome)
      | tick => exact Nat.zero_add _ ▸ le_rfl
      | drainDropNotices => cases hreads
      | send | close | publishDrainDeadline | other => cases hown
  | handle hpc hbytes hc =>
      cases Consumption.step_cases hc with
      | @encode batch _ hconsuming =>
          have hleft := Shipper.left_encode n (s.shared.dropCounters batch.dropCounter) hconsuming
          have hprogram : questions (runWithRetry poster.retryCount poster.retryBackoffMs) ≤ n :=
            hn ▸ within_runWithRetry.questions_le
          simp only [DeliveryEvent.elsewhere, Bool.false_eq_true, if_false,
            Option.elim_some] at hleft ⊢
          omega
  | call verdict _ hprogram =>
      have hnext := (h.within hprogram).questions_next (s.answer verdict _)
      simp only [DeliveryEvent.elsewhere, Bool.false_eq_true, if_false, hprogram,
        Option.elim_some]
      omega
  | @attempt _ _ _ _ _ _ verdict _ _ hprogram =>
      have hnext := (h.within hprogram).questions_next verdict
      simp only [DeliveryEvent.elsewhere, Bool.false_eq_true, if_false, hprogram,
        Option.elim_some]
      omega
  | finish hprogram hc =>
      cases Consumption.step_cases hc with
      | onBatch _ _ hloop =>
          have hleft := hloop.left_step n
          simp only [DeliveryEvent.elsewhere, Bool.false_eq_true, if_false, Option.elim_none]
          omega
  | visit => exact Nat.zero_add _ ▸ le_rfl

omit [DecidableEq Addr] in
/-- At most so many steps are left for what the loop holds, if no `Drain` came. -/
theorem left_le (h : s.InHandle uuidToString codec poster) (hcalm : s.toShipper.Calm) :
    s.left (5 * (poster.retryCount + 1)) ≤
      4 + s.dropNotices.length + (5 * (poster.retryCount + 1) + 6) * s.held.length := by
  have hchannel := ShipperMessage.sum_cost_le (5 * (poster.retryCount + 1)) s.channel hcalm.channel
  have hprogram : ∀ p, s.program = some p → questions p ≤ 5 * (poster.retryCount + 1) :=
    fun p hp => (h.within hp).questions_le
  generalize 5 * (poster.retryCount + 1) = n at hchannel hprogram ⊢
  simp only [left, Shipper.left, Shipper.held, List.length_append, Nat.mul_add]
  cases h with
  | outside hnone hpc =>
      rw [hnone]
      cases hpc' : s.pc with
      | handling batch =>
          rw [hpc'] at hpc
          cases hpc
      | consuming =>
          simp only [ShipperPc.cost, ShipperPc.batch, Option.toList_some, List.length_singleton,
            Option.elim_none]
          omega
      | head | receiving | abandoning | returning | returned =>
          simp only [ShipperPc.cost, ShipperPc.batch, Option.toList_none, List.length_nil,
            Option.elim_none]
          omega
  | inside hpc _ hsome =>
      have hquestions := hprogram _ hsome
      rw [hpc, hsome]
      simp only [ShipperPc.cost, ShipperPc.batch, Option.toList_some, List.length_singleton,
        Option.elim_some]
      omega

/-! ### Some part of the process has a step to take -/

theorem isSome_around {e : ConsumptionEvent}
    (hagrees : s.agrees uuidToString codec (.consumption e) = true)
    (hdeadline : s.toHttpShipper.agrees d e = true)
    (h : (s.toConsumption.step (poster.noticeEnv uuidToString) e).isSome) :
    (s.step uuidToString codec poster d args target asError
      (.shipper (.consumption e))).isSome := by
  simp [step, hagrees, shipperStep, HttpShipper.step, HttpShipper.around, hdeadline, h]

variable (d args target asError) in
/-- **Once the channel is closed the loop goes on** until it returns. -/
theorem progress (h : s.InHandle uuidToString codec poster) (hclosed : s.closed = true)
    (hreturned : ∀ exit, s.pc ≠ .returned exit) :
    ∃ e : DeliveryEvent Addr, Pipeline.own e = true ∧ e.elsewhere = false ∧
      e.readsNotices = false ∧
      (s.step uuidToString codec poster d args target asError e).isSome := by
  cases hpc : s.pc with
  | head =>
      refine ⟨.shipper (.consumption .loop), rfl, rfl, rfl, isSome_around rfl rfl ?_⟩
      simp [Consumption.step, Consumption.control, Shipper.step, hpc]
  | receiving deadline =>
      refine ⟨.shipper (.consumption .recv), rfl, rfl, rfl, isSome_around rfl rfl ?_⟩
      cases hchannel : s.channel with
      | nil => simp [Consumption.step, Consumption.control, Shipper.step, hpc, hchannel, hclosed]
      | cons message rest =>
          cases message <;>
            simp [Consumption.step, Consumption.control, Shipper.step, hpc, hchannel]
  | consuming batch deadline =>
      refine ⟨.shipper (.consumption (.encode (encodedBytes codec uuidToString batch
        (s.shared.dropCounters batch.dropCounter)).isSome)), rfl, rfl, rfl,
        isSome_around (by simp [agrees, hpc]) rfl ?_⟩
      cases encodedBytes codec uuidToString batch (s.shared.dropCounters batch.dropCounter) <;>
        simp [Consumption.step, Consumption.encode, Shipper.step, hpc]
  | handling batch deadline droppedRecords =>
      cases h with
      | outside _ hnone =>
          rw [hpc] at hnone
          cases hnone
      | @inside _ _ _ bytes turns p hhandling hbytes hprogram hfollows =>
          rw [hpc] at hhandling
          cases hhandling
          cases p with
          | ret result =>
              obtain ⟨outcome, rfl, -⟩ := runs_of_follows_runWithRetry hfollows
              refine ⟨.shipper .finish, rfl, rfl, rfl, ?_⟩
              simp [step, agrees, shipperStep, HttpShipper.step, HttpShipper.finish, hprogram,
                Consumption.step, Consumption.onBatch, Shipper.step, hpc]
          | ask q next =>
              cases q with
              | attempt i =>
                  -- the network may always lose the request
                  refine ⟨.attempt (.lost .timeout), rfl, rfl, rfl, ?_⟩
                  simp [step, pending, hprogram, hpc, hbytes, shipperStep, HttpShipper.step,
                    HttpShipper.call]
              | deadlineFn | now | sleepFn =>
                  refine ⟨.shipper (.call .sent), rfl, rfl, rfl, ?_⟩
                  simp [step, agrees, hprogram, shipperStep, HttpShipper.step, HttpShipper.call]
  | abandoning abandoned =>
      refine ⟨.shipper (.consumption .tryRecv), rfl, rfl, rfl, isSome_around rfl rfl ?_⟩
      cases hchannel : s.channel with
      | nil => simp [Consumption.step, Shipper.step, hpc, hchannel]
      | cons message rest => cases message <;> simp [Consumption.step, Shipper.step, hpc, hchannel]
  | returning exit =>
      refine ⟨.shipper (.consumption .dropReceiver), rfl, rfl, rfl, isSome_around rfl rfl ?_⟩
      simp [Consumption.step, Consumption.control, Shipper.step, hpc]
  | returned exit => exact absurd hpc (hreturned exit)

end Delivery

namespace Pipeline

variable {Addr : Type} [DecidableEq Addr] {uuidToString : TraceId → String}
  {codec : WireCodec} {poster : RmpEncodeAndHttpPost} {d : Instant} {args : StubIngest.Args}
  {target : String} {asError : ℕ → Option UreqError} {files : String → Option (List UInt8)}
  {s s' : Pipeline Unit Addr}

theorem inHandle_step {e : PipelineEvent Unit Addr}
    (hstep : s.step uuidToString codec poster d args target asError e = some s')
    (h : s.toDelivery.InHandle uuidToString codec poster) :
    s'.toDelivery.InHandle uuidToString codec poster := by
  cases step_cases hstep with
  | php i e move =>
      cases h with
      | outside hprogram hpc => exact .outside hprogram hpc
      | inside hpc hbytes hprogram hfollows => exact .inside hpc hbytes hprogram hfollows
  | mshutdown => exact h
  | deliver _ _ _ hdelivery => exact h.step hdelivery

theorem inHandle_run {es : List (PipelineEvent Unit Addr)}
    (h : run (step uuidToString codec poster d args target asError) (start Unit files) es =
      some s) : s.toDelivery.InHandle uuidToString codec poster :=
  run_invariant (I := fun s : Pipeline Unit Addr =>
    s.toDelivery.InHandle uuidToString codec poster) (fun _ _ _ => inHandle_step) h
    (.outside rfl rfl)

theorem closed_delivery {e : DeliveryEvent Addr}
    (hstep : s.step uuidToString codec poster d args target asError (.delivery e) = some s') :
    s'.closed = s.closed := by
  obtain ⟨hown, delivery, hdelivery, rfl⟩ := delivery_cases hstep
  cases Delivery.step_cases hdelivery with
  | around _ _ hc =>
      cases Consumption.step_cases hc with
      | loop hloop | recv hloop | timeout hloop | tryRecv hloop | dropReceiver hloop
      | encodeFailed _ hloop | onBatch _ _ hloop => exact hloop.closed_eq
      | close => cases hown
      | encode | send | publishDrainDeadline | tick | other | drainDropNotices => rfl
  | handle _ _ hc =>
      cases Consumption.step_cases hc with
      | encode => rfl
  | finish _ hc =>
      cases Consumption.step_cases hc with
      | onBatch _ _ hloop => exact hloop.closed_eq
  | call | attempt | visit => rfl

/-- What `drain_and_join_at_mshutdown` has done: its deadline is `d`, and it joins the thread after
it has closed the channel. -/
structure Followed (d : Instant) (s : Pipeline Unit Addr) : Prop where
  taken : ∀ deadline, s.mshutdown = .taken deadline → deadline = d
  published : ∀ deadline, s.mshutdown = .published deadline → deadline = d
  closed : s.mshutdown = .joining → s.closed = true

theorem followed_step {e : PipelineEvent Unit Addr}
    (hstep : s.step uuidToString codec poster d args target asError e = some s')
    (h : s.Followed d) : s'.Followed d := by
  cases e with
  | php i e =>
      obtain ⟨move, -, -, rfl⟩ := php_cases hstep
      exact ⟨h.taken, h.published, h.closed⟩
  | mshutdown e =>
      cases mshutdown_cases hstep with
      | publish deadline htaken => exact ⟨by simp, by simpa using h.taken deadline htaken, by simp⟩
      | take | send | giveUp | close | join => exact ⟨by simp, by simp, by simp⟩
  | delivery e =>
      obtain ⟨-, hmshutdown⟩ := frame_delivery hstep
      have hclosed := closed_delivery hstep
      constructor
      · rw [hmshutdown]
        exact h.taken
      · rw [hmshutdown]
        exact h.published
      · rw [hmshutdown, hclosed]
        exact h.closed

theorem followed_run {es : List (PipelineEvent Unit Addr)}
    (h : run (step uuidToString codec poster d args target asError) (start Unit files) es =
      some s) : s.Followed d :=
  run_invariant (I := Followed d) (fun _ _ _ => followed_step) h
    ⟨fun _ h => (by cases h), fun _ h => (by cases h), fun h => (by cases h)⟩

noncomputable def left (n : ℕ) (s : Pipeline Unit Addr) : ℕ :=
  s.mshutdown.cost + s.toDelivery.left n

theorem left_mshutdown (n : ℕ) {e : MshutdownEvent}
    (hstep : s.step uuidToString codec poster d args target asError (.mshutdown e) = some s') :
    (if e = .join then 0 else 1) + s'.left n ≤ s.left n := by
  cases mshutdown_cases hstep with
  | take _ h | publish _ h | giveUp _ h | close h | join _ h =>
      simp only [left, Delivery.left, Shipper.left, h, Mshutdown.cost, reduceCtorEq, if_true,
        if_false]
      omega
  | send _ h =>
      simp only [left, Delivery.left, Shipper.left, h, Mshutdown.cost, reduceCtorEq, if_false,
        List.map_append, List.sum_append, List.map_singleton, List.sum_singleton,
        ShipperMessage.cost]
      omega

theorem left_delivery {e : DeliveryEvent Addr}
    (h : s.toDelivery.InHandle uuidToString codec poster) (hreads : e.readsNotices = false)
    (hstep : s.step uuidToString codec poster d args target asError (.delivery e) = some s') :
    (if e.elsewhere then 0 else 1) + s'.left (5 * (poster.retryCount + 1)) ≤
      s.left (5 * (poster.retryCount + 1)) := by
  obtain ⟨hown, delivery, hdelivery, rfl⟩ := delivery_cases hstep
  have hleft := Delivery.left_step h hown hreads hdelivery
  show _ + (s.mshutdown.cost + delivery.left _) ≤ s.mshutdown.cost + s.toDelivery.left _
  omega

variable (uuidToString codec poster args target asError) in
/-- `drain_and_join_at_mshutdown` goes on up to `join`; the `Drain` need not be delivered. -/
theorem progress (h : s.Followed d) (hbefore : s.mshutdown ≠ .before)
    (hjoining : s.mshutdown ≠ .joining) (hjoined : ∀ exit, s.mshutdown ≠ .joined exit) :
    ∃ e ∈ [.publishDrainDeadline, .sendDrain false, .dropSender],
      (s.step uuidToString codec poster d args target asError (.mshutdown e)).isSome := by
  cases hmshutdown : s.mshutdown with
  | before => exact absurd hmshutdown hbefore
  | taken deadline =>
      obtain rfl := h.taken deadline hmshutdown
      have hdelivery : (s.toDelivery.step uuidToString codec poster deadline args target asError
          (.shipper (.consumption (.publishDrainDeadline deadline)))).isSome :=
        Delivery.isSome_around rfl (decide_eq_true rfl) rfl
      refine ⟨.publishDrainDeadline, by simp, ?_⟩
      simpa [step, mshutdownStep, hmshutdown, deliver] using hdelivery
  | published deadline =>
      exact ⟨.sendDrain false, by simp, by simp [step, mshutdownStep, hmshutdown]⟩
  | drainSent =>
      have hdelivery : (s.toDelivery.step uuidToString codec poster d args target asError
          (.shipper (.consumption .close))).isSome := Delivery.isSome_around rfl rfl rfl
      refine ⟨.dropSender, by simp, ?_⟩
      simpa [step, mshutdownStep, hmshutdown, deliver] using hdelivery
  | joining => exact absurd hmshutdown hjoining
  | joined exit => exact absurd hmshutdown (hjoined exit)

end Pipeline

namespace HookPc

/-- In `MSHUTDOWN`, or after it. -/
def leaving (hook : HookPc) : Bool := hook = .mshutdown || hook.ending

theorem emitQueued_ne_emitting (queue : List String) (last last' : Bool) :
    emitQueued queue last ≠ .emitting [] last' := by
  unfold emitQueued
  split
  case isTrue => split <;> simp
  case isFalse hqueue =>
    rintro h
    cases h
    exact hqueue rfl

theorem emitQueued_ne_mshutdown (queue : List String) (last : Bool) :
    emitQueued queue last ≠ .mshutdown := by
  unfold emitQueued
  split
  · split <;> simp
  · simp

end HookPc

/-- A step of the process itself, not one of the clock or of a visitor of the server. -/
def ExtensionEvent.isOwn {Addr : Type} : ExtensionEvent Addr → Bool
  | .delivery e => !e.elsewhere
  | _ => true

namespace Extension

variable {Addr : Type} [DecidableEq Addr] {debugPath : String → String} {version : String}
  {resolved : Config × List ConfigWarning} {uuidToString : TraceId → String}
  {codec : WireCodec} {poster : RmpEncodeAndHttpPost} {d : Instant} {args : StubIngest.Args}
  {target : String} {asError : ℕ → Option UreqError} {files : String → Option (List UInt8)}
  {es : List (ExtensionEvent Addr)} {s s' : Extension Addr}

omit [DecidableEq Addr] in
/-- Between `drain_and_join_at_mshutdown` and its caller, and in the loop over the notices. -/
structure Hooked (s : Extension Addr) : Prop where
  joinable : s.hook = .mshutdown →
    s.toPipeline.mshutdown ≠ .before ∧ ∀ exit, s.toPipeline.mshutdown ≠ .joined exit
  queue : ∀ last, s.hook ≠ .emitting [] last

theorem hooked_step {e : ExtensionEvent Addr}
    (hstep : s.step debugPath version resolved uuidToString codec poster d args target asError e =
      some s') (h : s.Hooked) : s'.Hooked := by
  obtain ⟨e', hact, hafter, -⟩ := exists_act hstep
  obtain ⟨p, m⟩ := s'
  dsimp only at hact hafter
  cases hact with
  | startup | rinit | spawn | allocate | release | leave | senderless | join | threadless =>
      exact ⟨by simp [startupBody], by simp [startupBody]⟩
  | rshutdown => constructor <;> dsimp only <;> split <;> simp
  | unobserved e hhook =>
      cases hafter
      exact h
  | observe e hhook =>
      rcases hhook with hhook | hhook <;> exact ⟨by simp [hhook], by simp [hhook]⟩
  | trySend hhook | drain hhook => exact ⟨by simp [hhook], by simp [hhook]⟩
  | drainDropNotices | emit =>
      exact ⟨fun h => absurd h (HookPc.emitQueued_ne_mshutdown _ _),
        fun last => HookPc.emitQueued_ne_emitting _ _ last⟩
  | take =>
      cases Pipeline.mshutdown_cases hafter with
      | take => exact ⟨by simp, by simp⟩
  | shutdown e hhook he =>
      refine ⟨fun _ => ?_, by simp [hhook]⟩
      cases Pipeline.mshutdown_cases hafter with
      | join => exact absurd rfl he
      | take | publish | send | giveUp | close => exact ⟨by simp, by simp⟩
  | delivery e hpermits =>
      obtain ⟨-, hmshutdown⟩ := Pipeline.frame_delivery hafter
      refine ⟨fun hhook => ?_, h.queue⟩
      rw [hmshutdown]
      exact h.joinable hhook

theorem hooked_run
    (h : run (step debugPath version resolved uuidToString codec poster d args target asError)
      (start files) es = some s) : s.Hooked :=
  run_invariant (I := Hooked) (fun _ _ _ => hooked_step) h
    ⟨fun h => (by cases h), fun _ h => (by cases h)⟩

theorem inHandle_run
    (h : run (step debugPath version resolved uuidToString codec poster d args target asError)
      (start files) es = some s) : s.toDelivery.InHandle uuidToString codec poster :=
  Pipeline.inHandle_run ((refines_pipeline Addr debugPath version resolved uuidToString codec poster
    d args target asError).run_matched h)

/-! ### The steps run out -/

noncomputable def left (n : ℕ) (s : Extension Addr) : ℕ := s.hook.cost + s.toPipeline.left n

/-- **A step in `MSHUTDOWN` is one of those that were left.** -/
theorem left_step (h : s.toDelivery.InHandle uuidToString codec poster)
    (hleaving : s.hook.leaving = true) {e : ExtensionEvent Addr}
    (hstep : s.step debugPath version resolved uuidToString codec poster d args target asError e =
      some s') :
    s'.hook.leaving = true ∧
      (if e.isOwn then 1 else 0) + s'.left (5 * (poster.retryCount + 1)) ≤
        s.left (5 * (poster.retryCount + 1)) := by
  obtain ⟨e', hact, hafter, -⟩ := exists_act hstep
  obtain ⟨p, m⟩ := s'
  dsimp only at hact hafter
  cases hact with
  | startup hhook | rinit _ hhook | spawn _ _ hhook | allocate _ _ _ hhook | trySend hhook
  | rshutdown _ hhook | drain hhook | release hhook | leave hhook | take _ hhook
  | senderless _ hhook =>
      simp [hhook, HookPc.leaving, HookPc.ending] at hleaving
  | unobserved _ hhook | observe _ hhook =>
      rcases hhook with hhook | hhook <;> simp [hhook, HookPc.leaving, HookPc.ending] at hleaving
  | drainDropNotices last hhook =>
      obtain rfl : last = true := by simpa [hhook, HookPc.leaving, HookPc.ending] using hleaving
      obtain rfl := Pipeline.drainDropNotices_eq hafter
      refine ⟨by simp [HookPc.leaving, HookPc.ending_emitQueued], ?_⟩
      have hcost : s.hook.cost = 1 := congrArg _ hhook
      simp only [left, Pipeline.left, Delivery.left, Shipper.left, HookPc.cost_emitQueued, hcost,
        ExtensionEvent.isOwn, if_true, List.length_nil]
      omega
  | emit notice queue last hhook =>
      cases hafter
      obtain rfl : last = true := by simpa [hhook, HookPc.leaving, HookPc.ending] using hleaving
      refine ⟨by simp [HookPc.leaving, HookPc.ending_emitQueued], ?_⟩
      have hcost : s.hook.cost = queue.length + 1 := congrArg _ hhook
      simp only [left, HookPc.cost_emitQueued, hcost, ExtensionEvent.isOwn, if_true]
      omega
  | shutdown e hhook he =>
      have hleft := Pipeline.left_mshutdown (5 * (poster.retryCount + 1)) hafter
      rw [if_neg he] at hleft
      refine ⟨hleaving, ?_⟩
      simp only [left, ExtensionEvent.isOwn, if_true]
      omega
  | join hhook =>
      have hleft := Pipeline.left_mshutdown (5 * (poster.retryCount + 1)) hafter
      refine ⟨rfl, ?_⟩
      simp only [left, hhook, HookPc.cost, ExtensionEvent.isOwn, if_true] at hleft ⊢
      omega
  | threadless hhook =>
      cases hafter
      refine ⟨rfl, ?_⟩
      simp only [left, hhook, HookPc.cost, ExtensionEvent.isOwn, if_true]
      omega
  | delivery e hpermits =>
      have hleft := Pipeline.left_delivery h (readsNotices_of_permits hpermits) hafter
      refine ⟨hleaving, ?_⟩
      cases helsewhere : e.elsewhere <;>
        simp only [left, ExtensionEvent.isOwn, helsewhere, Bool.not_true, Bool.not_false,
          Bool.false_eq_true, if_true, if_false] at hleft ⊢ <;> omega

/-! ### The hook goes on until it returns -/

theorem isSome_step {e : ExtensionEvent Addr} (e' : PipelineEvent Unit Addr) (m : Module)
    (hact : s.act debugPath version resolved poster e = some (some e', m))
    (h : (s.toPipeline.step uuidToString codec poster d args target asError e').isSome) :
    (s.step debugPath version resolved uuidToString codec poster d args target asError
      e).isSome := by
  simp [step, hact, after, h]

/-- While `MSHUTDOWN` waits in `join`, the shipper thread goes on. -/
theorem progress_join (h : s.toDelivery.InHandle uuidToString codec poster)
    (hhook : s.hook = .mshutdown) (hjoining : s.toPipeline.mshutdown = .joining)
    (hclosed : s.closed = true) (hrunning : s.slots.running = s.slots.handle) :
    ∃ e : ExtensionEvent Addr, e.isOwn = true ∧
      (s.step debugPath version resolved uuidToString codec poster d args target asError
        e).isSome := by
  cases hhandle : s.slots.handle with
  | false =>
      refine ⟨.shutdown .join, rfl, ?_⟩
      simp [step, act, hhook, shutdown, hhandle, hjoining, after]
  | true =>
      by_cases hreturned : ∃ exit, s.pc = .returned exit
      · obtain ⟨exit, hpc⟩ := hreturned
        refine ⟨.shutdown .join, rfl, isSome_step (.mshutdown .join)
          { s.toModule with
            slots := { s.slots with handle := false }
            hook := .notices true } ?_ ?_⟩
        · simp [act, hhook, shutdown, hhandle]
        · simp [Pipeline.step, Pipeline.mshutdownStep, hjoining, hpc]
      · obtain ⟨e, hown, helsewhere, hreads, hstep⟩ := Delivery.progress d args target asError h
          hclosed fun exit hpc => hreturned ⟨exit, hpc⟩
        refine ⟨.delivery e, by simp [ExtensionEvent.isOwn, helsewhere],
          isSome_step (.delivery e) s.toModule ?_ ?_⟩
        · simp [act, permits, hrunning, hhandle, hreads]
        · simp [Pipeline.step, hown, Pipeline.deliver, hstep]

/-- **Progress**: as long as `MSHUTDOWN` has not returned, the process has a step to take. -/
theorem progress
    (h : run (step debugPath version resolved uuidToString codec poster d args target asError)
      (start files) es = some s) (hleaving : s.hook.leaving = true) (hstopped : s.hook ≠ .stopped) :
    ∃ e : ExtensionEvent Addr, e.isOwn = true ∧
      (s.step debugPath version resolved uuidToString codec poster d args target asError
        e).isSome := by
  have hhooked := hooked_run h
  cases hhook : s.hook with
  | loaded | idle | rinit | request => simp [hhook, HookPc.leaving, HookPc.ending] at hleaving
  | stopped => exact absurd hhook hstopped
  | notices last =>
      refine ⟨.drainDropNotices, rfl, isSome_step _ _ (by simp only [act, hhook]; rfl) ?_⟩
      have hdelivery : (s.toDelivery.step uuidToString codec poster d args target asError
          (.shipper (.consumption .drainDropNotices))).isSome := Delivery.isSome_around rfl rfl rfl
      simpa [Pipeline.step, Pipeline.own, Pipeline.deliver] using hdelivery
  | emitting queue last =>
      cases queue with
      | nil => exact absurd hhook (hhooked.queue last)
      | cons notice queue => exact ⟨.emit, rfl, by simp [step, act, hhook, after]⟩
  | mshutdown =>
      have hrun := (refines_pipeline Addr debugPath version resolved uuidToString codec poster d
        args target asError).run_matched h
      have hfollowed := Pipeline.followed_run hrun
      obtain ⟨hbefore, hjoined⟩ := hhooked.joinable hhook
      by_cases hjoining : s.toPipeline.mshutdown = .joining
      · have hrunning : s.slots.running = s.slots.handle := by
          cases stage_run h with
          | closing awake _ _ hslots =>
              rw [hslots]
              cases awake <;> rfl
          | loaded hmodule => simp [hmodule, Module.init] at hhook
          | disabled _ _ _ _ hhook' | failed _ _ _ hhook' =>
              simp [hhook, HookPc.serving, HookPc.ending] at hhook'
          | installed _ _ _ hhook' | running _ _ _ hhook' | closed _ _ _ _ hhook' =>
              simp [hhook, HookPc.serving, HookPc.ending] at hhook'
        exact progress_join (inHandle_run h) hhook hjoining (hfollowed.closed hjoining)
          hrunning
      · obtain ⟨e, he, hstep⟩ := Pipeline.progress uuidToString codec poster args target asError
          hfollowed hbefore hjoining hjoined
        refine ⟨.shutdown e, rfl, isSome_step (.mshutdown e) s.toModule ?_ hstep⟩
        simp only [List.mem_cons, List.not_mem_nil, or_false] at he
        rcases he with rfl | rfl | rfl <;> simp [act, hhook, shutdown]

/-! ### `MSHUTDOWN` returns -/

omit [DecidableEq Addr] in
theorem Stage.calm {config : Config} (h : Stage config s) (hhook : s.hook = .idle) :
    s.toShipper.Calm := by
  cases h with
  | loaded _ hfresh | disabled _ _ _ _ _ _ hfresh | installed _ _ _ _ _ hfresh => exact hfresh.calm
  | running _ _ _ _ _ hcalm | failed _ _ _ _ _ _ hcalm => exact hcalm
  | closing _ _ _ _ hhook' => simp [hhook] at hhook'
  | closed _ _ _ _ hhook' => simp [hhook, HookPc.ending] at hhook'

theorem left_le_of_mshutdown {t : Extension Addr} (hstage : Stage resolved.1 s)
    (h : s.toDelivery.InHandle uuidToString codec poster)
    (hstep : s.step debugPath version resolved uuidToString codec poster d args target asError
      .mshutdown = some t) :
    t.hook.leaving = true ∧ t.left (5 * (poster.retryCount + 1)) ≤
      10 + s.dropNotices.length + (5 * (poster.retryCount + 1) + 6) * s.held.length := by
  have hcost : s.toPipeline.mshutdown.cost ≤ 5 := by
    cases s.toPipeline.mshutdown <;> simp [Mshutdown.cost]
  obtain ⟨e', hact, hafter, -⟩ := exists_act hstep
  obtain ⟨p, m⟩ := t
  dsimp only at hact hafter
  cases hact with
  | leave hhook | senderless _ hhook =>
      cases hafter
      have hleft := Delivery.left_le h (hstage.calm hhook)
      refine ⟨rfl, ?_⟩
      simp only [left, Pipeline.left, HookPc.cost]
      omega
  | take config hhook =>
      have hleft := Delivery.left_le h (hstage.calm hhook)
      cases Pipeline.mshutdown_cases hafter with
      | take =>
          refine ⟨rfl, ?_⟩
          simp only [left, Pipeline.left, HookPc.cost, Mshutdown.cost]
          omega

/-- **`MSHUTDOWN` returns.**  From its call on the process takes a bounded number of steps, whatever
the clock, the network and the server do in between; and at any point the hook has returned or the
process has a step to take. -/
theorem mshutdown_returns {t u : Extension Addr} {es' : List (ExtensionEvent Addr)}
    (h : run (step debugPath version resolved uuidToString codec poster d args target asError)
      (start files) es = some s)
    (hmshutdown : s.step debugPath version resolved uuidToString codec poster d args target asError
      .mshutdown = some t)
    (hrun : run (step debugPath version resolved uuidToString codec poster d args target asError)
      t es' = some u) :
    es'.countP ExtensionEvent.isOwn ≤
        10 + s.dropNotices.length + (5 * (poster.retryCount + 1) + 6) * s.held.length ∧
      (u.hook = .stopped ∨ ∃ e : ExtensionEvent Addr, e.isOwn = true ∧
        (u.step debugPath version resolved uuidToString codec poster d args target asError
          e).isSome) := by
  obtain ⟨hleaving, hbound⟩ := left_le_of_mshutdown (stage_run h) (inHandle_run h) hmshutdown
  have ht := run_snoc_eq_some.mpr ⟨s, h, hmshutdown⟩
  -- the states of the hook that the process reaches
  let I : Extension Addr → Prop := fun v =>
    v.hook.leaving = true ∧ ∃ fs, run (step debugPath version resolved uuidToString codec poster d
      args target asError) (start files) fs = some v
  have hI : ∀ v e v', v.step debugPath version resolved uuidToString codec poster d args target
      asError e = some v' → I v → I v' := by
    rintro v e v' hstep ⟨hleaving, fs, hv⟩
    exact ⟨(left_step (inHandle_run hv) hleaving hstep).1, _, run_snoc_eq_some.mpr ⟨v, hv, hstep⟩⟩
  have hcount := countP_add_rank_le (left (5 * (poster.retryCount + 1))) hI
    (fun v e v' hstep hv => (left_step (inHandle_run hv.2.choose_spec) hv.1 hstep).2) hrun
    ⟨hleaving, _, ht⟩
  refine ⟨(Nat.le_add_right _ _).trans (hcount.trans hbound), ?_⟩
  obtain ⟨hleaving', fs, hu⟩ := run_invariant hI hrun ⟨hleaving, _, ht⟩
  exact or_iff_not_imp_left.mpr (progress hu hleaving')

/-- A shutdown with two batches in the channel, up to `join`: the thread has not begun yet. -/
theorem mshutdown_returns_waiting :
    ∃ s t u, run sampleStep sampleStart oneRequest = some s ∧ sampleStep s .mshutdown = some t ∧
      run sampleStep t [.shutdown .publishDrainDeadline, .shutdown (.sendDrain false),
        .shutdown .dropSender] = some u ∧
      u.hook = .mshutdown ∧ s.held.length = 2 ∧
      (u.hook = .stopped ∨ ∃ e : ExtensionEvent ℕ, e.isOwn = true ∧ (sampleStep u e).isSome) := by
  have hs := (Option.some_get (show (run sampleStep sampleStart oneRequest).isSome = true by
    decide +kernel)).symm
  have ht := (Option.some_get (show (sampleStep ((run sampleStep sampleStart oneRequest).get
    (by decide +kernel)) .mshutdown).isSome = true by decide +kernel)).symm
  have hu := (Option.some_get (show (run sampleStep ((sampleStep ((run sampleStep sampleStart
    oneRequest).get (by decide +kernel)) .mshutdown).get (by decide +kernel))
      [.shutdown .publishDrainDeadline, .shutdown (.sendDrain false),
        .shutdown .dropSender]).isSome = true by decide +kernel)).symm
  exact ⟨_, _, _, hs, ht, hu, by decide +kernel, by decide +kernel, (mshutdown_returns hs ht hu).2⟩

end Extension

end PhpAnalyze
