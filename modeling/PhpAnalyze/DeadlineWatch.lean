import PhpAnalyze.Consumption
import PhpAnalyze.Retry

/-! # A published deadline is seen

`HttpShipper` is the shipper with the HTTP poster as its `OnBatch` step: `handle` is the
program `runWithRetry`, whose closures read the state of the process one at a time.  Between
any two of its turns the deadline may be published, the `Drain` may be sent and time may
pass.

There are three carriers of the deadline: the cell that the loop reads at its head, the
`Drain` message, and the cell that `handle` reads again in every iteration.  The iteration
that runs when the deadline is published may have read the cell too early; no other one has
(`deadline_seen_by_all_but_one`). -/

namespace PhpAnalyze

open Machine Interaction

/-- An HTTP attempt, with what its iteration had asked before. -/
structure Launch where
  published : Bool
  iteration : List RetryTurn

/-- The iteration compared the clock with the deadline, and was in time. -/
def Launch.Guarded (d : Instant) (launch : Launch) : Prop :=
  ∃ now < d, launch.iteration = [⟨.deadlineFn, some d⟩, ⟨.now, now⟩]

/-- The fates that are left to a batch when the deadline has passed. -/
def BatchFate.late : BatchFate → Bool
  | .sent => false
  | .dropped _ reason _ => reason = .deadlineExceeded || reason = .encodeFailed
  | .abandoned => true

structure HttpShipper extends Consumption where
  program : Option RetryProgram
  iteration : List RetryTurn
  launches : List Launch

inductive HttpEvent where
  | consumption (e : ConsumptionEvent)
  | call (verdict : AttemptOutcome)
  | finish
deriving DecidableEq

/-- The deadline that the loop has taken from the cell or from a `Drain`. -/
def ShipperPc.deadline : ShipperPc → Option Instant
  | .receiving deadline => deadline
  | .consuming _ deadline => deadline
  | .handling _ deadline _ => deadline
  | _ => none

namespace HttpShipper

variable (env : NoticeEnv) (retryCount : ℕ) (retryBackoffMs : UInt32) (d : Instant)

def start (shared : Shared) : HttpShipper where
  toConsumption := Consumption.start shared
  program := none
  iteration := []
  launches := []

/-- The cell and the `Drain` carry one deadline, and the clock does not run backwards. -/
def agrees (s : HttpShipper) : ConsumptionEvent → Bool
  | .onBatch _ => false
  | .publishDrainDeadline deadline => deadline = d
  | .send (.drain deadline) => deadline = d
  | .tick now => s.now ≤ now
  | _ => true

/-- What the closures of `handle` return. -/
def answer (s : HttpShipper) (verdict : AttemptOutcome) : (q : RetryCall) → RetryAnswer q
  | .deadlineFn => sooner s.pc.deadline s.drainDeadline
  | .now => s.now
  | .attempt _ => verdict
  | .sleepFn _ => ()

/-- The turns of the current iteration after one more; a sleep ends the iteration. -/
def iterationAfter (s : HttpShipper) (verdict : AttemptOutcome) : RetryCall → List RetryTurn
  | .sleepFn _ => []
  | q => s.iteration ++ [⟨q, s.answer verdict q⟩]

def launchesOf (s : HttpShipper) : RetryCall → List Launch
  | .attempt _ => [{ published := s.drainDeadline.isSome, iteration := s.iteration }]
  | _ => []

def call (s : HttpShipper) (verdict : AttemptOutcome) : Option HttpShipper :=
  match s.program with
  | some (.ask q next) => some { s with
      program := some (next (s.answer verdict q))
      iteration := s.iterationAfter verdict q
      launches := s.launches ++ s.launchesOf q }
  | _ => none

def finish (s : HttpShipper) : Option HttpShipper :=
  match s.program with
  | some (.ret (some outcome)) =>
      (s.toConsumption.step env (.onBatch outcome)).map fun c =>
        { s with toConsumption := c, program := none, iteration := [] }
  | _ => none

/-- A step around `handle`; the encoder starts it. -/
def around (s : HttpShipper) (e : ConsumptionEvent) : Option HttpShipper :=
  if s.agrees d e then
    (s.toConsumption.step env e).map fun c =>
      if e = .encode true then
        { s with
          toConsumption := c
          program := some (runWithRetry retryCount retryBackoffMs)
          iteration := [] }
      else { s with toConsumption := c }
  else none

def step (s : HttpShipper) : HttpEvent → Option HttpShipper
  | .consumption e => s.around env retryCount retryBackoffMs d e
  | .call verdict => s.call verdict
  | .finish => s.finish env

inductive Step (s : HttpShipper) : HttpEvent → HttpShipper → Prop
  | around {e c} (hagrees : s.agrees d e = true) (hencode : e ≠ .encode true)
      (h : s.toConsumption.step env e = some c) :
      Step s (.consumption e) { s with toConsumption := c }
  | handle {c} (h : s.toConsumption.step env (.encode true) = some c) :
      Step s (.consumption (.encode true))
        { s with
          toConsumption := c
          program := some (runWithRetry retryCount retryBackoffMs)
          iteration := [] }
  | call {q next} (verdict) (hprogram : s.program = some (.ask q next)) :
      Step s (.call verdict)
        { s with
          program := some (next (s.answer verdict q))
          iteration := s.iterationAfter verdict q
          launches := s.launches ++ s.launchesOf q }
  | finish {outcome c} (hprogram : s.program = some (.ret (some outcome)))
      (h : s.toConsumption.step env (.onBatch outcome) = some c) :
      Step s .finish { s with toConsumption := c, program := none, iteration := [] }

variable {env retryCount retryBackoffMs d}

/-- **The four cases of a step.** -/
theorem step_cases {s s' : HttpShipper} {e : HttpEvent}
    (h : s.step env retryCount retryBackoffMs d e = some s') :
    Step env retryCount retryBackoffMs d s e s' := by
  cases e with
  | consumption e =>
      simp only [step, around] at h
      split at h
      case isTrue hagrees =>
        obtain ⟨c, hc, rfl⟩ := Option.map_eq_some_iff.mp h
        split
        case isTrue hencode =>
          subst hencode
          exact .handle hc
        case isFalse hencode => exact .around hagrees hencode hc
      case isFalse => cases h
  | call verdict =>
      simp only [step, call] at h
      split at h
      case h_1 hprogram =>
        cases h
        exact .call verdict hprogram
      case h_2 => cases h
  | finish =>
      simp only [step, finish] at h
      split at h
      case h_1 hprogram =>
        obtain ⟨c, hc, rfl⟩ := Option.map_eq_some_iff.mp h
        exact .finish hprogram hc
      case h_2 => cases h

end HttpShipper

/-! ### Where an iteration is -/

section iteration

variable (retryCount : ℕ) (retryBackoffMs : UInt32) (i : ℕ) (rest : List ℕ)

/-- The iteration from its attempt on. -/
def attemptOn (deadline : Option Instant) : RetryProgram :=
  .ask (.attempt i) fun (outcome : AttemptOutcome) =>
    match outcome with
    | .sent => .ret (some .sent)
    | .failed reason =>
        if i = retryCount then .ret (some (.dropped reason (i + 1)))
        else
          unlessPast deadline (backoffDuration retryBackoffMs i)
            (.ret (some (.dropped .deadlineExceeded (i + 1))))
            (.ask (.sleepFn (backoffDuration retryBackoffMs i)) fun _ =>
              retryLoop retryCount retryBackoffMs rest)

/-- The turns of the iteration `i` so far, and what is left of the program. -/
inductive Place : List RetryTurn → RetryProgram → Prop
  | head : Place [] (retryLoop retryCount retryBackoffMs (i :: rest))
  | check (d : Instant) :
      Place [⟨.deadlineFn, some d⟩] (unlessPast (some d) 0
        (.ret (some (.dropped .deadlineExceeded i)))
        (attemptOn retryCount retryBackoffMs i rest (some d)))
  | launch {deadline head} (hhead : Head deadline head) :
      Place head (attemptOn retryCount retryBackoffMs i rest deadline)
  | checkSleep {d head} (reason : DropReason) (hhead : Head (some d) head)
      (hmore : i ≠ retryCount) :
      Place (head ++ [⟨.attempt i, .failed reason⟩])
        (unlessPast (some d) (backoffDuration retryBackoffMs i)
          (.ret (some (.dropped .deadlineExceeded (i + 1))))
          (.ask (.sleepFn (backoffDuration retryBackoffMs i)) fun _ =>
            retryLoop retryCount retryBackoffMs rest))
  | sleep {deadline head check} (reason : DropReason) (hhead : Head deadline head)
      (hcheck : InTime (backoffDuration retryBackoffMs i) deadline check) :
      Place (head ++ ⟨.attempt i, .failed reason⟩ :: check)
        (.ask (.sleepFn (backoffDuration retryBackoffMs i)) fun _ =>
          retryLoop retryCount retryBackoffMs rest)
  | returned {turns outcome} (h : Returns retryCount retryBackoffMs i turns outcome) :
      Place turns (.ret (some outcome))

variable {retryCount retryBackoffMs i rest} {turns : List RetryTurn} {p : RetryProgram}
  {q : RetryCall} {next : RetryAnswer q → RetryProgram}

theorem retryLoop_cons :
    retryLoop retryCount retryBackoffMs (i :: rest) =
      .ask .deadlineFn fun (deadline : Option Instant) =>
        unlessPast deadline 0 (.ret (some (.dropped .deadlineExceeded i)))
          (attemptOn retryCount retryBackoffMs i rest deadline) := rfl

/-- After a turn the iteration is at its next place, and after a sleep at the next head. -/
theorem Place.turn (h : Place retryCount retryBackoffMs i rest turns p) (hp : p = .ask q next)
    (a : RetryAnswer q) :
    (∃ duration, q = .sleepFn duration) ∧ next a = retryLoop retryCount retryBackoffMs rest ∨
      (∀ duration, q ≠ .sleepFn duration) ∧
        Place retryCount retryBackoffMs i rest (turns ++ [⟨q, a⟩]) (next a) := by
  cases h with
  | head =>
      rw [retryLoop_cons] at hp
      cases hp
      refine .inr ⟨by simp, ?_⟩
      match a with
      | none => exact .launch .unbounded
      | some d => exact .check d
  | check d =>
      cases hp
      refine .inr ⟨by simp, ?_⟩
      dsimp only
      split_ifs with hle
      · exact .returned (.expired d a hle)
      · exact .launch (.bounded d a (Nat.lt_of_not_le hle))
  | @launch deadline head hhead =>
      cases hp
      refine .inr ⟨by simp, ?_⟩
      match a with
      | .sent => exact .returned (.sent hhead)
      | .failed reason =>
          dsimp only
          split_ifs with hlast
          · exact .returned (.exhausted reason hhead hlast)
          · cases deadline with
            | none => exact .sleep reason hhead .unbounded
            | some d => exact .checkSleep reason hhead hlast
  | @checkSleep d head reason hhead hmore =>
      cases hp
      refine .inr ⟨by simp, ?_⟩
      dsimp only
      rw [List.append_assoc]
      split_ifs with hle
      · exact .returned (.collapsed a reason hhead hmore hle)
      · exact .sleep reason hhead (.bounded d a (Nat.lt_of_not_le hle))
  | sleep reason hhead hcheck =>
      cases hp
      exact .inl ⟨⟨_, rfl⟩, rfl⟩
  | returned h => cases hp

theorem Place.head_of_attempt {attemptIdx : ℕ}
    {next : RetryAnswer (.attempt attemptIdx) → RetryProgram}
    (h : Place retryCount retryBackoffMs i rest turns p)
    (hp : p = .ask (.attempt attemptIdx) next) : ∃ deadline, Head deadline turns := by
  cases h with
  | head =>
      rw [retryLoop_cons] at hp
      cases hp
  | launch hhead => exact ⟨_, hhead⟩
  | check | checkSleep | sleep | returned => cases hp

theorem Head.cases {deadline : Option Instant} (h : Head deadline turns) :
    turns = [⟨.deadlineFn, none⟩] ∨
      ∃ d, ∃ now < d, turns = [⟨.deadlineFn, some d⟩, ⟨.now, now⟩] := by
  cases h with
  | unbounded => exact .inl rfl
  | bounded d now hlt => exact .inr ⟨d, now, hlt, rfl⟩

theorem Head.sampled {deadline : Option Instant} (h : Head deadline turns) :
    ⟨.deadlineFn, deadline⟩ ∈ turns := by
  cases h <;> exact List.mem_cons_self

/-- A head that goes on to its attempt has read the clock before the deadline, if at all. -/
theorem Head.now_lt {deadline : Option Instant} (h : Head deadline turns) {now : Instant}
    (hnow : ⟨.now, now⟩ ∈ turns) : ∃ d, deadline = some d ∧ now < d := by
  cases h with
  | unbounded => simp at hnow
  | bounded d now' hlt =>
      obtain rfl : now = now' := by simpa using hnow
      exact ⟨d, rfl, hlt⟩

theorem InTime.now_lt {deadline : Option Instant} {sleep : Duration}
    (h : InTime sleep deadline turns) {now : Instant} (hnow : ⟨.now, now⟩ ∈ turns) :
    ∃ d, deadline = some d ∧ now < d := by
  cases h with
  | unbounded => cases hnow
  | bounded d now' hlt =>
      obtain rfl : now = now' := by simpa using hnow
      exact ⟨d, rfl, Nat.lt_of_add_right_lt hlt⟩

/-- An iteration that has seen the deadline pass has nothing left but to say so. -/
theorem Place.eq_ret_of_past {d now : Instant}
    (h : Place retryCount retryBackoffMs i rest turns p)
    (hdeadline : ∀ d', ⟨.deadlineFn, some d'⟩ ∈ turns → d' = d) (hnow : ⟨.now, now⟩ ∈ turns)
    (hpast : d ≤ now) :
    (∃ attempts, p = .ret (some (.dropped .deadlineExceeded attempts))) ∧
      ∃ d', ⟨.deadlineFn, some d'⟩ ∈ turns := by
  have habsurd : ∀ {deadline : Option Instant} {d'}, ⟨.deadlineFn, deadline⟩ ∈ turns →
      deadline = some d' → ¬ now < d' := by
    rintro _ d' hmem rfl hlt
    rw [hdeadline d' hmem] at hlt
    exact Nat.not_lt.mpr hpast hlt
  cases h with
  | head => cases hnow
  | check d' => simp at hnow
  | launch hhead =>
      obtain ⟨d', hd', hlt⟩ := hhead.now_lt hnow
      exact absurd hlt (habsurd hhead.sampled hd')
  | checkSleep reason hhead =>
      obtain ⟨d', hd', hlt⟩ := hhead.now_lt (by simpa using hnow)
      exact absurd hlt (habsurd (List.mem_append_left _ hhead.sampled) hd')
  | @sleep deadline head check reason hhead hcheck =>
      have hsampled := List.mem_append_left (⟨.attempt i, .failed reason⟩ :: check) hhead.sampled
      rcases List.mem_append.mp hnow with hnow | hnow
      · obtain ⟨d', hd', hlt⟩ := hhead.now_lt hnow
        exact absurd hlt (habsurd hsampled hd')
      · obtain ⟨d', hd', hlt⟩ := hcheck.now_lt (by simpa using hnow)
        exact absurd hlt (habsurd hsampled hd')
  | returned h =>
      cases h with
      | expired d' now' hle => exact ⟨⟨i, rfl⟩, d', List.mem_cons_self⟩
      | sent hhead | exhausted _ hhead =>
          obtain ⟨d', hd', hlt⟩ := hhead.now_lt (by simpa using hnow)
          exact absurd hlt (habsurd (List.mem_append_left _ hhead.sampled) hd')
      | collapsed now' reason hhead hmore hle =>
          exact ⟨⟨i + 1, rfl⟩, _, List.mem_append_left _ hhead.sampled⟩

end iteration

/-! ### The carriers of the deadline -/

/-- All carriers carry this deadline. -/
structure Agreed (d : Instant) (s : Shipper) : Prop where
  cell : ∀ x, s.drainDeadline = some x → x = d
  drains : ∀ x, .drain x ∈ s.channel → x = d
  phase : ∀ x, s.pc.deadline = some x → x = d

def ShipperPc.isOver : ShipperPc → Bool
  | .abandoning _ => true
  | .returning _ => true
  | .returned _ => true
  | _ => false

/-- Every later iteration samples a deadline. -/
def Armed (s : Shipper) : Prop :=
  s.drainDeadline ≠ none ∨ s.pc.deadline ≠ none ∨ s.pc.isOver = true

/-- What every step does to the carriers and to the clock. -/
structure Tightens (d : Instant) (s s' : Shipper) : Prop where
  agreed : Agreed d s → Agreed d s'
  armed : Armed s → Armed s'
  cell : s.drainDeadline ≠ none → s'.drainDeadline ≠ none
  now : s.now ≤ s'.now

section carriers

variable {env : NoticeEnv} {d : Instant} {s s' s'' : Shipper} {e : ShipperEvent}

theorem Tightens.refl (d : Instant) (s : Shipper) : Tightens d s s :=
  ⟨id, id, id, Nat.le_refl _⟩

theorem Tightens.trans (h : Tightens d s s') (h' : Tightens d s' s'') : Tightens d s s'' :=
  ⟨h'.agreed ∘ h.agreed, h'.armed ∘ h.armed, h'.cell ∘ h.cell, h.now.trans h'.now⟩

@[simp] theorem deadline_afterBatch (deadline : Option Instant) :
    (Shipper.afterBatch deadline).deadline = deadline := by
  cases deadline <;> rfl

theorem tightens_encode {batch : PendingBatch} {deadline : Option Instant}
    (hpc : s.pc = .consuming batch deadline) (droppedRecords : ℕ) :
    Tightens d s { s with pc := .handling batch deadline droppedRecords } := by
  refine ⟨fun h => ⟨h.cell, h.drains, fun x hx => h.phase x ?_⟩, ?_, id, Nat.le_refl _⟩
  · rw [hpc]
    exact hx
  · simp [Armed, hpc, ShipperPc.deadline, ShipperPc.isOver]

theorem Agreed.tail (h : Agreed d s) {message : ShipperMessage} {rest : List ShipperMessage}
    (hchannel : s.channel = message :: rest) (x : Instant) (hx : .drain x ∈ rest) : x = d := by
  apply h.drains x
  rw [hchannel]
  exact List.mem_cons_of_mem _ hx

theorem tightens_over {pc : ShipperPc} (hdeadline : pc.deadline = none)
    (hover : pc.isOver = true) : Tightens d s { s with pc } :=
  ⟨fun h => ⟨h.cell, h.drains, by simp [hdeadline]⟩, fun _ => .inr (.inr hover), id, Nat.le_refl _⟩

theorem tightens_shipper (h : Shipper.Step env s e s') : Tightens d s s' := by
  cases h with
  | loop hpc =>
      refine ⟨fun h => ⟨h.cell, h.drains, h.cell⟩, fun h => ?_, id, Nat.le_refl _⟩
      rcases h with h | h | h
      · exact .inl h
      · simp [hpc, ShipperPc.deadline] at h
      · simp [hpc, ShipperPc.isOver] at h
  | recvBatch deadline batch rest hpc hchannel =>
      refine ⟨fun h => ⟨h.cell, h.tail hchannel, fun x hx => h.phase x ?_⟩, ?_, id, Nat.le_refl _⟩
      · rw [hpc]
        exact hx
      · simp [Armed, hpc, ShipperPc.deadline, ShipperPc.isOver]
  | recvDrain deadline entry rest hpc hchannel =>
      refine ⟨fun h => ⟨h.cell, h.tail hchannel, fun x hx => ?_⟩, ?_, id, Nat.le_refl _⟩
      · obtain rfl : deadline.getD entry = x := by simpa [ShipperPc.deadline] using hx
        cases deadline with
        | none => exact h.drains entry (by rw [hchannel]; exact List.mem_cons_self)
        | some x => exact h.phase x (by rw [hpc]; rfl)
      · simp [Armed, ShipperPc.deadline]
  | recvClosed => exact tightens_over rfl rfl
  | timeout => exact tightens_over rfl rfl
  | encode batch deadline hpc => exact tightens_encode hpc _
  | handled batch deadline droppedRecords outcome hpc =>
      have harmed : Armed s → s.drainDeadline ≠ none ∨ deadline ≠ none := by
        simp [Armed, hpc, ShipperPc.deadline, ShipperPc.isOver]
      have hphase : ∀ {x}, Agreed d s → deadline = some x → x = d := by
        intro x h hx
        exact h.phase x (by rw [hpc]; exact hx)
      cases outcome <;>
        exact ⟨fun h => ⟨h.cell, h.drains, fun x hx => hphase h (by simpa using hx)⟩,
          fun h => (harmed h).imp_right fun hd => .inl (by simpa using hd), id, Nat.le_refl _⟩
  | abandonBatch abandoned batch rest hpc hchannel =>
      exact ⟨fun h => ⟨h.cell, h.tail hchannel, by simp [ShipperPc.deadline]⟩,
        fun _ => .inr (.inr rfl), id, Nat.le_refl _⟩
  | skipDrain abandoned entry rest hpc hchannel =>
      exact ⟨fun h => ⟨h.cell, h.tail hchannel, h.phase⟩, id, id, Nat.le_refl _⟩
  | giveUp => exact tightens_over rfl rfl
  | dropReceiver => exact tightens_over rfl rfl

theorem tightens_around {s : HttpShipper} {c : Consumption} {e : ConsumptionEvent}
    (hagrees : s.agrees d e = true) (h : s.toConsumption.step env e = some c) :
    Tightens d s.toShipper c.toShipper := by
  cases Consumption.step_cases h with
  | loop hloop | recv hloop | timeout hloop | tryRecv hloop | dropReceiver hloop =>
      exact tightens_shipper hloop
  | encode hpc => exact tightens_encode hpc _
  | encodeFailed hpc hhandled => exact (tightens_encode hpc _).trans (tightens_shipper hhandled)
  | onBatch => cases hagrees
  | send message =>
      refine ⟨fun h => ⟨h.cell, fun x hx => ?_, h.phase⟩, id, id, Nat.le_refl _⟩
      rcases List.mem_append.mp hx with hx | hx
      · exact h.drains x hx
      · obtain rfl := List.mem_singleton.mp hx
        exact of_decide_eq_true hagrees
  | publishDrainDeadline deadline =>
      obtain rfl : deadline = d := of_decide_eq_true hagrees
      exact ⟨fun h => ⟨by simp, h.drains, h.phase⟩, fun _ => .inl (by simp), fun _ => by simp,
        Nat.le_refl _⟩
  | tick now =>
      exact ⟨fun h => ⟨h.cell, h.drains, h.phase⟩, id, id, of_decide_eq_true hagrees⟩
  | close | other | drainDropNotices =>
      exact ⟨fun h => ⟨h.cell, h.drains, h.phase⟩, id, id, Nat.le_refl _⟩

theorem tightens_onBatch {c c' : Consumption} {outcome : OnBatchOutcome}
    (h : c.step env (.onBatch outcome) = some c') : Tightens d c.toShipper c'.toShipper := by
  cases Consumption.step_cases h with
  | onBatch _ hpc hhandled => exact tightens_shipper hhandled

theorem late_around {c c' : Consumption} {e : ConsumptionEvent}
    (he : ∀ outcome, e ≠ .onBatch outcome) (h : c.step env e = some c') :
    ∃ new, c'.consumed = c.consumed ++ new ∧ ∀ x ∈ new, x.2.late = true := by
  have hquiet : c'.history = c.history →
      ∃ new, c'.consumed = c.consumed ++ new ∧ ∀ x ∈ new, x.2.late = true :=
    fun hhistory => ⟨[], by simp [Consumption.consumed, hhistory], by simp⟩
  cases Consumption.step_cases h with
  | tryRecv =>
      refine ⟨(Consumption.nextBatch c.toShipper).toList.map fun batch => (batch, .abandoned), ?_,
        by simp [BatchFate.late]⟩
      cases Consumption.nextBatch c.toShipper <;> simp [Consumption.consumed, Change.consumed?]
  | encodeFailed => exact ⟨_, Consumption.consumed_snoc rfl, by simp [BatchFate.late]⟩
  | onBatch outcome => exact absurd rfl (he outcome)
  | other op =>
      refine ⟨[], ?_, by simp⟩
      simp [Consumption.consumed, List.filterMap_cons, Change.consumed?]
  | loop | recv | timeout | dropReceiver | encode | send | close | publishDrainDeadline | tick
  | drainDropNotices => exact hquiet rfl

theorem late_onBatch {c c' : Consumption} {attempts : ℕ}
    (h : c.step env (.onBatch (.dropped .deadlineExceeded attempts)) = some c') :
    ∃ new, c'.consumed = c.consumed ++ new ∧ ∀ x ∈ new, x.2.late = true := by
  cases Consumption.step_cases h with
  | onBatch =>
      exact ⟨_, Consumption.consumed_snoc rfl, by simp [Consumption.fateOf, BatchFate.late]⟩

theorem not_onBatch_of_agrees {s : HttpShipper} {e : ConsumptionEvent}
    (h : s.agrees d e = true) : ∀ outcome, e ≠ .onBatch outcome := by
  rintro outcome rfl
  cases h

theorem handling_eq_none (h : Shipper.Step env s e s') (he : ∀ outcome, e ≠ .handled outcome) :
    Consumption.handling s.pc = none := by
  cases h with
  | handled batch deadline droppedRecords outcome => exact absurd rfl (he outcome)
  | loop hpc | recvBatch _ _ _ hpc | recvDrain _ _ _ hpc | recvClosed _ hpc | timeout _ hpc
  | encode _ _ hpc | abandonBatch _ _ _ hpc | skipDrain _ _ _ hpc | giveUp _ hpc
  | dropReceiver _ hpc =>
      rw [hpc]
      rfl

theorem handling_around {c c' : Consumption} {e : ConsumptionEvent}
    (he : ∀ outcome, e ≠ .onBatch outcome) (h : c.step env e = some c')
    (hhandling : Consumption.handling c.pc ≠ none) : Consumption.handling c'.pc ≠ none := by
  cases Consumption.step_cases h with
  | loop hloop | recv hloop | timeout hloop | tryRecv hloop | dropReceiver hloop =>
      exact absurd (handling_eq_none hloop nofun) hhandling
  | encode hpc | encodeFailed hpc =>
      rw [hpc] at hhandling
      exact absurd rfl hhandling
  | onBatch outcome => exact absurd rfl (he outcome)
  | send | close | publishDrainDeadline | tick | other | drainDropNotices => exact hhandling

theorem handling_encode {c c' : Consumption} (h : c.step env (.encode true) = some c') :
    Consumption.handling c'.pc ≠ none := by
  cases Consumption.step_cases h with
  | encode => simp [Consumption.handling]

theorem enqueued_step {c c' : Consumption} {e : ConsumptionEvent}
    (h : c.step env e = some c') : c.enqueued <+: c'.enqueued := by
  cases Consumption.step_cases h with
  | send message => exact List.prefix_append _ _
  | _ => exact List.prefix_refl _

/-- The loop comes to its result with an empty channel and nothing in its hand. -/
theorem held_of_exit {exit : ShipperExit} (h : Shipper.Step env s e s')
    (hexit : s'.pc.exit = some exit) : s'.held = [] ∨ s.pc.exit = some exit := by
  cases h with
  | recvClosed deadline hpc hchannel =>
      exact .inl (by simp [Shipper.held, hchannel, ShipperPc.batch])
  | giveUp abandoned hpc hchannel =>
      exact .inl (by simp [Shipper.held, hchannel, ShipperPc.batch])
  | dropReceiver exit' hpc => exact .inr ((congrArg ShipperPc.exit hpc).trans hexit)
  | handled batch deadline droppedRecords outcome => simp at hexit
  | skipDrain => exact .inr hexit
  | _ => cases hexit

theorem held_of_exit_around {c c' : Consumption} {e : ConsumptionEvent} {exit : ShipperExit}
    (h : c.step env e = some c') (hexit : c'.pc.exit = some exit) :
    c'.held = [] ∨ c.pc.exit = some exit := by
  cases Consumption.step_cases h with
  | loop hloop | recv hloop | timeout hloop | tryRecv hloop | dropReceiver hloop
  | onBatch _ _ hloop => exact held_of_exit hloop hexit
  | encode => cases hexit
  | encodeFailed hpc hhandled =>
      exact (held_of_exit hhandled hexit).imp_right fun hreturned => by cases hreturned
  | send | close | publishDrainDeadline | tick | other | drainDropNotices => exact .inr hexit

end carriers

/-! ### The invariant -/

theorem sooner_eq_some {a b : Option Instant} {x : Instant} (h : sooner a b = some x) :
    a = some x ∨ b = some x := by
  match a, b with
  | none, b => exact .inr h
  | some a, none => exact .inl h
  | some a, some b =>
      have hmin : min a b = x := Option.some.inj h
      rcases Nat.le_total a b with hle | hle
      · exact .inl (by rw [← hmin, Nat.min_eq_left hle])
      · exact .inr (by rw [← hmin, Nat.min_eq_right hle])

theorem sooner_ne_none {a b : Option Instant} (h : a ≠ none ∨ b ≠ none) : sooner a b ≠ none := by
  match a, b with
  | none, b => exact h.resolve_left (absurd rfl)
  | some a, none => simp [sooner]
  | some a, some b => simp [sooner]

namespace HttpShipper

/-- What is true between any two steps. -/
structure Watched (retryCount : ℕ) (retryBackoffMs : UInt32) (d : Instant) (s : HttpShipper) :
    Prop where
  agreed : Agreed d s.toShipper
  place : ∀ p, s.program = some p →
    (∃ i rest, Place retryCount retryBackoffMs i rest s.iteration p) ∨
      s.iteration = [] ∧ p = .ret none
  idle : s.program = none → s.iteration = []
  handling : s.program ≠ none → Consumption.handling s.pc ≠ none
  sampled : ∀ x, ⟨.deadlineFn, some x⟩ ∈ s.iteration → x = d ∧ Armed s.toShipper
  clock : ∀ now, ⟨.now, now⟩ ∈ s.iteration → now ≤ s.now
  /-- Once an attempt was launched after the publication, every sample is a deadline. -/
  published : ∀ launch ∈ s.launches, launch.published = true →
    s.drainDeadline ≠ none ∧ s.iteration ≠ [⟨.deadlineFn, none⟩]
  guarded : Each (fun earlier launch => earlier ≠ [] → launch.Guarded d)
    (s.launches.filter Launch.published)

variable {env : NoticeEnv} {retryCount : ℕ} {retryBackoffMs : UInt32} {d : Instant}
  {s s' : HttpShipper}

theorem watched_start (shared : Shared) : Watched retryCount retryBackoffMs d (start shared) where
  agreed := ⟨nofun, nofun, nofun⟩
  place := fun _ h => by cases h
  idle := fun _ => rfl
  handling := fun h => absurd rfl h
  sampled := fun _ h => by cases h
  clock := fun _ h => by cases h
  published := fun _ h => by cases h
  guarded := each_nil

theorem place_runWithRetry :
    ∃ i rest, Place retryCount retryBackoffMs i rest [] (runWithRetry retryCount retryBackoffMs) :=
  ⟨0, (List.range retryCount).map Nat.succ, by
    rw [runWithRetry, List.range_succ_eq_map]
    exact .head⟩

theorem Watched.tighten (h : Watched retryCount retryBackoffMs d s) {c : Consumption}
    (htightens : Tightens d s.toShipper c.toShipper)
    (hhandling : s.program ≠ none → Consumption.handling c.pc ≠ none) :
    Watched retryCount retryBackoffMs d { s with toConsumption := c } where
  agreed := htightens.agreed h.agreed
  place := h.place
  idle := h.idle
  handling := hhandling
  sampled := fun x hx => ⟨(h.sampled x hx).1, htightens.armed (h.sampled x hx).2⟩
  clock := fun now hnow => (h.clock now hnow).trans htightens.now
  published := fun launch hlaunch hpublished =>
    ⟨htightens.cell (h.published launch hlaunch hpublished).1,
      (h.published launch hlaunch hpublished).2⟩
  guarded := h.guarded

theorem Watched.reset (h : Watched retryCount retryBackoffMs d s) (program : Option RetryProgram)
    (hplace : ∀ p, program = some p →
      (∃ i rest, Place retryCount retryBackoffMs i rest [] p) ∨ p = .ret none)
    (hhandling : program ≠ none → Consumption.handling s.pc ≠ none) :
    Watched retryCount retryBackoffMs d { s with program := program, iteration := [] } where
  agreed := h.agreed
  place := fun p hp => (hplace p hp).imp_right fun hret => ⟨rfl, hret⟩
  idle := fun _ => rfl
  handling := hhandling
  sampled := fun x hx => by cases hx
  clock := fun now hnow => by cases hnow
  published := fun launch hlaunch hpublished =>
    ⟨(h.published launch hlaunch hpublished).1, by simp⟩
  guarded := h.guarded

theorem Watched.turn (h : Watched retryCount retryBackoffMs d s) (turn : RetryTurn)
    {p : RetryProgram} (hprogram : s.program ≠ none)
    (hplace : ∃ i rest, Place retryCount retryBackoffMs i rest (s.iteration ++ [turn]) p)
    (hsampled : ∀ x, turn = ⟨.deadlineFn, some x⟩ → x = d ∧ Armed s.toShipper)
    (hclock : ∀ now, turn = ⟨.now, now⟩ → now ≤ s.now)
    (hnone : turn = ⟨.deadlineFn, none⟩ → s.drainDeadline = none) :
    Watched retryCount retryBackoffMs d
      { s with program := some p, iteration := s.iteration ++ [turn] } where
  agreed := h.agreed
  place := by
    rintro p' hp
    cases hp
    exact .inl hplace
  idle := nofun
  handling := fun _ => h.handling hprogram
  sampled := by
    intro x hx
    rcases List.mem_append.mp hx with hx | hx
    · exact h.sampled x hx
    · exact hsampled x (List.mem_singleton.mp hx).symm
  clock := by
    intro now hnow
    rcases List.mem_append.mp hnow with hnow | hnow
    · exact h.clock now hnow
    · exact hclock now (List.mem_singleton.mp hnow).symm
  published := by
    intro launch hlaunch hpublished
    obtain ⟨hcell, -⟩ := h.published launch hlaunch hpublished
    refine ⟨hcell, fun heq => hcell (hnone ?_)⟩
    have hlast := congrArg List.getLast? heq
    simpa using hlast
  guarded := h.guarded

/-- The attempt is launched at the end of a head; when it is not the first one after the
publication, this head has a deadline. -/
theorem Watched.launch (h : Watched retryCount retryBackoffMs d s) {attemptIdx : ℕ}
    {next : RetryAnswer (.attempt attemptIdx) → RetryProgram}
    (hprogram : s.program = some (.ask (.attempt attemptIdx) next)) (verdict : AttemptOutcome)
    (hplace : ∃ i rest, Place retryCount retryBackoffMs i rest
      (s.iteration ++ [⟨.attempt attemptIdx, verdict⟩]) (next verdict)) :
    Watched retryCount retryBackoffMs d { s with
      program := some (next verdict)
      iteration := s.iteration ++ [⟨.attempt attemptIdx, verdict⟩]
      launches := s.launches ++
        [{ published := s.drainDeadline.isSome, iteration := s.iteration }] } := by
  obtain ⟨deadline, hhead⟩ : ∃ deadline, Head deadline s.iteration := by
    rcases h.place _ hprogram with ⟨i, rest, hplace⟩ | ⟨-, hret⟩
    · exact hplace.head_of_attempt rfl
    · cases hret
  have hturn : Watched retryCount retryBackoffMs d { s with
      program := some (next verdict)
      iteration := s.iteration ++ [⟨.attempt attemptIdx, verdict⟩] } :=
    h.turn _ (by simp [hprogram]) hplace (by simp) (by simp) (by simp)
  refine { hturn with published := ?_, guarded := ?_ }
  · intro launch hlaunch hpublished
    refine ⟨?_, fun heq => by simpa using congrArg List.getLast? heq⟩
    rcases List.mem_append.mp hlaunch with hold | hnew
    · exact (h.published launch hold hpublished).1
    · obtain rfl := List.mem_singleton.mp hnew
      exact Option.isSome_iff_ne_none.mp hpublished
  · rw [List.filter_append, each_append]
    refine ⟨h.guarded, ?_⟩
    cases hcell : s.drainDeadline with
    | none => simp
    | some x =>
        simp only [Option.isSome_some, List.filter_cons_of_pos, List.filter_nil, each_cons,
          List.append_nil, each_nil, and_true]
        intro hearlier
        obtain ⟨first, hfirst⟩ := List.exists_mem_of_ne_nil _ hearlier
        obtain ⟨hmem, hpublished⟩ := List.mem_filter.mp hfirst
        rcases hhead.cases with hnone | ⟨d', now, hlt, hturns⟩
        · exact absurd hnone (h.published first hmem hpublished).2
        · obtain ⟨rfl, -⟩ := h.sampled d' (by rw [hturns]; exact List.mem_cons_self)
          exact ⟨now, hlt, hturns⟩

theorem Watched.call (h : Watched retryCount retryBackoffMs d s) {q : RetryCall}
    {next : RetryAnswer q → RetryProgram} (hprogram : s.program = some (.ask q next))
    (verdict : AttemptOutcome) :
    Watched retryCount retryBackoffMs d { s with
      program := some (next (s.answer verdict q))
      iteration := s.iterationAfter verdict q
      launches := s.launches ++ s.launchesOf q } := by
  have hrunning : s.program ≠ none := by simp [hprogram]
  rcases h.place _ hprogram with ⟨i, rest, hplace⟩ | ⟨-, hret⟩
  · rcases hplace.turn rfl (s.answer verdict q) with
      ⟨⟨duration, rfl⟩, hnext⟩ | ⟨hsleep, hnext⟩
    · have hreset := h.reset (some (next ())) ?_ ?_
      · simpa [iterationAfter, launchesOf] using hreset
      · rintro p hp
        cases hp
        rw [show next () = _ from hnext]
        cases rest with
        | nil => exact .inr rfl
        | cons j rest => exact .inl ⟨j, rest, .head⟩
      · exact fun _ => h.handling hrunning
    · cases q with
      | deadlineFn =>
          have hturn := h.turn ⟨.deadlineFn, sooner s.pc.deadline s.drainDeadline⟩ hrunning
            ⟨i, rest, hnext⟩ ?_ (by simp) ?_
          · simpa [iterationAfter, launchesOf, answer] using hturn
          · intro x hx
            rcases sooner_eq_some (x := x) (by simpa using hx) with hphase | hcell
            · exact ⟨h.agreed.phase x hphase, .inr (.inl (by simp [hphase]))⟩
            · exact ⟨h.agreed.cell x hcell, .inl (by simp [hcell])⟩
          · intro hnone
            by_contra hcell
            exact sooner_ne_none (.inr hcell) (by simpa using hnone)
      | now =>
          have hturn := h.turn ⟨.now, s.now⟩ hrunning ⟨i, rest, hnext⟩ (by simp) ?_ (by simp)
          · simpa [iterationAfter, launchesOf, answer] using hturn
          · intro now hnow
            have hnow : s.now = now := by simpa using hnow
            exact hnow.ge
      | attempt attemptIdx => exact h.launch hprogram verdict ⟨i, rest, hnext⟩
      | sleepFn duration => exact absurd rfl (hsleep duration)
  · cases hret

/-- **Step lemma.** -/
theorem Watched.step (h : Watched retryCount retryBackoffMs d s) {e : HttpEvent}
    (hstep : s.step env retryCount retryBackoffMs d e = some s') :
    Watched retryCount retryBackoffMs d s' := by
  cases step_cases hstep with
  | around hagrees _ hc =>
      exact h.tighten (tightens_around hagrees hc) fun hrunning =>
        handling_around (not_onBatch_of_agrees hagrees) hc (h.handling hrunning)
  | handle hc =>
      have htightens : Tightens d s.toShipper _ := tightens_around (s := s) rfl hc
      refine (h.tighten htightens fun _ => handling_encode hc).reset _ (fun p hp => ?_)
        fun _ => handling_encode hc
      cases hp
      exact .inl place_runWithRetry
  | call verdict hprogram => exact h.call hprogram verdict
  | finish hprogram hc =>
      exact (h.reset none (by simp) (by simp)).tighten (tightens_onBatch hc) (by simp)

theorem watched_run {shared : Shared} {es : List HttpEvent}
    (h : run (step env retryCount retryBackoffMs d) (start shared) es = some s) :
    Watched retryCount retryBackoffMs d s :=
  run_invariant (fun _ _ _ hstep hs => hs.step hstep) h (watched_start shared)

theorem exists_consumption_run {shared : Shared} {es : List HttpEvent}
    (h : run (step env retryCount retryBackoffMs d) (start shared) es = some s) :
    ∃ fs, run (Consumption.step env) (Consumption.start shared) fs = some s.toConsumption := by
  refine run_invariant (I := fun s : HttpShipper => ∃ fs,
    run (Consumption.step env) (Consumption.start shared) fs = some s.toConsumption) ?_ h ⟨[], rfl⟩
  rintro s e s' hstep ⟨fs, hfs⟩
  cases step_cases hstep with
  | around _ _ hc | handle hc | finish _ hc =>
      exact ⟨fs ++ [_], run_snoc_eq_some.mpr ⟨_, hfs, hc⟩⟩
  | call => exact ⟨fs, hfs⟩

/-! ### After the deadline was seen to pass -/

/-- Where a program can be that launches no attempt, when every sample is `d` and the clock
is past it. -/
inductive DoomedProgram (retryCount : ℕ) (retryBackoffMs : UInt32) (d : Instant) :
    RetryProgram → Prop
  | head (i : ℕ) (rest : List ℕ) :
      DoomedProgram retryCount retryBackoffMs d (retryLoop retryCount retryBackoffMs (i :: rest))
  | check (i : ℕ) (onTime : RetryProgram) :
      DoomedProgram retryCount retryBackoffMs d
        (unlessPast (some d) 0 (.ret (some (.dropped .deadlineExceeded i))) onTime)
  | settled (attempts : ℕ) :
      DoomedProgram retryCount retryBackoffMs d
        (.ret (some (.dropped .deadlineExceeded attempts)))

theorem DoomedProgram.turn {p : RetryProgram}
    (h : DoomedProgram retryCount retryBackoffMs d p) {q : RetryCall}
    {next : RetryAnswer q → RetryProgram} (hp : p = .ask q next)
    (answer : (q : RetryCall) → RetryAnswer q) (hdeadline : answer .deadlineFn = some d)
    {now : Instant} (hnow : answer .now = now) (hpast : d ≤ now) :
    DoomedProgram retryCount retryBackoffMs d (next (answer q)) ∧
      ∀ attemptIdx, q ≠ .attempt attemptIdx := by
  cases h with
  | head i rest =>
      rw [retryLoop_cons] at hp
      cases hp
      refine ⟨?_, by simp⟩
      rw [hdeadline]
      exact .check i _
  | check i onTime =>
      cases hp
      refine ⟨?_, by simp⟩
      rw [hnow]
      dsimp only
      rw [if_pos (hpast.trans (Nat.le_add_right now 0))]
      exact .settled i
  | settled attempts => cases hp

theorem DoomedProgram.eq_of_ret {p : RetryProgram}
    (h : DoomedProgram retryCount retryBackoffMs d p) {outcome : OnBatchOutcome}
    (hp : p = .ret (some outcome)) : ∃ attempts, outcome = .dropped .deadlineExceeded attempts := by
  cases h with
  | head i rest =>
      rw [retryLoop_cons] at hp
      cases hp
  | check i onTime => cases hp
  | settled attempts =>
      cases hp
      exact ⟨attempts, rfl⟩

/-- No attempt is launched any more. -/
structure Doomed (retryCount : ℕ) (retryBackoffMs : UInt32) (d : Instant) (s : HttpShipper) :
    Prop extends Watched retryCount retryBackoffMs d s where
  armed : Armed s.toShipper
  past : d ≤ s.now
  doomed : ∀ p, s.program = some p → DoomedProgram retryCount retryBackoffMs d p

/-- An iteration that sees the deadline pass dooms all that follow. -/
theorem Watched.doomed (h : Watched retryCount retryBackoffMs d s) {now : Instant}
    (hnow : ⟨.now, now⟩ ∈ s.iteration) (hpast : d ≤ now) :
    Doomed retryCount retryBackoffMs d s := by
  cases hprogram : s.program with
  | none =>
      rw [h.idle hprogram] at hnow
      cases hnow
  | some p =>
      rcases h.place p hprogram with ⟨i, rest, hplace⟩ | ⟨hnil, -⟩
      · obtain ⟨⟨attempts, rfl⟩, x, hx⟩ :=
          hplace.eq_ret_of_past (fun x hx => (h.sampled x hx).1) hnow hpast
        refine { h with
          armed := (h.sampled x hx).2
          past := hpast.trans (h.clock now hnow)
          doomed := ?_ }
        rintro p' hp'
        rw [hprogram] at hp'
        cases hp'
        exact .settled attempts
      · rw [hnil] at hnow
        cases hnow

theorem Doomed.answer_deadlineFn (h : Doomed retryCount retryBackoffMs d s)
    (hrunning : s.program ≠ none) (verdict : AttemptOutcome) :
    s.answer verdict .deadlineFn = some d := by
  have hover : s.pc.isOver = false := by
    have hhandling := h.handling hrunning
    cases hpc : s.pc <;> simp_all [Consumption.handling, ShipperPc.isOver]
  have hsome : sooner s.pc.deadline s.drainDeadline ≠ none := by
    rcases h.armed with hcell | hphase | hover'
    · exact sooner_ne_none (.inr hcell)
    · exact sooner_ne_none (.inl hphase)
    · rw [hover] at hover'
      cases hover'
  obtain ⟨x, hx⟩ := Option.ne_none_iff_exists'.mp hsome
  rw [answer, hx]
  rcases sooner_eq_some hx with hphase | hcell
  · rw [h.agreed.phase x hphase]
  · rw [h.agreed.cell x hcell]

/-- What a step leaves behind when the deadline was seen to pass. -/
structure Late (s s' : HttpShipper) : Prop where
  launches : s'.launches = s.launches
  consumed : ∃ new, s'.consumed = s.consumed ++ new ∧ ∀ x ∈ new, x.2.late = true

theorem Doomed.call (h : Doomed retryCount retryBackoffMs d s) {q : RetryCall}
    {next : RetryAnswer q → RetryProgram} (hprogram : s.program = some (.ask q next))
    (verdict : AttemptOutcome) :
    DoomedProgram retryCount retryBackoffMs d (next (s.answer verdict q)) ∧
      s.launchesOf q = [] := by
  have hanswer := h.answer_deadlineFn (by simp [hprogram]) verdict
  obtain ⟨hnext, hattempt⟩ :=
    (h.doomed _ hprogram).turn rfl (s.answer verdict) hanswer rfl h.past
  refine ⟨hnext, ?_⟩
  cases q with
  | attempt attemptIdx => exact absurd rfl (hattempt attemptIdx)
  | deadlineFn | now | sleepFn => rfl

/-- **Step lemma.** -/
theorem Doomed.step (h : Doomed retryCount retryBackoffMs d s) {e : HttpEvent}
    (hstep : s.step env retryCount retryBackoffMs d e = some s') :
    Doomed retryCount retryBackoffMs d s' ∧ Late s s' := by
  have hwatched := h.toWatched.step hstep
  cases step_cases hstep with
  | around hagrees _ hc =>
      have htightens := tightens_around hagrees hc
      exact ⟨{ hwatched with
        armed := htightens.armed h.armed
        past := h.past.trans htightens.now
        doomed := h.doomed }, rfl, late_around (not_onBatch_of_agrees hagrees) hc⟩
  | handle hc =>
      have htightens : Tightens d s.toShipper _ := tightens_around (s := s) rfl hc
      refine ⟨{ hwatched with
        armed := htightens.armed h.armed
        past := h.past.trans htightens.now
        doomed := ?_ }, rfl, late_around (by simp) hc⟩
      rintro p hp
      cases hp
      rw [runWithRetry, List.range_succ_eq_map]
      exact .head _ _
  | call verdict hprogram =>
      obtain ⟨hnext, hlaunches⟩ := h.call hprogram verdict
      refine ⟨{ hwatched with armed := h.armed, past := h.past, doomed := ?_ }, ?_, [], ?_,
        by simp⟩
      · rintro p hp
        cases hp
        exact hnext
      · rw [hlaunches]
        exact List.append_nil _
      · exact (List.append_nil _).symm
  | finish hprogram hc =>
      have htightens : Tightens d s.toShipper _ := tightens_onBatch hc
      obtain ⟨attempts, rfl⟩ := (h.doomed _ hprogram).eq_of_ret rfl
      exact ⟨{ hwatched with
        armed := htightens.armed h.armed
        past := h.past.trans htightens.now
        doomed := by simp }, rfl, late_onBatch hc⟩

/-! ### The main result -/

theorem order_run {shared : Shared} {es : List HttpEvent}
    (h : run (step env retryCount retryBackoffMs d) (start shared) es = some s) :
    s.enqueued = s.consumed.map Prod.fst ++ s.held := by
  obtain ⟨fs, hfs⟩ := exists_consumption_run h
  exact (Consumption.accounted_run hfs).order

theorem enqueued_and_returned_step {e : HttpEvent}
    (hstep : s.step env retryCount retryBackoffMs d e = some s') :
    s.enqueued <+: s'.enqueued ∧
      ∀ exit, s'.pc.exit = some exit → s'.held = [] ∨ s.pc.exit = some exit := by
  cases step_cases hstep with
  | around _ _ hc | handle hc | finish _ hc =>
      exact ⟨enqueued_step hc, fun exit => held_of_exit_around hc⟩
  | call => exact ⟨List.prefix_refl _, fun exit hexit => .inr hexit⟩

/-- What became of the batches that were left when an iteration saw the deadline pass. -/
structure LateRun (s s' : HttpShipper) (new : List (PendingBatch × BatchFate)) : Prop where
  launches : s'.launches = s.launches
  consumed : s'.consumed = s.consumed ++ new
  late : ∀ x ∈ new, x.2.late = true
  order : s'.enqueued = s'.consumed.map Prod.fst ++ s'.held
  /-- A loop that has its result has left none of them. -/
  returned : ∀ exit, s'.pc.exit = some exit → s.held <+: new.map Prod.fst

theorem LateRun.step {t t' : HttpShipper} {new : List (PendingBatch × BatchFate)}
    (h : LateRun s t new) (hlate : Late t t')
    (horder : s.enqueued = s.consumed.map Prod.fst ++ s.held)
    (horder' : t'.enqueued = t'.consumed.map Prod.fst ++ t'.held)
    (henqueued : s.enqueued <+: t'.enqueued)
    (hreturned : ∀ exit, t'.pc.exit = some exit → t'.held = [] ∨ t.pc.exit = some exit) :
    ∃ new', LateRun s t' new' := by
  obtain ⟨hlaunches, more, hconsumed, hmore⟩ := hlate
  have hall : t'.consumed = s.consumed ++ (new ++ more) := by
    rw [hconsumed, h.consumed, List.append_assoc]
  refine ⟨new ++ more, hlaunches.trans h.launches, hall, ?_, horder', fun exit hexit => ?_⟩
  · intro x hx
    exact (List.mem_append.mp hx).elim (h.late x) (hmore x)
  · rcases hreturned exit hexit with hheld | hbefore
    · rw [horder, horder', hall, hheld, List.append_nil, List.map_append] at henqueued
      exact (List.prefix_append_right_inj _).mp henqueued
    · rw [List.map_append]
      exact (h.returned exit hbefore).trans (List.prefix_append _ _)

/-- **Run lemma**: a doomed process launches nothing, and is late with every batch. -/
theorem lateRun_of_doomed {shared : Shared} {es fs : List HttpEvent}
    (h : run (step env retryCount retryBackoffMs d) (start shared) es = some s)
    (hdoomed : Doomed retryCount retryBackoffMs d s) (hrunning : s.program ≠ none)
    (hfs : run (step env retryCount retryBackoffMs d) s fs = some s') :
    ∃ new, LateRun s s' new := by
  have hinvariant : Doomed retryCount retryBackoffMs d s' ∧ s.enqueued <+: s'.enqueued ∧
      ∃ new, LateRun s s' new := by
    refine run_induction (P := fun _ s' => Doomed retryCount retryBackoffMs d s' ∧
      s.enqueued <+: s'.enqueued ∧ ∃ new, LateRun s s' new) ?_ ?_ hfs
    · refine ⟨hdoomed, List.prefix_refl _, [], rfl, by simp, by simp, order_run h, ?_⟩
      intro exit hexit
      have hhandling := hdoomed.handling hrunning
      cases hpc : s.pc with
      | returning | returned =>
          rw [hpc] at hhandling
          exact absurd rfl hhandling
      | _ => simp [hpc, ShipperPc.exit] at hexit
    · rintro gs t e t' hrun ⟨ht, henqueued, new, hlate⟩ hstep
      obtain ⟨ht', hlate'⟩ := ht.step hstep
      obtain ⟨hmore, hreturned⟩ := enqueued_and_returned_step hstep
      have hrun' := run_append_eq_some.mpr ⟨s, h, run_snoc_eq_some.mpr ⟨t, hrun, hstep⟩⟩
      exact ⟨ht', henqueued.trans hmore,
        hlate.step hlate' (order_run h) (order_run hrun') (henqueued.trans hmore) hreturned⟩
  exact hinvariant.2.2

/-- **A published deadline is seen by all but at most one attempt.**  Of the attempts that
are launched after the publication, all but the first are launched after their iteration has
read the clock before the deadline.  Once an iteration has read the clock at or after the
deadline, no attempt is launched any more, and every batch that was left is dropped late or
abandoned. -/
theorem deadline_seen_by_all_but_one {shared : Shared} {es : List HttpEvent}
    (h : run (step env retryCount retryBackoffMs d) (start shared) es = some s) :
    Each (fun earlier launch => earlier ≠ [] → launch.Guarded d)
        (s.launches.filter Launch.published) ∧
      ∀ now, ⟨.now, now⟩ ∈ s.iteration → d ≤ now →
        ∀ fs s', run (step env retryCount retryBackoffMs d) s fs = some s' →
          ∃ new, LateRun s s' new := by
  have hwatched := watched_run h
  refine ⟨hwatched.guarded, fun now hnow hpast fs s' hfs => ?_⟩
  have hrunning : s.program ≠ none := by
    intro hnone
    rw [hwatched.idle hnone] at hnow
    cases hnow
  exact lateRun_of_doomed h (hwatched.doomed hnow hpast) hrunning hfs

/-- The deadline is published while the first attempt has sampled none; the second attempt is in
time, and the third iteration is too late. -/
def publishedMidBatch : List HttpEvent :=
  [.consumption (.send (.batch (Consumption.batchOf 0))),
    .consumption (.send (.batch (Consumption.batchOf 1))), .consumption .loop, .consumption .recv,
    .consumption (.encode true), .call .sent, .consumption (.publishDrainDeadline 5),
    .call (.failed .timeout), .call .sent, .call .sent, .call .sent, .call (.failed .timeout),
    .call .sent, .call .sent, .call .sent, .consumption (.tick 7), .call .sent]

/-- The first batch is dropped, and the other one is abandoned. -/
def afterExpiry : List HttpEvent :=
  [.finish, .consumption .loop, .consumption (.send (.drain 5)), .consumption .close,
    .consumption .timeout, .consumption .tryRecv, .consumption .tryRecv, .consumption .tryRecv,
    .consumption .dropReceiver]

theorem deadline_seen_by_all_but_one_mid_batch :
    ∃ s s' new, run (step noticeEnvOf 2 0 5) (start Shared.init) publishedMidBatch = some s ∧
      s.launches.length = 2 ∧
      Each (fun earlier launch => earlier ≠ [] → launch.Guarded 5)
        (s.launches.filter Launch.published) ∧
      run (step noticeEnvOf 2 0 5) s afterExpiry = some s' ∧ LateRun s s' new := by
  have hrun := (Option.some_get (show (run (step noticeEnvOf 2 0 5) (start Shared.init)
    publishedMidBatch).isSome = true by decide)).symm
  have hfs := (Option.some_get (show (run (step noticeEnvOf 2 0 5)
    ((run (step noticeEnvOf 2 0 5) (start Shared.init) publishedMidBatch).get (by decide))
    afterExpiry).isSome = true by decide)).symm
  obtain ⟨hguarded, hlate⟩ := deadline_seen_by_all_but_one hrun
  obtain ⟨new, hnew⟩ := hlate 7 (.tail _ (.head _)) (by decide) afterExpiry _ hfs
  exact ⟨_, _, new, hrun, rfl, hguarded, hfs, hnew⟩

end HttpShipper

end PhpAnalyze
