import PhpAnalyze.Lib.Interaction
import PhpAnalyze.Shipper

/-! # The retry orchestrator (`run_with_retry` in `shipper/http.rs`)

`runWithRetry` is a program over its four closures: it samples the deadline, reads the
clock, makes an attempt, sleeps.  What they answer is left to the environment.

`Runs` is the reference semantics: an iteration that sleeps is followed by the next one, the
other iterations return.  The program goes exactly through these logs (`follows_iff_runs`),
and what is promised of the orchestrator is read off them (`run_with_retry_meets_reference`).

An `Instant` counts nanoseconds here, as a `Duration` does. -/

namespace PhpAnalyze

open Interaction

inductive AttemptOutcome where
  | sent
  | failed (reason : DropReason)
deriving DecidableEq, Repr

abbrev Duration := ℕ

/-- `Duration::from_millis`. -/
def fromMillis (millis : ℕ) : Duration := millis * 10 ^ 6

/-- `u64::saturating_mul`. -/
def saturatingMulU64 (a b : ℕ) : ℕ := min (a * b) (2 ^ 64 - 1)

/-- `1u32.checked_shl(attempt)`. -/
def checkedShlOne (attempt : ℕ) : Option ℕ := if attempt < 32 then some (2 ^ attempt) else none

def backoffDuration (retryBackoffMs : UInt32) (attempt : ℕ) : Duration :=
  let factor := (checkedShlOne attempt).getD u32Max
  fromMillis (saturatingMulU64 retryBackoffMs.toNat factor)

def sooner : Option Instant → Option Instant → Option Instant
  | none, x => x
  | x, none => x
  | some x, some y => some (min x y)

/-- The closures of `run_with_retry`. -/
inductive RetryCall where
  | deadlineFn
  | now
  | attempt (attemptIdx : ℕ)
  | sleepFn (duration : Duration)
deriving DecidableEq, Repr

/-- What they return. -/
abbrev RetryAnswer : RetryCall → Type
  | .deadlineFn => Option Instant
  | .now => Instant
  | .attempt _ => AttemptOutcome
  | .sleepFn _ => Unit

abbrev RetryTurn := Turn RetryAnswer

/-- The result `none` is the `unreachable!` at the end. -/
abbrev RetryProgram := Program RetryCall RetryAnswer (Option OnBatchOutcome)

/-- `if let Some(d) = deadline { if now() + sleep >= d { late } }`, then `onTime`.  The check
at the head of an iteration adds no sleep. -/
def unlessPast (deadline : Option Instant) (sleep : Duration) (late onTime : RetryProgram) :
    RetryProgram :=
  match deadline with
  | none => onTime
  | some d => .ask .now fun (now : Instant) => if d ≤ now + sleep then late else onTime

section program

variable (retryCount : ℕ) (retryBackoffMs : UInt32)

/-- The iterations of the `for` loop. -/
def retryLoop : List ℕ → RetryProgram
  | [] => .ret none
  | attemptIdx :: rest =>
      .ask .deadlineFn fun (deadline : Option Instant) =>
        unlessPast deadline 0 (.ret (some (.dropped .deadlineExceeded attemptIdx)))
          (.ask (.attempt attemptIdx) fun (outcome : AttemptOutcome) =>
            match outcome with
            | .sent => .ret (some .sent)
            | .failed reason =>
                if attemptIdx = retryCount then
                  .ret (some (.dropped reason (attemptIdx + 1)))
                else
                  let sleep := backoffDuration retryBackoffMs attemptIdx
                  unlessPast deadline sleep
                    (.ret (some (.dropped .deadlineExceeded (attemptIdx + 1))))
                    (.ask (.sleepFn sleep) fun _ => retryLoop rest))

def runWithRetry : RetryProgram :=
  retryLoop retryCount retryBackoffMs (List.range (retryCount + 1))

/-! ### The reference semantics -/

/-- The head of an iteration that goes on to its attempt, with its deadline. -/
inductive Head : Option Instant → List RetryTurn → Prop
  | unbounded : Head none [⟨.deadlineFn, none⟩]
  | bounded (d now : Instant) (h : now < d) :
      Head (some d) [⟨.deadlineFn, some d⟩, ⟨.now, now⟩]

/-- The check before a sleep that goes on to the sleep. -/
inductive InTime (sleep : Duration) : Option Instant → List RetryTurn → Prop
  | unbounded : InTime sleep none []
  | bounded (d now : Instant) (h : now + sleep < d) : InTime sleep (some d) [⟨.now, now⟩]

/-- The iteration `i` fails, sleeps and does not return. -/
inductive Sleeps (i : ℕ) : List RetryTurn → Prop
  | mk {deadline head check} (reason : DropReason) (hhead : Head deadline head)
      (hcheck : InTime (backoffDuration retryBackoffMs i) deadline check) :
      Sleeps i (head ++ ⟨.attempt i, .failed reason⟩ ::
        (check ++ [⟨.sleepFn (backoffDuration retryBackoffMs i), ()⟩]))

/-- The iteration `i` returns. -/
inductive Returns (i : ℕ) : List RetryTurn → OnBatchOutcome → Prop
  | expired (d now : Instant) (h : d ≤ now) :
      Returns i [⟨.deadlineFn, some d⟩, ⟨.now, now⟩] (.dropped .deadlineExceeded i)
  | sent {deadline head} (hhead : Head deadline head) :
      Returns i (head ++ [⟨.attempt i, .sent⟩]) .sent
  | exhausted {deadline head} (reason : DropReason) (hhead : Head deadline head)
      (hlast : i = retryCount) :
      Returns i (head ++ [⟨.attempt i, .failed reason⟩]) (.dropped reason (i + 1))
  | collapsed {d head} (now : Instant) (reason : DropReason) (hhead : Head (some d) head)
      (hmore : i ≠ retryCount) (h : d ≤ now + backoffDuration retryBackoffMs i) :
      Returns i (head ++ [⟨.attempt i, .failed reason⟩, ⟨.now, now⟩])
        (.dropped .deadlineExceeded (i + 1))

/-- The logs of the iterations from `i` on, with their results. -/
inductive Runs : ℕ → List RetryTurn → OnBatchOutcome → Prop
  | stop {i turns outcome} (h : Returns retryCount retryBackoffMs i turns outcome) :
      Runs i turns outcome
  | again {i turns rest outcome} (hmore : i < retryCount) (h : Sleeps retryBackoffMs i turns)
      (hrest : Runs (i + 1) rest outcome) : Runs i (turns ++ rest) outcome

/-! ### The program goes through the reference logs -/

variable {retryCount : ℕ} {retryBackoffMs : UInt32}

theorem head_cons_iff {deadline : Option Instant} {check : List RetryTurn} :
    Head deadline (⟨.deadlineFn, deadline⟩ :: check) ↔ InTime 0 deadline check := by
  constructor
  · intro h
    cases h with
    | unbounded => exact .unbounded
    | bounded d now h => exact .bounded d now h
  · intro h
    cases h with
    | unbounded => exact .unbounded
    | bounded d now h => exact .bounded d now h

theorem follows_unlessPast_iff {deadline : Option Instant} {sleep : Duration}
    {late onTime : RetryProgram} {turns : List RetryTurn} {result : Option OnBatchOutcome} :
    Follows (unlessPast deadline sleep late onTime) turns (.ret result) ↔
      (∃ check rest, InTime sleep deadline check ∧ turns = check ++ rest ∧
        Follows onTime rest (.ret result)) ∨
      ∃ d now rest, deadline = some d ∧ d ≤ now + sleep ∧ turns = ⟨.now, now⟩ :: rest ∧
        Follows late rest (.ret result) := by
  cases deadline with
  | none =>
      constructor
      · intro h
        exact .inl ⟨[], turns, .unbounded, rfl, h⟩
      · rintro (⟨check, rest, hcheck, rfl, h⟩ | ⟨d, now, rest, hd, -⟩)
        · cases hcheck
          exact h
        · cases hd
  | some d =>
      rw [unlessPast, follows_ask_ret_iff]
      constructor
      · rintro ⟨now, rest, rfl, h⟩
        split_ifs at h with hle
        · exact .inr ⟨d, now, rest, rfl, hle, rfl, h⟩
        · exact .inl ⟨[⟨.now, now⟩], rest, .bounded d now (Nat.lt_of_not_le hle), rfl, h⟩
      · rintro (⟨check, rest, hcheck, rfl, h⟩ | ⟨d', now, rest, hd, hle, rfl, h⟩)
        · cases hcheck with
          | bounded _ now hlt => exact ⟨now, rest, rfl, by rwa [if_neg (Nat.not_le.mpr hlt)]⟩
        · cases hd
          exact ⟨now, rest, rfl, by rwa [if_pos hle]⟩

/-- **One iteration** returns, or sleeps and is followed by the next ones. -/
theorem follows_iteration {i : ℕ} {idxs : List ℕ} {turns : List RetryTurn}
    {result : Option OnBatchOutcome}
    (h : Follows (retryLoop retryCount retryBackoffMs (i :: idxs)) turns (.ret result)) :
    (∃ outcome, result = some outcome ∧ Returns retryCount retryBackoffMs i turns outcome) ∨
      ∃ first rest, i ≠ retryCount ∧ Sleeps retryBackoffMs i first ∧ turns = first ++ rest ∧
        Follows (retryLoop retryCount retryBackoffMs idxs) rest (.ret result) := by
  rw [retryLoop, follows_ask_ret_iff] at h
  obtain ⟨deadline, rest, rfl, hguard⟩ := h
  rcases follows_unlessPast_iff.mp hguard with
    ⟨check, rest, hcheck, rfl, hattempt⟩ | ⟨d, now, rest, rfl, hle, rfl, hlate⟩
  · have hhead := head_cons_iff.mpr hcheck
    obtain ⟨outcome, rest, rfl, hverdict⟩ := follows_ask_ret_iff.mp hattempt
    cases outcome with
    | sent =>
        obtain ⟨rfl, hresult⟩ := follows_ret_iff.mp hverdict
        cases hresult
        exact .inl ⟨.sent, rfl, .sent hhead⟩
    | failed reason =>
        dsimp only at hverdict
        split_ifs at hverdict with hlast
        · obtain ⟨rfl, hresult⟩ := follows_ret_iff.mp hverdict
          cases hresult
          exact .inl ⟨_, rfl, .exhausted reason hhead hlast⟩
        · rcases follows_unlessPast_iff.mp hverdict with
            ⟨check', rest, hcheck', rfl, hsleep⟩ | ⟨d, now, rest, rfl, hle, rfl, hlate⟩
          · obtain ⟨-, rest, rfl, hnext⟩ := follows_ask_ret_iff.mp hsleep
            refine .inr ⟨_, rest, hlast, .mk reason hhead hcheck', ?_, hnext⟩
            simp
          · obtain ⟨rfl, hresult⟩ := follows_ret_iff.mp hlate
            cases hresult
            exact .inl ⟨_, rfl, .collapsed now reason hhead hlast hle⟩
  · obtain ⟨rfl, hresult⟩ := follows_ret_iff.mp hlate
    cases hresult
    exact .inl ⟨_, rfl, .expired d now hle⟩

/-- A log of the loop is a reference log; the end of the loop is not reached. -/
theorem runs_of_follows {m i : ℕ} (hi : i + m = retryCount) {turns : List RetryTurn}
    {result : Option OnBatchOutcome}
    (h : Follows (retryLoop retryCount retryBackoffMs (List.range' i (m + 1))) turns
      (.ret result)) :
    ∃ outcome, result = some outcome ∧ Runs retryCount retryBackoffMs i turns outcome := by
  induction m generalizing i turns with
  | zero =>
      rcases follows_iteration h with ⟨outcome, hresult, h⟩ | ⟨first, rest, hmore, -⟩
      · exact ⟨outcome, hresult, .stop h⟩
      · exact absurd hi hmore
  | succ m ih =>
      rcases follows_iteration h with ⟨outcome, hresult, h⟩ |
        ⟨first, rest, hmore, hfirst, rfl, hnext⟩
      · exact ⟨outcome, hresult, .stop h⟩
      · obtain ⟨outcome, hresult, hrest⟩ := ih (show i + 1 + m = retryCount by omega) hnext
        exact ⟨outcome, hresult, .again (by omega) hfirst hrest⟩

theorem runs_of_follows_runWithRetry {turns : List RetryTurn} {result : Option OnBatchOutcome}
    (h : Follows (runWithRetry retryCount retryBackoffMs) turns (.ret result)) :
    ∃ outcome, result = some outcome ∧ Runs retryCount retryBackoffMs 0 turns outcome := by
  rw [runWithRetry, List.range_eq_range'] at h
  exact runs_of_follows (Nat.zero_add retryCount) h

/-! ### How much it asks -/

theorem within_unlessPast {n : ℕ} {deadline : Option Instant} {sleep : Duration}
    {late onTime : RetryProgram} (hlate : Within n late) (honTime : Within n onTime) :
    Within (n + 1) (unlessPast deadline sleep late onTime) := by
  cases deadline with
  | none => exact honTime.mono (Nat.le_succ n)
  | some d =>
      refine .ask fun (now : Instant) => ?_
      split
      · exact hlate
      · exact honTime

/-- An iteration calls each closure once, and reads the clock twice. -/
theorem within_retryLoop (idxs : List ℕ) :
    Within (5 * idxs.length) (retryLoop retryCount retryBackoffMs idxs) := by
  induction idxs with
  | nil => exact .ret
  | cons attemptIdx rest ih =>
      refine .ask fun deadline => within_unlessPast .ret (.ask fun (outcome : AttemptOutcome) => ?_)
      cases outcome with
      | sent => exact .ret
      | failed reason =>
          dsimp only
          split
          · exact .ret
          · exact within_unlessPast .ret (.ask fun _ => ih)

theorem within_runWithRetry :
    Within (5 * (retryCount + 1)) (runWithRetry retryCount retryBackoffMs) := by
  have h : Within (5 * (List.range (retryCount + 1)).length)
      (retryLoop retryCount retryBackoffMs (List.range (retryCount + 1))) := within_retryLoop _
  rwa [List.length_range] at h

end program

/-! ### What a log shows -/

def attempt? : RetryTurn → Option (ℕ × AttemptOutcome)
  | ⟨.attempt attemptIdx, outcome⟩ => some (attemptIdx, outcome)
  | _ => none

def sleep? : RetryTurn → Option Duration
  | ⟨.sleepFn duration, _⟩ => some duration
  | _ => none

/-- The attempts, with their numbers and outcomes. -/
def attemptsOf (turns : List RetryTurn) : List (ℕ × AttemptOutcome) := turns.filterMap attempt?

def sleepsOf (turns : List RetryTurn) : List Duration := turns.filterMap sleep?

/-- The iteration has checked its deadline. -/
def AtHead (before : List RetryTurn) : Prop :=
  ∃ past deadline head, before = past ++ head ∧ Head deadline head

/-- An attempt starts only after the check at the head of its iteration. -/
def AttemptGuarded (before : List RetryTurn) : RetryTurn → Prop
  | ⟨.attempt _, _⟩ => AtHead before
  | _ => True

/-- A sleep follows a failed attempt that is not the last one possible, doubles with the
number of the attempt, and ends before the deadline of the iteration. -/
def SleepGuarded (retryCount : ℕ) (retryBackoffMs : UInt32) (before : List RetryTurn) :
    RetryTurn → Prop
  | ⟨.sleepFn duration, _⟩ =>
      ∃ past deadline head attemptIdx reason check,
        before = past ++ head ++ ⟨.attempt attemptIdx, .failed reason⟩ :: check ∧
          Head deadline head ∧ InTime duration deadline check ∧ attemptIdx < retryCount ∧
          duration = fromMillis (retryBackoffMs.toNat * 2 ^ attemptIdx)
  | _ => True

/-- A sleep comes before the attempt that has no retry left. -/
def SleepBeforeFinal (retryCount : ℕ) (before : List RetryTurn) (x : RetryTurn) : Prop :=
  sleep? x ≠ none → retryCount ∉ (attemptsOf before).map Prod.fst

section observers

variable (turns turns' : List RetryTurn)

@[simp] theorem attemptsOf_append :
    attemptsOf (turns ++ turns') = attemptsOf turns ++ attemptsOf turns' :=
  List.filterMap_append

@[simp] theorem sleepsOf_append :
    sleepsOf (turns ++ turns') = sleepsOf turns ++ sleepsOf turns' :=
  List.filterMap_append

@[simp] theorem attemptsOf_cons_attempt (i : ℕ) (outcome : AttemptOutcome) :
    attemptsOf (⟨.attempt i, outcome⟩ :: turns) = (i, outcome) :: attemptsOf turns := rfl

@[simp] theorem sleepsOf_cons_attempt (i : ℕ) (outcome : AttemptOutcome) :
    sleepsOf (⟨.attempt i, outcome⟩ :: turns) = sleepsOf turns := rfl

variable {turns} {deadline : Option Instant} {sleep : Duration}

@[simp] theorem Head.attemptsOf_eq (h : Head deadline turns) : attemptsOf turns = [] := by
  cases h <;> rfl

@[simp] theorem Head.sleepsOf_eq (h : Head deadline turns) : sleepsOf turns = [] := by
  cases h <;> rfl

theorem InTime.attemptsOf_eq (h : InTime sleep deadline turns) : attemptsOf turns = [] := by
  cases h <;> rfl

theorem InTime.sleepsOf_eq (h : InTime sleep deadline turns) : sleepsOf turns = [] := by
  cases h <;> rfl

end observers

section reference

variable {retryCount : ℕ} {retryBackoffMs : UInt32} {i : ℕ} {turns : List RetryTurn}
  {outcome : OnBatchOutcome}

theorem Sleeps.attemptsOf_eq (h : Sleeps retryBackoffMs i turns) :
    ∃ reason, attemptsOf turns = [(i, .failed reason)] := by
  obtain ⟨reason, hhead, hcheck⟩ := h
  refine ⟨reason, ?_⟩
  rw [attemptsOf_append, hhead.attemptsOf_eq, attemptsOf_cons_attempt, attemptsOf_append,
    hcheck.attemptsOf_eq]
  rfl

theorem Sleeps.sleepsOf_eq (h : Sleeps retryBackoffMs i turns) :
    sleepsOf turns = [backoffDuration retryBackoffMs i] := by
  obtain ⟨reason, hhead, hcheck⟩ := h
  rw [sleepsOf_append, hhead.sleepsOf_eq, sleepsOf_cons_attempt, sleepsOf_append,
    hcheck.sleepsOf_eq]
  rfl

theorem Returns.attemptsOf_eq (h : Returns retryCount retryBackoffMs i turns outcome) :
    (attemptsOf turns = [] ∧ outcome = .dropped .deadlineExceeded i) ∨
      (attemptsOf turns = [(i, .sent)] ∧ outcome = .sent) ∨
      ∃ reason, attemptsOf turns = [(i, .failed reason)] ∧
        (i = retryCount ∧ outcome = .dropped reason (i + 1) ∨
          i ≠ retryCount ∧ outcome = .dropped .deadlineExceeded (i + 1)) := by
  cases h with
  | expired d now h => exact .inl ⟨rfl, rfl⟩
  | sent hhead =>
      refine .inr (.inl ⟨?_, rfl⟩)
      rw [attemptsOf_append, hhead.attemptsOf_eq]
      rfl
  | exhausted reason hhead hlast =>
      refine .inr (.inr ⟨reason, ?_, .inl ⟨hlast, rfl⟩⟩)
      rw [attemptsOf_append, hhead.attemptsOf_eq]
      rfl
  | collapsed now reason hhead hmore h =>
      refine .inr (.inr ⟨reason, ?_, .inr ⟨hmore, rfl⟩⟩)
      rw [attemptsOf_append, hhead.attemptsOf_eq]
      rfl

theorem Returns.sleepsOf_eq (h : Returns retryCount retryBackoffMs i turns outcome) :
    sleepsOf turns = [] := by
  cases h with
  | expired d now h => rfl
  | sent hhead | exhausted _ hhead | collapsed _ _ hhead =>
      rw [sleepsOf_append, hhead.sleepsOf_eq]
      rfl

theorem backoffDuration_eq (h : i < 32) :
    backoffDuration retryBackoffMs i = fromMillis (retryBackoffMs.toNat * 2 ^ i) := by
  have hbackoff : retryBackoffMs.toNat < 2 ^ 32 := retryBackoffMs.toNat_lt
  have hfactor : 2 ^ i ≤ 2 ^ 31 := Nat.pow_le_pow_right (by decide) (by omega)
  have hmul : retryBackoffMs.toNat * 2 ^ i ≤ (2 ^ 32 - 1) * 2 ^ 31 :=
    Nat.mul_le_mul (by omega) hfactor
  have hexact : saturatingMulU64 retryBackoffMs.toNat (2 ^ i) = retryBackoffMs.toNat * 2 ^ i :=
    Nat.min_eq_left (hmul.trans (by decide))
  rw [backoffDuration, checkedShlOne, if_pos h, Option.getD_some, hexact]

/-- What the attempts from number `i` on say of the outcome. -/
structure Summary (retryCount i : ℕ) (attempts : List (ℕ × AttemptOutcome))
    (outcome : OnBatchOutcome) : Prop where
  numbered : attempts.map Prod.fst = List.range' i attempts.length
  bounded : i + attempts.length ≤ retryCount + 1
  sent_iff : outcome = .sent ↔ ∃ j, (j, AttemptOutcome.sent) ∈ attempts
  sent_last : ∀ pre j post, attempts = pre ++ (j, .sent) :: post → post = []
  dropped : ∀ reason count, outcome = .dropped reason count →
    count = i + attempts.length ∧
      if count = retryCount + 1 then attempts.getLast? = some (retryCount, .failed reason)
      else reason = .deadlineExceeded

theorem Returns.summary (h : Returns retryCount retryBackoffMs i turns outcome)
    (hi : i ≤ retryCount) : Summary retryCount i (attemptsOf turns) outcome := by
  rcases h.attemptsOf_eq with ⟨hnone, rfl⟩ | ⟨hone, rfl⟩ | ⟨reason, hone, hout⟩
  · rw [hnone]
    refine ⟨rfl, by simp; omega, by simp, by simp, ?_⟩
    rintro reason count ⟨⟩
    rw [if_neg (by omega)]
    exact ⟨rfl, rfl⟩
  · rw [hone]
    refine ⟨rfl, by simpa using hi, by simp, ?_, by simp⟩
    intro pre j post hsplit
    have hlength := congrArg List.length hsplit
    simp only [List.length_append, List.length_cons, List.length_nil] at hlength
    exact List.eq_nil_of_length_eq_zero (by omega)
  · rw [hone]
    refine ⟨rfl, by simpa using hi, ?_, ?_, ?_⟩
    · rcases hout with ⟨-, rfl⟩ | ⟨-, rfl⟩ <;> simp
    · intro pre j post hsplit
      have hmem : (j, AttemptOutcome.sent) ∈ [(i, AttemptOutcome.failed reason)] := by
        rw [hsplit]
        simp
      simp at hmem
    · intro reason' count heq
      rcases hout with ⟨rfl, rfl⟩ | ⟨hne, rfl⟩ <;> cases heq
      · simp
      · rw [if_neg (by omega)]
        exact ⟨rfl, rfl⟩

theorem Summary.cons {attempts : List (ℕ × AttemptOutcome)}
    (h : Summary retryCount (i + 1) attempts outcome) (reason : DropReason) :
    Summary retryCount i ((i, .failed reason) :: attempts) outcome := by
  obtain ⟨hnumbered, hbounded, hiff, hlast, hdropped⟩ := h
  refine ⟨?_, ?_, ?_, ?_, ?_⟩
  · rw [List.map_cons, hnumbered, List.length_cons, List.range'_succ]
  · rw [List.length_cons]
    omega
  · rw [hiff]
    simp
  · intro pre j post hsplit
    cases pre with
    | nil => simp at hsplit
    | cons x pre => exact hlast pre j post (List.cons.inj hsplit).2
  · intro reason' count heq
    obtain ⟨hcount, hreason⟩ := hdropped reason' count heq
    refine ⟨by rw [List.length_cons]; omega, ?_⟩
    split_ifs at hreason ⊢
    · rw [List.getLast?_cons, hreason]
      rfl
    · exact hreason

theorem Runs.summary (h : Runs retryCount retryBackoffMs i turns outcome)
    (hi : i ≤ retryCount) : Summary retryCount i (attemptsOf turns) outcome := by
  induction h with
  | stop h => exact h.summary hi
  | again hmore hfirst _ ih =>
      obtain ⟨reason, hone⟩ := hfirst.attemptsOf_eq
      rw [attemptsOf_append, hone]
      exact (ih hmore).cons reason

/-- The sleeps from number `i` on. -/
theorem Runs.sleepsOf_eq (h : Runs retryCount retryBackoffMs i turns outcome) :
    sleepsOf turns =
      (List.range' i (sleepsOf turns).length).map (backoffDuration retryBackoffMs) ∧
      i + (sleepsOf turns).length ≤ max i retryCount := by
  induction h with
  | stop h =>
      rw [h.sleepsOf_eq]
      exact ⟨rfl, Nat.le_max_left _ _⟩
  | again hmore hfirst _ ih =>
      rw [sleepsOf_append, hfirst.sleepsOf_eq, List.singleton_append, List.length_cons,
        List.range'_succ, List.map_cons, ← ih.1]
      refine ⟨rfl, ?_⟩
      have := ih.2
      omega

/-! ### The checks before attempts and sleeps -/

theorem each_of_quiet {P : List RetryTurn → RetryTurn → Prop} {turns : List RetryTurn}
    (hattempt : attemptsOf turns = []) (hsleep : sleepsOf turns = [])
    (hP : ∀ before x, attempt? x = none → sleep? x = none → P before x) : Each P turns := by
  intro pre x post hsplit
  rw [attemptsOf, List.filterMap_eq_nil_iff] at hattempt
  rw [sleepsOf, List.filterMap_eq_nil_iff] at hsleep
  have hmem : x ∈ turns := by rw [hsplit]; simp
  exact hP pre x (hattempt x hmem) (hsleep x hmem)

theorem Sleeps.each {P : List RetryTurn → RetryTurn → Prop}
    (h : Sleeps retryBackoffMs i turns)
    (hquiet : ∀ before x, attempt? x = none → sleep? x = none → P before x)
    (hattempt : ∀ deadline head reason, Head deadline head → P head ⟨.attempt i, .failed reason⟩)
    (hsleep : ∀ deadline head reason check, Head deadline head →
      InTime (backoffDuration retryBackoffMs i) deadline check →
      P (head ++ ⟨.attempt i, .failed reason⟩ :: check)
        ⟨.sleepFn (backoffDuration retryBackoffMs i), ()⟩) : Each P turns := by
  obtain ⟨reason, hhead, hcheck⟩ := h
  rw [each_append, each_cons, each_append, each_cons]
  refine ⟨each_of_quiet hhead.attemptsOf_eq hhead.sleepsOf_eq hquiet, ?_, ?_, ?_, each_nil⟩
  · rw [List.append_nil]
    exact hattempt _ _ reason hhead
  · exact each_of_quiet hcheck.attemptsOf_eq hcheck.sleepsOf_eq fun _ x => hquiet _ x
  · rw [List.append_nil]
    exact hsleep _ _ reason _ hhead hcheck

theorem Returns.each {P : List RetryTurn → RetryTurn → Prop}
    (h : Returns retryCount retryBackoffMs i turns outcome)
    (hquiet : ∀ before x, attempt? x = none → sleep? x = none → P before x)
    (hattempt : ∀ deadline head verdict, Head deadline head → P head ⟨.attempt i, verdict⟩) :
    Each P turns := by
  cases h with
  | expired d now h => exact each_of_quiet rfl rfl hquiet
  | sent hhead | exhausted _ hhead =>
      rw [each_append, each_cons, List.append_nil]
      exact ⟨each_of_quiet hhead.attemptsOf_eq hhead.sleepsOf_eq hquiet, hattempt _ _ _ hhead,
        each_nil⟩
  | collapsed now reason hhead =>
      rw [each_append, each_cons, List.append_nil]
      exact ⟨each_of_quiet hhead.attemptsOf_eq hhead.sleepsOf_eq hquiet, hattempt _ _ _ hhead,
        each_of_quiet rfl rfl fun _ x => hquiet _ x⟩

theorem AtHead.of_head {deadline : Option Instant} {head : List RetryTurn}
    (h : Head deadline head) : AtHead head := ⟨[], deadline, head, rfl, h⟩

theorem AttemptGuarded.prepend {before : List RetryTurn} {x : RetryTurn}
    (h : AttemptGuarded before x) (past : List RetryTurn) : AttemptGuarded (past ++ before) x := by
  obtain ⟨q, a⟩ := x
  cases q with
  | attempt i =>
      obtain ⟨past', deadline, head, rfl, hhead⟩ := h
      exact ⟨past ++ past', deadline, head, (List.append_assoc ..).symm, hhead⟩
  | deadlineFn | now | sleepFn => trivial

theorem attemptGuarded_of_quiet {before : List RetryTurn} {x : RetryTurn}
    (h : attempt? x = none) : AttemptGuarded before x := by
  obtain ⟨q, a⟩ := x
  cases q with
  | attempt i => cases h
  | deadlineFn | now | sleepFn => trivial

/-- Every attempt starts at a head. -/
theorem Runs.attemptGuarded (h : Runs retryCount retryBackoffMs i turns outcome) :
    Each AttemptGuarded turns := by
  induction h with
  | stop h =>
      exact h.each (fun _ _ ha _ => attemptGuarded_of_quiet ha)
        fun _ _ _ hhead => AtHead.of_head hhead
  | again hmore hfirst _ ih =>
      refine each_append.mpr ⟨?_, ih.mono fun _ _ hg => hg.prepend _⟩
      exact hfirst.each (fun _ _ ha _ => attemptGuarded_of_quiet ha)
        (fun _ _ _ hhead => AtHead.of_head hhead) fun _ _ _ _ _ _ => trivial

theorem SleepGuarded.prepend {before : List RetryTurn} {x : RetryTurn}
    (h : SleepGuarded retryCount retryBackoffMs before x) (past : List RetryTurn) :
    SleepGuarded retryCount retryBackoffMs (past ++ before) x := by
  obtain ⟨q, a⟩ := x
  cases q with
  | sleepFn duration =>
      obtain ⟨past', deadline, head, j, reason, check, rfl, hguard⟩ := h
      refine ⟨past ++ past', deadline, head, j, reason, check, ?_, hguard⟩
      simp only [List.append_assoc]
  | deadlineFn | now | attempt => trivial

theorem sleepGuarded_of_quiet {before : List RetryTurn} {x : RetryTurn} (h : sleep? x = none) :
    SleepGuarded retryCount retryBackoffMs before x := by
  obtain ⟨q, a⟩ := x
  cases q with
  | sleepFn duration => cases h
  | deadlineFn | now | attempt => trivial

/-- Every sleep has its length and its check. -/
theorem Runs.sleepGuarded (h : Runs retryCount retryBackoffMs i turns outcome)
    (hcount : retryCount ≤ 32) : Each (SleepGuarded retryCount retryBackoffMs) turns := by
  induction h with
  | stop h =>
      exact h.each (fun _ _ _ hs => sleepGuarded_of_quiet hs) fun _ _ _ _ => trivial
  | @again j _ _ _ hmore hfirst _ ih =>
      refine each_append.mpr ⟨?_, ih.mono fun _ _ hg => hg.prepend _⟩
      refine hfirst.each (fun _ _ _ hs => sleepGuarded_of_quiet hs) (fun _ _ _ _ => trivial) ?_
      intro deadline head reason check hhead hcheck
      exact ⟨[], deadline, head, j, reason, check, rfl, hhead, hcheck, hmore,
        backoffDuration_eq (by omega)⟩

/-- No sleep follows the attempt number `retryCount`. -/
theorem Runs.sleepBeforeFinal (h : Runs retryCount retryBackoffMs i turns outcome) :
    Each (SleepBeforeFinal retryCount) turns := by
  induction h with
  | stop h =>
      exact h.each (fun _ _ _ hs hne => absurd hs hne) fun _ _ _ _ hne => absurd rfl hne
  | again hmore hfirst _ ih =>
      obtain ⟨reason, hone⟩ := hfirst.attemptsOf_eq
      refine each_append.mpr ⟨?_, ih.mono fun before x hx hne hmem => ?_⟩
      · refine hfirst.each (fun _ _ _ hs hne => absurd hs hne)
          (fun _ _ _ _ hne => absurd rfl hne) ?_
        intro deadline head reason check hhead hcheck _ hmem
        rw [attemptsOf_append, hhead.attemptsOf_eq, attemptsOf_cons_attempt,
          hcheck.attemptsOf_eq] at hmem
        exact hmore.ne (List.mem_singleton.mp hmem).symm
      · rw [attemptsOf_append, hone, List.map_append] at hmem
        rcases List.mem_append.mp hmem with hfinal | hrest
        · exact hmore.ne (List.mem_singleton.mp hfinal).symm
        · exact hx hne hrest

end reference

/-- **`run_with_retry` meets its reference semantics.**  Whatever the closures answer, it
returns, and its log is a reference log: the attempts are numbered without gaps and decide
the outcome; an attempt starts only after the check at the head of its iteration; the sleep
after attempt `i` lasts `retry_backoff_ms * 2 ^ i` milliseconds and is checked against the
deadline of its iteration; and no sleep follows attempt number `retry_count`. -/
theorem run_with_retry_meets_reference {retryCount : ℕ} (hcount : retryCount ≤ 10)
    (retryBackoffMs : UInt32) (env : List RetryTurn → (q : RetryCall) → RetryAnswer q) :
    ∃ log outcome, play env [] (runWithRetry retryCount retryBackoffMs) = (log, some outcome) ∧
      Runs retryCount retryBackoffMs 0 log outcome ∧
      Summary retryCount 0 (attemptsOf log) outcome ∧
      Each AttemptGuarded log ∧
      Each (SleepGuarded retryCount retryBackoffMs) log ∧
      sleepsOf log = (List.range (sleepsOf log).length).map
        (fun i => fromMillis (retryBackoffMs.toNat * 2 ^ i)) ∧
      Each (SleepBeforeFinal retryCount) log := by
  obtain ⟨log, hlog, hfollows⟩ := follows_play env [] (runWithRetry retryCount retryBackoffMs)
  obtain ⟨outcome, hresult, hruns⟩ := runs_of_follows_runWithRetry hfollows
  refine ⟨log, outcome, Prod.ext hlog hresult, hruns, hruns.summary (Nat.zero_le _),
    hruns.attemptGuarded, hruns.sleepGuarded (by omega), ?_, hruns.sleepBeforeFinal⟩
  obtain ⟨hsleeps, hlength⟩ := hruns.sleepsOf_eq
  rw [Nat.zero_add, Nat.zero_max] at hlength
  refine hsleeps.trans ?_
  rw [← List.range_eq_range']
  refine List.map_congr_left fun i hi => backoffDuration_eq ?_
  have := List.mem_range.mp hi
  omega

/-- An environment whose attempts all time out, without a deadline. -/
def timingOut (_ : List RetryTurn) : (q : RetryCall) → RetryAnswer q
  | .deadlineFn => none
  | .now => (0 : ℕ)
  | .attempt _ => .failed .timeout
  | .sleepFn _ => ()

theorem run_with_retry_meets_reference_timing_out :
    ∃ log outcome, play timingOut [] (runWithRetry 2 200) = (log, some outcome) ∧
      Summary 2 0 (attemptsOf log) outcome := by
  obtain ⟨log, outcome, hplay, -, hsummary, -⟩ :=
    run_with_retry_meets_reference (show 2 ≤ 10 by decide) 200 timingOut
  exact ⟨log, outcome, hplay, hsummary⟩

example : sleepsOf (play timingOut [] (runWithRetry 2 200)).1 = [200 * 10 ^ 6, 400 * 10 ^ 6] := by
  decide

end PhpAnalyze
