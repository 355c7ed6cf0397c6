import Mathlib.Data.List.Induction
import PhpAnalyze.Retry

/-! # The grace period of a shutdown

A timed model of the batches handled around `MSHUTDOWN`: an attempt takes at most
`http_timeout`, a sleep takes its duration, everything else takes no time, and the deadline
function of `handle` returns the deadline from the moment of its publication on.

The orchestrator samples the deadline at the head of an iteration and keeps the sample for
the sleep at its end.  An iteration that sampled `None` therefore sleeps without a check,
however long the backoff is, also when the deadline has been published in the meantime.
These sleeps decide whether the shutdown keeps to the deadline, up to one attempt
(`shutdown_bounded_iff`). -/

namespace PhpAnalyze

open Interaction

structure ShutdownTiming where
  httpTimeout : Duration
  published : Instant
  deadline : Instant

def ShutdownTiming.deadlineFn (T : ShutdownTiming) (clock : Instant) : Option Instant :=
  if clock < T.published then none else some T.deadline

/-- The grace period and one attempt. -/
def ShutdownTiming.limit (T : ShutdownTiming) : Instant := T.deadline + T.httpTimeout

abbrev TimedTurn := Instant × RetryTurn

section timing

variable (T : ShutdownTiming) (retryCount : ℕ) (retryBackoffMs : UInt32)

/-- The turn that starts at `clock` ends at `clock'`. -/
def Takes (clock : Instant) : RetryTurn → Instant → Prop
  | ⟨.deadlineFn, deadline⟩, clock' => deadline = T.deadlineFn clock ∧ clock' = clock
  | ⟨.now, now⟩, clock' => now = clock ∧ clock' = clock
  | ⟨.attempt _, _⟩, clock' => clock ≤ clock' ∧ clock' ≤ clock + T.httpTimeout
  | ⟨.sleepFn duration, _⟩, clock' => clock' = clock + duration

/-- The turns follow each other from `clock` to `clock'`. -/
def Clocked : Instant → List TimedTurn → Instant → Prop
  | clock, [], clock' => clock' = clock
  | clock, (start, turn) :: rest, clock'' =>
      start = clock ∧ ∃ clock', Takes T clock turn clock' ∧ Clocked clock' rest clock''

/-- `encode_and_handle` on one batch, with the turns of its `run_with_retry`. -/
inductive Handles : Instant → List TimedTurn → Instant → Prop
  | encodeFailed (clock) : Handles clock [] clock
  | posted {clock turns clock' result} (hclock : Clocked T clock turns clock')
      (hrun : Follows (runWithRetry retryCount retryBackoffMs) (turns.map Prod.snd)
        (.ret result)) :
      Handles clock turns clock'

/-- Batches handled one after another. -/
inductive HandlesAll : Instant → List (List TimedTurn) → Instant → Prop
  | nil (clock) : HandlesAll clock [] clock
  | cons {clock clock' clock'' turns batches}
      (h : Handles T retryCount retryBackoffMs clock turns clock')
      (hrest : HandlesAll clock' batches clock'') : HandlesAll clock (turns :: batches) clock''

end timing

def sample? : RetryTurn → Option (Option Instant)
  | ⟨.deadlineFn, deadline⟩ => some deadline
  | _ => none

def sampled (before : List RetryTurn) : Option Instant :=
  (before.filterMap sample?).getLast?.join

/-- A sleep of an iteration that sampled no deadline ends by the limit. -/
def UncheckedSleepEnds (limit : Instant) (before : List TimedTurn) : TimedTurn → Prop
  | (clock, ⟨.sleepFn duration, _⟩) =>
      sampled (before.map Prod.snd) = none → clock + duration ≤ limit
  | _ => True

section bound

variable {T : ShutdownTiming} {retryCount : ℕ} {retryBackoffMs : UInt32}
  {clock clock' clock'' : Instant} {turns turns' : List TimedTurn} {turn : RetryTurn}

theorem Takes.le (h : Takes T clock turn clock') : clock ≤ clock' := by
  obtain ⟨q, a⟩ := turn
  cases q with
  | deadlineFn | now => exact h.2.ge
  | attempt => exact h.1
  | sleepFn duration => exact h.ge.trans' (Nat.le_add_right clock duration)

theorem clocked_append_iff :
    Clocked T clock (turns ++ turns') clock'' ↔
      ∃ clock', Clocked T clock turns clock' ∧ Clocked T clock' turns' clock'' := by
  induction turns generalizing clock with
  | nil => simp [Clocked]
  | cons x turns ih =>
      simp only [List.cons_append, Clocked, ih]
      constructor
      · rintro ⟨rfl, t, hturn, t', hleft, hright⟩
        exact ⟨t', ⟨rfl, t, hturn, hleft⟩, hright⟩
      · rintro ⟨t', ⟨rfl, t, hturn, hleft⟩, hright⟩
        exact ⟨rfl, t, hturn, t', hleft, hright⟩

theorem Clocked.le (h : Clocked T clock turns clock') : clock ≤ clock' := by
  induction turns generalizing clock with
  | nil => exact h.ge
  | cons x turns ih =>
      obtain ⟨-, t, hturn, hrest⟩ := h
      exact hturn.le.trans (ih hrest)

theorem Clocked.at {x : TimedTurn} (h : Clocked T clock (turns ++ x :: turns') clock'') :
    Clocked T clock turns x.1 ∧
      ∃ clock', Takes T x.1 x.2 clock' ∧ Clocked T clock' turns' clock'' := by
  obtain ⟨t, hleft, rfl, t', hturn, hright⟩ := clocked_append_iff.mp h
  exact ⟨hleft, t', hturn, hright⟩

theorem Clocked.head (h : Clocked T clock turns clock') {deadline : Option Instant}
    (hhead : Head deadline (turns.map Prod.snd)) :
    deadline = T.deadlineFn clock ∧ clock' = clock ∧ ∀ d ∈ deadline, clock < d := by
  generalize hturns : turns.map Prod.snd = head at hhead
  cases hhead with
  | unbounded =>
      obtain ⟨x, rfl, hx⟩ := List.map_eq_singleton_iff.mp hturns
      obtain ⟨-, t, hturn, rfl⟩ := h
      rw [hx] at hturn
      exact ⟨hturn.1, hturn.2, fun _ hd => nomatch hd⟩
  | bounded d now hlt =>
      obtain ⟨x, turns, rfl, hx, hrest⟩ := List.map_eq_cons_iff.mp hturns
      obtain ⟨y, rfl, hy⟩ := List.map_eq_singleton_iff.mp hrest
      obtain ⟨-, t, hturn, -, t', hturn', rfl⟩ := h
      rw [hx] at hturn
      rw [hy] at hturn'
      obtain ⟨hdeadline, rfl⟩ := hturn
      obtain ⟨rfl, rfl⟩ := hturn'
      exact ⟨hdeadline, rfl, fun d' hd' => Option.some.inj hd' ▸ hlt⟩

/-- An attempt starts before the deadline: before the publication, or after a check. -/
theorem Clocked.lt_deadline (hpd : T.published ≤ T.deadline) (h : Clocked T clock turns clock')
    (hhead : AtHead (turns.map Prod.snd)) : clock' < T.deadline := by
  obtain ⟨past, deadline, head, hturns, hhead⟩ := hhead
  obtain ⟨left, right, rfl, -, rfl⟩ := List.map_eq_append_iff.mp hturns
  obtain ⟨t, -, hright⟩ := clocked_append_iff.mp h
  obtain ⟨hdeadline, rfl, hlt⟩ := hright.head hhead
  rw [ShutdownTiming.deadlineFn] at hdeadline
  split_ifs at hdeadline with hearly
  · exact hearly.trans_le hpd
  · exact hlt T.deadline hdeadline

theorem Head.sampled_eq {deadline : Option Instant} {head : List RetryTurn}
    (h : Head deadline head) : head.filterMap sample? = [deadline] := by
  cases h <;> rfl

theorem InTime.sampled_eq {deadline : Option Instant} {sleep : Duration}
    {check : List RetryTurn} (h : InTime sleep deadline check) : check.filterMap sample? = [] := by
  cases h <;> rfl

/-- A sleep ends before the deadline, or its iteration has sampled none. -/
theorem Clocked.sleep_lt (h : Clocked T clock turns clock') {duration : Duration}
    (hguard : SleepGuarded retryCount retryBackoffMs (turns.map Prod.snd)
      ⟨.sleepFn duration, ()⟩) :
    clock' + duration < T.deadline ∨ sampled (turns.map Prod.snd) = none := by
  obtain ⟨past, deadline, head, i, reason, check, hturns, hhead, hcheck, -⟩ := hguard
  have hsampled : sampled (turns.map Prod.snd) = deadline := by
    rw [hturns, sampled, List.filterMap_append, List.filterMap_append, hhead.sampled_eq,
      List.filterMap_cons, hcheck.sampled_eq]
    simp [sample?]
  obtain ⟨left, right, rfl, hleft, hright⟩ := List.map_eq_append_iff.mp hturns
  obtain ⟨x, check', rfl, hx, rfl⟩ := List.map_eq_cons_iff.mp hright
  obtain ⟨past', head', rfl, -, rfl⟩ := List.map_eq_append_iff.mp hleft
  obtain ⟨t, hbefore, -, t', -, hafter⟩ := clocked_append_iff.mp h
  obtain ⟨t'', -, hhead'⟩ := clocked_append_iff.mp hbefore
  obtain ⟨hdeadline, -⟩ := hhead'.head hhead
  generalize hmap : check'.map Prod.snd = check at hcheck
  cases hcheck with
  | unbounded => exact .inr hsampled
  | bounded d now hlt =>
      obtain ⟨y, rfl, hy⟩ := List.map_eq_singleton_iff.mp hmap
      obtain ⟨-, t₁, hturn, rfl⟩ := hafter
      rw [hy] at hturn
      obtain ⟨rfl, rfl⟩ := hturn
      rw [ShutdownTiming.deadlineFn] at hdeadline
      split_ifs at hdeadline
      exact .inl (Option.some.inj hdeadline ▸ hlt)

/-- One log keeps to the limit when its unchecked sleeps do. -/
theorem Clocked.le_limit (hpd : T.published ≤ T.deadline) (h : Clocked T clock turns clock')
    (hstart : clock ≤ T.limit) (hattempts : Each AttemptGuarded (turns.map Prod.snd))
    (hsleeps : Each (SleepGuarded retryCount retryBackoffMs) (turns.map Prod.snd))
    (hends : Each (UncheckedSleepEnds T.limit) turns) : clock' ≤ T.limit := by
  induction turns using List.reverseRecOn generalizing clock' with
  | nil => exact (show clock' = clock from h).le.trans hstart
  | append_singleton turns x ih =>
      rw [List.map_append, each_append] at hattempts hsleeps
      obtain ⟨hends, hend⟩ := each_append.mp hends
      obtain ⟨hleft, t, hturn, rfl⟩ := h.at
      have hclock := ih hleft hattempts.1 hsleeps.1 hends
      have hattempt := (each_cons.mp hattempts.2).1
      have hsleep := (each_cons.mp hsleeps.2).1
      have hend := (each_cons.mp hend).1
      rw [List.append_nil] at hattempt hsleep hend
      obtain ⟨start, q, a⟩ := x
      cases q with
      | deadlineFn | now => exact hturn.2.le.trans hclock
      | attempt i =>
          have hlt : start < T.deadline := hleft.lt_deadline hpd hattempt
          exact hturn.2.trans (Nat.add_le_add_right hlt.le _)
      | sleepFn duration =>
          rw [show clock' = start + duration from hturn]
          rcases hleft.sleep_lt hsleep with hlt | hnone
          · exact hlt.le.trans (Nat.le_add_right _ _)
          · exact hend hnone

theorem Clocked.sleep_le (h : Clocked T clock turns clock') {limit : Instant}
    (hlimit : clock' ≤ limit) : Each (UncheckedSleepEnds limit) turns := by
  rintro pre ⟨start, q, a⟩ post rfl
  obtain ⟨-, t, hturn, hright⟩ := h.at
  cases q with
  | sleepFn duration => exact fun _ => hturn.ge.trans (hright.le.trans hlimit)
  | deadlineFn | now | attempt => trivial

theorem Handles.le (h : Handles T retryCount retryBackoffMs clock turns clock') :
    clock ≤ clock' := by
  cases h with
  | encodeFailed => exact le_rfl
  | posted hclock => exact hclock.le

theorem Handles.le_limit_iff (hcount : retryCount ≤ 32) (hpd : T.published ≤ T.deadline)
    (h : Handles T retryCount retryBackoffMs clock turns clock') (hstart : clock ≤ T.limit) :
    clock' ≤ T.limit ↔ Each (UncheckedSleepEnds T.limit) turns := by
  cases h with
  | encodeFailed => exact iff_of_true hstart each_nil
  | posted hclock hrun =>
      obtain ⟨outcome, -, hruns⟩ := runs_of_follows_runWithRetry hrun
      exact ⟨hclock.sleep_le, hclock.le_limit hpd hstart hruns.attemptGuarded
        (hruns.sleepGuarded hcount)⟩

theorem HandlesAll.le {batches : List (List TimedTurn)}
    (h : HandlesAll T retryCount retryBackoffMs clock batches clock') : clock ≤ clock' := by
  induction h with
  | nil => exact le_rfl
  | cons h _ ih => exact h.le.trans ih

end bound

/-- **The shutdown overruns the deadline by at most one attempt, exactly when no unchecked
sleep does**: for every list of batches handled one after another from before the
publication on, the clock ends within the deadline and one `http_timeout` if and only if
every sleep of an iteration that sampled no deadline does. -/
theorem shutdown_bounded_iff {T : ShutdownTiming} {retryCount : ℕ} {retryBackoffMs : UInt32}
    {start final : Instant} {batches : List (List TimedTurn)} (hcount : retryCount ≤ 10)
    (hstart : start < T.published) (hpd : T.published ≤ T.deadline)
    (h : HandlesAll T retryCount retryBackoffMs start batches final) :
    final ≤ T.deadline + T.httpTimeout ↔
      ∀ turns ∈ batches, Each (UncheckedSleepEnds (T.deadline + T.httpTimeout)) turns := by
  have hlimit : start ≤ T.limit := (hstart.le.trans hpd).trans (Nat.le_add_right _ _)
  clear hstart
  induction h with
  | nil => simpa [ShutdownTiming.limit] using hlimit
  | cons h hrest ih =>
      rw [List.forall_mem_cons, ← ShutdownTiming.limit, ← h.le_limit_iff (by omega) hpd hlimit]
      constructor
      · intro hfinal
        have hmid := hrest.le.trans hfinal
        exact ⟨hmid, (ih hmid).mp hfinal⟩
      · rintro ⟨hmid, hbatches⟩
        exact (ih hmid).mpr hbatches

/-- A deadline published right after an attempt has failed. -/
def timingOfSlip : ShutdownTiming where
  httpTimeout := fromMillis 10000
  published := 1
  deadline := fromMillis 5000

/-- One batch: the attempt fails at once, the sleep takes a minute, and the deadline is seen
when it is over. -/
def turnsOfSlip : List TimedTurn :=
  [(0, ⟨.deadlineFn, none⟩), (0, ⟨.attempt 0, .failed .connectRefused⟩),
    (0, ⟨.sleepFn (fromMillis 60000), ()⟩),
    (fromMillis 60000, ⟨.deadlineFn, some (fromMillis 5000)⟩),
    (fromMillis 60000, ⟨.now, fromMillis 60000⟩)]

theorem handles_slip : HandlesAll timingOfSlip 1 60000 0 [turnsOfSlip] (fromMillis 60000) := by
  have hrun : Follows (runWithRetry 1 60000) (turnsOfSlip.map Prod.snd)
      (.ret (some (.dropped .deadlineExceeded 1))) :=
    .cons (.cons (.cons (.cons (.cons (.nil _)))))
  have hclock : Clocked timingOfSlip 0 turnsOfSlip (fromMillis 60000) :=
    ⟨rfl, 0, ⟨rfl, rfl⟩, rfl, 0, ⟨le_rfl, Nat.zero_le _⟩, rfl, fromMillis 60000,
      (Nat.zero_add _).symm, rfl, fromMillis 60000, ⟨by decide, rfl⟩, rfl, fromMillis 60000,
      ⟨rfl, rfl⟩, rfl⟩
  exact .cons (.posted hclock hrun) (.nil _)

/-- An attempt of seven seconds, begun before the publication, is in time. -/
theorem shutdown_bounded_iff_one_attempt :
    fromMillis 7000 ≤ timingOfSlip.deadline + timingOfSlip.httpTimeout ↔
      ∀ turns ∈ [[(0, (⟨.deadlineFn, none⟩ : RetryTurn)), (0, ⟨.attempt 0, .sent⟩)]],
        Each (UncheckedSleepEnds (timingOfSlip.deadline + timingOfSlip.httpTimeout)) turns := by
  have hrun : Follows (runWithRetry 1 60000) [⟨.deadlineFn, none⟩, ⟨.attempt 0, .sent⟩]
      (.ret (some .sent)) :=
    .cons (.cons (.nil _))
  have hclock : Clocked timingOfSlip 0
      [(0, (⟨.deadlineFn, none⟩ : RetryTurn)), (0, ⟨.attempt 0, .sent⟩)] (fromMillis 7000) :=
    ⟨rfl, 0, ⟨rfl, rfl⟩, rfl, fromMillis 7000, ⟨Nat.zero_le _, by decide⟩, rfl⟩
  exact shutdown_bounded_iff (show 1 ≤ 10 by decide) (show 0 < timingOfSlip.published by decide)
    (by decide) (.cons (.posted hclock hrun) (.nil _))

/-- The deadline and one attempt are exceeded by a sleep that began unchecked. -/
theorem not_every_shutdown_bounded :
    ¬ ∀ (T : ShutdownTiming) (retryCount : ℕ) (retryBackoffMs : UInt32) (start final : Instant)
        (batches : List (List TimedTurn)),
      retryCount ≤ 10 → 1 ≤ retryBackoffMs → retryBackoffMs ≤ 60000 → start < T.published →
      T.published ≤ T.deadline → batches ≠ [] →
      HandlesAll T retryCount retryBackoffMs start batches final →
        final ≤ T.deadline + T.httpTimeout := by
  intro h
  have hfinal := h timingOfSlip 1 60000 0 (fromMillis 60000) [turnsOfSlip] (by decide) (by decide)
    (by decide) (by decide) (by decide) (by decide) handles_slip
  exact absurd hfinal (by decide)

end PhpAnalyze
