import Mathlib.Algebra.BigOperators.Group.List.Basic
import Mathlib.Algebra.Ring.Nat
import Mathlib.Data.List.Basic
import Mathlib.Data.List.Induction
import Mathlib.Data.Nat.Notation
import Mathlib.Logic.Function.Basic

/-! # Partial machines and their runs

A machine is a step function `step : σ → ε → Option σ`; `none` means that the program
stops (a panic, or an event that is not enabled).  `run step s es` feeds the events `es`
to the machine in order.

* `run_append` cuts a run at any point, `run_snoc` at its last event.
* `run_invariant` is the invariant rule: what every step preserves, every run preserves.
* `countP_add_rank_le` is the ranking rule: it bounds the number of steps of a run.
* `run_induction` is the same rule for properties of the state *and* of the events read so
  far; it is the rule behind every statement that talks about earlier events.
* `run_congr` runs two machines in lock step when their steps agree on the events read.
* `Along step p s es` says that `p` holds at every step of a run; `run_invariant_along` is the
  invariant rule for such a run, and `run_iff_along` the rule for what only `p` can break.
* `answers exec s es` are the answers of a machine that answers each event, and
  `answers_simulation` is the rule by which two of them answer alike.
* `outputs step obs s es` is what an observer sees along a run, and `tally step p s es`
  counts the steps at which `p` holds of the state before the step and of the event;
  `accrued step weight s es` adds up a weight of them. -/

namespace Machine

variable {σ ε : Type*} (step : σ → ε → Option σ)

/-- Feed the events to the machine, from left to right. -/
def run : σ → List ε → Option σ
  | s, [] => some s
  | s, e :: es => (step s e).bind fun s' => run s' es

@[simp] theorem run_nil (s : σ) : run step s [] = some s := rfl

theorem run_cons (s : σ) (e : ε) (es : List ε) :
    run step s (e :: es) = (step s e).bind fun s' => run step s' es := rfl

theorem run_append (s : σ) (es fs : List ε) :
    run step s (es ++ fs) = (run step s es).bind fun s' => run step s' fs := by
  induction es generalizing s with
  | nil => rfl
  | cons e es ih =>
      rw [List.cons_append, run_cons, run_cons, Option.bind_assoc]
      exact Option.bind_congr fun s' _ => ih s'

@[simp] theorem run_singleton (s : σ) (e : ε) : run step s [e] = step s e := by
  cases h : step s e <;> simp [run_cons, h]

theorem run_snoc (s : σ) (es : List ε) (e : ε) :
    run step s (es ++ [e]) = (run step s es).bind fun s' => step s' e := by
  rw [run_append]
  simp

variable {step}

theorem run_cons_eq_some {s s' : σ} {e : ε} {es : List ε} :
    run step s (e :: es) = some s' ↔ ∃ t, step s e = some t ∧ run step t es = some s' := by
  rw [run_cons, Option.bind_eq_some_iff]

theorem run_append_eq_some {s s' : σ} {es fs : List ε} :
    run step s (es ++ fs) = some s' ↔ ∃ t, run step s es = some t ∧ run step t fs = some s' := by
  rw [run_append, Option.bind_eq_some_iff]

theorem run_snoc_eq_some {s s' : σ} {es : List ε} {e : ε} :
    run step s (es ++ [e]) = some s' ↔ ∃ t, run step s es = some t ∧ step t e = some s' := by
  rw [run_snoc, Option.bind_eq_some_iff]

/-- **Invariant rule.** -/
theorem run_invariant {I : σ → Prop}
    (hstep : ∀ s e s', step s e = some s' → I s → I s') {s s' : σ} {es : List ε}
    (h : run step s es = some s') (hs : I s) : I s' := by
  induction es generalizing s with
  | nil => cases h; exact hs
  | cons e es ih =>
      obtain ⟨t, ht, hrun⟩ := run_cons_eq_some.mp h
      exact ih hrun (hstep s e t ht hs)

/-- **Ranking rule.**  Where no step raises the rank and the steps that `p` counts lower it, a run
has no more of these steps than its first state has rank. -/
theorem countP_add_rank_le {I : σ → Prop} (rank : σ → ℕ) {p : ε → Bool}
    (hstep : ∀ s e s', step s e = some s' → I s → I s')
    (hrank : ∀ s e s', step s e = some s' → I s → (if p e then 1 else 0) + rank s' ≤ rank s)
    {s t : σ} {es : List ε} (h : run step s es = some t) (hs : I s) :
    es.countP p + rank t ≤ rank s := by
  induction es generalizing s with
  | nil =>
      cases h
      simp
  | cons e es ih =>
      obtain ⟨u, hu, hrun⟩ := run_cons_eq_some.mp h
      have hrest := ih hrun (hstep s e u hu hs)
      have hfirst := hrank s e u hu hs
      rw [List.countP_cons]
      omega

/-- **Run induction**: a property of the events read so far and of the state reached. -/
theorem run_induction {P : List ε → σ → Prop} {s₀ : σ} (h₀ : P [] s₀)
    (hstep : ∀ es s e s', run step s₀ es = some s → P es s → step s e = some s' →
      P (es ++ [e]) s')
    {es : List ε} {s : σ} (h : run step s₀ es = some s) : P es s := by
  induction es using List.reverseRecOn generalizing s with
  | nil => cases h; exact h₀
  | append_singleton es e ih =>
      obtain ⟨t, ht, he⟩ := run_snoc_eq_some.mp h
      exact hstep es t e s ht (ih ht) he

/-- Two machines whose steps agree on the events read have the same runs. -/
theorem run_congr {step' : σ → ε → Option σ} {es : List ε}
    (h : ∀ e ∈ es, ∀ s, step s e = step' s e) (s : σ) : run step s es = run step' s es := by
  induction es generalizing s with
  | nil => rfl
  | cons e es ih =>
      rw [run_cons, run_cons, h e List.mem_cons_self s]
      exact Option.bind_congr fun s' _ => ih (fun e' he' => h e' (List.mem_cons_of_mem e he')) s'

/-- **Unwinding**: two machines whose steps keep one view of their states have runs with one view,
and stop at the same event. -/
theorem run_view {τ ω : Type*} {step' : τ → ε → Option τ} {view : σ → ω} {view' : τ → ω}
    (h : ∀ s t e, view s = view' t → (step s e).map view = (step' t e).map view')
    (es : List ε) {s : σ} {t : τ} (hst : view s = view' t) :
    (run step s es).map view = (run step' t es).map view' := by
  induction es generalizing s t with
  | nil => exact congrArg some hst
  | cons e es ih =>
      have hview := h s t e hst
      rw [run_cons, run_cons]
      cases hs : step s e with
      | none =>
          rw [hs] at hview
          rw [Option.map_eq_none_iff.mp hview.symm]
          rfl
      | some s' =>
          rw [hs] at hview
          obtain ⟨t', ht, hst'⟩ := Option.map_eq_some_iff.mp hview.symm
          rw [ht]
          exact ih hst'.symm

variable (step)

/-- `p` holds of the state and the event at every step of the run. -/
def Along (p : σ → ε → Prop) : σ → List ε → Prop
  | _, [] => True
  | s, e :: es => p s e ∧ ∀ s', step s e = some s' → Along p s' es

variable {step} {p : σ → ε → Prop}

@[simp] theorem along_nil (s : σ) : Along step p s [] := trivial

theorem along_append {s : σ} {es fs : List ε} :
    Along step p s (es ++ fs) ↔
      Along step p s es ∧ ∀ t, run step s es = some t → Along step p t fs := by
  induction es generalizing s with
  | nil => simp
  | cons e es ih =>
      simp only [List.cons_append, Along, ih, run_cons_eq_some]
      constructor
      · rintro ⟨hp, h⟩
        exact ⟨⟨hp, fun s' hs' => (h s' hs').1⟩, fun t ⟨s', hs', ht⟩ => (h s' hs').2 t ht⟩
      · rintro ⟨⟨hp, h⟩, hf⟩
        exact ⟨hp, fun s' hs' => ⟨h s' hs', fun t ht => hf t ⟨s', hs', ht⟩⟩⟩

/-- The step at any place of the run. -/
theorem along_iff {s : σ} {es : List ε} :
    Along step p s es ↔
      ∀ pre e post t, es = pre ++ e :: post → run step s pre = some t → p t e := by
  constructor
  · rintro h pre e post t rfl ht
    exact ((along_append.mp h).2 t ht).1
  · intro h
    induction es generalizing s with
    | nil => trivial
    | cons e es ih =>
        refine ⟨h [] e es s rfl rfl, fun s' hs' => ih fun pre e' post t hes ht => ?_⟩
        exact h (e :: pre) e' post t (by rw [hes]; rfl) (run_cons_eq_some.mpr ⟨s', hs', ht⟩)

theorem along_and {q : σ → ε → Prop} {s : σ} {es : List ε} :
    Along step (fun s e => p s e ∧ q s e) s es ↔ Along step p s es ∧ Along step q s es := by
  simp only [along_iff]
  constructor
  · intro h
    exact ⟨fun pre e post t hes ht => (h pre e post t hes ht).1,
      fun pre e post t hes ht => (h pre e post t hes ht).2⟩
  · rintro ⟨hp, hq⟩ pre e post t hes ht
    exact ⟨hp pre e post t hes ht, hq pre e post t hes ht⟩

/-- The invariant rule for a run along which `p` holds; a step knows that its event was read. -/
theorem run_invariant_along {I : σ → Prop} {es : List ε}
    (hstep : ∀ s, ∀ e ∈ es, ∀ s', p s e → step s e = some s' → I s → I s') {s s' : σ}
    (h : run step s es = some s') (hp : Along step p s es) (hs : I s) : I s' := by
  induction es generalizing s with
  | nil => cases h; exact hs
  | cons e es ih =>
      obtain ⟨t, ht, hrun⟩ := run_cons_eq_some.mp h
      exact ih (fun s e' he' => hstep s e' (List.mem_cons_of_mem e he')) hrun (hp.2 t ht)
        (hstep s e List.mem_cons_self t hp.1 ht hs)

/-- What holds after a step exactly if it held before and `p` holds of the step, holds after a run
exactly if it held before and `p` holds along the run. -/
theorem run_iff_along {I : σ → Prop}
    (hstep : ∀ s e s', step s e = some s' → (I s' ↔ I s ∧ p s e)) {s s' : σ} {es : List ε}
    (h : run step s es = some s') : I s' ↔ I s ∧ Along step p s es := by
  induction es generalizing s with
  | nil =>
      cases h
      simp
  | cons e es ih =>
      obtain ⟨t, ht, hrun⟩ := run_cons_eq_some.mp h
      rw [ih hrun, hstep s e t ht, and_assoc]
      refine and_congr_right fun _ => and_congr_right fun _ => ?_
      simp [ht]

/-- A run along which `p` holds is checked by running it. -/
def decideAlong [∀ s e, Decidable (p s e)] : ∀ (s : σ) (es : List ε), Decidable (Along step p s es)
  | _, [] => .isTrue trivial
  | s, e :: es =>
      match hs : step s e with
      | none => decidable_of_iff (p s e) (by simp [Along, hs])
      | some s' =>
          have := decideAlong s' es
          decidable_of_iff (p s e ∧ Along step p s' es) (by simp [Along, hs])

instance [∀ s e, Decidable (p s e)] (s : σ) (es : List ε) : Decidable (Along step p s es) :=
  decideAlong s es

variable {β : Type*} (step)

/-- What an observer of the state before each step and of the event sees along a run. -/
def outputs (obs : σ → ε → β) : σ → List ε → List β
  | _, [] => []
  | s, e :: es =>
      obs s e :: match step s e with
        | none => []
        | some s' => outputs obs s' es

variable {step}

theorem outputs_snoc (obs : σ → ε → β) {s t : σ} {es : List ε} (h : run step s es = some t)
    (e : ε) : outputs step obs s (es ++ [e]) = outputs step obs s es ++ [obs t e] := by
  induction es generalizing s with
  | nil =>
      cases h
      cases hs : step t e <;> simp [outputs, hs]
  | cons e' es ih =>
      obtain ⟨u, hu, hrun⟩ := run_cons_eq_some.mp h
      simp only [List.cons_append, outputs, hu, ih hrun]

/-- Machines that agree on the events read are observed alike. -/
theorem outputs_congr {step' : σ → ε → Option σ} {obs obs' : σ → ε → β} {es : List ε}
    (hstep : ∀ e ∈ es, ∀ s, step s e = step' s e) (hobs : ∀ e ∈ es, ∀ s, obs s e = obs' s e)
    (s : σ) : outputs step obs s es = outputs step' obs' s es := by
  induction es generalizing s with
  | nil => rfl
  | cons e es ih =>
      have ih' := ih (fun e' he' => hstep e' (List.mem_cons_of_mem e he'))
        (fun e' he' => hobs e' (List.mem_cons_of_mem e he'))
      simp only [outputs, hstep e List.mem_cons_self, hobs e List.mem_cons_self, ih']

variable (step)

/-- The number of steps of the run at which `p` holds of the state and the event. -/
def tally (p : σ → ε → Bool) (s : σ) (es : List ε) : ℕ := (outputs step p s es).count true

variable {step}

@[simp] theorem tally_nil (p : σ → ε → Bool) (s : σ) : tally step p s [] = 0 := rfl

theorem tally_snoc (p : σ → ε → Bool) {s t : σ} {es : List ε} (h : run step s es = some t)
    (e : ε) : tally step p s (es ++ [e]) = tally step p s es + if p t e then 1 else 0 := by
  rw [tally, tally, outputs_snoc p h, List.count_append]
  cases p t e <;> rfl

/-- Nothing is counted in a run exactly when `p` fails at every step of it. -/
theorem tally_eq_zero_iff {p : σ → ε → Bool} {s : σ} {es : List ε} :
    tally step p s es = 0 ↔ Along step (fun s e => p s e = false) s es := by
  induction es generalizing s with
  | nil => simp
  | cons e es ih =>
      unfold tally at ih ⊢
      rw [outputs, Along, List.count_cons, Nat.add_eq_zero_iff, and_comm]
      refine and_congr (by cases p s e <;> simp) ?_
      cases step s e with
      | none => simp
      | some t => simpa using ih

variable (step)

/-- What the steps of the run add up to, by a weight of the state before the step and the event. -/
def accrued (weight : σ → ε → ℕ) (s : σ) (es : List ε) : ℕ := (outputs step weight s es).sum

variable {step}

@[simp] theorem accrued_nil (weight : σ → ε → ℕ) (s : σ) : accrued step weight s [] = 0 := rfl

theorem accrued_snoc (weight : σ → ε → ℕ) {s t : σ} {es : List ε} (h : run step s es = some t)
    (e : ε) : accrued step weight s (es ++ [e]) = accrued step weight s es + weight t e := by
  rw [accrued, accrued, outputs_snoc weight h, List.sum_append, List.sum_singleton]

/-- What has accrued is not taken back. -/
theorem accrued_le_append (weight : σ → ε → ℕ) {s t : σ} {es fs : List ε}
    (h : run step s (es ++ fs) = some t) :
    accrued step weight s es ≤ accrued step weight s (es ++ fs) := by
  induction fs using List.reverseRecOn generalizing t with
  | nil => rw [List.append_nil]
  | append_singleton fs e ih =>
      rw [← List.append_assoc] at h ⊢
      obtain ⟨u, hu, -⟩ := run_snoc_eq_some.mp h
      rw [accrued_snoc weight hu]
      exact (ih hu).trans (Nat.le_add_right _ _)

/-! ### Machines that answer -/

section answers

variable (exec : σ → ε → Option (β × σ))

/-- The machine behind a function that answers each event. -/
def moves (s : σ) (e : ε) : Option σ := (exec s e).map Prod.snd

/-- The answers to the events of a run; `none` is the event that stops the machine. -/
def answers (s : σ) (es : List ε) : List (Option β) :=
  outputs (moves exec) (fun s e => (exec s e).map Prod.fst) s es

variable {exec}

theorem moves_eq_some {s s' : σ} {e : ε} :
    moves exec s e = some s' ↔ ∃ b, exec s e = some (b, s') := by
  rw [moves, Option.map_eq_some_iff]
  constructor
  · rintro ⟨⟨b, t⟩, h, rfl⟩
    exact ⟨b, h⟩
  · rintro ⟨b, h⟩
    exact ⟨_, h, rfl⟩

/-- **Simulation rule.**  Machines whose related states give the same answer and move to
related states give the same answers along every run, and stop together. -/
theorem answers_simulation {τ : Type*} {exec' : τ → ε → Option (β × τ)} {R : σ → τ → Prop}
    (h : ∀ s t e, R s t →
      Option.Rel (fun x y => x.1 = y.1 ∧ R x.2 y.2) (exec s e) (exec' t e))
    {s : σ} {t : τ} (hR : R s t) (es : List ε) :
    answers exec s es = answers exec' t es ∧
      Option.Rel R (run (moves exec) s es) (run (moves exec') t es) := by
  induction es generalizing s t with
  | nil => exact ⟨rfl, .some hR⟩
  | cons e es ih =>
      have he := h s t e hR
      unfold answers at ih ⊢
      rw [outputs, outputs, run_cons, run_cons, moves, moves]
      generalize exec s e = x at he ⊢
      generalize exec' t e = y at he ⊢
      cases he with
      | none => exact ⟨rfl, .none⟩
      | @some x y hxy =>
          obtain ⟨hanswer, hnext⟩ := hxy
          obtain ⟨hanswers, hrun⟩ := ih hnext
          refine ⟨?_, hrun⟩
          simp only [Option.map_some, hanswer, hanswers]

end answers

end Machine
