import PhpAnalyze.Lib.Machine

/-! # Refinement

A machine refines another one when each of its steps is matched by a run of the other, between
the abstractions of the two states.  Its runs are then matched by runs (`run_matched`); what one
counts along them the other counts (`tally_matched`), and what holds along the one holds along the
other (`along_matched`). -/

namespace Machine

variable {σ τ ε φ : Type*}

/-- Every step is matched by the run `trace s e` of the other machine. -/
def Refines (step : σ → ε → Option σ) (step' : τ → φ → Option τ) (abs : σ → τ)
    (trace : σ → ε → List φ) : Prop :=
  ∀ s e s', step s e = some s' → run step' (abs s) (trace s e) = some (abs s')

/-- The events of the other machine that match the run. -/
def matched (step : σ → ε → Option σ) (trace : σ → ε → List φ) (s : σ) (es : List ε) : List φ :=
  (outputs step trace s es).flatten

variable {step : σ → ε → Option σ} {step' : τ → φ → Option τ} {abs : σ → τ}
  {trace : σ → ε → List φ} {s t : σ} {es : List ε}

theorem matched_snoc (h : run step s es = some t) (e : ε) :
    matched step trace s (es ++ [e]) = matched step trace s es ++ trace t e := by
  unfold matched
  rw [outputs_snoc trace h, List.flatten_append, List.flatten_singleton]

theorem tally_append {p : σ → ε → Bool} {fs : List ε} (h : run step s es = some t) :
    tally step p s (es ++ fs) = tally step p s es + tally step p t fs := by
  induction es generalizing s with
  | nil =>
      cases h
      simp
  | cons e es ih =>
      obtain ⟨u, hu, hrun⟩ := run_cons_eq_some.mp h
      have ih' := ih hrun
      unfold tally at ih' ⊢
      simp only [List.cons_append, outputs, hu, List.count_cons, ih']
      omega

@[simp] theorem tally_singleton (p : σ → ε → Bool) (s : σ) (e : ε) :
    tally step p s [e] = if p s e then 1 else 0 := by
  have h := tally_snoc p (run_nil step s) e
  rwa [tally_nil, Nat.zero_add] at h

theorem along_of_forall {p : σ → ε → Prop} (h : ∀ e ∈ es, ∀ s, p s e) : Along step p s es := by
  refine along_iff.mpr fun pre e post t hes _ => h e ?_ t
  rw [hes]
  exact List.mem_append_right _ List.mem_cons_self

theorem Refines.run_matched (h : Refines step step' abs trace) (hrun : run step s es = some t) :
    run step' (abs s) (matched step trace s es) = some (abs t) := by
  refine run_induction (P := fun es t => run step' (abs s) (matched step trace s es) =
    some (abs t)) rfl ?_ hrun
  intro es t e t' hpre ih hstep
  rw [matched_snoc hpre]
  exact run_append_eq_some.mpr ⟨abs t, ih, h t e t' hstep⟩

theorem Refines.tally_matched (h : Refines step step' abs trace) {p : σ → ε → Bool}
    {p' : τ → φ → Bool}
    (hp : ∀ s e s', step s e = some s' →
      tally step' p' (abs s) (trace s e) = if p s e then 1 else 0)
    (hrun : run step s es = some t) :
    tally step' p' (abs s) (matched step trace s es) = tally step p s es := by
  refine run_induction (P := fun es _ => tally step' p' (abs s) (matched step trace s es) =
    tally step p s es) rfl ?_ hrun
  intro es t e t' hpre ih hstep
  rw [matched_snoc hpre, tally_append (h.run_matched hpre), tally_snoc p hpre, ih,
    hp t e t' hstep]

theorem Refines.along_matched (h : Refines step step' abs trace) {p : σ → ε → Prop}
    {p' : τ → φ → Prop}
    (hp : ∀ s e s', step s e = some s' → p s e → Along step' p' (abs s) (trace s e))
    (hrun : run step s es = some t) (halong : Along step p s es) :
    Along step' p' (abs s) (matched step trace s es) := by
  refine run_induction (P := fun es _ => Along step p s es →
    Along step' p' (abs s) (matched step trace s es)) (fun _ => trivial) ?_ hrun halong
  intro es t e t' hpre ih hstep halong
  obtain ⟨hbefore, hthis⟩ := along_append.mp halong
  rw [matched_snoc hpre]
  refine along_append.mpr ⟨ih hbefore, fun u hu => ?_⟩
  rw [h.run_matched hpre] at hu
  cases hu
  exact hp t e t' hstep (hthis t hpre).1

end Machine
