import PhpAnalyze.Recorder

/-! # The lazy path simulates the owning path

On a call site where the two categorisers denote the same function the two begin paths run
the same plan (`plan_eq`), so they make the same step from every state
(`stepOn_owning_eq_lazy`), and runs on such call sites are equal step by step
(`lazy_simulates_owning`). -/

namespace PhpAnalyze

open Machine

/-- Send every begin down one path. -/
def Event.onPath (path : BeginPath) : Event → Event
  | .beginCall _ site entry => .beginCall path site entry
  | e => e

/-- Every begin is at a call site with a reported name or at a nameless closure. -/
def Event.SiteOk : Event → Prop
  | .beginCall _ site _ => site.NamedOrClosure
  | _ => True

instance : ∀ e : Event, Decidable e.SiteOk
  | .beginCall _ site _ => inferInstanceAs (Decidable site.NamedOrClosure)
  | .endCall _ _ _ => .isTrue trivial
  | .budget _ => .isTrue trivial

theorem BeginPlan.ext_data {p q : BeginPlan} (hkey : p.keyRef = q.keyRef)
    (hcost : p.missCost = q.missCost) (hbuild : p.build = q.build) : p = q := by
  cases p
  cases q
  cases hkey
  cases hcost
  cases hbuild
  rfl

theorem SameFunction.plan_eq {lazy : LazyCategorised} {categorised : Categorised}
    (h : SameFunction lazy categorised) : lazy.plan = categorised.plan := by
  obtain ⟨hkey, hkind, hfqn, hfile, hline⟩ := h
  apply BeginPlan.ext_data
  · simp [LazyCategorised.plan, Categorised.plan, ← hkey]
  · simp only [LazyCategorised.plan, Categorised.plan, FqnSpec.renderLen_eq, hfqn, hfile]
  · funext fnId
    simp only [LazyCategorised.plan, Categorised.plan, hkey, hkind, hfqn, hfile, hline]

theorem plan_lazy_eq_owning {site : RawCallSite} (h : site.NamedOrClosure) :
    BeginPath.lazy.plan site = BeginPath.owning.plan site :=
  (sameFunction_of_namedOrClosure h).plan_eq

namespace Recorder

def stepOn (path : BeginPath) (r : Recorder) (e : Event) : Option Recorder :=
  r.step (e.onPath path)

/-- The decision of the gates on a begin, `none` on the other events. -/
def decision (path : BeginPath) (r : Recorder) : Event → Option Bool
  | .beginCall _ site _ => some (r.accepts path site)
  | _ => none

/-- An observer that sees the decision and the whole state after each step. -/
def watch (path : BeginPath) (r : Recorder) (e : Event) : Option Bool × Option Recorder :=
  (r.decision path e, r.stepOn path e)

theorem stepOn_owning_eq_lazy {e : Event} (he : e.SiteOk) (r : Recorder) :
    r.stepOn .owning e = r.stepOn .lazy e := by
  cases e with
  | beginCall path site entry =>
      simp only [stepOn, Event.onPath, step, beginOn_eq, plan_lazy_eq_owning he]
  | endCall => rfl
  | budget => rfl

theorem decision_owning_eq_lazy {e : Event} (he : e.SiteOk) (r : Recorder) :
    r.decision .owning e = r.decision .lazy e := by
  cases e with
  | beginCall path site entry => simp only [decision, accepts, plan_lazy_eq_owning he]
  | endCall => rfl
  | budget => rfl

/-- **The zero-allocation path simulates the owning path**: from any state and for any
events whose call sites are named or closures, every decision and every state (trace,
process-wide state and batches handed off) is the same after each step. -/
theorem lazy_simulates_owning (r : Recorder) (es : List Event) (hes : ∀ e ∈ es, e.SiteOk) :
    outputs (stepOn .owning) (watch .owning) r es = outputs (stepOn .lazy) (watch .lazy) r es ∧
      run (stepOn .owning) r es = run (stepOn .lazy) r es := by
  have hstep : ∀ e ∈ es, ∀ r : Recorder, r.stepOn .owning e = r.stepOn .lazy e :=
    fun e he r => stepOn_owning_eq_lazy (hes e he) r
  refine ⟨outputs_congr hstep (fun e he r => ?_) r, run_congr hstep r⟩
  rw [watch, watch, stepOn_owning_eq_lazy (hes e he), decision_owning_eq_lazy (hes e he)]

/-- A recursive function with a closure inside, on both paths. -/
theorem lazy_simulates_owning_nested :
    outputs (stepOn .owning) (watch .owning) (start Shared.init (rinitWith ⟨8, 4096, 2, 4096⟩))
        [beginOf "f" 1, beginOf "\x7bclosure\x7d" 2, endAt 3, beginOf "f" 4, endAt 5, endAt 6] =
      outputs (stepOn .lazy) (watch .lazy) (start Shared.init (rinitWith ⟨8, 4096, 2, 4096⟩))
        [beginOf "f" 1, beginOf "\x7bclosure\x7d" 2, endAt 3, beginOf "f" 4, endAt 5, endAt 6] :=
  (lazy_simulates_owning _ _ (by decide)).1

end Recorder

end PhpAnalyze
