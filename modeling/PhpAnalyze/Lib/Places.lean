import Mathlib.Algebra.BigOperators.Group.Finset.Basic
import Mathlib.Data.Fintype.BigOperators

/-! # A quantity spread over places

Finitely many places hold a value each, and `weigh` says how much of a quantity a value
holds.  `total weigh f` is the sum over the places.  When one place changes, what the total
gains is what the place gains (`total_update`); that is all that a conservation proof needs
to know about the other places. -/

namespace Places

open Function

variable {ι α : Type*} [Fintype ι] (weigh : α → ℕ)

/-- The quantity over all places. -/
def total (f : ι → α) : ℕ := ∑ i, weigh (f i)

/-- One place and the rest. -/
theorem total_eq_add [DecidableEq ι] (f : ι → α) (i : ι) :
    total weigh f = weigh (f i) + ∑ j ∈ Finset.univ.erase i, weigh (f j) :=
  (Finset.add_sum_erase _ (fun j => weigh (f j)) (Finset.mem_univ i)).symm

theorem weigh_le_total [DecidableEq ι] (f : ι → α) (i : ι) : weigh (f i) ≤ total weigh f := by
  rw [total_eq_add weigh f i]
  exact Nat.le_add_right _ _

theorem total_update [DecidableEq ι] (f : ι → α) (i : ι) (x : α) :
    total weigh (update f i x) + weigh (f i) = total weigh f + weigh x := by
  have hrest : ∑ j ∈ Finset.univ.erase i, weigh (update f i x j) =
      ∑ j ∈ Finset.univ.erase i, weigh (f j) := by
    refine Finset.sum_congr rfl fun j hj => ?_
    rw [update_of_ne (Finset.ne_of_mem_erase hj)]
  rw [total_eq_add weigh (update f i x) i, total_eq_add weigh f i, hrest, update_self]
  omega

theorem total_eq_zero {f : ι → α} (h : ∀ i, weigh (f i) = 0) : total weigh f = 0 :=
  Finset.sum_eq_zero fun i _ => h i

end Places
