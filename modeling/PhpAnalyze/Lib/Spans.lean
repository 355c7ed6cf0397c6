import Mathlib.Algebra.BigOperators.Group.List.Basic
import Mathlib.Algebra.Order.Group.Defs
import Mathlib.Algebra.Order.Group.Basic
import Mathlib.Algebra.Order.Sub.Defs
import Mathlib.Data.List.Nodup
import Mathlib.Data.Nat.Notation

/-! # Spans of a call stack

A span opens on top of the stack, with the span below as its parent, and only the top span
closes.  The clock advances in between.  `Recording` derives what can be recorded so; the
readings are in any ordered group, wall time and consumed processor time alike.

The invariant is a walk down the stack (`Bounded`): what the children of an open span have
used ends where the open span above it starts.  From it (`Recording.inside`, `.disjoint`,
`.childCost_le`): a span lies inside its parent, the children of one parent follow each
other, and together they cost no more than the parent. -/

namespace Spans

variable {τ : Type*}

structure OpenSpan (τ : Type*) where
  id : ℕ
  parent : ℕ
  start : τ

structure Span (τ : Type*) where
  id : ℕ
  parent : ℕ
  start : τ
  stop : τ

/-- The parent of a span opened on this stack; `0` on the empty one. -/
def topId : List (OpenSpan τ) → ℕ
  | [] => 0
  | o :: _ => o.id

def OpenSpan.close (o : OpenSpan τ) (now : τ) : Span τ where
  id := o.id
  parent := o.parent
  start := o.start
  stop := now

/-- The parent of every open span is the span below it. -/
def Chained : List (OpenSpan τ) → Prop
  | [] => True
  | o :: opened => o.parent = topId opened ∧ Chained opened

section recording

variable [LinearOrder τ]

/-- The spans closed so far (in closing order), the stack (top first), the last id and the
clock. -/
inductive Recording : List (Span τ) → List (OpenSpan τ) → ℕ → τ → Prop
  | start (now : τ) : Recording [] [] 0 now
  | advance {closed opened last now now'} (h : Recording closed opened last now)
      (hle : now ≤ now') : Recording closed opened last now'
  | push {closed opened last now} (h : Recording closed opened last now) :
      Recording closed (⟨last + 1, topId opened, now⟩ :: opened) (last + 1) now
  | pop {closed o opened last now} (h : Recording closed (o :: opened) last now) :
      Recording (closed ++ [o.close now]) opened last now

theorem Recording.popAll {closed : List (Span τ)} {opened : List (OpenSpan τ)} {last : ℕ} {now : τ}
    (h : Recording closed opened last now) :
    Recording (closed ++ opened.map fun o => o.close now) [] last now := by
  induction opened generalizing closed with
  | nil => simpa using h
  | cons o opened ih =>
      have hpop := ih h.pop
      rwa [List.append_assoc] at hpop

end recording

section cost

variable [AddCommGroup τ]

def Span.cost (s : Span τ) : τ := s.stop - s.start

/-- What the closed children of a parent used. -/
def childCost (closed : List (Span τ)) (parent : ℕ) : τ :=
  ((closed.filter fun s => s.parent = parent).map Span.cost).sum

theorem childCost_snoc (closed : List (Span τ)) (s : Span τ) (parent : ℕ) :
    childCost (closed ++ [s]) parent =
      childCost closed parent + if s.parent = parent then s.cost else 0 := by
  unfold childCost
  rw [List.filter_append, List.map_append, List.sum_append]
  by_cases h : s.parent = parent <;> simp [h]

theorem childCost_snoc_of_ne {closed : List (Span τ)} {s : Span τ} {parent : ℕ}
    (h : s.parent ≠ parent) : childCost (closed ++ [s]) parent = childCost closed parent := by
  rw [childCost_snoc, if_neg h, add_zero]

theorem childCost_eq_zero {closed : List (Span τ)} {parent : ℕ}
    (h : ∀ s ∈ closed, s.parent ≠ parent) : childCost closed parent = 0 := by
  have hnil : closed.filter (fun s => s.parent = parent) = [] := by
    rw [List.filter_eq_nil_iff]
    exact fun s hs => by simpa using h s hs
  rw [childCost, hnil]
  rfl

end cost

variable [AddCommGroup τ] [LinearOrder τ]

/-- The closed children of an open span lie between its start and the bound. -/
structure Holds (closed : List (Span τ)) (o : OpenSpan τ) (bound : τ) : Prop where
  le : o.start ≤ bound
  inside : ∀ s ∈ closed, s.parent = o.id → o.start ≤ s.start ∧ s.stop ≤ bound
  cost : childCost closed o.id ≤ bound - o.start

/-- Down the stack, each open span holds its closed children up to the start of the span
above it; under the last one are the roots. -/
def Bounded (closed : List (Span τ)) : τ → List (OpenSpan τ) → Prop
  | bound, [] => ∀ s ∈ closed, s.parent = 0 → s.stop ≤ bound
  | bound, o :: opened => Holds closed o bound ∧ Bounded closed o.start opened

variable {closed : List (Span τ)} {opened : List (OpenSpan τ)} {o : OpenSpan τ} {last : ℕ}
  {now bound : τ}

theorem Bounded.mono [IsOrderedAddMonoid τ] (h : Bounded closed bound opened) {bound' : τ}
    (hle : bound ≤ bound') : Bounded closed bound' opened := by
  cases opened with
  | nil => exact fun s hs h0 => (h s hs h0).trans hle
  | cons o opened =>
      obtain ⟨⟨hstart, hinside, hcost⟩, hrest⟩ := h
      refine ⟨⟨hstart.trans hle, fun s hs hp => ?_, hcost.trans (sub_le_sub_right hle _)⟩, hrest⟩
      exact ⟨(hinside s hs hp).1, (hinside s hs hp).2.trans hle⟩

theorem Bounded.snoc_of_not_mem (h : Bounded closed bound opened) {s : Span τ}
    (hroot : s.parent ≠ 0) (hparent : ∀ o ∈ opened, s.parent ≠ o.id) :
    Bounded (closed ++ [s]) bound opened := by
  induction opened generalizing bound with
  | nil =>
      intro s' hs' h0
      rcases List.mem_append.mp hs' with hold | hnew
      · exact h s' hold h0
      · rw [List.mem_singleton.mp hnew] at h0
        exact absurd h0 hroot
  | cons o opened ih =>
      obtain ⟨⟨hstart, hinside, hcost⟩, hrest⟩ := h
      have hne := hparent o List.mem_cons_self
      refine ⟨⟨hstart, fun s' hs' hp => ?_, ?_⟩,
        ih hrest fun o' ho' => hparent o' (List.mem_cons_of_mem _ ho')⟩
      · rcases List.mem_append.mp hs' with hold | hnew
        · exact hinside s' hold hp
        · rw [List.mem_singleton.mp hnew] at hp
          exact absurd hp hne
      · rw [childCost_snoc_of_ne hne]
        exact hcost

/-- The children of the top span, or the roots, have stopped at the bound. -/
theorem Bounded.stop_le (h : Bounded closed bound opened) {s : Span τ} (hs : s ∈ closed)
    (hparent : s.parent = topId opened) : s.stop ≤ bound := by
  cases opened with
  | nil => exact h s hs hparent
  | cons o opened => exact (h.1.inside s hs hparent).2

/-- The invariant of a recording. -/
structure Nested (closed : List (Span τ)) (opened : List (OpenSpan τ)) (last : ℕ) (now : τ) :
    Prop where
  ids : (closed.map Span.id ++ opened.map OpenSpan.id).Nodup
  range : ∀ i ∈ closed.map Span.id ++ opened.map OpenSpan.id, 0 < i ∧ i ≤ last
  parents : ∀ s ∈ closed, s.parent ≤ last
  chained : Chained opened
  bounded : Bounded closed now opened
  forward : ∀ s ∈ closed, s.start ≤ s.stop
  inside : ∀ s ∈ closed, ∀ p ∈ closed, s.parent = p.id → p.start ≤ s.start ∧ s.stop ≤ p.stop
  disjoint : closed.Pairwise fun a b => a.parent = b.parent → a.stop ≤ b.start
  childCost_le : ∀ p ∈ closed, childCost closed p.id ≤ p.cost

theorem Nested.id_pos (h : Nested closed opened last now) (ho : o ∈ opened) :
    0 < o.id ∧ o.id ≤ last :=
  h.range o.id (List.mem_append_right _ (List.mem_map_of_mem ho))

/-- The parent of the top span is neither itself nor a closed span. -/
theorem Nested.topId_below (h : Nested closed (o :: opened) last now) :
    topId opened ≤ last ∧ topId opened ≠ o.id ∧ ∀ p ∈ closed, topId opened ≠ p.id := by
  obtain ⟨-, hnodup, hdisj⟩ := List.nodup_append.mp h.ids
  cases opened with
  | nil =>
      refine ⟨Nat.zero_le last, (h.id_pos List.mem_cons_self).1.ne, fun p hp => ?_⟩
      exact (h.range p.id (List.mem_append_left _ (List.mem_map_of_mem hp))).1.ne
  | cons q opened =>
      refine ⟨(h.id_pos (List.mem_cons_of_mem _ List.mem_cons_self)).2, fun heq => ?_,
        fun p hp heq => ?_⟩
      · exact (List.nodup_cons.mp hnodup).1 (heq ▸ List.mem_cons_self)
      · exact hdisj p.id (List.mem_map_of_mem hp) q.id
          (List.mem_cons_of_mem _ List.mem_cons_self) heq.symm

theorem Nested.push (h : Nested closed opened last now) :
    Nested closed (⟨last + 1, topId opened, now⟩ :: opened) (last + 1) now := by
  have hfresh : ∀ i ∈ closed.map Span.id ++ opened.map OpenSpan.id, i ≠ last + 1 :=
    fun i hi => (Nat.lt_succ_of_le (h.range i hi).2).ne
  have hchildless : ∀ s ∈ closed, s.parent ≠ last + 1 :=
    fun s hs => (Nat.lt_succ_of_le (h.parents s hs)).ne
  refine ⟨?_, ?_, fun s hs => (h.parents s hs).trans (Nat.le_succ last), ⟨rfl, h.chained⟩,
    ⟨⟨le_rfl, fun s hs hp => absurd hp (hchildless s hs), ?_⟩, h.bounded⟩, h.forward, h.inside,
    h.disjoint, h.childCost_le⟩
  · rw [List.map_cons, List.nodup_middle, List.nodup_cons]
    exact ⟨fun hmem => hfresh _ hmem rfl, h.ids⟩
  · intro i hi
    rw [List.map_cons] at hi
    rcases List.mem_cons.mp (List.perm_middle.mem_iff.mp hi) with rfl | hold
    · exact ⟨Nat.succ_pos last, le_rfl⟩
    · exact (h.range i hold).imp_right Nat.le_succ_of_le
  · rw [childCost_eq_zero hchildless, sub_self]

variable [IsOrderedAddMonoid τ]

/-- The top span closes: it becomes a child of the span below. -/
theorem Bounded.pop (h : Bounded closed now (o :: opened)) (hparent : o.parent = topId opened)
    (hnodup : (opened.map OpenSpan.id).Nodup) (hpos : ∀ o' ∈ opened, 0 < o'.id) :
    Bounded (closed ++ [o.close now]) now opened := by
  obtain ⟨⟨hstart, -, -⟩, hrest⟩ := h
  cases opened with
  | nil =>
      intro s hs hroot
      rcases List.mem_append.mp hs with hold | hnew
      · exact (hrest s hold hroot).trans hstart
      · rw [List.mem_singleton.mp hnew]
        exact le_rfl
  | cons q opened =>
      obtain ⟨⟨hq, hinside, hcost⟩, hbelow⟩ := hrest
      rw [List.map_cons, List.nodup_cons] at hnodup
      have hne : (o.close now).parent ≠ 0 := by
        show o.parent ≠ 0
        rw [hparent]
        exact (hpos q List.mem_cons_self).ne'
      refine ⟨⟨hq.trans hstart, fun s hs hp => ?_, ?_⟩, hbelow.snoc_of_not_mem hne ?_⟩
      · rcases List.mem_append.mp hs with hold | hnew
        · exact ⟨(hinside s hold hp).1, (hinside s hold hp).2.trans hstart⟩
        · rw [List.mem_singleton.mp hnew]
          exact ⟨hq, le_rfl⟩
      · calc childCost (closed ++ [o.close now]) q.id
            = childCost closed q.id + (now - o.start) := by
              rw [childCost_snoc, if_pos (show (o.close now).parent = q.id from hparent)]
              rfl
          _ ≤ (o.start - q.start) + (now - o.start) := add_le_add_left hcost _
          _ = now - q.start := by rw [add_comm, sub_add_sub_cancel]
      · intro o' ho' heq
        refine hnodup.1 ?_
        rw [show q.id = o'.id from hparent.symm.trans heq]
        exact List.mem_map_of_mem ho'

theorem Nested.pop (h : Nested closed (o :: opened) last now) :
    Nested (closed ++ [o.close now]) opened last now := by
  have hids : (closed ++ [o.close now]).map Span.id ++ opened.map OpenSpan.id =
      closed.map Span.id ++ (o :: opened).map OpenSpan.id := by
    rw [List.map_append, List.append_assoc]
    rfl
  have hparent : (o.close now).parent = topId opened := h.chained.1
  obtain ⟨hlast, hchild, hold⟩ := h.topId_below
  rw [← hparent] at hlast hchild hold
  obtain ⟨⟨hstart, hinside, hcost⟩, hrest⟩ := h.bounded
  refine ⟨hids ▸ h.ids, fun i hi => h.range i (hids ▸ hi), ?_, h.chained.2,
    h.bounded.pop hparent ?_ ?_, ?_, ?_, ?_, ?_⟩
  · intro s hs
    rcases List.mem_append.mp hs with hs | hs
    · exact h.parents s hs
    · rw [List.mem_singleton.mp hs]
      exact hlast
  · exact (List.nodup_cons.mp (List.nodup_append.mp h.ids).2.1).2
  · exact fun o' ho' => (h.id_pos (List.mem_cons_of_mem _ ho')).1
  · intro s hs
    rcases List.mem_append.mp hs with hs | hs
    · exact h.forward s hs
    · rw [List.mem_singleton.mp hs]
      exact hstart
  · intro s hs p hp heq
    rcases List.mem_append.mp hs with hs | hs <;> rcases List.mem_append.mp hp with hp | hp
    · exact h.inside s hs p hp heq
    · rw [List.mem_singleton.mp hp] at heq ⊢
      exact hinside s hs heq
    · rw [List.mem_singleton.mp hs] at heq
      exact absurd heq (hold p hp)
    · rw [List.mem_singleton.mp hs, List.mem_singleton.mp hp] at heq
      exact absurd heq hchild
  · refine List.pairwise_append.mpr ⟨h.disjoint, List.pairwise_singleton _ _, ?_⟩
    intro a ha b hb heq
    rw [List.mem_singleton.mp hb] at heq ⊢
    exact hrest.stop_le ha (heq.trans hparent)
  · intro p hp
    rcases List.mem_append.mp hp with hp | hp
    · rw [childCost_snoc_of_ne (hold p hp)]
      exact h.childCost_le p hp
    · rw [List.mem_singleton.mp hp, show (o.close now).id = o.id from rfl,
        childCost_snoc_of_ne hchild]
      exact hcost

/-- **Every recording is nested.** -/
theorem Recording.nested (h : Recording closed opened last now) :
    Nested closed opened last now := by
  induction h with
  | start now =>
      constructor
      all_goals simp [Chained, Bounded]
  | advance _ hle ih => exact { ih with bounded := ih.bounded.mono hle }
  | push _ ih => exact ih.push
  | pop _ ih => exact ih.pop

end Spans
