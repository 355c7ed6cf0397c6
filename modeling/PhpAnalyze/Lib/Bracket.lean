import Mathlib.Data.List.Basic
import Mathlib.Data.List.Induction
import Mathlib.Data.Nat.Notation

/-! # Bracket matching on event lists

A sequence of events some of which open and some of which close a bracket.  A position in
the sequence is named by the events before it, so an opening is a pair `(pre, b)`: the
event `b`, read after the events `pre`.  `opens mark es` is the stack of the openings of
`es` that are still open, the most recent one first; a closing event read after `es`
matches the head of `opens mark es`.  `WellNested mark es` says that every closing event
of `es` has an opening to match. -/

namespace Bracket

inductive Mark where
  | opening
  | closing
  | neutral
deriving DecidableEq, Repr

variable {ε : Type*} (mark : ε → Mark)

/-- The stack of openings after one more event. -/
def advance (pre : List ε) (e : ε) (stk : List (List ε × ε)) : List (List ε × ε) :=
  match mark e with
  | .opening => (pre, e) :: stk
  | .closing => stk.tail
  | .neutral => stk

def opensFrom : List ε → List (List ε × ε) → List ε → List (List ε × ε)
  | _, stk, [] => stk
  | pre, stk, e :: es => opensFrom (pre ++ [e]) (advance mark pre e stk) es

/-- The openings that are still open after `es`, the most recent one first. -/
def opens (es : List ε) : List (List ε × ε) := opensFrom mark [] [] es

theorem opensFrom_append (pre : List ε) (stk : List (List ε × ε)) (es fs : List ε) :
    opensFrom mark pre stk (es ++ fs) =
      opensFrom mark (pre ++ es) (opensFrom mark pre stk es) fs := by
  induction es generalizing pre stk with
  | nil => simp [opensFrom]
  | cons e es ih => simp [opensFrom, ih]

@[simp] theorem opens_nil : opens mark [] = [] := rfl

theorem opens_snoc (es : List ε) (e : ε) :
    opens mark (es ++ [e]) = advance mark es e (opens mark es) := by
  simp [opens, opensFrom_append, opensFrom]

variable {mark}

theorem opens_opening {e : ε} (h : mark e = .opening) (es : List ε) :
    opens mark (es ++ [e]) = (es, e) :: opens mark es := by
  simp [opens_snoc, advance, h]

theorem opens_closing {e : ε} (h : mark e = .closing) (es : List ε) :
    opens mark (es ++ [e]) = (opens mark es).tail := by
  simp [opens_snoc, advance, h]

theorem opens_neutral {e : ε} (h : mark e = .neutral) (es : List ε) :
    opens mark (es ++ [e]) = opens mark es := by
  simp [opens_snoc, advance, h]

/-- An event opens at most one bracket. -/
theorem length_opens_le (es : List ε) : (opens mark es).length ≤ es.length := by
  induction es using List.reverseRecOn with
  | nil => exact Nat.le_refl 0
  | append_singleton es e ih =>
      rw [List.length_append, List.length_singleton]
      cases hm : mark e with
      | opening =>
          rw [opens_opening hm, List.length_cons]
          exact Nat.succ_le_succ ih
      | closing =>
          rw [opens_closing hm, List.length_tail]
          omega
      | neutral =>
          rw [opens_neutral hm]
          exact Nat.le_succ_of_le ih

theorem length_opens_replicate {e : ε} (h : mark e = .opening) (n : ℕ) :
    (opens mark (List.replicate n e)).length = n := by
  induction n with
  | zero => rfl
  | succ n ih => rw [List.replicate_succ', opens_opening h, List.length_cons, ih]

/-- The two ways to name a position of a sequence that ends in `e`. -/
theorem snoc_eq_append_cons {es pre post : List ε} {e x : ε} :
    es ++ [e] = pre ++ x :: post ↔
      (es = pre ∧ e = x ∧ post = []) ∨ ∃ post', post = post' ++ [e] ∧ es = pre ++ x :: post' := by
  constructor
  · intro h
    induction post using List.reverseRecOn with
    | nil =>
        obtain ⟨h1, h2⟩ := List.append_inj' h rfl
        exact .inl ⟨h1, List.singleton_inj.mp h2, rfl⟩
    | append_singleton post' y =>
        rw [← List.cons_append, ← List.append_assoc] at h
        obtain ⟨h1, h2⟩ := List.append_inj' h rfl
        exact .inr ⟨post', by rw [List.singleton_inj.mp h2], h1⟩
  · rintro (⟨rfl, rfl, rfl⟩ | ⟨post', rfl, rfl⟩) <;> simp

/-- A bracket that is open after `p` and no longer open after `p ++ q` is closed by an
event of `q`, and just before that event it is again the innermost open bracket. -/
theorem exists_match {o : List ε × ε} {rest : List (List ε × ε)} (q : List ε) :
    ∀ (p : List ε) (os : List (List ε × ε)), opens mark p = os ++ o :: rest →
      opens mark (p ++ q) = [] →
      ∃ q₁ x q₂, q = q₁ ++ x :: q₂ ∧ mark x = .closing ∧ opens mark (p ++ q₁) = o :: rest := by
  induction q with
  | nil =>
      intro p os hp hq
      simp [hp] at hq
  | cons e q ih =>
      intro p os hp hq
      rw [List.append_cons] at hq
      have shift : ∀ os', opens mark (p ++ [e]) = os' ++ o :: rest →
          ∃ q₁ x q₂, e :: q = q₁ ++ x :: q₂ ∧ mark x = .closing ∧
            opens mark (p ++ q₁) = o :: rest := by
        intro os' h
        obtain ⟨q₁, x, q₂, rfl, hx, ho⟩ := ih (p ++ [e]) os' h hq
        exact ⟨e :: q₁, x, q₂, rfl, hx, by rw [← ho, ← List.append_cons]⟩
      cases hm : mark e with
      | opening => exact shift ((p, e) :: os) (by rw [opens_opening hm, hp]; rfl)
      | neutral => exact shift os (by rw [opens_neutral hm, hp])
      | closing =>
          cases os with
          | nil => exact ⟨[], e, q, rfl, hm, by simpa using hp⟩
          | cons o' os => exact shift os (by rw [opens_closing hm, hp]; rfl)

variable (mark)

/-- Every closing event has an opening to match. -/
def WellNested (es : List ε) : Prop :=
  ∀ pre x post, es = pre ++ x :: post → mark x = .closing → opens mark pre ≠ []

variable {mark}

theorem wellNested_snoc {es : List ε} {e : ε} :
    WellNested mark (es ++ [e]) ↔
      WellNested mark es ∧ (mark e = .closing → opens mark es ≠ []) := by
  constructor
  · intro h
    refine ⟨fun pre x post he hx => ?_, h es e [] rfl⟩
    exact h pre x (post ++ [e]) (by simp [he]) hx
  · rintro ⟨h, he⟩ pre x post heq hx
    rcases snoc_eq_append_cons.mp heq with ⟨rfl, rfl, -⟩ | ⟨post', -, rfl⟩
    · exact he hx
    · exact h pre x post' rfl hx

theorem WellNested.prefix {es fs : List ε} (h : WellNested mark (es ++ fs)) :
    WellNested mark es := by
  intro pre x post he hx
  exact h pre x (post ++ fs) (by simp [he]) hx

variable (mark)

/-- Nesting by counting the open brackets. -/
def nested : ℕ → List ε → Bool
  | _, [] => true
  | n, e :: es =>
      match mark e with
      | .opening => nested (n + 1) es
      | .closing => n != 0 && nested (n - 1) es
      | .neutral => nested n es

variable {mark}

theorem nested_iff (es : List ε) : ∀ p : List ε,
    (nested mark (opens mark p).length es = true ↔
      ∀ pre x post, es = pre ++ x :: post → mark x = .closing → opens mark (p ++ pre) ≠ []) := by
  induction es with
  | nil => simp [nested]
  | cons e es ih =>
      intro p
      have hsplit : (∀ pre x post, e :: es = pre ++ x :: post → mark x = .closing →
            opens mark (p ++ pre) ≠ []) ↔
          (mark e = .closing → opens mark p ≠ []) ∧
            ∀ pre x post, es = pre ++ x :: post → mark x = .closing →
              opens mark ((p ++ [e]) ++ pre) ≠ [] := by
        constructor
        · intro h
          refine ⟨fun he => by simpa using h [] e es rfl he, fun pre x post hes hx => ?_⟩
          have := h (e :: pre) x post (by rw [hes]; rfl) hx
          rwa [List.append_cons] at this
        · rintro ⟨he, h⟩ pre x post heq hx
          cases pre with
          | nil =>
              obtain ⟨rfl, -⟩ := List.cons.inj heq
              simpa using he hx
          | cons y pre =>
              obtain ⟨rfl, hes⟩ := List.cons.inj heq
              rw [List.append_cons]
              exact h pre x post hes hx
      rw [hsplit, ← ih (p ++ [e])]
      cases hm : mark e with
      | opening => simp [nested, hm, opens_opening hm]
      | neutral => simp [nested, hm, opens_neutral hm]
      | closing => simp [nested, hm, opens_closing hm]

/-- Nesting is decided by counting. -/
theorem wellNested_iff_nested {es : List ε} : WellNested mark es ↔ nested mark 0 es = true :=
  (nested_iff es []).symm

instance (es : List ε) : Decidable (WellNested mark es) :=
  decidable_of_iff _ wellNested_iff_nested.symm

end Bracket
