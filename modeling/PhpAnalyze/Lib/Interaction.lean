import Mathlib.Data.Nat.Notation
import Mathlib.Order.Lattice.Nat
import Mathlib.Tactic.TypeStar

/-! # Programs that ask their environment

A `Program` is a finite tree: it returns, or asks a question and goes on by the answer.  What
it calls a closure or reads from shared memory for is a question, so that nothing is assumed
of the environment but the type of its answers.

`Follows p turns q`: the program `p` has asked the questions of `turns`, got the answers
there, and is now `q`.  A log of turns that ends in a result is one complete run.

`Within n p`: whatever the answers are, `p` asks at most `n` questions. -/

namespace Interaction

/-- A program over the questions `Q`; the answer to `q` is an `A q`. -/
inductive Program (Q : Type) (A : Q → Type) (ρ : Type) where
  | ret (result : ρ)
  | ask (q : Q) (next : A q → Program Q A ρ)

variable {Q : Type} {A : Q → Type} {ρ : Type}

/-- A question with its answer. -/
abbrev Turn (A : Q → Type) := (q : Q) × A q

inductive Follows : Program Q A ρ → List (Turn A) → Program Q A ρ → Prop
  | nil (p) : Follows p [] p
  | cons {q next a turns p} (h : Follows (next a) turns p) :
      Follows (.ask q next) (⟨q, a⟩ :: turns) p

variable {p : Program Q A ρ} {turns : List (Turn A)} {q : Q} {next : A q → Program Q A ρ} {r : ρ}

theorem follows_ret_iff : Follows (.ret r) turns p ↔ turns = [] ∧ p = .ret r := by
  constructor
  · intro h
    cases h
    exact ⟨rfl, rfl⟩
  · rintro ⟨rfl, rfl⟩
    exact .nil _

theorem follows_ask_ret_iff :
    Follows (.ask q next) turns (.ret r) ↔
      ∃ a rest, turns = ⟨q, a⟩ :: rest ∧ Follows (next a) rest (.ret r) := by
  constructor
  · intro h
    cases h with
    | cons h => exact ⟨_, _, rfl, h⟩
  · rintro ⟨a, rest, rfl, h⟩
    exact .cons h

theorem Follows.snoc (h : Follows p turns (.ask q next)) (a : A q) :
    Follows p (turns ++ [⟨q, a⟩]) (next a) := by
  generalize hp : Program.ask q next = p' at h
  induction h with
  | nil p =>
      subst hp
      exact .cons (.nil _)
  | cons _ ih => exact .cons (ih hp)

/-- Run the program against an environment that answers by what was asked so far. -/
def play (env : List (Turn A) → (q : Q) → A q) :
    List (Turn A) → Program Q A ρ → List (Turn A) × ρ
  | past, .ret r => (past, r)
  | past, .ask q next => play env (past ++ [⟨q, env past q⟩]) (next (env past q))

/-- An environment produces one complete run. -/
theorem follows_play (env : List (Turn A) → (q : Q) → A q) (past : List (Turn A))
    (p : Program Q A ρ) :
    ∃ turns, (play env past p).1 = past ++ turns ∧ Follows p turns (.ret (play env past p).2) := by
  induction p generalizing past with
  | ret r => exact ⟨[], (List.append_nil past).symm, .nil _⟩
  | ask q next ih =>
      obtain ⟨turns, hlog, h⟩ := ih (env past q) (past ++ [⟨q, env past q⟩])
      refine ⟨⟨q, env past q⟩ :: turns, ?_, .cons h⟩
      rw [play, hlog, List.append_assoc]
      rfl

/-! ### How much a program asks -/

/-- The program asks at most `n` questions, whatever the answers are. -/
inductive Within : ℕ → Program Q A ρ → Prop
  | ret {n r} : Within n (.ret r)
  | ask {n q next} (h : ∀ a, Within n (next a)) : Within (n + 1) (.ask q next)

theorem Within.mono {m n : ℕ} (h : Within m p) (hle : m ≤ n) : Within n p := by
  induction h generalizing n with
  | ret => exact .ret
  | ask _ ih =>
      obtain ⟨n, rfl⟩ := Nat.exists_eq_add_of_lt hle
      exact .ask fun a => ih a (by omega)

/-- What is left of a program does not ask more than the whole. -/
theorem Within.follows {n : ℕ} {p' : Program Q A ρ} (h : Within n p)
    (hturns : Follows p turns p') : Within n p' := by
  induction hturns generalizing n with
  | nil => exact h
  | cons _ ih =>
      cases h with
      | ask hnext => exact (ih (hnext _)).mono (Nat.le_succ _)

/-- How many questions the program asks at most. -/
noncomputable def questions (p : Program Q A ρ) : ℕ := sInf {n | Within n p}

theorem Within.questions_le {n : ℕ} (h : Within n p) : questions p ≤ n := Nat.sInf_le h

/-- An answer leaves fewer questions. -/
theorem Within.questions_next {n : ℕ} (h : Within n (.ask q next)) (a : A q) :
    questions (next a) < questions (.ask q next) := by
  have hleast : Within (questions (.ask q next)) (.ask q next) :=
    Nat.sInf_mem (s := {n | Within n (.ask q next)}) ⟨n, h⟩
  generalize questions (.ask q next) = m at hleast ⊢
  cases hleast with
  | ask hnext => exact Nat.lt_succ_of_le (hnext a).questions_le

/-! ### Places in a log -/

section each

variable {α : Type*}

/-- At every place of the list, the part before it and the element there are in `P`. -/
def Each (P : List α → α → Prop) (xs : List α) : Prop :=
  ∀ pre x post, xs = pre ++ x :: post → P pre x

variable {P : List α → α → Prop} {xs ys : List α} {x : α}

@[simp] theorem each_nil : Each P [] := fun pre x post h => by simp at h

theorem each_cons : Each P (x :: xs) ↔ P [] x ∧ Each (fun pre => P (x :: pre)) xs := by
  constructor
  · intro h
    exact ⟨h [] x xs rfl, fun pre y post hxs => h (x :: pre) y post (by rw [hxs]; rfl)⟩
  · rintro ⟨hx, hxs⟩ pre y post heq
    cases pre with
    | nil =>
        obtain ⟨rfl, rfl⟩ := List.cons.inj heq
        exact hx
    | cons z pre =>
        obtain ⟨rfl, hrest⟩ := List.cons.inj heq
        exact hxs pre y post hrest

theorem each_append : Each P (xs ++ ys) ↔ Each P xs ∧ Each (fun pre => P (xs ++ pre)) ys := by
  induction xs generalizing P with
  | nil => simp
  | cons x xs ih => rw [List.cons_append, each_cons, each_cons, ih, and_assoc]; rfl

theorem Each.mono {P' : List α → α → Prop} (h : Each P xs) (hle : ∀ pre x, P pre x → P' pre x) :
    Each P' xs := fun pre x post hxs => hle pre x (h pre x post hxs)

end each

end Interaction
