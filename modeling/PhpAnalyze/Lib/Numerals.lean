import Mathlib.Algebra.Ring.Int.Defs
import Mathlib.Data.Int.Order.Basic
import PhpAnalyze.Lib.Digits

/-! # Reading integers

`parseInt signed lo hi` is Rust's `str::parse` for an integer type with the values
`lo, …, hi`: an optional sign (a minus only for a signed type), at least one decimal digit,
and each step of the accumulation checked.

`Literal cs n` says that the text `cs` is a decimal literal of the integer `n`, of any size.
A literal is read exactly when its integer is a value of the type (`parseInt_of_literal`): the
checks on the partial values reject nothing more, since the partial values grow in magnitude.
A number that was written is read back (`parseInt_renderInt`). -/

namespace Numerals

open Digits

/-! ### The parser -/

/-- `checked_mul`, `checked_add`, `checked_sub`. -/
def checked (lo hi x : ℤ) : Option ℤ := if lo ≤ x ∧ x ≤ hi then some x else none

def digitVal (c : Char) : ℕ := c.toNat - '0'.toNat

/-- One digit; the digits of a negative number are subtracted. -/
def pushDigit (lo hi : ℤ) (positive : Bool) (acc : ℤ) (c : Char) : Option ℤ :=
  if c.isDigit then
    (checked lo hi (acc * 10)).bind fun x =>
      checked lo hi (if positive then x + digitVal c else x - digitVal c)
  else none

def parseDigits (lo hi : ℤ) (positive : Bool) (cs : List Char) : Option ℤ :=
  cs.foldlM (pushDigit lo hi positive) 0

def parseInt (signed : Bool) (lo hi : ℤ) : List Char → Option ℤ
  | [] => none
  | ['+'] => none
  | ['-'] => none
  | '+' :: digits => parseDigits lo hi true digits
  | '-' :: digits => if signed then parseDigits lo hi false digits else none
  | digits => parseDigits lo hi true digits

/-- `parse::<i64>`. -/
def parseI64 (s : String) : Option ℤ := parseInt true (-2 ^ 63) (2 ^ 63 - 1) s.toList

/-- `parse` for an unsigned type of the given width. -/
def parseUnsigned (bits : ℕ) (s : String) : Option ℕ :=
  (parseInt false 0 (2 ^ bits - 1) s.toList).map Int.toNat

/-! ### Literals -/

/-- The number that the digits denote, after the digits of `acc`. -/
def digitsFrom (acc : ℕ) (cs : List Char) : ℕ := cs.foldl (fun n c => n * 10 + digitVal c) acc

/-- A nonempty list of decimal digits. -/
structure IsDigits (cs : List Char) : Prop where
  ne_nil : cs ≠ []
  digits : ∀ c ∈ cs, c.isDigit = true

theorem isDigits_iff {cs : List Char} : cs ≠ [] ∧ cs.all Char.isDigit = true ↔ IsDigits cs :=
  ⟨fun h => ⟨h.1, List.all_eq_true.mp h.2⟩, fun h => ⟨h.ne_nil, List.all_eq_true.mpr h.digits⟩⟩

instance (cs : List Char) : Decidable (IsDigits cs) := decidable_of_iff _ isDigits_iff

/-- The text is a decimal literal of the integer. -/
def Literal (cs : List Char) (n : ℤ) : Prop :=
  ∃ digits, IsDigits digits ∧
    ((cs = digits ∨ cs = '+' :: digits) ∧ n = digitsFrom 0 digits ∨
      cs = '-' :: digits ∧ n = -digitsFrom 0 digits)

theorem digitsFrom_cons (acc : ℕ) (c : Char) (cs : List Char) :
    digitsFrom acc (c :: cs) = digitsFrom (acc * 10 + digitVal c) cs := by
  rw [digitsFrom, List.foldl_cons, digitsFrom]

/-- More digits make the number larger. -/
theorem le_digitsFrom (acc : ℕ) (cs : List Char) : acc ≤ digitsFrom acc cs := by
  induction cs generalizing acc with
  | nil => exact Nat.le_refl acc
  | cons c cs ih =>
      rw [digitsFrom_cons]
      exact (show acc ≤ acc * 10 + digitVal c by omega).trans (ih _)

theorem checked_eq_some {lo hi x : ℤ} (h : lo ≤ x ∧ x ≤ hi) : checked lo hi x = some x := if_pos h

theorem checked_eq_none {lo hi x : ℤ} (h : ¬(lo ≤ x ∧ x ≤ hi)) : checked lo hi x = none := if_neg h

theorem checked_neg (lo hi x : ℤ) : checked lo hi (-x) = (checked (-hi) (-lo) x).map Neg.neg := by
  unfold checked
  by_cases h : lo ≤ -x ∧ -x ≤ hi
  · rw [if_pos h, if_pos (by omega)]
    rfl
  · rw [if_neg h, if_neg (by omega)]
    rfl

/-- The accumulation of digits from a value of the type: it stops exactly when the whole number
is too large. -/
theorem foldlM_pushDigit {lo hi : ℤ} (hlo : lo ≤ 0) (cs : List Char)
    (hd : ∀ c ∈ cs, c.isDigit = true) {acc : ℕ} (hacc : (acc : ℤ) ≤ hi) :
    cs.foldlM (pushDigit lo hi true) (acc : ℤ) = checked lo hi (digitsFrom acc cs) := by
  induction cs generalizing acc with
  | nil => exact (checked_eq_some ⟨by omega, hacc⟩).symm
  | cons c cs ih =>
      have hdigits : ∀ c ∈ cs, c.isDigit = true := fun c' hc' => hd c' (List.mem_cons_of_mem c hc')
      have hgrow := le_digitsFrom (acc * 10 + digitVal c) cs
      rw [List.foldlM_cons, digitsFrom_cons, pushDigit, if_pos (hd c List.mem_cons_self)]
      by_cases hnext : ((acc * 10 + digitVal c : ℕ) : ℤ) ≤ hi
      · have hmul : checked lo hi ((acc : ℤ) * 10) = some ((acc : ℤ) * 10) :=
          checked_eq_some ⟨by omega, by omega⟩
        have hadd : checked lo hi ((acc : ℤ) * 10 + digitVal c) =
            some ((acc * 10 + digitVal c : ℕ) : ℤ) := by
          rw [checked_eq_some ⟨by omega, by omega⟩]
          push_cast
          rfl
        rw [hmul, Option.bind_some, if_pos rfl, hadd]
        exact ih hdigits hnext
      · have hover : checked lo hi (digitsFrom (acc * 10 + digitVal c) cs) = none :=
          checked_eq_none fun h => hnext (by omega)
        rw [hover]
        by_cases hmul : (acc : ℤ) * 10 ≤ hi
        · rw [checked_eq_some ⟨by omega, hmul⟩, Option.bind_some, if_pos rfl,
            checked_eq_none (by push_cast at hnext; omega)]
          rfl
        · rw [checked_eq_none fun h => hmul h.2]
          rfl

/-- Subtracting the digits mirrors adding them. -/
theorem pushDigit_neg (lo hi acc : ℤ) (c : Char) :
    pushDigit lo hi false (-acc) c = (pushDigit (-hi) (-lo) true acc c).map Neg.neg := by
  unfold pushDigit
  by_cases hc : c.isDigit = true
  · rw [if_pos hc, if_pos hc, Int.neg_mul, checked_neg]
    cases checked (-hi) (-lo) (acc * 10) with
    | none => rfl
    | some x =>
        have hsub : -x - (digitVal c : ℤ) = -(x + digitVal c) := by omega
        simp only [Option.map_some, Option.bind_some, Bool.false_eq_true, ↓reduceIte, hsub,
          checked_neg]
  · rw [if_neg hc, if_neg hc]
    rfl

theorem foldlM_pushDigit_neg (lo hi : ℤ) (cs : List Char) (acc : ℤ) :
    cs.foldlM (pushDigit lo hi false) (-acc) =
      (cs.foldlM (pushDigit (-hi) (-lo) true) acc).map Neg.neg := by
  induction cs generalizing acc with
  | nil => rfl
  | cons c cs ih =>
      rw [List.foldlM_cons, List.foldlM_cons, pushDigit_neg]
      cases pushDigit (-hi) (-lo) true acc c with
      | none => rfl
      | some x => exact ih x

theorem parseDigits_positive {lo hi : ℤ} (hlo : lo ≤ 0) (hhi : 0 ≤ hi) {cs : List Char}
    (h : IsDigits cs) : parseDigits lo hi true cs = checked lo hi (digitsFrom 0 cs) := by
  have hzero : ((0 : ℕ) : ℤ) ≤ hi := hhi
  exact foldlM_pushDigit hlo cs h.digits hzero

theorem parseDigits_negative {lo hi : ℤ} (hlo : lo ≤ 0) (hhi : 0 ≤ hi) {cs : List Char}
    (h : IsDigits cs) : parseDigits lo hi false cs = checked lo hi (-digitsFrom 0 cs) := by
  have hneg := foldlM_pushDigit_neg lo hi cs 0
  have hpos : parseDigits (-hi) (-lo) true cs = _ :=
    parseDigits_positive (by omega) (by omega) h
  rw [Int.neg_zero] at hneg
  rw [checked_neg, ← hpos]
  exact hneg

/-- A digit is not a sign. -/
theorem ne_sign_of_isDigit {c : Char} (h : c.isDigit = true) : c ≠ '+' ∧ c ≠ '-' := by
  constructor
  · rintro rfl
    exact absurd h (by decide)
  · rintro rfl
    exact absurd h (by decide)

theorem parseInt_of_digits (signed : Bool) (lo hi : ℤ) {cs : List Char} (h : IsDigits cs) :
    parseInt signed lo hi cs = parseDigits lo hi true cs := by
  cases cs with
  | nil => exact absurd rfl h.ne_nil
  | cons c cs =>
      obtain ⟨hplus, hminus⟩ := ne_sign_of_isDigit (h.digits c List.mem_cons_self)
      unfold parseInt
      split <;> simp_all

/-- **A literal is read exactly when its integer is a value of the type.** -/
theorem parseInt_of_literal {lo hi : ℤ} (hlo : lo ≤ 0) (hhi : 0 ≤ hi) {cs : List Char} {n : ℤ}
    (h : Literal cs n) : parseInt true lo hi cs = checked lo hi n := by
  obtain ⟨digits, hd, ⟨rfl | rfl, rfl⟩ | ⟨rfl, rfl⟩⟩ := h
  · rw [parseInt_of_digits _ _ _ hd, parseDigits_positive hlo hhi hd]
  · rw [← parseDigits_positive hlo hhi hd]
    cases digits with
    | nil => exact absurd rfl hd.ne_nil
    | cons c cs => rfl
  · rw [← parseDigits_negative hlo hhi hd]
    cases digits with
    | nil => exact absurd rfl hd.ne_nil
    | cons c cs => rfl

/-! ### Numbers that were written -/

/-- `{n}` for a signed number. -/
def renderInt (n : ℤ) : String :=
  if n < 0 then "-" ++ renderDigits 10 n.natAbs else renderDigits 10 n.natAbs

theorem digitVal_digitChar : ∀ d : ℕ, d < 10 → digitVal (Nat.digitChar d) = d
  | 0, _ | 1, _ | 2, _ | 3, _ | 4, _ | 5, _ | 6, _ | 7, _ | 8, _ | 9, _ => by decide
  | d + 10, h => absurd h (by omega)

theorem isDigit_digitChar : ∀ d : ℕ, d < 10 → (Nat.digitChar d).isDigit = true
  | 0, _ | 1, _ | 2, _ | 3, _ | 4, _ | 5, _ | 6, _ | 7, _ | 8, _ | 9, _ => by decide
  | d + 10, h => absurd h (by omega)

/-- A number in base ten is a list of digits that denotes it. -/
theorem toDigits_ten (n : ℕ) :
    IsDigits (Nat.toDigits 10 n) ∧ digitsFrom 0 (Nat.toDigits 10 n) = n := by
  induction n using Nat.strong_induction_on with
  | _ n ih =>
      rcases Nat.lt_or_ge n 10 with h | h
      · rw [Nat.toDigits_of_lt_base h]
        refine ⟨⟨List.cons_ne_nil _ _, fun c hc => ?_⟩, ?_⟩
        · rw [List.mem_singleton.mp hc]
          exact isDigit_digitChar n h
        · rw [digitsFrom_cons, Nat.zero_mul, Nat.zero_add, digitVal_digitChar n h]
          rfl
      · have hmod : n % 10 < 10 := Nat.mod_lt n (by omega)
        obtain ⟨hdigits, hvalue⟩ := ih (n / 10) (by omega)
        rw [Nat.toDigits_of_base_le (by omega) h]
        refine ⟨⟨List.concat_ne_nil _ _, fun c hc => ?_⟩, ?_⟩
        · rcases List.mem_append.mp hc with hc | hc
          · exact hdigits.digits c hc
          · rw [List.mem_singleton.mp hc]
            exact isDigit_digitChar _ hmod
        · rw [digitsFrom, List.foldl_append]
          show digitsFrom 0 (Nat.toDigits 10 (n / 10)) * 10 + digitVal (Nat.digitChar (n % 10)) = n
          rw [hvalue, digitVal_digitChar _ hmod]
          omega

theorem isDigits_renderDigits (n : ℕ) : IsDigits (renderDigits 10 n).toList := by
  rw [renderDigits, String.toList_ofList]
  exact (toDigits_ten n).1

theorem digitsFrom_renderDigits (n : ℕ) : digitsFrom 0 (renderDigits 10 n).toList = n := by
  rw [renderDigits, String.toList_ofList, (toDigits_ten n).2]

theorem literal_renderInt (n : ℤ) : Literal (renderInt n).toList n := by
  refine ⟨(renderDigits 10 n.natAbs).toList, isDigits_renderDigits _, ?_⟩
  rw [digitsFrom_renderDigits, renderInt]
  split_ifs with h
  · exact .inr ⟨String.toList_append, by omega⟩
  · exact .inl ⟨.inl rfl, by omega⟩

/-- **Round trip** of a signed number. -/
theorem parseI64_renderInt {n : ℤ} (h : -2 ^ 63 ≤ n ∧ n < 2 ^ 63) :
    parseI64 (renderInt n) = some n := by
  rw [parseI64, parseInt_of_literal (by decide) (by decide) (literal_renderInt n)]
  exact checked_eq_some ⟨h.1, by omega⟩

/-- **Round trip** of an unsigned number. -/
theorem parseUnsigned_renderDigits {bits n : ℕ} (h : n < 2 ^ bits) :
    parseUnsigned bits (renderDigits 10 n) = some n := by
  have hbound : (n : ℤ) ≤ 2 ^ bits - 1 := by
    have : (n : ℤ) < 2 ^ bits := by exact_mod_cast h
    omega
  have hdigits := isDigits_renderDigits n
  rw [parseUnsigned, parseInt_of_digits _ _ _ hdigits,
    parseDigits_positive (Int.le_refl 0) (by omega) hdigits, digitsFrom_renderDigits,
    checked_eq_some ⟨Int.natCast_nonneg n, hbound⟩]
  rfl

end Numerals
