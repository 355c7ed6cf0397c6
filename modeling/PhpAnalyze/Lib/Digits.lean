import Mathlib.Data.Nat.Log
import Mathlib.Data.String.Basic

/-! # The length of a number in text

`renderDigits b n` is `n` written in base `b` with the digits `0`-`9`, `a`-`f`: base ten is
Rust's `{n}`, base sixteen its `{n:x}`.  Every digit is one byte of UTF-8, so the byte
length is the number of digits, `Nat.log b n + 1`. -/

namespace Digits

def renderDigits (b n : ℕ) : String := String.ofList (Nat.toDigits b n)

theorem utf8Size_digitChar (d : ℕ) : (Nat.digitChar d).utf8Size = 1 :=
  match d with
  | 0 | 1 | 2 | 3 | 4 | 5 | 6 | 7 | 8 | 9 | 10 | 11 | 12 | 13 | 14 | 15 => by decide
  | d + 16 => by
      have h : Nat.digitChar (d + 16) = '*' := Nat.digitChar_eq_star.mpr (by omega)
      rw [h]
      decide

theorem renderDigits_of_lt {b n : ℕ} (h : n < b) :
    renderDigits b n = String.singleton (Nat.digitChar n) := by
  rw [renderDigits, Nat.toDigits_of_lt_base h]
  rfl

theorem renderDigits_of_le {b n : ℕ} (hb : 1 < b) (h : b ≤ n) :
    renderDigits b n = renderDigits b (n / b) ++ String.singleton (Nat.digitChar (n % b)) := by
  rw [renderDigits, Nat.toDigits_of_base_le hb h, String.ofList_append]
  rfl

/-- The byte length of a number in base `b`. -/
theorem utf8ByteSize_renderDigits {b : ℕ} (hb : 1 < b) (n : ℕ) :
    (renderDigits b n).utf8ByteSize = Nat.log b n + 1 := by
  induction n using Nat.strong_induction_on with
  | _ n ih =>
      rcases Nat.lt_or_ge n b with h | h
      · rw [renderDigits_of_lt h, String.utf8ByteSize_singleton, utf8Size_digitChar,
          Nat.log_of_lt h]
      · have hlt : n / b < n := Nat.div_lt_self (by omega) hb
        rw [renderDigits_of_le hb h, String.utf8ByteSize_append, ih _ hlt,
          String.utf8ByteSize_singleton, utf8Size_digitChar, Nat.log_of_one_lt_of_le hb h]

/-- Below base sixteen the digits differ. -/
theorem digitChar_inj {d e : ℕ} (hd : d < 16) (he : e < 16)
    (h : Nat.digitChar d = Nat.digitChar e) : d = e := by
  have hall : ∀ i j : Fin 16, Nat.digitChar i = Nat.digitChar j → i = j := by decide
  exact congrArg Fin.val (hall ⟨d, hd⟩ ⟨e, he⟩ h)

/-- A number is determined by its digits. -/
theorem toDigits_inj {b : ℕ} (hb : 1 < b) (hb16 : b ≤ 16) {n m : ℕ}
    (h : Nat.toDigits b n = Nat.toDigits b m) : n = m := by
  induction n using Nat.strong_induction_on generalizing m with
  | _ n ih =>
      rcases Nat.lt_or_ge n b with hn | hn <;> rcases Nat.lt_or_ge m b with hm | hm
      · rw [Nat.toDigits_of_lt_base hn, Nat.toDigits_of_lt_base hm] at h
        exact digitChar_inj (by omega) (by omega) (List.singleton_inj.mp h)
      · rw [Nat.toDigits_of_lt_base hn, Nat.toDigits_of_base_le hb hm] at h
        exact absurd (congrArg List.length h) (by simp)
      · rw [Nat.toDigits_of_base_le hb hn, Nat.toDigits_of_lt_base hm] at h
        exact absurd (congrArg List.length h) (by simp)
      · rw [Nat.toDigits_of_base_le hb hn, Nat.toDigits_of_base_le hb hm] at h
        obtain ⟨hinit, hlast⟩ := List.append_inj' h rfl
        have hdiv := ih _ (Nat.div_lt_self (by omega) hb) hinit
        have hnb := Nat.mod_lt n (show 0 < b by omega)
        have hmb := Nat.mod_lt m (show 0 < b by omega)
        have hmod := digitChar_inj (by omega) (by omega) (List.singleton_inj.mp hlast)
        rw [← Nat.div_add_mod n b, ← Nat.div_add_mod m b, hdiv, hmod]

theorem renderDigits_inj {b : ℕ} (hb : 1 < b) (hb16 : b ≤ 16) {n m : ℕ}
    (h : renderDigits b n = renderDigits b m) : n = m :=
  toDigits_inj hb hb16 (String.ofList_injective h)

end Digits
