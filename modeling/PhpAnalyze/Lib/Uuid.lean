import Mathlib.Data.Nat.Notation
import Mathlib.Data.String.Basic

/-! # The text form of a UUID

`hyphenated` writes sixteen bytes as lowercase hexadecimal digits in groups of 8, 4, 4, 4 and
12 with hyphens between them; `ofHyphenated` reads this form back (`ofHyphenated_hyphenated`).
The text has 36 characters (`length_hyphenated`). -/

namespace Uuid

/-! ### Bytes as pairs of digits -/

/-- The two digits of a byte, high half first. -/
def hexPair (byte : UInt8) : List Char :=
  [Nat.digitChar (byte.toNat / 16), Nat.digitChar (byte.toNat % 16)]

/-- The value of a digit, `none` for any other character. -/
def readDigit (c : Char) : Option ℕ := (List.range 16).find? fun d => Nat.digitChar d == c

/-- Two digits at a time make a byte. -/
def readPairs : List Char → Option (List UInt8)
  | [] => some []
  | [_] => none
  | high :: low :: rest => do
      let h ← readDigit high
      let l ← readDigit low
      let bytes ← readPairs rest
      return UInt8.ofNat (16 * h + l) :: bytes

theorem readDigit_digitChar {d : ℕ} (h : d < 16) : readDigit (Nat.digitChar d) = some d := by
  have hall : ∀ i : Fin 16, readDigit (Nat.digitChar i) = some i.val := by decide
  exact hall ⟨d, h⟩

theorem readPairs_hexPair (bytes : List UInt8) :
    readPairs (bytes.flatMap hexPair) = some bytes := by
  induction bytes with
  | nil => rfl
  | cons byte bytes ih =>
      have hbyte : byte.toNat < 256 := byte.toNat_lt
      have hhigh := readDigit_digitChar (show byte.toNat / 16 < 16 by omega)
      have hlow := readDigit_digitChar (show byte.toNat % 16 < 16 by omega)
      have hsplit : UInt8.ofNat (16 * (byte.toNat / 16) + byte.toNat % 16) = byte := by
        rw [Nat.div_add_mod, UInt8.ofNat_toNat]
      show readPairs (Nat.digitChar _ :: Nat.digitChar _ :: bytes.flatMap hexPair) = _
      rw [readPairs, hhigh, hlow, ih]
      exact congrArg (fun b => some (b :: bytes)) hsplit

theorem length_hexPairs (bytes : List UInt8) :
    (bytes.flatMap hexPair).length = 2 * bytes.length := by
  simp [List.length_flatMap, hexPair, Nat.mul_comm]

theorem isAlphanum_digitChar {d : ℕ} (h : d < 16) : (Nat.digitChar d).isAlphanum = true := by
  have hall : ∀ i : Fin 16, (Nat.digitChar i).isAlphanum = true := by decide
  exact hall ⟨d, h⟩

theorem isAlphanum_of_mem_hexPairs {bytes : List UInt8} {c : Char}
    (hc : c ∈ bytes.flatMap hexPair) : c.isAlphanum = true := by
  rw [List.mem_flatMap] at hc
  obtain ⟨byte, -, hc⟩ := hc
  have hbyte : byte.toNat < 256 := byte.toNat_lt
  rcases List.mem_pair.mp hc with rfl | rfl
  · apply isAlphanum_digitChar
    omega
  · apply isAlphanum_digitChar
    omega

theorem hyphen_not_mem_hexPairs (bytes : List UInt8) : '-' ∉ bytes.flatMap hexPair := by
  intro hc
  exact absurd (isAlphanum_of_mem_hexPairs hc) (by decide)

/-! ### The five groups -/

/-- The bytes of a UUID from `i` to `j`, in digits. -/
def group (id : Vector UInt8 16) (i j : ℕ) : List Char :=
  ((id.toList.take j).drop i).flatMap hexPair

def hyphenated (id : Vector UInt8 16) : String :=
  String.ofList (group id 0 4 ++ '-' :: (group id 4 6 ++ '-' :: (group id 6 8 ++
    '-' :: (group id 8 10 ++ '-' :: group id 10 16))))

/-- Read the hyphenated form: 36 characters, hyphens between the groups, digits elsewhere. -/
def ofHyphenated (text : String) : Option (Vector UInt8 16) :=
  let cs := text.toList
  if cs.length = 36 ∧ ∀ i ∈ [8, 13, 18, 23], cs[i]? = some '-' then
    (readPairs (cs.filter (· ≠ '-'))).bind fun bytes =>
      if h : bytes.length = 16 then some ⟨bytes.toArray, h⟩ else none
  else none

section hyphenated

variable (id : Vector UInt8 16)

theorem length_group {i j : ℕ} (hij : i ≤ j) (hj : j ≤ 16) :
    (group id i j).length = 2 * (j - i) := by
  rw [group, length_hexPairs]
  simp
  omega

theorem group_append {i j k : ℕ} (hij : i ≤ j) (hjk : j ≤ k) :
    group id i j ++ group id j k = group id i k := by
  rw [group, group, group, ← List.flatMap_append]
  congr 1
  have htake : id.toList.take j = (id.toList.take k).take j := by
    rw [List.take_take, Nat.min_eq_left hjk]
  have hdrop : (id.toList.take k).drop j = ((id.toList.take k).drop i).drop (j - i) := by
    rw [List.drop_drop, Nat.add_sub_cancel' hij]
  rw [htake, hdrop, List.drop_take, List.take_append_drop]

theorem filter_group (i j : ℕ) : (group id i j).filter (· ≠ '-') = group id i j := by
  refine List.filter_eq_self.mpr fun c hc => decide_eq_true ?_
  rintro rfl
  exact hyphen_not_mem_hexPairs _ hc

/-- Without its hyphens the text is the digits of the sixteen bytes. -/
theorem filter_hyphenated :
    (hyphenated id).toList.filter (· ≠ '-') = id.toList.flatMap hexPair := by
  have hall : group id 0 16 = id.toList.flatMap hexPair := by
    rw [group, List.take_of_length_le (Nat.le_of_eq id.length_toList), List.drop_zero]
  have hhyphen : ∀ cs : List Char, ('-' :: cs).filter (· ≠ '-') = cs.filter (· ≠ '-') :=
    fun _ => rfl
  simp only [hyphenated, String.toList_ofList, List.filter_append, hhyphen, filter_group]
  rw [group_append id (by decide) (by decide), group_append id (by decide) (by decide),
    group_append id (by decide) (by decide), group_append id (by decide) (by decide), hall]

/-- Only digits and hyphens are in the text. -/
theorem isAlphanum_or_hyphen {c : Char} (hc : c ∈ (hyphenated id).toList) :
    c.isAlphanum = true ∨ c = '-' := by
  by_cases hhyphen : c = '-'
  · exact .inr hhyphen
  · have hdigit : c ∈ (hyphenated id).toList.filter (· ≠ '-') :=
      List.mem_filter.mpr ⟨hc, decide_eq_true hhyphen⟩
    rw [filter_hyphenated] at hdigit
    exact .inl (isAlphanum_of_mem_hexPairs hdigit)

theorem length_hyphenated : (hyphenated id).toList.length = 36 := by
  simp [hyphenated, length_group]

/-- The hyphenated form reads back as the bytes. -/
theorem ofHyphenated_hyphenated : ofHyphenated (hyphenated id) = some id := by
  have hhyphens : ∀ i ∈ [8, 13, 18, 23], (hyphenated id).toList[i]? = some '-' := by
    simp [hyphenated, List.getElem?_append, length_group]
  have hlength : id.toList.length = 16 := id.length_toList
  simp only [ofHyphenated]
  rw [if_pos ⟨length_hyphenated id, hhyphens⟩, filter_hyphenated, readPairs_hexPair,
    Option.bind_some, dif_pos hlength]
  exact congrArg some (Vector.toArray_inj.mp Array.toArray_toList)

theorem hyphenated_injective : Function.Injective hyphenated := by
  intro id id' h
  have hread := ofHyphenated_hyphenated id
  rw [h, ofHyphenated_hyphenated id'] at hread
  exact (Option.some.inj hread).symm

end hyphenated

end Uuid
