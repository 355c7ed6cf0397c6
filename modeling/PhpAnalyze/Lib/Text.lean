import Mathlib.Data.List.DropRight
import Mathlib.Data.Nat.Notation
import Mathlib.Data.String.Basic
import Mathlib.Tactic.SplitIfs

/-! # Text

The string functions of Rust's `str`, on lists of characters or on strings.  White space is
the Unicode property `White_Space`; upper and lower case are those of ASCII. -/

namespace Text

/-- `char::is_whitespace`. -/
def isWhitespace (c : Char) : Bool :=
  let n := c.toNat
  (0x09 ≤ n && n ≤ 0x0d) || n == 0x20 || n == 0x85 || n == 0xa0 || n == 0x1680 ||
    (0x2000 ≤ n && n ≤ 0x200a) || n == 0x2028 || n == 0x2029 || n == 0x202f || n == 0x205f ||
    n == 0x3000

def trimChars (cs : List Char) : List Char :=
  (cs.dropWhile isWhitespace).rdropWhile isWhitespace

/-- `str::trim`. -/
def trim (s : String) : String := String.ofList (trimChars s.toList)

/-- `to_ascii_lowercase`. -/
def toAsciiLowercase (s : String) : String := String.ofList (s.toList.map Char.toLower)

/-- `eq_ignore_ascii_case`. -/
def eqIgnoreAsciiCase (s t : String) : Bool := toAsciiLowercase s == toAsciiLowercase t

/-- `str::split` by a character. -/
def split (sep : Char) (s : String) : List String := (s.toList.splitOn sep).map String.ofList

/-- `str::split_once`: the text before and after the first occurrence of the pattern. -/
def splitOnce (pat : List Char) : List Char → Option (List Char × List Char)
  | [] => if pat.isEmpty then some ([], []) else none
  | c :: cs =>
      if pat.isPrefixOf (c :: cs) then some ([], (c :: cs).drop pat.length)
      else (splitOnce pat cs).map fun p => (c :: p.1, p.2)

/-- `str::strip_prefix`. -/
def stripPrefix (pat s : String) : Option String :=
  (pat.toList.isPrefixOf? s.toList).map String.ofList

/-- `str::starts_with`. -/
def startsWith (pat s : String) : Bool := pat.toList.isPrefixOf s.toList

/-- `str::splitn`: at most `n` parts, and the last one holds the rest. -/
def splitnChars (sep : Char) : ℕ → List Char → List (List Char)
  | 0, _ => []
  | 1, cs => [cs]
  | n + 2, cs =>
      match splitOnce [sep] cs with
      | none => [cs]
      | some (before, after) => before :: splitnChars sep (n + 1) after

def splitn (n : ℕ) (sep : Char) (s : String) : List String :=
  (splitnChars sep n s.toList).map String.ofList

/-- `str::split_whitespace`. -/
def splitWhitespace (s : String) : List String :=
  ((s.toList.splitOnP isWhitespace).filter fun word => !word.isEmpty).map String.ofList

/-- A line without the carriage return at its end. -/
def stripCarriageReturn (cs : List Char) : List Char :=
  if cs.getLast? = some '\r' then cs.dropLast else cs

/-- `str::lines`: a line ends in a line feed, or in a carriage return and a line feed; what
follows the last line feed is a line unless it is empty. -/
def lines (s : String) : List String :=
  let pieces := s.toList.splitOn '\n'
  ((pieces.dropLast.map stripCarriageReturn) ++
    pieces.getLast?.toList.filter fun rest => !rest.isEmpty).map String.ofList

/-- `writeln!`, line after line. -/
def unlines (ls : List String) : String := String.join (ls.map fun line => line ++ "\n")

/-! ### Lower case -/

theorem toList_toAsciiLowercase (s : String) :
    (toAsciiLowercase s).toList = s.toList.map Char.toLower := String.toList_ofList

theorem toAsciiLowercase_append (s t : String) :
    toAsciiLowercase (s ++ t) = toAsciiLowercase s ++ toAsciiLowercase t := by
  rw [toAsciiLowercase, String.toList_append, List.map_append, String.ofList_append]
  rfl

theorem eq_of_toLower_eq {c x : Char} (hx : x.isLower = false) (h : c.toLower = x) : c = x := by
  have hisLower : ∀ y : Char, y.isLower = (decide (y.val ≥ 'a'.val) && decide (y.val ≤ 'z'.val)) :=
    fun _ => rfl
  subst h
  unfold Char.toLower at *
  split at hx
  case isTrue hupper =>
    simp only [hisLower, ge_iff_le, Bool.and_eq_false_iff, decide_eq_false_iff_not,
      UInt32.le_iff_toNat_le, UInt32.toNat_add, UInt32.toNat_sub] at hx hupper
    simp at hx hupper
    omega
  case isFalse hupper => rw [dif_neg hupper]

/-- A pattern without letters is found in the lower case exactly where it is in the text. -/
theorem infix_map_toLower_iff {pat : List Char} (hpat : ∀ x ∈ pat, x.isLower = false)
    (hlower : pat.map Char.toLower = pat) (cs : List Char) :
    pat <:+: cs.map Char.toLower ↔ pat <:+: cs := by
  constructor
  · rintro ⟨before, after, h⟩
    obtain ⟨cs', _, rfl, hcs', rfl⟩ := List.append_eq_map_iff.mp h
    obtain ⟨before', pat', rfl, rfl, hpat'⟩ := List.append_eq_map_iff.mp hcs'.symm
    have hfix : pat'.map Char.toLower = pat'.map id := List.map_congr_left fun c hc =>
      (eq_of_toLower_eq (hpat _ (hpat' ▸ List.mem_map_of_mem hc)) rfl).symm
    rw [hpat', List.map_id] at hfix
    exact ⟨before', _, by rw [hfix]⟩
  · rintro ⟨before, after, rfl⟩
    exact ⟨before.map Char.toLower, after.map Char.toLower, by
      rw [List.map_append, List.map_append, hlower]⟩

/-! ### Splitting once -/

theorem splitOnce_eq_some {pat cs before after : List Char}
    (h : splitOnce pat cs = some (before, after)) : cs = before ++ pat ++ after := by
  induction cs generalizing before with
  | nil =>
      simp only [splitOnce, List.isEmpty_iff] at h
      split_ifs at h with hpat
      cases h
      rw [hpat]
      rfl
  | cons c cs ih =>
      rw [splitOnce] at h
      split_ifs at h with hpat
      · cases h
        obtain ⟨rest, hrest⟩ := List.isPrefixOf_iff_prefix.mp hpat
        rw [← hrest, List.nil_append, List.drop_left]
      · obtain ⟨⟨before', after'⟩, hsplit, heq⟩ := Option.map_eq_some_iff.mp h
        cases heq
        rw [ih hsplit]
        rfl

theorem splitOnce_cons_of_ne {p c : Char} (pat cs : List Char) (h : p ≠ c) :
    splitOnce (p :: pat) (c :: cs) = (splitOnce (p :: pat) cs).map fun r => (c :: r.1, r.2) := by
  have hpat : (p :: pat).isPrefixOf (c :: cs) = false := by
    simp [List.isPrefixOf, h]
  rw [splitOnce, hpat]
  rfl

theorem splitOnce_append_self (pat cs : List Char) : splitOnce pat (pat ++ cs) = some ([], cs) := by
  cases pat with
  | nil => cases cs <;> rfl
  | cons p pat =>
      have hpat : (p :: pat).isPrefixOf (p :: (pat ++ cs)) = true :=
        List.isPrefixOf_iff_prefix.mpr ⟨cs, rfl⟩
      rw [List.cons_append, splitOnce, if_pos hpat, ← List.cons_append, List.drop_left]

/-- The pattern is found after a text without its first character. -/
theorem splitOnce_append {p : Char} {before : List Char} (h : p ∉ before) (pat after : List Char) :
    splitOnce (p :: pat) (before ++ (p :: pat ++ after)) = some (before, after) := by
  induction before with
  | nil => exact splitOnce_append_self (p :: pat) after
  | cons c before ih =>
      obtain ⟨hne, hmem⟩ := List.ne_and_not_mem_of_not_mem_cons h
      rw [List.cons_append, splitOnce_cons_of_ne _ _ hne, ih hmem]
      rfl

/-- The pattern between two texts. -/
theorem splitOnce_toList {before : String} {p : Char} (pat : String)
    (hpat : pat.toList.head? = some p) (h : p ∉ before.toList) (after : String) :
    splitOnce pat.toList (before ++ pat ++ after).toList = some (before.toList, after.toList) := by
  obtain ⟨ps, hps⟩ := List.head?_eq_some_iff.mp hpat
  rw [String.toList_append, String.toList_append, List.append_assoc, hps]
  exact splitOnce_append h ps after.toList

theorem splitOnce_of_prefix {p : Char} {pat before cs : List Char}
    (h : before ++ (p :: pat) <+: cs) (hmem : p ∉ before) :
    ∃ after, splitOnce (p :: pat) cs = some (before, after) := by
  obtain ⟨after, rfl⟩ := h
  exact ⟨after, by rw [List.append_assoc, splitOnce_append hmem]⟩

/-! ### Prefixes -/

theorem stripPrefix_append (pat rest : String) : stripPrefix pat (pat ++ rest) = some rest := by
  rw [stripPrefix, String.toList_append, List.isPrefixOf?_eq_some_iff_append_eq.mpr rfl,
    Option.map_some, String.ofList_toList]

theorem startsWith_append (pat rest : String) : startsWith pat (pat ++ rest) = true := by
  rw [startsWith, String.toList_append]
  exact List.isPrefixOf_iff_prefix.mpr ⟨rest.toList, rfl⟩

theorem not_prefix_append {pat head : List Char} (hpat : ¬pat <+: head) (hhead : ¬head <+: pat)
    (rest : List Char) : ¬pat <+: head ++ rest := by
  intro h
  rcases List.prefix_or_prefix_of_prefix h (List.prefix_append head rest) with h | h
  · exact hpat h
  · exact hhead h

theorem stripPrefix_eq_none {pat head : String} (hpat : ¬pat.toList <+: head.toList)
    (hhead : ¬head.toList <+: pat.toList) (rest : String) :
    stripPrefix pat (head ++ rest) = none := by
  rw [stripPrefix, Option.map_eq_none_iff, Option.eq_none_iff_forall_ne_some]
  intro after hafter
  rw [String.toList_append, List.isPrefixOf?_eq_some_iff_append_eq] at hafter
  exact not_prefix_append hpat hhead rest.toList ⟨after, hafter⟩

/-! ### Words -/

/-- A word is made of ASCII letters and digits, and of minus signs. -/
def IsWord (s : String) : Prop := ∀ c ∈ s.toList, c.isAlphanum = true ∨ c = '-'

instance (s : String) : Decidable (IsWord s) := List.decidableBAll _ s.toList

/-- No white space is in the text. -/
def Unbroken (s : String) : Prop := ∀ c ∈ s.toList, isWhitespace c = false

instance (s : String) : Decidable (Unbroken s) := List.decidableBAll _ s.toList

theorem Unbroken.append {s t : String} (hs : Unbroken s) (ht : Unbroken t) : Unbroken (s ++ t) := by
  intro c hc
  rw [String.toList_append] at hc
  exact (List.mem_append.mp hc).elim (hs c) (ht c)

theorem IsWord.not_mem {s : String} (h : IsWord s) {c : Char} (halpha : c.isAlphanum = false)
    (hminus : c ≠ '-') : c ∉ s.toList := by
  intro hc
  rcases h c hc with h | h
  · rw [halpha] at h
    cases h
  · exact hminus h

theorem isWhitespace_of_isAlphanum {c : Char} (h : c.isAlphanum = true) :
    isWhitespace c = false := by
  have hranges : c.isAlphanum = ((decide (c.val ≥ 'A'.val ∧ c.val ≤ 'Z'.val) ||
      (decide (c.val ≥ 'a'.val) && decide (c.val ≤ 'z'.val))) ||
      (decide (c.val ≥ '0'.val) && decide (c.val ≤ '9'.val))) := rfl
  rw [hranges] at h
  simp only [Bool.or_eq_true, Bool.and_eq_true, decide_eq_true_eq, ge_iff_le,
    UInt32.le_iff_toNat_le] at h
  simp at h
  have hval : c.val.toNat = c.toNat := rfl
  simp only [isWhitespace, Bool.or_eq_false_iff, Bool.and_eq_false_iff, decide_eq_false_iff_not,
    beq_eq_false_iff_ne, ne_eq]
  omega

theorem IsWord.unbroken {s : String} (h : IsWord s) : Unbroken s := by
  intro c hc
  rcases h c hc with h | rfl
  · exact isWhitespace_of_isAlphanum h
  · decide

theorem IsWord.trim_eq {s : String} (h : IsWord s) : trim s = s := by
  have hspace := h.unbroken
  have hleft : s.toList.dropWhile isWhitespace = s.toList := by
    rw [List.dropWhile_eq_self_iff]
    intro hlen
    simp [hspace _ (List.getElem_mem hlen)]
  have hright : s.toList.rdropWhile isWhitespace = s.toList := by
    rw [List.rdropWhile_eq_self_iff]
    intro hne
    simp [hspace _ (List.getLast_mem hne)]
  rw [trim, trimChars, hleft, hright, String.ofList_toList]

/-! ### Splitting -/

/-- Parts that were put together with a separator that is in none of them. -/
theorem split_intercalate {sep : Char} {parts : List String} (hne : parts ≠ [])
    (h : ∀ part ∈ parts, sep ∉ part.toList) :
    split sep ((String.singleton sep).intercalate parts) = parts := by
  have hparts : ∀ cs ∈ parts.map String.toList, sep ∉ cs := by
    intro cs hcs
    obtain ⟨part, hpart, rfl⟩ := List.mem_map.mp hcs
    exact h part hpart
  rw [split, String.toList_intercalate, String.toList_singleton,
    List.splitOn_intercalate sep hparts (by simpa using hne), List.map_map]
  simp

/-- The first of at least two parts. -/
theorem splitn_append {sep : Char} {before : String} (h : sep ∉ before.toList) (n : ℕ)
    (after : String) :
    splitn (n + 2) sep (before ++ String.singleton sep ++ after) =
      before :: splitn (n + 1) sep after := by
  have hsplit := splitOnce_append h [] after.toList
  rw [splitn, String.toList_append, String.toList_append, String.toList_singleton,
    List.append_assoc, splitnChars, hsplit]
  simp [splitn]

theorem splitn_one (sep : Char) (s : String) : splitn 1 sep s = [s] := by
  simp [splitn, splitnChars]

theorem splitWhitespace_append {word : String} (hne : word ≠ "")
    (hword : Unbroken word) {space : Char} (hspace : isWhitespace space = true) (rest : String) :
    splitWhitespace (word ++ String.singleton space ++ rest) = word :: splitWhitespace rest := by
  have hfirst : word.toList.isEmpty = false := by simpa using hne
  rw [splitWhitespace, String.toList_append, String.toList_append, String.toList_singleton,
    List.append_assoc, List.singleton_append,
    List.splitOnP_append_cons_of_forall_mem hword space hspace, List.filter_cons_of_pos
    (by rw [hfirst]; rfl), List.map_cons, String.ofList_toList]
  rfl

theorem splitWhitespace_word {word : String} (hne : word ≠ "") (hword : Unbroken word) :
    splitWhitespace word = [word] := by
  have hfirst : word.toList.isEmpty = false := by simpa using hne
  rw [splitWhitespace, List.splitOnP_eq_singleton hword, List.filter_cons_of_pos
    (by rw [hfirst]; rfl)]
  simp

/-! ### Lines -/

/-- Neither a line feed nor a carriage return is in the text. -/
def IsLine (s : String) : Prop := '\n' ∉ s.toList ∧ '\r' ∉ s.toList

instance (s : String) : Decidable (IsLine s) :=
  inferInstanceAs (Decidable ('\n' ∉ s.toList ∧ '\r' ∉ s.toList))

theorem IsWord.isLine {s : String} (h : IsWord s) : IsLine s :=
  ⟨h.not_mem (by decide) (by decide), h.not_mem (by decide) (by decide)⟩

@[simp] theorem isLine_append {s t : String} : IsLine (s ++ t) ↔ IsLine s ∧ IsLine t := by
  simp only [IsLine, String.toList_append, List.mem_append, not_or]
  exact and_and_and_comm

theorem stripCarriageReturn_of_not_mem {cs : List Char} (h : '\r' ∉ cs) :
    stripCarriageReturn cs = cs := by
  refine if_neg fun hlast => h ?_
  exact List.mem_of_getLast? hlast

theorem splitOn_unlines {ls : List String} (h : ∀ line ∈ ls, '\n' ∉ line.toList) :
    (unlines ls).toList.splitOn '\n' = ls.map String.toList ++ [[]] := by
  induction ls with
  | nil => rfl
  | cons line ls ih =>
      obtain ⟨hline, hls⟩ := List.forall_mem_cons.mp h
      have hcons : (unlines (line :: ls)).toList = line.toList ++ '\n' :: (unlines ls).toList := by
        simp [unlines]
      rw [hcons, List.splitOn_append_cons_self_of_not_mem hline, ih hls]
      rfl

/-- **Round trip** of lines. -/
theorem lines_unlines {ls : List String} (h : ∀ line ∈ ls, IsLine line) :
    lines (unlines ls) = ls := by
  have hstrip : (ls.map String.toList).map stripCarriageReturn = ls.map String.toList := by
    rw [List.map_map]
    exact List.map_congr_left fun line hline => stripCarriageReturn_of_not_mem (h line hline).2
  rw [lines, splitOn_unlines fun line hline => (h line hline).1]
  simp only [List.dropLast_concat, hstrip, List.getLast?_concat]
  simp

theorem unlines_append (ls ls' : List String) :
    unlines (ls ++ ls') = unlines ls ++ unlines ls' := by
  rw [unlines, List.map_append, String.join_append]
  rfl

theorem unlines_flatMap {α : Type*} (xs : List α) (f : α → List String) :
    unlines (xs.flatMap f) = String.join (xs.map fun x => unlines (f x)) := by
  induction xs with
  | nil => rfl
  | cons x xs ih => rw [List.flatMap_cons, unlines_append, ih, List.map_cons, String.join_cons]

end Text
