import Mathlib.Data.Finset.Insert
import PhpAnalyze.Config

/-! # The skip filter (`should_observe_filter` in `recorder/observer.rs`)

`parse_skip_functions` and the filter bring names to one normal form: the set holds the entries
in lower case, and the filter asks for the key of the function in lower case.  So a function is
skipped exactly by the entries that are its key up to the case of ASCII letters
(`skip_filter_by_name`).

The key of a method has a `::`, hence an entry without one never skips a method.  The key of a
free function is its name, whatever is in it (`not_every_filter_by_name`). -/

namespace PhpAnalyze

/-- What the filter looks at of an `FcallInfo`. -/
structure FcallInfo where
  functionName : Option String
  className : Option String
  isInternal : Bool
deriving DecidableEq, Repr

def shouldObserveFilter (skipInternal : Bool) (skipFunctions : Finset String)
    (info : FcallInfo) : Bool :=
  if skipInternal && info.isInternal then false
  else
    match info.functionName with
    -- what has no name is observed
    | none => true
    | some name =>
        let key :=
          match info.className with
          | some cls => Text.toAsciiLowercase cls ++ "::" ++ Text.toAsciiLowercase name
          | none => Text.toAsciiLowercase name
        decide (key ∉ skipFunctions)

/-- `Recorder::should_observe`, from the configuration of the process. -/
def shouldObserve (global : Option Config) (info : FcallInfo) : Bool :=
  match global with
  | some c => shouldObserveFilter c.skipInternal c.skipFunctions info
  | none => true

/-! ### Names -/

/-- `class::name`, or the name of a free function. -/
def FcallInfo.key (info : FcallInfo) : Option String :=
  info.functionName.map fun name =>
    match info.className with
    | some cls => cls ++ "::" ++ name
    | none => name

def commaEntries (text : Option String) : List String :=
  match text with
  | some value => (Text.split ',' value).map Text.trim
  | none => []

/-- The nonempty entries, or the default list. -/
def skipEntries (text : Option String) : List String :=
  if (commaEntries text).filter (· ≠ "") = [] then defaultSkipFunctions
  else (commaEntries text).filter (· ≠ "")

/-- The entry names the function. -/
def SkippedBy (entry : String) (info : FcallInfo) : Prop :=
  ∃ key, info.key = some key ∧ Text.eqIgnoreAsciiCase key entry = true

def IsMethodEntry (entry : String) : Prop := "::".toList <:+: entry.toList

theorem map_toAsciiLowercase_defaultSkipFunctions :
    defaultSkipFunctions.map Text.toAsciiLowercase = defaultSkipFunctions := by
  simp [defaultSkipFunctions, Text.toAsciiLowercase]

theorem parseSkipFunctions_eq (text : Option String) :
    parseSkipFunctions text = ((skipEntries text).map Text.toAsciiLowercase).toFinset := by
  have hparsed : parseSkipFunctions text =
      if (((commaEntries text).filter (· ≠ "")).map Text.toAsciiLowercase).toFinset = ∅ then
        defaultSkipFunctions.toFinset
      else (((commaEntries text).filter (· ≠ "")).map Text.toAsciiLowercase).toFinset := by
    cases text <;> rfl
  rw [hparsed, skipEntries]
  simp only [List.toFinset_eq_empty_iff, List.map_eq_nil_iff]
  split_ifs
  · rw [map_toAsciiLowercase_defaultSkipFunctions]
  · rfl

/-- The filter asks for the key in lower case. -/
theorem shouldObserveFilter_eq_false_iff (skipInternal : Bool) (skipFunctions : Finset String)
    (info : FcallInfo) :
    shouldObserveFilter skipInternal skipFunctions info = false ↔
      (skipInternal = true ∧ info.isInternal = true) ∨
        ∃ key, info.key = some key ∧ Text.toAsciiLowercase key ∈ skipFunctions := by
  obtain ⟨functionName, className, isInternal⟩ := info
  have hcolons : Text.toAsciiLowercase "::" = "::" := by decide
  cases functionName with
  | none => simp [shouldObserveFilter, FcallInfo.key]
  | some name =>
      cases className <;>
        simp [shouldObserveFilter, FcallInfo.key, Text.toAsciiLowercase_append, hcolons,
          imp_iff_not_or]

/-! ### Membership -/

theorem isMethodEntry_toAsciiLowercase (s : String) :
    IsMethodEntry (Text.toAsciiLowercase s) ↔ IsMethodEntry s := by
  rw [IsMethodEntry, IsMethodEntry, Text.toList_toAsciiLowercase]
  exact Text.infix_map_toLower_iff (by simp) (by decide) s.toList

theorem isMethodEntry_iff_of_eqIgnoreAsciiCase {s t : String}
    (h : Text.eqIgnoreAsciiCase s t = true) : IsMethodEntry s ↔ IsMethodEntry t := by
  rw [← isMethodEntry_toAsciiLowercase s, ← isMethodEntry_toAsciiLowercase t, eq_of_beq h]

theorem isMethodEntry_of_skippedBy {entry : String} {info : FcallInfo}
    (h : SkippedBy entry info) (hmethod : info.className ≠ none) : IsMethodEntry entry := by
  obtain ⟨key, hkey, heq⟩ := h
  obtain ⟨cls, hclass⟩ := Option.ne_none_iff_exists'.mp hmethod
  obtain ⟨name, -, rfl⟩ := Option.map_eq_some_iff.mp hkey
  refine (isMethodEntry_iff_of_eqIgnoreAsciiCase heq).mp ⟨cls.toList, name.toList, ?_⟩
  simp only [hclass, String.toList_append]

theorem not_isMethodEntry_of_skippedBy {entry : String} {info : FcallInfo}
    (h : SkippedBy entry info) (hfree : info.className = none)
    (hname : ∀ name, info.functionName = some name → ¬IsMethodEntry name) :
    ¬IsMethodEntry entry := by
  obtain ⟨key, hkey, heq⟩ := h
  obtain ⟨name, hsome, rfl⟩ := Option.map_eq_some_iff.mp hkey
  simp only [hfree] at heq
  rw [← isMethodEntry_iff_of_eqIgnoreAsciiCase heq]
  exact hname name hsome

/-- **The filter decides by name**: a function is skipped if and only if it is internal and
these are skipped, or an entry is its key up to the case of letters.  An entry without `::`
skips no method, and one with `::` skips no free function without it in its name. -/
theorem skip_filter_by_name (text : Option String) (skipInternal : Bool) (info : FcallInfo) :
    (shouldObserveFilter skipInternal (parseSkipFunctions text) info = false ↔
      (skipInternal = true ∧ info.isInternal = true) ∨
        ∃ entry ∈ skipEntries text, SkippedBy entry info) ∧
    (∀ entry, SkippedBy entry info → info.className ≠ none → IsMethodEntry entry) ∧
    (∀ entry, SkippedBy entry info → info.className = none →
      (∀ name, info.functionName = some name → ¬IsMethodEntry name) → ¬IsMethodEntry entry) := by
  refine ⟨?_, fun _ => isMethodEntry_of_skippedBy, fun _ => not_isMethodEntry_of_skippedBy⟩
  rw [shouldObserveFilter_eq_false_iff, parseSkipFunctions_eq]
  refine or_congr_right ⟨?_, ?_⟩
  · rintro ⟨key, hkey, hmem⟩
    obtain ⟨entry, hentry, heq⟩ := List.mem_map.mp (List.mem_toFinset.mp hmem)
    exact ⟨entry, hentry, key, hkey, beq_iff_eq.mpr heq.symm⟩
  · rintro ⟨entry, hentry, key, hkey, heq⟩
    exact ⟨key, hkey, List.mem_toFinset.mpr
      (List.mem_map.mpr ⟨entry, hentry, (eq_of_beq heq).symm⟩)⟩

/-- A free function whose name has a `::` is skipped by that entry, and an empty entry does not
skip a function with an empty name. -/
theorem not_every_filter_by_name :
    (¬ ∀ (text : Option String) (info : FcallInfo),
      (∀ entry ∈ skipEntries text, IsMethodEntry entry) → info.className = none →
      shouldObserveFilter false (parseSkipFunctions text) info = true) ∧
    ¬ ∀ (text : Option String) (skipInternal : Bool) (info : FcallInfo),
      (commaEntries text).filter (· ≠ "") ≠ [] →
      (shouldObserveFilter skipInternal (parseSkipFunctions text) info = false ↔
        (skipInternal = true ∧ info.isInternal = true) ∨
          ∃ entry ∈ commaEntries text, SkippedBy entry info) := by
  constructor
  · intro h
    have hobserved := h (some "foo::bar") ⟨some "foo::bar", none, false⟩
      (fun entry hentry => by
        rw [show skipEntries (some "foo::bar") = ["foo::bar"] by decide] at hentry
        rw [List.mem_singleton.mp hentry]
        exact ⟨"foo".toList, "bar".toList, by decide⟩) rfl
    exact absurd hobserved (by decide)
  · intro h
    have hskipped := (h (some "strlen,,count") false ⟨some "", none, false⟩ (by decide)).mpr
      (.inr ⟨"", by decide, "", rfl, by decide⟩)
    exact absurd hskipped (by decide)

end PhpAnalyze
