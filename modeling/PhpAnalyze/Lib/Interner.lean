import Mathlib.Data.List.Dedup
import Mathlib.Data.List.Induction
import Mathlib.Data.List.Nodup
import Mathlib.Data.List.Perm.Subperm
import Mathlib.Data.Nat.Notation
import Mathlib.Logic.Function.Basic

/-! # Interners

An interner gives consecutive ids, from `1` on, to keys in order of first sight.  It is the
list of its keys, without repetition; the id of a key is its position.

* `idOf_mono`: an id never changes while the interner grows (`keys_prefix_intern`).
* `idOf_eq_find?`: the table of pairs `(key, id)` answers a probe as the interner does.
* `firsts`: the first element of each key; an interner fed with all the keys interns
  theirs. -/

namespace Interning

/-- The interned keys, in order of first sight. -/
structure Interner (κ : Type*) where
  keys : List κ
  nodup : keys.Nodup

namespace Interner

variable {κ : Type*}

def empty : Interner κ := ⟨[], List.nodup_nil⟩

variable [DecidableEq κ]

/-- The id of a key. -/
def idOf (t : Interner κ) (k : κ) : Option ℕ :=
  if k ∈ t.keys then some (t.keys.idxOf k + 1) else none

/-- Give the key an id if it has none. -/
def intern (t : Interner κ) (k : κ) : Interner κ :=
  if h : k ∈ t.keys then t
  else ⟨t.keys ++ [k], List.nodup_append_comm.mp (List.nodup_cons.mpr ⟨h, t.nodup⟩)⟩

variable {t u : Interner κ} {k k' : κ} {i : ℕ}

theorem idOf_eq_none : t.idOf k = none ↔ k ∉ t.keys := by
  simp [idOf]

/-- Position `i` of the key list holds the key of the id `i + 1`. -/
theorem idOf_eq_succ : t.idOf k = some (i + 1) ↔ t.keys[i]? = some k := by
  constructor
  · intro h
    by_cases hk : k ∈ t.keys
    · have hi : t.keys.idxOf k = i := by simpa [idOf, hk] using h
      rw [← hi, List.getElem?_eq_getElem (List.idxOf_lt_length_of_mem hk), List.getElem_idxOf]
    · simp [idOf, hk] at h
  · intro h
    obtain ⟨hi, rfl⟩ := List.getElem?_eq_some_iff.mp h
    simp [idOf, t.nodup.idxOf_getElem]

theorem idOf_pos (h : t.idOf k = some i) : 0 < i := by
  by_cases hk : k ∈ t.keys
  · have : t.keys.idxOf k + 1 = i := by simpa [idOf, hk] using h
    omega
  · simp [idOf, hk] at h

theorem idOf_eq_some : t.idOf k = some i ↔ 0 < i ∧ t.keys[i - 1]? = some k := by
  cases i with
  | zero =>
      constructor
      · intro h
        exact absurd (idOf_pos h) (Nat.lt_irrefl 0)
      · rintro ⟨h, -⟩
        exact absurd h (Nat.lt_irrefl 0)
  | succ i => simp [idOf_eq_succ]

theorem idOf_le_length (h : t.idOf k = some i) : i ≤ t.keys.length := by
  obtain ⟨hpos, hget⟩ := idOf_eq_some.mp h
  obtain ⟨hlt, -⟩ := List.getElem?_eq_some_iff.mp hget
  omega

/-- **An id never changes** while keys are appended. -/
theorem idOf_mono (hp : t.keys <+: u.keys) (h : t.idOf k = some i) : u.idOf k = some i := by
  obtain ⟨hpos, hget⟩ := idOf_eq_some.mp h
  refine idOf_eq_some.mpr ⟨hpos, ?_⟩
  obtain ⟨rest, hrest⟩ := hp
  rw [← hrest, List.getElem?_append_left (List.getElem?_eq_some_iff.mp hget).1, hget]

theorem intern_of_mem (h : k ∈ t.keys) : t.intern k = t := by
  simp [intern, h]

theorem keys_intern_of_not_mem (h : k ∉ t.keys) : (t.intern k).keys = t.keys ++ [k] := by
  simp [intern, h]

theorem keys_prefix_intern (t : Interner κ) (k : κ) : t.keys <+: (t.intern k).keys := by
  by_cases h : k ∈ t.keys
  · simp only [intern_of_mem h, List.prefix_refl]
  · simp only [keys_intern_of_not_mem h, List.prefix_append]

/-- A new key gets the next id. -/
theorem idOf_intern_of_none (h : t.idOf k = none) :
    (t.intern k).idOf k = some (t.keys.length + 1) := by
  rw [idOf_eq_succ, keys_intern_of_not_mem (idOf_eq_none.mp h), List.getElem?_concat_length]

/-- The new key is the only one whose id changes. -/
theorem idOf_intern_eq_update (h : k ∉ t.keys) :
    (t.intern k).idOf = Function.update t.idOf k (some (t.keys.length + 1)) := by
  funext l
  rw [Function.update_apply]
  by_cases hl : l = k
  · rw [if_pos hl, hl, idOf_intern_of_none (idOf_eq_none.mpr h)]
  · rw [if_neg hl]
    cases hid : t.idOf l with
    | some i => exact idOf_mono (keys_prefix_intern t k) hid
    | none =>
        rw [idOf_eq_none] at hid ⊢
        rw [keys_intern_of_not_mem h, List.mem_append, List.mem_singleton]
        exact not_or.mpr ⟨hid, hl⟩

/-! ### Interning a list of keys -/

/-- Intern the keys from left to right. -/
def internAll (t : Interner κ) (ks : List κ) : Interner κ := ks.foldl intern t

@[simp] theorem internAll_nil (t : Interner κ) : t.internAll [] = t := rfl

@[simp] theorem internAll_cons (t : Interner κ) (k : κ) (ks : List κ) :
    t.internAll (k :: ks) = (t.intern k).internAll ks := rfl

theorem internAll_append (t : Interner κ) (ks ls : List κ) :
    t.internAll (ks ++ ls) = (t.internAll ks).internAll ls := List.foldl_append

theorem keys_prefix_internAll (t : Interner κ) (ks : List κ) :
    t.keys <+: (t.internAll ks).keys := by
  induction ks generalizing t with
  | nil => exact List.prefix_rfl
  | cons k ks ih => exact (t.keys_prefix_intern k).trans (ih (t.intern k))

theorem mem_keys_intern {l : κ} : l ∈ (t.intern k).keys ↔ l ∈ t.keys ∨ l = k := by
  by_cases h : k ∈ t.keys
  · rw [intern_of_mem h]
    refine ⟨Or.inl, fun hl => hl.elim id fun hlk => hlk ▸ h⟩
  · rw [keys_intern_of_not_mem h, List.mem_append, List.mem_singleton]

theorem mem_keys_internAll {ks : List κ} {l : κ} :
    l ∈ (t.internAll ks).keys ↔ l ∈ t.keys ∨ l ∈ ks := by
  induction ks generalizing t with
  | nil => simp
  | cons k ks ih => rw [internAll_cons, ih, mem_keys_intern, List.mem_cons, or_assoc]

/-- An interner that starts empty has no more keys than there are distinct keys. -/
theorem length_internAll_empty_le (ks : List κ) :
    ((empty : Interner κ).internAll ks).keys.length ≤ ks.dedup.length := by
  refine ((internAll empty ks).nodup.subperm fun k hk => ?_).length_le
  rw [List.mem_dedup]
  exact (mem_keys_internAll.mp hk).resolve_left List.not_mem_nil

/-! ### The first element of each key -/

section firsts

variable {α : Type*} (key : α → κ)

/-- Append an element whose key is new. -/
def addFirst (xs : List α) (x : α) : List α := if key x ∈ xs.map key then xs else xs ++ [x]

/-- The first element of each key, in order. -/
def firsts (xs : List α) : List α := xs.foldl (addFirst key) []

theorem firsts_snoc (xs : List α) (x : α) :
    firsts key (xs ++ [x]) = addFirst key (firsts key xs) x := by
  rw [firsts, List.foldl_append]
  rfl

/-- The keys of the first elements are the keys of the interner. -/
theorem map_key_firsts (xs : List α) :
    (firsts key xs).map key = ((empty : Interner κ).internAll (xs.map key)).keys := by
  induction xs using List.reverseRecOn with
  | nil => rfl
  | append_singleton xs x ih =>
      rw [firsts_snoc, List.map_append, internAll_append, List.map_singleton, internAll_cons,
        internAll_nil, addFirst, ih]
      split_ifs with h
      · rw [ih, intern_of_mem h]
      · rw [keys_intern_of_not_mem h, List.map_append, ih, List.map_singleton]

theorem firsts_sublist (xs : List α) : (firsts key xs).Sublist xs := by
  induction xs using List.reverseRecOn with
  | nil => exact List.Sublist.slnil
  | append_singleton xs x ih =>
      rw [firsts_snoc, addFirst]
      split_ifs
      · exact ih.trans (List.sublist_append_left xs [x])
      · exact ih.append (List.Sublist.refl [x])

theorem nodup_map_firsts (xs : List α) : ((firsts key xs).map key).Nodup := by
  rw [map_key_firsts]
  exact Interner.nodup _

theorem mem_map_firsts {xs : List α} {k : κ} : k ∈ (firsts key xs).map key ↔ k ∈ xs.map key := by
  rw [map_key_firsts, mem_keys_internAll]
  exact or_iff_right List.not_mem_nil

/-- No earlier element has the key of a first element. -/
theorem firsts_first {xs : List α} {x : α} (h : x ∈ firsts key xs) :
    ∃ pre post, xs = pre ++ x :: post ∧ key x ∉ pre.map key := by
  induction xs using List.reverseRecOn with
  | nil => exact absurd h List.not_mem_nil
  | append_singleton xs y ih =>
      have hold : x ∈ firsts key xs → ∃ pre post, xs ++ [y] = pre ++ x :: post ∧
          key x ∉ pre.map key := by
        intro hx
        obtain ⟨pre, post, hsplit, hpre⟩ := ih hx
        exact ⟨pre, post ++ [y], by rw [hsplit, List.append_assoc, List.cons_append], hpre⟩
      rw [firsts_snoc, addFirst] at h
      split_ifs at h with hy
      · exact hold h
      · rcases List.mem_append.mp h with hx | hx
        · exact hold hx
        · obtain rfl := List.mem_singleton.mp hx
          exact ⟨xs, [], rfl, fun hmem => hy ((mem_map_firsts key).mpr hmem)⟩

/-- `ys` lists the first element of each key of `xs`, in order. -/
structure FirstOfEach (xs ys : List α) : Prop where
  sublist : ys.Sublist xs
  nodup : (ys.map key).Nodup
  complete : ∀ k, k ∈ ys.map key ↔ k ∈ xs.map key
  first : ∀ y ∈ ys, ∃ pre post, xs = pre ++ y :: post ∧ key y ∉ pre.map key

theorem firstOfEach_firsts (xs : List α) : FirstOfEach key xs (firsts key xs) where
  sublist := firsts_sublist key xs
  nodup := nodup_map_firsts key xs
  complete _ := mem_map_firsts key
  first _ h := firsts_first key h

end firsts

/-! ### The table of an interner -/

theorem find?_zipIdx (ks : List κ) (n : ℕ) (k : κ) :
    ((ks.zipIdx n).find? fun p => decide (p.1 = k)).map Prod.snd =
      if k ∈ ks then some (ks.idxOf k + n) else none := by
  induction ks generalizing n with
  | nil => rfl
  | cons a ks ih =>
      rw [List.zipIdx_cons, List.find?_cons]
      by_cases ha : a = k
      · simp [ha]
      · have ha' : k ≠ a := fun h => ha h.symm
        simp only [ha, decide_false, ih, List.mem_cons, ha', false_or, List.idxOf_cons_ne _ ha,
          Nat.succ_eq_add_one, Nat.add_assoc, Nat.add_comm 1 n]

/-- Probing the table of pairs is asking for the id. -/
theorem idOf_eq_find? (t : Interner κ) (k : κ) :
    ((t.keys.zipIdx 1).find? fun p => decide (p.1 = k)).map Prod.snd = t.idOf k :=
  find?_zipIdx t.keys 1 k

end Interner

end Interning
