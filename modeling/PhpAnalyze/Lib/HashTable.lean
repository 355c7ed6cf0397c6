import Mathlib.Data.Nat.Notation
import Mathlib.Logic.Function.Basic
import Mathlib.Tactic.SplitIfs

/-! # Hash tables

What a hash table promises about its contents, for keys of type `κ` that hash by `hash`.
`Holds t m` reads: the table `t`, filled under the hashes of its keys, holds the finite map
`m`.

A lookup takes a hash and a predicate on keys.  It is correct when the predicate selects one
key and the hash is the hash of that key; nothing is said of other lookups.  So a lookup by
something that is not a key is correct as soon as it hashes as the key that it selects
(`fromHash_of_hash_eq`).

`HashTable.chained` is the table with one list for each bucket. -/

namespace Hashing

/-- A hash table and its promises. -/
structure HashTable (κ ν : Type) [DecidableEq κ] {η : Type} (hash : κ → η) where
  Table : Type
  empty : Table
  fromHash : Table → η → (κ → Bool) → Option ν
  insert : Table → κ → ν → Table
  insertHashedNocheck : Table → η → κ → ν → Table
  Holds : Table → (κ → Option ν) → Prop
  holds_empty : Holds empty fun _ => none
  fromHash_eq : ∀ {t m key p}, Holds t m → (∀ k, p k = true ↔ k = key) →
    fromHash t (hash key) p = m key
  holds_insert : ∀ {t m} (key value), Holds t m →
    Holds (insert t key value) (Function.update m key (some value))
  holds_insertHashedNocheck : ∀ {t m} (key value), Holds t m → m key = none →
    Holds (insertHashedNocheck t (hash key) key value) (Function.update m key (some value))

namespace HashTable

variable {κ ν η : Type} [DecidableEq κ] {hash : κ → η} (T : HashTable κ ν hash)

theorem fromHash_of_hash_eq {t : T.Table} {m : κ → Option ν} {h : η} {p : κ → Bool} {key : κ}
    (ht : T.Holds t m) (hp : ∀ k, p k = true ↔ k = key) (hh : h = hash key) :
    T.fromHash t h p = m key := by
  subst hh
  exact T.fromHash_eq ht hp

/-! ### Chaining -/

/-- The value that a bucket holds under a key. -/
def chainFind (chain : List (κ × ν)) (p : κ → Bool) : Option ν :=
  (chain.find? fun e => p e.1).map Prod.snd

/-- Overwrite the value of a key that is there, append a key that is not. -/
def chainInsert (chain : List (κ × ν)) (key : κ) (value : ν) : List (κ × ν) :=
  if (chainFind chain fun k => decide (k = key)).isSome then
    chain.map fun e => if e.1 = key then (key, value) else e
  else chain ++ [(key, value)]

theorem chainFind_append_of_none {chain : List (κ × ν)} {key : κ} (value : ν)
    (h : chainFind chain (fun k => decide (k = key)) = none) (k : κ) :
    chainFind (chain ++ [(key, value)]) (fun l => decide (l = k)) =
      if k = key then some value else chainFind chain fun l => decide (l = k) := by
  unfold chainFind at h ⊢
  rw [List.find?_append]
  by_cases hk : k = key
  · subst hk
    rw [Option.map_eq_none_iff.mp h]
    simp
  · have hk' : key ≠ k := fun he => hk he.symm
    simp [hk, hk']

theorem chainFind_overwrite {chain : List (κ × ν)} {key : κ} (value : ν) (k : κ) :
    chainFind (chain.map fun e => if e.1 = key then (key, value) else e)
        (fun l => decide (l = k)) =
      if k = key then (chainFind chain fun l => decide (l = k)).map fun _ => value
      else chainFind chain fun l => decide (l = k) := by
  unfold chainFind
  induction chain with
  | nil => split_ifs <;> rfl
  | cons e chain ih =>
      rw [List.map_cons, List.find?_cons, List.find?_cons]
      by_cases he : e.1 = key
      · by_cases hk : k = key
        · simp [he, hk]
        · have hk' : key ≠ k := fun h => hk h.symm
          simpa [he, hk, hk'] using ih
      · by_cases hek : e.1 = k
        · have hk : k ≠ key := fun h => he (hek.trans h)
          simp [hek, hk]
        · simpa [he, hek] using ih

theorem chainFind_insert (chain : List (κ × ν)) (key : κ) (value : ν) (k : κ) :
    chainFind (chainInsert chain key value) (fun l => decide (l = k)) =
      if k = key then some value else chainFind chain fun l => decide (l = k) := by
  unfold chainInsert
  cases hfind : chainFind chain fun l => decide (l = key) with
  | none => exact chainFind_append_of_none value hfind k
  | some old =>
      rw [Option.isSome_some, if_pos rfl, chainFind_overwrite]
      by_cases hk : k = key
      · subst hk
        rw [if_pos rfl, if_pos rfl, hfind]
        rfl
      · rw [if_neg hk, if_neg hk]

/-- One list for each bucket; a hash chooses the bucket. -/
def chained (bucket : η → ℕ) : HashTable κ ν hash where
  Table := ℕ → List (κ × ν)
  empty _ := []
  fromHash t h p := chainFind (t (bucket h)) p
  insert t key value :=
    Function.update t (bucket (hash key)) (chainInsert (t (bucket (hash key))) key value)
  insertHashedNocheck t h key value :=
    Function.update t (bucket h) (t (bucket h) ++ [(key, value)])
  Holds t m := ∀ k, chainFind (t (bucket (hash k))) (fun l => decide (l = k)) = m k
  holds_empty _ := rfl
  fromHash_eq {t m key p} ht hp := by
    rw [← ht key]
    congr 1
    funext k
    rw [Bool.eq_iff_iff, hp, decide_eq_true_iff]
  holds_insert {t m} key value ht k := by
    by_cases hb : bucket (hash k) = bucket (hash key)
    · rw [hb, Function.update_self, chainFind_insert, ← hb, ht, Function.update_apply]
    · have hk : k ≠ key := fun h => hb (congrArg (bucket ∘ hash) h)
      rw [Function.update_of_ne hb, ht, Function.update_of_ne hk]
  holds_insertHashedNocheck {t m} key value ht hnone k := by
    by_cases hb : bucket (hash k) = bucket (hash key)
    · rw [hb, Function.update_self, chainFind_append_of_none value ((ht key).trans hnone), ← hb, ht,
        Function.update_apply]
    · have hk : k ≠ key := fun h => hb (congrArg (bucket ∘ hash) h)
      rw [Function.update_of_ne hb, ht, Function.update_of_ne hk]

end HashTable

end Hashing
