import PhpAnalyze.Lib.Interner
import PhpAnalyze.Types

/-! # The function dictionary (`recorder/dictionary.rs`)

`internRef` probes the map with a borrowed key and, on a miss, assigns the next `fn_id` and
stages one entry for the next batch; `intern` does the same with an owned key.
`takeNewEntries` moves the staged entries out and leaves the map alone.

The map is a list of pairs in order of insertion.  `Refines` relates it to an `Interner`:
the map is the interner's table, so that probes, ids and their stability are facts about
interners. -/

namespace PhpAnalyze

open Interning

inductive ProbeOutcome where
  | hit
  | miss
deriving DecidableEq, Repr

structure Dictionary where
  internMap : List (FunctionKey × ℕ)
  newEntries : List DictEntry
  nextFnId : ℕ
deriving DecidableEq, Repr

namespace Dictionary

/-- The first assigned `fn_id` is `1`. -/
def new : Dictionary where
  internMap := []
  newEntries := []
  nextFnId := 1

/-- The bucket walk of `raw_entry`: the first key that matches the borrowed one. -/
def probeRef (d : Dictionary) (keyRef : FunctionKeyRef) : Option ℕ :=
  (d.internMap.find? fun p => p.1.matchesRef keyRef).map Prod.snd

def containsKeyRef (d : Dictionary) (keyRef : FunctionKeyRef) : Bool :=
  (d.probeRef keyRef).isSome

/-- Insert the key under the next `fn_id` and stage its entry. -/
def stage (d : Dictionary) (built : FunctionKey × DictEntry) : Dictionary where
  internMap := d.internMap ++ [(built.1, d.nextFnId)]
  newEntries := d.newEntries ++ [built.2]
  nextFnId := d.nextFnId + 1

/-- Look the key up or intern it; `none` is the panic of the `u32` counter. -/
def internRef (d : Dictionary) (keyRef : FunctionKeyRef) (build : ℕ → FunctionKey × DictEntry) :
    Option (ℕ × ProbeOutcome × Dictionary) :=
  match d.probeRef keyRef with
  | some fnId => some (fnId, .hit, d)
  | none =>
      let fnId := d.nextFnId
      if fnId < u32Max then some (fnId, .miss, d.stage (build fnId)) else none

/-- `HashMap::get` with an owned key. -/
def probe (d : Dictionary) (key : FunctionKey) : Option ℕ :=
  (d.internMap.find? fun p => decide (p.1 = key)).map Prod.snd

def containsKey (d : Dictionary) (key : FunctionKey) : Bool :=
  (d.probe key).isSome

/-- The next `fn_id`; `none` is the panic of the `u32` counter. -/
def allocateFnId (d : Dictionary) : Option (ℕ × Dictionary) :=
  let fnId := d.nextFnId
  if fnId < u32Max then some (fnId, { d with nextFnId := fnId + 1 }) else none

/-- The owned sibling of `internRef`. -/
def intern (d : Dictionary) (key : FunctionKey) (build : ℕ → DictEntry) :
    Option (ℕ × Dictionary) :=
  match d.probe key with
  | some existing => some (existing, d)
  | none =>
      match d.allocateFnId with
      | none => none
      | some (fnId, d) =>
          some (fnId, { d with
            internMap := d.internMap ++ [(key, fnId)]
            newEntries := d.newEntries ++ [build fnId] })

def takeNewEntries (d : Dictionary) : List DictEntry × Dictionary :=
  (d.newEntries, { d with newEntries := [] })

theorem probe_toOwned (d : Dictionary) (keyRef : FunctionKeyRef) :
    d.probe keyRef.toOwned = d.probeRef keyRef := by
  unfold probe probeRef
  congr 2
  funext p
  rw [Bool.eq_iff_iff, FunctionKey.matchesRef_iff, decide_eq_true_iff]

theorem probe_eq (d : Dictionary) (key : FunctionKey) : d.probe key = d.probeRef key.asRef := by
  rw [← probe_toOwned, FunctionKey.toOwned_asRef]

theorem intern_eq (d : Dictionary) (key : FunctionKey) (build : ℕ → DictEntry) :
    d.intern key build =
      (d.internRef key.asRef fun fnId => (key, build fnId)).map fun p => (p.1, p.2.2) := by
  unfold intern internRef allocateFnId
  rw [probe_eq]
  cases d.probeRef key.asRef with
  | some fnId => rfl
  | none => by_cases hlt : d.nextFnId < u32Max <;> simp [hlt, stage]

/-- What `internRef` can do: a hit changes nothing, a miss stages the next `fn_id`. -/
theorem internRef_eq_some {d d' : Dictionary} {keyRef : FunctionKeyRef}
    {build : ℕ → FunctionKey × DictEntry} {fnId : ℕ} {outcome : ProbeOutcome} :
    d.internRef keyRef build = some (fnId, outcome, d') ↔
      (d.probeRef keyRef = some fnId ∧ outcome = .hit ∧ d' = d) ∨
      (d.probeRef keyRef = none ∧ fnId = d.nextFnId ∧ fnId < u32Max ∧ outcome = .miss ∧
        d' = d.stage (build fnId)) := by
  unfold internRef
  cases hp : d.probeRef keyRef with
  | some id =>
      simp only [Option.some.injEq, Prod.mk.injEq, reduceCtorEq, false_and, or_false]
      constructor
      · rintro ⟨rfl, rfl, rfl⟩
        exact ⟨rfl, rfl, rfl⟩
      · rintro ⟨rfl, rfl, rfl⟩
        exact ⟨rfl, rfl, rfl⟩
  | none =>
      simp only [reduceCtorEq, false_and, true_and, false_or]
      constructor
      · intro h
        split at h
        · cases h
          exact ⟨rfl, ‹_›, rfl, rfl⟩
        · cases h
      · rintro ⟨rfl, hlt, rfl, rfl⟩
        rw [if_pos hlt]

theorem exists_internRef_of_lt {d : Dictionary} (h : d.nextFnId < u32Max) (keyRef : FunctionKeyRef)
    (build : ℕ → FunctionKey × DictEntry) :
    ∃ fnId outcome d', d.internRef keyRef build = some (fnId, outcome, d') := by
  cases hp : d.probeRef keyRef with
  | some fnId => exact ⟨fnId, .hit, d, internRef_eq_some.mpr (.inl ⟨hp, rfl, rfl⟩)⟩
  | none => exact ⟨_, .miss, _, internRef_eq_some.mpr (.inr ⟨hp, rfl, h, rfl, rfl⟩)⟩

theorem nextFnId_internRef_le {d d' : Dictionary} {keyRef : FunctionKeyRef}
    {build : ℕ → FunctionKey × DictEntry} {fnId : ℕ} {outcome : ProbeOutcome}
    (h : d.internRef keyRef build = some (fnId, outcome, d')) : d'.nextFnId ≤ d.nextFnId + 1 := by
  obtain ⟨-, -, rfl⟩ | ⟨-, -, -, -, rfl⟩ := internRef_eq_some.mp h
  · exact Nat.le_succ _
  · exact Nat.le_refl _

/-! ### The dictionary is an interner -/

/-- The map is the table of the interner and the counter its next id. -/
structure Refines (d : Dictionary) (t : Interner FunctionKey) : Prop where
  table : d.internMap = t.keys.zipIdx 1
  next : d.nextFnId = t.keys.length + 1

theorem refines_new : new.Refines Interner.empty := ⟨rfl, rfl⟩

variable {d d' : Dictionary} {t : Interner FunctionKey}

theorem Refines.takeNewEntries (h : d.Refines t) : d.takeNewEntries.2.Refines t :=
  ⟨h.table, h.next⟩

theorem Refines.probeRef_eq (h : d.Refines t) (keyRef : FunctionKeyRef) :
    d.probeRef keyRef = t.idOf keyRef.toOwned := by
  rw [← probe_toOwned, probe, h.table, t.idOf_eq_find?]

/-- `internRef` refines `Interner.intern` and returns the id of the key. -/
theorem Refines.internRef (h : d.Refines t) {keyRef : FunctionKeyRef}
    {build : ℕ → FunctionKey × DictEntry} (hkey : ∀ i, (build i).1 = keyRef.toOwned) {fnId : ℕ}
    {outcome : ProbeOutcome} (hd : d.internRef keyRef build = some (fnId, outcome, d')) :
    d'.Refines (t.intern keyRef.toOwned) ∧
      (t.intern keyRef.toOwned).idOf keyRef.toOwned = some fnId := by
  rcases internRef_eq_some.mp hd with ⟨hp, -, rfl⟩ | ⟨hp, rfl, -, -, rfl⟩
  · rw [h.probeRef_eq] at hp
    have hmem : keyRef.toOwned ∈ t.keys := by
      by_contra hno
      rw [Interner.idOf_eq_none.mpr hno] at hp
      cases hp
    rw [Interner.intern_of_mem hmem]
    exact ⟨h, hp⟩
  · rw [h.probeRef_eq] at hp
    have hkeys := Interner.keys_intern_of_not_mem (Interner.idOf_eq_none.mp hp)
    refine ⟨⟨?_, ?_⟩, ?_⟩
    · simp [stage, hkeys, h.table, h.next, hkey, List.zipIdx_append, Nat.add_comm]
    · simp [stage, hkeys, h.next]
    · rw [h.next, Interner.idOf_intern_of_none hp]

theorem Refines.exists_internRef (h : d.Refines t) {keyRef : FunctionKeyRef}
    (build : ℕ → FunctionKey × DictEntry)
    (hlen : (t.intern keyRef.toOwned).keys.length < u32Max) :
    ∃ fnId outcome d', d.internRef keyRef build = some (fnId, outcome, d') := by
  cases hp : d.probeRef keyRef with
  | some fnId => exact ⟨fnId, .hit, d, internRef_eq_some.mpr (.inl ⟨hp, rfl, rfl⟩)⟩
  | none =>
      have hp' := hp
      rw [h.probeRef_eq] at hp'
      rw [Interner.keys_intern_of_not_mem (Interner.idOf_eq_none.mp hp'), List.length_append,
        List.length_singleton, ← h.next] at hlen
      exact exists_internRef_of_lt hlen keyRef build

def fnIdOf (d : Dictionary) (key : FunctionKey) : ℕ := (d.probeRef key.asRef).getD 0

theorem Refines.fnIdOf_eq (h : d.Refines t) (key : FunctionKey) :
    d.fnIdOf key = (t.idOf key).getD 0 := by
  rw [fnIdOf, h.probeRef_eq, FunctionKey.toOwned_asRef]

end Dictionary

end PhpAnalyze
