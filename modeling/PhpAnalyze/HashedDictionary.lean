import PhpAnalyze.Dictionary
import PhpAnalyze.Lib.HashTable
import PhpAnalyze.Lib.Machine

/-! # The dictionary over its hash table

`Dictionary` keeps its map as a list of pairs.  The program keeps it in a `hashbrown` table
and probes that with two kinds of keys, an owned `FunctionKey` and a borrowed
`FunctionKeyRef`, each with a `Hash` implementation of its own.  `HashedDictionary` is the
dictionary at this level, over any `HashTable`.

A `Hash` implementation is the list of what it writes to the hasher, and `finish` is what the
hasher makes of it.  Both probes of a key are lookups of the same key because the two
implementations write the same (`hash_eq_of_matchesRef`).

Three levels answer alike: the hashed dictionary, the list (`Simulates`), and `FnMap`, the
finite map from keys to ids that the dictionary is meant to be. -/

namespace PhpAnalyze

open Machine Interning Hashing

/-! ### The two `Hash` implementations -/

/-- One call on a hasher; `str` is what `<str as Hash>::hash` does. -/
inductive HashWrite where
  | u8 (n : UInt8)
  | str (s : String)
  | u32 (n : UInt32)
deriving DecidableEq, Repr

def fnKeyTagFunction : UInt8 := 0
def fnKeyTagMethod : UInt8 := 1
def fnKeyTagClosure : UInt8 := 2
def fnKeyTagInternal : UInt8 := 3

def FunctionKey.hash : FunctionKey → List HashWrite
  | .function file fn line =>
      [.u8 fnKeyTagFunction, .str file, .str fn, .u32 line]
  | .method class_ meth => [.u8 fnKeyTagMethod, .str class_, .str meth]
  | .closure file line => [.u8 fnKeyTagClosure, .str file, .u32 line]
  | .internal name => [.u8 fnKeyTagInternal, .str name]

def FunctionKeyRef.hash : FunctionKeyRef → List HashWrite
  | .function file fn line =>
      [.u8 fnKeyTagFunction, .str file, .str fn, .u32 line]
  | .method class_ meth => [.u8 fnKeyTagMethod, .str class_, .str meth]
  | .closure file line => [.u8 fnKeyTagClosure, .str file, .u32 line]
  | .internal name => [.u8 fnKeyTagInternal, .str name]

theorem FunctionKeyRef.hash_toOwned (keyRef : FunctionKeyRef) :
    keyRef.toOwned.hash = keyRef.hash := by
  cases keyRef <;> rfl

/-- Keys that match write the same to the hasher. -/
theorem FunctionKey.hash_eq_of_matchesRef {key : FunctionKey} {keyRef : FunctionKeyRef}
    (h : key.matchesRef keyRef = true) : key.hash = keyRef.hash := by
  rw [FunctionKey.matchesRef_iff.mp h, FunctionKeyRef.hash_toOwned]

/-! ### Operations and answers -/

/-- A call on a dictionary.  The closure given to `intern_ref` builds the owned key of the
borrowed one, and an entry. -/
inductive DictOp where
  | intern (key : FunctionKey) (build : ℕ → DictEntry)
  | internRef (keyRef : FunctionKeyRef) (build : ℕ → DictEntry)
  | containsKey (key : FunctionKey)
  | containsKeyRef (keyRef : FunctionKeyRef)
  | takeNewEntries

inductive DictAnswer where
  | id (fnId : ℕ)
  | idOutcome (fnId : ℕ) (outcome : ProbeOutcome)
  | contained (found : Bool)
  | entries (entries : List DictEntry)
deriving DecidableEq, Repr

/-- The key and the entry that the call offers to the dictionary. -/
def DictOp.offer : DictOp → List (FunctionKey × (ℕ → DictEntry))
  | .intern key build => [(key, build)]
  | .internRef keyRef build => [(keyRef.toOwned, build)]
  | _ => []

/-- What the calls offer, in order. -/
def offers (ops : List DictOp) : List (FunctionKey × (ℕ → DictEntry)) := ops.flatMap DictOp.offer

theorem offers_append (ops more : List DictOp) :
    offers (ops ++ more) = offers ops ++ offers more := List.flatMap_append

/-- The entries that an answer hands out. -/
def DictAnswer.taken : Option DictAnswer → List DictEntry
  | some (.entries taken) => taken
  | _ => []

/-! ### The dictionary as the program has it -/

structure HashedDictionary (Table : Type) where
  internMap : Table
  newEntries : List DictEntry
  nextFnId : ℕ

namespace HashedDictionary

variable {η : Type} {finish : List HashWrite → η}
  (T : HashTable FunctionKey ℕ fun key => finish key.hash)

def new : HashedDictionary T.Table where
  internMap := T.empty
  newEntries := []
  nextFnId := 1

variable (d : HashedDictionary T.Table)

/-- `self.intern.get(&key)`. -/
def get (key : FunctionKey) : Option ℕ :=
  T.fromHash d.internMap (finish key.hash) fun k => decide (k = key)

/-- `raw_entry().from_hash(hash, |k| k.matches_ref(key_ref))`. -/
def getRef (keyRef : FunctionKeyRef) : Option ℕ :=
  T.fromHash d.internMap (finish keyRef.hash) fun k => k.matchesRef keyRef

def containsKey (key : FunctionKey) : Bool := (d.get T key).isSome

def containsKeyRef (keyRef : FunctionKeyRef) : Bool := (d.getRef T keyRef).isSome

/-- The next `fn_id`; `none` is the panic of the `u32` counter. -/
def allocateFnId : Option (ℕ × HashedDictionary T.Table) :=
  let fnId := d.nextFnId
  if fnId < u32Max then some (fnId, { d with nextFnId := fnId + 1 }) else none

def intern (key : FunctionKey) (build : ℕ → DictEntry) :
    Option (ℕ × HashedDictionary T.Table) :=
  match d.get T key with
  | some existing => some (existing, d)
  | none =>
      match d.allocateFnId T with
      | none => none
      | some (fnId, d) =>
          some (fnId, { d with
            internMap := T.insert d.internMap key fnId
            newEntries := d.newEntries ++ [build fnId] })

def internRef (keyRef : FunctionKeyRef) (build : ℕ → FunctionKey × DictEntry) :
    Option (ℕ × ProbeOutcome × HashedDictionary T.Table) :=
  match d.getRef T keyRef with
  | some fnId => some (fnId, .hit, d)
  | none =>
      let fnId := d.nextFnId
      if fnId < u32Max then
        let (owningKey, entry) := build fnId
        some (fnId, .miss,
          { internMap := T.insertHashedNocheck d.internMap (finish keyRef.hash) owningKey fnId
            newEntries := d.newEntries ++ [entry]
            nextFnId := fnId + 1 })
      else none

def takeNewEntries : List DictEntry × HashedDictionary T.Table :=
  (d.newEntries, { d with newEntries := [] })

def exec : DictOp → Option (DictAnswer × HashedDictionary T.Table)
  | .intern key build => (d.intern T key build).map fun p => (.id p.1, p.2)
  | .internRef keyRef build =>
      (d.internRef T keyRef fun fnId => (keyRef.toOwned, build fnId)).map fun p =>
        (.idOutcome p.1 p.2.1, p.2.2)
  | .containsKey key => some (.contained (d.containsKey T key), d)
  | .containsKeyRef keyRef => some (.contained (d.containsKeyRef T keyRef), d)
  | .takeNewEntries => some (.entries (d.takeNewEntries T).1, (d.takeNewEntries T).2)

end HashedDictionary

/-! ### The list answers as the table -/

namespace Dictionary

def exec (d : Dictionary) : DictOp → Option (DictAnswer × Dictionary)
  | .intern key build => (d.intern key build).map fun p => (.id p.1, p.2)
  | .internRef keyRef build =>
      (d.internRef keyRef fun fnId => (keyRef.toOwned, build fnId)).map fun p =>
        (.idOutcome p.1 p.2.1, p.2.2)
  | .containsKey key => some (.contained (d.containsKey key), d)
  | .containsKeyRef keyRef => some (.contained (d.containsKeyRef keyRef), d)
  | .takeNewEntries => some (.entries d.takeNewEntries.1, d.takeNewEntries.2)

/-- A new pair at the end of the list is found under its key. -/
theorem probe_stage {d : Dictionary} {key : FunctionKey} {entry : DictEntry}
    (h : d.probe key = none) :
    (d.stage (key, entry)).probe = Function.update d.probe key (some d.nextFnId) := by
  funext k
  rw [Function.update_apply]
  exact HashTable.chainFind_append_of_none d.nextFnId h k

end Dictionary

namespace HashedDictionary

variable {η : Type} {finish : List HashWrite → η}
  (T : HashTable FunctionKey ℕ fun key => finish key.hash)

/-- The table holds the pairs of the list; the rest is equal. -/
structure Simulates (d : HashedDictionary T.Table) (c : Dictionary) : Prop where
  holds : T.Holds d.internMap c.probe
  newEntries : d.newEntries = c.newEntries
  nextFnId : d.nextFnId = c.nextFnId

variable {T} {d : HashedDictionary T.Table} {c : Dictionary}

theorem simulates_new : (new T).Simulates T Dictionary.new where
  holds := T.holds_empty
  newEntries := rfl
  nextFnId := rfl

/-- The owned probe of the table. -/
theorem Simulates.get_eq (h : d.Simulates T c) (key : FunctionKey) :
    d.get T key = c.probe key :=
  T.fromHash_eq h.holds fun _ => decide_eq_true_iff

/-- The borrowed probe of the table finds what the owned one finds. -/
theorem Simulates.getRef_eq (h : d.Simulates T c) (keyRef : FunctionKeyRef) :
    d.getRef T keyRef = c.probe keyRef.toOwned :=
  T.fromHash_of_hash_eq h.holds (fun _ => FunctionKey.matchesRef_iff)
    (congrArg finish keyRef.hash_toOwned.symm)

theorem Simulates.stage {d' : HashedDictionary T.Table} (h : d.Simulates T c) {key : FunctionKey}
    {entry : DictEntry} (hnone : c.probe key = none)
    (hholds : T.Holds d'.internMap (Function.update c.probe key (some c.nextFnId)))
    (hentries : d'.newEntries = d.newEntries ++ [entry]) (hnext : d'.nextFnId = d.nextFnId + 1) :
    d'.Simulates T (c.stage (key, entry)) where
  holds := by
    rw [Dictionary.probe_stage hnone]
    exact hholds
  newEntries := by rw [hentries, h.newEntries, Dictionary.stage]
  nextFnId := by rw [hnext, h.nextFnId, Dictionary.stage]

theorem Simulates.internRef (h : d.Simulates T c) (keyRef : FunctionKeyRef)
    (build : ℕ → DictEntry) :
    Option.Rel (fun x y => x.1 = y.1 ∧ x.2.1 = y.2.1 ∧ x.2.2.Simulates T y.2.2)
      (d.internRef T keyRef fun fnId => (keyRef.toOwned, build fnId))
      (c.internRef keyRef fun fnId => (keyRef.toOwned, build fnId)) := by
  unfold HashedDictionary.internRef Dictionary.internRef
  rw [h.getRef_eq, Dictionary.probe_toOwned, h.nextFnId]
  cases hp : c.probeRef keyRef with
  | some fnId => exact .some ⟨rfl, rfl, h⟩
  | none =>
      have hnone : c.probe keyRef.toOwned = none := by rw [Dictionary.probe_toOwned, hp]
      by_cases hlt : c.nextFnId < u32Max
      · simp only [hlt, ↓reduceIte]
        refine .some ⟨rfl, rfl, h.stage hnone ?_ rfl (by rw [h.nextFnId])⟩
        rw [← keyRef.hash_toOwned]
        exact T.holds_insertHashedNocheck _ _ h.holds hnone
      · simp only [hlt, ↓reduceIte]
        exact .none

theorem Simulates.intern (h : d.Simulates T c) (key : FunctionKey) (build : ℕ → DictEntry) :
    Option.Rel (fun x y => x.1 = y.1 ∧ x.2.Simulates T y.2) (d.intern T key build)
      (c.intern key build) := by
  unfold HashedDictionary.intern HashedDictionary.allocateFnId Dictionary.intern
    Dictionary.allocateFnId
  rw [h.get_eq, h.nextFnId]
  cases hp : c.probe key with
  | some fnId => exact .some ⟨rfl, h⟩
  | none =>
      by_cases hlt : c.nextFnId < u32Max
      · simp only [hlt, ↓reduceIte]
        exact .some ⟨rfl, h.stage hp (T.holds_insert _ _ h.holds) rfl (by rw [h.nextFnId])⟩
      · simp only [hlt, ↓reduceIte]
        exact .none

/-- **Step lemma**: related dictionaries answer alike. -/
theorem Simulates.exec (h : d.Simulates T c) (op : DictOp) :
    Option.Rel (fun x y => x.1 = y.1 ∧ x.2.Simulates T y.2) (d.exec T op) (c.exec op) := by
  cases op with
  | intern key build =>
      have hrel := h.intern key build
      show Option.Rel _ (Option.map _ (d.intern T key build))
        (Option.map _ (c.intern key build))
      generalize d.intern T key build = x at hrel ⊢
      generalize c.intern key build = y at hrel ⊢
      cases hrel with
      | none => exact .none
      | some hxy => exact .some ⟨congrArg DictAnswer.id hxy.1, hxy.2⟩
  | internRef keyRef build =>
      have hrel := h.internRef keyRef build
      show Option.Rel _
        (Option.map _ (d.internRef T keyRef fun fnId => (keyRef.toOwned, build fnId)))
        (Option.map _ (c.internRef keyRef fun fnId => (keyRef.toOwned, build fnId)))
      generalize (d.internRef T keyRef fun fnId => (keyRef.toOwned, build fnId)) = x at hrel ⊢
      generalize (c.internRef keyRef fun fnId => (keyRef.toOwned, build fnId)) = y at hrel ⊢
      cases hrel with
      | none => exact .none
      | some hxy =>
          obtain ⟨hid, houtcome, hnext⟩ := hxy
          exact .some ⟨congrArg₂ DictAnswer.idOutcome hid houtcome, hnext⟩
  | containsKey key =>
      refine .some ⟨?_, h⟩
      rw [HashedDictionary.containsKey, h.get_eq, Dictionary.containsKey]
  | containsKeyRef keyRef =>
      refine .some ⟨?_, h⟩
      rw [HashedDictionary.containsKeyRef, h.getRef_eq, Dictionary.probe_toOwned,
        Dictionary.containsKeyRef]
  | takeNewEntries =>
      exact .some ⟨congrArg DictAnswer.entries h.newEntries, h.holds, rfl, h.nextFnId⟩

end HashedDictionary

/-! ### The finite map -/

/-- What the dictionary is: a finite map from keys to ids, the number of its keys, and the
entries that have not been taken. -/
structure FnMap where
  ids : FunctionKey → Option ℕ
  size : ℕ
  journal : List DictEntry

namespace FnMap

def empty : FnMap where
  ids _ := none
  size := 0
  journal := []

/-- A new key gets the next id, as long as that fits below `u32::MAX`. -/
def intern (m : FnMap) (key : FunctionKey) (build : ℕ → DictEntry) :
    Option (ℕ × ProbeOutcome × FnMap) :=
  match m.ids key with
  | some fnId => some (fnId, .hit, m)
  | none =>
      if m.size + 1 < u32Max then
        some (m.size + 1, .miss,
          { ids := Function.update m.ids key (some (m.size + 1))
            size := m.size + 1
            journal := m.journal ++ [build (m.size + 1)] })
      else none

def exec (m : FnMap) : DictOp → Option (DictAnswer × FnMap)
  | .intern key build => (m.intern key build).map fun p => (.id p.1, p.2.2)
  | .internRef keyRef build =>
      (m.intern keyRef.toOwned build).map fun p => (.idOutcome p.1 p.2.1, p.2.2)
  | .containsKey key => some (.contained (m.ids key).isSome, m)
  | .containsKeyRef keyRef => some (.contained (m.ids keyRef.toOwned).isSome, m)
  | .takeNewEntries => some (.entries m.journal, { m with journal := [] })

end FnMap

namespace Dictionary

/-- The list of pairs is the map. -/
structure Represents (c : Dictionary) (m : FnMap) : Prop where
  ids : c.probe = m.ids
  size : c.nextFnId = m.size + 1
  journal : c.newEntries = m.journal

theorem represents_new : new.Represents FnMap.empty := ⟨rfl, rfl, rfl⟩

variable {c : Dictionary} {m : FnMap}

theorem Represents.internRef (h : c.Represents m) (keyRef : FunctionKeyRef)
    (build : ℕ → DictEntry) :
    Option.Rel (fun x y => x.1 = y.1 ∧ x.2.1 = y.2.1 ∧ x.2.2.Represents y.2.2)
      (c.internRef keyRef fun fnId => (keyRef.toOwned, build fnId))
      (m.intern keyRef.toOwned build) := by
  unfold Dictionary.internRef FnMap.intern
  rw [← probe_toOwned, ← h.ids, h.size]
  cases hp : c.probe keyRef.toOwned with
  | some fnId => exact .some ⟨rfl, rfl, h⟩
  | none =>
      by_cases hlt : m.size + 1 < u32Max
      · simp only [hlt, ↓reduceIte]
        refine .some ⟨rfl, rfl, ?_, ?_, ?_⟩
        · rw [probe_stage hp, h.size]
        · rw [stage, h.size]
        · rw [stage, h.journal]
      · simp only [hlt, ↓reduceIte]
        exact .none

/-- **Step lemma**: the list answers as the map. -/
theorem Represents.exec (h : c.Represents m) (op : DictOp) :
    Option.Rel (fun x y => x.1 = y.1 ∧ x.2.Represents y.2) (c.exec op) (m.exec op) := by
  cases op with
  | intern key build =>
      have hrel := h.internRef key.asRef build
      show Option.Rel _ (Option.map _ (c.intern key build)) (Option.map _ (m.intern key build))
      rw [intern_eq, Option.map_map]
      rw [FunctionKey.toOwned_asRef] at hrel
      generalize (c.internRef key.asRef fun fnId => (key, build fnId)) = x at hrel ⊢
      generalize m.intern key build = y at hrel ⊢
      cases hrel with
      | none => exact .none
      | some hxy => exact .some ⟨congrArg DictAnswer.id hxy.1, hxy.2.2⟩
  | internRef keyRef build =>
      have hrel := h.internRef keyRef build
      show Option.Rel _ (Option.map _ (c.internRef keyRef fun fnId => (keyRef.toOwned, build fnId)))
        (Option.map _ (m.intern keyRef.toOwned build))
      generalize (c.internRef keyRef fun fnId => (keyRef.toOwned, build fnId)) = x at hrel ⊢
      generalize m.intern keyRef.toOwned build = y at hrel ⊢
      cases hrel with
      | none => exact .none
      | some hxy =>
          obtain ⟨hid, houtcome, hnext⟩ := hxy
          exact .some ⟨congrArg₂ DictAnswer.idOutcome hid houtcome, hnext⟩
  | containsKey key =>
      refine .some ⟨?_, h⟩
      rw [Dictionary.containsKey, h.ids]
  | containsKeyRef keyRef =>
      refine .some ⟨?_, h⟩
      rw [Dictionary.containsKeyRef, ← probe_toOwned, h.ids]
  | takeNewEntries =>
      exact .some ⟨congrArg DictAnswer.entries h.journal, h.ids, h.size, rfl⟩

end Dictionary

/-! ### What the map has done -/

namespace FnMap

/-- The map after the offers `offered`, of whose entries `taken` have been handed out. -/
structure Follows (offered : List (FunctionKey × (ℕ → DictEntry))) (taken : List DictEntry)
    (m : FnMap) : Prop where
  ids : m.ids = (Interner.internAll .empty (offered.map Prod.fst)).idOf
  size : m.size = (Interner.internAll .empty (offered.map Prod.fst)).keys.length
  entries : taken ++ m.journal =
    (Interner.firsts Prod.fst offered).mapIdx fun i offer => offer.2 (i + 1)

theorem follows_empty : empty.Follows [] [] where
  ids := rfl
  size := rfl
  entries := rfl

variable {offered : List (FunctionKey × (ℕ → DictEntry))} {taken : List DictEntry} {m m' : FnMap}

theorem Follows.intern (h : m.Follows offered taken) {key : FunctionKey}
    {build : ℕ → DictEntry} {fnId : ℕ} {outcome : ProbeOutcome}
    (hm : m.intern key build = some (fnId, outcome, m')) :
    m'.Follows (offered ++ [(key, build)]) taken := by
  have hsnoc : Interner.internAll .empty ((offered ++ [(key, build)]).map Prod.fst) =
      (Interner.internAll .empty (offered.map Prod.fst)).intern key := by
    rw [List.map_append, Interner.internAll_append]
    rfl
  have hfirsts := Interner.map_key_firsts Prod.fst offered
  unfold FnMap.intern at hm
  cases hid : m.ids key with
  | some i =>
      rw [hid] at hm
      cases hm
      have hmem : key ∈ (Interner.internAll .empty (offered.map Prod.fst)).keys := by
        by_contra hno
        rw [h.ids, Interner.idOf_eq_none.mpr hno] at hid
        cases hid
      refine ⟨?_, ?_, ?_⟩
      · rw [hsnoc, Interner.intern_of_mem hmem, h.ids]
      · rw [hsnoc, Interner.intern_of_mem hmem, h.size]
      · rw [Interner.firsts_snoc, Interner.addFirst, if_pos (hfirsts ▸ hmem), h.entries]
  | none =>
      rw [hid] at hm
      dsimp only at hm
      split at hm
      · cases hm
        have hnot : key ∉ (Interner.internAll .empty (offered.map Prod.fst)).keys := by
          rw [h.ids] at hid
          exact Interner.idOf_eq_none.mp hid
        have hkeys := Interner.keys_intern_of_not_mem hnot
        refine ⟨?_, ?_, ?_⟩
        · rw [hsnoc, h.size, h.ids]
          exact (Interner.idOf_intern_eq_update hnot).symm
        · rw [hsnoc, hkeys, List.length_append, h.size, List.length_singleton]
        · rw [Interner.firsts_snoc, Interner.addFirst, if_neg (hfirsts ▸ hnot),
            List.mapIdx_concat, ← h.entries, h.size, List.append_assoc, ← hfirsts,
            List.length_map]
      · cases hm

/-- **Step lemma.** -/
theorem Follows.exec (h : m.Follows offered taken) {op : DictOp} {answer : DictAnswer}
    (hm : m.exec op = some (answer, m')) :
    m'.Follows (offered ++ op.offer) (taken ++ DictAnswer.taken (some answer)) := by
  cases op with
  | intern key build =>
      obtain ⟨⟨fnId, outcome, m''⟩, hintern, heq⟩ := Option.map_eq_some_iff.mp hm
      cases heq
      simp only [DictAnswer.taken, DictOp.offer, List.append_nil]
      exact h.intern hintern
  | internRef keyRef build =>
      obtain ⟨⟨fnId, outcome, m''⟩, hintern, heq⟩ := Option.map_eq_some_iff.mp hm
      cases heq
      simp only [DictAnswer.taken, DictOp.offer, List.append_nil]
      exact h.intern hintern
  | containsKey key =>
      cases hm
      simp only [DictAnswer.taken, DictOp.offer, List.append_nil]
      exact h
  | containsKeyRef keyRef =>
      cases hm
      simp only [DictAnswer.taken, DictOp.offer, List.append_nil]
      exact h
  | takeNewEntries =>
      cases hm
      simp only [DictAnswer.taken, DictOp.offer, List.append_nil]
      refine ⟨h.ids, h.size, ?_⟩
      rw [List.append_nil, h.entries]

/-- **Run lemma.** -/
theorem follows_run {ops : List DictOp} (h : run (moves exec) empty ops = some m) :
    m.Follows (offers ops) ((answers exec empty ops).flatMap DictAnswer.taken) := by
  refine run_induction (P := fun ops m => m.Follows (offers ops)
    ((answers exec empty ops).flatMap DictAnswer.taken)) follows_empty ?_ h
  intro ops m op m' hrun ih hstep
  obtain ⟨answer, hexec⟩ := moves_eq_some.mp hstep
  have hanswers : answers exec empty (ops ++ [op]) = answers exec empty ops ++ [some answer] := by
    rw [answers, outputs_snoc _ hrun, hexec]
    rfl
  have hoffers : offers [op] = op.offer := List.flatMap_singleton _ _
  rw [hanswers, offers_append, hoffers, List.flatMap_append, List.flatMap_singleton]
  exact ih.exec hexec

end FnMap

/-! ### The three levels -/

namespace HashedDictionary

variable {η : Type} {finish : List HashWrite → η}
  {T : HashTable FunctionKey ℕ fun key => finish key.hash}

/-- The dictionary and the map answer alike and stop together. -/
theorem answers_eq (ops : List DictOp) :
    answers (exec T) (new T) ops = answers FnMap.exec .empty ops ∧
      Option.Rel (fun d m => ∃ c, d.Simulates T c ∧ c.Represents m)
        (run (moves (exec T)) (new T) ops) (run (moves FnMap.exec) .empty ops) := by
  obtain ⟨hlist, hrunList⟩ :=
    answers_simulation (R := Simulates T) (fun _ _ op h => h.exec op) simulates_new ops
  obtain ⟨hmap, hrunMap⟩ := answers_simulation (R := Dictionary.Represents)
    (fun _ _ op h => h.exec op) Dictionary.represents_new ops
  refine ⟨hlist.trans hmap, ?_⟩
  generalize run (moves (exec T)) (new T) ops = x at hrunList ⊢
  generalize run (moves Dictionary.exec) Dictionary.new ops = y at hrunList hrunMap
  generalize run (moves FnMap.exec) .empty ops = z at hrunMap ⊢
  cases hrunList with
  | none => cases hrunMap; exact .none
  | some hdc => cases hrunMap with | some hcm => exact .some ⟨_, hdc, hcm⟩

/-- The map that a dictionary is after a run. -/
theorem exists_fnMap {ops : List DictOp} {d : HashedDictionary T.Table}
    (h : run (moves (exec T)) (new T) ops = some d) :
    ∃ m, run (moves FnMap.exec) .empty ops = some m ∧ (∀ key, d.get T key = m.ids key) ∧
      (∀ keyRef, d.getRef T keyRef = m.ids keyRef.toOwned) ∧ d.newEntries = m.journal := by
  have hrel := (answers_eq (T := T) ops).2
  rw [h] at hrel
  generalize run (moves FnMap.exec) .empty ops = y at hrel ⊢
  cases hrel with
  | some hdm =>
      obtain ⟨c, hd, hc⟩ := hdm
      refine ⟨_, rfl, fun key => ?_, fun keyRef => ?_, hd.newEntries.trans hc.journal⟩
      · rw [hd.get_eq, hc.ids]
      · rw [hd.getRef_eq, hc.ids]

/-- **The dictionary is one map.**  For any hasher and any hash table: a borrowed key matches
exactly its owned key, and then both write the same to the hasher; and for every sequence of
calls, with `firsts` the first offer of each key, the dictionary answers as the finite map
does, panics when it does, gives the ids `1, 2, …` in order of first offer, one to each key and
never another one later, answers an owned and a borrowed probe alike, and hands out the entry
of each key once, in order. -/
theorem dictionary_is_one_map {η : Type} (finish : List HashWrite → η)
    (T : HashTable FunctionKey ℕ fun key => finish key.hash) :
    (∀ (key : FunctionKey) (keyRef : FunctionKeyRef),
      (key.matchesRef keyRef = true ↔ key = keyRef.toOwned) ∧ key.asRef.toOwned = key ∧
        (key.matchesRef keyRef = true → key.hash = keyRef.hash)) ∧
    ∀ ops : List DictOp,
      answers (exec T) (new T) ops = answers FnMap.exec .empty ops ∧
      (run (moves (exec T)) (new T) ops).isSome = (run (moves FnMap.exec) .empty ops).isSome ∧
      ∀ d, run (moves (exec T)) (new T) ops = some d →
        ∃ firsts, Interner.FirstOfEach Prod.fst (offers ops) firsts ∧
          (∀ key fnId, d.get T key = some fnId ↔
            0 < fnId ∧ (firsts.map Prod.fst)[fnId - 1]? = some key) ∧
          (∀ key key' fnId, d.get T key = some fnId → d.get T key' = some fnId → key = key') ∧
          (∀ keyRef, d.getRef T keyRef = d.get T keyRef.toOwned ∧
            d.containsKeyRef T keyRef = d.containsKey T keyRef.toOwned) ∧
          (∀ more d', run (moves (exec T)) d more = some d' →
            ∀ key fnId, d.get T key = some fnId → d'.get T key = some fnId) ∧
          (answers (exec T) (new T) ops).flatMap DictAnswer.taken ++ d.newEntries =
            firsts.mapIdx fun i offer => offer.2 (i + 1) := by
  refine ⟨fun key keyRef => ⟨FunctionKey.matchesRef_iff, key.toOwned_asRef,
    FunctionKey.hash_eq_of_matchesRef⟩, fun ops => ⟨(answers_eq ops).1, ?_, fun d hd => ?_⟩⟩
  · have hrel := (answers_eq (T := T) ops).2
    generalize run (moves (exec T)) (new T) ops = x at hrel ⊢
    generalize run (moves FnMap.exec) .empty ops = y at hrel ⊢
    cases hrel <;> rfl
  obtain ⟨m, hm, hget, hgetRef, hjournal⟩ := exists_fnMap hd
  have hfollows := FnMap.follows_run hm
  have hid : ∀ key fnId, d.get T key = some fnId ↔
      0 < fnId ∧ ((Interner.firsts Prod.fst (offers ops)).map Prod.fst)[fnId - 1]? = some key := by
    intro key fnId
    rw [hget, hfollows.ids, Interner.idOf_eq_some, Interner.map_key_firsts]
  have hprobe : ∀ keyRef, d.getRef T keyRef = d.get T keyRef.toOwned := fun keyRef => by
    rw [hgetRef, hget]
  refine ⟨_, Interner.firstOfEach_firsts _ _, hid, ?_, fun keyRef => ⟨hprobe keyRef, ?_⟩, ?_, ?_⟩
  · intro key key' fnId hkey hkey'
    exact Option.some.inj (((hid key fnId).mp hkey).2.symm.trans ((hid key' fnId).mp hkey').2)
  · rw [containsKeyRef, hprobe, containsKey]
  · intro more d' hd' key fnId hkey
    have hrun : run (moves (exec T)) (new T) (ops ++ more) = some d' :=
      run_append_eq_some.mpr ⟨d, hd, hd'⟩
    obtain ⟨m', hm', hget', -⟩ := exists_fnMap hrun
    have hfollows' := FnMap.follows_run hm'
    rw [hget, hfollows.ids] at hkey
    rw [hget', hfollows'.ids]
    refine Interner.idOf_mono ?_ hkey
    rw [offers_append, List.map_append, Interner.internAll_append]
    exact Interner.keys_prefix_internAll _ _
  · rw [(answers_eq ops).1, hjournal, hfollows.entries]

/-- An entry that has no other data than its name. -/
def namedEntry (name : String) (fnId : ℕ) : DictEntry where
  fnId := fnId
  fqn := name
  file := ""
  line := 0
  kind := .internal

/-- A table of two buckets and a hasher that counts writes: a borrowed probe before and after
an owned one, and a drain between them. -/
theorem dictionary_is_one_map_mixed :
    let T : HashTable FunctionKey ℕ fun key => List.length key.hash :=
      HashTable.chained fun h => h % 2
    answers (exec T) (new T)
        [.internRef (.internal "f") (namedEntry "f"), .intern (.internal "f") (namedEntry "f"),
          .intern (.internal "g") (namedEntry "g"), .takeNewEntries,
          .containsKeyRef (.internal "g"), .internRef (.internal "g") (namedEntry "g")] =
      [some (.idOutcome 1 .miss), some (.id 1), some (.id 2),
        some (.entries [namedEntry "f" 1, namedEntry "g" 2]), some (.contained true),
        some (.idOutcome 2 .hit)] := by
  intro T
  rw [((dictionary_is_one_map List.length T).2 _).1]
  rfl

end HashedDictionary

end PhpAnalyze
