import PhpAnalyze.Delivery
import PhpAnalyze.DictPartition
import PhpAnalyze.KeySoundness
import PhpAnalyze.WireFormat

/-! # Reading the batches back (`tools/xdebug-spot-check/compare.py`)

The spot check compares the calls of one trace with what Xdebug saw.  It reads the JSON array
that the stub server answers to `GET /debug/batches`: one pass over the dictionaries of all
batches, then one `AnalyzeCall` for each call record, in the order of the store
(`parseAnalyzeBatches`).  `none` is a Python exception.

The batches of a trace are enough for it: each stored record is read as a call of the function
that was called (`spot_check_attributes_every_call`), and when every batch is stored once, in
any order, the calls that it counts are the accepted begins (`spot_check_counts_every_call`).
The names of two traces are not kept apart. -/

namespace PhpAnalyze

open Machine Interning Msgpack

namespace SpotCheck

structure AnalyzeCall where
  fqn : String
  kind : String
  tInNs : ℤ
  tOutNs : ℤ
deriving DecidableEq, Repr

/-- `KIND_NAMES`. -/
def kindNames : List (ℤ × String) :=
  [(0, "function"), (1, "method"), (2, "closure"), (3, "internal")]

/-- `d.get(key)`; the JSON parser keeps the last of two entries with one key. -/
def get (d : Entries) (key : String) : Option Value := d.reverse.lookup key

def asDict : Value → Option Entries
  | .map entries => some entries
  | _ => none

def asList : Value → Option (List Value)
  | .array items => some items
  | _ => none

def asInt : Value → Option ℤ
  | .int i => some i
  | _ => none

/-- The items of `d.get(key, [])`. -/
def getList (d : Entries) (key : String) : Option (List Value) :=
  match get d key with
  | some v => asList v
  | none => some []

/-- `dict_entries[d["fn_id"]] = d`. -/
def insertEntry (dictEntries : ℤ → Option Entries) (d : Value) :
    Option (ℤ → Option Entries) := do
  let d ← asDict d
  let fnId ← (get d "fn_id").bind asInt
  return Function.update dictEntries fnId (some d)

/-- The first pass. -/
def collectEntries (raw : List Value) : Option (ℤ → Option Entries) :=
  raw.foldlM (fun dictEntries batch => do
    let batch ← asDict batch
    (← getList batch "dict").foldlM insertEntry dictEntries) fun _ => none

def unknownFqn (fnId : ℤ) : String := "?fn_id=" ++ toString fnId

/-- `KIND_NAMES.get(entry.get("kind", -1), "unknown")`. -/
def kindStr (entry : Entries) : String :=
  match (get entry "kind").bind asInt with
  | some kind => (kindNames.lookup kind).getD "unknown"
  | none => "unknown"

/-- `entry.get("fqn", ...)`. -/
def fqnOf (entry : Entries) (fnId : ℤ) : Option String :=
  match get entry "fqn" with
  | some v => decodeStr v
  | none => some (unknownFqn fnId)

def functionOf (dictEntries : ℤ → Option Entries) (fnId : ℤ) : Option (String × String) :=
  match dictEntries fnId with
  | none => some (unknownFqn fnId, "unknown")
  | some entry => (fqnOf entry fnId).map fun fqn => (fqn, kindStr entry)

def readCall (dictEntries : ℤ → Option Entries) (c : Value) : Option AnalyzeCall := do
  let c ← asDict c
  let fnId ← (get c "fn").bind asInt
  let (fqn, kind) ← functionOf dictEntries fnId
  let tInNs ← (get c "t_in").bind asInt
  let tOutNs ← (get c "t_out").bind asInt
  return { fqn, kind, tInNs, tOutNs }

/-- The second pass, on one batch. -/
def readCalls (dictEntries : ℤ → Option Entries) (batch : Value) : Option (List AnalyzeCall) := do
  let batch ← asDict batch
  (← getList batch "calls").mapM (readCall dictEntries)

def parseAnalyzeBatches : Value → Option (List AnalyzeCall)
  | .array raw => do
      let dictEntries ← collectEntries raw
      return (← raw.mapM (readCalls dictEntries)).flatten
  | _ => none

/-! ### What it reads of wire batches -/

def kindName : Wire.FunctionKind → String
  | .function => "function"
  | .method => "method"
  | .closure => "closure"
  | .internal => "internal"

theorem kindName_ne_unknown (kind : Wire.FunctionKind) : kindName kind ≠ "unknown" := by
  cases kind <;> decide

def known (entries : List Wire.DictEntry) (fnId : ℤ) : Option Wire.DictEntry :=
  entries.reverse.find? fun entry => (entry.fnId : ℤ) == fnId

theorem known_snoc (entries : List Wire.DictEntry) (entry : Wire.DictEntry) :
    known (entries ++ [entry]) =
      Function.update (known entries) entry.fnId (some entry) := by
  funext fnId
  rw [known, List.reverse_append, List.reverse_singleton, List.singleton_append, List.find?_cons,
    Function.update_apply]
  by_cases hid : fnId = entry.fnId
  · rw [if_pos hid, hid, beq_self_eq_true]
  · rw [if_neg hid, beq_eq_false_iff_ne.mpr (Ne.symm hid)]
    rfl

theorem known_eq_some {entries : List Wire.DictEntry} {fnId : ℕ} {entry : Wire.DictEntry}
    (h : known entries fnId = some entry) : entry ∈ entries ∧ entry.fnId = fnId := by
  refine ⟨List.mem_reverse.mp (List.mem_of_find?_eq_some h), ?_⟩
  have hid := List.find?_some h
  exact Int.ofNat_inj.mp (beq_iff_eq.mp hid)

theorem known_eq_none {entries : List Wire.DictEntry} {fnId : ℕ} :
    known entries fnId = none ↔ fnId ∉ entries.map Wire.DictEntry.fnId := by
  rw [known, List.find?_eq_none, List.mem_map]
  constructor
  · rintro hnone ⟨entry, hentry, hid⟩
    exact hnone entry (List.mem_reverse.mpr hentry) (by rw [hid, beq_self_eq_true])
  · intro hno entry hentry hid
    exact hno ⟨entry, List.mem_reverse.mp hentry, Int.ofNat_inj.mp (beq_iff_eq.mp hid)⟩

def entryFields (entry : Wire.DictEntry) : Entries := (asDict entry.toValue).getD []

def fieldsOf (entries : List Wire.DictEntry) (fnId : ℤ) : Option Entries :=
  (known entries fnId).map entryFields

theorem insertEntry_toValue (entries : List Wire.DictEntry) (entry : Wire.DictEntry) :
    insertEntry (fieldsOf entries) entry.toValue = some (fieldsOf (entries ++ [entry])) := by
  have hinsert : insertEntry (fieldsOf entries) entry.toValue =
      some (Function.update (fieldsOf entries) entry.fnId (some (entryFields entry))) := rfl
  rw [hinsert, Option.some_inj]
  funext fnId
  rw [fieldsOf, known_snoc, Function.update_apply, Function.update_apply]
  split <;> rfl

theorem foldlM_insertEntry (seen entries : List Wire.DictEntry) :
    (entries.map Wire.DictEntry.toValue).foldlM insertEntry (fieldsOf seen) =
      some (fieldsOf (seen ++ entries)) := by
  induction entries generalizing seen with
  | nil => simp
  | cons entry entries ih =>
      rw [List.map_cons, List.foldlM_cons, insertEntry_toValue]
      show (entries.map Wire.DictEntry.toValue).foldlM insertEntry (fieldsOf (seen ++ [entry])) = _
      rw [ih, List.append_assoc, List.singleton_append]

theorem collectEntries_toValue (batches : List Wire.Batch) :
    collectEntries (batches.map Wire.Batch.toValue) =
      some (fieldsOf (batches.flatMap Wire.Batch.dict)) := by
  have hfrom : ∀ seen, (batches.map Wire.Batch.toValue).foldlM (fun dictEntries batch => do
      let batch ← asDict batch
      (← getList batch "dict").foldlM insertEntry dictEntries) (fieldsOf seen) =
        some (fieldsOf (seen ++ batches.flatMap Wire.Batch.dict)) := by
    induction batches with
    | nil => simp
    | cons batch batches ih =>
        intro seen
        rw [List.map_cons, List.foldlM_cons]
        show ((batch.dict.map Wire.DictEntry.toValue).foldlM insertEntry (fieldsOf seen)).bind _ = _
        rw [foldlM_insertEntry, Option.bind_some, ih, List.flatMap_cons, List.append_assoc]
  exact hfrom []

def callOf (found : Option Wire.DictEntry) (call : Wire.CallRecord) : AnalyzeCall where
  fqn := (found.map Wire.DictEntry.fqn).getD (unknownFqn call.fnId)
  kind := (found.map fun entry => kindName entry.kind).getD "unknown"
  tInNs := call.tIn
  tOutNs := call.tOut

theorem kindStr_entryFields (entry : Wire.DictEntry) :
    kindStr (entryFields entry) = kindName entry.kind := by
  obtain ⟨fnId, fqn, file, line, kind⟩ := entry
  cases kind <;> rfl

theorem readCall_toValue (entries : List Wire.DictEntry) (call : Wire.CallRecord) :
    readCall (fieldsOf entries) call.toValue =
      some (callOf (known entries call.fnId) call) := by
  have hread : readCall (fieldsOf entries) call.toValue =
      (functionOf (fieldsOf entries) call.fnId).bind
        fun x => some ⟨x.1, x.2, call.tIn, call.tOut⟩ := rfl
  rw [hread, functionOf, fieldsOf]
  cases known entries call.fnId with
  | none => rfl
  | some entry =>
      show some (AnalyzeCall.mk entry.fqn (kindStr (entryFields entry)) call.tIn call.tOut) = _
      rw [kindStr_entryFields]
      rfl

theorem readCalls_toValue (entries : List Wire.DictEntry) (batch : Wire.Batch) :
    readCalls (fieldsOf entries) batch.toValue =
      some (batch.calls.map fun call => callOf (known entries call.fnId) call) := by
  show (batch.calls.map Wire.CallRecord.toValue).mapM (readCall (fieldsOf entries)) = _
  induction batch.calls with
  | nil => rfl
  | cons call calls ih =>
      rw [List.map_cons, List.mapM_cons, readCall_toValue, ih]
      rfl

/-- **What the reader makes of wire batches**: each call record with the last entry that any of
the batches has for its id. -/
theorem parseAnalyzeBatches_toValue (batches : List Wire.Batch) :
    parseAnalyzeBatches (.array (batches.map Wire.Batch.toValue)) =
      some ((batches.flatMap Wire.Batch.calls).map fun call =>
        callOf (known (batches.flatMap Wire.Batch.dict) call.fnId) call) := by
  have hcalls : ∀ entries, (batches.map Wire.Batch.toValue).mapM (readCalls (fieldsOf entries)) =
      some (batches.map fun batch =>
        batch.calls.map fun call => callOf (known entries call.fnId) call) := by
    intro entries
    induction batches with
    | nil => rfl
    | cons batch batches ih =>
        rw [List.map_cons, List.mapM_cons, readCalls_toValue, ih]
        rfl
  show (collectEntries (batches.map Wire.Batch.toValue)).bind _ = _
  rw [collectEntries_toValue, Option.bind_some]
  show ((batches.map Wire.Batch.toValue).mapM (readCalls (fieldsOf _))).bind _ = _
  rw [hcalls, Option.bind_some, ← List.flatMap_def, ← List.map_flatMap]
  rfl

/-! ### The batches of a trace -/

open Recorder

/-- The name and the kind that a call of this site should be read with. -/
def calledAs (site : RawCallSite) : String × String :=
  ((categoriseLazy site).fqnSpec.render, kindName (functionKindToWire (categoriseLazy site).kind))

/-- The call sites come over the production path, and no two share a key by accident. -/
structure Separate (sites : List AcceptedSite) : Prop where
  lazy : ∀ site ∈ sites, site.1 = .lazy
  apart : ∀ a ∈ sites, ∀ b ∈ sites, ¬ Collides a.2 b.2

section sites

variable {sites : List AcceptedSite}

theorem not_collides_of_named {a b : RawCallSite} (ha : a.functionName ≠ none)
    (hb : b.functionName ≠ none) : ¬ Collides a b := by
  intro h
  cases h with
  | internals hrow => exact ha hrow.2
  | internalFunction h =>
      rcases h with h | h
      · exact ha h.1.2
      · exact hb h.1.2
  | methods _ _ _ _ _ hname => exact ha hname
  | functions _ _ hname => exact ha hname

theorem separate_of_named
    (h : ∀ site ∈ sites, site.1 = .lazy ∧ site.2.functionName ≠ none) : Separate sites where
  lazy site hsite := (h site hsite).1
  apart a ha b hb := not_collides_of_named (h a ha).2 (h b hb).2

theorem entry_eq_calledAs {site : AcceptedSite} (h : site.1 = .lazy) (fnId : ℕ) :
    ((dictEntryToWire (site.entry fnId)).fqn, kindName (dictEntryToWire (site.entry fnId)).kind) =
      calledAs site.2 := by
  obtain ⟨path, info⟩ := site
  obtain rfl : path = .lazy := h
  rfl

theorem Separate.calledAs_eq (h : Separate sites) {a b : AcceptedSite} (ha : a ∈ sites)
    (hb : b ∈ sites) (hkey : a.key = b.key) : calledAs a.2 = calledAs b.2 := by
  have hlazy := h.lazy a ha
  have hlazy' := h.lazy b hb
  have hsound := hitSound_of_not_collides (h.apart a ha b hb)
  obtain ⟨path, a⟩ := a
  obtain ⟨path', b⟩ := b
  obtain rfl : path = .lazy := hlazy
  obtain rfl : path' = .lazy := hlazy'
  have href : (categoriseLazy a).keyRef = (categoriseLazy b).keyRef := by
    rw [← FunctionKeyRef.asRef_toOwned (categoriseLazy a).keyRef,
      ← FunctionKeyRef.asRef_toOwned (categoriseLazy b).keyRef]
    exact congrArg FunctionKey.asRef hkey
  obtain ⟨hkind, hname⟩ := hsound href
  rw [calledAs, calledAs, hkind, hname]

/-- An entry of the dictionary names the site of each call that refers to it. -/
theorem Separate.entry_eq (h : Separate sites) {callId fnId : ℕ} {site : AcceptedSite}
    (hsite : sites[callId - 1]? = some site)
    (hid : (internerOf sites).idOf site.key = some fnId) {entry : DictEntry}
    (hentry : entry ∈ dictOf sites) (hfnId : entry.fnId = fnId) :
    ((dictEntryToWire entry).fqn, kindName (dictEntryToWire entry).kind) = calledAs site.2 := by
  obtain ⟨first, -, hfirst, heq⟩ := entry_of_mem_dictOf hentry
  have hmem : first ∈ sites :=
    (Interner.firsts_sublist AcceptedSite.key sites).subset (List.mem_of_getElem? hfirst)
  have hkey := (Interner.idOf_eq_some.mp hid).2
  rw [keys_internerOf, List.getElem?_map, ← hfnId, hfirst] at hkey
  rw [heq, entry_eq_calledAs (h.lazy first hmem)]
  exact h.calledAs_eq hmem (List.mem_of_getElem? hsite) (Option.some.inj hkey)

/-- The call is what the record says: its times, and the function of its call site, or the bare
id when none of the entries has it. -/
def ReadAs (sites : List AcceptedSite) (entries : List DictEntry) (record : CallRecord)
    (call : AnalyzeCall) : Prop :=
  call.tInNs = record.tInNs ∧ call.tOutNs = record.tOutNs ∧
    ∃ site, 0 < record.callId ∧ sites[record.callId - 1]? = some site ∧
      (call.fqn, call.kind) =
        if record.fnId ∈ entries.map DictEntry.fnId then calledAs site.2
        else (unknownFqn record.fnId, "unknown")

theorem readAs_callOf (hsites : Separate sites) {entries : List DictEntry}
    (hentries : ∀ entry ∈ entries, entry ∈ dictOf sites) {record : CallRecord}
    (hnames : Names sites record.callId record.fnId) :
    ReadAs sites entries record
      (callOf (known (entries.map dictEntryToWire) record.fnId) (callRecordToWire record)) := by
  obtain ⟨site, hpos, hsite, hid⟩ := hnames
  have hids : (entries.map dictEntryToWire).map Wire.DictEntry.fnId =
      entries.map DictEntry.fnId := by
    rw [List.map_map]
    rfl
  refine ⟨rfl, rfl, site, hpos, hsite, ?_⟩
  cases hknown : known (entries.map dictEntryToWire) record.fnId with
  | none =>
      have hno := known_eq_none.mp hknown
      rw [hids] at hno
      rw [if_neg hno]
      rfl
  | some wire =>
      obtain ⟨hwire, hfnId⟩ := known_eq_some hknown
      obtain ⟨entry, hentry, rfl⟩ := List.mem_map.mp hwire
      rw [if_pos (List.mem_map.mpr ⟨entry, hentry, hfnId⟩)]
      exact hsites.entry_eq hsite hid (hentries entry hentry) hfnId

end sites

/-- The answer of the server that stores these batches, each with its drop count. -/
def answerOf (uuidToString : TraceId → String) (stored : List (PendingBatch × ℕ)) : Value :=
  .array ((stored.map fun x => wireForm uuidToString x.1 x.2).map Wire.Batch.toValue)

def storedCalls (stored : List (PendingBatch × ℕ)) : List CallRecord :=
  stored.flatMap fun x => x.1.calls

def storedDict (stored : List (PendingBatch × ℕ)) : List DictEntry :=
  stored.flatMap fun x => x.1.dict

theorem parseAnalyzeBatches_answerOf (uuidToString : TraceId → String)
    (stored : List (PendingBatch × ℕ)) :
    parseAnalyzeBatches (answerOf uuidToString stored) =
      some ((storedCalls stored).map fun record =>
        callOf (known ((storedDict stored).map dictEntryToWire) record.fnId)
          (callRecordToWire record)) := by
  have hcalls : (stored.map fun x => wireForm uuidToString x.1 x.2).flatMap Wire.Batch.calls =
      (storedCalls stored).map callRecordToWire := by
    rw [List.flatMap_map, storedCalls, List.map_flatMap]
    rfl
  have hdict : (stored.map fun x => wireForm uuidToString x.1 x.2).flatMap Wire.Batch.dict =
      (storedDict stored).map dictEntryToWire := by
    rw [List.flatMap_map, storedDict, List.map_flatMap]
    rfl
  rw [answerOf, parseAnalyzeBatches_toValue, hcalls, hdict, List.map_map]
  rfl

section traces

variable {shared : Shared} {rinit : Rinit} {es : List Event} {r : Recorder} {exit : ExitSnapshots}
  {answer : TrySend}

theorem names_release (h : run step (start shared rinit) es = some r) {record : CallRecord}
    (hrecord : record ∈ (r.rshutdownReleaseTrace exit answer).calls) :
    Names (accepted (start shared rinit) es) record.callId record.fnId := by
  rw [calls_rshutdownReleaseTrace, ← emitted_drained] at hrecord
  exact ((dictLog_run h).drained exit).records record hrecord

variable {stored : List (PendingBatch × ℕ)}

/-- What is stored of a released trace is read as what was called. -/
theorem readAs_stored (h : run step (start shared rinit) es = some r)
    (hsites : Separate (accepted (start shared rinit) es))
    (hstored : stored.map Prod.fst ⊆ (r.rshutdownReleaseTrace exit answer).handed.map Prod.fst)
    {record : CallRecord} (hrecord : record ∈ storedCalls stored) :
    ReadAs (accepted (start shared rinit) es) (storedDict stored) record
      (callOf (known ((storedDict stored).map dictEntryToWire) record.fnId)
        (callRecordToWire record)) := by
  refine readAs_callOf hsites ?_ ?_
  · intro entry hentry
    obtain ⟨x, hx, hmem⟩ := List.mem_flatMap.mp hentry
    obtain ⟨b, hb, hbx⟩ := List.mem_map.mp (hstored (List.mem_map_of_mem hx))
    rw [← (dictLog_run h).dicts_release exit answer]
    exact List.mem_flatMap.mpr ⟨b, hb, hbx ▸ hmem⟩
  · obtain ⟨x, hx, hmem⟩ := List.mem_flatMap.mp hrecord
    obtain ⟨b, hb, hbx⟩ := List.mem_map.mp (hstored (List.mem_map_of_mem hx))
    exact names_release h (List.mem_flatMap.mpr ⟨b, hb, hbx ▸ hmem⟩)

/-- When every batch of the trace is stored, no stored record refers to a missing entry. -/
theorem fnId_mem_storedDict (h : run step (start shared rinit) es = some r)
    (hstored : stored.map Prod.fst ⊆ (r.rshutdownReleaseTrace exit answer).handed.map Prod.fst)
    (hall : (r.rshutdownReleaseTrace exit answer).handed.map Prod.fst ⊆ stored.map Prod.fst)
    {record : CallRecord} (hrecord : record ∈ storedCalls stored) :
    record.fnId ∈ (storedDict stored).map DictEntry.fnId := by
  obtain ⟨t, hflow⟩ := dictFlow_run h
  obtain ⟨x, hx, hmem⟩ := List.mem_flatMap.mp hrecord
  obtain ⟨b, hb, hbx⟩ := List.mem_map.mp (hstored (List.mem_map_of_mem hx))
  obtain ⟨j, hj⟩ := List.mem_iff_getElem?.mp hb
  obtain ⟨i, -, b', hb', hcarries⟩ :=
    (hflow.release exit answer).1 j b hj record (hbx ▸ hmem)
  obtain ⟨entry, hentry, hfnId⟩ := List.mem_map.mp hcarries
  obtain ⟨y, hy, hyb⟩ :=
    List.mem_map.mp (hall (List.mem_map_of_mem (List.mem_of_getElem? hb')))
  exact List.mem_map.mpr ⟨entry, List.mem_flatMap.mpr ⟨y, hy, hyb ▸ hentry⟩, hfnId⟩

/-- **The reader attributes every stored call.**  For every run of a trace and its `RSHUTDOWN`,
and whatever the server stores of the flushed batches (some lost, some twice, in any order, with
any drop counts): the reader accepts the answer, and makes one call of each stored record, with
its times and the function that its begin was called for; only without the batch that carries
the entry it is an unknown function, so there is none when every batch is stored. -/
theorem spot_check_attributes_every_call (h : run step (start shared rinit) es = some r)
    (hsites : Separate (accepted (start shared rinit) es)) (uuidToString : TraceId → String)
    (hstored : stored.map Prod.fst ⊆ (r.rshutdownReleaseTrace exit answer).handed.map Prod.fst) :
    ∃ calls, parseAnalyzeBatches (answerOf uuidToString stored) = some calls ∧
      List.Forall₂ (ReadAs (accepted (start shared rinit) es) (storedDict stored))
        (storedCalls stored) calls ∧
      ((r.rshutdownReleaseTrace exit answer).handed.map Prod.fst ⊆ stored.map Prod.fst →
        ∀ call ∈ calls, call.kind ≠ "unknown") := by
  refine ⟨_, parseAnalyzeBatches_answerOf uuidToString stored, ?_, ?_⟩
  · rw [List.forall₂_map_right_iff, List.forall₂_same]
    exact fun record hrecord => readAs_stored h hsites hstored hrecord
  · intro hall call hcall
    obtain ⟨record, hrecord, rfl⟩ := List.mem_map.mp hcall
    obtain ⟨-, -, site, -, -, hread⟩ := readAs_stored h hsites hstored hrecord
    rw [if_pos (fnId_mem_storedDict h hstored hall hrecord)] at hread
    have hkind := congrArg Prod.snd hread
    exact fun hunknown => kindName_ne_unknown _ (hkind.symm.trans hunknown)

/-- A server that gets the batches in reverse, without the first `lost` of them. -/
def reversedAfter (lost : ℕ) (r : Recorder) : List (PendingBatch × ℕ) :=
  (r.handed.drop lost).reverse.map fun b => (b.1, 0)

theorem perm_reversedAfter (lost : ℕ) (r : Recorder) :
    ((reversedAfter lost r).map Prod.fst).Perm ((r.handed.drop lost).map Prod.fst) := by
  rw [reversedAfter, List.map_map]
  exact (List.reverse_perm _).map Prod.fst

theorem reversedAfter_subset (lost : ℕ) (r : Recorder) :
    (reversedAfter lost r).map Prod.fst ⊆ r.handed.map Prod.fst :=
  fun _ h => List.map_subset Prod.fst (List.drop_subset lost r.handed)
    ((perm_reversedAfter lost r).subset h)

/-- The batch with the entry of `f` is lost. -/
theorem spot_check_attributes_every_call_lost_batch :
    ∃ r, run step (start Shared.init (rinitWith ⟨8, 4096, 1, 4096⟩))
        [beginOf "f" 1, endAt 2, beginOf "g" 3, endAt 4, beginOf "f" 5, endAt 6] = some r ∧
      ∃ calls,
        parseAnalyzeBatches (answerOf Uuid.hyphenated
          (reversedAfter 1 (r.rshutdownReleaseTrace (exitAt 7) .ok))) = some calls ∧
        List.Forall₂
          (ReadAs (accepted (start Shared.init (rinitWith ⟨8, 4096, 1, 4096⟩))
              [beginOf "f" 1, endAt 2, beginOf "g" 3, endAt 4, beginOf "f" 5, endAt 6])
            (storedDict (reversedAfter 1 (r.rshutdownReleaseTrace (exitAt 7) .ok))))
          (storedCalls (reversedAfter 1 (r.rshutdownReleaseTrace (exitAt 7) .ok))) calls :=
  ⟨(run step (start Shared.init (rinitWith ⟨8, 4096, 1, 4096⟩))
      [beginOf "f" 1, endAt 2, beginOf "g" 3, endAt 4, beginOf "f" 5, endAt 6]).get (by decide),
    (Option.some_get _).symm,
    (spot_check_attributes_every_call (Option.some_get _).symm (separate_of_named (by decide))
      Uuid.hyphenated (reversedAfter_subset 1 _)).imp fun _ h => ⟨h.1, h.2.1⟩⟩

/-- Two traces: the names are not kept apart, and `f` is read as `g`. -/
example :
    (run step (start Shared.init (rinitWith ⟨8, 4096, 1, 4096⟩)) [beginOf "f" 1]).bind (fun f =>
      (run step (start Shared.init (rinitWith ⟨8, 4096, 1, 4096⟩)) [beginOf "g" 1]).bind fun g =>
        parseAnalyzeBatches (answerOf Uuid.hyphenated
          (reversedAfter 0 (f.rshutdownReleaseTrace (exitAt 2) .ok) ++
            reversedAfter 0 (g.rshutdownReleaseTrace (exitAt 2) .ok)))) =
      some [⟨"g", "function", 1, 2⟩, ⟨"g", "function", 1, 2⟩] := by
  decide +kernel

/-- The sites by the ids of their calls. -/
def siteAt (sites : List AcceptedSite) (callId : ℕ) : Option (String × String) :=
  sites[callId - 1]?.map fun site => calledAs site.2

theorem map_siteAt_range' (sites : List AcceptedSite) :
    (List.range' 1 sites.length).map (siteAt sites) =
      sites.map fun site => some (calledAs site.2) := by
  refine List.ext_getElem (by simp) fun i hi hi' => ?_
  rw [List.length_map] at hi'
  simp [siteAt, List.getElem?_eq_getElem hi']

/-- **The reader counts every call.**  When the server stores every batch of a released trace
once, in any order, the functions of the calls that the reader makes are those of the accepted
begins, each as often as it was accepted: the counts by function that the spot check compares
are exact. -/
theorem spot_check_counts_every_call (h : run step (start shared rinit) es = some r)
    (hsites : Separate (accepted (start shared rinit) es)) (uuidToString : TraceId → String)
    (hstored : (stored.map Prod.fst).Perm
      ((r.rshutdownReleaseTrace exit answer).handed.map Prod.fst)) :
    ∃ calls, parseAnalyzeBatches (answerOf uuidToString stored) = some calls ∧
      (calls.map fun call => (call.fqn, call.kind)).Perm
        ((accepted (start shared rinit) es).map fun site => calledAs site.2) := by
  refine ⟨_, parseAnalyzeBatches_answerOf uuidToString stored, ?_⟩
  -- by the ids of their records, which are `1, …, n` over all batches
  have hread : ((storedCalls stored).map fun record =>
      callOf (known ((storedDict stored).map dictEntryToWire) record.fnId)
        (callRecordToWire record)).map (fun call => some (call.fqn, call.kind)) =
      ((storedCalls stored).map CallRecord.callId).map
        (siteAt (accepted (start shared rinit) es)) := by
    rw [List.map_map, List.map_map]
    refine List.map_congr_left fun record hrecord => ?_
    obtain ⟨-, -, site, -, hsite, hcall⟩ := readAs_stored h hsites hstored.subset hrecord
    rw [if_pos (fnId_mem_storedDict h hstored.subset hstored.symm.subset hrecord)] at hcall
    rw [Function.comp_apply, Function.comp_apply, siteAt, hsite, hcall]
    rfl
  have hcalls : (storedCalls stored).Perm (r.rshutdownReleaseTrace exit answer).calls := by
    have hflat := hstored.flatMap_right PendingBatch.calls
    rwa [List.flatMap_map, List.flatMap_map] at hflat
  have hids : ((storedCalls stored).map CallRecord.callId).Perm
      (List.range' 1 (accepted (start shared rinit) es).length) := by
    rw [← (dictLog_run h).seq]
    exact (hcalls.map CallRecord.callId).trans
      (by rw [callId_calls_release]; exact (recorded_run h).ids)
  have hperm := hids.map (siteAt (accepted (start shared rinit) es))
  rw [← hread, map_siteAt_range'] at hperm
  have hsome : Function.Injective (some : String × String → Option (String × String)) :=
    Option.some_injective _
  refine (List.map_perm_map_iff hsome).mp ?_
  simpa only [List.map_map, Function.comp_def] using hperm

theorem spot_check_counts_every_call_reversed :
    ∃ r, run step (start Shared.init (rinitWith ⟨8, 4096, 1, 4096⟩))
        [beginOf "f" 1, endAt 2, beginOf "g" 3, endAt 4, beginOf "f" 5] = some r ∧
      ∃ calls,
        parseAnalyzeBatches (answerOf Uuid.hyphenated
          (reversedAfter 0 (r.rshutdownReleaseTrace (exitAt 7) .ok))) = some calls ∧
        (calls.map fun call => (call.fqn, call.kind)).Perm
          ((accepted (start Shared.init (rinitWith ⟨8, 4096, 1, 4096⟩))
              [beginOf "f" 1, endAt 2, beginOf "g" 3, endAt 4, beginOf "f" 5]).map
            fun site => calledAs site.2) :=
  ⟨(run step (start Shared.init (rinitWith ⟨8, 4096, 1, 4096⟩))
      [beginOf "f" 1, endAt 2, beginOf "g" 3, endAt 4, beginOf "f" 5]).get (by decide),
    (Option.some_get _).symm,
    spot_check_counts_every_call (Option.some_get _).symm (separate_of_named (by decide))
      Uuid.hyphenated (perm_reversedAfter 0 _)⟩

end traces

end SpotCheck

end PhpAnalyze
