import PhpAnalyze.Lib.Msgpack
import PhpAnalyze.Lib.Uuid
import PhpAnalyze.Wire

/-! # The wire format (`wire.rs`, `shipper/encode.rs`)

A struct of `wire.rs` is written as a map that is keyed by its field names (`toValue`), and the
derived decoder looks the fields up by these keys (`ofValue`).  `CallRecord.fn_id` is renamed
to `fn`, and `FunctionKind` goes through a `u8`.

What the server decodes is the wire batch (`ofValue_toValue`), and every field of it is a field
of the batch that was flushed (`batchFromWire_toWire`).  Other orders of the keys and unknown
keys, in any map, are not noticed (`ofValue_variant`). -/

namespace PhpAnalyze

open Msgpack

namespace Wire

/-! ### The structs as maps -/

/-- `impl From<FunctionKind> for u8`. -/
def FunctionKind.toU8 : FunctionKind → UInt8
  | .function => 0
  | .method => 1
  | .closure => 2
  | .internal => 3

/-- `impl TryFrom<u8> for FunctionKind`. -/
def FunctionKind.tryFrom (value : UInt8) : Except String FunctionKind :=
  match value.toNat with
  | 0 => .ok .function
  | 1 => .ok .method
  | 2 => .ok .closure
  | 3 => .ok .internal
  | _ => .error "invalid FunctionKind discriminant"

/-- `#[serde(into = "u8")]`. -/
def FunctionKind.toValue (kind : FunctionKind) : Value := .int kind.toU8.toNat

/-- `#[serde(try_from = "u8")]`. -/
def FunctionKind.ofValue (v : Value) : Option FunctionKind :=
  (decodeUnsigned 8 v).bind fun value => (FunctionKind.tryFrom (UInt8.ofNat value)).toOption

namespace MetaFull

abbrev keys : List String :=
  ["schema_version", "trace_id", "host", "pid", "start_time", "sapi", "uri_or_script",
    "dropped_records"]

def toValue (m : MetaFull) : Value :=
  .map [("schema_version", .int m.schemaVersion), ("trace_id", .str m.traceId),
    ("host", .str m.host), ("pid", .int m.pid.toNat), ("start_time", .int m.startTime),
    ("sapi", .str m.sapi), ("uri_or_script", .str m.uriOrScript),
    ("dropped_records", .int m.droppedRecords)]

def ofEntries (entries : Entries) : Option MetaFull := do
  let schemaVersion ← field entries "schema_version" (decodeUnsigned 8)
  let traceId ← field entries "trace_id" decodeStr
  let host ← field entries "host" decodeStr
  let pid ← field entries "pid" (decodeUnsigned 32)
  let startTime ← field entries "start_time" (decodeSigned 63)
  let sapi ← field entries "sapi" decodeStr
  let uriOrScript ← field entries "uri_or_script" decodeStr
  let droppedRecords ← field entries "dropped_records" (decodeUnsigned 64)
  return { schemaVersion, traceId, host, pid := UInt32.ofNat pid, startTime, sapi, uriOrScript,
           droppedRecords }

def ofValue : Value → Option MetaFull := decodeMap ofEntries

end MetaFull

namespace DictEntry

abbrev keys : List String := ["fn_id", "fqn", "file", "line", "kind"]

def toValue (entry : DictEntry) : Value :=
  .map [("fn_id", .int entry.fnId), ("fqn", .str entry.fqn), ("file", .str entry.file),
    ("line", .int entry.line.toNat), ("kind", entry.kind.toValue)]

def ofEntries (entries : Entries) : Option DictEntry := do
  let fnId ← field entries "fn_id" (decodeUnsigned 32)
  let fqn ← field entries "fqn" decodeStr
  let file ← field entries "file" decodeStr
  let line ← field entries "line" (decodeUnsigned 32)
  let kind ← field entries "kind" FunctionKind.ofValue
  return { fnId, fqn, file, line := UInt32.ofNat line, kind }

def ofValue : Value → Option DictEntry := decodeMap ofEntries

end DictEntry

namespace CallRecord

abbrev keys : List String :=
  ["call_id", "parent", "fn", "depth", "t_in", "t_out", "cpu_u", "cpu_s", "mem_in", "mem_out",
    "abnormal_exit"]

/-- `#[serde(rename = "fn")]` on `fn_id`. -/
def toValue (call : CallRecord) : Value :=
  .map [("call_id", .int call.callId), ("parent", .int call.parent), ("fn", .int call.fnId),
    ("depth", .int call.depth), ("t_in", .int call.tIn), ("t_out", .int call.tOut),
    ("cpu_u", .int call.cpuU), ("cpu_s", .int call.cpuS), ("mem_in", .int call.memIn),
    ("mem_out", .int call.memOut), ("abnormal_exit", .bool call.abnormalExit)]

def ofEntries (entries : Entries) : Option CallRecord := do
  let callId ← field entries "call_id" (decodeUnsigned 64)
  let parent ← field entries "parent" (decodeUnsigned 64)
  let fnId ← field entries "fn" (decodeUnsigned 32)
  let depth ← field entries "depth" (decodeUnsigned 16)
  let tIn ← field entries "t_in" (decodeSigned 63)
  let tOut ← field entries "t_out" (decodeSigned 63)
  let cpuU ← field entries "cpu_u" (decodeSigned 63)
  let cpuS ← field entries "cpu_s" (decodeSigned 63)
  let memIn ← field entries "mem_in" (decodeSigned 63)
  let memOut ← field entries "mem_out" (decodeSigned 63)
  let abnormalExit ← field entries "abnormal_exit" decodeBool
  return { callId, parent, fnId, depth, tIn, tOut, cpuU, cpuS, memIn, memOut, abnormalExit }

def ofValue : Value → Option CallRecord := decodeMap ofEntries

end CallRecord

namespace Batch

abbrev keys : List String := ["meta", "dict", "calls"]

def toValue (batch : Batch) : Value :=
  .map [("meta", batch.metaFull.toValue), ("dict", .array (batch.dict.map DictEntry.toValue)),
    ("calls", .array (batch.calls.map CallRecord.toValue))]

def ofEntries (entries : Entries) : Option Batch := do
  let metaFull ← field entries "meta" MetaFull.ofValue
  let dict ← field entries "dict" (decodeArray DictEntry.ofValue)
  let calls ← field entries "calls" (decodeArray CallRecord.ofValue)
  return { metaFull, dict, calls }

def ofValue : Value → Option Batch := decodeMap ofEntries

end Batch

end Wire

/-- `encode_batch`, with the encoder of the codec for `rmp_serde::to_vec_named`. -/
def encodeBatch (codec : Codec) (uuidToString : TraceId → String) (s : Shared)
    (batch : PendingBatch) : Option (List UInt8) :=
  codec.toVec (batchToWire uuidToString s batch).toValue

/-- `rmp_serde::from_slice::<Batch>`. -/
def decodeBatch (codec : Codec) (bytes : List UInt8) : Option Wire.Batch :=
  (codec.fromSlice bytes).bind Wire.Batch.ofValue

/-! ### Every field comes back -/

/-- The range of an `i64`. -/
def InI64 (i : ℤ) : Prop := -2 ^ 63 ≤ i ∧ i < 2 ^ 63

/-- The numbers of a record are of their Rust types. -/
structure CallRecord.InRange (call : CallRecord) : Prop where
  callId : call.callId < 2 ^ 64
  parent : call.parent < 2 ^ 64
  fnId : call.fnId < 2 ^ 32
  depth : call.depth < 2 ^ 16
  tInNs : InI64 call.tInNs
  tOutNs : InI64 call.tOutNs
  cpuUNs : InI64 call.cpuUNs
  cpuSNs : InI64 call.cpuSNs
  memInBytes : InI64 call.memInBytes
  memOutBytes : InI64 call.memOutBytes

/-- The numbers of a batch are of their Rust types. -/
structure PendingBatch.InRange (batch : PendingBatch) : Prop where
  schemaVersion : batch.metaPartial.schemaVersion < 2 ^ 8
  startTimeRealtimeNs : InI64 batch.metaPartial.startTimeRealtimeNs
  dict : ∀ entry ∈ batch.dict, entry.fnId < 2 ^ 32
  calls : ∀ call ∈ batch.calls, call.InRange

theorem decodeSigned_of_inI64 {i : ℤ} (h : InI64 i) : decodeSigned 63 (.int i) = some i :=
  decodeSigned_int h.1 h.2

theorem decodeUnsigned_toNat (n : UInt32) : decodeUnsigned 32 (.int n.toNat) = some n.toNat :=
  decodeUnsigned_int n.toNat_lt

namespace Wire

theorem FunctionKind.ofValue_toValue (kind : FunctionKind) :
    FunctionKind.ofValue kind.toValue = some kind := by
  cases kind <;> rfl

theorem MetaFull.ofValue_toValue {m : MetaFull} (hversion : m.schemaVersion < 2 ^ 8)
    (hstart : InI64 m.startTime) (hdropped : m.droppedRecords < 2 ^ 64) :
    MetaFull.ofValue m.toValue = some m := by
  simp [ofValue, toValue, decodeMap, ofEntries, field, decodeStr, decodeUnsigned_toNat,
    decodeUnsigned_int hversion, decodeSigned_of_inI64 hstart, decodeUnsigned_int hdropped]

theorem DictEntry.ofValue_toValue {entry : DictEntry} (hid : entry.fnId < 2 ^ 32) :
    DictEntry.ofValue entry.toValue = some entry := by
  simp [ofValue, toValue, decodeMap, ofEntries, field, decodeStr, decodeUnsigned_toNat,
    decodeUnsigned_int hid, FunctionKind.ofValue_toValue]

theorem CallRecord.ofValue_toValue {call : PhpAnalyze.CallRecord} (h : call.InRange) :
    CallRecord.ofValue (callRecordToWire call).toValue = some (callRecordToWire call) := by
  simp [ofValue, toValue, decodeMap, ofEntries, field, callRecordToWire, decodeBool,
    decodeUnsigned_int h.callId, decodeUnsigned_int h.parent, decodeUnsigned_int h.fnId,
    decodeUnsigned_int h.depth, decodeSigned_of_inI64 h.tInNs, decodeSigned_of_inI64 h.tOutNs,
    decodeSigned_of_inI64 h.cpuUNs, decodeSigned_of_inI64 h.cpuSNs,
    decodeSigned_of_inI64 h.memInBytes, decodeSigned_of_inI64 h.memOutBytes]

/-- A batch comes back when its parts do. -/
theorem Batch.ofValue_toValue {batch : Batch}
    (hmeta : MetaFull.ofValue batch.metaFull.toValue = some batch.metaFull)
    (hdict : ∀ entry ∈ batch.dict, DictEntry.ofValue entry.toValue = some entry)
    (hcalls : ∀ call ∈ batch.calls, CallRecord.ofValue call.toValue = some call) :
    Batch.ofValue batch.toValue = some batch := by
  simp [ofValue, toValue, decodeMap, ofEntries, field, hmeta, decodeArray_map hdict,
    decodeArray_map hcalls]

end Wire

/-- The derived decoder reads what the derived serializer wrote. -/
theorem ofValue_batchToWire {uuidToString : TraceId → String} {s : Shared}
    {batch : PendingBatch} (hrange : batch.InRange)
    (hcount : s.dropCounters batch.dropCounter < 2 ^ 64) :
    Wire.Batch.ofValue (batchToWire uuidToString s batch).toValue =
      some (batchToWire uuidToString s batch) := by
  refine Wire.Batch.ofValue_toValue ?_ (fun entry hentry => ?_) (fun call hcall => ?_)
  · exact Wire.MetaFull.ofValue_toValue hrange.schemaVersion hrange.startTimeRealtimeNs hcount
  · obtain ⟨entry, hmem, rfl⟩ := List.mem_map.mp hentry
    exact Wire.DictEntry.ofValue_toValue (hrange.dict entry hmem)
  · obtain ⟨call, hmem, rfl⟩ := List.mem_map.mp hcall
    exact Wire.CallRecord.ofValue_toValue (hrange.calls call hmem)

/-! ### Under the recorder's names -/

/-- What a server knows of a flushed batch. -/
structure Received where
  metaPartial : MetaPartial
  droppedRecords : ℕ
  dict : List DictEntry
  calls : List CallRecord

def functionKindFromWire : Wire.FunctionKind → FunctionKind
  | .function => .function
  | .method => .method
  | .closure => .closure
  | .internal => .internal

def dictEntryFromWire (entry : Wire.DictEntry) : DictEntry where
  fnId := entry.fnId
  fqn := entry.fqn
  file := entry.file
  line := entry.line
  kind := functionKindFromWire entry.kind

def callRecordFromWire (call : Wire.CallRecord) : CallRecord where
  callId := call.callId
  parent := call.parent
  fnId := call.fnId
  depth := call.depth
  tInNs := call.tIn
  tOutNs := call.tOut
  cpuUNs := call.cpuU
  cpuSNs := call.cpuS
  memInBytes := call.memIn
  memOutBytes := call.memOut
  abnormalExit := call.abnormalExit

/-- The wire batch under the recorder's names, with the trace id read from its text. -/
def batchFromWire (batch : Wire.Batch) : Option Received :=
  (Uuid.ofHyphenated batch.metaFull.traceId).map fun traceId =>
    { metaPartial :=
        { schemaVersion := batch.metaFull.schemaVersion
          traceId
          host := batch.metaFull.host
          pid := batch.metaFull.pid
          startTimeRealtimeNs := batch.metaFull.startTime
          sapi := batch.metaFull.sapi
          uriOrScript := batch.metaFull.uriOrScript }
      droppedRecords := batch.metaFull.droppedRecords
      dict := batch.dict.map dictEntryFromWire
      calls := batch.calls.map callRecordFromWire }

theorem functionKindFromWire_toWire (kind : FunctionKind) :
    functionKindFromWire (functionKindToWire kind) = kind := by
  cases kind <;> rfl

theorem dictEntryFromWire_toWire (entry : DictEntry) :
    dictEntryFromWire (dictEntryToWire entry) = entry := by
  simp only [dictEntryFromWire, dictEntryToWire, functionKindFromWire_toWire]

theorem callRecordFromWire_toWire (call : CallRecord) :
    callRecordFromWire (callRecordToWire call) = call :=
  rfl

/-- No field of a batch is lost or exchanged in its wire form. -/
theorem batchFromWire_toWire {uuidToString : TraceId → String}
    (huuid : ∀ id, uuidToString id = Uuid.hyphenated id) (s : Shared) (batch : PendingBatch) :
    batchFromWire (batchToWire uuidToString s batch) =
      some ⟨batch.metaPartial, s.dropCounters batch.dropCounter, batch.dict, batch.calls⟩ := by
  have htraceId : Uuid.ofHyphenated (batchToWire uuidToString s batch).metaFull.traceId =
      some batch.metaPartial.traceId := by
    show Uuid.ofHyphenated (uuidToString batch.metaPartial.traceId) = _
    rw [huuid, Uuid.ofHyphenated_hyphenated]
  have hdict : (batch.dict.map dictEntryToWire).map dictEntryFromWire = batch.dict := by
    simp [dictEntryFromWire_toWire, Function.comp_def]
  have hcalls : (batch.calls.map callRecordToWire).map callRecordFromWire = batch.calls := by
    simp [callRecordFromWire_toWire, Function.comp_def]
  simp only [batchFromWire, htraceId, Option.map_some]
  simp only [batchToWire, metaPartialToWire, hdict, hcalls]

namespace Wire

/-! ### Other orders, unknown keys, unknown kinds -/

/-- The map of a struct without nested maps: its entries in any order, and unknown ones. -/
def MetaFull.Variant : Value → Value → Prop := MapVariant MetaFull.keys fun _ => Eq

def DictEntry.Variant : Value → Value → Prop := MapVariant DictEntry.keys fun _ => Eq

def CallRecord.Variant : Value → Value → Prop := MapVariant CallRecord.keys fun _ => Eq

/-- The values under the keys of a batch, with the nested maps in other forms. -/
def Batch.FieldVariant : String → Value → Value → Prop
  | "meta" => MetaFull.Variant
  | "dict" => ArrayVariant DictEntry.Variant
  | "calls" => ArrayVariant CallRecord.Variant
  | _ => Eq

/-- Any map of a batch with its keys in another order and more keys. -/
def Batch.Variant : Value → Value → Prop := MapVariant Batch.keys Batch.FieldVariant

theorem MetaFull.ofValue_variant {v v' : Value} (h : MetaFull.Variant v v') :
    MetaFull.ofValue v' = MetaFull.ofValue v := by
  refine decodeMap_variant h fun entries entries' hentries => ?_
  simp [ofEntries, field_variant_eq hentries, keys]

theorem DictEntry.ofValue_variant {v v' : Value} (h : DictEntry.Variant v v') :
    DictEntry.ofValue v' = DictEntry.ofValue v := by
  refine decodeMap_variant h fun entries entries' hentries => ?_
  simp [ofEntries, field_variant_eq hentries, keys]

theorem CallRecord.ofValue_variant {v v' : Value} (h : CallRecord.Variant v v') :
    CallRecord.ofValue v' = CallRecord.ofValue v := by
  refine decodeMap_variant h fun entries entries' hentries => ?_
  simp [ofEntries, field_variant_eq hentries, keys]

/-- **Unknown keys and other orders change nothing**, in any map of the batch. -/
theorem Batch.ofValue_variant {v v' : Value} (h : Batch.Variant v v') :
    Batch.ofValue v' = Batch.ofValue v := by
  refine decodeMap_variant h fun entries entries' hentries => ?_
  have hmeta := field_variant hentries (show "meta" ∈ keys by simp [keys])
    fun _ _ hv => MetaFull.ofValue_variant hv
  have hdict := field_variant hentries (show "dict" ∈ keys by simp [keys])
    fun _ _ hv => decodeArray_variant hv fun _ _ => DictEntry.ofValue_variant
  have hcalls := field_variant hentries (show "calls" ∈ keys by simp [keys])
    fun _ _ hv => decodeArray_variant hv fun _ _ => CallRecord.ofValue_variant
  simp only [ofEntries, hmeta, hdict, hcalls]

/-- `try_from` takes the four discriminants only. -/
theorem FunctionKind.tryFrom_of_le {value : UInt8} (h : 4 ≤ value.toNat) :
    FunctionKind.tryFrom value = .error "invalid FunctionKind discriminant" := by
  obtain ⟨n, hn⟩ := Nat.exists_eq_add_of_le' h
  rw [FunctionKind.tryFrom, hn]
  rfl

theorem FunctionKind.ofValue_eq_none {k : ℤ} (hk : 4 ≤ k) :
    FunctionKind.ofValue (.int k) = none := by
  obtain ⟨n, rfl⟩ := Int.eq_ofNat_of_zero_le (show 0 ≤ k by omega)
  by_cases hn : n < 2 ^ 8
  · have htoNat : (UInt8.ofNat n).toNat = n := UInt8.toNat_ofNat_of_lt' hn
    have herror : FunctionKind.tryFrom (UInt8.ofNat n) = _ :=
      FunctionKind.tryFrom_of_le (by omega)
    rw [FunctionKind.ofValue, decodeUnsigned_int hn, Option.bind_some, herror]
    rfl
  · have hnone : decodeUnsigned 8 (.int n) = none := if_neg hn
    rw [FunctionKind.ofValue, hnone]
    rfl

/-- An entry with an unknown kind is rejected, whatever else is in its map. -/
theorem DictEntry.ofValue_eq_none {entries : Entries} {k : ℤ} (hmem : ("kind", .int k) ∈ entries)
    (hk : 4 ≤ k) : DictEntry.ofValue (.map entries) = none := by
  have hkind := field_eq_none hmem (FunctionKind.ofValue_eq_none hk)
  simp [ofValue, decodeMap, ofEntries, hkind]

/-- A batch with a rejected entry is rejected. -/
theorem Batch.ofValue_eq_none {fields : Entries} {items : List Value} {item : Value}
    (hdict : ("dict", .array items) ∈ fields) (hitem : item ∈ items)
    (h : DictEntry.ofValue item = none) : Batch.ofValue (.map fields) = none := by
  have harray := field_eq_none hdict (decodeArray_eq_none hitem h)
  simp [ofValue, decodeMap, ofEntries, harray]

end Wire

/-- **The wire round trip.**  What the server decodes is the batch, with the trace id from its
36 characters and the drop counter as it was when the batch was encoded; unknown keys and other
orders of the keys, in any map, change nothing; and an entry of an unknown kind is rejected. -/
theorem wire_round_trip {codec : Codec} {uuidToString : TraceId → String}
    (huuid : ∀ id, uuidToString id = Uuid.hyphenated id) {s : Shared} {batch : PendingBatch}
    (hrange : batch.InRange) (hcount : s.dropCounters batch.dropCounter < 2 ^ 64)
    (hsurvives : codec.Survives (batchToWire uuidToString s batch).toValue) :
    (∃ bytes decoded, encodeBatch codec uuidToString s batch = some bytes ∧
        decodeBatch codec bytes = some decoded ∧ decoded.metaFull.traceId.length = 36 ∧
        batchFromWire decoded = some ⟨batch.metaPartial, s.dropCounters batch.dropCounter,
          batch.dict, batch.calls⟩) ∧
      (∀ v bytes, Wire.Batch.Variant (batchToWire uuidToString s batch).toValue v →
        codec.fromSlice bytes = some v →
          decodeBatch codec bytes = some (batchToWire uuidToString s batch)) ∧
      ∀ entries k, ("kind", .int k) ∈ entries → 4 ≤ k →
        Wire.DictEntry.ofValue (.map entries) = none ∧
          ∀ bytes fields items, codec.fromSlice bytes = some (.map fields) →
            ("dict", .array items) ∈ fields → .map entries ∈ items →
              decodeBatch codec bytes = none := by
  have htrip : Wire.Batch.ofValue (batchToWire uuidToString s batch).toValue = _ :=
    ofValue_batchToWire hrange hcount
  refine ⟨?_, fun v bytes hvariant hbytes => ?_, fun entries k hkind hk => ?_⟩
  · obtain ⟨bytes, hencode, hdecode⟩ := hsurvives
    refine ⟨bytes, _, hencode, ?_, ?_, batchFromWire_toWire huuid s batch⟩
    · rw [decodeBatch, hdecode]
      exact htrip
    · show (uuidToString batch.metaPartial.traceId).length = 36
      rw [huuid, ← String.length_toList, Uuid.length_hyphenated]
  · rw [decodeBatch, hbytes, ← htrip]
    exact Wire.Batch.ofValue_variant hvariant
  · have hentry := Wire.DictEntry.ofValue_eq_none hkind hk
    refine ⟨hentry, fun bytes fields items hbytes hdict hitem => ?_⟩
    rw [decodeBatch, hbytes]
    exact Wire.Batch.ofValue_eq_none hdict hitem hentry

/-- A batch with one entry and one call. -/
def sampleBatch : PendingBatch where
  metaPartial :=
    { schemaVersion := 1
      traceId := Vector.replicate 16 0x9f
      host := "test-host"
      pid := 4242
      startTimeRealtimeNs := 1700000000000000000
      sapi := "cli"
      uriOrScript := "index.php" }
  dict := [{ fnId := 1, fqn := "noop", file := "index.php", line := 7, kind := .closure }]
  calls :=
    [{ callId := 1, parent := 0, fnId := 1, depth := 0, tInNs := 1000000, tOutNs := 2000000,
       cpuUNs := 100, cpuSNs := 50, memInBytes := 1024, memOutBytes := 2048,
       abnormalExit := false }]
  sizeEstimate := 101
  dropCounter := 0

/-- MessagePack, as far as this value needs it. -/
def codecOf (v : Value) : Codec where
  toVec v := some v.toBytes
  fromSlice bytes := if bytes = v.toBytes then some v else none

theorem survives_codecOf (v : Value) : (codecOf v).Survives v := ⟨v.toBytes, rfl, if_pos rfl⟩

theorem wire_round_trip_sample :
    ∃ bytes decoded,
      encodeBatch (codecOf (batchToWire Uuid.hyphenated Shared.init sampleBatch).toValue)
        Uuid.hyphenated Shared.init sampleBatch = some bytes ∧
      decodeBatch (codecOf (batchToWire Uuid.hyphenated Shared.init sampleBatch).toValue) bytes =
        some decoded ∧
      batchFromWire decoded =
        some ⟨sampleBatch.metaPartial, 0, sampleBatch.dict, sampleBatch.calls⟩ := by
  have hrange : sampleBatch.InRange :=
    { schemaVersion := by decide
      startTimeRealtimeNs := by simp [InI64, sampleBatch]
      dict := by decide
      calls := by
        intro call hcall
        obtain rfl := List.mem_singleton.mp hcall
        constructor <;> simp [InI64] }
  obtain ⟨bytes, decoded, hencode, hdecode, -, hbatch⟩ := (wire_round_trip (fun _ => rfl) hrange
    (show Shared.init.dropCounters sampleBatch.dropCounter < 2 ^ 64 by decide)
    (survives_codecOf _)).1
  exact ⟨bytes, decoded, hencode, hdecode, hbatch⟩

end PhpAnalyze
