import PhpAnalyze.DictPartition
import PhpAnalyze.Lib.Numerals
import PhpAnalyze.Lib.Text
import PhpAnalyze.Lib.Uuid
import PhpAnalyze.WireFormat

/-! # The diagnostic dump (`recorder/dump.rs`)

With the feature `recorder-dump` every flush appends a block of lines to a file, `F:` and then
the `D:` and `C:` lines of its batch, and `RSHUTDOWN` appends the lines that close it.
`parse_dump` reads the file back.

A line of the file is a `DumpLine`.  `parseDumpLine_text` is the step lemma: the loop body of
`parse_dump` reads the text of a line as this line and as no other.  From it, over the lines
that `unlines` put together, `dump_round_trip`.

`requestBlocks` are the blocks that a run of the recorder writes.  They are the batches that it
handed off (`batches_requestBlocks`), and the trace that `RSHUTDOWN` closes the file with holds
nothing more, so the dump of a request reads back as its batches (`parseDump_requestDump`). -/

namespace PhpAnalyze

open Digits Machine Numerals

/-! ### The writer -/

def FunctionKind.dumpName : FunctionKind → String
  | .function => "function"
  | .method => "method"
  | .closure => "closure"
  | .internal => "internal"

/-- The `F:` line. -/
def flushLine (trigger : FlushTrigger) (recordCount estimatedBytes : ℕ) : String :=
  "F:record_count=" ++ renderDigits 10 recordCount ++
    " estimated_bytes=" ++ renderDigits 10 estimatedBytes ++ " trigger=" ++ trigger.asStr

/-- `write_dict_line`. -/
def dictLine (entry : DictEntry) : String :=
  "D:" ++ renderDigits 10 entry.fnId ++ ":" ++ entry.kind.dumpName ++ ":" ++
    renderDigits 10 entry.line.toNat ++ ":" ++ entry.fqn ++ "\t" ++ entry.file

def callFields (record : CallRecord) : List String :=
  [renderDigits 10 record.callId, renderDigits 10 record.parent, renderDigits 10 record.fnId,
    renderDigits 10 record.depth, renderInt record.tInNs, renderInt record.tOutNs,
    renderInt record.cpuUNs, renderInt record.cpuSNs, renderInt record.memInBytes,
    renderInt record.memOutBytes, if record.abnormalExit then "true" else "false"]

/-- The `C:` line. -/
def callLine (record : CallRecord) : String := "C:" ++ ":".intercalate (callFields record)

def dropLine (droppedRecords : ℕ) : String :=
  "DROP: dropped_records=" ++ renderDigits 10 droppedRecords

/-- The bytes of the trace id in two hexadecimal digits each. -/
def rshutdownLine (traceId : TraceId) : String :=
  "RSHUTDOWN: dropped trace_id=" ++ String.ofList (traceId.toList.flatMap Uuid.hexPair)

/-- What `write_flush_block` appends to the file. -/
def writeFlushBlock (batch : PendingBatch) (trigger : FlushTrigger)
    (recordCount estimatedBytes : ℕ) : String :=
  Text.unlines (flushLine trigger recordCount estimatedBytes ::
    (batch.dict.map dictLine ++ batch.calls.map callLine))

/-- What `write_trace_to_path` appends to the file. -/
def writeTraceToPath (s : Shared) (t : Trace) : String :=
  Text.unlines (t.dictionary.newEntries.map dictLine ++ t.buffer.map callLine ++
    [dropLine (s.dropCounters t.dropCounter), rshutdownLine t.traceId])

/-! ### The parser -/

structure ParsedFlush where
  recordCount : ℕ
  estimatedBytes : ℕ
  trigger : String
deriving DecidableEq, Repr

structure ParsedDict where
  fnId : ℕ
  kind : String
  line : ℕ
  fqn : String
  file : String
deriving DecidableEq, Repr

structure ParsedCall where
  callId : ℕ
  parent : ℕ
  fnId : ℕ
  depth : ℕ
  tInNs : ℤ
  tOutNs : ℤ
  cpuUNs : ℤ
  cpuSNs : ℤ
  memInBytes : ℤ
  memOutBytes : ℤ
  abnormalExit : Bool
deriving DecidableEq, Repr

structure ParsedDump where
  dict : List ParsedDict
  calls : List ParsedCall
  droppedRecords : Option ℕ
  rshutdownMarkerSeen : Bool
  flushes : List ParsedFlush
deriving DecidableEq, Repr

/-- The three options that `parse_flush_line` fills. -/
structure FlushFields where
  recordCount : Option ℕ
  estimatedBytes : Option ℕ
  trigger : Option String

/-- One `key=value` pair; an unknown key is left out, a part without `=` ends the parse. -/
def parseFlushPart (fields : FlushFields) (part : String) : Option FlushFields :=
  (Text.splitOnce ['='] part.toList).map fun (key, value) =>
    let key := String.ofList key
    let value := String.ofList value
    if key = "record_count" then { fields with recordCount := parseUnsigned 64 value }
    else if key = "estimated_bytes" then { fields with estimatedBytes := parseUnsigned 64 value }
    else if key = "trigger" then { fields with trigger := some value }
    else fields

def parseFlushLine (rest : String) : Option ParsedFlush := do
  let fields ← (Text.splitWhitespace rest).foldlM parseFlushPart ⟨none, none, none⟩
  let recordCount ← fields.recordCount
  let estimatedBytes ← fields.estimatedBytes
  let trigger ← fields.trigger
  return { recordCount, estimatedBytes, trigger }

def parseDictLine (rest : String) : Option ParsedDict :=
  match Text.splitn 4 ':' rest with
  | [fnId, kind, line, fqnFile] => do
      let fnId ← parseUnsigned 32 fnId
      let line ← parseUnsigned 32 line
      match Text.splitn 2 '\t' fqnFile with
      | [fqn, file] => return { fnId, kind, line, fqn, file }
      | [fqn] => return { fnId, kind, line, fqn, file := "" }
      | _ => none
  | _ => none

def parseAbnormalExit (s : String) : Option Bool :=
  if s = "true" then some true else if s = "false" then some false else none

/-- More parts than eleven are not looked at. -/
def parseCallLine (rest : String) : Option ParsedCall :=
  match Text.split ':' rest with
  | callId :: parent :: fnId :: depth :: tInNs :: tOutNs :: cpuUNs :: cpuSNs :: memInBytes ::
      memOutBytes :: abnormalExit :: _ => do
      let callId ← parseUnsigned 64 callId
      let parent ← parseUnsigned 64 parent
      let fnId ← parseUnsigned 32 fnId
      let depth ← parseUnsigned 16 depth
      let tInNs ← parseI64 tInNs
      let tOutNs ← parseI64 tOutNs
      let cpuUNs ← parseI64 cpuUNs
      let cpuSNs ← parseI64 cpuSNs
      let memInBytes ← parseI64 memInBytes
      let memOutBytes ← parseI64 memOutBytes
      let abnormalExit ← parseAbnormalExit abnormalExit
      return { callId, parent, fnId, depth, tInNs, tOutNs, cpuUNs, cpuSNs, memInBytes,
               memOutBytes, abnormalExit }
  | _ => none

/-- The body of the loop over the lines; a line that does not parse is left out. -/
def parseDumpLine (d : ParsedDump) (line : String) : ParsedDump :=
  match Text.stripPrefix "D:" line with
  | some rest => { d with dict := d.dict ++ (parseDictLine rest).toList }
  | none =>
      match Text.stripPrefix "C:" line with
      | some rest => { d with calls := d.calls ++ (parseCallLine rest).toList }
      | none =>
          match Text.stripPrefix "F:" line with
          | some rest => { d with flushes := d.flushes ++ (parseFlushLine rest).toList }
          | none =>
              match Text.stripPrefix "DROP: dropped_records=" line with
              | some rest => { d with droppedRecords := parseUnsigned 64 (Text.trim rest) }
              | none =>
                  if Text.startsWith "RSHUTDOWN:" line then
                    { d with rshutdownMarkerSeen := true }
                  else d

def ParsedDump.empty : ParsedDump where
  dict := []
  calls := []
  droppedRecords := none
  rshutdownMarkerSeen := false
  flushes := []

def parseDump (readToString : String → Except String String) (path : String) :
    Except String ParsedDump := do
  let contents ← readToString path
  return (Text.lines contents).foldl parseDumpLine .empty

/-! ### Lines -/

/-- A line of the file. -/
inductive DumpLine where
  | flush (trigger : FlushTrigger) (recordCount estimatedBytes : ℕ)
  | dict (entry : DictEntry)
  | call (record : CallRecord)
  | dropped (droppedRecords : ℕ)
  | rshutdown (traceId : TraceId)
deriving DecidableEq

def DumpLine.text : DumpLine → String
  | .flush trigger recordCount estimatedBytes => flushLine trigger recordCount estimatedBytes
  | .dict entry => dictLine entry
  | .call record => callLine record
  | .dropped droppedRecords => dropLine droppedRecords
  | .rshutdown traceId => rshutdownLine traceId

def DictEntry.parsed (entry : DictEntry) : ParsedDict where
  fnId := entry.fnId
  kind := entry.kind.dumpName
  line := entry.line.toNat
  fqn := entry.fqn
  file := entry.file

def CallRecord.parsed (record : CallRecord) : ParsedCall where
  callId := record.callId
  parent := record.parent
  fnId := record.fnId
  depth := record.depth
  tInNs := record.tInNs
  tOutNs := record.tOutNs
  cpuUNs := record.cpuUNs
  cpuSNs := record.cpuSNs
  memInBytes := record.memInBytes
  memOutBytes := record.memOutBytes
  abnormalExit := record.abnormalExit

/-- What a line adds to the result, field for field. -/
def ParsedDump.push (d : ParsedDump) : DumpLine → ParsedDump
  | .flush trigger recordCount estimatedBytes =>
      { d with flushes := d.flushes ++ [⟨recordCount, estimatedBytes, trigger.asStr⟩] }
  | .dict entry => { d with dict := d.dict ++ [entry.parsed] }
  | .call record => { d with calls := d.calls ++ [record.parsed] }
  | .dropped droppedRecords => { d with droppedRecords := some droppedRecords }
  | .rshutdown _ => { d with rshutdownMarkerSeen := true }

/-- The names stay on their line, the fully qualified name has no tab, and the id is a `u32`. -/
structure DictEntry.Writable (entry : DictEntry) : Prop where
  fnId : entry.fnId < 2 ^ 32
  fqn : Text.IsLine entry.fqn
  tab : '\t' ∉ entry.fqn.toList
  file : Text.IsLine entry.file

/-- The numbers are of their Rust types and the names can be written on a line. -/
def DumpLine.Writable : DumpLine → Prop
  | .flush _ recordCount estimatedBytes => recordCount < 2 ^ 64 ∧ estimatedBytes < 2 ^ 64
  | .dict entry => entry.Writable
  | .call record => record.InRange
  | .dropped droppedRecords => droppedRecords < 2 ^ 64
  | .rshutdown _ => True

/-! ### Fields are words -/

theorem isWord_renderDigits (n : ℕ) : Text.IsWord (renderDigits 10 n) := by
  intro c hc
  have hdigit := (isDigits_renderDigits n).digits c hc
  exact .inl (by rw [Char.isAlphanum, hdigit, Bool.or_true])

theorem isWord_renderInt (n : ℤ) : Text.IsWord (renderInt n) := by
  unfold renderInt
  split_ifs
  · intro c hc
    rw [String.toList_append] at hc
    rcases List.mem_append.mp hc with hc | hc
    · exact .inr (List.mem_singleton.mp hc)
    · exact isWord_renderDigits _ c hc
  · exact isWord_renderDigits _

theorem FunctionKind.isWord_dumpName (kind : FunctionKind) : Text.IsWord kind.dumpName := by
  cases kind <;> decide

theorem FlushTrigger.isWord_asStr (trigger : FlushTrigger) : Text.IsWord trigger.asStr := by
  cases trigger <;> decide

theorem isWord_callFields (record : CallRecord) :
    ∀ part ∈ callFields record, Text.IsWord part := by
  have hbool : Text.IsWord (if record.abnormalExit then "true" else "false") := by
    cases record.abnormalExit <;> decide
  simp only [callFields, List.forall_mem_cons, List.not_mem_nil, false_implies, implies_true,
    isWord_renderDigits, isWord_renderInt, hbool, and_self]

theorem isWord_hex (bytes : List UInt8) :
    Text.IsWord (String.ofList (bytes.flatMap Uuid.hexPair)) := by
  intro c hc
  rw [String.toList_ofList] at hc
  exact .inl (Uuid.isAlphanum_of_mem_hexPairs hc)

/-- A separator stays off a line end. -/
theorem isLine_intercalate {parts : List String} (h : ∀ part ∈ parts, Text.IsWord part) :
    Text.IsLine (":".intercalate parts) := by
  induction parts with
  | nil => decide
  | cons part parts ih =>
      obtain ⟨hpart, hparts⟩ := List.forall_mem_cons.mp h
      cases parts with
      | nil =>
          rw [String.intercalate_singleton]
          exact hpart.isLine
      | cons part' parts =>
          rw [String.intercalate_cons_cons]
          exact Text.isLine_append.mpr
            ⟨Text.isLine_append.mpr ⟨hpart.isLine, by decide⟩, ih hparts⟩

/-- The text of a line is one line of the file. -/
theorem DumpLine.isLine_text {line : DumpLine} (h : line.Writable) : Text.IsLine line.text := by
  have hnat : ∀ n, Text.IsLine (renderDigits 10 n) := fun n => (isWord_renderDigits n).isLine
  cases line with
  | flush trigger recordCount estimatedBytes =>
      show Text.IsLine ("F:record_count=" ++ _ ++ " estimated_bytes=" ++ _ ++ " trigger=" ++ _)
      simp only [Text.isLine_append, hnat, trigger.isWord_asStr.isLine, and_true]
      decide
  | dict entry =>
      show Text.IsLine ("D:" ++ _ ++ ":" ++ _ ++ ":" ++ _ ++ ":" ++ _ ++ "\t" ++ _)
      simp only [Text.isLine_append, hnat, entry.kind.isWord_dumpName.isLine, h.fqn, h.file,
        and_true]
      decide
  | call record =>
      exact Text.isLine_append.mpr ⟨by decide, isLine_intercalate (isWord_callFields record)⟩
  | dropped droppedRecords => exact Text.isLine_append.mpr ⟨by decide, hnat _⟩
  | rshutdown traceId => exact Text.isLine_append.mpr ⟨by decide, (isWord_hex _).isLine⟩

/-! ### Every line is read back -/

theorem parseDictLine_body {entry : DictEntry} (h : entry.Writable) :
    parseDictLine (renderDigits 10 entry.fnId ++ ":" ++ (entry.kind.dumpName ++ ":" ++
      (renderDigits 10 entry.line.toNat ++ ":" ++ (entry.fqn ++ "\t" ++ entry.file)))) =
        some entry.parsed := by
  have hfields : ∀ {s : String}, Text.IsWord s → ':' ∉ s.toList := fun hs =>
    hs.not_mem (by decide) (by decide)
  have hline : entry.line.toNat < 2 ^ 32 := entry.line.toNat_lt
  have hcolon : ":" = String.singleton ':' := rfl
  have htab : "\t" = String.singleton '\t' := rfl
  rw [parseDictLine, hcolon, htab, Text.splitn_append (hfields (isWord_renderDigits _)),
    Text.splitn_append (hfields entry.kind.isWord_dumpName),
    Text.splitn_append (hfields (isWord_renderDigits _)), Text.splitn_one]
  simp only [parseUnsigned_renderDigits h.fnId, parseUnsigned_renderDigits hline,
    Text.splitn_append h.tab, Nat.zero_add, Text.splitn_one, Option.bind_eq_bind,
    Option.bind_some]
  rfl

theorem parseAbnormalExit_ite (b : Bool) :
    parseAbnormalExit (if b then "true" else "false") = some b := by
  cases b <;> rfl

theorem parseCallLine_body {record : CallRecord} (h : record.InRange) :
    parseCallLine (":".intercalate (callFields record)) = some record.parsed := by
  have hcolon : ":" = String.singleton ':' := rfl
  have hsplit : Text.split ':' (":".intercalate (callFields record)) = callFields record := by
    rw [hcolon]
    exact Text.split_intercalate (List.cons_ne_nil _ _) fun part hpart =>
      (isWord_callFields record part hpart).not_mem (by decide) (by decide)
  rw [parseCallLine, hsplit]
  simp only [callFields, parseUnsigned_renderDigits h.callId, parseUnsigned_renderDigits h.parent,
    parseUnsigned_renderDigits h.fnId, parseUnsigned_renderDigits h.depth,
    parseI64_renderInt h.tInNs, parseI64_renderInt h.tOutNs, parseI64_renderInt h.cpuUNs,
    parseI64_renderInt h.cpuSNs, parseI64_renderInt h.memInBytes,
    parseI64_renderInt h.memOutBytes, parseAbnormalExit_ite, Option.bind_eq_bind, Option.bind_some]
  rfl

/-- A `key=value` pair splits at its first equals sign. -/
theorem parseFlushPart_pair (fields : FlushFields) {key : String} (hkey : '=' ∉ key.toList)
    (value : String) :
    parseFlushPart fields (key ++ "=" ++ value) = some
      (if key = "record_count" then { fields with recordCount := parseUnsigned 64 value }
      else if key = "estimated_bytes" then
        { fields with estimatedBytes := parseUnsigned 64 value }
      else if key = "trigger" then { fields with trigger := some value }
      else fields) := by
  have hsplit : Text.splitOnce ['='] (key ++ "=" ++ value).toList =
      some (key.toList, value.toList) := Text.splitOnce_toList "=" (by decide) hkey value
  rw [parseFlushPart, hsplit]
  simp only [Option.map_some, String.ofList_toList]

/-- A pair is one word of the line. -/
theorem unbroken_pair {key value : String} (hkey : Text.Unbroken key)
    (hvalue : Text.IsWord value) : Text.Unbroken (key ++ "=" ++ value) :=
  (hkey.append (by decide)).append hvalue.unbroken

theorem parseFlushLine_body {trigger : FlushTrigger} {recordCount estimatedBytes : ℕ}
    (hcount : recordCount < 2 ^ 64) (hbytes : estimatedBytes < 2 ^ 64) :
    parseFlushLine ("record_count" ++ "=" ++ renderDigits 10 recordCount ++ " " ++
      ("estimated_bytes" ++ "=" ++ renderDigits 10 estimatedBytes ++ " " ++
        ("trigger" ++ "=" ++ trigger.asStr))) =
          some ⟨recordCount, estimatedBytes, trigger.asStr⟩ := by
  have hspace : " " = String.singleton ' ' := rfl
  rw [parseFlushLine, hspace,
    Text.splitWhitespace_append (by simp)
      (unbroken_pair (by decide) (isWord_renderDigits _)) (by decide),
    Text.splitWhitespace_append (by simp)
      (unbroken_pair (by decide) (isWord_renderDigits _)) (by decide),
    Text.splitWhitespace_word (by simp) (unbroken_pair (by decide) trigger.isWord_asStr)]
  have hcountKey : '=' ∉ "record_count".toList := by decide
  have hbytesKey : '=' ∉ "estimated_bytes".toList := by decide
  have htriggerKey : '=' ∉ "trigger".toList := by decide
  simp only [List.foldlM_cons, List.foldlM_nil, parseFlushPart_pair _ hcountKey,
    parseFlushPart_pair _ hbytesKey, parseFlushPart_pair _ htriggerKey, Option.bind_eq_bind,
    Option.bind_some, parseUnsigned_renderDigits hcount, parseUnsigned_renderDigits hbytes,
    String.reduceEq, ↓reduceIte]
  rfl

theorem flushLine_eq (trigger : FlushTrigger) (recordCount estimatedBytes : ℕ) :
    flushLine trigger recordCount estimatedBytes =
      "F:" ++ ("record_count" ++ "=" ++ renderDigits 10 recordCount ++ " " ++
        ("estimated_bytes" ++ "=" ++ renderDigits 10 estimatedBytes ++ " " ++
          ("trigger" ++ "=" ++ trigger.asStr))) := by
  have hcount : "F:record_count=" = "F:" ++ ("record_count" ++ "=") := by decide
  have hbytes : " estimated_bytes=" = " " ++ ("estimated_bytes" ++ "=") := by decide
  have htrigger : " trigger=" = " " ++ ("trigger" ++ "=") := by decide
  show "F:record_count=" ++ _ ++ " estimated_bytes=" ++ _ ++ " trigger=" ++ _ = _
  rw [hcount, hbytes, htrigger]
  simp only [String.append_assoc]

theorem dictLine_eq (entry : DictEntry) :
    dictLine entry = "D:" ++ (renderDigits 10 entry.fnId ++ ":" ++ (entry.kind.dumpName ++ ":" ++
      (renderDigits 10 entry.line.toNat ++ ":" ++ (entry.fqn ++ "\t" ++ entry.file)))) := by
  show "D:" ++ _ ++ ":" ++ _ ++ ":" ++ _ ++ ":" ++ _ ++ "\t" ++ _ = _
  simp only [String.append_assoc]

theorem rshutdownLine_eq (traceId : TraceId) :
    rshutdownLine traceId = "RSHUTDOWN:" ++
      (" dropped trace_id=" ++ String.ofList (traceId.toList.flatMap Uuid.hexPair)) := by
  have hmarker : "RSHUTDOWN: dropped trace_id=" = "RSHUTDOWN:" ++ " dropped trace_id=" := by
    decide
  show "RSHUTDOWN: dropped trace_id=" ++ _ = _
  rw [hmarker, String.append_assoc]

/-! The beginning of a line decides who reads the rest. -/

section prefixes

variable (d : ParsedDump) (rest : String)

theorem parseDumpLine_dict :
    parseDumpLine d ("D:" ++ rest) =
      { d with dict := d.dict ++ (parseDictLine rest).toList } := by
  rw [parseDumpLine, Text.stripPrefix_append]

theorem parseDumpLine_call :
    parseDumpLine d ("C:" ++ rest) =
      { d with calls := d.calls ++ (parseCallLine rest).toList } := by
  rw [parseDumpLine, Text.stripPrefix_eq_none (by decide) (by decide), Text.stripPrefix_append]

theorem parseDumpLine_flush :
    parseDumpLine d ("F:" ++ rest) =
      { d with flushes := d.flushes ++ (parseFlushLine rest).toList } := by
  rw [parseDumpLine, Text.stripPrefix_eq_none (by decide) (by decide),
    Text.stripPrefix_eq_none (by decide) (by decide), Text.stripPrefix_append]

theorem parseDumpLine_drop :
    parseDumpLine d ("DROP: dropped_records=" ++ rest) =
      { d with droppedRecords := parseUnsigned 64 (Text.trim rest) } := by
  rw [parseDumpLine, Text.stripPrefix_eq_none (by decide) (by decide),
    Text.stripPrefix_eq_none (by decide) (by decide),
    Text.stripPrefix_eq_none (by decide) (by decide), Text.stripPrefix_append]

theorem parseDumpLine_rshutdown :
    parseDumpLine d ("RSHUTDOWN:" ++ rest) = { d with rshutdownMarkerSeen := true } := by
  rw [parseDumpLine, Text.stripPrefix_eq_none (by decide) (by decide),
    Text.stripPrefix_eq_none (by decide) (by decide),
    Text.stripPrefix_eq_none (by decide) (by decide),
    Text.stripPrefix_eq_none (by decide) (by decide)]
  exact if_pos (Text.startsWith_append _ _)

end prefixes

/-- **Step lemma**: a line is read as what it is, and as nothing else. -/
theorem parseDumpLine_text {line : DumpLine} (h : line.Writable) (d : ParsedDump) :
    parseDumpLine d line.text = d.push line := by
  cases line with
  | flush trigger recordCount estimatedBytes =>
      rw [DumpLine.text, flushLine_eq, parseDumpLine_flush, parseFlushLine_body h.1 h.2]
      rfl
  | dict entry =>
      rw [DumpLine.text, dictLine_eq, parseDumpLine_dict, parseDictLine_body h]
      rfl
  | call record =>
      have hcall : parseDumpLine d (callLine record) = _ := parseDumpLine_call d _
      rw [DumpLine.text, hcall, parseCallLine_body h]
      rfl
  | dropped droppedRecords =>
      have hdrop : parseDumpLine d (dropLine droppedRecords) = _ := parseDumpLine_drop d _
      rw [DumpLine.text, hdrop, (isWord_renderDigits droppedRecords).trim_eq,
        parseUnsigned_renderDigits h]
      rfl
  | rshutdown traceId =>
      rw [DumpLine.text, rshutdownLine_eq, parseDumpLine_rshutdown]
      rfl

/-! ### The file -/

/-- A block of the file: what `record_flush` is called with. -/
structure FlushBlock where
  batch : PendingBatch
  trigger : FlushTrigger
  recordCount : ℕ
  estimatedBytes : ℕ
deriving DecidableEq

namespace FlushBlock

/-- `emit_flush_dump_line`. -/
def ofBatch (batch : PendingBatch) (trigger : FlushTrigger) : FlushBlock where
  batch := batch
  trigger := trigger
  recordCount := batch.calls.length
  estimatedBytes := batch.sizeEstimate

def text (block : FlushBlock) : String :=
  writeFlushBlock block.batch block.trigger block.recordCount block.estimatedBytes

def lines (block : FlushBlock) : List DumpLine :=
  .flush block.trigger block.recordCount block.estimatedBytes ::
    (block.batch.dict.map .dict ++ block.batch.calls.map .call)

/-- What `parse_dump` returns of the `F:` line. -/
def parsed (block : FlushBlock) : ParsedFlush where
  recordCount := block.recordCount
  estimatedBytes := block.estimatedBytes
  trigger := block.trigger.asStr

/-- Every line of the block can be written. -/
structure Writable (block : FlushBlock) : Prop where
  recordCount : block.recordCount < 2 ^ 64
  estimatedBytes : block.estimatedBytes < 2 ^ 64
  dict : ∀ entry ∈ block.batch.dict, entry.Writable
  calls : ∀ record ∈ block.batch.calls, record.InRange

end FlushBlock

/-- The file: the blocks of the flushes and what closes the trace. -/
def dumpFile (s : Shared) (blocks : List FlushBlock) (t : Trace) : String :=
  String.join (blocks.map FlushBlock.text) ++ writeTraceToPath s t

def closingLines (s : Shared) (t : Trace) : List DumpLine :=
  t.dictionary.newEntries.map .dict ++ t.buffer.map .call ++
    [.dropped (s.dropCounters t.dropCounter), .rshutdown t.traceId]

def dumpLines (s : Shared) (blocks : List FlushBlock) (t : Trace) : List DumpLine :=
  blocks.flatMap FlushBlock.lines ++ closingLines s t

/-- The file is its lines. -/
theorem dumpFile_eq (s : Shared) (blocks : List FlushBlock) (t : Trace) :
    dumpFile s blocks t = Text.unlines ((dumpLines s blocks t).map DumpLine.text) := by
  have hblock : FlushBlock.text = fun block => Text.unlines (block.lines.map DumpLine.text) := by
    funext block
    simp only [FlushBlock.text, FlushBlock.lines, writeFlushBlock, List.map_cons, List.map_append,
      List.map_map]
    rfl
  have hclosing : writeTraceToPath s t = Text.unlines ((closingLines s t).map DumpLine.text) := by
    simp only [writeTraceToPath, closingLines, List.map_append, List.map_map]
    rfl
  rw [dumpFile, dumpLines, List.map_append, Text.unlines_append, List.map_flatMap,
    Text.unlines_flatMap, hblock, hclosing]

theorem FlushBlock.Writable.lines {block : FlushBlock} (h : block.Writable) :
    ∀ line ∈ block.lines, line.Writable := by
  intro line hline
  rcases List.mem_cons.mp hline with rfl | hline
  · exact ⟨h.recordCount, h.estimatedBytes⟩
  rcases List.mem_append.mp hline with hline | hline
  · obtain ⟨entry, hentry, rfl⟩ := List.mem_map.mp hline
    exact h.dict entry hentry
  · obtain ⟨record, hrecord, rfl⟩ := List.mem_map.mp hline
    exact h.calls record hrecord

/-- What the closing lines hold can be written; after a flush it is the counter only. -/
structure Trace.Writable (s : Shared) (t : Trace) : Prop where
  dict : ∀ entry ∈ t.dictionary.newEntries, entry.Writable
  calls : ∀ record ∈ t.buffer, record.InRange
  dropCounter : s.dropCounters t.dropCounter < 2 ^ 64

theorem Trace.Writable.lines {s : Shared} {t : Trace} (h : t.Writable s) :
    ∀ line ∈ closingLines s t, line.Writable := by
  intro line hline
  rcases List.mem_append.mp hline with hline | hline
  · rcases List.mem_append.mp hline with hline | hline
    · obtain ⟨entry, hentry, rfl⟩ := List.mem_map.mp hline
      exact h.dict entry hentry
    · obtain ⟨record, hrecord, rfl⟩ := List.mem_map.mp hline
      exact h.calls record hrecord
  · rcases List.mem_pair.mp hline with rfl | rfl
    · exact h.dropCounter
    · trivial

theorem writable_dumpLines {s : Shared} {blocks : List FlushBlock} {t : Trace}
    (hblocks : ∀ block ∈ blocks, block.Writable) (hclosing : t.Writable s) :
    ∀ line ∈ dumpLines s blocks t, line.Writable := by
  intro line hline
  rcases List.mem_append.mp hline with hline | hline
  · obtain ⟨block, hblock, hline⟩ := List.mem_flatMap.mp hline
    exact (hblocks block hblock).lines line hline
  · exact hclosing.lines line hline

/-- **Run lemma**: the loop adds the lines one after another. -/
theorem foldl_parseDumpLine {ls : List DumpLine} (h : ∀ line ∈ ls, line.Writable)
    (d : ParsedDump) :
    (ls.map DumpLine.text).foldl parseDumpLine d = ls.foldl ParsedDump.push d := by
  induction ls generalizing d with
  | nil => rfl
  | cons line ls ih =>
      obtain ⟨hline, hls⟩ := List.forall_mem_cons.mp h
      rw [List.map_cons, List.foldl_cons, List.foldl_cons, parseDumpLine_text hline, ih hls]

/-! ### What the lines add up to -/

section push

variable (d : ParsedDump)

theorem foldl_push_dict (entries : List DictEntry) :
    (entries.map DumpLine.dict).foldl ParsedDump.push d =
      { d with dict := d.dict ++ entries.map DictEntry.parsed } := by
  induction entries generalizing d with
  | nil => simp
  | cons entry entries ih => simp [ih, ParsedDump.push]

theorem foldl_push_call (records : List CallRecord) :
    (records.map DumpLine.call).foldl ParsedDump.push d =
      { d with calls := d.calls ++ records.map CallRecord.parsed } := by
  induction records generalizing d with
  | nil => simp
  | cons record records ih => simp [ih, ParsedDump.push]

theorem foldl_push_block (block : FlushBlock) :
    block.lines.foldl ParsedDump.push d =
      { d with
        dict := d.dict ++ block.batch.dict.map DictEntry.parsed
        calls := d.calls ++ block.batch.calls.map CallRecord.parsed
        flushes := d.flushes ++ [block.parsed] } := by
  rw [FlushBlock.lines, List.foldl_cons, List.foldl_append, foldl_push_dict, foldl_push_call]
  rfl

theorem foldl_push_blocks (blocks : List FlushBlock) :
    (blocks.flatMap FlushBlock.lines).foldl ParsedDump.push d =
      { d with
        dict := d.dict ++ (blocks.flatMap fun block => block.batch.dict).map DictEntry.parsed
        calls := d.calls ++ (blocks.flatMap fun block => block.batch.calls).map CallRecord.parsed
        flushes := d.flushes ++ blocks.map FlushBlock.parsed } := by
  induction blocks generalizing d with
  | nil => simp
  | cons block blocks ih =>
      rw [List.flatMap_cons, List.foldl_append, foldl_push_block, ih]
      simp

theorem foldl_push_closing (s : Shared) (t : Trace) :
    (closingLines s t).foldl ParsedDump.push d =
      { d with
        dict := d.dict ++ t.dictionary.newEntries.map DictEntry.parsed
        calls := d.calls ++ t.buffer.map CallRecord.parsed
        droppedRecords := some (s.dropCounters t.dropCounter)
        rshutdownMarkerSeen := true } := by
  rw [closingLines, List.foldl_append, List.foldl_append, foldl_push_dict, foldl_push_call]
  rfl

end push

/-- What the blocks and the trace hold, as the parser returns it. -/
def parsedDump (s : Shared) (blocks : List FlushBlock) (t : Trace) : ParsedDump where
  dict := ((blocks.flatMap fun block => block.batch.dict) ++
    t.dictionary.newEntries).map DictEntry.parsed
  calls := ((blocks.flatMap fun block => block.batch.calls) ++ t.buffer).map CallRecord.parsed
  droppedRecords := some (s.dropCounters t.dropCounter)
  rshutdownMarkerSeen := true
  flushes := blocks.map FlushBlock.parsed

theorem foldl_push_dumpLines (s : Shared) (blocks : List FlushBlock) (t : Trace) :
    (dumpLines s blocks t).foldl ParsedDump.push .empty = parsedDump s blocks t := by
  rw [dumpLines, List.foldl_append, foldl_push_blocks, foldl_push_closing, parsedDump,
    List.map_append, List.map_append]
  rfl

/-- The lines of the file are the lines that were written. -/
theorem lines_dumpFile {s : Shared} {blocks : List FlushBlock} {t : Trace}
    (hblocks : ∀ block ∈ blocks, block.Writable) (hclosing : t.Writable s) :
    Text.lines (dumpFile s blocks t) = (dumpLines s blocks t).map DumpLine.text := by
  rw [dumpFile_eq]
  refine Text.lines_unlines fun text htext => ?_
  obtain ⟨line, hline, rfl⟩ := List.mem_map.mp htext
  exact DumpLine.isLine_text (writable_dumpLines hblocks hclosing line hline)

theorem parseDump_dumpFile {readToString : String → Except String String} {path : String}
    {s : Shared} {blocks : List FlushBlock} {t : Trace}
    (hfile : readToString path = .ok (dumpFile s blocks t))
    (hblocks : ∀ block ∈ blocks, block.Writable) (hclosing : t.Writable s) :
    parseDump readToString path = .ok (parsedDump s blocks t) := by
  rw [parseDump, hfile]
  show Except.ok ((Text.lines (dumpFile s blocks t)).foldl parseDumpLine .empty) = _
  rw [lines_dumpFile hblocks hclosing,
    foldl_parseDumpLine (writable_dumpLines hblocks hclosing), foldl_push_dumpLines]

/-! ### The dump of a request -/

namespace Recorder

/-- The blocks that an event appends to the file: an end writes the batch that it flushes. -/
def dumped (r : Recorder) : Event → List FlushBlock
  | .endCall exit abnormal _ =>
      let (accept, trace) := endWouldAccept r.trace
      match accept, trace.stack with
      | true, frame :: stack =>
          let w := Worker.pushRecord ⟨{ trace with stack }, r.shared⟩
            (frame.intoCallRecord exit abnormal)
          (flushPredicateTrigger w.trace).toList.map
            (FlushBlock.ofBatch w.trace.flushIntoPendingBatch.1)
      | _, _ => []
  | _ => []

/-- The block of the final flush. -/
def dumpedAtRelease (r : Recorder) (exit : ExitSnapshots) : List FlushBlock :=
  let trace := (drainOpenFramesIntoBuffer r.toWorker exit).trace
  if trace.buffer.isEmpty then []
  else [FlushBlock.ofBatch trace.flushIntoPendingBatch.1 .rshutdown]

/-- The blocks of a request that ends in the recorder `r`. -/
def requestBlocks (r₀ : Recorder) (es : List Event) (r : Recorder) (exit : ExitSnapshots) :
    List FlushBlock :=
  (outputs step dumped r₀ es).flatten ++ r.dumpedAtRelease exit

theorem dumped_emitEnd {r emitted : Recorder} {exit : ExitSnapshots} {abnormal : Bool}
    {frame : CallFrame} {stack : List CallFrame} (hdrop : r.trace.droppedBegins = 0)
    (hstack : r.trace.stack = frame :: stack)
    (hemit : r.afterEmit stack (frame.intoCallRecord exit abnormal) = emitted)
    (answer : TrySend) :
    r.dumped (.endCall exit abnormal answer) =
      (flushPredicateTrigger emitted.trace).toList.map
        (FlushBlock.ofBatch emitted.trace.flushIntoPendingBatch.1) := by
  subst hemit
  have hnot : ¬0 < r.trace.droppedBegins := by omega
  simp only [dumped, endWouldAccept, hnot, ↓reduceIte, hstack]
  rfl

/-- **Step lemma**: an event writes the batch that it hands off, if it hands one off. -/
theorem batches_dumped {r r' : Recorder} {e : Event} (h : r.step e = some r') :
    r'.handed.map Prod.fst = r.handed.map Prod.fst ++ (r.dumped e).map FlushBlock.batch := by
  cases step_cases h with
  | dropBegin | acceptBegin | budget => simp [dumped, afterDrop, afterAccept]
  | consumeEnd exit abnormal answer hdrop =>
      simp [dumped, endWouldAccept, hdrop, afterConsume]
  | strayEnd exit abnormal answer hdrop hstack =>
      simp [dumped, endWouldAccept, hdrop, hstack, afterStray]
  | emitEnd exit abnormal answer frame stack hdrop hstack =>
      generalize hemit : r.afterEmit stack (frame.intoCallRecord exit abnormal) = emitted
      rw [dumped_emitEnd hdrop hstack hemit, flushIfDue]
      have hhanded : emitted.handed = r.handed := by
        rw [← hemit]
        rfl
      cases flushPredicateTrigger emitted.trace with
      | none => simp [hhanded]
      | some trigger => simp [flushAndSend, hhanded, FlushBlock.ofBatch]

/-- The blocks of a request are the batches that it handed off. -/
theorem batches_requestBlocks {r₀ r : Recorder} {es : List Event} (h₀ : r₀.handed = [])
    (h : run step r₀ es = some r) (exit : ExitSnapshots) (answer : TrySend) :
    (requestBlocks r₀ es r exit).map FlushBlock.batch =
      (r.rshutdownReleaseTrace exit answer).handed.map Prod.fst := by
  have hrun : ((outputs step dumped r₀ es).flatten).map FlushBlock.batch =
      r.handed.map Prod.fst := by
    refine run_induction (P := fun es r => ((outputs step dumped r₀ es).flatten).map
      FlushBlock.batch = r.handed.map Prod.fst) (by simp [outputs, h₀]) ?_ h
    intro es r e r' hrun ih hstep
    rw [outputs_snoc dumped hrun, List.flatten_append, List.map_append, ih, batches_dumped hstep]
    simp
  have hdrained : drainOpenFramesIntoBuffer r.toWorker exit = (r.drained exit).toWorker :=
    drainFrames_eq exit r.trace.stack r.toWorker
  rw [requestBlocks, List.map_append, hrun, rshutdownReleaseTrace_eq, dumpedAtRelease, hdrained]
  show _ = ((r.drained exit).flushed answer).handed.map Prod.fst
  unfold flushed
  split_ifs with hbuffer
  · simp [drained]
  · simp [drained, flushAndSend, FlushBlock.ofBatch]

/-- The dump of a request: the blocks of its flushes, and the lines that `RSHUTDOWN` writes
after the final `try_send`. -/
def requestDump (r₀ : Recorder) (es : List Event) (r : Recorder) (exit : ExitSnapshots)
    (answer : TrySend) : String :=
  dumpFile (r.rshutdownReleaseTrace exit answer).shared (requestBlocks r₀ es r exit)
    (r.rshutdownReleaseTrace exit answer).trace

/-- After `RSHUTDOWN` the closing lines are the counter and the marker. -/
theorem closing_rshutdownReleaseTrace {shared : Shared} {rinit : Rinit} {es : List Event}
    {r : Recorder} (h : run step (start shared rinit) es = some r) (exit : ExitSnapshots)
    (answer : TrySend) :
    (r.rshutdownReleaseTrace exit answer).trace.buffer = [] ∧
      (r.rshutdownReleaseTrace exit answer).trace.dictionary.newEntries = [] := by
  rw [rshutdownReleaseTrace_eq]
  exact ⟨buffer_flushed (r.drained exit) answer,
    ((dictLog_run h).drained exit).newEntries_flushed rfl answer⟩

/-- **The dump of a request** reads back as the batches that the request handed off. -/
theorem parseDump_requestDump {shared : Shared} {rinit : Rinit} {es : List Event} {r : Recorder}
    (h : run step (start shared rinit) es = some r) {exit : ExitSnapshots} {answer : TrySend}
    {readToString : String → Except String String} {path : String}
    (hfile : readToString path = .ok (requestDump (start shared rinit) es r exit answer))
    (hblocks : ∀ block ∈ requestBlocks (start shared rinit) es r exit, block.Writable)
    (hcount : (r.rshutdownReleaseTrace exit answer).shared.dropCounters
      (r.rshutdownReleaseTrace exit answer).trace.dropCounter < 2 ^ 64) :
    parseDump readToString path = .ok
      { dict := (r.rshutdownReleaseTrace exit answer).dicts.map DictEntry.parsed
        calls := (r.rshutdownReleaseTrace exit answer).calls.map CallRecord.parsed
        droppedRecords := some ((r.rshutdownReleaseTrace exit answer).shared.dropCounters
          (r.rshutdownReleaseTrace exit answer).trace.dropCounter)
        rshutdownMarkerSeen := true
        flushes := (requestBlocks (start shared rinit) es r exit).map FlushBlock.parsed } := by
  obtain ⟨hbuffer, hstaged⟩ := closing_rshutdownReleaseTrace h exit answer
  have hbatches := batches_requestBlocks rfl h exit answer
  have hflatMap : ∀ {α : Type} (f : PendingBatch → List α),
      ((requestBlocks (start shared rinit) es r exit).flatMap fun block => f block.batch) =
        (r.rshutdownReleaseTrace exit answer).handed.flatMap fun b => f b.1 := by
    intro α f
    have hmap := congrArg (List.flatMap f) hbatches
    rwa [List.flatMap_map, List.flatMap_map] at hmap
  rw [parseDump_dumpFile hfile hblocks ⟨by simp [hstaged], by simp [hbuffer], hcount⟩, parsedDump,
    hbuffer, hstaged, hflatMap PendingBatch.dict, hflatMap PendingBatch.calls]
  simp only [List.append_nil]
  rfl

end Recorder

/-- **The dump round trip.**  For all batches, triggers and counts whose names can be written:
`parse_dump` succeeds and returns the entries, the records and the flush lines in the order in
which they were written, those that the closing trace still holds last, the drop counter and
the marker; and every line of the file is read as the line that was written. -/
theorem dump_round_trip {readToString : String → Except String String} {path : String}
    {s : Shared} {blocks : List FlushBlock} {t : Trace}
    (hfile : readToString path = .ok (dumpFile s blocks t))
    (hblocks : ∀ block ∈ blocks, block.Writable) (hclosing : t.Writable s) :
    parseDump readToString path = .ok
        { dict := ((blocks.flatMap fun block => block.batch.dict) ++
            t.dictionary.newEntries).map DictEntry.parsed
          calls := ((blocks.flatMap fun block => block.batch.calls) ++
            t.buffer).map CallRecord.parsed
          droppedRecords := some (s.dropCounters t.dropCounter)
          rshutdownMarkerSeen := true
          flushes := blocks.map FlushBlock.parsed } ∧
      Text.lines (dumpFile s blocks t) = (dumpLines s blocks t).map DumpLine.text ∧
      ∀ line ∈ dumpLines s blocks t, ∀ d, parseDumpLine d line.text = d.push line :=
  ⟨parseDump_dumpFile hfile hblocks hclosing, lines_dumpFile hblocks hclosing,
    fun line hline => parseDumpLine_text (writable_dumpLines hblocks hclosing line hline)⟩

/-- A block with separators of the format in its names. -/
def sampleBlock : FlushBlock :=
  .ofBatch { sampleBatch with
    dict := [{ fnId := 1, fqn := "A::b =x", file := "/D:a\tb", line := 7, kind := .method }]
    sizeEstimate := 102 }
    .records

theorem writable_sampleBlock : sampleBlock.Writable where
  recordCount := by decide
  estimatedBytes := by decide
  dict := by
    intro entry hentry
    obtain rfl := List.mem_singleton.mp hentry
    exact ⟨by decide, by decide, by decide, by decide⟩
  calls := by
    intro call hcall
    obtain rfl := List.mem_singleton.mp hcall
    constructor <;> simp [InI64]

theorem dump_round_trip_sample :
    parseDump (fun _ => .ok (dumpFile Shared.init [sampleBlock] (Trace.new ⟨"", "", 1, ""⟩
        ⟨1, 1, 1, 1⟩ 0 0))) "dump.log" = .ok
      { dict := [⟨1, "method", 7, "A::b =x", "/D:a\tb"⟩]
        calls := [⟨1, 0, 1, 0, 1000000, 2000000, 100, 50, 1024, 2048, false⟩]
        droppedRecords := some 0
        rshutdownMarkerSeen := true
        flushes := [⟨1, 102, "records"⟩] } :=
  (dump_round_trip rfl (List.forall_mem_singleton.mpr writable_sampleBlock)
    ⟨List.forall_mem_nil _, List.forall_mem_nil _, by decide⟩).1

end PhpAnalyze
