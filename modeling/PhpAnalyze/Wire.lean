import PhpAnalyze.Flush

/-! # The wire batch (`wire.rs`, `shipper/encode.rs`)

`batchToWire` reads the drop counter once, at encode time, and renames fields.  Rendering
the sixteen bytes of a trace id as text is the `uuid` crate's; it is a parameter,
`uuidToString`. -/

namespace PhpAnalyze

namespace Wire

inductive FunctionKind where
  | function
  | method
  | closure
  | internal
deriving DecidableEq, Repr

structure MetaFull where
  schemaVersion : ℕ
  traceId : String
  host : String
  pid : UInt32
  startTime : ℤ
  sapi : String
  uriOrScript : String
  droppedRecords : ℕ
deriving DecidableEq, Repr

structure DictEntry where
  fnId : ℕ
  fqn : String
  file : String
  line : UInt32
  kind : FunctionKind
deriving DecidableEq, Repr

structure CallRecord where
  callId : ℕ
  parent : ℕ
  fnId : ℕ
  depth : ℕ
  tIn : ℤ
  tOut : ℤ
  cpuU : ℤ
  cpuS : ℤ
  memIn : ℤ
  memOut : ℤ
  abnormalExit : Bool
deriving DecidableEq, Repr

structure Batch where
  metaFull : MetaFull
  dict : List DictEntry
  calls : List CallRecord
deriving DecidableEq, Repr

end Wire

def functionKindToWire : FunctionKind → Wire.FunctionKind
  | .function => .function
  | .method => .method
  | .closure => .closure
  | .internal => .internal

def dictEntryToWire (entry : DictEntry) : Wire.DictEntry where
  fnId := entry.fnId
  fqn := entry.fqn
  file := entry.file
  line := entry.line
  kind := functionKindToWire entry.kind

def callRecordToWire (call : CallRecord) : Wire.CallRecord where
  callId := call.callId
  parent := call.parent
  fnId := call.fnId
  depth := call.depth
  tIn := call.tInNs
  tOut := call.tOutNs
  cpuU := call.cpuUNs
  cpuS := call.cpuSNs
  memIn := call.memInBytes
  memOut := call.memOutBytes
  abnormalExit := call.abnormalExit

variable (uuidToString : TraceId → String)

def metaPartialToWire (metaPartial : MetaPartial) (droppedRecords : ℕ) : Wire.MetaFull where
  schemaVersion := metaPartial.schemaVersion
  traceId := uuidToString metaPartial.traceId
  host := metaPartial.host
  pid := metaPartial.pid
  startTime := metaPartial.startTimeRealtimeNs
  sapi := metaPartial.sapi
  uriOrScript := metaPartial.uriOrScript
  droppedRecords := droppedRecords

/-- The wire form of a batch, encoded in the process-wide state `s`. -/
def batchToWire (s : Shared) (batch : PendingBatch) : Wire.Batch :=
  let droppedRecords := s.dropCounters batch.dropCounter
  { metaFull := metaPartialToWire uuidToString batch.metaPartial droppedRecords
    dict := batch.dict.map dictEntryToWire
    calls := batch.calls.map callRecordToWire }

end PhpAnalyze
