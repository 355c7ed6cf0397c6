import PhpAnalyze.Dictionary
import PhpAnalyze.Flush

/-! # The trace of a request (`Trace` in `recorder/types.rs`)

A method of the source that takes `&mut Trace` and also touches the process-wide state is a
function on a `Worker`, the two together.  A method that touches only the trace is a
function on `Trace`.

The stack is a list with the top frame first. -/

namespace PhpAnalyze

structure Trace where
  traceId : TraceId
  startTimeRealtimeNs : ℤ
  host : String
  pid : UInt32
  sapi : String
  uriOrScript : String
  dropCounter : ArcId
  callIdSeq : ℕ
  stack : List CallFrame
  buffer : List CallRecord
  dictionary : Dictionary
  bufferEstimatedBytes : ℕ
  virtualDepth : ℕ
  droppedBegins : ℕ
  maxDepth : ℕ
  bufferCapBytes : ℕ
  flushRecords : ℕ
  flushBytes : ℕ
deriving DecidableEq

/-- The placeholder `[0; 16]` of `Trace::new`. -/
def nilTraceId : TraceId := Vector.replicate 16 0

/-- A fresh trace.  The clock reading and the counter's allocation are parameters. -/
def Trace.new (identity : RequestIdentity) (limits : TraceLimits) (startTimeRealtimeNs : ℤ)
    (dropCounter : ArcId) : Trace where
  traceId := nilTraceId
  startTimeRealtimeNs := startTimeRealtimeNs
  host := identity.host
  pid := identity.pid
  sapi := identity.sapi
  uriOrScript := identity.uriOrScript
  dropCounter := dropCounter
  callIdSeq := 0
  stack := []
  buffer := []
  dictionary := Dictionary.new
  bufferEstimatedBytes := 0
  virtualDepth := 0
  droppedBegins := 0
  maxDepth := limits.maxDepth
  bufferCapBytes := limits.bufferCapBytes
  flushRecords := limits.flushRecords
  flushBytes := limits.flushBytes

namespace Trace

/-- Call ids count from `1`; `none` is the panic of the `u64` counter. -/
def nextCallId (t : Trace) : Option (ℕ × Trace) :=
  let callId := t.callIdSeq + 1
  if callId < 2 ^ 64 then some (callId, { t with callIdSeq := callId }) else none

/-- `stack.last().map_or(0, |frame| frame.call_id)`. -/
def parent (t : Trace) : ℕ :=
  match t.stack with
  | [] => 0
  | frame :: _ => frame.callId

def limits (t : Trace) : TraceLimits where
  maxDepth := t.maxDepth
  bufferCapBytes := t.bufferCapBytes
  flushRecords := t.flushRecords
  flushBytes := t.flushBytes

def metaPartial (t : Trace) : MetaPartial where
  schemaVersion := 1
  traceId := t.traceId
  host := t.host
  pid := t.pid
  startTimeRealtimeNs := t.startTimeRealtimeNs
  sapi := t.sapi
  uriOrScript := t.uriOrScript

/-- Move the buffer and the staged entries into a batch; the interning map stays. -/
def flushIntoPendingBatch (t : Trace) : PendingBatch × Trace :=
  let (dict, dictionary) := t.dictionary.takeNewEntries
  ({ metaPartial := t.metaPartial
     dict := dict
     calls := t.buffer
     sizeEstimate := t.bufferEstimatedBytes
     dropCounter := t.dropCounter },
   { t with buffer := [], dictionary := dictionary, bufferEstimatedBytes := 0 })

end Trace

structure Worker where
  trace : Trace
  shared : Shared

namespace Worker

def pushRecord (w : Worker) (record : CallRecord) : Worker where
  trace := { w.trace with
    buffer := w.trace.buffer ++ [record]
    bufferEstimatedBytes := w.trace.bufferEstimatedBytes + callRecordFixedBytes }
  shared := w.shared.add callRecordFixedBytes

/-- Look up or intern; a miss bills the entry to the trace and to the process. -/
def pushDictEntryViaInternRef (w : Worker) (keyRef : FunctionKeyRef)
    (build : ℕ → FunctionKey × DictEntry) : Option (ℕ × Worker) :=
  match w.trace.dictionary.internRef keyRef build with
  | none => none
  | some (fnId, .hit, _) => some (fnId, w)
  | some (fnId, .miss, dictionary) =>
      let contribution := (build fnId).2.bytes
      some (fnId,
        { trace := { w.trace with
            dictionary := dictionary
            bufferEstimatedBytes := w.trace.bufferEstimatedBytes + contribution }
          shared := w.shared.add contribution })

/-- The owned sibling; the closure that bills the entry runs only on a miss. -/
def pushDictEntryViaIntern (w : Worker) (key : FunctionKey) (build : ℕ → DictEntry) :
    Option (ℕ × Worker) :=
  match w.trace.dictionary.intern key build with
  | none => none
  | some (fnId, dictionary) =>
      let contribution := if w.trace.dictionary.containsKey key then 0 else (build fnId).bytes
      some (fnId,
        { trace := { w.trace with
            dictionary := dictionary
            bufferEstimatedBytes := w.trace.bufferEstimatedBytes + contribution }
          shared := w.shared.add contribution })

def recordDrop (w : Worker) : Worker where
  trace := { w.trace with droppedBegins := saturatingSucc w.trace.droppedBegins }
  shared := w.shared.fetchAdd w.trace.dropCounter 1

end Worker

end PhpAnalyze
