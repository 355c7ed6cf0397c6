import PhpAnalyze.Config
import PhpAnalyze.Recorder

/-! # The handlers and the clocks (`clocks.rs`, `recorder/observer.rs`)

`begin_handler` and `end_handler` work on the trace in the thread-local slot.  They consult the
gate first and read the clocks only for a call that it lets pass.  `Handlers.step` is one hook or
handler; what the clocks would show at that moment is part of the event, and `captures` are the
readings that were taken.

A handler inside a request is an event of the recorder with the snapshot that it takes
(`step_eq`). -/

namespace PhpAnalyze

open Machine

/-! ### Clocks -/

structure Timespec where
  tvSec : ℤ
  tvNsec : ℤ
deriving DecidableEq, Repr

structure Timeval where
  tvSec : ℤ
  tvUsec : ℤ
deriving DecidableEq, Repr

/-- What `clock_gettime(CLOCK_MONOTONIC)`, `getrusage(RUSAGE_THREAD)` and
`zend_memory_usage(true)` would return. -/
structure Clocks where
  monotonic : Timespec
  utime : Timeval
  stime : Timeval
  memory : ℕ
deriving DecidableEq, Repr

structure CpuTimes where
  userNs : ℤ
  systemNs : ℤ
deriving DecidableEq, Repr

structure RawSnapshot where
  tNs : ℤ
  cpuUNs : ℤ
  cpuSNs : ℤ
  memBytes : ℤ
deriving DecidableEq, Repr

/-- The `i64` with these bits. -/
def asI64 (x : ℤ) : ℤ := Int.bmod x (2 ^ 64)

def clockGettimeNs (ts : Timespec) : ℤ := asI64 (ts.tvSec * 10 ^ 9 + ts.tvNsec)

def timevalToNs (tv : Timeval) : ℤ := asI64 (tv.tvSec * 10 ^ 9 + tv.tvUsec * 10 ^ 3)

def monotonicNowNs (clocks : Clocks) : ℤ := clockGettimeNs clocks.monotonic

def cpuTimesNowNs (clocks : Clocks) : CpuTimes where
  userNs := timevalToNs clocks.utime
  systemNs := timevalToNs clocks.stime

/-- With `off` there is no `getrusage`. -/
def snapshotNow (mode : CpuSnapshotMode) (clocks : Clocks) : RawSnapshot :=
  let (cpuUNs, cpuSNs) := match mode with
    | .perCall => ((cpuTimesNowNs clocks).userNs, (cpuTimesNowNs clocks).systemNs)
    | .off => (0, 0)
  { tNs := monotonicNowNs clocks
    cpuUNs
    cpuSNs
    memBytes := asI64 clocks.memory }

def EntrySnapshots.captureNow (mode : CpuSnapshotMode) (clocks : Clocks) : EntrySnapshots :=
  let raw := snapshotNow mode clocks
  { tInNs := raw.tNs
    cpuUInNs := raw.cpuUNs
    cpuSInNs := raw.cpuSNs
    memInBytes := raw.memBytes }

def ExitSnapshots.captureNow (mode : CpuSnapshotMode) (clocks : Clocks) : ExitSnapshots :=
  let raw := snapshotNow mode clocks
  { tOutNs := raw.tNs
    cpuUNowNs := raw.cpuUNs
    cpuSNowNs := raw.cpuSNs
    memOutBytes := raw.memBytes }

/-! ### The cached mode -/

def cpuSnapshotModeUnset : UInt8 := 0xff
def cpuSnapshotModePerCall : UInt8 := 0
def cpuSnapshotModeOff : UInt8 := 1

def encodeCpuSnapshotMode : CpuSnapshotMode → UInt8
  | .perCall => cpuSnapshotModePerCall
  | .off => cpuSnapshotModeOff

/-- `cached` is `CACHED_CPU_SNAPSHOT_MODE`, and `global` is `Config::global()`. -/
def currentCpuSnapshotMode (cached : UInt8) (global : Option Config) : CpuSnapshotMode :=
  if cached = cpuSnapshotModePerCall then .perCall
  else if cached = cpuSnapshotModeOff then .off
  else (global.map (·.cpuSnapshotMode)).getD .perCall

@[simp] theorem currentCpuSnapshotMode_encode (mode : CpuSnapshotMode) (global : Option Config) :
    currentCpuSnapshotMode (encodeCpuSnapshotMode mode) global = mode := by
  cases mode <;> rfl

@[simp] theorem currentCpuSnapshotMode_unset (global : Option Config) :
    currentCpuSnapshotMode cpuSnapshotModeUnset global =
      (global.map (·.cpuSnapshotMode)).getD .perCall := rfl

/-! ### Handlers -/

/-- The slot of the thread, with what it works on. -/
structure Handlers where
  /-- `CURRENT_TRACE`. -/
  current : Option Trace
  shared : Shared
  handed : List (PendingBatch × TrySend)
  captures : List Clocks

inductive HandlerEvent where
  | rinit (rinit : Rinit)
  | beginCall (clocks : Clocks) (site : RawCallSite)
  /-- `answer` is for the batch that it flushes, if it flushes one. -/
  | endCall (clocks : Clocks) (hasException : Bool) (answer : TrySend)
  | rshutdown (clocks : Clocks) (answer : TrySend)
  /-- Another thread changed `BYTES_IN_MEMORY`. -/
  | budget (bytes : ℕ)
deriving DecidableEq

namespace Handlers

/-- The trace is `r`'s, and these clocks were read. -/
def ofRecorder (captures : List Clocks) (r : Recorder) : Handlers where
  current := some r.trace
  shared := r.shared
  handed := r.handed
  captures := captures

/-- The trace was `r`'s and is dropped. -/
def ofReleased (captures : List Clocks) (r : Recorder) : Handlers where
  current := none
  shared := r.shared
  handed := r.handed
  captures := captures

variable (mode : CpuSnapshotMode) (s : Handlers)

/-- `none` is a panic of one of the two counters. -/
def beginHandler (clocks : Clocks) (site : RawCallSite) : Option Handlers :=
  match s.current with
  | none => some s
  | some trace =>
      let lazy := categoriseLazy site
      let (accept, w) := beginLazyWouldAccept ⟨trace, s.shared⟩ lazy
      -- gate before snapshot
      if accept then
        (beginWithSnapshotsLazyAccept w lazy (.captureNow mode clocks)).map fun w =>
          { s with
            current := some w.trace
            shared := w.shared
            captures := s.captures ++ [clocks] }
      else some { s with current := some w.trace, shared := w.shared }

def endHandler (clocks : Clocks) (hasException : Bool) (answer : TrySend) : Handlers :=
  match s.current with
  | none => s
  | some trace =>
      let (accept, trace) := endWouldAccept trace
      if accept then
        ofRecorder (s.captures ++ [clocks])
          (Recorder.endWithSnapshotsAccept { trace, shared := s.shared, handed := s.handed }
            (.captureNow mode clocks) hasException answer)
      else { s with current := some trace }

def rinitAllocateTrace (rinit : Rinit) : Handlers :=
  let w := PhpAnalyze.rinitAllocateTrace s.current s.shared rinit
  { s with current := some w.trace, shared := w.shared }

/-- The clocks are read when there are frames to drain. -/
def rshutdownReleaseTrace (clocks : Clocks) (answer : TrySend) : Handlers :=
  match s.current with
  | none => s
  | some trace =>
      ofReleased (s.captures ++ if trace.stack.isEmpty then [] else [clocks])
        (Recorder.rshutdownReleaseTrace { trace, shared := s.shared, handed := s.handed }
          (.captureNow mode clocks) answer)

def step : HandlerEvent → Option Handlers
  | .rinit rinit => some (s.rinitAllocateTrace rinit)
  | .beginCall clocks site => s.beginHandler mode clocks site
  | .endCall clocks hasException answer => some (s.endHandler mode clocks hasException answer)
  | .rshutdown clocks answer => some (s.rshutdownReleaseTrace mode clocks answer)
  | .budget bytes => some { s with shared := { s.shared with bytesInMemory := bytes } }

/-- The thread before its first request. -/
def start (shared : Shared) : Handlers where
  current := none
  shared := shared
  handed := []
  captures := []

end Handlers

/-! ### A handler is an event of the recorder -/

/-- The event of the recorder, with the snapshot that the handler takes. -/
def HandlerEvent.recorded (mode : CpuSnapshotMode) : HandlerEvent → Option Event
  | .beginCall clocks site => some (.beginCall .lazy site (.captureNow mode clocks))
  | .endCall clocks hasException answer =>
      some (.endCall (.captureNow mode clocks) hasException answer)
  | .budget bytes => some (.budget bytes)
  | _ => none

/-- The clocks that the event reads in a request. -/
def HandlerEvent.reads (r : Recorder) : HandlerEvent → List Clocks
  | .beginCall clocks site => if r.accepts .lazy site then [clocks] else []
  | .endCall clocks _ _ => if 0 < r.trace.droppedBegins then [] else [clocks]
  | .rshutdown clocks _ => if r.trace.stack.isEmpty then [] else [clocks]
  | _ => []

namespace Handlers

variable {mode : CpuSnapshotMode} {captures : List Clocks} {r : Recorder}

theorem beginHandler_ofRecorder (clocks : Clocks) (site : RawCallSite) :
    (ofRecorder captures r).beginHandler mode clocks site =
      (r.step (.beginCall .lazy site (.captureNow mode clocks))).map
        (ofRecorder (captures ++ (HandlerEvent.beginCall clocks site).reads r)) := by
  have hgate : beginLazyWouldAccept r.toWorker (categoriseLazy site) =
      r.toWorker.wouldAccept ((BeginPath.lazy.plan site).wouldAdd) :=
    beginLazyWouldAccept_eq _ _
  unfold beginHandler HandlerEvent.reads Recorder.accepts
  show (if (beginLazyWouldAccept r.toWorker (categoriseLazy site)).1 then _ else _) = _
  simp only [Recorder.step, beginOn, beginWithSnapshotsLazy]
  cases haccept : (beginLazyWouldAccept r.toWorker (categoriseLazy site)).1 with
  | true =>
      rw [hgate] at haccept
      simp only [haccept, ↓reduceIte, Option.map_map]
      rfl
  | false =>
      rw [hgate] at haccept
      simp only [haccept, Bool.false_eq_true, ↓reduceIte, Option.map_some, List.append_nil]
      rfl

theorem endHandler_ofRecorder (clocks : Clocks) (hasException : Bool) (answer : TrySend) :
    (ofRecorder captures r).endHandler mode clocks hasException answer =
      ofRecorder (captures ++ (HandlerEvent.endCall clocks hasException answer).reads r)
        (r.endWithSnapshots (.captureNow mode clocks) hasException answer) := by
  unfold endHandler HandlerEvent.reads Recorder.endWithSnapshots ofRecorder endWouldAccept
  dsimp only
  by_cases hdrop : 0 < r.trace.droppedBegins
  · simp [hdrop]
  · simp [hdrop]

/-- **In a request a handler is an event of the recorder.** -/
theorem step_eq {e : HandlerEvent} {event : Event} (h : e.recorded mode = some event) :
    (ofRecorder captures r).step mode e =
      (r.step event).map (ofRecorder (captures ++ e.reads r)) := by
  cases e with
  | rinit rinit => cases h
  | beginCall clocks site =>
      cases h
      exact beginHandler_ofRecorder clocks site
  | endCall clocks hasException answer =>
      cases h
      exact congrArg some (endHandler_ofRecorder clocks hasException answer)
  | rshutdown clocks answer => cases h
  | budget bytes =>
      cases h
      simp [step, Recorder.step, ofRecorder, HandlerEvent.reads]

theorem step_rshutdown (clocks : Clocks) (answer : TrySend) :
    (ofRecorder captures r).step mode (.rshutdown clocks answer) =
      some (ofReleased (captures ++ (HandlerEvent.rshutdown clocks answer).reads r)
        (r.rshutdownReleaseTrace (.captureNow mode clocks) answer)) := rfl

end Handlers

end PhpAnalyze
