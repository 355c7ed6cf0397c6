import PhpAnalyze.Recorder

/-! # A PHP thread in small steps

`Recorder` runs a handler in one step.  Between two accesses to the process-wide state other
threads may run, so `PhpThread.step` cuts the handlers there: the gate of a begin and its
accept tail, an end up to the batch it flushes and `try_send_batch`, and `RSHUTDOWN` into one
step for each open frame, the final flush, its `try_send_batch`, and the residual `sub`.

Left alone, a thread does what `Recorder` does (`recorder_in_small_steps`). -/

namespace PhpAnalyze

open Machine

/-! ### The handlers, cut in two -/

def beginGateOn (path : BeginPath) (w : Worker) (site : RawCallSite) : Bool × Worker :=
  match path with
  | .owning => beginWouldAccept w (categorise site)
  | .lazy => beginLazyWouldAccept w (categoriseLazy site)

def beginAcceptOn (path : BeginPath) (w : Worker) (site : RawCallSite)
    (snapshots : EntrySnapshots) : Option Worker :=
  match path with
  | .owning => beginWithSnapshotsAccept w (categorise site) snapshots
  | .lazy => beginWithSnapshotsLazyAccept w (categoriseLazy site) snapshots

/-- `finish_call_record` up to `try_send_batch`, with the batch that it is to send. -/
def finishToSend (w : Worker) (record : CallRecord) : Worker × Option PendingBatch :=
  let w := w.pushRecord record
  match flushPredicateTrigger w.trace with
  | some _ =>
      let (batch, trace) := w.trace.flushIntoPendingBatch
      ({ w with trace }, some batch)
  | none => (w, none)

/-- The end handler up to `try_send_batch`. -/
def endToSend (w : Worker) (snapshots : ExitSnapshots) (abnormal : Bool) :
    Worker × Option PendingBatch :=
  let (accept, trace) := endWouldAccept w.trace
  if accept then
    match trace.stack with
    | [] => ({ w with trace }, none)
    | frame :: stack =>
        finishToSend { w with trace := { trace with stack } }
          (frame.intoCallRecord snapshots abnormal)
  else ({ w with trace }, none)

theorem beginGateOn_eq (path : BeginPath) (w : Worker) (site : RawCallSite) :
    beginGateOn path w site = w.wouldAccept (path.plan site).wouldAdd := by
  cases path with
  | owning => rfl
  | lazy => exact beginLazyWouldAccept_eq w (categoriseLazy site)

theorem beginAcceptOn_eq (path : BeginPath) (w : Worker) (site : RawCallSite)
    (snapshots : EntrySnapshots) :
    beginAcceptOn path w site snapshots =
      w.acceptBegin (path.plan site).keyRef (path.plan site).build snapshots := by
  cases path <;> rfl

theorem beginOn_eq_gate_accept (path : BeginPath) (w : Worker) (site : RawCallSite)
    (snapshots : EntrySnapshots) :
    beginOn path w site snapshots =
      if (beginGateOn path w site).1 then
        beginAcceptOn path (beginGateOn path w site).2 site snapshots
      else some (beginGateOn path w site).2 := by
  cases path <;> rfl

def Recorder.sendOptional (r : Recorder) (answer : TrySend) :
    Worker × Option PendingBatch → Recorder
  | (w, none) => { r with toWorker := w }
  | (w, some batch) =>
      { trace := w.trace
        shared := trySendBatch answer batch w.shared
        handed := r.handed ++ [(batch, answer)] }

theorem finishCallRecord_eq_sendOptional (r : Recorder) (frame : CallFrame)
    (snapshots : ExitSnapshots) (abnormal : Bool) (answer : TrySend) :
    r.finishCallRecord (some frame) snapshots abnormal answer =
      r.sendOptional answer
        (finishToSend r.toWorker (frame.intoCallRecord snapshots abnormal)) := by
  unfold Recorder.finishCallRecord finishToSend
  dsimp only
  cases flushPredicateTrigger
    (r.toWorker.pushRecord (frame.intoCallRecord snapshots abnormal)).trace <;> rfl

theorem endWithSnapshots_eq_sendOptional (r : Recorder) (snapshots : ExitSnapshots)
    (abnormal : Bool) (answer : TrySend) :
    r.endWithSnapshots snapshots abnormal answer =
      r.sendOptional answer (endToSend r.toWorker snapshots abnormal) := by
  unfold Recorder.endWithSnapshots endToSend
  by_cases haccept : (endWouldAccept r.trace).1
  · simp only [haccept, ↓reduceIte]
    unfold Recorder.endWithSnapshotsAccept
    dsimp only
    cases (endWouldAccept r.trace).2.stack with
    | nil => rfl
    | cons frame stack => exact finishCallRecord_eq_sendOptional _ frame snapshots abnormal answer
  · simp only [haccept, Bool.false_eq_true, ↓reduceIte]
    rfl

/-! ### What the handlers do to the trace -/

def Trace.emit (t : Trace) (stack : List CallFrame) (record : CallRecord) : Trace :=
  { t with
    stack := stack
    buffer := t.buffer ++ [record]
    bufferEstimatedBytes := t.bufferEstimatedBytes + callRecordFixedBytes }

section endWouldAccept

variable (t : Trace)

theorem endWouldAccept_snd :
    (endWouldAccept t).2 =
      { t with
        virtualDepth := t.virtualDepth - 1
        droppedBegins := t.droppedBegins - 1 } := by
  unfold endWouldAccept
  dsimp only
  split
  · rfl
  · have hzero : t.droppedBegins = 0 := Nat.eq_zero_of_not_pos ‹¬0 < t.droppedBegins›
    rw [hzero]

@[simp] theorem stack_endWouldAccept : (endWouldAccept t).2.stack = t.stack := by
  rw [endWouldAccept_snd]

@[simp] theorem buffer_endWouldAccept : (endWouldAccept t).2.buffer = t.buffer := by
  rw [endWouldAccept_snd]

@[simp] theorem bufferEstimatedBytes_endWouldAccept :
    (endWouldAccept t).2.bufferEstimatedBytes = t.bufferEstimatedBytes := by
  rw [endWouldAccept_snd]

@[simp] theorem dropCounter_endWouldAccept :
    (endWouldAccept t).2.dropCounter = t.dropCounter := by
  rw [endWouldAccept_snd]

end endWouldAccept

/-- The record is pushed, and a batch is made when the flush is due. -/
theorem finishToSend_cases (trace : Trace) (shared : Shared) (stack : List CallFrame)
    (record : CallRecord) :
    finishToSend ⟨{ trace with stack }, shared⟩ record =
        (⟨trace.emit stack record, shared.add callRecordFixedBytes⟩, none) ∨
      finishToSend ⟨{ trace with stack }, shared⟩ record =
        (⟨(trace.emit stack record).flushIntoPendingBatch.2, shared.add callRecordFixedBytes⟩,
          some (trace.emit stack record).flushIntoPendingBatch.1) := by
  have hpush : Worker.pushRecord ⟨{ trace with stack }, shared⟩ record =
      ⟨trace.emit stack record, shared.add callRecordFixedBytes⟩ := rfl
  simp only [finishToSend, hpush]
  cases flushPredicateTrigger (trace.emit stack record) with
  | none => exact .inl rfl
  | some trigger => exact .inr rfl

/-- The end handler only counts, for a dropped begin or for none, or it pops a frame and pushes
its record. -/
theorem endToSend_cases (trace : Trace) (shared : Shared) (exit : ExitSnapshots)
    (abnormal : Bool) :
    (0 < trace.droppedBegins ∨ trace.stack = []) ∧
        endToSend ⟨trace, shared⟩ exit abnormal = (⟨(endWouldAccept trace).2, shared⟩, none) ∨
      trace.droppedBegins = 0 ∧ ∃ frame stack, trace.stack = frame :: stack ∧
        endToSend ⟨trace, shared⟩ exit abnormal =
          finishToSend ⟨{ (endWouldAccept trace).2 with stack }, shared⟩
            (frame.intoCallRecord exit abnormal) := by
  unfold endToSend
  by_cases hdrop : 0 < trace.droppedBegins
  · have haccept : (endWouldAccept trace).1 = false := by simp [endWouldAccept, hdrop]
    refine .inl ⟨.inl hdrop, ?_⟩
    simp only [haccept, Bool.false_eq_true, ↓reduceIte]
  · have haccept : (endWouldAccept trace).1 = true := by simp [endWouldAccept, hdrop]
    simp only [haccept, ↓reduceIte, stack_endWouldAccept]
    cases hstack : trace.stack with
    | nil => exact .inl ⟨.inr rfl, rfl⟩
    | cons frame stack =>
        exact .inr ⟨Nat.eq_zero_of_not_pos hdrop, frame, stack, rfl, rfl⟩

/-! ### The thread -/

/-- Where a PHP thread is, with its trace: `admitted` is between the gate and the accept tail of a
begin, `handing` and `handingLast` are before the `try_send_batch` of a flush, and `releasing` is
before the residual `sub` of `RSHUTDOWN`. -/
inductive PhpThread where
  | noTrace
  | live (trace : Trace)
  | admitted (trace : Trace) (path : BeginPath) (site : RawCallSite)
  | handing (trace : Trace) (batch : PendingBatch)
  | draining (trace : Trace) (exit : ExitSnapshots)
  | handingLast (trace : Trace) (batch : PendingBatch)
  | releasing (trace : Trace)

inductive PhpEvent where
  | rinit (identity : RequestIdentity) (limits : TraceLimits) (startTimeRealtimeNs : ℤ)
  | beginGate (path : BeginPath) (site : RawCallSite)
  | beginAccept (entry : EntrySnapshots)
  | endCall (exit : ExitSnapshots) (abnormal : Bool)
  | trySend (answer : TrySend)
  | rshutdown (exit : ExitSnapshots)
  /-- One frame of `RSHUTDOWN`, or its final flush when no frame is left. -/
  | drain
  | release
deriving DecidableEq

structure PhpMove where
  thread : PhpThread
  shared : Shared
  queued : Option PendingBatch

/-- The channel takes the batch when the answer is `ok`. -/
def TrySend.queued (answer : TrySend) (batch : PendingBatch) : Option PendingBatch :=
  if answer = .ok then some batch else none

namespace PhpThread

/-- One step of a thread; `arc` is the allocation that a `RINIT` would get. -/
def step (arc : ArcId) (shared : Shared) : PhpThread → PhpEvent → Option PhpMove
  | .noTrace, .rinit identity limits startTimeRealtimeNs =>
      let w := rinitAllocateTrace none shared
        { identity, limits, startTimeRealtimeNs, dropCounter := arc }
      some ⟨.live w.trace, w.shared, none⟩
  | .live stale, .rinit identity limits startTimeRealtimeNs =>
      let w := rinitAllocateTrace (some stale) shared
        { identity, limits, startTimeRealtimeNs, dropCounter := arc }
      some ⟨.live w.trace, w.shared, none⟩
  -- outside a request every observer returns early
  | .noTrace, .beginGate _ _ => some ⟨.noTrace, shared, none⟩
  | .noTrace, .endCall _ _ => some ⟨.noTrace, shared, none⟩
  | .noTrace, .rshutdown _ => some ⟨.noTrace, shared, none⟩
  | .live trace, .beginGate path site =>
      match beginGateOn path ⟨trace, shared⟩ site with
      | (true, w) => some ⟨.admitted w.trace path site, w.shared, none⟩
      | (false, w) => some ⟨.live w.trace, w.shared, none⟩
  | .admitted trace path site, .beginAccept entry =>
      (beginAcceptOn path ⟨trace, shared⟩ site entry).map fun w => ⟨.live w.trace, w.shared, none⟩
  | .live trace, .endCall exit abnormal =>
      match endToSend ⟨trace, shared⟩ exit abnormal with
      | (w, none) => some ⟨.live w.trace, w.shared, none⟩
      | (w, some batch) => some ⟨.handing w.trace batch, w.shared, none⟩
  | .handing trace batch, .trySend answer =>
      some ⟨.live trace, trySendBatch answer batch shared, answer.queued batch⟩
  | .live trace, .rshutdown exit => some ⟨.draining trace exit, shared, none⟩
  | .draining trace exit, .drain =>
      match trace.stack with
      | frame :: stack =>
          let w := Worker.pushRecord ⟨{ trace with stack }, shared⟩
            (frame.intoAbnormalCallRecord exit.tOutNs exit.cpuUNowNs exit.cpuSNowNs
              exit.memOutBytes)
          some ⟨.draining w.trace exit, w.shared, none⟩
      | [] =>
          if trace.buffer.isEmpty then some ⟨.releasing trace, shared, none⟩
          else
            let (batch, trace) := trace.flushIntoPendingBatch
            some ⟨.handingLast trace batch, shared, none⟩
  | .handingLast trace batch, .trySend answer =>
      some ⟨.releasing trace, trySendBatch answer batch shared, answer.queued batch⟩
  | .releasing trace, .release =>
      some ⟨.noTrace, shared.sub trace.bufferEstimatedBytes, none⟩
  | _, _ => none

def ignores : PhpEvent → Bool
  | .beginGate _ _ | .endCall _ _ | .rshutdown _ => true
  | _ => false

inductive Step (arc : ArcId) (shared : Shared) : PhpThread → PhpEvent → PhpMove → Prop
  | rinit (identity limits startTimeRealtimeNs) :
      Step arc shared .noTrace (.rinit identity limits startTimeRealtimeNs)
        ⟨.live (Trace.new identity limits startTimeRealtimeNs arc), shared.allocCounter arc, none⟩
  | rinitStale (stale identity limits startTimeRealtimeNs) :
      Step arc shared (.live stale) (.rinit identity limits startTimeRealtimeNs)
        ⟨.live (Trace.new identity limits startTimeRealtimeNs arc),
          (shared.sub stale.bufferEstimatedBytes).allocCounter arc, none⟩
  | ignore (e) (hignores : ignores e = true) : Step arc shared .noTrace e ⟨.noTrace, shared, none⟩
  | dropBegin (trace path site) :
      Step arc shared (.live trace) (.beginGate path site)
        ⟨.live (Worker.mk trace shared).deepen.recordDrop.trace,
          shared.fetchAdd trace.dropCounter 1, none⟩
  | admitBegin (trace path site) :
      Step arc shared (.live trace) (.beginGate path site)
        ⟨.admitted (Worker.mk trace shared).deepen.trace path site, shared, none⟩
  | acceptBegin (trace path site entry) (fnId outcome dictionary)
      (hdict : trace.dictionary.internRef (path.plan site).keyRef (path.plan site).build =
        some (fnId, outcome, dictionary)) :
      Step arc shared (.admitted trace path site) (.beginAccept entry)
        ⟨.live (trace.pushFrame fnId entry dictionary
            (Recorder.billed (path.plan site) outcome)),
          shared.add (Recorder.billed (path.plan site) outcome), none⟩
  | quietEnd (trace exit abnormal) :
      Step arc shared (.live trace) (.endCall exit abnormal)
        ⟨.live (endWouldAccept trace).2, shared, none⟩
  | emitEnd (trace exit abnormal frame stack) (hstack : trace.stack = frame :: stack) :
      Step arc shared (.live trace) (.endCall exit abnormal)
        ⟨.live ((endWouldAccept trace).2.emit stack (frame.intoCallRecord exit abnormal)),
          shared.add callRecordFixedBytes, none⟩
  | flushEnd (trace exit abnormal frame stack) (hstack : trace.stack = frame :: stack) :
      Step arc shared (.live trace) (.endCall exit abnormal)
        ⟨.handing
            ((endWouldAccept trace).2.emit stack
              (frame.intoCallRecord exit abnormal)).flushIntoPendingBatch.2
            ((endWouldAccept trace).2.emit stack
              (frame.intoCallRecord exit abnormal)).flushIntoPendingBatch.1,
          shared.add callRecordFixedBytes, none⟩
  | send (trace batch answer) :
      Step arc shared (.handing trace batch) (.trySend answer)
        ⟨.live trace, trySendBatch answer batch shared, answer.queued batch⟩
  | rshutdown (trace exit) :
      Step arc shared (.live trace) (.rshutdown exit) ⟨.draining trace exit, shared, none⟩
  | drainFrame (trace exit frame stack) (hstack : trace.stack = frame :: stack) :
      Step arc shared (.draining trace exit) .drain
        ⟨.draining (trace.emit stack (frame.intoAbnormalCallRecord exit.tOutNs exit.cpuUNowNs
            exit.cpuSNowNs exit.memOutBytes)) exit,
          shared.add callRecordFixedBytes, none⟩
  | skipFlush (trace exit) (hstack : trace.stack = []) (hbuffer : trace.buffer = []) :
      Step arc shared (.draining trace exit) .drain ⟨.releasing trace, shared, none⟩
  | flushLast (trace exit) (hstack : trace.stack = []) (hbuffer : trace.buffer ≠ []) :
      Step arc shared (.draining trace exit) .drain
        ⟨.handingLast trace.flushIntoPendingBatch.2 trace.flushIntoPendingBatch.1, shared, none⟩
  | sendLast (trace batch answer) :
      Step arc shared (.handingLast trace batch) (.trySend answer)
        ⟨.releasing trace, trySendBatch answer batch shared, answer.queued batch⟩
  | release (trace) :
      Step arc shared (.releasing trace) .release
        ⟨.noTrace, shared.sub trace.bufferEstimatedBytes, none⟩

variable {arc : ArcId} {shared : Shared} {move : PhpMove}

/-- Either way the trace is one level deeper; a gate that rejects counts the drop. -/
theorem beginGate_cases {trace : Trace} {path : BeginPath} {site : RawCallSite}
    (h : (PhpThread.live trace).step arc shared (.beginGate path site) = some move) :
    (beginGateOn path ⟨trace, shared⟩ site).1 = true ∧
        move = ⟨.admitted (Worker.mk trace shared).deepen.trace path site, shared, none⟩ ∨
      (beginGateOn path ⟨trace, shared⟩ site).1 = false ∧
        move = ⟨.live (Worker.mk trace shared).deepen.recordDrop.trace,
          shared.fetchAdd trace.dropCounter 1, none⟩ := by
  have hsnd : (beginGateOn path ⟨trace, shared⟩ site).2 =
      if (beginGateOn path ⟨trace, shared⟩ site).1 then (Worker.mk trace shared).deepen
      else (Worker.mk trace shared).deepen.recordDrop := by
    rw [beginGateOn_eq]
    exact Worker.wouldAccept_snd
  simp only [step] at h
  cases hgate : beginGateOn path ⟨trace, shared⟩ site with
  | mk accept w =>
      rw [hgate] at h hsnd
      cases accept with
      | true =>
          cases h
          rw [show w = (Worker.mk trace shared).deepen from hsnd]
          exact .inl ⟨rfl, rfl⟩
      | false =>
          cases h
          rw [show w = (Worker.mk trace shared).deepen.recordDrop from hsnd]
          exact .inr ⟨rfl, rfl⟩

theorem step_beginGate {trace : Trace} {path : BeginPath} {site : RawCallSite}
    (h : (PhpThread.live trace).step arc shared (.beginGate path site) = some move) :
    Step arc shared (.live trace) (.beginGate path site) move := by
  rcases beginGate_cases h with ⟨-, rfl⟩ | ⟨-, rfl⟩
  · exact .admitBegin trace path site
  · exact .dropBegin trace path site

theorem step_beginAccept {trace : Trace} {path : BeginPath} {site : RawCallSite}
    {entry : EntrySnapshots}
    (h : (PhpThread.admitted trace path site).step arc shared (.beginAccept entry) = some move) :
    Step arc shared (.admitted trace path site) (.beginAccept entry) move := by
  simp only [step, beginAcceptOn_eq, Recorder.acceptBegin_eq] at h
  split at h
  · rw [Option.map_map] at h
    obtain ⟨⟨fnId, outcome, dictionary⟩, hdict, rfl⟩ := Option.map_eq_some_iff.mp h
    exact .acceptBegin trace path site entry fnId outcome dictionary hdict
  · cases h

theorem step_endCall {trace : Trace} {exit : ExitSnapshots} {abnormal : Bool}
    (h : (PhpThread.live trace).step arc shared (.endCall exit abnormal) = some move) :
    Step arc shared (.live trace) (.endCall exit abnormal) move := by
  simp only [step] at h
  obtain ⟨-, hend⟩ | ⟨-, frame, stack, hstack, hend⟩ :=
    endToSend_cases trace shared exit abnormal
  · rw [hend] at h
    cases h
    exact .quietEnd trace exit abnormal
  · rw [hend] at h
    rcases finishToSend_cases (endWouldAccept trace).2 shared stack
      (frame.intoCallRecord exit abnormal) with hfinish | hfinish
    · rw [hfinish] at h
      cases h
      exact .emitEnd trace exit abnormal frame stack hstack
    · rw [hfinish] at h
      cases h
      exact .flushEnd trace exit abnormal frame stack hstack

theorem step_drain {trace : Trace} {exit : ExitSnapshots}
    (h : (PhpThread.draining trace exit).step arc shared .drain = some move) :
    Step arc shared (.draining trace exit) .drain move := by
  simp only [step] at h
  split at h
  · cases h
    exact .drainFrame trace exit _ _ ‹_›
  · split at h
    · cases h
      exact .skipFlush trace exit ‹_› (List.isEmpty_iff.mp ‹_›)
    · cases h
      exact .flushLast trace exit ‹_› fun hnil => ‹¬ _› (List.isEmpty_iff.mpr hnil)

/-- **The sixteen cases of a step.** -/
theorem step_cases {t : PhpThread} {e : PhpEvent} (h : t.step arc shared e = some move) :
    Step arc shared t e move := by
  cases t with
  | noTrace =>
      cases e with
      | rinit identity limits startTimeRealtimeNs =>
          cases h
          exact .rinit identity limits startTimeRealtimeNs
      | beginGate path site =>
          cases h
          exact .ignore _ rfl
      | endCall exit abnormal =>
          cases h
          exact .ignore _ rfl
      | rshutdown exit =>
          cases h
          exact .ignore _ rfl
      | _ => cases h
  | live trace =>
      cases e with
      | rinit identity limits startTimeRealtimeNs =>
          cases h
          exact .rinitStale trace identity limits startTimeRealtimeNs
      | beginGate path site => exact step_beginGate h
      | endCall exit abnormal => exact step_endCall h
      | rshutdown exit =>
          cases h
          exact .rshutdown trace exit
      | _ => cases h
  | admitted trace path site =>
      cases e with
      | beginAccept entry => exact step_beginAccept h
      | _ => cases h
  | handing trace batch =>
      cases e with
      | trySend answer =>
          cases h
          exact .send trace batch answer
      | _ => cases h
  | draining trace exit =>
      cases e with
      | drain => exact step_drain h
      | _ => cases h
  | handingLast trace batch =>
      cases e with
      | trySend answer =>
          cases h
          exact .sendLast trace batch answer
      | _ => cases h
  | releasing trace =>
      cases e with
      | release =>
          cases h
          exact .release trace
      | _ => cases h

/-- The batch in the recorder's hand. -/
def hand : PhpThread → Option PendingBatch
  | .handing _ batch => some batch
  | .handingLast _ batch => some batch
  | _ => none

end PhpThread

/-! ### Left alone, a thread does what the recorder does -/

/-- A thread by itself, with the batches it has handed to `try_send_batch`. -/
structure LoneThread where
  thread : PhpThread
  shared : Shared
  handed : List (PendingBatch × TrySend)

namespace LoneThread

/-- What a step hands to `try_send_batch`. -/
def handedBy (t : PhpThread) : PhpEvent → List (PendingBatch × TrySend)
  | .trySend answer => t.hand.toList.map fun batch => (batch, answer)
  | _ => []

def step (arc : ArcId) (l : LoneThread) (e : PhpEvent) : Option LoneThread :=
  (l.thread.step arc l.shared e).map fun move =>
    { thread := move.thread
      shared := move.shared
      handed := l.handed ++ handedBy l.thread e }

def ofRecorder (r : Recorder) : LoneThread := ⟨.live r.trace, r.shared, r.handed⟩

variable (arc : ArcId) {r r' : Recorder}

theorem begin_in_small_steps {path : BeginPath} {site : RawCallSite} {entry : EntrySnapshots}
    (h : r.step (.beginCall path site entry) = some r') :
    ∃ es, run (step arc) (ofRecorder r) es = some (ofRecorder r') := by
  simp only [Recorder.step, beginOn_eq_gate_accept] at h
  obtain ⟨w', hw', rfl⟩ := Option.map_eq_some_iff.mp h
  cases hgate : beginGateOn path r.toWorker site with
  | mk accept w =>
      rw [hgate] at hw'
      have hfirst : (PhpThread.live r.trace).step arc r.shared (.beginGate path site) =
          if accept then some ⟨.admitted w.trace path site, w.shared, none⟩
          else some ⟨.live w.trace, w.shared, none⟩ := by
        simp only [PhpThread.step]
        rw [hgate]
        cases accept <;> rfl
      cases accept with
      | false =>
          cases hw'
          refine ⟨[.beginGate path site], ?_⟩
          rw [run_singleton, step, ofRecorder, hfirst]
          simp [handedBy, ofRecorder]
      | true =>
          have haccept : beginAcceptOn path w site entry = some w' := hw'
          refine ⟨[.beginGate path site, .beginAccept entry], ?_⟩
          rw [run_cons, step, ofRecorder, hfirst]
          simp [step, PhpThread.step, haccept, handedBy, ofRecorder]

theorem end_in_small_steps (exit : ExitSnapshots) (abnormal : Bool) (answer : TrySend) :
    ∃ es, run (step arc) (ofRecorder r) es =
      some (ofRecorder (r.endWithSnapshots exit abnormal answer)) := by
  rw [endWithSnapshots_eq_sendOptional]
  cases hend : endToSend r.toWorker exit abnormal with
  | mk w sent =>
      cases sent with
      | none =>
          refine ⟨[.endCall exit abnormal], ?_⟩
          simp [step, PhpThread.step, ofRecorder, hend, handedBy, Recorder.sendOptional]
      | some batch =>
          refine ⟨[.endCall exit abnormal, .trySend answer], ?_⟩
          simp [run_cons, step, PhpThread.step, ofRecorder, hend, handedBy, PhpThread.hand,
            Recorder.sendOptional]

def drainingOf (r : Recorder) (exit : ExitSnapshots) : LoneThread :=
  ⟨.draining r.trace exit, r.shared, r.handed⟩

def releasedOf (r : Recorder) : LoneThread := ⟨.noTrace, r.shared, r.handed⟩

theorem drained_of_stack_nil {exit : ExitSnapshots} (hstack : r.trace.stack = []) :
    r.drained exit = r := by
  have hmap : r.trace.buffer ++ ([] : List CallRecord) = r.trace.buffer := List.append_nil _
  simp only [Recorder.drained, hstack, List.map_nil, List.length_nil, Nat.zero_mul, hmap]
  rw [← hstack]
  rfl

/-- One frame at a time, the drain loop does what `drained` does. -/
theorem drain_in_small_steps (exit : ExitSnapshots) :
    run (step arc) (drainingOf r exit) (List.replicate r.trace.stack.length .drain) =
      some (drainingOf (r.drained exit) exit) := by
  induction hstack : r.trace.stack generalizing r with
  | nil =>
      rw [drained_of_stack_nil hstack]
      rfl
  | cons frame stack ih =>
      let popped : Recorder :=
        { trace := r.trace.emit stack (frame.intoCallRecord exit true)
          shared := r.shared.add callRecordFixedBytes
          handed := r.handed }
      have hfirst : step arc (drainingOf r exit) .drain = some (drainingOf popped exit) := by
        simp only [step, drainingOf, PhpThread.step, hstack]
        simp only [handedBy, popped, List.append_nil]
        rfl
      have hrest : popped.drained exit = r.drained exit := by
        simp [Recorder.drained, popped, Trace.emit, hstack, Shared.add, Nat.succ_mul]
        omega
      rw [List.length_cons, List.replicate_succ, run_cons, hfirst, ← hrest]
      exact ih (r := popped) rfl

/-- The tail of `RSHUTDOWN`: the final flush, its `try_send_batch`, the residual. -/
theorem release_in_small_steps (exit : ExitSnapshots) (hstack : r.trace.stack = [])
    (answer : TrySend) :
    ∃ es, run (step arc) (drainingOf r exit) es =
      some (releasedOf { r.flushed answer with
        shared :=
          (r.flushed answer).shared.sub (r.flushed answer).trace.bufferEstimatedBytes }) := by
  unfold Recorder.flushed
  cases hbuffer : r.trace.buffer.isEmpty with
  | true =>
      refine ⟨[.drain, .release], ?_⟩
      simp [run_cons, step, drainingOf, releasedOf, PhpThread.step, hstack, hbuffer, handedBy]
  | false =>
      refine ⟨[.drain, .trySend answer, .release], ?_⟩
      simp [run_cons, step, drainingOf, releasedOf, PhpThread.step, hstack, hbuffer, handedBy,
        PhpThread.hand, Recorder.flushAndSend]

theorem rshutdown_in_small_steps (r : Recorder) (exit : ExitSnapshots) (answer : TrySend) :
    ∃ es, run (step arc) (ofRecorder r) es =
      some (releasedOf (r.rshutdownReleaseTrace exit answer)) := by
  obtain ⟨es, hes⟩ := release_in_small_steps arc (r := r.drained exit) exit rfl answer
  have hfirst : step arc (ofRecorder r) (.rshutdown exit) = some (drainingOf r exit) := by
    simp [step, ofRecorder, drainingOf, PhpThread.step, handedBy]
  refine ⟨.rshutdown exit :: (List.replicate r.trace.stack.length .drain ++ es), ?_⟩
  rw [run_cons, hfirst, Option.bind_some, run_append, drain_in_small_steps, Option.bind_some, hes,
    Recorder.rshutdownReleaseTrace_eq]

/-- **Small steps refine the recorder**: whatever a recorder does from `RINIT` to
`RSHUTDOWN` with nobody else at the budget, a thread by itself does in small steps. -/
theorem recorder_in_small_steps {shared : Shared} {rinit : Rinit} {es : List Event}
    (h : run Recorder.step (Recorder.start shared rinit) es = some r)
    (halone : ∀ e ∈ es, e.mark ≠ .neutral) (exit : ExitSnapshots) (answer : TrySend) :
    ∃ fs, run (step rinit.dropCounter) ⟨.noTrace, shared, []⟩ fs =
      some (releasedOf (r.rshutdownReleaseTrace exit answer)) := by
  have hlive : ∃ fs, run (step rinit.dropCounter) ⟨.noTrace, shared, []⟩ fs =
      some (ofRecorder r) := by
    refine run_induction (P := fun es r => (∀ e ∈ es, e.mark ≠ .neutral) →
      ∃ fs, run (step rinit.dropCounter) ⟨.noTrace, shared, []⟩ fs = some (ofRecorder r))
      ?_ ?_ h halone
    · intro _
      exact ⟨[.rinit rinit.identity rinit.limits rinit.startTimeRealtimeNs], rfl⟩
    · intro es r e r' _ ih hstep halone
      obtain ⟨fs, hfs⟩ := ih fun e' he' => halone e' (List.mem_append_left _ he')
      have hthis : ∃ gs, run (step rinit.dropCounter) (ofRecorder r) gs =
          some (ofRecorder r') := by
        cases e with
        | beginCall path site entry => exact begin_in_small_steps rinit.dropCounter hstep
        | endCall exit abnormal answer =>
            cases hstep
            exact end_in_small_steps rinit.dropCounter exit abnormal answer
        | budget bytes => exact absurd rfl (halone (.budget bytes) (by simp))
      obtain ⟨gs, hgs⟩ := hthis
      exact ⟨fs ++ gs, run_append_eq_some.mpr ⟨_, hfs, hgs⟩⟩
  obtain ⟨fs, hfs⟩ := hlive
  obtain ⟨gs, hgs⟩ := rshutdown_in_small_steps rinit.dropCounter r exit answer
  exact ⟨fs ++ gs, run_append_eq_some.mpr ⟨_, hfs, hgs⟩⟩

end LoneThread

end PhpAnalyze
