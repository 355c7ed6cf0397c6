import PhpAnalyze.Handlers

/-! # What the snapshots cost and what they show

Without processor times the recorder does the same but for the two fields of a record
(`Recorder.step_withoutCpu`), and so `cpu_snapshot_mode = off` only leaves these out
(`cpu_off_is_erasure`).

A call that a gate drops reads no clock, neither at its begin nor at its end: however the calls
of the requests nest, there are one or two readings for each record
(`at_most_two_readings_a_record`). -/

namespace PhpAnalyze

open Machine

/-! ### Without processor times -/

def CallFrame.withoutCpu (frame : CallFrame) : CallFrame :=
  { frame with cpuUInNs := 0, cpuSInNs := 0 }

def CallRecord.withoutCpu (record : CallRecord) : CallRecord :=
  { record with cpuUNs := 0, cpuSNs := 0 }

def EntrySnapshots.withoutCpu (entry : EntrySnapshots) : EntrySnapshots :=
  { entry with cpuUInNs := 0, cpuSInNs := 0 }

def ExitSnapshots.withoutCpu (exit : ExitSnapshots) : ExitSnapshots :=
  { exit with cpuUNowNs := 0, cpuSNowNs := 0 }

def PendingBatch.withoutCpu (batch : PendingBatch) : PendingBatch :=
  { batch with calls := batch.calls.map CallRecord.withoutCpu }

def Trace.withoutCpu (t : Trace) : Trace :=
  { t with
    stack := t.stack.map CallFrame.withoutCpu
    buffer := t.buffer.map CallRecord.withoutCpu }

def Event.withoutCpu : Event → Event
  | .beginCall path site entry => .beginCall path site entry.withoutCpu
  | .endCall exit abnormal answer => .endCall exit.withoutCpu abnormal answer
  | .budget bytes => .budget bytes

/-- The batches that were handed off, with their answers. -/
def handedWithoutCpu (handed : List (PendingBatch × TrySend)) : List (PendingBatch × TrySend) :=
  handed.map fun h => (h.1.withoutCpu, h.2)

def Recorder.withoutCpu (r : Recorder) : Recorder where
  trace := r.trace.withoutCpu
  shared := r.shared
  handed := handedWithoutCpu r.handed

def Handlers.withoutCpu (s : Handlers) : Handlers :=
  { s with
    current := s.current.map Trace.withoutCpu
    handed := handedWithoutCpu s.handed }

theorem captureNow_off_entry (clocks : Clocks) :
    EntrySnapshots.captureNow .off clocks =
      (EntrySnapshots.captureNow .perCall clocks).withoutCpu := by
  unfold EntrySnapshots.captureNow snapshotNow EntrySnapshots.withoutCpu
  simp only

theorem captureNow_off_exit (clocks : Clocks) :
    ExitSnapshots.captureNow .off clocks =
      (ExitSnapshots.captureNow .perCall clocks).withoutCpu := by
  unfold ExitSnapshots.captureNow snapshotNow ExitSnapshots.withoutCpu
  simp only

theorem recorded_off (e : HandlerEvent) :
    e.recorded .off = (e.recorded .perCall).map Event.withoutCpu := by
  cases e with
  | beginCall clocks site =>
      exact congrArg (fun entry => some (Event.beginCall .lazy site entry))
        (captureNow_off_entry clocks)
  | endCall clocks hasException answer =>
      exact congrArg (fun exit => some (Event.endCall exit hasException answer))
        (captureNow_off_exit clocks)
  | rinit | rshutdown | budget => rfl

/-- A call that reads no processor time has used none. -/
theorem intoCallRecord_withoutCpu (frame : CallFrame) (exit : ExitSnapshots) (abnormal : Bool) :
    frame.withoutCpu.intoCallRecord exit.withoutCpu abnormal =
      (frame.intoCallRecord exit abnormal).withoutCpu := by
  have hzero : max (saturatingSubI64 0 0) 0 = 0 := by decide
  unfold CallFrame.intoCallRecord CallFrame.withoutCpu ExitSnapshots.withoutCpu
    CallRecord.withoutCpu
  simp only [hzero]

namespace Recorder

variable (r : Recorder)

theorem accepts_withoutCpu (path : BeginPath) (site : RawCallSite) :
    r.withoutCpu.accepts path site = r.accepts path site := by
  rw [Bool.eq_iff_iff, accepts_iff, accepts_iff]
  rfl

theorem parent_withoutCpu (t : Trace) : t.withoutCpu.parent = t.parent := by
  unfold Trace.parent Trace.withoutCpu
  cases t.stack <;> rfl

theorem afterAccept_withoutCpu (fnId : ℕ) (entry : EntrySnapshots) (dictionary : Dictionary)
    (bytes : ℕ) :
    r.withoutCpu.afterAccept (r.withoutCpu.newFrame fnId entry.withoutCpu) dictionary bytes =
      (r.afterAccept (r.newFrame fnId entry) dictionary bytes).withoutCpu := by
  have hframe : r.withoutCpu.newFrame fnId entry.withoutCpu =
      (r.newFrame fnId entry).withoutCpu := by
    unfold newFrame
    rw [show r.withoutCpu.trace = r.trace.withoutCpu from rfl, parent_withoutCpu]
    rfl
  rw [hframe]
  rfl

theorem flushAndSend_withoutCpu (answer : TrySend) :
    r.withoutCpu.flushAndSend answer = (r.flushAndSend answer).withoutCpu := by
  have hbatch : r.withoutCpu.trace.flushIntoPendingBatch =
      (r.trace.flushIntoPendingBatch.1.withoutCpu, r.trace.flushIntoPendingBatch.2.withoutCpu) :=
    rfl
  have hshared : trySendBatch answer r.trace.flushIntoPendingBatch.1.withoutCpu r.shared =
      trySendBatch answer r.trace.flushIntoPendingBatch.1 r.shared := by
    cases answer <;> simp [trySendBatch, PendingBatch.withoutCpu]
  unfold flushAndSend
  rw [hbatch]
  simp only [withoutCpu, handedWithoutCpu, List.map_append, hshared, List.map_cons, List.map_nil]

theorem flushIfDue_withoutCpu (answer : TrySend) :
    r.withoutCpu.flushIfDue answer = (r.flushIfDue answer).withoutCpu := by
  have htrigger : flushPredicateTrigger r.withoutCpu.trace = flushPredicateTrigger r.trace := by
    unfold flushPredicateTrigger withoutCpu Trace.withoutCpu
    rw [List.length_map]
  unfold flushIfDue
  rw [htrigger]
  cases flushPredicateTrigger r.trace with
  | none => rfl
  | some trigger => exact flushAndSend_withoutCpu r answer

theorem afterEmit_withoutCpu (stack : List CallFrame) (record : CallRecord) :
    r.withoutCpu.afterEmit (stack.map CallFrame.withoutCpu) record.withoutCpu =
      (r.afterEmit stack record).withoutCpu := by
  unfold afterEmit withoutCpu Trace.withoutCpu
  simp

theorem endWithSnapshots_withoutCpu (exit : ExitSnapshots) (abnormal : Bool) (answer : TrySend) :
    r.withoutCpu.endWithSnapshots exit.withoutCpu abnormal answer =
      (r.endWithSnapshots exit abnormal answer).withoutCpu := by
  unfold endWithSnapshots endWouldAccept
  by_cases hdrop : 0 < r.trace.droppedBegins
  · have hdrop' : 0 < r.withoutCpu.trace.droppedBegins := hdrop
    simp only [hdrop, hdrop', ↓reduceIte]
    rfl
  · have hdrop' : ¬ 0 < r.withoutCpu.trace.droppedBegins := hdrop
    simp only [hdrop, hdrop', ↓reduceIte]
    show r.withoutCpu.afterStray.endWithSnapshotsAccept exit.withoutCpu abnormal answer =
      (r.afterStray.endWithSnapshotsAccept exit abnormal answer).withoutCpu
    cases hstack : r.trace.stack with
    | nil =>
        have hstack' : r.withoutCpu.trace.stack = [] := congrArg (List.map _) hstack
        rw [endWithSnapshotsAccept_of_nil (r := r.afterStray) hstack,
          endWithSnapshotsAccept_of_nil (r := r.withoutCpu.afterStray) hstack']
        rfl
    | cons frame stack =>
        have hstack' : r.withoutCpu.trace.stack =
            frame.withoutCpu :: stack.map CallFrame.withoutCpu := congrArg (List.map _) hstack
        rw [endWithSnapshotsAccept_of_cons (r := r.afterStray) hstack,
          endWithSnapshotsAccept_of_cons (r := r.withoutCpu.afterStray) hstack']
        have h := flushIfDue_withoutCpu
          (r.afterEmit stack (frame.intoCallRecord exit abnormal)) answer
        rw [← afterEmit_withoutCpu, ← intoCallRecord_withoutCpu] at h
        exact h

theorem step_withoutCpu (e : Event) :
    r.withoutCpu.step e.withoutCpu = (r.step e).map withoutCpu := by
  cases e with
  | beginCall path site entry =>
      cases hgate : r.accepts path site with
      | false =>
          have hgate' := (accepts_withoutCpu r path site).trans hgate
          rw [step_begin_rejected hgate]
          exact step_begin_rejected hgate' entry.withoutCpu
      | true =>
          have hgate' := (accepts_withoutCpu r path site).trans hgate
          have h := step_begin_accepted hgate' entry.withoutCpu
          rw [step_begin_accepted hgate]
          refine h.trans ?_
          show (if r.trace.callIdSeq + 1 < 2 ^ 64 then
            (r.trace.dictionary.internRef _ _).map _ else none) = _
          simp only [afterAccept_withoutCpu]
          split
          · rw [Option.map_map]
            rfl
          · rfl
  | endCall exit abnormal answer =>
      exact congrArg some (endWithSnapshots_withoutCpu r exit abnormal answer)
  | budget bytes => rfl

theorem rshutdownReleaseTrace_withoutCpu (exit : ExitSnapshots) (answer : TrySend) :
    r.withoutCpu.rshutdownReleaseTrace exit.withoutCpu answer =
      (r.rshutdownReleaseTrace exit answer).withoutCpu := by
  have hdrained : r.withoutCpu.drained exit.withoutCpu = (r.drained exit).withoutCpu := by
    unfold drained withoutCpu Trace.withoutCpu
    simp [intoCallRecord_withoutCpu, Function.comp_def]
  have hflushed : ∀ r : Recorder, r.withoutCpu.flushed answer = (r.flushed answer).withoutCpu := by
    intro r
    have hempty : r.withoutCpu.trace.buffer.isEmpty = r.trace.buffer.isEmpty := by
      unfold withoutCpu Trace.withoutCpu
      rw [List.isEmpty_map]
    unfold flushed
    rw [hempty]
    split
    · rfl
    · exact flushAndSend_withoutCpu r answer
  rw [rshutdownReleaseTrace_eq, rshutdownReleaseTrace_eq, hdrained, hflushed]
  rfl

end Recorder

namespace Handlers

theorem reads_withoutCpu (r : Recorder) (e : HandlerEvent) : e.reads r.withoutCpu = e.reads r := by
  cases e with
  | beginCall clocks site =>
      show (if r.withoutCpu.accepts .lazy site then _ else _) = _
      rw [Recorder.accepts_withoutCpu]
      rfl
  | rshutdown clocks answer =>
      show (if (r.trace.stack.map CallFrame.withoutCpu).isEmpty then _ else _) = _
      rw [List.isEmpty_map]
      rfl
  | rinit | endCall | budget => rfl

/-- A state with a trace. -/
theorem eq_ofRecorder {s : Handlers} {trace : Trace} (h : s.current = some trace) :
    s = ofRecorder s.captures { trace, shared := s.shared, handed := s.handed } := by
  unfold ofRecorder
  rw [← h]

theorem step_ofRecorder_withoutCpu (captures : List Clocks) (r : Recorder) (e : HandlerEvent) :
    (ofRecorder captures r.withoutCpu).step .off e =
      ((ofRecorder captures r).step .perCall e).map withoutCpu := by
  cases h : e.recorded .perCall with
  | some event =>
      have hoff : e.recorded .off = some event.withoutCpu := by rw [recorded_off, h]; rfl
      rw [step_eq h, step_eq hoff, Recorder.step_withoutCpu, reads_withoutCpu, Option.map_map,
        Option.map_map]
      rfl
  | none =>
      cases e with
      | rinit rinit => rfl
      | rshutdown clocks answer =>
          have hr := Recorder.rshutdownReleaseTrace_withoutCpu r (.captureNow .perCall clocks)
            answer
          rw [← captureNow_off_exit] at hr
          have hreads := reads_withoutCpu r (.rshutdown clocks answer)
          rw [step_rshutdown, step_rshutdown, hreads, hr]
          rfl
      | beginCall | endCall | budget => cases h

theorem step_withoutCpu (s : Handlers) (e : HandlerEvent) :
    s.withoutCpu.step .off e = (s.step .perCall e).map withoutCpu := by
  cases h : s.current with
  | none =>
      have h' : s.withoutCpu.current = none := congrArg (Option.map _) h
      cases e with
      | rinit rinit =>
          simp only [step, rinitAllocateTrace, h, h']
          rfl
      | budget bytes => rfl
      | beginCall | endCall | rshutdown =>
          simp only [step, beginHandler, endHandler, rshutdownReleaseTrace, h, h', Option.map_some]
  | some trace =>
      rw [eq_ofRecorder h]
      exact step_ofRecorder_withoutCpu _ _ e

/-- **`cpu_snapshot_mode = off` is the erasure of the processor times.** -/
theorem cpu_off_is_erasure (shared : Shared) (es : List HandlerEvent) :
    run (step .off) (start shared) es =
      (run (step .perCall) (start shared) es).map withoutCpu := by
  have hview : ∀ (s t : Handlers) (e : HandlerEvent), id s = t.withoutCpu →
      (step .off s e).map id = (step .perCall t e).map withoutCpu := by
    intro s t e hst
    rw [Option.map_id]
    exact (congrArg (fun s => s.step .off e) hst).trans (step_withoutCpu t e)
  have h := run_view hview es (show id (start shared) = (start shared).withoutCpu from rfl)
  rwa [Option.map_id] at h

/-! ### Readings -/

/-- The records that were made, handed off or still in the buffer. -/
def records (s : Handlers) : ℕ :=
  (s.handed.flatMap fun h => h.1.calls).length +
    match s.current with
    | none => 0
    | some trace => trace.buffer.length

def openFrames (s : Handlers) : ℕ :=
  match s.current with
  | none => 0
  | some trace => trace.stack.length

/-- `RINIT` finds an empty slot, and an end has a begin to close. -/
def orderly (s : Handlers) : HandlerEvent → Bool
  | .rinit _ => s.current.isNone
  | .endCall .. =>
      match s.current with
      | none => true
      | some trace => !trace.stack.isEmpty || 0 < trace.droppedBegins
  | _ => true

/-- One or two readings for each record, and one for each open frame. -/
structure Frugal (s : Handlers) : Prop where
  lower : s.records + s.openFrames ≤ s.captures.length
  upper : s.captures.length ≤ 2 * s.records + s.openFrames

variable {mode : CpuSnapshotMode} {captures : List Clocks} {r : Recorder} {s s' : Handlers}

theorem records_ofRecorder : (ofRecorder captures r).records = r.emitted.length := by
  unfold records ofRecorder Recorder.emitted Recorder.calls
  rw [List.length_append]

theorem frugal_ofRecorder :
    (ofRecorder captures r).Frugal ↔
      r.emitted.length + r.trace.stack.length ≤ captures.length ∧
        captures.length ≤ 2 * r.emitted.length + r.trace.stack.length := by
  have hrecords : (ofRecorder captures r).records = r.emitted.length := records_ofRecorder
  rw [← hrecords]
  exact ⟨fun h => ⟨h.lower, h.upper⟩, fun h => ⟨h.1, h.2⟩⟩

theorem frugal_ofReleased :
    (ofReleased captures r).Frugal ↔
      r.calls.length ≤ captures.length ∧ captures.length ≤ 2 * r.calls.length :=
  ⟨fun h => ⟨h.lower, h.upper⟩, fun h => ⟨h.1, h.2⟩⟩

/-- An event of the recorder pays one reading for the frame that it opens or closes. -/
theorem Frugal.recorded (h : (ofRecorder captures r).Frugal) {e : HandlerEvent} {event : Event}
    (hevent : e.recorded mode = some event) (horderly : (ofRecorder captures r).orderly e = true)
    {r' : Recorder} (hstep : r.step event = some r') :
    (ofRecorder (captures ++ e.reads r) r').Frugal := by
  rw [frugal_ofRecorder] at h ⊢
  rw [List.length_append]
  cases Recorder.step_cases hstep with
  | dropBegin path site entry hgate =>
      have hreads : e.reads r = [] := by
        cases e <;> cases hevent
        simp [HandlerEvent.reads, hgate]
      rw [hreads]
      exact h
  | acceptBegin path site entry fnId outcome dictionary hgate hdict =>
      have hreads : (e.reads r).length = 1 := by
        cases e <;> cases hevent
        simp [HandlerEvent.reads, hgate]
      have hemitted : (r.afterAccept (r.newFrame fnId entry) dictionary
          (Recorder.billed (path.plan site) outcome)).emitted = r.emitted := rfl
      have hstack : (r.afterAccept (r.newFrame fnId entry) dictionary
          (Recorder.billed (path.plan site) outcome)).trace.stack.length =
            r.trace.stack.length + 1 := rfl
      rw [hemitted, hstack, hreads]
      omega
  | consumeEnd exit abnormal answer hdrop =>
      have hreads : e.reads r = [] := by
        cases e <;> cases hevent
        simp [HandlerEvent.reads, hdrop]
      rw [hreads]
      exact h
  | strayEnd exit abnormal answer hdrop hstack =>
      -- an end with neither a frame nor a dropped begin is not orderly
      cases e <;> cases hevent
      simp [orderly, ofRecorder, hdrop, hstack] at horderly
  | emitEnd exit abnormal answer frame stack hdrop hstack =>
      have hreads : (e.reads r).length = 1 := by
        cases e <;> cases hevent
        simp [HandlerEvent.reads, hdrop]
      have hafter : (r.afterEmit stack (frame.intoCallRecord exit abnormal)).trace.stack = stack :=
        rfl
      rw [Recorder.emitted_flushIfDue, Recorder.emitted_afterEmit, Recorder.stack_flushIfDue,
        hafter, hreads, List.length_append, List.length_singleton]
      rw [hstack, List.length_cons] at h
      omega
  | budget bytes =>
      have hreads : e.reads r = [] := by cases e <;> cases hevent; rfl
      rw [hreads]
      exact h

/-- The frames that are still open share one reading. -/
theorem Frugal.rshutdown (h : (ofRecorder captures r).Frugal) (clocks : Clocks)
    (answer : TrySend) :
    (ofReleased (captures ++ (HandlerEvent.rshutdown clocks answer).reads r)
      (r.rshutdownReleaseTrace (.captureNow mode clocks) answer)).Frugal := by
  rw [frugal_ofRecorder] at h
  rw [frugal_ofReleased, Recorder.calls_rshutdownReleaseTrace, List.length_append,
    List.length_append, List.length_map]
  cases hstack : r.trace.stack with
  | nil =>
      have hreads : (HandlerEvent.rshutdown clocks answer).reads r = [] := by
        simp [HandlerEvent.reads, hstack]
      rw [hreads]
      simpa [hstack] using h
  | cons frame stack =>
      have hreads : ((HandlerEvent.rshutdown clocks answer).reads r).length = 1 := by
        simp [HandlerEvent.reads, hstack]
      rw [hreads, List.length_cons]
      rw [hstack, List.length_cons] at h
      omega

theorem Frugal.step (h : s.Frugal) {e : HandlerEvent} (horderly : s.orderly e = true)
    (hstep : s.step mode e = some s') : s'.Frugal := by
  cases hcurrent : s.current with
  | none =>
      cases e with
      | rinit rinit =>
          cases hstep
          have hlower := h.lower
          have hupper := h.upper
          unfold records openFrames at hlower hupper
          rw [hcurrent] at hlower hupper
          exact ⟨hlower, hupper⟩
      | budget bytes =>
          cases hstep
          exact ⟨h.lower, h.upper⟩
      | beginCall | endCall | rshutdown =>
          simp only [Handlers.step, beginHandler, endHandler, rshutdownReleaseTrace, hcurrent]
            at hstep
          cases hstep
          exact h
  | some trace =>
      rw [eq_ofRecorder hcurrent] at h horderly hstep
      cases hevent : e.recorded mode with
      | some event =>
          rw [step_eq hevent] at hstep
          obtain ⟨r', hr', rfl⟩ := Option.map_eq_some_iff.mp hstep
          exact h.recorded hevent horderly hr'
      | none =>
          cases e with
          | rinit rinit => cases horderly
          | rshutdown clocks answer =>
              cases hstep
              exact h.rshutdown clocks answer
          | beginCall | endCall | budget => cases hevent

/-- **A call that is dropped reads no clock**: in orderly requests there are one or two readings
for each record, and one for each frame that is still open. -/
theorem at_most_two_readings_a_record {shared : Shared} {es : List HandlerEvent}
    (h : run (step mode) (start shared) es = some s)
    (horderly : Along (step mode) (fun s e => s.orderly e = true) (start shared) es) :
    s.records + s.openFrames ≤ s.captures.length ∧
      s.captures.length ≤ 2 * s.records + s.openFrames := by
  have hfrugal : s.Frugal :=
    run_invariant_along (I := Frugal) (fun _ e _ _ ho hstep hs => hs.step ho hstep) h horderly
      ⟨Nat.le_refl _, Nat.le_refl _⟩
  exact ⟨hfrugal.lower, hfrugal.upper⟩

def clocksAt (ns : ℤ) : Clocks where
  monotonic := { tvSec := 0, tvNsec := ns }
  utime := { tvSec := 0, tvUsec := 0 }
  stime := { tvSec := 0, tvUsec := 0 }
  memory := 0

/-- A call whose callee is dropped at the depth limit, and a call that `RSHUTDOWN` closes. -/
def droppedCallee : List HandlerEvent :=
  [.rinit (rinitWith ⟨1, 4096, 8, 4096⟩), .beginCall (clocksAt 1) (callSiteOf "f"),
    .beginCall (clocksAt 2) (callSiteOf "g"), .endCall (clocksAt 3) false .ok,
    .endCall (clocksAt 4) false .ok, .beginCall (clocksAt 5) (callSiteOf "h"),
    .rshutdown (clocksAt 6) .ok]

theorem at_most_two_readings_a_record_dropped :
    ∃ s, run (step .perCall) (start Shared.init) droppedCallee = some s ∧
      s.captures = [clocksAt 1, clocksAt 4, clocksAt 5, clocksAt 6] ∧
      s.records + s.openFrames ≤ 4 ∧ 4 ≤ 2 * s.records + s.openFrames := by
  have hrun : run (step .perCall) (start Shared.init) droppedCallee =
      some ((run (step .perCall) (start Shared.init) droppedCallee).get (by decide +kernel)) :=
    (Option.some_get _).symm
  have hcaptures : ((run (step .perCall) (start Shared.init) droppedCallee).get
      (by decide +kernel)).captures = [clocksAt 1, clocksAt 4, clocksAt 5, clocksAt 6] := by
    decide +kernel
  obtain ⟨hlower, hupper⟩ := at_most_two_readings_a_record hrun (by decide +kernel)
  rw [hcaptures] at hlower hupper
  exact ⟨_, hrun, hcaptures, hlower, hupper⟩

end Handlers

end PhpAnalyze
