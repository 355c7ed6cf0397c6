import PhpAnalyze.Lib.Bracket
import PhpAnalyze.Lib.Machine
import PhpAnalyze.Observer

/-! # The recorder as a machine

The events of the recorder (`Event`) are an observed begin or end and a change of the
budget by another thread; the call site, the snapshots and the answer of `try_send` are
part of the event.  `Recorder.step` dispatches to the handlers.

`Step` lists the six things one event can do (`step_cases`), and every invariant of the
recorder is an analysis of these six cases. -/

namespace PhpAnalyze

open Machine

inductive Event where
  /-- An observed begin, on one of the two paths. -/
  | beginCall (path : BeginPath) (site : RawCallSite) (entry : EntrySnapshots)
  /-- An observed end; `answer` is for the batch that it flushes, if it flushes one. -/
  | endCall (exit : ExitSnapshots) (abnormal : Bool) (answer : TrySend)
  /-- Another thread changed `BYTES_IN_MEMORY`. -/
  | budget (bytes : ℕ)
deriving DecidableEq, Repr

def Event.mark : Event → Bracket.Mark
  | .beginCall .. => .opening
  | .endCall .. => .closing
  | .budget _ => .neutral

def Event.isBegin : Event → Bool
  | .beginCall .. => true
  | _ => false

theorem Event.mark_of_isBegin {e : Event} (h : e.isBegin = true) : e.mark = .opening := by
  cases e with
  | beginCall => rfl
  | endCall => cases h
  | budget => cases h

/-- The trace with the frame of a begin that passed the gate, whose dictionary push billed
`bytes`. -/
def Trace.pushFrame (t : Trace) (fnId : ℕ) (entry : EntrySnapshots) (dictionary : Dictionary)
    (bytes : ℕ) : Trace :=
  { t with
    callIdSeq := t.callIdSeq + 1
    dictionary := dictionary
    bufferEstimatedBytes := t.bufferEstimatedBytes + bytes
    stack :=
      { callId := t.callIdSeq + 1
        parent := t.parent
        fnId := fnId
        depth := (t.virtualDepth - 1) % 2 ^ 16
        tInNs := entry.tInNs
        cpuUInNs := entry.cpuUInNs
        cpuSInNs := entry.cpuSInNs
        memInBytes := entry.memInBytes } :: t.stack }

namespace Recorder

/-- The state after `RINIT` on a thread without a trace. -/
def start (shared : Shared) (rinit : Rinit) : Recorder where
  toWorker := rinitAllocateTrace none shared rinit
  handed := []

def step (r : Recorder) : Event → Option Recorder
  | .beginCall path site entry =>
      (beginOn path r.toWorker site entry).map fun w => { r with toWorker := w }
  | .endCall exit abnormal answer => some (r.endWithSnapshots exit abnormal answer)
  | .budget bytes => some { r with shared := { r.shared with bytesInMemory := bytes } }

def calls (r : Recorder) : List CallRecord := r.handed.flatMap fun h => h.1.calls

def dicts (r : Recorder) : List DictEntry := r.handed.flatMap fun h => h.1.dict

/-- The records the trace has made so far, handed off or still in the buffer. -/
def emitted (r : Recorder) : List CallRecord := r.calls ++ r.trace.buffer

/-- The entries the trace has staged so far, handed off or not. -/
def stagedEntries (r : Recorder) : List DictEntry := r.dicts ++ r.trace.dictionary.newEntries

/-- The gates let a begin at this call site pass. -/
def accepts (r : Recorder) (path : BeginPath) (site : RawCallSite) : Bool :=
  (r.toWorker.wouldAccept (path.plan site).wouldAdd).1

/-- The cap gate drops the begin, which has passed the depth gate. -/
def capDropsBegin : Recorder → Event → Bool
  | r, .beginCall path site _ =>
      decide (saturatingSucc r.trace.virtualDepth ≤ r.trace.maxDepth) && !r.accepts path site
  | _, _ => false

def afterDrop (r : Recorder) : Recorder :=
  { r with toWorker := Worker.recordDrop { r.toWorker with
      trace := { r.trace with virtualDepth := saturatingSucc r.trace.virtualDepth } } }

def newFrame (r : Recorder) (fnId : ℕ) (entry : EntrySnapshots) : CallFrame where
  callId := r.trace.callIdSeq + 1
  parent := r.trace.parent
  fnId := fnId
  depth := (saturatingSucc r.trace.virtualDepth - 1) % 2 ^ 16
  tInNs := entry.tInNs
  cpuUInNs := entry.cpuUInNs
  cpuSInNs := entry.cpuSInNs
  memInBytes := entry.memInBytes

/-- After an accepted begin that left the dictionary `dictionary` and billed `bytes`. -/
def afterAccept (r : Recorder) (frame : CallFrame) (dictionary : Dictionary) (bytes : ℕ) :
    Recorder where
  trace := { r.trace with
    virtualDepth := saturatingSucc r.trace.virtualDepth
    callIdSeq := r.trace.callIdSeq + 1
    dictionary := dictionary
    bufferEstimatedBytes := r.trace.bufferEstimatedBytes + bytes
    stack := frame :: r.trace.stack }
  shared := r.shared.add bytes
  handed := r.handed

def afterConsume (r : Recorder) : Recorder :=
  { r with trace := { r.trace with
      virtualDepth := r.trace.virtualDepth - 1
      droppedBegins := r.trace.droppedBegins - 1 } }

def afterStray (r : Recorder) : Recorder :=
  { r with trace := { r.trace with virtualDepth := r.trace.virtualDepth - 1 } }

def afterEmit (r : Recorder) (stack : List CallFrame) (record : CallRecord) : Recorder where
  trace := { r.trace with
    virtualDepth := r.trace.virtualDepth - 1
    stack := stack
    buffer := r.trace.buffer ++ [record]
    bufferEstimatedBytes := r.trace.bufferEstimatedBytes + callRecordFixedBytes }
  shared := r.shared.add callRecordFixedBytes
  handed := r.handed

/-- The flush check at the tail of an end. -/
def flushIfDue (r : Recorder) (answer : TrySend) : Recorder :=
  match flushPredicateTrigger r.trace with
  | some _ => r.flushAndSend answer
  | none => r

/-- The bytes that the dictionary bills: the entry of a miss. -/
def billed (plan : BeginPlan) : ProbeOutcome → ℕ
  | .hit => 0
  | .miss => plan.missCost

/-- The six things that one event can do. -/
inductive Step (r : Recorder) : Event → Recorder → Prop
  | dropBegin (path site entry) (hgate : r.accepts path site = false) :
      Step r (.beginCall path site entry) r.afterDrop
  | acceptBegin (path site entry) (fnId outcome dictionary)
      (hgate : r.accepts path site = true)
      (hdict : r.trace.dictionary.internRef (path.plan site).keyRef (path.plan site).build =
        some (fnId, outcome, dictionary)) :
      Step r (.beginCall path site entry)
        (r.afterAccept (r.newFrame fnId entry) dictionary (billed (path.plan site) outcome))
  | consumeEnd (exit abnormal answer) (hdrop : 0 < r.trace.droppedBegins) :
      Step r (.endCall exit abnormal answer) r.afterConsume
  | strayEnd (exit abnormal answer) (hdrop : r.trace.droppedBegins = 0)
      (hstack : r.trace.stack = []) :
      Step r (.endCall exit abnormal answer) r.afterStray
  | emitEnd (exit abnormal answer) (frame stack) (hdrop : r.trace.droppedBegins = 0)
      (hstack : r.trace.stack = frame :: stack) :
      Step r (.endCall exit abnormal answer)
        ((r.afterEmit stack (frame.intoCallRecord exit abnormal)).flushIfDue answer)
  | budget (bytes) :
      Step r (.budget bytes) { r with shared := { r.shared with bytesInMemory := bytes } }

theorem accepts_iff {r : Recorder} {path : BeginPath} {site : RawCallSite} :
    r.accepts path site = true ↔
      saturatingSucc r.trace.virtualDepth ≤ r.trace.maxDepth ∧
        saturatingAddUsize r.shared.snapshot ((path.plan site).wouldAdd r.trace) ≤
          r.trace.bufferCapBytes :=
  Worker.wouldAccept_fst_iff

/-- Behind the depth gate a begin that the cap gate does not drop is accepted. -/
theorem accepts_of_capDropsBegin {r : Recorder} {path : BeginPath} {site : RawCallSite}
    {entry : EntrySnapshots} (hlimit : saturatingSucc r.trace.virtualDepth ≤ r.trace.maxDepth)
    (hcap : r.capDropsBegin (.beginCall path site entry) = false) : r.accepts path site = true := by
  rw [capDropsBegin, decide_eq_true hlimit, Bool.true_and] at hcap
  simpa using hcap

/-- The dictionary push bills exactly what the plan projects for the outcome. -/
theorem pushDictEntryViaInternRef_eq (w : Worker) (plan : BeginPlan) :
    w.pushDictEntryViaInternRef plan.keyRef plan.build =
      (w.trace.dictionary.internRef plan.keyRef plan.build).map fun (fnId, outcome, dictionary) =>
        (fnId,
          { trace := { w.trace with
              dictionary := dictionary
              bufferEstimatedBytes := w.trace.bufferEstimatedBytes + billed plan outcome }
            shared := w.shared.add (billed plan outcome) }) := by
  unfold Worker.pushDictEntryViaInternRef
  cases hd : w.trace.dictionary.internRef plan.keyRef plan.build with
  | none => rfl
  | some p =>
      obtain ⟨fnId, outcome, dictionary⟩ := p
      cases outcome with
      | hit =>
          obtain ⟨-, -, rfl⟩ | ⟨-, -, -, hbad, -⟩ := Dictionary.internRef_eq_some.mp hd
          · rfl
          · cases hbad
      | miss => simp only [plan.build_bytes, Option.map_some, billed]

/-- The accept tail checks the two counters, interns, and pushes a frame. -/
theorem acceptBegin_eq (w : Worker) (plan : BeginPlan) (entry : EntrySnapshots) :
    w.acceptBegin plan.keyRef plan.build entry =
      if w.trace.callIdSeq + 1 < 2 ^ 64 then
        (w.trace.dictionary.internRef plan.keyRef plan.build).map fun (fnId, outcome, dictionary) =>
          ⟨w.trace.pushFrame fnId entry dictionary (billed plan outcome),
            w.shared.add (billed plan outcome)⟩
      else none := by
  unfold Worker.acceptBegin Trace.nextCallId
  by_cases hid : w.trace.callIdSeq + 1 < 2 ^ 64
  · simp only [hid, ↓reduceIte, pushDictEntryViaInternRef_eq]
    cases w.trace.dictionary.internRef plan.keyRef plan.build <;> rfl
  · simp only [hid, ↓reduceIte]

theorem acceptBegin_deepen (r : Recorder) (plan : BeginPlan) (entry : EntrySnapshots) :
    r.toWorker.deepen.acceptBegin plan.keyRef plan.build entry =
      if r.trace.callIdSeq + 1 < 2 ^ 64 then
        (r.trace.dictionary.internRef plan.keyRef plan.build).map fun (fnId, outcome, dictionary) =>
          (r.afterAccept (r.newFrame fnId entry) dictionary (billed plan outcome)).toWorker
      else none :=
  acceptBegin_eq r.toWorker.deepen plan entry

theorem step_begin_rejected {r : Recorder} {path : BeginPath} {site : RawCallSite}
    (hgate : r.accepts path site = false) (entry : EntrySnapshots) :
    r.step (.beginCall path site entry) = some r.afterDrop := by
  have hfst : (r.toWorker.wouldAccept (path.plan site).wouldAdd).1 = false := hgate
  simp only [step, beginOn_eq, Worker.beginPlanned, Worker.wouldAccept_snd, hfst,
    Bool.false_eq_true, ↓reduceIte]
  rfl

theorem step_begin_accepted {r : Recorder} {path : BeginPath} {site : RawCallSite}
    (hgate : r.accepts path site = true) (entry : EntrySnapshots) :
    r.step (.beginCall path site entry) =
      if r.trace.callIdSeq + 1 < 2 ^ 64 then
        (r.trace.dictionary.internRef (path.plan site).keyRef (path.plan site).build).map
          fun (fnId, outcome, dictionary) =>
            r.afterAccept (r.newFrame fnId entry) dictionary (billed (path.plan site) outcome)
      else none := by
  have hfst : (r.toWorker.wouldAccept (path.plan site).wouldAdd).1 = true := hgate
  simp only [step, beginOn_eq, Worker.beginPlanned, Worker.wouldAccept_snd, hfst, ↓reduceIte,
    acceptBegin_deepen]
  split
  · rw [Option.map_map]
    rfl
  · rfl

theorem step_begin {r r' : Recorder} {path : BeginPath} {site : RawCallSite}
    {entry : EntrySnapshots} (h : r.step (.beginCall path site entry) = some r') :
    Step r (.beginCall path site entry) r' := by
  cases hgate : r.accepts path site with
  | false =>
      rw [step_begin_rejected hgate] at h
      cases h
      exact Step.dropBegin path site entry hgate
  | true =>
      rw [step_begin_accepted hgate] at h
      split at h
      · obtain ⟨⟨fnId, outcome, dictionary⟩, hdict, rfl⟩ := Option.map_eq_some_iff.mp h
        exact Step.acceptBegin path site entry fnId outcome dictionary hgate hdict
      · cases h

theorem endWithSnapshotsAccept_of_nil {r : Recorder} (hstack : r.trace.stack = [])
    (exit : ExitSnapshots) (abnormal : Bool) (answer : TrySend) :
    r.endWithSnapshotsAccept exit abnormal answer = r := by
  unfold endWithSnapshotsAccept
  rw [hstack]
  rfl

theorem endWithSnapshotsAccept_of_cons {r : Recorder} {frame : CallFrame} {stack : List CallFrame}
    (hstack : r.trace.stack = frame :: stack) (exit : ExitSnapshots) (abnormal : Bool)
    (answer : TrySend) :
    r.endWithSnapshotsAccept exit abnormal answer =
      ({ r with trace := { r.trace with stack } } : Recorder).finishCallRecord (some frame) exit
        abnormal answer := by
  unfold endWithSnapshotsAccept
  rw [hstack]

theorem step_end (r : Recorder) (exit : ExitSnapshots) (abnormal : Bool) (answer : TrySend) :
    Step r (.endCall exit abnormal answer) (r.endWithSnapshots exit abnormal answer) := by
  unfold endWithSnapshots endWouldAccept
  by_cases hdrop : 0 < r.trace.droppedBegins
  · simp only [hdrop, ↓reduceIte]
    exact Step.consumeEnd exit abnormal answer hdrop
  · have hzero : r.trace.droppedBegins = 0 := Nat.eq_zero_of_not_pos hdrop
    simp only [hdrop, ↓reduceIte]
    show Step r _ (r.afterStray.endWithSnapshotsAccept exit abnormal answer)
    cases hstack : r.trace.stack with
    | nil =>
        rw [endWithSnapshotsAccept_of_nil (r := r.afterStray) hstack]
        exact Step.strayEnd exit abnormal answer hzero hstack
    | cons frame stack =>
        rw [endWithSnapshotsAccept_of_cons (r := r.afterStray) hstack]
        exact Step.emitEnd exit abnormal answer frame stack hzero hstack

/-- **The six cases of a step.** -/
theorem step_cases {r r' : Recorder} {e : Event} (h : r.step e = some r') : Step r e r' := by
  cases e with
  | beginCall path site entry => exact step_begin h
  | endCall exit abnormal answer =>
      cases h
      exact step_end r exit abnormal answer
  | budget bytes =>
      cases h
      exact Step.budget bytes

/-! ### What a flush changes -/

section flush

variable (r : Recorder) (answer : TrySend)

@[simp] theorem emitted_flushAndSend : (r.flushAndSend answer).emitted = r.emitted := by
  simp [emitted, calls, flushAndSend, Trace.flushIntoPendingBatch]

@[simp] theorem stagedEntries_flushAndSend :
    (r.flushAndSend answer).stagedEntries = r.stagedEntries := by
  simp [stagedEntries, dicts, flushAndSend, Trace.flushIntoPendingBatch, Dictionary.takeNewEntries]

@[simp] theorem stack_flushAndSend : (r.flushAndSend answer).trace.stack = r.trace.stack := rfl

@[simp] theorem buffer_flushAndSend : (r.flushAndSend answer).trace.buffer = [] := rfl

/-- A flush hands off one batch, or none when no threshold is reached. -/
theorem flushIfDue_eq_or :
    r.flushIfDue answer = r ∨ r.flushIfDue answer = r.flushAndSend answer := by
  unfold flushIfDue
  split
  · exact .inr rfl
  · exact .inl rfl

/-- What every flush preserves, the flush check preserves. -/
theorem flushIfDue_preserves {α : Type*} {f : Recorder → α}
    (h : f (r.flushAndSend answer) = f r) : f (r.flushIfDue answer) = f r := by
  rcases r.flushIfDue_eq_or answer with hr | hr <;> rw [hr]
  exact h

@[simp] theorem emitted_flushIfDue : (r.flushIfDue answer).emitted = r.emitted :=
  r.flushIfDue_preserves answer (r.emitted_flushAndSend answer)

@[simp] theorem stack_flushIfDue : (r.flushIfDue answer).trace.stack = r.trace.stack :=
  r.flushIfDue_preserves (f := fun r => r.trace.stack) answer rfl

@[simp] theorem callIdSeq_flushIfDue :
    (r.flushIfDue answer).trace.callIdSeq = r.trace.callIdSeq :=
  r.flushIfDue_preserves (f := fun r => r.trace.callIdSeq) answer rfl

@[simp] theorem virtualDepth_flushIfDue :
    (r.flushIfDue answer).trace.virtualDepth = r.trace.virtualDepth :=
  r.flushIfDue_preserves (f := fun r => r.trace.virtualDepth) answer rfl

@[simp] theorem droppedBegins_flushIfDue :
    (r.flushIfDue answer).trace.droppedBegins = r.trace.droppedBegins :=
  r.flushIfDue_preserves (f := fun r => r.trace.droppedBegins) answer rfl

@[simp] theorem internMap_flushIfDue :
    (r.flushIfDue answer).trace.dictionary.internMap = r.trace.dictionary.internMap :=
  r.flushIfDue_preserves (f := fun r => r.trace.dictionary.internMap) answer rfl

@[simp] theorem nextFnId_flushIfDue :
    (r.flushIfDue answer).trace.dictionary.nextFnId = r.trace.dictionary.nextFnId :=
  r.flushIfDue_preserves (f := fun r => r.trace.dictionary.nextFnId) answer rfl

end flush

section emitted

variable (r : Recorder)

@[simp] theorem emitted_start (shared : Shared) (rinit : Rinit) :
    (start shared rinit).emitted = [] := rfl

@[simp] theorem maxDepth_start (shared : Shared) (rinit : Rinit) :
    (start shared rinit).trace.maxDepth = rinit.limits.maxDepth := rfl

@[simp] theorem stack_start (shared : Shared) (rinit : Rinit) :
    (start shared rinit).trace.stack = [] := rfl

@[simp] theorem callIdSeq_start (shared : Shared) (rinit : Rinit) :
    (start shared rinit).trace.callIdSeq = 0 := rfl

@[simp] theorem emitted_afterConsume : r.afterConsume.emitted = r.emitted := rfl

@[simp] theorem emitted_afterStray : r.afterStray.emitted = r.emitted := rfl

@[simp] theorem emitted_afterEmit (stack : List CallFrame) (record : CallRecord) :
    (r.afterEmit stack record).emitted = r.emitted ++ [record] := by
  simp [emitted, calls, afterEmit]

end emitted

/-! ### Limits -/

theorem limits_step {r r' : Recorder} {e : Event} (h : r.step e = some r') :
    r'.trace.limits = r.trace.limits := by
  cases step_cases h with
  | dropBegin | acceptBegin | consumeEnd | strayEnd | budget => rfl
  | emitEnd => exact flushIfDue_preserves (f := fun r => r.trace.limits) _ _ rfl

theorem maxDepth_step {r r' : Recorder} {e : Event} (h : r.step e = some r') :
    r'.trace.maxDepth = r.trace.maxDepth := congrArg TraceLimits.maxDepth (limits_step h)

theorem limits_run {r r' : Recorder} {es : List Event} (h : run step r es = some r') :
    r'.trace.limits = r.trace.limits :=
  run_invariant (I := fun s => s.trace.limits = r.trace.limits)
    (fun _ _ _ hstep hs => (limits_step hstep).trans hs) h rfl

theorem maxDepth_run {shared : Shared} {rinit : Rinit} {es : List Event} {r : Recorder}
    (h : run step (start shared rinit) es = some r) :
    r.trace.maxDepth = rinit.limits.maxDepth := congrArg TraceLimits.maxDepth (limits_run h)

/-- A cap of `usize::MAX` turns the cap gate off. -/
theorem capDropsBegin_of_max {r : Recorder} (h : r.trace.bufferCapBytes = 2 ^ 64 - 1)
    (e : Event) : r.capDropsBegin e = false := by
  cases e with
  | beginCall path site entry =>
      have hroom : saturatingAddUsize r.shared.snapshot ((path.plan site).wouldAdd r.trace) ≤
          r.trace.bufferCapBytes := by
        rw [h]
        exact Nat.min_le_right _ _
      rw [capDropsBegin, Bool.and_eq_false_imp, decide_eq_true_iff]
      intro hlevel
      rw [accepts_iff.mpr ⟨hlevel, hroom⟩]
      rfl
  | endCall => rfl
  | budget => rfl

theorem tally_capDropsBegin_of_max (shared : Shared) {rinit : Rinit}
    (h : rinit.limits.bufferCapBytes = 2 ^ 64 - 1) (es : List Event) :
    tally step capDropsBegin (start shared rinit) es = 0 := by
  refine tally_eq_zero_iff.mpr (along_iff.mpr fun pre e post r hes hrun => ?_)
  have hlimits := congrArg TraceLimits.bufferCapBytes (limits_run hrun)
  exact capDropsBegin_of_max (hlimits.trans h) e

/-! ### Short runs do not panic -/

theorem exists_step {r : Recorder} (hid : r.trace.callIdSeq + 1 < 2 ^ 64)
    (hfn : r.trace.dictionary.nextFnId < u32Max) (e : Event) : ∃ r', r.step e = some r' := by
  cases e with
  | beginCall path site entry =>
      cases hgate : r.accepts path site with
      | false => exact ⟨_, step_begin_rejected hgate entry⟩
      | true =>
          obtain ⟨fnId, outcome, dictionary, hdict⟩ := Dictionary.exists_internRef_of_lt hfn
            (path.plan site).keyRef (path.plan site).build
          rw [step_begin_accepted hgate, if_pos hid, hdict]
          exact ⟨_, rfl⟩
  | endCall => exact ⟨_, rfl⟩
  | budget => exact ⟨_, rfl⟩

/-- An event takes at most one id of each counter. -/
theorem ids_step {r r' : Recorder} {e : Event} (h : r.step e = some r') :
    r'.trace.callIdSeq ≤ r.trace.callIdSeq + 1 ∧
      r'.trace.dictionary.nextFnId ≤ r.trace.dictionary.nextFnId + 1 := by
  cases step_cases h with
  | dropBegin | consumeEnd | strayEnd | budget => exact ⟨Nat.le_succ _, Nat.le_succ _⟩
  | acceptBegin path site entry fnId outcome dictionary hgate hdict =>
      exact ⟨Nat.le_refl _, Dictionary.nextFnId_internRef_le hdict⟩
  | emitEnd =>
      rw [callIdSeq_flushIfDue, nextFnId_flushIfDue]
      exact ⟨Nat.le_succ _, Nat.le_succ _⟩

/-- A run that is too short to use up the `fn_id`s does not panic. -/
theorem exists_run (shared : Shared) (rinit : Rinit) {es : List Event} (h : es.length < u32Max) :
    ∃ r, run step (start shared rinit) es = some r := by
  suffices ∃ r, run step (start shared rinit) es = some r ∧ r.trace.callIdSeq ≤ es.length ∧
      r.trace.dictionary.nextFnId ≤ es.length + 1 by
    obtain ⟨r, hrun, -⟩ := this
    exact ⟨r, hrun⟩
  induction es using List.reverseRecOn with
  | nil => exact ⟨_, rfl, Nat.le_refl _, Nat.le_refl _⟩
  | append_singleton es e ih =>
      rw [List.length_append, List.length_singleton] at h ⊢
      obtain ⟨r, hrun, hid, hfn⟩ := ih (by omega)
      obtain ⟨r', hstep⟩ := exists_step (r := r) (by unfold u32Max at h; omega) (by omega) e
      obtain ⟨hid', hfn'⟩ := ids_step hstep
      exact ⟨r', run_snoc_eq_some.mpr ⟨r, hrun, hstep⟩, by omega, by omega⟩

/-! ### What `RSHUTDOWN` leaves -/

/-- The loop moves the frames, top first, into the buffer as abnormal exits. -/
theorem drainFrames_eq (exit : ExitSnapshots) (stack : List CallFrame) (w : Worker) :
    drainFrames exit stack { w with trace := { w.trace with stack } } =
      { trace := { w.trace with
          stack := []
          buffer := w.trace.buffer ++ stack.map fun frame => frame.intoCallRecord exit true
          bufferEstimatedBytes :=
            w.trace.bufferEstimatedBytes + stack.length * callRecordFixedBytes }
        shared := w.shared.add (stack.length * callRecordFixedBytes) } := by
  induction stack generalizing w with
  | nil => simp [drainFrames, Shared.add]
  | cons frame stack ih =>
      have h := ih (w.pushRecord (frame.intoCallRecord exit true))
      simp only [Worker.pushRecord, Shared.add, List.append_assoc, List.singleton_append,
        Nat.add_assoc] at h
      simp only [Shared.add, List.map_cons, List.length_cons, Nat.succ_mul,
        Nat.add_comm (stack.length * _)]
      exact h

/-- The recorder after the drain loop of `RSHUTDOWN`. -/
def drained (r : Recorder) (exit : ExitSnapshots) : Recorder where
  trace := { r.trace with
    stack := []
    buffer := r.trace.buffer ++ r.trace.stack.map fun frame => frame.intoCallRecord exit true
    bufferEstimatedBytes :=
      r.trace.bufferEstimatedBytes + r.trace.stack.length * callRecordFixedBytes }
  shared := r.shared.add (r.trace.stack.length * callRecordFixedBytes)
  handed := r.handed

/-- The recorder after the final flush of `RSHUTDOWN`. -/
def flushed (r : Recorder) (answer : TrySend) : Recorder :=
  if r.trace.buffer.isEmpty then r else r.flushAndSend answer

variable (r : Recorder) (exit : ExitSnapshots) (answer : TrySend)

/-- `RSHUTDOWN` drains, flushes and returns the residual. -/
theorem rshutdownReleaseTrace_eq :
    r.rshutdownReleaseTrace exit answer =
      { (r.drained exit).flushed answer with
        shared := ((r.drained exit).flushed answer).shared.sub
          ((r.drained exit).flushed answer).trace.bufferEstimatedBytes } := by
  have h := drainFrames_eq exit r.trace.stack r.toWorker
  unfold rshutdownReleaseTrace drainOpenFramesIntoBuffer
  rw [show r.toWorker = { r.toWorker with trace := { r.trace with stack := r.trace.stack } } from
    rfl, h]
  rfl

@[simp] theorem emitted_drained :
    (r.drained exit).emitted =
      r.emitted ++ r.trace.stack.map fun frame => frame.intoCallRecord exit true := by
  simp [emitted, calls, drained]

@[simp] theorem emitted_flushed : (r.flushed answer).emitted = r.emitted := by
  unfold flushed
  split <;> simp

@[simp] theorem buffer_flushed : (r.flushed answer).trace.buffer = [] := by
  unfold flushed
  split
  · exact List.isEmpty_iff.mp ‹_›
  · rfl

/-- After `RSHUTDOWN` every record of the trace is in a batch that was handed off. -/
theorem calls_rshutdownReleaseTrace :
    (r.rshutdownReleaseTrace exit answer).calls =
      r.emitted ++ r.trace.stack.map fun frame => frame.intoCallRecord exit true := by
  rw [← emitted_drained, ← emitted_flushed (r.drained exit) answer, emitted, buffer_flushed,
    List.append_nil, rshutdownReleaseTrace_eq]
  rfl

/-! ### Counting the begins of a run -/

def acceptsBegin : Recorder → Event → Bool
  | r, .beginCall path site _ => r.accepts path site
  | _, _ => false

def dropsBegin : Recorder → Event → Bool
  | r, .beginCall path site _ => !r.accepts path site
  | _, _ => false

theorem isBegin_eq (r : Recorder) (e : Event) :
    (if e.isBegin then 1 else 0) =
      (if r.acceptsBegin e then 1 else 0) + if r.dropsBegin e then 1 else 0 := by
  cases e with
  | beginCall path site entry =>
      cases h : r.accepts path site <;> simp [Event.isBegin, acceptsBegin, dropsBegin, h]
  | endCall => rfl
  | budget => rfl

/-- Every observed begin is accepted or dropped. -/
theorem countP_isBegin {r₀ r : Recorder} {es : List Event} (h : run step r₀ es = some r) :
    es.countP Event.isBegin = tally step acceptsBegin r₀ es + tally step dropsBegin r₀ es := by
  refine run_induction (P := fun es _ => es.countP Event.isBegin =
    tally step acceptsBegin r₀ es + tally step dropsBegin r₀ es) rfl ?_ h
  intro es r e r' hrun ih hstep
  have := isBegin_eq r e
  rw [tally_snoc _ hrun, tally_snoc _ hrun, List.countP_append, List.countP_singleton]
  omega

end Recorder

/-! ### Values for concrete runs -/

/-- A user function that is known by its name alone. -/
def callSiteOf (name : String) : RawCallSite where
  functionName := some name
  className := none
  filename := none
  lineno := 0
  isInternal := false
  executeDataAddr := 0

def entryAt (tInNs : ℤ) : EntrySnapshots where
  tInNs := tInNs
  cpuUInNs := 0
  cpuSInNs := 0
  memInBytes := 0

def exitAt (tOutNs : ℤ) : ExitSnapshots where
  tOutNs := tOutNs
  cpuUNowNs := 0
  cpuSNowNs := 0
  memOutBytes := 0

/-- A begin of the named function on the production path. -/
def beginOf (name : String) (tInNs : ℤ) : Event :=
  .beginCall .lazy (callSiteOf name) (entryAt tInNs)

/-- A normal end; the channel takes the batch, if there is one. -/
def endAt (tOutNs : ℤ) : Event := .endCall (exitAt tOutNs) false .ok

def rinitWith (limits : TraceLimits) : Rinit where
  identity := { host := "host", sapi := "cli", pid := 1, uriOrScript := "index.php" }
  limits := limits
  startTimeRealtimeNs := 0
  dropCounter := 0

end PhpAnalyze
