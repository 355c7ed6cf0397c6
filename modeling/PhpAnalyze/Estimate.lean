import PhpAnalyze.DictPartition

/-! # The size estimate

The estimate of a trace is kept in two ways.  `bufferEstimatedBytes` grows with every push
and is reset by a flush; `estimateBatchBytes` walks the contents.  `Trace.Estimated` says
that they agree.  Every operation that stages something keeps it, so every reachable trace
has it, and a batch leaves with the estimate of its own contents.

Before a begin is accepted, the cap gate projects what the call is going to cost
(`lazyWouldAdd` on the production path).  The projection splits into what the accept tail
bills at once and what the record of the call bills when it is pushed. -/

namespace PhpAnalyze

open Machine

/-- The running estimate is the estimate of what is staged. -/
def Trace.Estimated (t : Trace) : Prop :=
  t.bufferEstimatedBytes = estimateBatchBytes t.dictionary.newEntries t.buffer

/-- What the debug assertion of `flushIntoPendingBatch` checks. -/
def PendingBatch.Estimated (batch : PendingBatch) : Prop :=
  batch.sizeEstimate = estimateBatchBytes batch.dict batch.calls

theorem estimateBatchBytes_nil : estimateBatchBytes [] [] = 0 := rfl

theorem estimateBatchBytes_snoc_entry (dict : List DictEntry) (entry : DictEntry)
    (calls : List CallRecord) :
    estimateBatchBytes (dict ++ [entry]) calls = estimateBatchBytes dict calls + entry.bytes := by
  simp only [estimateBatchBytes, List.map_append, List.map_cons, List.map_nil, List.sum_append,
    List.sum_cons, List.sum_nil, Nat.add_zero]
  omega

theorem estimateBatchBytes_append_calls (dict : List DictEntry) (calls more : List CallRecord) :
    estimateBatchBytes dict (calls ++ more) =
      estimateBatchBytes dict calls + more.length * callRecordFixedBytes := by
  simp only [estimateBatchBytes, List.length_append, Nat.add_mul]
  omega

/-! ### The operations keep the estimate -/

theorem Trace.estimated_new (identity : RequestIdentity) (limits : TraceLimits)
    (startTimeRealtimeNs : ℤ) (dropCounter : ArcId) :
    (Trace.new identity limits startTimeRealtimeNs dropCounter).Estimated := rfl

theorem Trace.estimated_flush (t : Trace) : t.flushIntoPendingBatch.2.Estimated := rfl

theorem Trace.Estimated.batch {t : Trace} (h : t.Estimated) :
    t.flushIntoPendingBatch.1.Estimated := h

namespace Worker

variable {w w' : Worker}

theorem estimated_pushRecord (h : w.trace.Estimated) (record : CallRecord) :
    (w.pushRecord record).trace.Estimated := by
  unfold Trace.Estimated at h ⊢
  simp only [pushRecord, estimateBatchBytes_append_calls, h, List.length_singleton, Nat.one_mul]

/-- A hit stages nothing and bills nothing, a miss bills the entry that it stages. -/
theorem estimated_pushDictEntryViaInternRef (h : w.trace.Estimated) {keyRef : FunctionKeyRef}
    {build : ℕ → FunctionKey × DictEntry} {fnId : ℕ}
    (hpush : w.pushDictEntryViaInternRef keyRef build = some (fnId, w')) :
    w'.trace.Estimated := by
  unfold pushDictEntryViaInternRef at hpush
  cases hd : w.trace.dictionary.internRef keyRef build with
  | none =>
      rw [hd] at hpush
      cases hpush
  | some p =>
      obtain ⟨id, outcome, dictionary⟩ := p
      rw [hd] at hpush
      cases outcome with
      | hit =>
          cases hpush
          exact h
      | miss =>
          cases hpush
          obtain ⟨-, hbad, -⟩ | ⟨-, -, -, -, rfl⟩ := Dictionary.internRef_eq_some.mp hd
          · cases hbad
          · unfold Trace.Estimated at h ⊢
            simp only [Dictionary.stage, estimateBatchBytes_snoc_entry, h]

theorem pushDictEntryViaIntern_eq (w : Worker) (key : FunctionKey) (build : ℕ → DictEntry) :
    w.pushDictEntryViaIntern key build =
      w.pushDictEntryViaInternRef key.asRef fun fnId => (key, build fnId) := by
  unfold pushDictEntryViaIntern pushDictEntryViaInternRef
  rw [Dictionary.intern_eq, Dictionary.containsKey, Dictionary.probe_eq]
  cases hd : w.trace.dictionary.internRef key.asRef fun fnId => (key, build fnId) with
  | none => rfl
  | some p =>
      obtain ⟨fnId, outcome, dictionary⟩ := p
      obtain ⟨hp, rfl, rfl⟩ | ⟨hp, -, -, rfl, -⟩ := Dictionary.internRef_eq_some.mp hd
      · rw [hp]
        rfl
      · rw [hp]
        rfl

theorem estimated_pushDictEntryViaIntern (h : w.trace.Estimated) {key : FunctionKey}
    {build : ℕ → DictEntry} {fnId : ℕ}
    (hpush : w.pushDictEntryViaIntern key build = some (fnId, w')) : w'.trace.Estimated := by
  rw [pushDictEntryViaIntern_eq] at hpush
  exact estimated_pushDictEntryViaInternRef h hpush

end Worker

namespace Recorder

/-! ### Runs -/

structure Estimated (r : Recorder) : Prop where
  trace : r.trace.Estimated
  handed : ∀ b ∈ r.handed, b.1.Estimated

variable {r : Recorder}

theorem estimated_start (shared : Shared) (rinit : Rinit) : (start shared rinit).Estimated where
  trace := Trace.estimated_new _ _ _ _
  handed _ h := absurd h List.not_mem_nil

theorem Estimated.flushAndSend (h : r.Estimated) (answer : TrySend) :
    (r.flushAndSend answer).Estimated where
  trace := r.trace.estimated_flush
  handed b hb := by
    rcases List.mem_append.mp hb with hold | hnew
    · exact h.handed b hold
    · rw [List.mem_singleton.mp hnew]
      exact h.trace.batch

theorem Estimated.flushIfDue (h : r.Estimated) (answer : TrySend) :
    (r.flushIfDue answer).Estimated := by
  rcases r.flushIfDue_eq_or answer with hr | hr <;> rw [hr]
  · exact h
  · exact h.flushAndSend answer

theorem Estimated.afterEmit (h : r.Estimated) (stack : List CallFrame) (record : CallRecord) :
    (r.afterEmit stack record).Estimated where
  trace := Worker.estimated_pushRecord (w := r.toWorker) h.trace record
  handed := h.handed

theorem Estimated.afterAccept (h : r.Estimated) {plan : BeginPlan} {fnId : ℕ}
    {outcome : ProbeOutcome} {dictionary : Dictionary}
    (hdict : r.trace.dictionary.internRef plan.keyRef plan.build =
      some (fnId, outcome, dictionary)) (frame : CallFrame) :
    (r.afterAccept frame dictionary (billed plan outcome)).Estimated where
  trace := by
    have hpush := pushDictEntryViaInternRef_eq r.toWorker plan
    rw [hdict, Option.map_some] at hpush
    have hpushed := Worker.estimated_pushDictEntryViaInternRef h.trace hpush
    exact hpushed
  handed := h.handed

/-- **Step lemma.** -/
theorem Estimated.step {r' : Recorder} {e : Event} (h : r.Estimated)
    (hstep : r.step e = some r') : r'.Estimated := by
  cases step_cases hstep with
  | acceptBegin path site entry fnId outcome dictionary hgate hdict =>
      exact h.afterAccept hdict _
  | emitEnd exit abnormal answer frame stack =>
      exact (h.afterEmit stack (frame.intoCallRecord exit abnormal)).flushIfDue answer
  | dropBegin | consumeEnd | strayEnd | budget => exact ⟨h.trace, h.handed⟩

/-- **Run lemma.** -/
theorem estimated_run {shared : Shared} {rinit : Rinit} {es : List Event}
    (h : run step (start shared rinit) es = some r) : r.Estimated :=
  run_invariant (fun _ _ _ hstep hs => Estimated.step hs hstep) h (estimated_start shared rinit)

theorem Estimated.drained (h : r.Estimated) (exit : ExitSnapshots) :
    (r.drained exit).Estimated where
  trace := by
    have htrace := h.trace
    unfold Trace.Estimated at htrace ⊢
    simp only [Recorder.drained, estimateBatchBytes_append_calls, htrace, List.length_map]
  handed := h.handed

theorem Estimated.flushed (h : r.Estimated) (answer : TrySend) : (r.flushed answer).Estimated := by
  unfold Recorder.flushed
  split
  · exact h
  · exact h.flushAndSend answer

theorem Estimated.release (h : r.Estimated) (exit : ExitSnapshots) (answer : TrySend) :
    (r.rshutdownReleaseTrace exit answer).Estimated := by
  rw [rshutdownReleaseTrace_eq]
  have hflushed := (h.drained exit).flushed answer
  exact ⟨hflushed.trace, hflushed.handed⟩

/-- Nothing is left on the estimate after the final flush: no record, and no staged entry
either, since an entry waits only while a record or a frame does. -/
theorem Estimated.residual (h : r.Estimated) {sites : List AcceptedSite} (hlog : DictLog sites r)
    (exit : ExitSnapshots) (answer : TrySend) :
    (r.rshutdownReleaseTrace exit answer).trace.bufferEstimatedBytes = 0 := by
  have htrace := (h.release exit answer).trace
  have hstaged := (hlog.drained exit).newEntries_flushed rfl answer
  have hbuffer := buffer_flushed (r.drained exit) answer
  unfold Trace.Estimated at htrace
  rw [htrace, rshutdownReleaseTrace_eq]
  show estimateBatchBytes ((r.drained exit).flushed answer).trace.dictionary.newEntries
    ((r.drained exit).flushed answer).trace.buffer = 0
  rw [hstaged, hbuffer, estimateBatchBytes_nil]

/-- **The estimator is exact.**  For every run of a trace: the running estimate is the estimate
of what is staged, here and after the drain loop of `RSHUTDOWN`; every push, owned or borrowed,
and every flush keeps it so; the debug assertion of a flush holds of the batch that a flush
would make now and of every batch handed off, up to the last one of `RSHUTDOWN`; and the
residual that `RSHUTDOWN` subtracts after that flush is `0`. -/
theorem estimator_exact {shared : Shared} {rinit : Rinit} {es : List Event} {r : Recorder}
    (h : run step (start shared rinit) es = some r) (exit : ExitSnapshots) (answer : TrySend) :
    r.trace.bufferEstimatedBytes =
        estimateBatchBytes r.trace.dictionary.newEntries r.trace.buffer ∧
      (∀ record, (r.pushRecord record).trace.Estimated) ∧
      (∀ keyRef build fnId w', r.pushDictEntryViaInternRef keyRef build = some (fnId, w') →
        w'.trace.Estimated) ∧
      (∀ key build fnId w', r.pushDictEntryViaIntern key build = some (fnId, w') →
        w'.trace.Estimated) ∧
      r.trace.flushIntoPendingBatch.2.Estimated ∧
      r.trace.flushIntoPendingBatch.1.Estimated ∧
      (drainOpenFramesIntoBuffer r.toWorker exit).trace.Estimated ∧
      (∀ b ∈ (r.rshutdownReleaseTrace exit answer).handed,
        b.1.sizeEstimate = estimateBatchBytes b.1.dict b.1.calls) ∧
      (r.rshutdownReleaseTrace exit answer).trace.bufferEstimatedBytes = 0 := by
  have hr := estimated_run h
  refine ⟨hr.trace, Worker.estimated_pushRecord hr.trace,
    fun _ _ _ _ => Worker.estimated_pushDictEntryViaInternRef hr.trace,
    fun _ _ _ _ => Worker.estimated_pushDictEntryViaIntern hr.trace, Trace.estimated_flush _,
    hr.trace.batch, ?_, (hr.release exit answer).handed, hr.residual (dictLog_run h) exit answer⟩
  have hdrained : drainOpenFramesIntoBuffer r.toWorker exit = (r.drained exit).toWorker :=
    drainFrames_eq exit r.trace.stack r.toWorker
  rw [hdrained]
  exact (hr.drained exit).trace

/-- Two functions on the two paths, one mid-request flush and one open frame. -/
theorem estimator_exact_two_functions :
    ∃ r, run step (start Shared.init (rinitWith ⟨4, 4096, 1, 4096⟩))
        [.beginCall .owning (callSiteOf "f") (entryAt 1), beginOf "g" 2, endAt 3] = some r ∧
      r.trace.bufferEstimatedBytes =
        estimateBatchBytes r.trace.dictionary.newEntries r.trace.buffer ∧
      (r.rshutdownReleaseTrace (exitAt 4) .ok).trace.bufferEstimatedBytes = 0 := by
  have hrun := (Option.some_get (x := run step (start Shared.init (rinitWith ⟨4, 4096, 1, 4096⟩))
    [.beginCall .owning (callSiteOf "f") (entryAt 1), beginOf "g" 2, endAt 3]) (by decide)).symm
  have h := estimator_exact hrun (exitAt 4) .ok
  exact ⟨_, hrun, h.1, h.2.2.2.2.2.2.2.2⟩

end Recorder

/-! ### The projection of the cap gate -/

/-- `would_add` of `beginLazyWouldAccept`. -/
def lazyWouldAdd (t : Trace) (lazy : LazyCategorised) : ℕ :=
  if t.dictionary.containsKeyRef lazy.keyRef then callRecordFixedBytes
  else callRecordFixedBytes + dictEntryFixedBytes + lazy.fqnSpec.renderLen + lazy.file.utf8ByteSize

theorem lazyWouldAdd_eq (t : Trace) (lazy : LazyCategorised) :
    lazyWouldAdd t lazy = lazy.plan.wouldAdd t := by
  unfold lazyWouldAdd BeginPlan.wouldAdd LazyCategorised.plan
  split_ifs
  · rfl
  · simp only [Nat.add_assoc]

/-- The gate's probe is right about the outcome of the interning that follows. -/
theorem BeginPlan.wouldAdd_eq (plan : BeginPlan) {t : Trace} {fnId : ℕ} {outcome : ProbeOutcome}
    {dictionary : Dictionary}
    (h : t.dictionary.internRef plan.keyRef plan.build = some (fnId, outcome, dictionary)) :
    plan.wouldAdd t = callRecordFixedBytes + Recorder.billed plan outcome := by
  unfold BeginPlan.wouldAdd Dictionary.containsKeyRef
  obtain ⟨hp, rfl, -⟩ | ⟨hp, -, -, rfl, -⟩ := Dictionary.internRef_eq_some.mp h
  · rw [hp]
    rfl
  · rw [hp]
    rfl

/-- What an accepted begin bills at once, and the frame that it pushes. -/
theorem Worker.acceptBegin_eq_some {w w' : Worker} {plan : BeginPlan} {entry : EntrySnapshots}
    (h : w.acceptBegin plan.keyRef plan.build entry = some w') :
    ∃ outcome frame,
      w'.trace.stack = frame :: w.trace.stack ∧
      w'.trace.bufferEstimatedBytes =
        w.trace.bufferEstimatedBytes + Recorder.billed plan outcome ∧
      w'.shared = w.shared.add (Recorder.billed plan outcome) ∧
      plan.wouldAdd w.trace = callRecordFixedBytes + Recorder.billed plan outcome := by
  rw [Recorder.acceptBegin_eq] at h
  split at h
  · obtain ⟨⟨fnId, outcome, dictionary⟩, hdict, rfl⟩ := Option.map_eq_some_iff.mp h
    exact ⟨outcome, _, rfl, rfl, rfl, plan.wouldAdd_eq hdict⟩
  · cases h

/-- **The projection of the cap gate is exact.**  For every trace and every lazy call site:
`lazyWouldAdd` is what the gate compares with the cap; when the begin is accepted and recorded,
it is the bytes that the accept tail bills, to the trace and to the process, plus the bytes that
the record of the new frame bills whenever it is pushed; when the begin is rejected, nothing is
billed and nothing is staged.  The projected length of a name is the length of the name. -/
theorem lazy_projection_exact (w : Worker) (lazy : LazyCategorised) (entry : EntrySnapshots) :
    (beginLazyWouldAccept w lazy = w.wouldAccept fun t => lazyWouldAdd t lazy) ∧
      (∀ w', (beginLazyWouldAccept w lazy).1 = true →
        beginWithSnapshotsLazyAccept (beginLazyWouldAccept w lazy).2 lazy entry = some w' →
        ∃ frame atOnce atPush,
          lazyWouldAdd w.deepen.trace lazy = atOnce + atPush ∧
          w'.trace.stack = frame :: w.trace.stack ∧
          w'.trace.bufferEstimatedBytes = w.trace.bufferEstimatedBytes + atOnce ∧
          w'.shared.bytesInMemory = w.shared.bytesInMemory + atOnce ∧
          ∀ (later : Worker) (exit : ExitSnapshots) (abnormal : Bool),
            (later.pushRecord (frame.intoCallRecord exit abnormal)).trace.bufferEstimatedBytes =
                later.trace.bufferEstimatedBytes + atPush ∧
              (later.pushRecord (frame.intoCallRecord exit abnormal)).shared.bytesInMemory =
                later.shared.bytesInMemory + atPush) ∧
      ((beginLazyWouldAccept w lazy).1 = false →
        (beginLazyWouldAccept w lazy).2.shared.bytesInMemory = w.shared.bytesInMemory ∧
          (beginLazyWouldAccept w lazy).2.trace.dictionary = w.trace.dictionary ∧
          (beginLazyWouldAccept w lazy).2.trace.stack = w.trace.stack ∧
          (beginLazyWouldAccept w lazy).2.trace.buffer = w.trace.buffer ∧
          (beginLazyWouldAccept w lazy).2.trace.callIdSeq = w.trace.callIdSeq ∧
          (beginLazyWouldAccept w lazy).2.trace.bufferEstimatedBytes =
            w.trace.bufferEstimatedBytes) ∧
      ∀ spec : FqnSpec, spec.renderLen = spec.render.utf8ByteSize := by
  have hsnd : (beginLazyWouldAccept w lazy).2 =
      if (beginLazyWouldAccept w lazy).1 then w.deepen else w.deepen.recordDrop :=
    Worker.wouldAccept_snd
  refine ⟨rfl, fun w' haccept hw' => ?_, fun hreject => ?_, FqnSpec.renderLen_eq⟩
  · rw [hsnd, haccept, if_pos rfl] at hw'
    have haccepted : w.deepen.acceptBegin lazy.plan.keyRef lazy.plan.build _ = some w' := hw'
    obtain ⟨outcome, frame, hstack, hbytes, hshared, hadd⟩ :=
      Worker.acceptBegin_eq_some haccepted
    refine ⟨frame, Recorder.billed lazy.plan outcome, callRecordFixedBytes, ?_, hstack, hbytes,
      ?_, fun _ _ _ => ⟨rfl, rfl⟩⟩
    · rw [lazyWouldAdd_eq, hadd, Nat.add_comm]
    · rw [hshared]
      rfl
  · rw [hsnd, hreject, if_neg Bool.false_ne_true]
    exact ⟨rfl, rfl, rfl, rfl, rfl, rfl⟩

/-- A function on a fresh trace: a miss. -/
theorem lazy_projection_exact_miss :
    ∃ w' frame atOnce atPush,
      beginWithSnapshotsLazyAccept
          (beginLazyWouldAccept (rinitAllocateTrace none Shared.init (rinitWith ⟨4, 4096, 1, 4096⟩))
            (categoriseLazy (callSiteOf "f"))).2
          (categoriseLazy (callSiteOf "f")) (entryAt 1) = some w' ∧
        w'.trace.stack = [frame] ∧ w'.trace.bufferEstimatedBytes = 0 + atOnce ∧
        atOnce + atPush = 64 + 24 + 1 := by
  have hw' := (Option.some_get (x := beginWithSnapshotsLazyAccept
    (beginLazyWouldAccept (rinitAllocateTrace none Shared.init (rinitWith ⟨4, 4096, 1, 4096⟩))
      (categoriseLazy (callSiteOf "f"))).2
    (categoriseLazy (callSiteOf "f")) (entryAt 1)) (by decide)).symm
  obtain ⟨frame, atOnce, atPush, hadd, hstack, hbytes, -⟩ :=
    (lazy_projection_exact (rinitAllocateTrace none Shared.init (rinitWith ⟨4, 4096, 1, 4096⟩))
      (categoriseLazy (callSiteOf "f")) (entryAt 1)).2.1 _ (by decide) hw'
  exact ⟨_, frame, atOnce, atPush, hw', hstack, hbytes, hadd.symm.trans (by decide)⟩

end PhpAnalyze
