import PhpAnalyze.CallTree
import PhpAnalyze.LifoCounters

/-! # When batches are flushed

Between `RINIT` and `RSHUTDOWN` a batch leaves at the end of a call, and only there: at an end
whose record brings the buffer to `flush_records` or the estimate to `flush_bytes`.  The
buffer is then below the first threshold at all times (`Cadence`), so a mid-request batch
never exceeds it.

`RSHUTDOWN` looks at no threshold.  Its batch holds the buffer and the open frames, and the
frames are at most `max_depth` as long as the depth counter has not saturated
(`DepthCounted`). -/

namespace PhpAnalyze

open Machine

namespace Recorder

/-! ### What a step hands off -/

/-- The event is an end that pops a frame and pushes its record. -/
def Emits (r : Recorder) (e : Event) : Prop :=
  e.mark = .closing ∧ r.trace.droppedBegins = 0 ∧ r.trace.stack ≠ []

instance (r : Recorder) (e : Event) : Decidable (r.Emits e) := by
  unfold Emits
  infer_instance

/-- One more record reaches a threshold. -/
def NextRecordFlushes (r : Recorder) : Prop :=
  r.trace.flushRecords ≤ r.trace.buffer.length + 1 ∨
    r.trace.flushBytes ≤ r.trace.bufferEstimatedBytes + callRecordFixedBytes

instance (r : Recorder) : Decidable r.NextRecordFlushes := by
  unfold NextRecordFlushes
  infer_instance

theorem flushPredicateTrigger_eq_none {t : Trace} :
    flushPredicateTrigger t = none ↔
      t.buffer.length < t.flushRecords ∧ t.bufferEstimatedBytes < t.flushBytes := by
  unfold flushPredicateTrigger
  split_ifs with hrecords hbytes
  · exact iff_of_false (by simp) fun hlow => absurd hlow.1 (Nat.not_lt.mpr hrecords)
  · exact iff_of_false (by simp) fun hlow => absurd hlow.2 (Nat.not_lt.mpr hbytes)
  · exact iff_of_true rfl ⟨Nat.not_le.mp hrecords, Nat.not_le.mp hbytes⟩

theorem flushIfDue_of_none {r : Recorder} (h : flushPredicateTrigger r.trace = none)
    (answer : TrySend) : r.flushIfDue answer = r := by
  unfold flushIfDue
  rw [h]

theorem flushIfDue_of_ne_none {r : Recorder} (h : flushPredicateTrigger r.trace ≠ none)
    (answer : TrySend) : r.flushIfDue answer = r.flushAndSend answer := by
  unfold flushIfDue
  split
  · rfl
  · exact absurd ‹_› h

theorem flushPredicateTrigger_afterEmit {r : Recorder} (stack : List CallFrame)
    (record : CallRecord) :
    flushPredicateTrigger (r.afterEmit stack record).trace ≠ none ↔ r.NextRecordFlushes := by
  rw [ne_eq, flushPredicateTrigger_eq_none, NextRecordFlushes]
  simp only [afterEmit, List.length_append, List.length_singleton]
  omega

/-- A step that emits below the thresholds only pushes the record, one that reaches a
threshold hands off the buffer and the record, and any other step hands off nothing. -/
theorem handed_step {r r' : Recorder} {e : Event} (h : r.step e = some r') :
    (r.Emits e ∧ r.NextRecordFlushes → ∃ batch answer record,
      r'.handed = r.handed ++ [(batch, answer)] ∧ batch.calls = r.trace.buffer ++ [record] ∧
        r'.trace.buffer = [] ∧ r'.trace.bufferEstimatedBytes = 0) ∧
      (¬(r.Emits e ∧ r.NextRecordFlushes) → r'.handed = r.handed ∧
        (r.Emits e → ∃ record, r'.trace.buffer = r.trace.buffer ++ [record] ∧
          r'.trace.bufferEstimatedBytes = r.trace.bufferEstimatedBytes + callRecordFixedBytes) ∧
        (¬r.Emits e → r'.trace.buffer = r.trace.buffer)) := by
  cases step_cases h with
  | dropBegin | acceptBegin | budget =>
      refine ⟨fun hemit => ?_, fun _ => ⟨rfl, fun hemit => ?_, fun _ => rfl⟩⟩
      · cases hemit.1.1
      · cases hemit.1
  | consumeEnd exit abnormal answer hdrop =>
      refine ⟨fun hemit => ?_, fun _ => ⟨rfl, fun hemit => ?_, fun _ => rfl⟩⟩
      · exact absurd hemit.1.2.1 (Nat.ne_of_gt hdrop)
      · exact absurd hemit.2.1 (Nat.ne_of_gt hdrop)
  | strayEnd exit abnormal answer hdrop hstack =>
      refine ⟨fun hemit => ?_, fun _ => ⟨rfl, fun hemit => ?_, fun _ => rfl⟩⟩
      · exact absurd hstack hemit.1.2.2
      · exact absurd hstack hemit.2.2
  | emitEnd exit abnormal answer frame stack hdrop hstack =>
      have hemits : r.Emits (.endCall exit abnormal answer) :=
        ⟨rfl, hdrop, by rw [hstack]; exact List.cons_ne_nil _ _⟩
      refine ⟨fun hemit => ?_, fun hno => ?_⟩
      · rw [flushIfDue_of_ne_none ((flushPredicateTrigger_afterEmit _ _).mpr hemit.2)]
        exact ⟨_, answer, _, rfl, rfl, rfl, rfl⟩
      · have hnone : flushPredicateTrigger
            (r.afterEmit stack (frame.intoCallRecord exit abnormal)).trace = none := by
          by_contra hdue
          exact hno ⟨hemits, (flushPredicateTrigger_afterEmit _ _).mp hdue⟩
        rw [flushIfDue_of_none hnone]
        exact ⟨rfl, fun _ => ⟨_, rfl, rfl⟩, fun hnot => absurd hemits hnot⟩

/-! ### The buffer stays below its threshold -/

/-- The limits of the trace, and what they say about the buffer and the batches so far. -/
structure Cadence (limits : TraceLimits) (r : Recorder) : Prop where
  maxDepth : r.trace.maxDepth = limits.maxDepth
  flushRecords : r.trace.flushRecords = limits.flushRecords
  flushBytes : r.trace.flushBytes = limits.flushBytes
  buffer : r.trace.buffer.length < limits.flushRecords
  handed : ∀ b ∈ r.handed, 1 ≤ b.1.calls.length ∧ b.1.calls.length ≤ limits.flushRecords

variable {limits : TraceLimits} {r r' : Recorder} {e : Event}

theorem cadence_start (shared : Shared) {rinit : Rinit} (h : 1 ≤ rinit.limits.flushRecords) :
    (start shared rinit).Cadence rinit.limits where
  maxDepth := rfl
  flushRecords := rfl
  flushBytes := rfl
  buffer := h
  handed _ hmem := absurd hmem List.not_mem_nil

/-- **Step lemma.** -/
theorem Cadence.step (h : r.Cadence limits) (hstep : r.step e = some r') : r'.Cadence limits := by
  obtain ⟨hdepth, -, hrecords, hbytes⟩ := TraceLimits.mk.inj (limits_step hstep)
  obtain ⟨hflush, hkeep⟩ := handed_step hstep
  have hbuffer := h.buffer
  refine ⟨hdepth.trans h.maxDepth, hrecords.trans h.flushRecords, hbytes.trans h.flushBytes, ?_, ?_⟩
  · by_cases hdue : r.Emits e ∧ r.NextRecordFlushes
    · obtain ⟨batch, answer, record, -, -, hempty, -⟩ := hflush hdue
      rw [hempty, List.length_nil]
      omega
    · obtain ⟨-, hpush, hsame⟩ := hkeep hdue
      by_cases hemit : r.Emits e
      · obtain ⟨record, hrecord, -⟩ := hpush hemit
        have hlow : ¬ limits.flushRecords ≤ r.trace.buffer.length + 1 := fun hle =>
          hdue ⟨hemit, .inl (h.flushRecords ▸ hle)⟩
        rw [hrecord, List.length_append, List.length_singleton]
        omega
      · rw [hsame hemit]
        exact hbuffer
  · intro b hb
    by_cases hdue : r.Emits e ∧ r.NextRecordFlushes
    · obtain ⟨batch, answer, record, hhanded, hcalls, -⟩ := hflush hdue
      rw [hhanded] at hb
      rcases List.mem_append.mp hb with hold | hnew
      · exact h.handed b hold
      · rw [List.mem_singleton.mp hnew, hcalls, List.length_append, List.length_singleton]
        omega
    · rw [(hkeep hdue).1] at hb
      exact h.handed b hb

/-- **Run lemma.** -/
theorem cadence_run {shared : Shared} {rinit : Rinit} (hrecords : 1 ≤ rinit.limits.flushRecords)
    {es : List Event} (h : run step (start shared rinit) es = some r) : r.Cadence rinit.limits :=
  run_invariant (fun _ _ _ hstep hs => Cadence.step hs hstep) h (cadence_start shared hrecords)

theorem Cadence.estimate_lt (h : r.Cadence limits) (hpos : 1 ≤ limits.flushBytes)
    (hstep : r.step e = some r') (hemit : r.Emits e) :
    r'.trace.bufferEstimatedBytes < limits.flushBytes := by
  obtain ⟨hflush, hkeep⟩ := handed_step hstep
  by_cases hdue : r.Emits e ∧ r.NextRecordFlushes
  · obtain ⟨batch, answer, record, -, -, -, hzero⟩ := hflush hdue
    omega
  · obtain ⟨record, -, hbytes⟩ := (hkeep hdue).2.1 hemit
    have hlow : ¬ limits.flushBytes ≤ r.trace.bufferEstimatedBytes + callRecordFixedBytes :=
      fun hle => hdue ⟨hemit, .inr (h.flushBytes ▸ hle)⟩
    omega

/-! ### The batch of `RSHUTDOWN` -/

theorem handed_release (r : Recorder) (exit : ExitSnapshots) (answer : TrySend) :
    (r.trace.buffer = [] ∧ r.trace.stack = [] →
      (r.rshutdownReleaseTrace exit answer).handed = r.handed) ∧
    (¬(r.trace.buffer = [] ∧ r.trace.stack = []) → ∃ batch,
      (r.rshutdownReleaseTrace exit answer).handed = r.handed ++ [(batch, answer)] ∧
        batch.calls.length = r.trace.buffer.length + r.trace.stack.length) := by
  rw [rshutdownReleaseTrace_eq]
  have hempty : (r.drained exit).trace.buffer.isEmpty = true ↔
      r.trace.buffer = [] ∧ r.trace.stack = [] := by
    simp only [drained, List.isEmpty_iff, List.append_eq_nil_iff, List.map_eq_nil_iff]
  constructor
  · intro hnone
    simp only [flushed, if_pos (hempty.mpr hnone)]
    rfl
  · intro hsome
    simp only [flushed, if_neg (mt hempty.mp hsome)]
    refine ⟨_, rfl, ?_⟩
    show (r.trace.buffer ++ _).length = _
    rw [List.length_append, List.length_map]

/-- **The cadence of the flushes.**  For every run of a trace with thresholds of at least one:
after any end the buffer is below `flush_records`, and after an end that emitted a record the
estimate is below `flush_bytes`; a mid-request batch leaves exactly at an emitting end whose
record reaches a threshold, and never at a begin or at an end that consumes a dropped begin;
such a batch has between `1` and `flush_records` calls; and `RSHUTDOWN` hands off one batch when
the buffer or the stack is non-empty and none otherwise, of at most
`flush_records - 1 + max_depth` calls if the depth counter was below `u32::MAX` at every begin. -/
theorem flush_cadence {shared : Shared} {rinit : Rinit}
    (hrecords : 1 ≤ rinit.limits.flushRecords) (hbytes : 1 ≤ rinit.limits.flushBytes)
    {es : List Event} {r : Recorder} (h : run step (start shared rinit) es = some r)
    (exit : ExitSnapshots) (answer : TrySend) :
    (∀ e r', r.step e = some r' →
      (e.mark = .closing → r'.trace.buffer.length < rinit.limits.flushRecords) ∧
      (r.Emits e → r'.trace.bufferEstimatedBytes < rinit.limits.flushBytes) ∧
      (r.Emits e ∧ r.NextRecordFlushes → ∃ batch answer record,
        r'.handed = r.handed ++ [(batch, answer)] ∧
          batch.calls = r.trace.buffer ++ [record]) ∧
      (¬(r.Emits e ∧ r.NextRecordFlushes) → r'.handed = r.handed) ∧
      (e.isBegin = true ∨ 0 < r.trace.droppedBegins → r'.handed = r.handed)) ∧
    (∀ b ∈ r.handed,
      1 ≤ b.1.calls.length ∧ b.1.calls.length ≤ rinit.limits.flushRecords) ∧
    (r.trace.buffer = [] ∧ r.trace.stack = [] →
      (r.rshutdownReleaseTrace exit answer).handed = r.handed) ∧
    (¬(r.trace.buffer = [] ∧ r.trace.stack = []) → ∃ batch,
      (r.rshutdownReleaseTrace exit answer).handed = r.handed ++ [(batch, answer)] ∧
        1 ≤ batch.calls.length ∧
        (Along step DepthExact (start shared rinit) es →
          batch.calls.length ≤ rinit.limits.flushRecords - 1 + rinit.limits.maxDepth)) := by
  have hr := cadence_run hrecords h
  obtain ⟨hnone, hsome⟩ := handed_release r exit answer
  refine ⟨fun e r' hstep => ?_, hr.handed, hnone, fun hwork => ?_⟩
  · obtain ⟨hflush, hkeep⟩ := handed_step hstep
    refine ⟨fun _ => (hr.step hstep).buffer, hr.estimate_lt hbytes hstep, fun hdue => ?_,
      fun hdue => (hkeep hdue).1, fun hno => (hkeep fun hdue => ?_).1⟩
    · obtain ⟨batch, answer, record, hhanded, hcalls, -⟩ := hflush hdue
      exact ⟨batch, answer, record, hhanded, hcalls⟩
    · obtain ⟨⟨hclosing, hzero, -⟩, -⟩ := hdue
      rcases hno with hbegin | hdropped
      · cases e with
        | beginCall => cases hclosing
        | endCall => cases hbegin
        | budget => cases hbegin
      · omega
  · obtain ⟨batch, hhanded, hlength⟩ := hsome hwork
    refine ⟨batch, hhanded, ?_, fun hexact => ?_⟩
    · rw [hlength, Nat.one_le_iff_ne_zero, ne_eq, Nat.add_eq_zero_iff, List.length_eq_zero_iff,
        List.length_eq_zero_iff]
      exact hwork
    · have hbuffer := hr.buffer
      have hstack := (depthCounted_run h hexact).stack
      rw [hr.maxDepth] at hstack
      omega

/-- Two nested calls and a threshold of one record: the inner end flushes. -/
theorem flush_cadence_nested :
    ∃ r, run step (start Shared.init (rinitWith ⟨4, 4096, 1, 4096⟩))
        [beginOf "f" 1, beginOf "g" 2, endAt 3] = some r ∧
      r.handed.length = 1 ∧
      (∀ b ∈ r.handed, 1 ≤ b.1.calls.length ∧ b.1.calls.length ≤ 1) ∧
      ∃ batch, (r.rshutdownReleaseTrace (exitAt 4) .ok).handed = r.handed ++ [(batch, .ok)] ∧
        batch.calls.length ≤ 1 - 1 + 4 := by
  obtain ⟨r, hr⟩ : ∃ r, r = (run step (start Shared.init (rinitWith ⟨4, 4096, 1, 4096⟩))
    [beginOf "f" 1, beginOf "g" 2, endAt 3]).get (by decide) := ⟨_, rfl⟩
  have hrun : run step (start Shared.init (rinitWith ⟨4, 4096, 1, 4096⟩))
      [beginOf "f" 1, beginOf "g" 2, endAt 3] = some r := by
    rw [hr]
    exact (Option.some_get _).symm
  have h := flush_cadence (by decide) (by decide) hrun (exitAt 4) .ok
  obtain ⟨batch, hbatch, -, hbound⟩ := h.2.2.2 (by rw [hr]; decide)
  exact ⟨r, hrun, by rw [hr]; decide, h.2.1, batch, hbatch, hbound (by decide)⟩

/-- The bound on the batch of `RSHUTDOWN` fails in a run that saturates the depth: with depth
limit one, `2 ^ 32 - 1` begins dropped inside an open call take the depth back to zero, and a
second call is accepted beside it. -/
theorem not_every_release_bounded :
    ¬ ∀ (shared : Shared) (rinit : Rinit) (es : List Event) (r : Recorder)
        (exit : ExitSnapshots) (answer : TrySend) (batch : PendingBatch),
      1 ≤ rinit.limits.flushRecords → 1 ≤ rinit.limits.flushBytes →
      run step (start shared rinit) es = some r →
      (r.rshutdownReleaseTrace exit answer).handed = r.handed ++ [(batch, answer)] →
      batch.calls.length ≤ rinit.limits.flushRecords - 1 + rinit.limits.maxDepth := by
  intro h
  obtain ⟨n, hn⟩ : ∃ n, n + 1 = u32Max := ⟨2 ^ 32 - 2, by decide⟩
  obtain ⟨b, -⟩ : ∃ b : CallBegin, b = ⟨.lazy, callSiteOf "f", entryAt 1⟩ := ⟨_, rfl⟩
  obtain ⟨x, -⟩ : ∃ x : CallEnd, x = ⟨exitAt 2, false, .ok⟩ := ⟨_, rfl⟩
  obtain ⟨r, hrun, -, hstack⟩ :=
    deep_begins_run b x Shared.init (rinitWith ⟨1, 2 ^ 64 - 1, 1, 1⟩) rfl rfl hn
  have hopen : ¬(r.trace.buffer = [] ∧ r.trace.stack = []) := by
    rintro ⟨-, hnil⟩
    rw [hnil] at hstack
    cases hstack
  obtain ⟨batch, hhanded, hlength⟩ := (handed_release r (exitAt 3) .ok).2 hopen
  have hbound := h _ _ _ r (exitAt 3) .ok batch (by decide) (by decide) hrun hhanded
  have hlimits : (rinitWith ⟨1, 2 ^ 64 - 1, 1, 1⟩).limits = ⟨1, 2 ^ 64 - 1, 1, 1⟩ := rfl
  rw [hlength, hstack, hlimits] at hbound
  dsimp only at hbound
  omega

end Recorder

end PhpAnalyze
