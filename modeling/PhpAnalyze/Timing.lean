import Mathlib.Algebra.Order.Group.Int
import PhpAnalyze.Lib.Spans
import PhpAnalyze.Recorder

/-! # Timing attribution

A trace records spans on three clocks: wall time and the processor time in user and system
mode.  On each clock an accepted begin opens a span, an end that emits a record closes the
top one, every other event lets time pass, and the drain of `RSHUTDOWN` closes what is left.
`Timed` says so for one clock; the records then inherit what holds of nested spans
(`timing_nested`). -/

namespace PhpAnalyze

open Machine Spans

/-- Where a clock is read: at entry, at exit, and in the frame that remembers the entry. -/
structure Clock where
  entry : EntrySnapshots → ℤ
  exit : ExitSnapshots → ℤ
  frame : CallFrame → ℤ
  frame_eq : ∀ (r : Recorder) (fnId : ℕ) (e : EntrySnapshots), frame (r.newFrame fnId e) = entry e

namespace Clock

def wall : Clock := ⟨EntrySnapshots.tInNs, ExitSnapshots.tOutNs, CallFrame.tInNs, fun _ _ _ => rfl⟩

def userCpu : Clock :=
  ⟨EntrySnapshots.cpuUInNs, ExitSnapshots.cpuUNowNs, CallFrame.cpuUInNs, fun _ _ _ => rfl⟩

def systemCpu : Clock :=
  ⟨EntrySnapshots.cpuSInNs, ExitSnapshots.cpuSNowNs, CallFrame.cpuSInNs, fun _ _ _ => rfl⟩

def reading (c : Clock) : Event → Option ℤ
  | .beginCall _ _ e => some (c.entry e)
  | .endCall x _ _ => some (c.exit x)
  | .budget _ => none

def readings (c : Clock) (es : List Event) (exit : ExitSnapshots) : List ℤ :=
  es.filterMap c.reading ++ [c.exit exit]

/-- The clock never goes back. -/
def Monotone (c : Clock) (es : List Event) (exit : ExitSnapshots) : Prop :=
  (c.readings es exit).Pairwise (· ≤ ·)

/-- The readings are non-negative values of an `i64`. -/
def NonNegative (c : Clock) (es : List Event) (exit : ExitSnapshots) : Prop :=
  ∀ t ∈ c.readings es exit, 0 ≤ t ∧ t < 2 ^ 63

instance (c : Clock) (es : List Event) (exit : ExitSnapshots) : Decidable (c.Monotone es exit) :=
  inferInstanceAs (Decidable (List.Pairwise _ _))

instance (c : Clock) (es : List Event) (exit : ExitSnapshots) :
    Decidable (c.NonNegative es exit) :=
  inferInstanceAs (Decidable (∀ t ∈ _, _))

/-- The open span of a frame. -/
def openSpan (c : Clock) (frame : CallFrame) : OpenSpan ℤ where
  id := frame.callId
  parent := frame.parent
  start := c.frame frame

end Clock

theorem topId_map_openSpan (c : Clock) (t : Trace) :
    topId (t.stack.map c.openSpan) = t.parent := by
  unfold Trace.parent
  cases t.stack <;> rfl

/-- The end of a call that emitted a record. -/
structure Closing where
  frame : CallFrame
  exit : ExitSnapshots
  abnormal : Bool

def Closing.record (x : Closing) : CallRecord := x.frame.intoCallRecord x.exit x.abnormal

def Clock.span (c : Clock) (x : Closing) : Span ℤ := (c.openSpan x.frame).close (c.exit x.exit)

namespace Recorder

/-- The trace is the recording of its spans on the clock `c`, which was read at the `times`
and last showed `now`; `log` lists the ends that emitted a record. -/
structure Timed (c : Clock) (times : List ℤ) (r : Recorder) (log : List Closing) (now : ℤ) :
    Prop where
  recording : Recording (log.map c.span) (r.trace.stack.map c.openSpan) r.trace.callIdSeq now
  records : r.emitted = log.map Closing.record
  frames : ∀ frame ∈ r.trace.stack, c.frame frame ∈ times
  closings : ∀ x ∈ log, c.frame x.frame ∈ times ∧ c.exit x.exit ∈ times

theorem timed_start (c : Clock) (shared : Shared) (rinit : Rinit) (now : ℤ) :
    (start shared rinit).Timed c [] [] now :=
  ⟨.start now, rfl, fun _ h => absurd h List.not_mem_nil, fun _ h => absurd h List.not_mem_nil⟩

variable {c : Clock} {times : List ℤ} {r r' : Recorder} {log : List Closing} {now : ℤ}

theorem Timed.advance (h : r.Timed c times log now) {t : ℤ} (hle : now ≤ t) :
    r.Timed c (times ++ [t]) log t where
  recording := h.recording.advance hle
  records := h.records
  frames frame hframe := List.mem_append_left _ (h.frames frame hframe)
  closings x hx := (h.closings x hx).imp (List.mem_append_left _) (List.mem_append_left _)

theorem Timed.of_eq (h : r.Timed c times log now) (hstack : r'.trace.stack = r.trace.stack)
    (hseq : r'.trace.callIdSeq = r.trace.callIdSeq) (hemitted : r'.emitted = r.emitted) :
    r'.Timed c times log now :=
  ⟨by rw [hstack, hseq]; exact h.recording, hemitted.trans h.records,
    by rw [hstack]; exact h.frames, h.closings⟩

theorem Timed.afterAccept (h : r.Timed c times log now) {entry : EntrySnapshots}
    (hnow : c.entry entry = now) (hmem : now ∈ times) (fnId : ℕ) (dictionary : Dictionary)
    (bytes : ℕ) :
    (r.afterAccept (r.newFrame fnId entry) dictionary bytes).Timed c times log now := by
  have hopen : c.openSpan (r.newFrame fnId entry) =
      ⟨r.trace.callIdSeq + 1, topId (r.trace.stack.map c.openSpan), now⟩ := by
    rw [Clock.openSpan, c.frame_eq, hnow, topId_map_openSpan]
    rfl
  refine ⟨?_, h.records, ?_, h.closings⟩
  · show Recording _ (c.openSpan _ :: r.trace.stack.map c.openSpan) _ now
    rw [hopen]
    exact h.recording.push
  · intro frame hframe
    rcases List.mem_cons.mp hframe with rfl | hold
    · rw [c.frame_eq, hnow]
      exact hmem
    · exact h.frames frame hold

theorem Timed.afterEmit (h : r.Timed c times log now) {frame : CallFrame}
    {stack : List CallFrame} (hstack : r.trace.stack = frame :: stack) {exit : ExitSnapshots}
    (hnow : c.exit exit = now) (hmem : now ∈ times) (abnormal : Bool) :
    (r.afterEmit stack (frame.intoCallRecord exit abnormal)).Timed c times
      (log ++ [⟨frame, exit, abnormal⟩]) now := by
  have hrecording := h.recording
  rw [hstack] at hrecording
  refine ⟨?_, ?_, fun f hf => h.frames f ?_, fun x hx => ?_⟩
  · rw [List.map_append, List.map_singleton, Clock.span, hnow]
    exact hrecording.pop
  · rw [emitted_afterEmit, h.records, List.map_append]
    rfl
  · rw [hstack]
    exact List.mem_cons_of_mem _ hf
  · rcases List.mem_append.mp hx with hold | hnew
    · exact h.closings x hold
    · rw [List.mem_singleton.mp hnew]
      exact ⟨h.frames frame (by rw [hstack]; exact List.mem_cons_self), hnow ▸ hmem⟩

/-- **Step lemma**, on the state that has read the clock for the event. -/
theorem Timed.step {e : Event} (h : r.Timed c times log now) (hstep : r.step e = some r')
    (hread : ∀ t ∈ c.reading e, now = t ∧ now ∈ times) : ∃ log', r'.Timed c times log' now := by
  cases step_cases hstep with
  | dropBegin => exact ⟨log, h.of_eq rfl rfl rfl⟩
  | acceptBegin path site entry fnId outcome dictionary hgate hdict =>
      obtain ⟨hnow, hmem⟩ := hread _ rfl
      exact ⟨log, h.afterAccept hnow.symm hmem fnId dictionary _⟩
  | consumeEnd => exact ⟨log, h.of_eq rfl rfl rfl⟩
  | strayEnd => exact ⟨log, h.of_eq rfl rfl rfl⟩
  | emitEnd exit abnormal answer frame stack hdrop hstack =>
      obtain ⟨hnow, hmem⟩ := hread _ rfl
      exact ⟨_, (h.afterEmit hstack hnow.symm hmem abnormal).of_eq (stack_flushIfDue ..)
        (callIdSeq_flushIfDue ..) (emitted_flushIfDue ..)⟩
  | budget => exact ⟨log, h.of_eq rfl rfl rfl⟩

/-- **Run lemma**: a run whose readings do not go back is a recording, and the clock shows
no more than any later reading. -/
theorem timed_run {shared : Shared} {rinit : Rinit} {es : List Event} {r : Recorder}
    (h : run Recorder.step (start shared rinit) es = some r) {first : ℤ}
    (hmono : (es.filterMap c.reading).Pairwise (· ≤ ·))
    (hfirst : ∀ t ∈ es.filterMap c.reading, first ≤ t) :
    ∃ log now, r.Timed c (es.filterMap c.reading) log now ∧
      ∀ t, first ≤ t → (∀ s ∈ es.filterMap c.reading, s ≤ t) → now ≤ t := by
  revert hmono hfirst
  refine run_induction (P := fun es r => (es.filterMap c.reading).Pairwise (· ≤ ·) →
    (∀ t ∈ es.filterMap c.reading, first ≤ t) →
      ∃ log now, r.Timed c (es.filterMap c.reading) log now ∧
        ∀ t, first ≤ t → (∀ s ∈ es.filterMap c.reading, s ≤ t) → now ≤ t)
    (fun _ _ => ⟨[], first, timed_start c shared rinit first, fun _ hle _ => hle⟩) ?_ h
  intro es r e r' hrun ih hstep hmono hfirst
  rw [List.filterMap_append] at hmono hfirst ⊢
  obtain ⟨hold, -, hlast⟩ := List.pairwise_append.mp hmono
  obtain ⟨log, now, htimed, hbound⟩ :=
    ih hold fun t ht => hfirst t (List.mem_append_left _ ht)
  cases hread : c.reading e with
  | none =>
      have hnil : [e].filterMap c.reading = [] := by simp [hread]
      obtain ⟨log', hlog'⟩ := htimed.step hstep (by simp [hread])
      rw [hnil, List.append_nil]
      exact ⟨log', now, hlog', hbound⟩
  | some t =>
      have hone : [e].filterMap c.reading = [t] := by simp [hread]
      rw [hone] at hlast hfirst ⊢
      have hle : now ≤ t := hbound t (hfirst t (by simp)) fun s hs => hlast s hs t (by simp)
      obtain ⟨log', hlog'⟩ := (htimed.advance hle).step hstep (by simp [hread])
      exact ⟨log', t, hlog', fun t' _ hle' => hle' t (by simp)⟩

theorem Timed.drained (h : r.Timed c times log now) {exit : ExitSnapshots}
    (hnow : c.exit exit = now) (hmem : now ∈ times) :
    (r.drained exit).Timed c times (log ++ r.trace.stack.map fun frame => ⟨frame, exit, true⟩)
      now := by
  refine ⟨?_, ?_, fun _ hf => absurd hf List.not_mem_nil, fun x hx => ?_⟩
  · have hall := h.recording.popAll
    rw [List.map_map] at hall
    rw [List.map_append, List.map_map]
    simp only [Function.comp_def, Clock.span, hnow] at hall ⊢
    exact hall
  · rw [emitted_drained, h.records, List.map_append, List.map_map]
    rfl
  · rcases List.mem_append.mp hx with hold | hnew
    · exact h.closings x hold
    · obtain ⟨frame, hframe, rfl⟩ := List.mem_map.mp hnew
      exact ⟨h.frames frame hframe, hnow ▸ hmem⟩

theorem exists_first {ts : List ℤ} (h : ts.Pairwise (· ≤ ·)) : ∃ first, ∀ t ∈ ts, first ≤ t := by
  cases ts with
  | nil => exact ⟨0, fun _ ht => absurd ht List.not_mem_nil⟩
  | cons first ts =>
      refine ⟨first, fun t ht => ?_⟩
      rcases List.mem_cons.mp ht with rfl | ht
      · exact le_rfl
      · exact (List.pairwise_cons.mp h).1 t ht

section release

variable {shared : Shared} {rinit : Rinit} {es : List Event} (answer : TrySend)

/-- The records of a released trace, on a clock that does not go back, are nested spans. -/
theorem exists_nested (h : run Recorder.step (start shared rinit) es = some r)
    {exit : ExitSnapshots} (hmono : c.Monotone es exit) :
    ∃ (log : List Closing) (last : ℕ) (now : ℤ), Nested (log.map c.span) [] last now ∧
      (r.rshutdownReleaseTrace exit answer).calls = log.map Closing.record ∧
      ∀ x ∈ log, c.frame x.frame ∈ c.readings es exit ∧ c.exit x.exit ∈ c.readings es exit := by
  obtain ⟨first, hfirst⟩ := exists_first hmono
  obtain ⟨hold, -, hlast⟩ := List.pairwise_append.mp hmono
  obtain ⟨log, now, htimed, hbound⟩ :=
    timed_run h hold fun t ht => hfirst t (List.mem_append_left _ ht)
  have hle : now ≤ c.exit exit :=
    hbound _ (hfirst _ (by simp [Clock.readings])) fun s hs => hlast s hs _ (by simp)
  have hdrained := (htimed.advance hle).drained rfl (by simp)
  refine ⟨_, _, _, hdrained.recording.nested, ?_, hdrained.closings⟩
  rw [calls_rshutdownReleaseTrace, ← emitted_drained, hdrained.records]

variable (c) in
/-- Along one processor clock, the children of a record use no more than the record. -/
theorem childCpu_le (h : run Recorder.step (start shared rinit) es = some r)
    {exit : ExitSnapshots} (hmono : c.Monotone es exit) (hpos : c.NonNegative es exit)
    {cpu : CallRecord → ℤ}
    (hcpu : ∀ x : Closing, cpu x.record =
      max (saturatingSubI64 (c.exit x.exit) (c.frame x.frame)) 0) :
    ∀ p ∈ (r.rshutdownReleaseTrace exit answer).calls,
      (((r.rshutdownReleaseTrace exit answer).calls.filter fun q => q.parent = p.callId).map
        cpu).sum ≤ cpu p := by
  obtain ⟨log, last, now, hnested, hcalls, hmem⟩ := exists_nested answer h hmono
  -- no reading is out of range, so the record shows what the span used
  have hcost : ∀ x ∈ log, cpu x.record = (c.span x).cost := by
    intro x hx
    have hin := hpos _ (hmem x hx).1
    have hout := hpos _ (hmem x hx).2
    have hle : c.frame x.frame ≤ c.exit x.exit :=
      hnested.forward (c.span x) (List.mem_map_of_mem hx)
    rw [hcpu, saturatingSubI64, Span.cost]
    show _ = c.exit x.exit - c.frame x.frame
    omega
  have hsum : ∀ id : ℕ, ((log.map Closing.record).filter fun q => q.parent = id).map cpu =
      ((log.map c.span).filter fun s => s.parent = id).map Span.cost := by
    intro id
    rw [List.filter_map, List.filter_map, List.map_map, List.map_map]
    exact List.map_congr_left fun x hx => hcost x (List.mem_of_mem_filter hx)
  rw [hcalls]
  intro p hp
  obtain ⟨x, hx, rfl⟩ := List.mem_map.mp hp
  rw [hsum, hcost x hx]
  exact hnested.childCost_le (c.span x) (List.mem_map_of_mem hx)

/-- **Timing attribution is a proper nesting.**  When no clock goes back, and processor times
are non-negative, over a run and its `RSHUTDOWN`: no record ends before it starts, a record
lies inside its parent's record, the records of one parent follow each other, and together
they used no more processor time than the parent, in user and in system mode. -/
theorem timing_nested (h : run Recorder.step (start shared rinit) es = some r)
    {exit : ExitSnapshots} (hwall : Clock.wall.Monotone es exit)
    (huser : Clock.userCpu.Monotone es exit) (huser0 : Clock.userCpu.NonNegative es exit)
    (hsystem : Clock.systemCpu.Monotone es exit)
    (hsystem0 : Clock.systemCpu.NonNegative es exit) :
    (∀ record ∈ (r.rshutdownReleaseTrace exit answer).calls, record.tInNs ≤ record.tOutNs) ∧
    (∀ record ∈ (r.rshutdownReleaseTrace exit answer).calls,
      ∀ parent ∈ (r.rshutdownReleaseTrace exit answer).calls, record.parent = parent.callId →
        parent.tInNs ≤ record.tInNs ∧ record.tOutNs ≤ parent.tOutNs) ∧
    (r.rshutdownReleaseTrace exit answer).calls.Pairwise
      (fun a b => a.parent = b.parent → a.tOutNs ≤ b.tInNs) ∧
    (∀ p ∈ (r.rshutdownReleaseTrace exit answer).calls,
      (((r.rshutdownReleaseTrace exit answer).calls.filter fun q => q.parent = p.callId).map
        CallRecord.cpuUNs).sum ≤ p.cpuUNs) ∧
    ∀ p ∈ (r.rshutdownReleaseTrace exit answer).calls,
      (((r.rshutdownReleaseTrace exit answer).calls.filter fun q => q.parent = p.callId).map
        CallRecord.cpuSNs).sum ≤ p.cpuSNs := by
  obtain ⟨log, last, now, hnested, hcalls, -⟩ := exists_nested answer h hwall
  refine ⟨?_, ?_, ?_, childCpu_le .userCpu answer h huser huser0 fun _ => rfl,
    childCpu_le .systemCpu answer h hsystem hsystem0 fun _ => rfl⟩ <;> rw [hcalls]
  · intro record hrecord
    obtain ⟨x, hx, rfl⟩ := List.mem_map.mp hrecord
    exact hnested.forward (Clock.wall.span x) (List.mem_map_of_mem hx)
  · intro record hrecord parent hparent heq
    obtain ⟨x, hx, rfl⟩ := List.mem_map.mp hrecord
    obtain ⟨y, hy, rfl⟩ := List.mem_map.mp hparent
    exact hnested.inside (Clock.wall.span x) (List.mem_map_of_mem hx) (Clock.wall.span y)
      (List.mem_map_of_mem hy) heq
  · have hdisjoint := hnested.disjoint
    rw [List.pairwise_map] at hdisjoint ⊢
    exact hdisjoint

end release

/-- An end that closes the frame of another call, a dropped begin, and a frame that only
`RSHUTDOWN` closes. -/
theorem timing_nested_unbalanced :
    ∃ r, run Recorder.step (start Shared.init (rinitWith ⟨2, 4096, 2, 4096⟩))
        [endAt 1, beginOf "f" 2, beginOf "g" 3, beginOf "h" 4, endAt 5, endAt 6, beginOf "g" 6] =
          some r ∧
      ∀ record ∈ (r.rshutdownReleaseTrace (exitAt 7) .ok).calls, record.tInNs ≤ record.tOutNs :=
  ⟨(run Recorder.step (start Shared.init (rinitWith ⟨2, 4096, 2, 4096⟩))
      [endAt 1, beginOf "f" 2, beginOf "g" 3, beginOf "h" 4, endAt 5, endAt 6,
        beginOf "g" 6]).get (by decide),
    (Option.some_get _).symm,
    (timing_nested .ok (Option.some_get _).symm (by decide) (by decide) (by decide) (by decide)
      (by decide)).1⟩

end Recorder

end PhpAnalyze
