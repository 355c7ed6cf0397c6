import PhpAnalyze.Recorder

/-! # Records and their parents

Every frame of a trace becomes one record, and its parent's record comes later.

An *edge* is a call id with its parent.  `edges r` lists the edges of the records made so
far and then those of the open frames, top first: the order in which the records would
stand if `RSHUTDOWN` ran now.  Only an accepted begin changes this list, and it inserts one
edge: an end moves the top frame across the boundary, a flush and the drain of `RSHUTDOWN`
move nothing.  The invariant `Recorded` therefore has one interesting case.

* `every_frame_becomes_one_record`: the ids of all records are `1, …, n`, each once.
* `parents_ship_forward`: the parent's record is in the same batch or a later one, and a
  batch is closed under parents exactly when its flush leaves no frame open. -/

namespace PhpAnalyze

open Machine Bracket

/-! ### Edges -/

def CallRecord.edge (record : CallRecord) : ℕ × ℕ := (record.callId, record.parent)

def CallFrame.edge (frame : CallFrame) : ℕ × ℕ := (frame.callId, frame.parent)

@[simp] theorem CallFrame.edge_intoCallRecord (frame : CallFrame) (exit : ExitSnapshots)
    (abnormal : Bool) : (frame.intoCallRecord exit abnormal).edge = frame.edge := rfl

/-- Every parent is `0` or the id of a later edge, and smaller than the child. -/
def ParentsLater : List (ℕ × ℕ) → Prop
  | [] => True
  | x :: rest =>
      (x.2 = 0 ∨ x.2 < x.1 ∧ ∃ y ∈ rest, y.1 = x.2) ∧ ParentsLater rest

theorem ParentsLater.insert {es fs : List (ℕ × ℕ)} {x : ℕ × ℕ} (h : ParentsLater (es ++ fs))
    (hx : x.2 = 0 ∨ x.2 < x.1 ∧ ∃ y ∈ fs, y.1 = x.2) : ParentsLater (es ++ x :: fs) := by
  induction es with
  | nil => exact ⟨hx, h⟩
  | cons e es ih =>
      refine ⟨h.1.imp_right fun ⟨hlt, y, hy, hyx⟩ => ⟨hlt, y, ?_, hyx⟩, ih h.2⟩
      rcases List.mem_append.mp hy with hy | hy
      · exact List.mem_append_left _ hy
      · exact List.mem_append_right _ (List.mem_cons_of_mem _ hy)

theorem ParentsLater.at {es fs : List (ℕ × ℕ)} {x : ℕ × ℕ} (h : ParentsLater (es ++ x :: fs)) :
    x.2 = 0 ∨ x.2 < x.1 ∧ ∃ y ∈ fs, y.1 = x.2 := by
  induction es with
  | nil => exact h.1
  | cons e es ih => exact ih h.2

def topCallId : List CallFrame → ℕ
  | [] => 0
  | frame :: _ => frame.callId

def Linked : List CallFrame → Prop
  | [] => True
  | frame :: stack => frame.parent = topCallId stack ∧ Linked stack

namespace Recorder

/-- The edges of the records made so far, then those of the open frames, top first. -/
def edges (r : Recorder) : List (ℕ × ℕ) :=
  r.emitted.map CallRecord.edge ++ r.trace.stack.map CallFrame.edge

/-- The invariant of the records of a trace. -/
structure Recorded (r : Recorder) : Prop where
  ids : (r.edges.map Prod.fst).Perm (List.range' 1 r.trace.callIdSeq)
  parents : ParentsLater r.edges
  linked : Linked r.trace.stack

theorem parent_eq_topCallId (t : Trace) : t.parent = topCallId t.stack := by
  unfold Trace.parent topCallId
  cases t.stack <;> rfl

theorem recorded_start (shared : Shared) (rinit : Rinit) : (start shared rinit).Recorded :=
  ⟨.refl _, trivial, trivial⟩

theorem Recorded.id_le {r : Recorder} (h : r.Recorded) {x : ℕ × ℕ} (hx : x ∈ r.edges) :
    0 < x.1 ∧ x.1 ≤ r.trace.callIdSeq := by
  have hmem := h.ids.mem_iff.mp (List.mem_map_of_mem hx)
  rw [List.mem_range'_1] at hmem
  omega

theorem Recorded.ids_nodup {r : Recorder} (h : r.Recorded) : (r.edges.map Prod.fst).Nodup :=
  h.ids.nodup_iff.mpr List.nodup_range'

theorem Recorded.of_edges_eq {r r' : Recorder} (h : r.Recorded) (hedges : r'.edges = r.edges)
    (hseq : r'.trace.callIdSeq = r.trace.callIdSeq) (hlinked : Linked r'.trace.stack) :
    r'.Recorded :=
  ⟨by rw [hedges, hseq]; exact h.ids, by rw [hedges]; exact h.parents, hlinked⟩

theorem Recorded.afterAccept {r : Recorder} (h : r.Recorded) (fnId : ℕ) (entry : EntrySnapshots)
    (dictionary : Dictionary) (bytes : ℕ) :
    (r.afterAccept (r.newFrame fnId entry) dictionary bytes).Recorded := by
  have hedges : (r.afterAccept (r.newFrame fnId entry) dictionary bytes).edges =
      r.emitted.map CallRecord.edge ++
        (r.trace.callIdSeq + 1, r.trace.parent) :: r.trace.stack.map CallFrame.edge := rfl
  refine ⟨?_, ?_, ?_, h.linked⟩
  · have hperm : ((r.trace.callIdSeq + 1) :: r.edges.map Prod.fst).Perm
        (List.range' 1 (r.trace.callIdSeq + 1)) := by
      rw [List.range'_concat]
      refine (h.ids.cons _).trans ?_
      rw [Nat.one_mul, Nat.add_comm 1]
      exact (List.perm_append_singleton _ _).symm
    rw [hedges]
    refine List.Perm.trans ?_ hperm
    simp only [edges, List.map_append, List.map_cons]
    exact List.perm_middle
  · rw [hedges]
    refine ParentsLater.insert h.parents ?_
    rw [parent_eq_topCallId]
    cases hstack : r.trace.stack with
    | nil => exact .inl rfl
    | cons frame stack =>
        have hmem : frame.edge ∈ r.edges := by simp [edges, hstack]
        have hle := (h.id_le hmem).2
        exact .inr ⟨Nat.lt_succ_of_le hle, frame.edge, by simp, rfl⟩
  · exact parent_eq_topCallId _

/-- **Step lemma**: every event preserves the invariant. -/
theorem Recorded.step {r r' : Recorder} {e : Event} (h : r.Recorded) (hstep : r.step e = some r') :
    r'.Recorded := by
  cases step_cases hstep with
  | dropBegin => exact h.of_edges_eq rfl rfl h.linked
  | acceptBegin => exact h.afterAccept ..
  | consumeEnd => exact h.of_edges_eq rfl rfl h.linked
  | strayEnd => exact h.of_edges_eq rfl rfl h.linked
  | emitEnd exit abnormal answer frame stack hdrop hstack =>
      have hlinked := h.linked
      rw [hstack] at hlinked
      refine h.of_edges_eq ?_ ?_ ?_
      · simp only [edges, emitted_flushIfDue, emitted_afterEmit, stack_flushIfDue, hstack]
        simp [Recorder.afterEmit]
      · simp [Recorder.afterEmit]
      · rw [stack_flushIfDue]
        exact hlinked.2
  | budget => exact h.of_edges_eq rfl rfl h.linked

/-- **Run lemma**: every reachable recorder satisfies the invariant. -/
theorem recorded_run {shared : Shared} {rinit : Rinit} {es : List Event} {r : Recorder}
    (h : run step (start shared rinit) es = some r) : r.Recorded :=
  run_invariant (fun _ _ _ hstep hr => Recorded.step hr hstep) h (recorded_start shared rinit)

theorem callIdSeq_run {shared : Shared} {rinit : Rinit} {es : List Event} {r : Recorder}
    (h : run step (start shared rinit) es = some r) :
    r.trace.callIdSeq = tally step acceptsBegin (start shared rinit) es := by
  refine run_induction (P := fun es r => r.trace.callIdSeq =
    tally step acceptsBegin (start shared rinit) es) rfl ?_ h
  intro es r e r' hrun ih hstep
  rw [tally_snoc _ hrun, ← ih]
  cases step_cases hstep with
  | dropBegin path site entry hgate => simp [acceptsBegin, hgate, afterDrop, Worker.recordDrop]
  | acceptBegin path site entry fnId outcome dictionary hgate =>
      simp [acceptsBegin, hgate, Recorder.afterAccept]
  | consumeEnd => rfl
  | strayEnd => rfl
  | emitEnd => simp [acceptsBegin, Recorder.afterEmit]
  | budget => rfl

/-! ### The drop counter of a trace -/

def refused (r : Recorder) : ℕ :=
  ((r.handed.filter fun h => h.2 = .full).map fun h => h.1.calls.length).sum

theorem dropCounter_flushAndSend (r : Recorder) (answer : TrySend) {n : ℕ}
    (h : r.shared.dropCounters r.trace.dropCounter = n + r.refused) :
    (r.flushAndSend answer).shared.dropCounters r.trace.dropCounter =
      n + (r.flushAndSend answer).refused := by
  simp only [flushAndSend, Trace.flushIntoPendingBatch, dropCounters_trySendBatch, h, refused,
    List.filter_append, List.map_append, List.sum_append]
  cases answer <;> simp [Nat.add_assoc]

/-- The drop counter of a trace adds up the gate drops and the refused records. -/
theorem dropCounter_run {shared : Shared} {rinit : Rinit} {es : List Event} {r : Recorder}
    (h : run step (start shared rinit) es = some r) :
    r.trace.dropCounter = rinit.dropCounter ∧
      r.shared.dropCounters r.trace.dropCounter =
        tally step dropsBegin (start shared rinit) es + r.refused := by
  refine run_induction (P := fun es r => r.trace.dropCounter = rinit.dropCounter ∧
    r.shared.dropCounters r.trace.dropCounter =
      tally step dropsBegin (start shared rinit) es + r.refused) ?_ ?_ h
  · simp [start, rinitAllocateTrace, Trace.new, Shared.dropCounters_allocCounter, refused]
  intro es r e r' hrun ih hstep
  obtain ⟨harc, hcount⟩ := ih
  rw [tally_snoc _ hrun]
  cases step_cases hstep with
  | dropBegin path site entry hgate =>
      refine ⟨harc, ?_⟩
      simp only [afterDrop, Worker.recordDrop, Shared.dropCounters_fetchAdd, ↓reduceIte,
        dropsBegin, hgate, Bool.not_false, refused]
      rw [hcount, refused]
      omega
  | acceptBegin path site entry fnId outcome dictionary hgate =>
      simp only [dropsBegin, hgate, Bool.not_true, Bool.false_eq_true, ↓reduceIte, Nat.add_zero]
      exact ⟨harc, hcount⟩
  | consumeEnd => exact ⟨harc, hcount⟩
  | strayEnd => exact ⟨harc, hcount⟩
  | emitEnd exit abnormal answer frame stack =>
      have hemit : (r.afterEmit stack (frame.intoCallRecord exit abnormal)).shared.dropCounters
          (r.afterEmit stack (frame.intoCallRecord exit abnormal)).trace.dropCounter =
            tally step dropsBegin (start shared rinit) es +
              (r.afterEmit stack (frame.intoCallRecord exit abnormal)).refused := hcount
      rcases flushIfDue_eq_or (r.afterEmit stack (frame.intoCallRecord exit abnormal)) answer
        with hflush | hflush <;> rw [hflush]
      · exact ⟨harc, hemit⟩
      · exact ⟨harc, dropCounter_flushAndSend _ _ hemit⟩
  | budget => exact ⟨harc, hcount⟩

/-! ### One record for each frame -/

theorem edge_calls_release (r : Recorder) (exit : ExitSnapshots) (answer : TrySend) :
    (r.rshutdownReleaseTrace exit answer).calls.map CallRecord.edge = r.edges := by
  rw [calls_rshutdownReleaseTrace, List.map_append, List.map_map]
  rfl

theorem callId_calls_release (r : Recorder) (exit : ExitSnapshots) (answer : TrySend) :
    (r.rshutdownReleaseTrace exit answer).calls.map CallRecord.callId = r.edges.map Prod.fst := by
  rw [← edge_calls_release r exit answer, List.map_map]
  rfl

theorem Recorded.released_parent {r : Recorder} (h : r.Recorded) {exit : ExitSnapshots}
    {answer : TrySend} {pre post : List CallRecord} {record : CallRecord}
    (hcalls : (r.rshutdownReleaseTrace exit answer).calls = pre ++ record :: post) :
    record.parent = 0 ∨
      record.parent < record.callId ∧ ∃ later ∈ post, later.callId = record.parent := by
  have hparents := h.parents
  rw [← edge_calls_release r exit answer, hcalls, List.map_append, List.map_cons] at hparents
  refine hparents.at.imp_right fun ⟨hlt, y, hy, hyx⟩ => ⟨hlt, ?_⟩
  obtain ⟨later, hlater, rfl⟩ := List.mem_map.mp hy
  exact ⟨later, hlater, hyx⟩

/-- **Every accepted frame becomes exactly one record, and parents resolve**: after
`RSHUTDOWN` the ids over all batches are `1, …, n` for `n` accepted begins, the other
observed begins are the gate drops (which the drop counter of the trace adds up, with the
records of refused batches), and a parent is `0` or the smaller id of a later record. -/
theorem every_frame_becomes_one_record {shared : Shared} {rinit : Rinit} {es : List Event}
    {r : Recorder} (h : run step (start shared rinit) es = some r) (exit : ExitSnapshots)
    (answer : TrySend) :
    ((r.rshutdownReleaseTrace exit answer).calls.map CallRecord.callId).Perm
        (List.range' 1 (tally step acceptsBegin (start shared rinit) es)) ∧
      es.countP Event.isBegin =
        tally step acceptsBegin (start shared rinit) es +
          tally step dropsBegin (start shared rinit) es ∧
      r.shared.dropCounters rinit.dropCounter =
        tally step dropsBegin (start shared rinit) es + r.refused ∧
      ∀ pre record post, (r.rshutdownReleaseTrace exit answer).calls = pre ++ record :: post →
        record.parent = 0 ∨
          record.parent < record.callId ∧ ∃ later ∈ post, later.callId = record.parent := by
  have hrec := recorded_run h
  refine ⟨?_, countP_isBegin h, ?_, fun pre record post hcalls => hrec.released_parent hcalls⟩
  · rw [callId_calls_release, ← callIdSeq_run h]
    exact hrec.ids
  · rw [← (dropCounter_run h).1]
    exact (dropCounter_run h).2

/-- A stray end, a recursive call, a begin dropped at the depth limit, a frame left open. -/
theorem every_frame_becomes_one_record_unbalanced :
    ∃ r, run step (start Shared.init (rinitWith ⟨2, 4096, 2, 4096⟩))
        [endAt 1, beginOf "f" 2, beginOf "f" 3, beginOf "g" 4, endAt 5, endAt 6] = some r ∧
      ((r.rshutdownReleaseTrace (exitAt 7) .ok).calls.map CallRecord.callId).Perm
        (List.range' 1 (tally step acceptsBegin (start Shared.init (rinitWith ⟨2, 4096, 2, 4096⟩))
          [endAt 1, beginOf "f" 2, beginOf "f" 3, beginOf "g" 4, endAt 5, endAt 6])) :=
  ⟨(run step (start Shared.init (rinitWith ⟨2, 4096, 2, 4096⟩))
      [endAt 1, beginOf "f" 2, beginOf "f" 3, beginOf "g" 4, endAt 5, endAt 6]).get (by decide),
    (Option.some_get _).symm,
    (every_frame_becomes_one_record (Option.some_get _).symm (exitAt 7) .ok).1⟩

/-! ### Parents and batch boundaries -/

/-- Every non-zero parent in the batch is the id of a record of the batch or of one of the
`earlier` records. -/
def ParentClosed (earlier : List CallRecord) (batch : PendingBatch) : Prop :=
  ∀ record ∈ batch.calls, record.parent ≠ 0 →
    ∃ record' ∈ earlier ++ batch.calls, record'.callId = record.parent

instance (earlier : List CallRecord) (batch : PendingBatch) :
    Decidable (ParentClosed earlier batch) := by
  unfold ParentClosed
  infer_instance

theorem Recorded.parentClosed_of_stack_nil {r : Recorder} (h : r.Recorded)
    (hstack : r.trace.stack = []) {earlier : List CallRecord} {batch : PendingBatch}
    (hcalls : r.emitted = earlier ++ batch.calls) : ParentClosed earlier batch := by
  intro record hrecord hne
  obtain ⟨pre, post, hsplit⟩ := List.append_of_mem hrecord
  have hparents := h.parents
  simp only [edges, hstack, hcalls, hsplit, ← List.append_assoc, List.map_append, List.map_cons,
    List.map_nil, List.append_nil] at hparents
  rw [← List.map_append] at hparents
  obtain ⟨-, y, hy, hyx⟩ := hparents.at.resolve_left hne
  obtain ⟨later, hlater, rfl⟩ := List.mem_map.mp hy
  refine ⟨later, ?_, hyx⟩
  rw [hsplit]
  simp [hlater]

theorem Recorded.stack_nil_of_parentClosed {r : Recorder} {frame : CallFrame}
    {stack : List CallFrame} (h : r.Recorded) (hstack : r.trace.stack = frame :: stack)
    {earlier : List CallRecord} {batch : PendingBatch} {record : CallRecord}
    (hcalls : r.emitted ++ [record] = earlier ++ batch.calls) (hmem : record ∈ batch.calls)
    (hedge : record.edge = frame.edge) (hclosed : ParentClosed earlier batch) : stack = [] := by
  cases hs : stack with
  | nil => rfl
  | cons below stack' =>
      have hlinked := h.linked
      rw [hstack, hs] at hlinked
      have hparent : record.parent = below.callId := by
        rw [← show frame.parent = below.callId from hlinked.1]
        exact (Prod.mk.inj hedge).2
      have hbelow : below.edge ∈ r.edges := by simp [edges, hstack, hs]
      have hpos : 0 < below.callId := (h.id_le hbelow).1
      obtain ⟨record', hrecord', hid⟩ := hclosed record hmem (by omega)
      -- the id of the open frame would occur twice among the edges
      have hnodup := h.ids_nodup
      simp only [edges, hstack, hs, List.map_append, List.map_cons] at hnodup
      rw [← hcalls] at hrecord'
      rcases List.mem_append.mp hrecord' with hold | hnew
      · have hdisj := (List.nodup_append.mp hnodup).2.2 record'.callId
          (List.mem_map_of_mem (List.mem_map_of_mem hold)) below.callId (by simp [CallFrame.edge])
        exact absurd (hid.trans hparent) hdisj
      · have hself : record'.callId = frame.callId := by
          rw [List.mem_singleton.mp hnew]
          exact (Prod.mk.inj hedge).1
        have hne := (List.nodup_cons.mp (List.nodup_append.mp hnodup).2.1).1
        refine absurd ?_ hne
        rw [show frame.edge.1 = below.callId from by rw [← hparent, ← hid, hself]; rfl]
        simp [CallFrame.edge]

/-- The one event that hands off a batch is the end of a call, and the batch is closed
under parents exactly when that end leaves no frame open. -/
theorem Recorded.parentClosed_step {r r' : Recorder} {e : Event} (h : r.Recorded)
    (hstep : r.step e = some r') {batch : PendingBatch} {answer : TrySend}
    (hhanded : r'.handed = r.handed ++ [(batch, answer)]) :
    ParentClosed r.calls batch ↔ r'.trace.stack = [] := by
  have hrec' := Recorded.step h hstep
  have hcalls' : r'.calls = r.calls ++ batch.calls := by simp [calls, hhanded]
  have hnone : r'.handed ≠ r.handed := by
    rw [hhanded]
    exact fun heq => List.cons_ne_nil _ _ (List.append_right_eq_self.mp heq)
  cases step_cases hstep with
  | dropBegin => exact absurd rfl hnone
  | acceptBegin => exact absurd rfl hnone
  | consumeEnd => exact absurd rfl hnone
  | strayEnd => exact absurd rfl hnone
  | budget => exact absurd rfl hnone
  | emitEnd exit abnormal answer' frame stack hdrop hstack =>
      rcases flushIfDue_eq_or (r.afterEmit stack (frame.intoCallRecord exit abnormal)) answer'
        with hflush | hflush
      · rw [hflush] at hnone
        exact absurd rfl hnone
      · rw [hflush] at hhanded hrec' hcalls' ⊢
        have hbatch : batch.calls = r.trace.buffer ++ [frame.intoCallRecord exit abnormal] := by
          obtain ⟨hb, -⟩ := Prod.mk.inj (List.singleton_inj.mp (List.append_cancel_left hhanded))
          rw [← hb]
          rfl
        have hemitted : r.emitted ++ [frame.intoCallRecord exit abnormal] =
            r.calls ++ batch.calls := by
          rw [hbatch, emitted, List.append_assoc]
        rw [stack_flushAndSend]
        constructor
        · exact h.stack_nil_of_parentClosed hstack hemitted (by simp [hbatch]) rfl
        · intro hnil
          refine hrec'.parentClosed_of_stack_nil hnil ?_
          rw [emitted, hcalls', buffer_flushAndSend, List.append_nil]

theorem Recorded.drained {r : Recorder} (h : r.Recorded) (exit : ExitSnapshots) :
    (r.drained exit).Recorded := by
  refine h.of_edges_eq ?_ rfl trivial
  simp only [edges, emitted_drained, List.map_append, List.map_map, List.append_assoc]
  exact congrArg _ (List.append_nil _)

theorem Recorded.parentClosed_release {r : Recorder} (h : r.Recorded) {exit : ExitSnapshots}
    {answer : TrySend} {b : PendingBatch × TrySend}
    (hhanded : (r.rshutdownReleaseTrace exit answer).handed = r.handed ++ [b]) :
    ParentClosed r.calls b.1 := by
  refine (h.drained exit).parentClosed_of_stack_nil rfl ?_
  rw [emitted_drained, ← calls_rshutdownReleaseTrace r exit answer, calls, hhanded,
    List.flatMap_append]
  simp [calls]

/-- A parent ships in the batch of its child or in a later one, never in an earlier one. -/
theorem Recorded.parent_forward {r : Recorder} (h : r.Recorded) {exit : ExitSnapshots}
    {answer : TrySend} {earlier later : List (PendingBatch × TrySend)} {b : PendingBatch × TrySend}
    (hhanded : (r.rshutdownReleaseTrace exit answer).handed = earlier ++ b :: later)
    {record : CallRecord} (hrecord : record ∈ b.1.calls) (hne : record.parent ≠ 0) :
    (∃ b' ∈ b :: later, ∃ record' ∈ b'.1.calls, record'.callId = record.parent) ∧
      ∀ b' ∈ earlier, ∀ record' ∈ b'.1.calls, record'.callId ≠ record.parent := by
  obtain ⟨pre, post, hsplit⟩ := List.append_of_mem hrecord
  have hcalls : (r.rshutdownReleaseTrace exit answer).calls =
      ((earlier.flatMap fun h => h.1.calls) ++ pre) ++
        record :: (post ++ later.flatMap fun h => h.1.calls) := by
    simp [calls, hhanded, hsplit]
  obtain ⟨-, above, habove, hid⟩ := (h.released_parent hcalls).resolve_left hne
  constructor
  · rcases List.mem_append.mp habove with hpost | hlater
    · exact ⟨b, List.mem_cons_self, above, by simp [hsplit, hpost], hid⟩
    · obtain ⟨b', hb', hmem⟩ := List.mem_flatMap.mp hlater
      exact ⟨b', List.mem_cons_of_mem _ hb', above, hmem, hid⟩
  · intro b' hb' record' hrecord' heq
    have hnodup := h.ids_nodup
    rw [← callId_calls_release r exit answer, hcalls, List.map_append] at hnodup
    refine (List.nodup_append.mp hnodup).2.2 record'.callId ?_ above.callId ?_ (heq.trans hid.symm)
    · exact List.mem_map_of_mem (List.mem_append_left _
        (List.mem_flatMap.mpr ⟨b', hb', hrecord'⟩))
    · exact List.mem_map_of_mem (List.mem_cons_of_mem _ habove)

/-- **Parents ship forward**: the record of a non-zero parent is in the same batch or in a
later one, never in an earlier one; a mid-request batch is closed under parents (as to
itself and the earlier batches) exactly when its flush leaves no frame open, and the batch
of `RSHUTDOWN` always is. -/
theorem parents_ship_forward {shared : Shared} {rinit : Rinit} {es : List Event} {r : Recorder}
    (h : run step (start shared rinit) es = some r) (exit : ExitSnapshots) (answer : TrySend) :
    (∀ earlier b later,
      (r.rshutdownReleaseTrace exit answer).handed = earlier ++ b :: later →
      ∀ record ∈ b.1.calls, record.parent ≠ 0 →
        (∃ b' ∈ b :: later, ∃ record' ∈ b'.1.calls, record'.callId = record.parent) ∧
          ∀ b' ∈ earlier, ∀ record' ∈ b'.1.calls, record'.callId ≠ record.parent) ∧
    (∀ pre e post s s' batch answer', es = pre ++ e :: post →
      run step (start shared rinit) pre = some s → s.step e = some s' →
      s'.handed = s.handed ++ [(batch, answer')] →
        (ParentClosed s.calls batch ↔ s'.trace.stack = [])) ∧
    ∀ b, (r.rshutdownReleaseTrace exit answer).handed = r.handed ++ [b] →
      ParentClosed r.calls b.1 := by
  have hrec := recorded_run h
  refine ⟨fun earlier b later hhanded record hrecord hne =>
    hrec.parent_forward hhanded hrecord hne, ?_, fun b hb => hrec.parentClosed_release hb⟩
  intro pre e post s s' batch answer' _ hpre hstep hhanded
  exact (recorded_run hpre).parentClosed_step hstep hhanded

/-- A call inside a call, with one record to a batch: the inner record ships first, and the
batch of `RSHUTDOWN` closes the gap. -/
theorem parents_ship_forward_nested :
    ∃ r, run step (start Shared.init (rinitWith ⟨8, 4096, 1, 4096⟩))
        [beginOf "f" 1, beginOf "g" 2, endAt 3] = some r ∧
      ∃ b, (r.rshutdownReleaseTrace (exitAt 4) .ok).handed = r.handed ++ [b] ∧
        ParentClosed r.calls b.1 :=
  ⟨(run step (start Shared.init (rinitWith ⟨8, 4096, 1, 4096⟩))
      [beginOf "f" 1, beginOf "g" 2, endAt 3]).get (by decide),
    (Option.some_get _).symm, _, rfl,
    (parents_ship_forward (Option.some_get _).symm (exitAt 4) .ok).2.2 _ rfl⟩

/-- A batch need not be closed under parents: with one record to a batch, the record of an
inner call is flushed while the outer call is open. -/
theorem not_every_batch_parentClosed :
    ¬ ∀ (shared : Shared) (rinit : Rinit) (es : List Event) (r : Recorder)
        (exit : ExitSnapshots) (answer : TrySend),
      WellNested Event.mark es → run step (start shared rinit) es = some r →
      ∀ earlier b later,
        (r.rshutdownReleaseTrace exit answer).handed = earlier ++ b :: later →
        ParentClosed (earlier.flatMap fun h => h.1.calls) b.1 := by
  intro h
  have hclosed := h Shared.init (rinitWith ⟨8, 4096, 1, 4096⟩)
    [beginOf "f" 1, beginOf "g" 2, endAt 3, endAt 4] _ (exitAt 5) .ok (by decide)
    (Option.some_get (by decide)).symm [] _ _ rfl
  revert hclosed
  decide

end Recorder

end PhpAnalyze
