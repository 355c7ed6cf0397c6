import PhpAnalyze.Recorder

/-! # The flow of dictionary entries

An entry is staged once, when its function is interned, and ships with the next batch; the
interning map stays, so later records refer to an entry of an earlier batch.

`DictFlow r t` relates the dictionary of a trace, the entries staged so far and the records
made so far to one interner `t`.  From it: every record is decodable from its own batch or
earlier ones (`Decodable`), and an entry is in exactly one batch.  Whether the collector can
decode a record is therefore decided by the fate of that one batch
(`record_decodable_iff`). -/

namespace PhpAnalyze

open Machine Interning

def CarriesEntry (handed : List (PendingBatch × TrySend)) (k fnId : ℕ) : Prop :=
  ∃ b, handed[k]? = some b ∧ fnId ∈ b.1.dict.map DictEntry.fnId

/-- Every record of a batch has its entry in the batch or in an earlier one. -/
def Decodable (handed : List (PendingBatch × TrySend)) : Prop :=
  ∀ j b, handed[j]? = some b → ∀ record ∈ b.1.calls, ∃ i ≤ j, CarriesEntry handed i record.fnId

theorem CarriesEntry.append {handed : List (PendingBatch × TrySend)} {k fnId : ℕ}
    (h : CarriesEntry handed k fnId) (rest : List (PendingBatch × TrySend)) :
    CarriesEntry (handed ++ rest) k fnId := by
  obtain ⟨b, hb, hmem⟩ := h
  refine ⟨b, ?_, hmem⟩
  rw [List.getElem?_append_left (List.getElem?_eq_some_iff.mp hb).1, hb]

theorem exists_carriesEntry {handed : List (PendingBatch × TrySend)} {fnId : ℕ}
    (h : fnId ∈ (handed.flatMap fun h => h.1.dict).map DictEntry.fnId) :
    ∃ i < handed.length, CarriesEntry handed i fnId := by
  obtain ⟨entry, hentry, rfl⟩ := List.mem_map.mp h
  obtain ⟨b, hb, hmem⟩ := List.mem_flatMap.mp hentry
  obtain ⟨i, hi, rfl⟩ := List.getElem_of_mem hb
  exact ⟨i, hi, _, List.getElem?_eq_getElem hi, List.mem_map_of_mem hmem⟩

theorem CarriesEntry.unique {handed : List (PendingBatch × TrySend)}
    (hnodup : ((handed.flatMap fun h => h.1.dict).map DictEntry.fnId).Nodup) {i k fnId : ℕ}
    (hi : CarriesEntry handed i fnId) (hk : CarriesEntry handed k fnId) : k = i := by
  rw [List.map_flatMap, List.nodup_flatMap] at hnodup
  have hdisj := List.pairwise_iff_getElem.mp hnodup.2
  obtain ⟨bi, hbi, hmemi⟩ := hi
  obtain ⟨bk, hbk, hmemk⟩ := hk
  obtain ⟨hilt, rfl⟩ := List.getElem?_eq_some_iff.mp hbi
  obtain ⟨hklt, rfl⟩ := List.getElem?_eq_some_iff.mp hbk
  rcases Nat.lt_trichotomy k i with hlt | heq | hlt
  · exact absurd hmemi (List.disjoint_left.mp (hdisj k i hklt hilt hlt) hmemk)
  · exact heq
  · exact absurd hmemk (List.disjoint_left.mp (hdisj i k hilt hklt hlt) hmemi)

namespace Recorder

/-- The invariant of the dictionary of a trace, at the interner `t` that it refines. -/
structure DictFlow (r : Recorder) (t : Interner FunctionKey) : Prop where
  refines : r.trace.dictionary.Refines t
  staged : r.stagedEntries.map DictEntry.fnId = List.range' 1 t.keys.length
  frames : ∀ frame ∈ r.trace.stack, frame.fnId ∈ List.range' 1 t.keys.length
  buffered : ∀ record ∈ r.trace.buffer, record.fnId ∈ List.range' 1 t.keys.length
  handed : Decodable r.handed

theorem dictFlow_start (shared : Shared) (rinit : Rinit) :
    (start shared rinit).DictFlow Interner.empty where
  refines := Dictionary.refines_new
  staged := rfl
  frames _ h := absurd h List.not_mem_nil
  buffered _ h := absurd h List.not_mem_nil
  handed _ _ h := absurd h (by simp [start])

variable {r : Recorder} {t : Interner FunctionKey}

theorem DictFlow.flushAndSend (h : r.DictFlow t) (answer : TrySend) :
    (r.flushAndSend answer).DictFlow t where
  refines := h.refines.takeNewEntries
  staged := by rw [stagedEntries_flushAndSend, h.staged]
  frames := h.frames
  buffered _ hmem := absurd hmem List.not_mem_nil
  handed := by
    intro j b hb record hrecord
    have hhanded : (r.flushAndSend answer).handed =
        r.handed ++ [(r.trace.flushIntoPendingBatch.1, answer)] := rfl
    have hdicts : ((r.flushAndSend answer).handed.flatMap fun h => h.1.dict).map DictEntry.fnId =
        List.range' 1 t.keys.length := by
      rw [← h.staged, stagedEntries, dicts, hhanded, List.flatMap_append, List.flatMap_singleton]
      rfl
    rw [hhanded] at hb
    rcases Nat.lt_or_ge j r.handed.length with hj | hj
    · rw [List.getElem?_append_left hj] at hb
      obtain ⟨i, hi, hcarries⟩ := h.handed j b hb record hrecord
      exact ⟨i, hi, hcarries.append _⟩
    · have hjlt := (List.getElem?_eq_some_iff.mp hb).1
      rw [List.length_append, List.length_singleton] at hjlt
      have hjeq : j = r.handed.length := by omega
      rw [hjeq, List.getElem?_concat_length] at hb
      obtain rfl := Option.some.inj hb
      have hmem := h.buffered record hrecord
      rw [← hdicts] at hmem
      obtain ⟨i, hi, hcarries⟩ := exists_carriesEntry hmem
      rw [hhanded, List.length_append, List.length_singleton] at hi
      exact ⟨i, by omega, hcarries⟩

theorem DictFlow.flushIfDue (h : r.DictFlow t) (answer : TrySend) :
    (r.flushIfDue answer).DictFlow t := by
  rcases r.flushIfDue_eq_or answer with hr | hr <;> rw [hr]
  · exact h
  · exact h.flushAndSend answer

theorem mem_range'_mono {n m k : ℕ} (hnm : n ≤ m) (h : k ∈ List.range' 1 n) :
    k ∈ List.range' 1 m := by
  rw [List.mem_range'_1] at h ⊢
  omega

theorem DictFlow.afterAccept (h : r.DictFlow t) {plan : BeginPlan} {fnId : ℕ}
    {outcome : ProbeOutcome} {dictionary : Dictionary}
    (hdict : r.trace.dictionary.internRef plan.keyRef plan.build =
      some (fnId, outcome, dictionary)) (entry : EntrySnapshots) (bytes : ℕ) :
    (r.afterAccept (r.newFrame fnId entry) dictionary bytes).DictFlow
      (t.intern plan.keyRef.toOwned) := by
  obtain ⟨hrefines, hid⟩ := h.refines.internRef plan.build_key hdict
  have hgrow := (t.keys_prefix_intern plan.keyRef.toOwned).length_le
  refine ⟨hrefines, ?_, ?_, fun record hmem => mem_range'_mono hgrow (h.buffered record hmem),
    h.handed⟩
  · rcases Dictionary.internRef_eq_some.mp hdict with
      ⟨hprobe, -, rfl⟩ | ⟨hprobe, rfl, -, -, rfl⟩
    · have hnext : (t.intern plan.keyRef.toOwned).keys.length = t.keys.length :=
        Nat.succ.inj (hrefines.next.symm.trans h.refines.next)
      rw [hnext]
      exact h.staged
    · have hnext : (t.intern plan.keyRef.toOwned).keys.length = t.keys.length + 1 := by
        have hn := hrefines.next
        rw [Dictionary.stage, h.refines.next] at hn
        exact (Nat.succ.inj hn).symm
      have hstaged : (r.afterAccept (r.newFrame r.trace.dictionary.nextFnId entry)
          (r.trace.dictionary.stage (plan.build r.trace.dictionary.nextFnId)) bytes).stagedEntries =
            r.stagedEntries ++ [(plan.build r.trace.dictionary.nextFnId).2] := by
        simp [stagedEntries, dicts, Recorder.afterAccept, Dictionary.stage]
      rw [hstaged, List.map_append, h.staged, hnext, List.range'_concat, List.map_singleton,
        plan.build_fnId, h.refines.next, Nat.one_mul, Nat.add_comm 1]
  · intro frame hframe
    rcases List.mem_cons.mp hframe with rfl | hold
    · have hpos := Interner.idOf_pos hid
      have hle := Interner.idOf_le_length hid
      rw [List.mem_range'_1]
      show 1 ≤ fnId ∧ fnId < 1 + _
      omega
    · exact mem_range'_mono hgrow (h.frames frame hold)

/-- **Step lemma**: every event preserves the invariant, at a grown interner. -/
theorem DictFlow.step {r' : Recorder} {e : Event} (h : r.DictFlow t)
    (hstep : r.step e = some r') : ∃ t', r'.DictFlow t' := by
  cases step_cases hstep with
  | dropBegin => exact ⟨t, h.refines, h.staged, h.frames, h.buffered, h.handed⟩
  | acceptBegin path site entry fnId outcome dictionary hgate hdict =>
      exact ⟨_, h.afterAccept hdict entry _⟩
  | consumeEnd => exact ⟨t, h.refines, h.staged, h.frames, h.buffered, h.handed⟩
  | strayEnd => exact ⟨t, h.refines, h.staged, h.frames, h.buffered, h.handed⟩
  | emitEnd exit abnormal answer frame stack hdrop hstack =>
      have hemit : (r.afterEmit stack (frame.intoCallRecord exit abnormal)).DictFlow t := by
        refine ⟨h.refines, h.staged, ?_, ?_, h.handed⟩
        · intro f hf
          exact h.frames f (by rw [hstack]; exact List.mem_cons_of_mem _ hf)
        · intro record hrecord
          rcases List.mem_append.mp hrecord with hold | hnew
          · exact h.buffered record hold
          · rw [List.mem_singleton.mp hnew]
            exact h.frames frame (by rw [hstack]; exact List.mem_cons_self)
      exact ⟨t, hemit.flushIfDue answer⟩
  | budget => exact ⟨t, h.refines, h.staged, h.frames, h.buffered, h.handed⟩

/-- **Run lemma.** -/
theorem dictFlow_run {shared : Shared} {rinit : Rinit} {es : List Event} {r : Recorder}
    (h : run step (start shared rinit) es = some r) : ∃ t, r.DictFlow t :=
  run_invariant (I := fun r => ∃ t, r.DictFlow t)
    (fun _ _ _ hstep ⟨_, ht⟩ => ht.step hstep) h ⟨_, dictFlow_start shared rinit⟩

/-- `RSHUTDOWN` hands off decodable batches that repeat no entry. -/
theorem DictFlow.release (h : r.DictFlow t) (exit : ExitSnapshots) (answer : TrySend) :
    Decodable (r.rshutdownReleaseTrace exit answer).handed ∧
      ((r.rshutdownReleaseTrace exit answer).dicts.map DictEntry.fnId).Nodup := by
  have hdrained : (r.drained exit).DictFlow t := by
    refine ⟨h.refines, h.staged, fun _ hmem => absurd hmem List.not_mem_nil, ?_, h.handed⟩
    intro record hrecord
    rcases List.mem_append.mp hrecord with hold | hnew
    · exact h.buffered record hold
    · obtain ⟨frame, hframe, rfl⟩ := List.mem_map.mp hnew
      exact h.frames frame hframe
  have hflushed : ((r.drained exit).flushed answer).DictFlow t := by
    unfold flushed
    split
    · exact hdrained
    · exact hdrained.flushAndSend answer
  rw [rshutdownReleaseTrace_eq]
  refine ⟨hflushed.handed, ?_⟩
  have hnodup : (((r.drained exit).flushed answer).stagedEntries.map DictEntry.fnId).Nodup := by
    rw [hflushed.staged]
    exact List.nodup_range'
  rw [stagedEntries, List.map_append] at hnodup
  exact (List.nodup_append.mp hnodup).1

end Recorder

/-! ### What the collector can decode -/

inductive Fate where
  | refused
  | sent
  | dropped
deriving DecidableEq, Repr

/-- The batches up to `j` that were sent carry the entry. -/
def Delivered (handed : List (PendingBatch × TrySend)) (fate : ℕ → Fate) (j fnId : ℕ) : Prop :=
  ∃ k ≤ j, fate k = .sent ∧ CarriesEntry handed k fnId

namespace Recorder

/-- **A record is decodable exactly when the one batch that carries its entry was sent**:
for every run with its `RSHUTDOWN` and every fate of the batches, each record of a sent
batch has its entry in exactly one flushed batch, the same one or an earlier one, and the
entry was delivered up to that point if and only if that batch was sent. -/
theorem record_decodable_iff {shared : Shared} {rinit : Rinit} {es : List Event} {r : Recorder}
    (h : run step (start shared rinit) es = some r) (exit : ExitSnapshots) (answer : TrySend)
    (fate : ℕ → Fate) :
    ∀ j b, (r.rshutdownReleaseTrace exit answer).handed[j]? = some b → fate j = .sent →
      ∀ record ∈ b.1.calls, ∃ i ≤ j,
        (∀ k, CarriesEntry (r.rshutdownReleaseTrace exit answer).handed k record.fnId ↔ k = i) ∧
          (Delivered (r.rshutdownReleaseTrace exit answer).handed fate j record.fnId ↔
            fate i = .sent) := by
  obtain ⟨t, hflow⟩ := dictFlow_run h
  obtain ⟨hdecodable, hnodup⟩ := hflow.release exit answer
  intro j b hb _ record hrecord
  obtain ⟨i, hi, hcarries⟩ := hdecodable j b hb record hrecord
  have hunique : ∀ k, CarriesEntry (r.rshutdownReleaseTrace exit answer).handed k record.fnId ↔
      k = i :=
    fun k => ⟨fun hk => hcarries.unique hnodup hk, fun hk => hk ▸ hcarries⟩
  refine ⟨i, hi, hunique, ?_, fun hsent => ⟨i, hi, hsent, hcarries⟩⟩
  rintro ⟨k, -, hsent, hk⟩
  rw [← (hunique k).mp hk]
  exact hsent

/-- Two calls of one function in two batches: the second refers to the first. -/
theorem record_decodable_iff_two_batches :
    ∃ r, run step (start Shared.init (rinitWith ⟨8, 4096, 1, 4096⟩))
        [beginOf "f" 1, endAt 2, beginOf "f" 3, endAt 4] = some r ∧
      ∃ b, (r.rshutdownReleaseTrace (exitAt 5) .ok).handed[1]? = some b ∧
        ∀ record ∈ b.1.calls, ∃ i ≤ 1,
          (∀ k, CarriesEntry (r.rshutdownReleaseTrace (exitAt 5) .ok).handed k record.fnId ↔
              k = i) ∧
            (Delivered (r.rshutdownReleaseTrace (exitAt 5) .ok).handed (fun _ => .sent) 1
              record.fnId ↔ (fun _ => Fate.sent) i = .sent) :=
  ⟨(run step (start Shared.init (rinitWith ⟨8, 4096, 1, 4096⟩))
      [beginOf "f" 1, endAt 2, beginOf "f" 3, endAt 4]).get (by decide),
    (Option.some_get _).symm, _, rfl,
    record_decodable_iff (Option.some_get _).symm (exitAt 5) .ok (fun _ => .sent) 1 _ rfl rfl⟩

/-- A sent batch need not be decodable: when the channel refuses the batch that carries the
entry, a later call of the same function is sent without it. -/
theorem not_every_sent_record_decodable :
    ¬ ∀ (shared : Shared) (rinit : Rinit) (es : List Event) (r : Recorder)
        (exit : ExitSnapshots) (answer : TrySend) (fate : ℕ → Fate),
      run step (start shared rinit) es = some r →
      (∀ j b, (r.rshutdownReleaseTrace exit answer).handed[j]? = some b →
        b.2 = .full ∧ fate j = .refused ∨ b.2 = .ok ∧ fate j ≠ .refused) →
      ∀ j b, (r.rshutdownReleaseTrace exit answer).handed[j]? = some b → fate j = .sent →
        ∀ record ∈ b.1.calls,
          Delivered (r.rshutdownReleaseTrace exit answer).handed fate j record.fnId := by
  intro h
  have hdelivered := h Shared.init (rinitWith ⟨8, 4096, 1, 4096⟩)
    [beginOf "f" 1, .endCall (exitAt 2) false .full, beginOf "f" 3, endAt 4] _ (exitAt 5) .ok
    (fun j => if j = 0 then .refused else .sent) (Option.some_get (by decide)).symm
    (by
      intro j b hb
      match j with
      | 0 => exact .inl ⟨by cases hb; rfl, rfl⟩
      | 1 => exact .inr ⟨by cases hb; rfl, by decide⟩
      | j + 2 => cases hb)
    1 _ rfl rfl _ List.mem_cons_self
  obtain ⟨k, hk, hsent, b, hb, hmem⟩ := hdelivered
  match k with
  | 0 => cases hsent
  | 1 =>
      cases hb
      exact absurd hmem (by decide)
  | k + 2 => omega

end Recorder

end PhpAnalyze
