import PhpAnalyze.DictFlow
import PhpAnalyze.Records

/-! # The batches partition the dictionary

The accepted begins of a run decide what the dictionaries of its batches say: put together
in flush order they list one entry for each function key, in order of first acceptance and
numbered from `1`, built from the first call site that had the key.

`DictLog sites r` is the invariant, for the list `sites` of the begins accepted so far.  Its
last field is why nothing is lost: an entry stays staged only while a record or an open frame
waits for the same flush. -/

namespace PhpAnalyze

open Machine Interning

/-- An accepted begin: the path that ran it and its call site. -/
abbrev AcceptedSite := BeginPath × RawCallSite

namespace AcceptedSite

def key (s : AcceptedSite) : FunctionKey := (s.1.plan s.2).keyRef.toOwned

/-- The entry of the call site, under the given `fn_id`. -/
def entry (s : AcceptedSite) (fnId : ℕ) : DictEntry := ((s.1.plan s.2).build fnId).2

@[simp] theorem fnId_entry (s : AcceptedSite) (fnId : ℕ) : (s.entry fnId).fnId = fnId :=
  (s.1.plan s.2).build_fnId fnId

end AcceptedSite

/-- One entry for each key, in order of first acceptance, numbered from `1`. -/
def dictOf (sites : List AcceptedSite) : List DictEntry :=
  (Interner.firsts AcceptedSite.key sites).mapIdx fun i site => site.entry (i + 1)

def internerOf (sites : List AcceptedSite) : Interner FunctionKey :=
  Interner.internAll .empty (sites.map AcceptedSite.key)

theorem keys_internerOf (sites : List AcceptedSite) :
    (internerOf sites).keys = (Interner.firsts AcceptedSite.key sites).map AcceptedSite.key :=
  (Interner.map_key_firsts _ _).symm

theorem internerOf_snoc (sites : List AcceptedSite) (site : AcceptedSite) :
    internerOf (sites ++ [site]) = (internerOf sites).intern site.key := by
  rw [internerOf, List.map_append, Interner.internAll_append]
  rfl

theorem dictOf_snoc_of_mem {sites : List AcceptedSite} {site : AcceptedSite}
    (h : site.key ∈ (internerOf sites).keys) : dictOf (sites ++ [site]) = dictOf sites := by
  rw [keys_internerOf] at h
  rw [dictOf, Interner.firsts_snoc, Interner.addFirst, if_pos h, dictOf]

theorem dictOf_snoc_of_not_mem {sites : List AcceptedSite} {site : AcceptedSite}
    (h : site.key ∉ (internerOf sites).keys) :
    dictOf (sites ++ [site]) =
      dictOf sites ++ [site.entry ((internerOf sites).keys.length + 1)] := by
  rw [keys_internerOf] at h ⊢
  rw [dictOf, Interner.firsts_snoc, Interner.addFirst, if_neg h, List.mapIdx_concat,
    List.length_map, dictOf]

/-- The entry that the list holds under a `fn_id` is that of the first site with its key. -/
theorem entry_of_mem_dictOf {sites : List AcceptedSite} {entry : DictEntry}
    (h : entry ∈ dictOf sites) :
    ∃ first, 0 < entry.fnId ∧
      (Interner.firsts AcceptedSite.key sites)[entry.fnId - 1]? = some first ∧
      entry = first.entry entry.fnId := by
  rw [dictOf, List.mem_mapIdx] at h
  obtain ⟨i, hi, rfl⟩ := h
  refine ⟨(Interner.firsts AcceptedSite.key sites)[i], ?_, ?_, ?_⟩ <;>
    rw [AcceptedSite.fnId_entry]
  · exact Nat.succ_pos i
  · rw [Nat.add_sub_cancel, List.getElem?_eq_getElem hi]

namespace Recorder

/-! ### The begins that a run accepts -/

def acceptedBegin? : Recorder → Event → Option AcceptedSite
  | r, .beginCall path site _ => if r.accepts path site then some (path, site) else none
  | _, _ => none

/-- The accepted begins of a run, in order. -/
def accepted (r₀ : Recorder) (es : List Event) : List AcceptedSite :=
  (outputs step acceptedBegin? r₀ es).filterMap id

theorem accepted_snoc {r₀ r : Recorder} {es : List Event} (h : run step r₀ es = some r)
    (e : Event) : accepted r₀ (es ++ [e]) = accepted r₀ es ++ (r.acceptedBegin? e).toList := by
  rw [accepted, outputs_snoc _ h, List.filterMap_append, accepted]
  cases r.acceptedBegin? e <;> rfl

/-! ### The invariant -/

/-- The id and the `fn_id` of a call name an accepted begin and its key. -/
def Names (sites : List AcceptedSite) (callId fnId : ℕ) : Prop :=
  ∃ site, 0 < callId ∧ sites[callId - 1]? = some site ∧
    (internerOf sites).idOf site.key = some fnId

theorem Names.snoc {sites : List AcceptedSite} {callId fnId : ℕ} (h : Names sites callId fnId)
    (site : AcceptedSite) : Names (sites ++ [site]) callId fnId := by
  obtain ⟨s, hpos, hs, hid⟩ := h
  refine ⟨s, hpos, ?_, ?_⟩
  · rw [List.getElem?_append_left (List.getElem?_eq_some_iff.mp hs).1, hs]
  · rw [internerOf_snoc]
    exact Interner.idOf_mono (Interner.keys_prefix_intern _ _) hid

/-- The invariant of a trace that has accepted the begins `sites`. -/
structure DictLog (sites : List AcceptedSite) (r : Recorder) : Prop where
  refines : r.trace.dictionary.Refines (internerOf sites)
  staged : r.stagedEntries = dictOf sites
  seq : r.trace.callIdSeq = sites.length
  frames : ∀ frame ∈ r.trace.stack, Names sites frame.callId frame.fnId
  records : ∀ record ∈ r.emitted, Names sites record.callId record.fnId
  waiting : r.trace.dictionary.newEntries ≠ [] → r.trace.buffer ≠ [] ∨ r.trace.stack ≠ []

theorem dictLog_start (shared : Shared) (rinit : Rinit) : DictLog [] (start shared rinit) where
  refines := Dictionary.refines_new
  staged := rfl
  seq := rfl
  frames _ h := absurd h List.not_mem_nil
  records _ h := absurd h List.not_mem_nil
  waiting h := absurd rfl h

variable {r : Recorder} {sites : List AcceptedSite}

theorem DictLog.flushAndSend (h : DictLog sites r) (answer : TrySend) :
    DictLog sites (r.flushAndSend answer) where
  refines := h.refines.takeNewEntries
  staged := by rw [stagedEntries_flushAndSend, h.staged]
  seq := h.seq
  frames := h.frames
  records := by
    rw [emitted_flushAndSend]
    exact h.records
  waiting hne := absurd rfl hne

theorem DictLog.flushIfDue (h : DictLog sites r) (answer : TrySend) :
    DictLog sites (r.flushIfDue answer) := by
  rcases r.flushIfDue_eq_or answer with hr | hr <;> rw [hr]
  · exact h
  · exact h.flushAndSend answer

theorem DictLog.staged_internRef (h : DictLog sites r) {site : AcceptedSite} {fnId : ℕ}
    {outcome : ProbeOutcome} {dictionary : Dictionary}
    (hdict : r.trace.dictionary.internRef (site.1.plan site.2).keyRef (site.1.plan site.2).build =
      some (fnId, outcome, dictionary)) :
    r.dicts ++ dictionary.newEntries = dictOf (sites ++ [site]) := by
  have hprobe := h.refines.probeRef_eq (site.1.plan site.2).keyRef
  have hstaged := h.staged
  rw [stagedEntries] at hstaged
  rcases Dictionary.internRef_eq_some.mp hdict with ⟨hhit, -, rfl⟩ | ⟨hmiss, rfl, -, -, rfl⟩
  · rw [hhit] at hprobe
    have hmem : site.key ∈ (internerOf sites).keys := by
      by_contra hno
      exact Option.some_ne_none fnId (hprobe.trans (Interner.idOf_eq_none.mpr hno))
    rw [dictOf_snoc_of_mem hmem, hstaged]
  · rw [hmiss] at hprobe
    have hnot : site.key ∉ (internerOf sites).keys := Interner.idOf_eq_none.mp hprobe.symm
    rw [dictOf_snoc_of_not_mem hnot, ← hstaged, ← h.refines.next, Dictionary.stage,
      List.append_assoc]
    rfl

theorem DictLog.afterAccept (h : DictLog sites r) (site : AcceptedSite) {fnId : ℕ}
    {outcome : ProbeOutcome} {dictionary : Dictionary}
    (hdict : r.trace.dictionary.internRef (site.1.plan site.2).keyRef (site.1.plan site.2).build =
      some (fnId, outcome, dictionary)) (entry : EntrySnapshots) (bytes : ℕ) :
    DictLog (sites ++ [site])
      (r.afterAccept (r.newFrame fnId entry) dictionary bytes) := by
  obtain ⟨hrefines, hid⟩ := h.refines.internRef (site.1.plan site.2).build_key hdict
  rw [← AcceptedSite.key, ← internerOf_snoc] at hrefines hid
  refine ⟨hrefines, h.staged_internRef hdict, ?_, ?_, fun record hrecord =>
    (h.records record hrecord).snoc site, fun _ => .inr (List.cons_ne_nil _ _)⟩
  · rw [List.length_append, List.length_singleton, ← h.seq]
    rfl
  · intro frame hframe
    rcases List.mem_cons.mp hframe with rfl | hold
    · refine ⟨site, Nat.succ_pos _, ?_, hid⟩
      show (sites ++ [site])[r.trace.callIdSeq + 1 - 1]? = some site
      rw [Nat.add_sub_cancel, h.seq, List.getElem?_concat_length]
    · exact (h.frames frame hold).snoc site

theorem DictLog.afterEmit (h : DictLog sites r) {frame : CallFrame} {stack : List CallFrame}
    (hstack : r.trace.stack = frame :: stack) (exit : ExitSnapshots) (abnormal : Bool) :
    DictLog sites (r.afterEmit stack (frame.intoCallRecord exit abnormal)) := by
  have htop : Names sites frame.callId frame.fnId :=
    h.frames frame (by rw [hstack]; exact List.mem_cons_self)
  refine ⟨h.refines, h.staged, h.seq, ?_, ?_, fun _ => .inl (List.concat_ne_nil _ _)⟩
  · intro f hf
    exact h.frames f (by rw [hstack]; exact List.mem_cons_of_mem _ hf)
  · intro record hrecord
    rw [emitted_afterEmit] at hrecord
    rcases List.mem_append.mp hrecord with hold | hnew
    · exact h.records record hold
    · rw [List.mem_singleton.mp hnew]
      exact htop

/-- **Step lemma.** -/
theorem DictLog.step {r' : Recorder} {e : Event} (h : DictLog sites r)
    (hstep : r.step e = some r') : DictLog (sites ++ (r.acceptedBegin? e).toList) r' := by
  cases step_cases hstep with
  | dropBegin path site entry hgate =>
      have hnone : r.acceptedBegin? (.beginCall path site entry) = none := by
        simp [acceptedBegin?, hgate]
      rw [hnone, Option.toList_none, List.append_nil]
      exact ⟨h.refines, h.staged, h.seq, h.frames, h.records, h.waiting⟩
  | acceptBegin path site entry fnId outcome dictionary hgate hdict =>
      have hsome : r.acceptedBegin? (.beginCall path site entry) = some (path, site) := by
        simp [acceptedBegin?, hgate]
      rw [hsome, Option.toList_some]
      exact h.afterAccept (path, site) hdict entry _
  | consumeEnd | strayEnd | budget =>
      simp only [acceptedBegin?, Option.toList_none, List.append_nil]
      exact ⟨h.refines, h.staged, h.seq, h.frames, h.records, h.waiting⟩
  | emitEnd exit abnormal answer frame stack hdrop hstack =>
      simp only [acceptedBegin?, Option.toList_none, List.append_nil]
      exact (h.afterEmit hstack exit abnormal).flushIfDue answer

/-- **Run lemma.** -/
theorem dictLog_run {shared : Shared} {rinit : Rinit} {es : List Event} {r : Recorder}
    (h : run step (start shared rinit) es = some r) :
    DictLog (accepted (start shared rinit) es) r := by
  refine run_induction (P := fun es r => DictLog (accepted (start shared rinit) es) r)
    (dictLog_start shared rinit) ?_ h
  intro es r e r' hrun ih hstep
  rw [accepted_snoc hrun]
  exact ih.step hstep

/-! ### `RSHUTDOWN` -/

theorem DictLog.drained (h : DictLog sites r) (exit : ExitSnapshots) :
    DictLog sites (r.drained exit) := by
  refine ⟨h.refines, h.staged, h.seq, fun _ hmem => absurd hmem List.not_mem_nil, ?_, ?_⟩
  · intro record hrecord
    rw [emitted_drained] at hrecord
    rcases List.mem_append.mp hrecord with hold | hnew
    · exact h.records record hold
    · obtain ⟨frame, hframe, rfl⟩ := List.mem_map.mp hnew
      exact h.frames frame hframe
  · intro hne
    refine .inl fun hempty => ?_
    obtain ⟨hbuffer, hstack⟩ := List.append_eq_nil_iff.mp hempty
    rcases h.waiting hne with hb | hs
    · exact hb hbuffer
    · exact hs (List.map_eq_nil_iff.mp hstack)

/-- With an empty buffer and no open frame nothing is staged. -/
theorem DictLog.newEntries_eq_nil (h : DictLog sites r) (hbuffer : r.trace.buffer = [])
    (hstack : r.trace.stack = []) : r.trace.dictionary.newEntries = [] := by
  by_contra hne
  rcases h.waiting hne with hb | hs
  · exact hb hbuffer
  · exact hs hstack

/-- The final flush of `RSHUTDOWN` leaves no staged entry, whether it happens or not. -/
theorem DictLog.newEntries_flushed (h : DictLog sites r) (hstack : r.trace.stack = [])
    (answer : TrySend) : (r.flushed answer).trace.dictionary.newEntries = [] := by
  unfold flushed
  split
  · exact h.newEntries_eq_nil (List.isEmpty_iff.mp ‹_›) hstack
  · rfl

theorem DictLog.flushed (h : DictLog sites r) (answer : TrySend) :
    DictLog sites (r.flushed answer) := by
  unfold Recorder.flushed
  split
  · exact h
  · exact h.flushAndSend answer

theorem DictLog.dicts_release (h : DictLog sites r) (exit : ExitSnapshots) (answer : TrySend) :
    (r.rshutdownReleaseTrace exit answer).dicts = dictOf sites := by
  have hflushed := (h.drained exit).flushed answer
  have hstaged := hflushed.staged
  rw [stagedEntries, (h.drained exit).newEntries_flushed rfl, List.append_nil] at hstaged
  rw [rshutdownReleaseTrace_eq]
  exact hstaged

/-- The entry of a record, in its own batch or an earlier one. -/
theorem DictLog.exists_entry (h : DictLog sites r) {exit : ExitSnapshots} {answer : TrySend}
    (hdecodable : Decodable (r.rshutdownReleaseTrace exit answer).handed) {j : ℕ}
    {b : PendingBatch × TrySend}
    (hb : (r.rshutdownReleaseTrace exit answer).handed[j]? = some b) {record : CallRecord}
    (hrecord : record ∈ b.1.calls) :
    ∃ site first, sites[record.callId - 1]? = some site ∧
      (Interner.firsts AcceptedSite.key sites)[record.fnId - 1]? = some first ∧
      first.key = site.key ∧
      ∃ i ≤ j, ∃ b', (r.rshutdownReleaseTrace exit answer).handed[i]? = some b' ∧
        first.entry record.fnId ∈ b'.1.dict := by
  have hcalls : record ∈ (r.rshutdownReleaseTrace exit answer).calls :=
    List.mem_flatMap.mpr ⟨b, List.mem_of_getElem? hb, hrecord⟩
  rw [calls_rshutdownReleaseTrace, ← emitted_drained] at hcalls
  obtain ⟨site, -, hsite, hid⟩ := (h.drained exit).records record hcalls
  obtain ⟨i, hi, b', hb', hmem⟩ := hdecodable j b hb record hrecord
  obtain ⟨entry, hentry, hfnId⟩ := List.mem_map.mp hmem
  have hdict : entry ∈ (r.rshutdownReleaseTrace exit answer).dicts :=
    List.mem_flatMap.mpr ⟨b', List.mem_of_getElem? hb', hentry⟩
  rw [h.dicts_release] at hdict
  obtain ⟨first, -, hfirst, heq⟩ := entry_of_mem_dictOf hdict
  rw [hfnId] at hfirst heq
  have hkey := (Interner.idOf_eq_some.mp hid).2
  rw [keys_internerOf, List.getElem?_map, hfirst] at hkey
  exact ⟨site, first, hsite, hfirst, Option.some.inj hkey, i, hi, b', hb', heq ▸ hentry⟩

theorem fnId_dictOf (sites : List AcceptedSite) :
    (dictOf sites).map DictEntry.fnId =
      List.range' 1 (Interner.firsts AcceptedSite.key sites).length := by
  refine List.ext_getElem (by simp [dictOf]) fun i hi hi' => ?_
  simp [dictOf, Nat.add_comm]

/-- **The batches partition the dictionary.**  For every run of a trace and its `RSHUTDOWN`,
with `firsts` the first accepted site of each function key, in order: the dictionaries of the
flushed batches, put together, are the entries of `firsts`, numbered `1, …, n`; a dropped
begin stages nothing; the record of the accepted begin number `callId` has the `fn_id` of its
key, and the entry is in the same or an earlier batch; and when `RSHUTDOWN` finds an empty
buffer, nothing is staged. -/
theorem dictionary_partition {shared : Shared} {rinit : Rinit} {es : List Event} {r : Recorder}
    (h : run step (start shared rinit) es = some r) (exit : ExitSnapshots) (answer : TrySend) :
    ∃ firsts,
      Interner.FirstOfEach AcceptedSite.key (accepted (start shared rinit) es) firsts ∧
      (r.rshutdownReleaseTrace exit answer).dicts =
        firsts.mapIdx (fun i site => site.entry (i + 1)) ∧
      (r.rshutdownReleaseTrace exit answer).dicts.map DictEntry.fnId =
        List.range' 1 firsts.length ∧
      (∀ pre e post s s', es = pre ++ e :: post → run step (start shared rinit) pre = some s →
        s.dropsBegin e = true → s.step e = some s' →
          s'.stagedEntries = s.stagedEntries ∧ s'.trace.dictionary = s.trace.dictionary) ∧
      (∀ (j : ℕ) (b : PendingBatch × TrySend),
        (r.rshutdownReleaseTrace exit answer).handed[j]? = some b →
        ∀ record ∈ b.1.calls, ∃ site first,
          (accepted (start shared rinit) es)[record.callId - 1]? = some site ∧
          firsts[record.fnId - 1]? = some first ∧ first.key = site.key ∧
          ∃ i ≤ j, ∃ b' : PendingBatch × TrySend,
            (r.rshutdownReleaseTrace exit answer).handed[i]? = some b' ∧
              first.entry record.fnId ∈ b'.1.dict) ∧
      ((drainOpenFramesIntoBuffer r.toWorker exit).trace.buffer = [] →
        r.trace.dictionary.newEntries = [] ∧
          (r.rshutdownReleaseTrace exit answer).trace.dictionary.newEntries = []) := by
  have hlog := dictLog_run h
  obtain ⟨t, hflow⟩ := dictFlow_run h
  refine ⟨_, Interner.firstOfEach_firsts _ _, hlog.dicts_release exit answer, ?_, ?_,
    fun j b hb record hrecord => hlog.exists_entry (hflow.release exit answer).1 hb hrecord, ?_⟩
  · rw [hlog.dicts_release, fnId_dictOf]
  · intro pre e post s s' _ _ hdrops hstep
    cases step_cases hstep with
    | dropBegin => exact ⟨rfl, rfl⟩
    | acceptBegin path site entry fnId outcome dictionary hgate =>
        simp [dropsBegin, hgate] at hdrops
    | consumeEnd | strayEnd | emitEnd | budget => cases hdrops
  · intro hbuffer
    have hdrained : drainOpenFramesIntoBuffer r.toWorker exit = (r.drained exit).toWorker :=
      drainFrames_eq exit r.trace.stack r.toWorker
    rw [hdrained] at hbuffer
    refine ⟨(hlog.drained exit).newEntries_eq_nil hbuffer rfl, ?_⟩
    rw [rshutdownReleaseTrace_eq]
    exact (hlog.drained exit).newEntries_flushed rfl answer

/-- Two functions, one called again after its batch was flushed, and one dropped begin. -/
theorem dictionary_partition_two_functions :
    ∃ r, run step (start Shared.init (rinitWith ⟨2, 4096, 1, 4096⟩))
        [beginOf "f" 1, beginOf "g" 2, beginOf "h" 3, endAt 4, endAt 5, beginOf "f" 6] = some r ∧
      ∃ firsts, Interner.FirstOfEach AcceptedSite.key
          (accepted (start Shared.init (rinitWith ⟨2, 4096, 1, 4096⟩))
            [beginOf "f" 1, beginOf "g" 2, beginOf "h" 3, endAt 4, endAt 5, beginOf "f" 6])
          firsts ∧
        (r.rshutdownReleaseTrace (exitAt 7) .ok).dicts =
          firsts.mapIdx (fun i site => site.entry (i + 1)) :=
  ⟨(run step (start Shared.init (rinitWith ⟨2, 4096, 1, 4096⟩))
      [beginOf "f" 1, beginOf "g" 2, beginOf "h" 3, endAt 4, endAt 5, beginOf "f" 6]).get
        (by decide),
    (Option.some_get _).symm,
    (dictionary_partition (Option.some_get _).symm (exitAt 7) .ok).imp
      fun _ h => ⟨h.1, h.2.1⟩⟩

end Recorder

end PhpAnalyze
