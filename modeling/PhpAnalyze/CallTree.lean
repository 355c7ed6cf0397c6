import PhpAnalyze.CallForest
import PhpAnalyze.Records

/-! # The depth-gated recorder is the truncated call tree

`forest_run` and `session_run` run the recorder over the events of a forest and of a session
(`CallForest`), one case for each constructor, with the invariant `At` (depth, drop counter,
dictionary) and the steps `At.*` of a begin and an end above and below the limit. -/

namespace PhpAnalyze

open Machine Interning

/-- The ids that an interner gives, `0` for a key it does not have. -/
def fnIdsOf (t : Interner FunctionKey) (key : FunctionKey) : ℕ := (t.idOf key).getD 0

namespace Recorder

/-- The recorder stands under `d` observed calls, with the dictionary `t`. -/
structure At (r : Recorder) (d : ℕ) (t : Interner FunctionKey) : Prop where
  limit : r.trace.maxDepth < 2 ^ 16
  depth : r.trace.virtualDepth = d
  dropped : r.trace.droppedBegins = d - r.trace.maxDepth
  refines : r.trace.dictionary.Refines t

abbrev learn (t : Interner FunctionKey) (begins : List CallBegin) : Interner FunctionKey :=
  t.internAll (begins.map CallBegin.key)

theorem learn_append (t : Interner FunctionKey) (bs cs : List CallBegin) :
    learn t (bs ++ cs) = learn (learn t bs) cs := by
  rw [learn, List.map_append, Interner.internAll_append]

theorem keys_prefix_learn (t : Interner FunctionKey) (bs : List CallBegin) :
    t.keys <+: (learn t bs).keys := t.keys_prefix_internAll _

/-- The calls ahead fit: the cap gate drops none, and no counter overflows. -/
structure Fits (r : Recorder) (d : ℕ) (t : Interner FunctionKey) (events : List Event)
    (height : ℕ) (kept : List CallBegin) : Prop where
  cap : Along step (fun r e => r.capDropsBegin e = false) r events
  height : d + height ≤ u32Max
  ids : r.trace.callIdSeq + kept.length < 2 ^ 64
  fns : (learn t kept).keys.length < u32Max

/-- The segment from `r` to `r'` gives `n` ids and emits `recs`, whatever the dictionary
learns after it. -/
structure Moves (r r' : Recorder) (t' : Interner FunctionKey) (n : ℕ)
    (recs : (FunctionKey → ℕ) → List CallRecord) : Prop where
  maxDepth : r'.trace.maxDepth = r.trace.maxDepth
  callIdSeq : r'.trace.callIdSeq = r.trace.callIdSeq + n
  emitted : ∀ u : Interner FunctionKey, t'.keys <+: u.keys →
    r'.emitted = r.emitted ++ recs (fnIdsOf u)

theorem Moves.trans {r r' r'' : Recorder} {t' t'' : Interner FunctionKey} {n m : ℕ}
    {recs recs' : (FunctionKey → ℕ) → List CallRecord} (h : Moves r r' t' n recs)
    (h' : Moves r' r'' t'' m recs') (hp : t'.keys <+: t''.keys) :
    Moves r r'' t'' (n + m) fun fnIdOf => recs fnIdOf ++ recs' fnIdOf where
  maxDepth := h'.maxDepth.trans h.maxDepth
  callIdSeq := by rw [h'.callIdSeq, h.callIdSeq, Nat.add_assoc]
  emitted u hu := by rw [h'.emitted u hu, h.emitted u (hp.trans hu), List.append_assoc]

variable {r : Recorder} {d : ℕ} {t : Interner FunctionKey}

/-- A begin above the limit pushes the frame of the specification. -/
theorem At.begin_kept (h : r.At d t) {b : CallBegin} (hlt : d < r.trace.maxDepth)
    (hcap : r.capDropsBegin b.event = false) (hid : r.trace.callIdSeq + 1 < 2 ^ 64)
    (hfn : (t.intern b.key).keys.length < u32Max) :
    ∃ r' frame, r.step b.event = some r' ∧ r'.At (d + 1) (t.intern b.key) ∧
      Moves r r' (t.intern b.key) 1 (fun _ => []) ∧ r'.trace.stack = frame :: r.trace.stack ∧
      ∀ u : Interner FunctionKey, (t.intern b.key).keys <+: u.keys →
        frame = b.frame (fnIdsOf u) d (topCallId r.trace.stack) (r.trace.callIdSeq + 1) := by
  have hlimit := h.limit
  have hdepth : saturatingSucc r.trace.virtualDepth = d + 1 := by
    rw [h.depth, saturatingSucc_of_lt (by unfold u32Max; omega)]
  have hgate : r.accepts b.path b.site = true := accepts_of_capDropsBegin (by omega) hcap
  obtain ⟨fnId, outcome, dictionary, hdict⟩ :=
    h.refines.exists_internRef (b.path.plan b.site).build hfn
  obtain ⟨hrefines, hfnId⟩ := h.refines.internRef (b.path.plan b.site).build_key hdict
  refine ⟨r.afterAccept (r.newFrame fnId b.entry) dictionary (billed (b.path.plan b.site) outcome),
    r.newFrame fnId b.entry, ?_, ⟨hlimit, hdepth, ?_, hrefines⟩, ⟨rfl, rfl, ?_⟩, rfl, ?_⟩
  · rw [CallBegin.event, step_begin_accepted hgate, if_pos hid, hdict]
    rfl
  · show r.trace.droppedBegins = d + 1 - r.trace.maxDepth
    rw [h.dropped]
    omega
  · intro _ _
    rw [List.append_nil]
    rfl
  · intro u hu
    have hid' : u.idOf b.key = some fnId := Interner.idOf_mono hu hfnId
    have hu' : fnIdsOf u b.key = fnId := by rw [fnIdsOf, hid', Option.getD_some]
    have hmod : (d + 1 - 1) % 2 ^ 16 = d := Nat.mod_eq_of_lt (by omega)
    simp only [newFrame, CallBegin.frame, parent_eq_topCallId, hdepth, hmod, hu']

/-- A begin at or below the limit is dropped. -/
theorem At.begin_dropped (h : r.At d t) (b : CallBegin) (hge : r.trace.maxDepth ≤ d)
    (hd : d < u32Max) :
    r.step b.event = some r.afterDrop ∧ r.afterDrop.At (d + 1) t ∧
      Moves r r.afterDrop t 0 (fun _ => []) ∧ r.afterDrop.trace.stack = r.trace.stack := by
  have hdepth : saturatingSucc r.trace.virtualDepth = d + 1 := by
    rw [h.depth, saturatingSucc_of_lt hd]
  have hgate : r.accepts b.path b.site = false := by
    rw [Bool.eq_false_iff]
    intro haccept
    have := (accepts_iff.mp haccept).1
    omega
  refine ⟨step_begin_rejected hgate b.entry, ⟨h.limit, hdepth, ?_, h.refines⟩, ⟨rfl, rfl, ?_⟩, rfl⟩
  · show saturatingSucc r.trace.droppedBegins = d + 1 - r.trace.maxDepth
    rw [h.dropped, saturatingSucc_of_lt (by omega)]
    omega
  · intro _ _
    rw [List.append_nil]
    rfl

theorem At.end_kept (h : r.At (d + 1) t) (x : CallEnd) (hlt : d < r.trace.maxDepth)
    {frame : CallFrame} {stack : List CallFrame} (hstack : r.trace.stack = frame :: stack) :
    ∃ r', r.step x.event = some r' ∧ r'.At d t ∧
      Moves r r' t 0 (fun _ => [frame.intoCallRecord x.exit x.abnormal]) ∧
      r'.trace.stack = stack := by
  have hzero : r.trace.droppedBegins = 0 := by rw [h.dropped]; omega
  obtain ⟨r', hr'⟩ : ∃ r', r.step x.event = some r' := ⟨_, rfl⟩
  refine ⟨r', hr', ?_⟩
  cases step_cases hr' with
  | consumeEnd _ _ _ hdrop => omega
  | strayEnd _ _ _ _ hnil => rw [hstack] at hnil; cases hnil
  | emitEnd _ _ _ frame' stack' _ hcons =>
      rw [hstack] at hcons
      obtain ⟨rfl, rfl⟩ := List.cons.inj hcons
      have hmax := maxDepth_step hr'
      refine ⟨⟨?_, ?_, ?_, ⟨?_, ?_⟩⟩, ⟨hmax, ?_, ?_⟩, ?_⟩
      · exact hmax ▸ h.limit
      · rw [virtualDepth_flushIfDue]
        show r.trace.virtualDepth - 1 = d
        rw [h.depth]
        rfl
      · rw [droppedBegins_flushIfDue, hmax]
        show r.trace.droppedBegins = d - r.trace.maxDepth
        omega
      · rw [internMap_flushIfDue]
        exact h.refines.table
      · rw [nextFnId_flushIfDue]
        exact h.refines.next
      · rw [callIdSeq_flushIfDue]
        rfl
      · intro _ _
        rw [emitted_flushIfDue, emitted_afterEmit]
      · rw [stack_flushIfDue]
        rfl

theorem At.end_dropped (h : r.At (d + 1) t) (x : CallEnd) (hge : r.trace.maxDepth ≤ d) :
    ∃ r', r.step x.event = some r' ∧ r'.At d t ∧ Moves r r' t 0 (fun _ => []) ∧
      r'.trace.stack = r.trace.stack := by
  have hpos : 0 < r.trace.droppedBegins := by rw [h.dropped]; omega
  obtain ⟨r', hr'⟩ : ∃ r', r.step x.event = some r' := ⟨_, rfl⟩
  refine ⟨r', hr', ?_⟩
  cases step_cases hr' with
  | strayEnd _ _ _ hdrop => omega
  | emitEnd _ _ _ _ _ hdrop => omega
  | consumeEnd =>
      refine ⟨⟨h.limit, ?_, ?_, h.refines⟩, ⟨rfl, rfl, ?_⟩, rfl⟩
      · show r.trace.virtualDepth - 1 = d
        rw [h.depth]
        rfl
      · show r.trace.droppedBegins - 1 = d - r.trace.maxDepth
        rw [h.dropped]
        omega
      · intro _ _
        rw [List.append_nil]
        rfl

/-- The run over the forest succeeds, emits the records of the specification and returns to
the stack and the depth from which it started. -/
def ForestRun (forest : CallForest) (r : Recorder) (d : ℕ) (t : Interner FunctionKey)
    (kept : List CallBegin) : Prop :=
  ∃ r', run step r forest.events = some r' ∧ r'.At d (learn t kept) ∧
    r'.trace.stack = r.trace.stack ∧
    Moves r r' (learn t kept) kept.length (fun fnIdOf => forest.records r.trace.maxDepth fnIdOf d
      (topCallId r.trace.stack) (r.trace.callIdSeq + 1))

def ForestRuns (forest : CallForest) : Prop :=
  ∀ {r : Recorder} {d : ℕ} {t : Interner FunctionKey} {kept : List CallBegin}, r.At d t →
    forest.keptBegins r.trace.maxDepth d = kept → r.Fits d t forest.events forest.height kept →
    ForestRun forest r d t kept

section cons

variable {b : CallBegin} {x : CallEnd} {kids rest : CallForest} {kept kept' : List CallBegin}

/-- A first call above the limit: its begin, the calls inside, its end, the calls after. -/
theorem forest_run_kept (ihKids : ForestRuns kids) (ihRest : ForestRuns rest) (h : r.At d t)
    (hlt : d < r.trace.maxDepth) (hkids : kids.keptBegins r.trace.maxDepth (d + 1) = kept)
    (hrest : rest.keptBegins r.trace.maxDepth d = kept')
    (hfits : r.Fits d t (CallForest.cons b x kids rest).events
      (CallForest.cons b x kids rest).height (b :: (kept ++ kept'))) :
    ForestRun (CallForest.cons b x kids rest) r d t (b :: (kept ++ kept')) := by
  unfold ForestRun
  obtain ⟨⟨hcapBegin, hcap⟩, hheight, hids, hfns⟩ := hfits
  have hlearn : learn t (b :: (kept ++ kept')) = learn (learn (t.intern b.key) kept) kept' :=
    learn_append (t.intern b.key) kept kept'
  simp only [CallForest.height] at hheight
  rw [List.length_cons, List.length_append] at hids
  rw [hlearn] at hfns ⊢
  have hp := keys_prefix_learn (t.intern b.key) kept
  have hp' := keys_prefix_learn (learn (t.intern b.key) kept) kept'
  have hlen := hp.length_le
  have hlen' := hp'.length_le
  obtain ⟨r₁, frame, hstep₁, hat₁, hmoves₁, hstack₁, hframe⟩ :=
    h.begin_kept hlt hcapBegin (by omega) (by omega)
  have hm₁ := hmoves₁.maxDepth
  have hseq₁ := hmoves₁.callIdSeq
  have htop₁ : topCallId r₁.trace.stack = r.trace.callIdSeq + 1 := by
    rw [hstack₁, hframe _ List.prefix_rfl]
    rfl
  obtain ⟨hcapKids, hcap⟩ := along_append.mp (hcap r₁ hstep₁)
  obtain ⟨r₂, hrun₂, hat₂, hstack₂, hmoves₂⟩ := ihKids hat₁ (by rw [hm₁, hkids])
    ⟨hcapKids, by omega, by omega, by omega⟩
  have hm₂ := hmoves₂.maxDepth
  have hseq₂ := hmoves₂.callIdSeq
  obtain ⟨r₃, hstep₃, hat₃, hmoves₃, hstack₃⟩ :=
    hat₂.end_kept x (by rw [hm₂, hm₁]; exact hlt) (hstack₂.trans hstack₁)
  have hm₃ := hmoves₃.maxDepth
  have hseq₃ := hmoves₃.callIdSeq
  obtain ⟨r₄, hrun₄, hat₄, hstack₄, hmoves₄⟩ := ihRest hat₃ (by rw [hm₃, hm₂, hm₁, hrest])
    ⟨(hcap r₂ hrun₂).2 r₃ hstep₃, by omega, by omega, hfns⟩
  have hmoves := ((hmoves₁.trans hmoves₂ hp).trans hmoves₃ List.prefix_rfl).trans hmoves₄ hp'
  refine ⟨r₄, ?_, hat₄, hstack₄.trans hstack₃, hmoves.maxDepth, ?_, fun u hu => ?_⟩
  · exact run_cons_eq_some.mpr ⟨r₁, hstep₁, run_append_eq_some.mpr
      ⟨r₂, hrun₂, run_cons_eq_some.mpr ⟨r₃, hstep₃, hrun₄⟩⟩⟩
  · rw [hmoves.callIdSeq, List.length_cons, List.length_append]
    omega
  · rw [hmoves.emitted u hu, hframe u (hp.trans (hp'.trans hu)), htop₁, hm₃, hm₂, hm₁, hseq₃, hseq₂,
      hseq₁, hstack₃]
    simp only [CallForest.records, hlt, ↓reduceIte, List.nil_append, List.append_assoc,
      List.singleton_append, hkids, Nat.add_zero, Nat.add_right_comm]

theorem forest_run_dropped (ihKids : ForestRuns kids) (ihRest : ForestRuns rest) (h : r.At d t)
    (hge : r.trace.maxDepth ≤ d) (hkids : kids.keptBegins r.trace.maxDepth (d + 1) = kept)
    (hrest : rest.keptBegins r.trace.maxDepth d = kept')
    (hfits : r.Fits d t (CallForest.cons b x kids rest).events
      (CallForest.cons b x kids rest).height (kept ++ kept')) :
    ForestRun (CallForest.cons b x kids rest) r d t (kept ++ kept') := by
  unfold ForestRun
  obtain ⟨⟨-, hcap⟩, hheight, hids, hfns⟩ := hfits
  simp only [CallForest.height] at hheight
  rw [List.length_append] at hids
  rw [learn_append] at hfns ⊢
  have hp' := keys_prefix_learn (learn t kept) kept'
  have hlen' := hp'.length_le
  obtain ⟨hstep₁, hat₁, hmoves₁, hstack₁⟩ := h.begin_dropped b hge (by omega)
  have hm₁ := hmoves₁.maxDepth
  have hseq₁ := hmoves₁.callIdSeq
  obtain ⟨hcapKids, hcap⟩ := along_append.mp (hcap _ hstep₁)
  obtain ⟨r₂, hrun₂, hat₂, hstack₂, hmoves₂⟩ := ihKids hat₁ (by rw [hm₁, hkids])
    ⟨hcapKids, by omega, by omega, by omega⟩
  have hm₂ := hmoves₂.maxDepth
  have hseq₂ := hmoves₂.callIdSeq
  obtain ⟨r₃, hstep₃, hat₃, hmoves₃, hstack₃⟩ :=
    hat₂.end_dropped x (by rw [hm₂, hm₁]; exact hge)
  have hm₃ := hmoves₃.maxDepth
  have hseq₃ := hmoves₃.callIdSeq
  obtain ⟨r₄, hrun₄, hat₄, hstack₄, hmoves₄⟩ := ihRest hat₃ (by rw [hm₃, hm₂, hm₁, hrest])
    ⟨(hcap r₂ hrun₂).2 r₃ hstep₃, by omega, by omega, hfns⟩
  have hstack := hstack₃.trans (hstack₂.trans hstack₁)
  have hmoves := ((hmoves₁.trans hmoves₂ (keys_prefix_learn t kept)).trans hmoves₃
    List.prefix_rfl).trans hmoves₄ hp'
  refine ⟨r₄, ?_, hat₄, hstack₄.trans hstack, hmoves.maxDepth, ?_, fun u hu => ?_⟩
  · exact run_cons_eq_some.mpr ⟨_, hstep₁, run_append_eq_some.mpr
      ⟨r₂, hrun₂, run_cons_eq_some.mpr ⟨r₃, hstep₃, hrun₄⟩⟩⟩
  · rw [hmoves.callIdSeq, List.length_append]
    omega
  · rw [hmoves.emitted u hu, hm₃, hm₂, hm₁, hseq₃, hseq₂, hseq₁, hstack, hstack₁]
    simp only [CallForest.records, Nat.not_lt.mpr hge, ↓reduceIte, List.nil_append,
      List.append_nil, hkids, Nat.add_zero, Nat.add_right_comm]

end cons

/-- **Run lemma for forests.** -/
theorem forest_run (forest : CallForest) : ForestRuns forest := by
  induction forest with
  | nil =>
      intro r d t kept h hkept _
      obtain rfl : [] = kept := hkept
      exact ⟨r, rfl, h, rfl, rfl, rfl, fun _ _ => (List.append_nil _).symm⟩
  | cons b x kids rest ihKids ihRest =>
      intro r d t kept h hkept hfits
      by_cases hlt : d < r.trace.maxDepth
      · simp only [CallForest.keptBegins, hlt, ↓reduceIte, List.cons_append, List.nil_append]
          at hkept
        subst hkept
        exact forest_run_kept ihKids ihRest h hlt rfl rfl hfits
      · simp only [CallForest.keptBegins, hlt, ↓reduceIte, List.nil_append] at hkept
        subst hkept
        exact forest_run_dropped ihKids ihRest h (Nat.not_lt.mp hlt) rfl rfl hfits

/-- The run over the session succeeds, emits the records of the specification and leaves, on
top of the stack from which it started, the frames of the open kept calls. -/
def SessionRun (session : Session) (r : Recorder) (d : ℕ) (t : Interner FunctionKey)
    (kept : List CallBegin) : Prop :=
  ∃ r', run step r session.events = some r' ∧ r'.trace.dictionary.Refines (learn t kept) ∧
    (∀ u : Interner FunctionKey, (learn t kept).keys <+: u.keys →
      r'.trace.stack = session.openFrames r.trace.maxDepth (fnIdsOf u) d
        (topCallId r.trace.stack) (r.trace.callIdSeq + 1) ++ r.trace.stack) ∧
    Moves r r' (learn t kept) kept.length (fun fnIdOf => session.records r.trace.maxDepth fnIdOf d
      (topCallId r.trace.stack) (r.trace.callIdSeq + 1))

def SessionRuns (session : Session) : Prop :=
  ∀ {r : Recorder} {d : ℕ} {t : Interner FunctionKey} {kept : List CallBegin}, r.At d t →
    session.keptBegins r.trace.maxDepth d = kept → r.Fits d t session.events session.height kept →
    SessionRun session r d t kept

section opened

variable {before : CallForest} {b : CallBegin} {inside : Session} {kept kept' : List CallBegin}

/-- An open call above the limit: the calls before it, its begin, what is inside. -/
theorem session_run_kept (ih : SessionRuns inside) (h : r.At d t) (hlt : d < r.trace.maxDepth)
    (hbefore : before.keptBegins r.trace.maxDepth d = kept)
    (hinside : inside.keptBegins r.trace.maxDepth (d + 1) = kept')
    (hfits : r.Fits d t (Session.opened before b inside).events
      (Session.opened before b inside).height (kept ++ ([b] ++ kept'))) :
    SessionRun (Session.opened before b inside) r d t (kept ++ ([b] ++ kept')) := by
  unfold SessionRun
  obtain ⟨hcap, hheight, hids, hfns⟩ := hfits
  simp only [Session.height] at hheight
  rw [List.length_append, List.length_append, List.length_singleton] at hids
  rw [learn_append, learn_append] at hfns ⊢
  have hp := keys_prefix_learn (learn t kept) [b]
  have hp' := keys_prefix_learn (learn (learn t kept) [b]) kept'
  have hlen := hp.length_le
  have hlen' := hp'.length_le
  obtain ⟨hcapBefore, hcap⟩ := along_append.mp hcap
  obtain ⟨r₁, hrun₁, hat₁, hstack₁, hmoves₁⟩ := forest_run before h hbefore
    ⟨hcapBefore, by omega, by omega, by omega⟩
  have hm₁ := hmoves₁.maxDepth
  have hseq₁ := hmoves₁.callIdSeq
  obtain ⟨hcapBegin, hcap⟩ := hcap r₁ hrun₁
  have hfn : (learn (learn t kept) [b]).keys.length < u32Max := by omega
  obtain ⟨r₂, frame, hstep₂, hat₂, hmoves₂, hstack₂, hframe⟩ :=
    hat₁.begin_kept (by rw [hm₁]; exact hlt) hcapBegin (by omega) hfn
  have hm₂ := hmoves₂.maxDepth
  have hseq₂ := hmoves₂.callIdSeq
  have htop₂ : topCallId r₂.trace.stack = r₁.trace.callIdSeq + 1 := by
    rw [hstack₂, hframe _ List.prefix_rfl]
    rfl
  obtain ⟨r₃, hrun₃, hrefines₃, hstack₃, hmoves₃⟩ := ih hat₂ (by rw [hm₂, hm₁, hinside])
    ⟨hcap r₂ hstep₂, by omega, by omega, hfns⟩
  have hmoves := (hmoves₁.trans hmoves₂ hp).trans hmoves₃ hp'
  refine ⟨r₃, ?_, hrefines₃, fun u hu => ?_, hmoves.maxDepth, ?_, fun u hu => ?_⟩
  · exact run_append_eq_some.mpr ⟨r₁, hrun₁, run_cons_eq_some.mpr ⟨r₂, hstep₂, hrun₃⟩⟩
  · rw [hstack₃ u hu, htop₂, hstack₂, hframe u (hp'.trans hu), hm₂, hm₁, hseq₂, hseq₁, hstack₁]
    simp only [Session.openFrames, hbefore, hlt, ↓reduceIte, List.append_assoc,
      List.singleton_append, Nat.add_right_comm]
  · rw [hmoves.callIdSeq, List.length_append, List.length_append, List.length_singleton,
      Nat.add_assoc]
  · rw [hmoves.emitted u hu, htop₂, hm₂, hm₁, hseq₂, hseq₁]
    simp only [Session.records, hbefore, hlt, ↓reduceIte, List.append_nil, Nat.add_right_comm]

theorem session_run_dropped (ih : SessionRuns inside) (h : r.At d t)
    (hge : r.trace.maxDepth ≤ d) (hbefore : before.keptBegins r.trace.maxDepth d = kept)
    (hinside : inside.keptBegins r.trace.maxDepth (d + 1) = kept')
    (hfits : r.Fits d t (Session.opened before b inside).events
      (Session.opened before b inside).height (kept ++ kept')) :
    SessionRun (Session.opened before b inside) r d t (kept ++ kept') := by
  unfold SessionRun
  obtain ⟨hcap, hheight, hids, hfns⟩ := hfits
  simp only [Session.height] at hheight
  rw [List.length_append] at hids
  rw [learn_append] at hfns ⊢
  have hp' := keys_prefix_learn (learn t kept) kept'
  have hlen' := hp'.length_le
  obtain ⟨hcapBefore, hcap⟩ := along_append.mp hcap
  obtain ⟨r₁, hrun₁, hat₁, hstack₁, hmoves₁⟩ := forest_run before h hbefore
    ⟨hcapBefore, by omega, by omega, by omega⟩
  have hm₁ := hmoves₁.maxDepth
  have hseq₁ := hmoves₁.callIdSeq
  obtain ⟨-, hcap⟩ := hcap r₁ hrun₁
  obtain ⟨hstep₂, hat₂, hmoves₂, hstack₂⟩ :=
    hat₁.begin_dropped b (by rw [hm₁]; exact hge) (by omega)
  have hm₂ := hmoves₂.maxDepth
  have hseq₂ := hmoves₂.callIdSeq
  obtain ⟨r₃, hrun₃, hrefines₃, hstack₃, hmoves₃⟩ := ih hat₂ (by rw [hm₂, hm₁, hinside])
    ⟨hcap _ hstep₂, by omega, by omega, hfns⟩
  have hmoves := (hmoves₁.trans hmoves₂ List.prefix_rfl).trans hmoves₃ hp'
  refine ⟨r₃, ?_, hrefines₃, fun u hu => ?_, hmoves.maxDepth, ?_, fun u hu => ?_⟩
  · exact run_append_eq_some.mpr ⟨r₁, hrun₁, run_cons_eq_some.mpr ⟨_, hstep₂, hrun₃⟩⟩
  · rw [hstack₃ u hu, hm₂, hm₁, hseq₂, hseq₁, hstack₂, hstack₁]
    simp only [Session.openFrames, hbefore, Nat.not_lt.mpr hge, ↓reduceIte, Nat.add_zero,
      Nat.add_right_comm]
  · rw [hmoves.callIdSeq, List.length_append, Nat.add_zero]
  · rw [hmoves.emitted u hu, hm₂, hm₁, hseq₂, hseq₁, hstack₂, hstack₁]
    simp only [Session.records, hbefore, Nat.not_lt.mpr hge, ↓reduceIte, List.append_nil,
      Nat.add_zero, Nat.add_right_comm]

end opened

/-- **Run lemma for sessions.** -/
theorem session_run (session : Session) : SessionRuns session := by
  induction session with
  | closed forest =>
      intro r d t kept h hkept hfits
      obtain ⟨r', hrun, hat, hstack, hmoves⟩ := forest_run forest h hkept hfits
      exact ⟨r', hrun, hat.refines, fun _ _ => hstack, hmoves⟩
  | opened before b inside ih =>
      intro r d t kept h hkept hfits
      by_cases hlt : d < r.trace.maxDepth
      · simp only [Session.keptBegins, hlt, ↓reduceIte, List.append_assoc] at hkept
        subst hkept
        exact session_run_kept ih h hlt rfl rfl hfits
      · simp only [Session.keptBegins, hlt, ↓reduceIte, List.append_nil] at hkept
        subst hkept
        exact session_run_dropped ih h (Nat.not_lt.mp hlt) rfl rfl hfits

theorem at_start (shared : Shared) {rinit : Rinit} (h : rinit.limits.maxDepth ≤ 65535) :
    (start shared rinit).At 0 Interner.empty where
  limit := Nat.lt_succ_of_le h
  depth := rfl
  dropped := (Nat.zero_sub _).symm
  refines := Dictionary.refines_new

/-- **The depth-gated recorder is the truncated call tree.**  Let the cap gate drop no begin,
fewer than `2 ^ 32` calls be open at once, and the kept calls be fewer than `2 ^ 64`, of
fewer than `2 ^ 32 - 1` functions.  Then the run succeeds, and after `RSHUTDOWN` the calls of
all batches are the records of the kept calls in order of closing, those still open last
and innermost first; the gate dropped the calls nested too deep; and a closed forest leaves
the counters and the stack as it found them. -/
theorem recorder_is_truncated_tree {shared : Shared} {rinit : Rinit} (session : Session)
    (hdepth : rinit.limits.maxDepth ≤ 65535)
    (hcap : tally step capDropsBegin (start shared rinit) session.events = 0)
    (hheight : session.height ≤ u32Max)
    (hids : (session.keptBegins rinit.limits.maxDepth 0).length < 2 ^ 64)
    (hfns : ((session.keptBegins rinit.limits.maxDepth 0).map CallBegin.key).dedup.length < u32Max)
    (exit : ExitSnapshots) (answer : TrySend) :
    ∃ r, run step (start shared rinit) session.events = some r ∧
      (r.rshutdownReleaseTrace exit answer).calls =
        session.records rinit.limits.maxDepth r.trace.dictionary.fnIdOf 0 0 1 ++
          (session.openFrames rinit.limits.maxDepth r.trace.dictionary.fnIdOf 0 0 1).map
            (fun frame => frame.intoCallRecord exit true) ∧
      tally step dropsBegin (start shared rinit) session.events =
        session.dropped rinit.limits.maxDepth 0 ∧
      r.shared.dropCounters rinit.dropCounter =
        session.dropped rinit.limits.maxDepth 0 + r.refused ∧
      ∀ forest, session = .closed forest →
        r.trace.virtualDepth = 0 ∧ r.trace.droppedBegins = 0 ∧ r.trace.stack = [] := by
  have hat := at_start shared hdepth
  have hfits : (start shared rinit).Fits 0 Interner.empty session.events session.height
      (session.keptBegins rinit.limits.maxDepth 0) :=
    ⟨tally_eq_zero_iff.mp hcap, by omega, by rw [callIdSeq_start]; omega,
      (Interner.length_internAll_empty_le _).trans_lt hfns⟩
  obtain ⟨r, hrun, hrefines, hstack, hmoves⟩ := session_run session hat rfl hfits
  have hfnIdOf : fnIdsOf (learn Interner.empty (session.keptBegins rinit.limits.maxDepth 0)) =
      r.trace.dictionary.fnIdOf := by
    funext key
    rw [hrefines.fnIdOf_eq, fnIdsOf]
    rfl
  have hemitted := hmoves.emitted _ List.prefix_rfl
  have hopen := hstack _ List.prefix_rfl
  have hseq := hmoves.callIdSeq
  simp only [maxDepth_start, stack_start, callIdSeq_start, emitted_start, List.append_nil,
    List.nil_append, hfnIdOf] at hemitted hopen hseq
  have hdropped : tally step dropsBegin (start shared rinit) session.events =
      session.dropped rinit.limits.maxDepth 0 := by
    have hcount := countP_isBegin hrun
    rw [session.countP_events rinit.limits.maxDepth 0, ← callIdSeq_run hrun, hseq] at hcount
    omega
  refine ⟨r, hrun, ?_, hdropped, ?_, ?_⟩
  · rw [calls_rshutdownReleaseTrace, hemitted, hopen]
    rfl
  · rw [← hdropped, ← (dropCounter_run hrun).1]
    exact (dropCounter_run hrun).2
  · rintro forest rfl
    obtain ⟨r', hrun', hat', hstack', -⟩ := forest_run forest hat rfl hfits
    obtain rfl := Option.some.inj (hrun.symm.trans hrun')
    exact ⟨hat'.depth, hat'.dropped.trans (Nat.zero_sub _), hstack'⟩

/-- One completed call with a call inside, which is too deep, and one call still open.  A cap of
`100` bytes has no room for the call inside, but the depth gate drops it first; the channel is full
when the first call ends, so its bytes are free again. -/
def sampleSession : Session :=
  .opened
    (.cons ⟨.lazy, callSiteOf "f", entryAt 1⟩ ⟨exitAt 4, false, .full⟩
      (.cons ⟨.lazy, callSiteOf "g", entryAt 2⟩ ⟨exitAt 3, false, .ok⟩ .nil .nil) .nil)
    ⟨.owning, callSiteOf "h", entryAt 5⟩ (.closed .nil)

theorem recorder_is_truncated_tree_sample :
    ∃ r, run step (start Shared.init (rinitWith ⟨1, 100, 1, 4096⟩)) sampleSession.events = some r ∧
      (r.rshutdownReleaseTrace (exitAt 6) .ok).calls =
        sampleSession.records 1 r.trace.dictionary.fnIdOf 0 0 1 ++
          (sampleSession.openFrames 1 r.trace.dictionary.fnIdOf 0 0 1).map
            (fun frame => frame.intoCallRecord (exitAt 6) true) := by
  obtain ⟨r, hrun, hcalls, -⟩ := recorder_is_truncated_tree sampleSession
    (by decide : (rinitWith ⟨1, 100, 1, 4096⟩).limits.maxDepth ≤ 65535)
    (by decide : tally step capDropsBegin (start Shared.init (rinitWith ⟨1, 100, 1, 4096⟩))
      sampleSession.events = 0)
    (by decide) (by decide) (by decide) (exitAt 6) .ok
  exact ⟨r, hrun, hcalls⟩

/-! ### Nesting beyond `u32`

The depth counter saturates.  After `2 ^ 32` nested calls it falls short of the true depth
by one, and a call that is one level too deep passes the gate. -/

section saturation

/-- `n` calls, each inside the one before, and then `rest` beside the first. -/
def chain (b : CallBegin) (x : CallEnd) (rest : CallForest) : ℕ → CallForest
  | 0 => rest
  | n + 1 => .cons b x (chain b x .nil n) rest

theorem events_chain_succ (b : CallBegin) (x : CallEnd) (rest : CallForest) (n : ℕ) :
    (chain b x rest (n + 1)).events = (chain b x .nil (n + 1)).events ++ rest.events := by
  simp [chain, CallForest.events]

theorem saturated_sub_self (v top : ℕ) : min (v + top) top - top = 0 := by
  omega

theorem saturated_succ_sub (v n top : ℕ) :
    min (v + (n + 1)) top - (n + 1) = min (min (v + 1) top + n) top - n - 1 := by
  omega

/-- A nested chain below the limit: the two counters go up with saturation and down without. -/
theorem chain_run (b : CallBegin) (x : CallEnd) (n : ℕ) : ∀ {r : Recorder},
    r.trace.maxDepth ≤ r.trace.virtualDepth → r.trace.maxDepth < u32Max →
    r.trace.virtualDepth ≤ u32Max → r.trace.droppedBegins ≤ u32Max → n ≤ u32Max →
    ∃ r', run step r (chain b x .nil n).events = some r' ∧
      r'.trace = { r.trace with
        virtualDepth := min (r.trace.virtualDepth + n) u32Max - n
        droppedBegins := min (r.trace.droppedBegins + n) u32Max - n } := by
  induction n with
  | zero =>
      intro r _ _ hv hd _
      refine ⟨r, rfl, ?_⟩
      rw [Nat.add_zero, Nat.add_zero, Nat.min_eq_left hv, Nat.min_eq_left hd]
      rfl
  | succ n ih =>
      intro r hgate hmax hv hd hn
      have hreject : r.accepts b.path b.site = false := by
        rw [Bool.eq_false_iff]
        intro haccept
        have := (accepts_iff.mp haccept).1
        unfold saturatingSucc at this
        omega
      have hvirtual : r.afterDrop.trace.virtualDepth = min (r.trace.virtualDepth + 1) u32Max := rfl
      have hdropped : r.afterDrop.trace.droppedBegins = min (r.trace.droppedBegins + 1) u32Max :=
        rfl
      have hlimit : r.afterDrop.trace.maxDepth = r.trace.maxDepth := rfl
      obtain ⟨r₂, hrun₂, htrace₂⟩ := ih (r := r.afterDrop) (by omega) (by omega) (by omega)
        (by omega) (by omega)
      have hdropped₂ : 0 < r₂.trace.droppedBegins := by
        rw [htrace₂]
        dsimp only
        omega
      obtain ⟨r₃, hstep₃⟩ : ∃ r₃, r₂.step x.event = some r₃ := ⟨_, rfl⟩
      refine ⟨r₃, ?_, ?_⟩
      · exact run_cons_eq_some.mpr ⟨_, step_begin_rejected hreject b.entry,
          run_append_eq_some.mpr ⟨r₂, hrun₂, by
            rw [CallForest.events, run_singleton]
            exact hstep₃⟩⟩
      · cases step_cases hstep₃ with
        | strayEnd _ _ _ hzero => omega
        | emitEnd _ _ _ _ _ hzero => omega
        | consumeEnd =>
            rw [saturated_succ_sub, saturated_succ_sub, afterConsume, htrace₂, hvirtual, hdropped]
            rfl

theorem callIdSeq_end {r r' : Recorder} (x : CallEnd) (h : r.step x.event = some r') :
    r'.trace.callIdSeq = r.trace.callIdSeq := by
  cases step_cases h with
  | consumeEnd => rfl
  | strayEnd => rfl
  | emitEnd => rw [callIdSeq_flushIfDue]; rfl

theorem length_calls_release {r : Recorder} (h : r.Recorded) (exit : ExitSnapshots)
    (answer : TrySend) :
    (r.rshutdownReleaseTrace exit answer).calls.length = r.trace.callIdSeq := by
  have hlen := h.ids.length_eq
  rw [← callId_calls_release r exit answer, List.length_map, List.length_range'] at hlen
  exact hlen

theorem records_of_le {maxDepth d : ℕ} (fnIdOf : FunctionKey → ℕ) (forest : CallForest)
    (parent next : ℕ) (h : maxDepth ≤ d) :
    forest.records maxDepth fnIdOf d parent next = [] := by
  induction forest generalizing d next with
  | nil => rfl
  | cons b x kids rest ihKids ihRest =>
      rw [CallForest.records, if_neg (Nat.not_lt.mpr h), ihKids _ (Nat.le_succ_of_le h), ihRest _ h]
      rfl

/-- `n` nested calls inside a call, and one more call after them. -/
def deepSession (b : CallBegin) (x : CallEnd) (n : ℕ) : Session :=
  .closed (.cons b x (chain b x (.cons b x .nil .nil) n) .nil)

def deepBegins (b : CallBegin) (x : CallEnd) (n : ℕ) : List Event :=
  b.event :: ((chain b x .nil n).events ++ [b.event])

/-- With depth limit one both calls are open: the chain brings the depth back to zero. -/
theorem deep_begins_run (b : CallBegin) (x : CallEnd) (shared : Shared) (rinit : Rinit)
    (hmax : rinit.limits.maxDepth = 1) (hcapBytes : rinit.limits.bufferCapBytes = 2 ^ 64 - 1)
    {n : ℕ} (hn : n + 1 = u32Max) :
    ∃ r, run step (start shared rinit) (deepBegins b x (n + 1)) = some r ∧
      r.trace.callIdSeq = 2 ∧ r.trace.stack.length = 2 := by
  have htop : 1 < u32Max := by decide
  have hlen : ((Interner.empty : Interner FunctionKey).intern b.key).keys = [b.key] :=
    Interner.keys_intern_of_not_mem List.not_mem_nil
  -- the outer call
  obtain ⟨r₁, frame, hstep₁, hat₁, hmoves₁, hstack₁, -⟩ :=
    (at_start shared (by rw [hmax]; decide)).begin_kept (b := b)
      (by rw [maxDepth_start, hmax]; decide)
      (capDropsBegin_of_max hcapBytes _)
      (by rw [callIdSeq_start]; decide) (by rw [hlen]; exact htop)
  have hmax₁ : r₁.trace.maxDepth = 1 := hmoves₁.maxDepth.trans hmax
  have hseq₁ : r₁.trace.callIdSeq = 1 := hmoves₁.callIdSeq
  have hvirtual₁ : r₁.trace.virtualDepth = 1 := hat₁.depth
  have hdropped₁ : r₁.trace.droppedBegins = 0 := by rw [hat₁.dropped, hmax₁]
  have hcap₁ : r₁.trace.bufferCapBytes = 2 ^ 64 - 1 :=
    (congrArg TraceLimits.bufferCapBytes (limits_step hstep₁)).trans hcapBytes
  -- the chain brings the depth back to zero
  obtain ⟨r₂, hrun₂, htrace₂⟩ := chain_run b x (n + 1) (r := r₁) (by omega) (by omega) (by omega)
    (by omega) (by omega)
  have hat₂ : r₂.At 0 (Interner.empty.intern b.key) := by
    refine ⟨?_, ?_, ?_, ?_⟩ <;> rw [htrace₂]
    · exact hat₁.limit
    · rw [hn]
      exact saturated_sub_self _ _
    · rw [hn]
      exact (saturated_sub_self _ _).trans (Nat.zero_sub _).symm
    · exact hat₁.refines
  have hmax₂ : r₂.trace.maxDepth = 1 := by rw [htrace₂]; exact hmax₁
  have hseq₂ : r₂.trace.callIdSeq = 1 := by rw [htrace₂]; exact hseq₁
  have hstack₂ : r₂.trace.stack = [frame] := by rw [htrace₂]; exact hstack₁
  -- the last call passes the gate
  obtain ⟨r₃, frame₃, hstep₃, -, hmoves₃, hstack₃, -⟩ :=
    hat₂.begin_kept (b := b) (by omega)
      (capDropsBegin_of_max (by rw [htrace₂]; exact hcap₁) _)
      (by rw [hseq₂]; decide)
      (by rw [Interner.intern_of_mem (by rw [hlen]; exact List.mem_singleton_self _), hlen]
          exact htop)
  refine ⟨r₃, ?_, by rw [hmoves₃.callIdSeq, hseq₂], by rw [hstack₃, hstack₂]; rfl⟩
  exact run_cons_eq_some.mpr ⟨r₁, hstep₁, run_append_eq_some.mpr
    ⟨r₂, hrun₂, (run_singleton step _ _).trans hstep₃⟩⟩

theorem events_deepSession (b : CallBegin) (x : CallEnd) (n : ℕ) :
    (deepSession b x (n + 1)).events = deepBegins b x (n + 1) ++ [x.event, x.event] := by
  have hinside := events_chain_succ b x (.cons b x .nil .nil) n
  simp only [deepSession, deepBegins, Session.events, CallForest.events, hinside,
    List.cons_append, List.append_assoc, List.nil_append]

theorem deep_run (b : CallBegin) (x : CallEnd) (shared : Shared) (rinit : Rinit)
    (hmax : rinit.limits.maxDepth = 1) (hcapBytes : rinit.limits.bufferCapBytes = 2 ^ 64 - 1)
    {n : ℕ} (hn : n + 1 = u32Max) :
    ∃ r, run step (start shared rinit) (deepSession b x (n + 1)).events = some r ∧
      r.trace.callIdSeq = 2 := by
  obtain ⟨r₃, hrun₃, hseq₃, -⟩ := deep_begins_run b x shared rinit hmax hcapBytes hn
  obtain ⟨r₄, hstep₄⟩ : ∃ r₄, r₃.step x.event = some r₄ := ⟨_, rfl⟩
  obtain ⟨r₅, hstep₅⟩ : ∃ r₅, r₄.step x.event = some r₅ := ⟨_, rfl⟩
  refine ⟨r₅, ?_, (callIdSeq_end x hstep₅).trans ((callIdSeq_end x hstep₄).trans hseq₃)⟩
  rw [events_deepSession]
  exact run_append_eq_some.mpr
    ⟨r₃, hrun₃, run_cons_eq_some.mpr ⟨r₄, hstep₄, (run_singleton step _ _).trans hstep₅⟩⟩

/-- The recorder is not the truncated tree for every forest: after `2 ^ 32` nested calls a
call that is one level too deep is kept. -/
theorem not_every_forest_truncated :
    ¬ ∀ (shared : Shared) (rinit : Rinit) (session : Session) (r : Recorder)
        (exit : ExitSnapshots) (answer : TrySend),
      1 ≤ rinit.limits.maxDepth → rinit.limits.maxDepth ≤ 65535 →
      1 ≤ rinit.limits.flushRecords → 1 ≤ rinit.limits.flushBytes →
      tally step capDropsBegin (start shared rinit) session.events = 0 →
      run step (start shared rinit) session.events = some r →
      (r.rshutdownReleaseTrace exit answer).calls =
        session.records rinit.limits.maxDepth r.trace.dictionary.fnIdOf 0 0 1 ++
          (session.openFrames rinit.limits.maxDepth r.trace.dictionary.fnIdOf 0 0 1).map
            (fun frame => frame.intoCallRecord exit true) := by
  intro h
  obtain ⟨n, hn⟩ : ∃ n, n + 1 = u32Max := ⟨2 ^ 32 - 2, by decide⟩
  obtain ⟨b, hb⟩ : ∃ b : CallBegin, b = ⟨.lazy, callSiteOf "f", entryAt 1⟩ := ⟨_, rfl⟩
  obtain ⟨x, hx⟩ : ∃ x : CallEnd, x = ⟨exitAt 2, false, .ok⟩ := ⟨_, rfl⟩
  obtain ⟨r, hrun, hseq⟩ := deep_run b x Shared.init (rinitWith ⟨1, 2 ^ 64 - 1, 1, 1⟩) rfl rfl hn
  have hcap : tally step capDropsBegin (start Shared.init (rinitWith ⟨1, 2 ^ 64 - 1, 1, 1⟩))
      (deepSession b x (n + 1)).events = 0 :=
    tally_capDropsBegin_of_max Shared.init rfl _
  have hcalls := congrArg List.length (h _ _ (deepSession b x (n + 1)) r (exitAt 3) .ok (by decide)
    (by decide) (by decide) (by decide) hcap hrun)
  rw [length_calls_release (recorded_run hrun), hseq] at hcalls
  simp [deepSession, Session.records, Session.openFrames, CallForest.records, rinitWith,
    records_of_le] at hcalls

end saturation

end Recorder

end PhpAnalyze
