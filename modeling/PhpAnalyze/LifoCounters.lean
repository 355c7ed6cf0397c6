import PhpAnalyze.Recorder

/-! # The counters behind the pairing

`virtual_depth` counts the observed calls that are open, and `dropped_begins` those of them
that have no frame.  Both saturate, so what they count is only said of runs in which fewer
than `2 ^ 32` begins are open at a time (`DepthBounded`).  Such a run need not be balanced: an
end that has nothing to close finds both counters at zero.

`DepthCounted` holds with either gate.  When the cap gate has dropped nothing, the dropped
begins lie above a full stack and a frame's depth is its place in the stack
(`Levelled`).  The place is cut to 16 bits, which the directive's range makes harmless. -/

namespace PhpAnalyze

open Machine Bracket

/-- The frame at position `i` of the stack; the source's vector has the bottom frame first. -/
def Trace.frameAt (t : Trace) (i : ℕ) : Option CallFrame := t.stack.reverse[i]?

theorem Trace.frameAt_push {t t' : Trace} {pushed frame : CallFrame} {i : ℕ}
    (h : t'.stack = pushed :: t.stack) (hframe : t'.frameAt i = some frame) :
    t.frameAt i = some frame ∨ (i = t.stack.length ∧ frame = pushed) := by
  unfold frameAt at hframe ⊢
  rw [h, List.reverse_cons, List.getElem?_append, List.length_reverse] at hframe
  split at hframe
  · exact .inl hframe
  · rw [List.getElem?_singleton] at hframe
    split at hframe
    · exact .inr ⟨by omega, (Option.some.inj hframe).symm⟩
    · cases hframe

theorem Trace.frameAt_pop {t : Trace} {popped frame : CallFrame} {stack : List CallFrame} {i : ℕ}
    (h : t.stack = popped :: stack) (hframe : stack.reverse[i]? = some frame) :
    t.frameAt i = some frame := by
  unfold frameAt
  obtain ⟨hlt, -⟩ := List.getElem?_eq_some_iff.mp hframe
  rw [h, List.reverse_cons, List.getElem?_append_left hlt]
  exact hframe

theorem Trace.lt_of_frameAt {t : Trace} {frame : CallFrame} {i : ℕ}
    (h : t.frameAt i = some frame) : i < t.stack.length := by
  obtain ⟨hlt, -⟩ := List.getElem?_eq_some_iff.mp h
  rwa [List.length_reverse] at hlt

namespace Recorder

variable {r r' : Recorder} {e : Event}

/-! ### The depth counts the open begins -/

/-- Fewer than `2 ^ 32` begins are open at a time, so the counters of `u32` never saturate. -/
def DepthBounded (es : List Event) : Prop :=
  ∀ pre post, es = pre ++ post → (opens Event.mark pre).length ≤ u32Max

theorem DepthBounded.prefix {es fs : List Event} (h : DepthBounded (es ++ fs)) :
    DepthBounded es :=
  fun pre post he => h pre (post ++ fs) (by simp [he])

theorem depthBounded_of_length {es : List Event} (h : es.length ≤ u32Max) : DepthBounded es := by
  rintro pre post rfl
  rw [List.length_append] at h
  exact (length_opens_le pre).trans (Nat.le_of_add_right_le h)

theorem virtualDepth_step (h : r.step e = some r') :
    r'.trace.virtualDepth = match e.mark with
      | .opening => saturatingSucc r.trace.virtualDepth
      | .closing => r.trace.virtualDepth - 1
      | .neutral => r.trace.virtualDepth := by
  cases step_cases h with
  | dropBegin | acceptBegin | consumeEnd | strayEnd | budget => rfl
  | emitEnd => exact virtualDepth_flushIfDue _ _

/-- The depth is the number of the open begins, in a balanced run or not. -/
theorem virtualDepth_run {shared : Shared} {rinit : Rinit} {es : List Event}
    (h : run step (start shared rinit) es = some r) (hbound : DepthBounded es) :
    r.trace.virtualDepth = (opens Event.mark es).length := by
  refine run_induction (P := fun es r => DepthBounded es →
    r.trace.virtualDepth = (opens Event.mark es).length) (fun _ => rfl) ?_ h hbound
  intro es r e r' hrun ih hstep hbound
  have hopen := hbound (es ++ [e]) [] (List.append_nil _).symm
  rw [virtualDepth_step hstep, ih hbound.prefix]
  cases hmark : e.mark with
  | opening =>
      rw [opens_opening hmark, List.length_cons] at hopen ⊢
      exact saturatingSucc_of_lt hopen
  | closing => rw [opens_closing hmark, List.length_tail]
  | neutral => rw [opens_neutral hmark]

def DepthExact (r : Recorder) (e : Event) : Prop :=
  e.isBegin = true → r.trace.virtualDepth < u32Max

instance (r : Recorder) (e : Event) : Decidable (r.DepthExact e) := by
  unfold DepthExact
  infer_instance

theorem DepthBounded.depthExact {shared : Shared} {rinit : Rinit} {es : List Event}
    (h : DepthBounded es) : Along step DepthExact (start shared rinit) es := by
  refine along_iff.mpr fun pre e post r hes hrun hbegin => ?_
  subst hes
  have hopen := h (pre ++ [e]) post (List.append_cons _ _ _)
  rw [opens_opening (Event.mark_of_isBegin hbegin), List.length_cons] at hopen
  rw [virtualDepth_run hrun h.prefix]
  exact hopen

/-! ### Every open begin has a frame or was dropped -/

/-- The depth counts the open frames and the dropped begins that are open. -/
structure DepthCounted (r : Recorder) : Prop where
  depth : r.trace.virtualDepth = r.trace.stack.length + r.trace.droppedBegins
  stack : r.trace.stack.length ≤ r.trace.maxDepth

theorem depthCounted_start (shared : Shared) (rinit : Rinit) :
    (start shared rinit).DepthCounted := ⟨rfl, Nat.zero_le _⟩

/-- **Step lemma.** -/
theorem DepthCounted.step (h : r.DepthCounted) (hexact : r.DepthExact e)
    (hstep : r.step e = some r') : r'.DepthCounted := by
  have hdepth := h.depth
  have hstack := h.stack
  cases step_cases hstep with
  | dropBegin path site entry hgate =>
      have hlt := hexact rfl
      have hv := saturatingSucc_of_lt hlt
      have hd := saturatingSucc_of_lt (n := r.trace.droppedBegins) (by omega)
      refine ⟨?_, hstack⟩
      simp only [afterDrop, Worker.recordDrop, hv, hd]
      omega
  | acceptBegin path site entry fnId outcome dictionary hgate hdict =>
      have hv := saturatingSucc_of_lt (hexact rfl)
      have hlimit := (accepts_iff.mp hgate).1
      rw [hv] at hlimit
      constructor
      · simp only [afterAccept, hv, List.length_cons]
        omega
      · simp only [afterAccept, List.length_cons]
        omega
  | consumeEnd exit abnormal answer hdrop =>
      refine ⟨?_, hstack⟩
      simp only [afterConsume]
      omega
  | strayEnd exit abnormal answer hdrop hnil =>
      refine ⟨?_, hstack⟩
      simp only [afterStray]
      rw [hnil, List.length_nil] at hdepth ⊢
      omega
  | emitEnd exit abnormal answer frame stack hdrop hcons =>
      rw [hcons, List.length_cons] at hdepth hstack
      constructor
      · simp only [virtualDepth_flushIfDue, stack_flushIfDue, droppedBegins_flushIfDue, afterEmit]
        omega
      · rw [stack_flushIfDue, maxDepth_step hstep]
        exact Nat.le_of_succ_le hstack
  | budget => exact ⟨hdepth, hstack⟩

/-- **Run lemma.** -/
theorem depthCounted_run {shared : Shared} {rinit : Rinit} {es : List Event}
    (h : run step (start shared rinit) es = some r)
    (hexact : Along step DepthExact (start shared rinit) es) : r.DepthCounted :=
  run_invariant_along (fun _ _ _ _ hp hstep hs => DepthCounted.step hs hp hstep) h hexact
    (depthCounted_start shared rinit)

/-- Every open begin has a frame or a place in the drop counter. -/
theorem opens_run {shared : Shared} {rinit : Rinit} {es : List Event}
    (h : run step (start shared rinit) es = some r) (hbound : DepthBounded es) :
    r.trace.stack.length + r.trace.droppedBegins = (opens Event.mark es).length := by
  rw [← (depthCounted_run h hbound.depthExact).depth, virtualDepth_run h hbound]

theorem DepthCounted.step_stray (h : r.DepthCounted) (hstack : r.trace.stack = [])
    (hdrop : r.trace.droppedBegins = 0) (exit : ExitSnapshots) (abnormal : Bool)
    (answer : TrySend) : r.step (.endCall exit abnormal answer) = some r := by
  have hdepth : r.trace.virtualDepth - 1 = r.trace.virtualDepth := by
    rw [h.depth, hstack, hdrop]
    rfl
  obtain ⟨r', hstep⟩ : ∃ r', r.step (.endCall exit abnormal answer) = some r' := ⟨_, rfl⟩
  rw [hstep]
  cases step_cases hstep with
  | consumeEnd _ _ _ hpos => omega
  | strayEnd => rw [afterStray, hdepth]
  | emitEnd _ _ _ frame stack _ hcons =>
      rw [hstack] at hcons
      cases hcons

theorem virtualDepth_wouldAccept {w w' : Worker} {wouldAdd : Trace → ℕ}
    (h : w.wouldAccept wouldAdd = (true, w')) :
    1 ≤ w'.trace.virtualDepth ∧ w'.trace.virtualDepth ≤ w.trace.maxDepth := by
  have haccept : (w.wouldAccept wouldAdd).1 = true := congrArg Prod.fst h
  have hstate : (w.wouldAccept wouldAdd).2 = _ := Worker.wouldAccept_snd
  rw [if_pos haccept, h] at hstate
  obtain rfl : w' = w.deepen := hstate
  refine ⟨?_, (Worker.wouldAccept_fst_iff.mp haccept).1⟩
  show 1 ≤ saturatingSucc w.trace.virtualDepth
  unfold saturatingSucc u32Max
  omega

/-! ### Without cap drops the stack is levelled -/

theorem lt_virtualDepth_of_dropped {path : BeginPath} {site : RawCallSite} {entry : EntrySnapshots}
    (hgate : r.accepts path site = false)
    (hcap : r.capDropsBegin (.beginCall path site entry) = false) :
    r.trace.maxDepth < saturatingSucc r.trace.virtualDepth := by
  rw [capDropsBegin, hgate] at hcap
  simpa using hcap

/-- Dropped begins lie above a full stack, and a frame's depth is its place. -/
structure Levelled (r : Recorder) : Prop where
  full : 0 < r.trace.droppedBegins → r.trace.stack.length = r.trace.maxDepth
  depth : ∀ i frame, r.trace.frameAt i = some frame → frame.depth = i % 2 ^ 16

theorem levelled_start (shared : Shared) (rinit : Rinit) : (start shared rinit).Levelled where
  full h := absurd h (Nat.lt_irrefl 0)
  depth i frame h := by cases h

theorem Levelled.droppedBegins_of_accepted (h : r.Levelled) (hcounted : r.DepthCounted)
    (hlt : r.trace.virtualDepth < u32Max) {path : BeginPath} {site : RawCallSite}
    (hgate : r.accepts path site = true) : r.trace.droppedBegins = 0 := by
  have hdepth := hcounted.depth
  have hfull := h.full
  have hlimit := (accepts_iff.mp hgate).1
  rw [saturatingSucc_of_lt hlt] at hlimit
  omega

/-- **Step lemma.** -/
theorem Levelled.step (h : r.Levelled) (hcounted : r.DepthCounted) (hexact : r.DepthExact e)
    (hcap : r.capDropsBegin e = false) (hstep : r.step e = some r') : r'.Levelled := by
  have hdepth := hcounted.depth
  have hstack := hcounted.stack
  have hfull := h.full
  cases step_cases hstep with
  | dropBegin path site entry hgate =>
      have hlimit := lt_virtualDepth_of_dropped hgate hcap
      rw [saturatingSucc_of_lt (hexact rfl)] at hlimit
      refine ⟨fun _ => ?_, h.depth⟩
      show r.trace.stack.length = r.trace.maxDepth
      omega
  | acceptBegin path site entry fnId outcome dictionary hgate hdict =>
      have hzero := h.droppedBegins_of_accepted hcounted (hexact rfl) hgate
      refine ⟨fun hdrop => absurd hzero (Nat.ne_of_gt hdrop), fun i frame hframe => ?_⟩
      rcases Trace.frameAt_push rfl hframe with hold | ⟨rfl, rfl⟩
      · exact h.depth i frame hold
      · show (saturatingSucc r.trace.virtualDepth - 1) % 2 ^ 16 = _
        rw [saturatingSucc_of_lt (hexact rfl), hdepth, hzero]
        rfl
  | consumeEnd exit abnormal answer hdrop => exact ⟨fun _ => hfull hdrop, h.depth⟩
  | strayEnd exit abnormal answer hdrop hnil => exact ⟨hfull, h.depth⟩
  | emitEnd exit abnormal answer frame stack hdrop hcons =>
      refine ⟨fun hpos => ?_, fun i f hf => h.depth i f (Trace.frameAt_pop hcons ?_)⟩
      · rw [droppedBegins_flushIfDue] at hpos
        exact absurd hdrop (Nat.ne_of_gt hpos)
      · unfold Trace.frameAt at hf
        rwa [stack_flushIfDue] at hf
  | budget => exact ⟨hfull, h.depth⟩

/-- **Run lemma.** -/
theorem levelled_run {shared : Shared} {rinit : Rinit} {es : List Event}
    (h : run step (start shared rinit) es = some r)
    (hexact : Along step DepthExact (start shared rinit) es)
    (hcap : tally step capDropsBegin (start shared rinit) es = 0) : r.Levelled :=
  (run_invariant_along (I := fun r => r.DepthCounted ∧ r.Levelled)
    (fun _ _ _ _ hp hstep hs => ⟨hs.1.step hp.1 hstep, hs.2.step hs.1 hp.1 hp.2 hstep⟩) h
    (along_and.mpr ⟨hexact, tally_eq_zero_iff.mp hcap⟩)
    ⟨depthCounted_start shared rinit, levelled_start shared rinit⟩).2

/-- **The LIFO counters.**  In every state that a run with fewer than `2 ^ 32` begins open at a
time reaches: the depth is the height of the stack and the dropped begins together, and the
stack is within the depth limit; an end on an empty stack without a dropped begin changes
nothing; behind the gate the depth is positive, and the cast of one less to 16 bits is exact for
a limit of at most `65535`; if the cap gate has dropped nothing, a dropped begin is open only
above a full stack, and a frame's depth is its position, cut to 16 bits; and a dropped begin
changes the two counters and the drop counter alone. -/
theorem lifo_counters {shared : Shared} {rinit : Rinit} {es : List Event}
    (hrun : run step (start shared rinit) es = some r) (hbound : DepthBounded es) :
    (r.trace.virtualDepth = r.trace.stack.length + r.trace.droppedBegins ∧
      r.trace.stack.length ≤ rinit.limits.maxDepth) ∧
    (r.trace.stack = [] → r.trace.droppedBegins = 0 → ∀ exit abnormal answer,
      r.step (.endCall exit abnormal answer) = some r) ∧
    (∀ path site w, r.toWorker.wouldAccept (BeginPath.plan path site).wouldAdd = (true, w) →
      1 ≤ w.trace.virtualDepth ∧ (rinit.limits.maxDepth ≤ 65535 →
        (w.trace.virtualDepth - 1) % 2 ^ 16 = w.trace.virtualDepth - 1)) ∧
    (tally step capDropsBegin (start shared rinit) es = 0 →
      (0 < r.trace.droppedBegins → r.trace.stack.length = rinit.limits.maxDepth) ∧
      ∀ i frame, r.trace.frameAt i = some frame → frame.depth = i % 2 ^ 16 ∧
        (rinit.limits.maxDepth ≤ 65535 → frame.depth = i)) ∧
    ∀ path site entry, r.accepts path site = false →
      r.step (.beginCall path site entry) = some { r with
        trace := { r.trace with
          virtualDepth := saturatingSucc r.trace.virtualDepth
          droppedBegins := saturatingSucc r.trace.droppedBegins }
        shared := r.shared.fetchAdd r.trace.dropCounter 1 } := by
  have hcounted := depthCounted_run hrun hbound.depthExact
  have hmax := maxDepth_run hrun
  have hstack := hcounted.stack
  refine ⟨⟨hcounted.depth, hmax ▸ hstack⟩, hcounted.step_stray, fun path site w hgate => ?_,
    fun hcap => ?_, fun path site entry hgate => step_begin_rejected hgate entry⟩
  · obtain ⟨hpos, hle⟩ := virtualDepth_wouldAccept hgate
    exact ⟨hpos, fun hrange => Nat.mod_eq_of_lt (by omega)⟩
  · have hlevelled := levelled_run hrun hbound.depthExact hcap
    refine ⟨fun hdrop => (hlevelled.full hdrop).trans hmax, fun i frame hframe => ?_⟩
    have hdepth := hlevelled.depth i frame hframe
    have hplace := Trace.lt_of_frameAt hframe
    refine ⟨hdepth, fun hrange => ?_⟩
    rw [hdepth, Nat.mod_eq_of_lt (by omega)]

/-- A call within a call that is dropped at the depth limit. -/
theorem lifo_counters_at_depth_limit :
    ∃ r, run step (start Shared.init (rinitWith ⟨1, 4096, 8, 4096⟩))
        [beginOf "f" 1, beginOf "g" 2] = some r ∧
      r.trace.virtualDepth = r.trace.stack.length + r.trace.droppedBegins ∧
      r.trace.stack.length = 1 ∧ ∀ frame, r.trace.frameAt 0 = some frame → frame.depth = 0 := by
  obtain ⟨r, hr⟩ : ∃ r, r = (run step (start Shared.init (rinitWith ⟨1, 4096, 8, 4096⟩))
    [beginOf "f" 1, beginOf "g" 2]).get (by decide) := ⟨_, rfl⟩
  have hrun : run step (start Shared.init (rinitWith ⟨1, 4096, 8, 4096⟩))
      [beginOf "f" 1, beginOf "g" 2] = some r := by
    rw [hr]
    exact (Option.some_get _).symm
  have h := lifo_counters hrun (depthBounded_of_length (by decide))
  obtain ⟨hfull, hplace⟩ := h.2.2.2.1 (by decide)
  exact ⟨r, hrun, h.1.1, hfull (by rw [hr]; decide),
    fun frame hframe => (hplace 0 frame hframe).2 (by decide)⟩

/-- With a limit of more than 16 bits a frame's depth need not be its position: the depth is cut
to zero at position `2 ^ 16`. -/
theorem not_every_frame_levelled :
    ¬ ∀ (shared : Shared) (rinit : Rinit) (es : List Event) (r : Recorder),
      rinit.limits.maxDepth ≤ u32Max → DepthBounded es →
      run step (start shared rinit) es = some r →
      tally step capDropsBegin (start shared rinit) es = 0 → 0 < r.trace.droppedBegins →
      r.trace.stack.length = rinit.limits.maxDepth ∧
        ∀ i frame, r.trace.frameAt i = some frame → frame.depth = i := by
  intro h
  obtain ⟨n, hn⟩ : ∃ n, n = 2 ^ 16 + 2 := ⟨_, rfl⟩
  obtain ⟨rinit, hmax, hcapBytes⟩ : ∃ rinit : Rinit, rinit.limits.maxDepth = 2 ^ 16 + 1 ∧
      rinit.limits.bufferCapBytes = 2 ^ 64 - 1 :=
    ⟨rinitWith ⟨2 ^ 16 + 1, 2 ^ 64 - 1, 1, 1⟩, rfl, rfl⟩
  have hshort : (List.replicate n (beginOf "f" 1)).length < u32Max := by
    rw [List.length_replicate, hn]
    decide
  have hbound := depthBounded_of_length (Nat.le_of_lt hshort)
  obtain ⟨r, hrun⟩ := exists_run Shared.init rinit hshort
  have hcap := tally_capDropsBegin_of_max Shared.init hcapBytes
    (List.replicate n (beginOf "f" 1))
  -- one begin more than the limit is open, so the last one was dropped
  have hopen := opens_run hrun hbound
  rw [length_opens_replicate rfl, hn] at hopen
  have hexact : Along step DepthExact (start Shared.init rinit) _ := hbound.depthExact
  have hstack := (depthCounted_run hrun hexact).stack
  rw [maxDepth_run hrun] at hstack
  obtain ⟨hfull, hplace⟩ := h _ rinit _ r (by rw [hmax]; decide) hbound hrun hcap (by omega)
  obtain ⟨frame, hframe⟩ : ∃ frame, r.trace.frameAt (2 ^ 16) = some frame :=
    ⟨_, List.getElem?_eq_getElem (by rw [List.length_reverse]; omega)⟩
  have hdepth := (levelled_run hrun hexact hcap).depth _ frame hframe
  rw [hplace _ frame hframe] at hdepth
  exact absurd hdepth (by decide)

end Recorder

end PhpAnalyze
