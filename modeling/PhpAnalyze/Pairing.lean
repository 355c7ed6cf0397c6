import PhpAnalyze.LifoCounters

/-! # Begin/end pairing through drops

The observer is told of begins and ends only; which begin an end closes is a matter of
nesting (`Bracket.opens`).  The recorder keeps one counter of dropped begins for it, and
charges an end to a dropped begin whenever the counter is positive.

That is right as long as no begin is accepted under a dropped one that is still open:
`pushed_run` says that the open begins are then the dropped ones, innermost, followed by
the accepted ones, whose frames are the stack.  On a closed run it is right only then
(`paired_iff_clean`).  The depth gate never accepts under a drop (`paired_of_no_capDrops`), but
the cap gate can: a begin of a known function costs less than a begin of a new one
(`not_every_run_paired`). -/

namespace PhpAnalyze

open Machine Bracket

namespace Recorder

/-- The frame that the begin `o.2`, read after the events `o.1`, pushed; `none` if a gate
dropped it. -/
def pushedFrame (r₀ : Recorder) (o : List Event × Event) : Option CallFrame :=
  match run step r₀ o.1 with
  | none => none
  | some r =>
      if r.acceptsBegin o.2 then (r.step o.2).bind fun r' => r'.trace.stack.head? else none

/-- The pairing property: an end that emits a record emits the record of the frame of the
begin that it closes, with its own snapshots, and an end that closes a dropped begin emits
nothing and pops nothing. -/
def Paired (r₀ : Recorder) (es : List Event) : Prop :=
  ∀ pre exit abnormal answer post r r', es = pre ++ .endCall exit abnormal answer :: post →
    run step r₀ pre = some r → r.step (.endCall exit abnormal answer) = some r' →
    ∀ o rest, opens Event.mark pre = o :: rest →
      (∀ record, r'.emitted = r.emitted ++ [record] →
        ∃ frame, r₀.pushedFrame o = some frame ∧ record = frame.intoCallRecord exit abnormal) ∧
      (r₀.pushedFrame o = none → r'.emitted = r.emitted ∧ r'.trace.stack = r.trace.stack)

/-- An accepted begin finds no dropped begin open, and a dropped one does not saturate the
counter. -/
def CleanStep (r : Recorder) (e : Event) : Prop :=
  (r.acceptsBegin e = true → r.trace.droppedBegins = 0) ∧
    (r.dropsBegin e = true → r.trace.droppedBegins < u32Max)

instance (r : Recorder) (e : Event) : Decidable (r.CleanStep e) := by
  unfold CleanStep
  infer_instance

def CleanRun (r₀ : Recorder) (es : List Event) : Prop := Along step CleanStep r₀ es

instance (r₀ : Recorder) (es : List Event) : Decidable (r₀.CleanRun es) := by
  unfold CleanRun
  infer_instance

/-- What the open begins of the events `es` pushed, the innermost first. -/
def pushed (r₀ : Recorder) (es : List Event) : List (Option CallFrame) :=
  (opens Event.mark es).map r₀.pushedFrame

section pushed

variable {r₀ r : Recorder} {es : List Event}

theorem pushed_begin_dropped (h : run step r₀ es = some r) {path : BeginPath} {site : RawCallSite}
    (hgate : r.accepts path site = false) (entry : EntrySnapshots) :
    r₀.pushed (es ++ [.beginCall path site entry]) = none :: r₀.pushed es := by
  rw [pushed, opens_opening rfl, List.map_cons]
  simp [pushedFrame, h, acceptsBegin, hgate, pushed]

theorem pushed_begin_accepted (h : run step r₀ es = some r) {path : BeginPath}
    {site : RawCallSite} (hgate : r.accepts path site = true) {entry : EntrySnapshots}
    {r' : Recorder} {frame : CallFrame} {stack : List CallFrame}
    (hstep : r.step (.beginCall path site entry) = some r')
    (hstack : r'.trace.stack = frame :: stack) :
    r₀.pushed (es ++ [.beginCall path site entry]) = some frame :: r₀.pushed es := by
  rw [pushed, opens_opening rfl, List.map_cons]
  simp [pushedFrame, h, acceptsBegin, hgate, hstep, hstack, pushed]

theorem pushed_end (r₀ : Recorder) (es : List Event) (exit : ExitSnapshots) (abnormal : Bool)
    (answer : TrySend) :
    r₀.pushed (es ++ [.endCall exit abnormal answer]) = (r₀.pushed es).tail := by
  rw [pushed, opens_closing rfl, List.map_tail, pushed]

theorem pushed_budget (r₀ : Recorder) (es : List Event) (bytes : ℕ) :
    r₀.pushed (es ++ [.budget bytes]) = r₀.pushed es := by
  rw [pushed, opens_neutral rfl, pushed]

end pushed

/-! ### Clean runs are paired -/

/-- **Run lemma**: in a clean run the open begins are `droppedBegins` dropped ones,
innermost, and then the accepted ones, whose frames are the stack. -/
theorem pushed_run {shared : Shared} {rinit : Rinit} {es : List Event} {r : Recorder}
    (h : run step (start shared rinit) es = some r)
    (hclean : (start shared rinit).CleanRun es) :
    (start shared rinit).pushed es =
      List.replicate r.trace.droppedBegins none ++ r.trace.stack.map some := by
  refine run_induction (P := fun es r => (start shared rinit).CleanRun es →
    (start shared rinit).pushed es =
      List.replicate r.trace.droppedBegins none ++ r.trace.stack.map some) (fun _ => rfl) ?_ h
    hclean
  intro es r e r' hrun ih hstep hclean
  obtain ⟨hpre, hlast⟩ := along_append.mp hclean
  have hpushed := ih hpre
  have hstepClean := (hlast r hrun).1
  cases step_cases hstep with
  | dropBegin path site entry hgate =>
      have hlt := hstepClean.2 (by simp [dropsBegin, hgate])
      rw [pushed_begin_dropped hrun hgate, hpushed]
      simp [afterDrop, Worker.recordDrop, saturatingSucc_of_lt hlt, List.replicate_succ]
  | acceptBegin path site entry fnId outcome dictionary hgate =>
      have hzero := hstepClean.1 hgate
      rw [pushed_begin_accepted hrun hgate hstep rfl, hpushed, hzero]
      simp [afterAccept, hzero]
  | consumeEnd exit abnormal answer hdrop =>
      obtain ⟨n, hn⟩ := Nat.exists_eq_succ_of_ne_zero (Nat.pos_iff_ne_zero.mp hdrop)
      rw [pushed_end, hpushed, hn]
      simp [afterConsume, hn, List.replicate_succ]
  | strayEnd exit abnormal answer hdrop hstack =>
      rw [pushed_end, hpushed, hdrop, hstack]
      simp [afterStray, hdrop, hstack]
  | emitEnd exit abnormal answer frame stack hdrop hstack =>
      rw [pushed_end, hpushed, hdrop, hstack]
      simp [afterEmit, hdrop]
  | budget bytes =>
      rw [pushed_budget, hpushed]

theorem paired_of_clean {shared : Shared} {rinit : Rinit} {es : List Event}
    (hclean : (start shared rinit).CleanRun es) : (start shared rinit).Paired es := by
  intro pre exit abnormal answer post r r' hes hpre hstep o rest hopens
  have hpushed := pushed_run hpre (along_append.mp (hes ▸ hclean)).1
  rw [pushed, hopens, List.map_cons] at hpushed
  cases step_cases hstep with
  | consumeEnd => exact ⟨fun record hrec => by simp at hrec, fun _ => ⟨rfl, rfl⟩⟩
  | strayEnd => exact ⟨fun record hrec => by simp at hrec, fun _ => ⟨rfl, rfl⟩⟩
  | emitEnd _ _ _ frame stack hdrop hstack =>
      rw [hdrop, hstack, List.replicate_zero, List.nil_append, List.map_cons] at hpushed
      have hframe := (List.cons.inj hpushed).1
      refine ⟨fun record hrec => ⟨frame, hframe, ?_⟩, fun hnone => ?_⟩
      · rw [emitted_flushIfDue, emitted_afterEmit] at hrec
        exact (List.singleton_inj.mp (List.append_cancel_left hrec)).symm
      · rw [hframe] at hnone
        cases hnone

theorem exists_beginCall_of_acceptsBegin {r : Recorder} {e : Event}
    (h : r.acceptsBegin e = true) : ∃ path site entry, e = .beginCall path site entry := by
  cases e with
  | beginCall path site entry => exact ⟨path, site, entry, rfl⟩
  | endCall => cases h
  | budget => cases h

theorem isBegin_of_dropsBegin {r : Recorder} {e : Event} (h : r.dropsBegin e = true) :
    e.isBegin = true := by
  cases e with
  | beginCall => rfl
  | endCall => cases h
  | budget => cases h

/-- The depth gate alone accepts nothing under a drop. -/
theorem cleanRun_of_no_capDrops {shared : Shared} {rinit : Rinit} {es : List Event}
    (hbound : DepthBounded es) (hcap : tally step capDropsBegin (start shared rinit) es = 0) :
    (start shared rinit).CleanRun es := by
  refine along_iff.mpr fun pre e post s hes hpre => ?_
  subst hes
  have hall : Along step DepthExact (start shared rinit) _ := hbound.depthExact
  have hexact := along_append.mp hall
  have hcounted := depthCounted_run hpre hexact.1
  have hlevelled := levelled_run hpre hexact.1
    (tally_eq_zero_iff.mpr (along_append.mp (tally_eq_zero_iff.mp hcap)).1)
  have hlt : s.DepthExact e := (hexact.2 s hpre).1
  constructor
  · intro haccept
    obtain ⟨path, site, entry, rfl⟩ := exists_beginCall_of_acceptsBegin haccept
    exact hlevelled.droppedBegins_of_accepted hcounted (hlt rfl) haccept
  · intro hdrops
    have hdepth := hcounted.depth
    have := hlt (isBegin_of_dropsBegin hdrops)
    omega

theorem paired_of_no_capDrops {shared : Shared} {rinit : Rinit} {es : List Event}
    (hbound : DepthBounded es) (hcap : tally step capDropsBegin (start shared rinit) es = 0) :
    (start shared rinit).Paired es :=
  paired_of_clean (cleanRun_of_no_capDrops hbound hcap)

/-! ### Paired closed runs are clean -/

/-- How many of the open begins were accepted. -/
def openAccepted (r₀ : Recorder) (es : List Event) : ℕ := (r₀.pushed es).countP Option.isSome

theorem openAccepted_begin {r₀ r r' : Recorder} {es : List Event} (h : run step r₀ es = some r)
    {path : BeginPath} {site : RawCallSite} (hgate : r.accepts path site = true)
    {entry : EntrySnapshots} (hstep : r.step (.beginCall path site entry) = some r') :
    r₀.openAccepted (es ++ [.beginCall path site entry]) = r₀.openAccepted es + 1 := by
  cases step_cases hstep with
  | dropBegin _ _ _ hno => exact absurd (hgate.symm.trans hno) (by decide)
  | acceptBegin =>
      rw [openAccepted, pushed_begin_accepted h hgate hstep rfl, openAccepted,
        List.countP_cons_of_pos rfl]

theorem openAccepted_dropped {r₀ r : Recorder} {es : List Event} (h : run step r₀ es = some r)
    {path : BeginPath} {site : RawCallSite} (hgate : r.accepts path site = false)
    (entry : EntrySnapshots) :
    r₀.openAccepted (es ++ [.beginCall path site entry]) = r₀.openAccepted es := by
  rw [openAccepted, pushed_begin_dropped h hgate, List.countP_cons_of_neg (by simp), openAccepted]

theorem openAccepted_end_le (r₀ : Recorder) (es : List Event) (exit : ExitSnapshots)
    (abnormal : Bool) (answer : TrySend) :
    r₀.openAccepted (es ++ [.endCall exit abnormal answer]) ≤ r₀.openAccepted es := by
  rw [openAccepted, openAccepted, pushed_end]
  exact (r₀.pushed es).tail_sublist.countP_le

theorem Paired.prefix {r₀ : Recorder} {es fs : List Event} (h : r₀.Paired (es ++ fs)) :
    r₀.Paired es := by
  intro pre exit abnormal answer post r r' hes
  exact h pre exit abnormal answer (post ++ fs) r r' (by simp [hes])

theorem openAccepted_le {r₀ s r : Recorder} {pre post : List Event}
    (hpre : run step r₀ pre = some s) (hpost : run step s post = some r)
    (hnest : WellNested Event.mark (pre ++ post)) (hpaired : r₀.Paired (pre ++ post)) :
    s.trace.stack.length + r₀.openAccepted (pre ++ post) ≤
      r.trace.stack.length + r₀.openAccepted pre := by
  refine run_induction (P := fun post r => WellNested Event.mark (pre ++ post) →
    r₀.Paired (pre ++ post) → s.trace.stack.length + r₀.openAccepted (pre ++ post) ≤
      r.trace.stack.length + r₀.openAccepted pre) ?_ ?_ hpost hnest hpaired
  · intro _ _
    rw [List.append_nil]
  intro post r e r' hrun ih hstep hnest hpaired
  rw [← List.append_assoc] at hnest hpaired ⊢
  obtain ⟨hnest, hclosing⟩ := wellNested_snoc.mp hnest
  have hle := ih hnest hpaired.prefix
  have hall : run step r₀ (pre ++ post) = some r := run_append_eq_some.mpr ⟨s, hpre, hrun⟩
  cases step_cases hstep with
  | dropBegin path site entry hgate =>
      rw [openAccepted_dropped hall hgate]
      exact hle
  | acceptBegin path site entry fnId outcome dictionary hgate =>
      rw [openAccepted_begin hall hgate hstep]
      simp only [afterAccept, List.length_cons]
      omega
  | consumeEnd exit abnormal answer hdrop =>
      exact (Nat.add_le_add_left (openAccepted_end_le r₀ _ exit abnormal answer) _).trans hle
  | strayEnd exit abnormal answer hdrop hstack =>
      exact (Nat.add_le_add_left (openAccepted_end_le r₀ _ exit abnormal answer) _).trans hle
  | emitEnd exit abnormal answer frame stack hdrop hstack =>
      -- the record is that of the begin that is closed, so that begin was accepted
      obtain ⟨o, rest, hopens⟩ := List.exists_cons_of_ne_nil (hclosing rfl)
      obtain ⟨f, hf, -⟩ := (hpaired (pre ++ post) exit abnormal answer [] r _ rfl hall hstep o rest
        hopens).1 (frame.intoCallRecord exit abnormal) (by simp)
      rw [openAccepted, pushed_end]
      rw [openAccepted, pushed, hopens, List.map_cons, hf] at hle
      rw [pushed, hopens, List.map_cons, hf]
      simp only [List.countP_cons, Option.isSome_some, ↓reduceIte, List.tail_cons,
        stack_flushIfDue, afterEmit] at hle ⊢
      rw [hstack, List.length_cons] at hle
      omega
  | budget bytes =>
      rw [openAccepted, pushed_budget]
      exact hle

theorem openAccepted_of_match (r₀ : Recorder) {pre es : List Event} {b x : Event}
    (hopens : opens Event.mark es = (pre, b) :: opens Event.mark pre)
    (hx : x.mark = .closing) :
    r₀.openAccepted (es ++ [x]) = r₀.openAccepted pre := by
  unfold openAccepted pushed
  rw [opens_closing hx, hopens, List.tail_cons]

theorem droppedBegins_of_pop {r r' : Recorder} {x : Event} (hx : x.mark = .closing)
    (hstep : r.step x = some r') (hpop : r'.trace.stack.length < r.trace.stack.length) :
    r.trace.droppedBegins = 0 := by
  cases step_cases hstep with
  | dropBegin => cases hx
  | acceptBegin => cases hx
  | budget => cases hx
  | consumeEnd => exact absurd hpop (Nat.lt_irrefl _)
  | strayEnd _ _ _ hdrop => exact hdrop
  | emitEnd _ _ _ _ _ hdrop => exact hdrop

/-- A closed paired run whose nesting stays within `u32`. -/
structure ClosedPaired (r₀ : Recorder) (es : List Event) : Prop where
  runs : ∃ r, run step r₀ es = some r
  nested : WellNested Event.mark es
  bounded : DepthBounded es
  closed : opens Event.mark es = []
  paired : r₀.Paired es

namespace ClosedPaired

variable {shared : Shared} {rinit : Rinit} {pre post : List Event} {s : Recorder} {e : Event}

theorem open_eq (h : ClosedPaired (start shared rinit) (pre ++ post))
    (hpre : run step (start shared rinit) pre = some s) :
    s.trace.stack.length + s.trace.droppedBegins = (opens Event.mark pre).length :=
  opens_run hpre h.bounded.prefix

/-- In every state of the run the stack has the frames of the accepted open begins. -/
theorem stack_eq (h : ClosedPaired (start shared rinit) (pre ++ post))
    (hpre : run step (start shared rinit) pre = some s) :
    s.trace.stack.length = (start shared rinit).openAccepted pre := by
  obtain ⟨r, hrun⟩ := h.runs
  obtain ⟨s', hs', hpost⟩ := run_append_eq_some.mp hrun
  obtain rfl := Option.some.inj (hpre.symm.trans hs')
  have hend := opens_run hrun h.bounded
  rw [h.closed, List.length_nil] at hend
  have hto := openAccepted_le (run_nil step _) hpre h.nested.prefix h.paired.prefix
  have hfrom := openAccepted_le hpre hpost h.nested h.paired
  simp only [List.nil_append, openAccepted, pushed, h.closed, opens_nil, List.map_nil,
    List.countP_nil] at hto hfrom ⊢
  have hstart : (start shared rinit).trace.stack.length = 0 := rfl
  omega

/-- No begin is accepted under an open dropped one: the end of the accepted begin would be
charged to the drop. -/
theorem droppedBegins_of_accepted (h : ClosedPaired (start shared rinit) (pre ++ e :: post))
    (hpre : run step (start shared rinit) pre = some s) (haccept : s.acceptsBegin e = true) :
    s.trace.droppedBegins = 0 := by
  obtain ⟨path, site, entry, rfl⟩ := exists_beginCall_of_acceptsBegin haccept
  rw [List.append_cons] at h
  obtain ⟨r, hrun⟩ := h.runs
  obtain ⟨s₁, hs₁, hpost⟩ := run_append_eq_some.mp hrun
  obtain ⟨s', hs', hstep⟩ := run_snoc_eq_some.mp hs₁
  obtain rfl := Option.some.inj (hpre.symm.trans hs')
  have hbegin : opens Event.mark (pre ++ [.beginCall path site entry]) =
      (pre, .beginCall path site entry) :: opens Event.mark pre := opens_opening rfl pre
  -- the end that closes the begin, and the states around it
  obtain ⟨q₁, x, q₂, rfl, hx, hopens⟩ := exists_match post _ [] hbegin h.closed
  obtain ⟨s₂, hq₁, hrest⟩ := run_append_eq_some.mp hpost
  obtain ⟨s₃, hx₃, -⟩ := run_cons_eq_some.mp hrest
  have hs₂ := run_append_eq_some.mpr ⟨s₁, hs₁, hq₁⟩
  have hs₃ := run_snoc_eq_some.mpr ⟨s₂, hs₂, hx₃⟩
  -- the frame of the begin is on the stack just before that end, and gone after it
  have hat₂ : ClosedPaired (start shared rinit)
      ((pre ++ [.beginCall path site entry] ++ q₁) ++ x :: q₂) := by
    rw [List.append_assoc]
    exact h
  have hat₃ : ClosedPaired (start shared rinit)
      ((pre ++ [.beginCall path site entry] ++ q₁ ++ [x]) ++ q₂) := by
    rw [← List.append_cons]
    exact hat₂
  have hat : ClosedPaired (start shared rinit)
      (pre ++ ([.beginCall path site entry] ++ (q₁ ++ x :: q₂))) := by
    rw [← List.append_assoc]
    exact h
  have hstack := hat.stack_eq hpre
  have hstack₂ := hat₂.stack_eq hs₂
  have hstack₃ := hat₃.stack_eq hs₃
  have hopen := hat.open_eq hpre
  have hopen₂ := hat₂.open_eq hs₂
  rw [openAccepted_of_match _ hopens hx] at hstack₃
  rw [openAccepted, pushed, hopens, ← hbegin, ← pushed, ← openAccepted,
    openAccepted_begin hpre haccept hstep] at hstack₂
  rw [hopens, List.length_cons] at hopen₂
  have hzero := droppedBegins_of_pop hx hx₃ (by omega)
  omega

theorem droppedBegins_of_dropped (h : ClosedPaired (start shared rinit) (pre ++ e :: post))
    (hpre : run step (start shared rinit) pre = some s) (hdrops : s.dropsBegin e = true) :
    s.trace.droppedBegins < u32Max := by
  have hopen := h.open_eq hpre
  have hlen := h.bounded (pre ++ [e]) post (List.append_cons _ _ _)
  have hopening := Event.mark_of_isBegin (isBegin_of_dropsBegin hdrops)
  rw [opens_opening hopening, List.length_cons] at hlen
  omega

theorem clean {es : List Event} (h : ClosedPaired (start shared rinit) es) :
    (start shared rinit).CleanRun es :=
  along_iff.mpr fun _ _ _ _ hes hpre =>
    ⟨(hes ▸ h).droppedBegins_of_accepted hpre, (hes ▸ h).droppedBegins_of_dropped hpre⟩

end ClosedPaired

/-- **Pairing through drops**: a clean run of a fresh trace is paired, and a closed run
whose nesting stays within `u32` is paired exactly when it is clean. -/
theorem paired_iff_clean {shared : Shared} {rinit : Rinit} {es : List Event} {r : Recorder}
    (hrun : run step (start shared rinit) es = some r) (hnest : WellNested Event.mark es) :
    ((start shared rinit).CleanRun es → (start shared rinit).Paired es) ∧
      (DepthBounded es → opens Event.mark es = [] →
        ((start shared rinit).Paired es ↔ (start shared rinit).CleanRun es)) :=
  ⟨paired_of_clean, fun hbound hclosed =>
    ⟨fun hpaired => ClosedPaired.clean ⟨⟨r, hrun⟩, hnest, hbound, hclosed, hpaired⟩,
      paired_of_clean⟩⟩

/-- A call within a call that is dropped at the depth limit. -/
theorem paired_iff_clean_at_depth_limit :
    (run step (start Shared.init (rinitWith ⟨1, 4096, 8, 4096⟩))
        [beginOf "f" 1, beginOf "g" 2, endAt 3, endAt 4]).isSome ∧
      (start Shared.init (rinitWith ⟨1, 4096, 8, 4096⟩)).Paired
        [beginOf "f" 1, beginOf "g" 2, endAt 3, endAt 4] :=
  have hsome : (run step (start Shared.init (rinitWith ⟨1, 4096, 8, 4096⟩))
      [beginOf "f" 1, beginOf "g" 2, endAt 3, endAt 4]).isSome := by decide
  ⟨hsome, (paired_iff_clean (Option.some_get hsome).symm (by decide)).1 (by decide)⟩

/-- Fourteen calls of `f`, then a first call of another function, which the cap gate drops,
and inside it one more call of `f`, which fits. -/
def acceptUnderDrop : List Event :=
  (List.replicate 14 [beginOf "f" 1, endAt 2]).flatten ++
    [beginOf "handle_the_upload" 3, beginOf "f" 4, endAt 5]

/-- A run need not be paired: the end of `f` is charged to the dropped begin around it, and
the end of the dropped begin emits the record of `f`. -/
theorem not_every_run_paired :
    ¬ ∀ (shared : Shared) (rinit : Rinit) (es : List Event) (r : Recorder),
      WellNested Event.mark es → run step (start shared rinit) es = some r →
      (start shared rinit).Paired es := by
  intro h
  have hpaired := h Shared.init (rinitWith ⟨100, 1024, 1000, 1024⟩) (acceptUnderDrop ++ [endAt 6])
    _ (by decide) (Option.some_get (by decide)).symm
  have hend := (hpaired acceptUnderDrop (exitAt 6) false .ok [] _ _ rfl
    (Option.some_get (by decide)).symm rfl _ _ rfl).2 (by decide)
  exact absurd hend.2 (by decide)

end Recorder

end PhpAnalyze
