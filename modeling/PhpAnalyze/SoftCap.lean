import PhpAnalyze.Budget

/-! # The soft cap bounds the budget

The cap gate charges a call its record when the call begins; the budget is charged when the
call ends.  So a call can pass the gate while the records of the open calls are still to come,
and `RSHUTDOWN` pushes them without asking the gate.

On one PHP thread the overshoot is bounded.  With a record put aside for every open frame the
budget never exceeds the cap by more than `max_depth - 1` records: a begin that passes the cap
gate has room for its own record, and one that passes the depth gate has at most
`max_depth - 1` frames below it.  `PhpThread.Capped` is this invariant; it needs that the
depth counts the open frames and the dropped begins (`Trace.Within.depth`), which holds while
the counter does not saturate (`gateExact`). -/

namespace PhpAnalyze

open Machine

/-! ### The invariant -/

section Capped

variable (maxDepth bufferCapBytes bytes : ℕ)

/-- Between two handlers: the budget has room for the open frames. -/
structure Trace.Within (t : Trace) : Prop where
  depthLimit : t.maxDepth = maxDepth
  capLimit : t.bufferCapBytes = bufferCapBytes
  depth : t.stack.length + t.droppedBegins = t.virtualDepth
  total : bytes + 64 * t.stack.length ≤ bufferCapBytes + 64 * (maxDepth - 1)

/-- After the gate and before the accept tail: there is room for one more frame. -/
structure Trace.Admits (plan : BeginPlan) (t : Trace) : Prop where
  depthLimit : t.maxDepth = maxDepth
  capLimit : t.bufferCapBytes = bufferCapBytes
  depth : t.stack.length + 1 + t.droppedBegins = t.virtualDepth
  room : t.stack.length + 1 ≤ maxDepth
  total : bytes + plan.wouldAdd t ≤ bufferCapBytes

namespace PhpThread

/-- The accepted frames that are open. -/
def openFrames : PhpThread → ℕ
  | .noTrace => 0
  | .live trace => trace.stack.length
  | .admitted trace _ _ => trace.stack.length
  | .handing trace _ => trace.stack.length
  | .draining trace _ => trace.stack.length
  | .handingLast trace _ => trace.stack.length
  | .releasing trace => trace.stack.length

/-- A thread with these limits keeps a budget of `bytes` within the soft cap. -/
def Capped : PhpThread → Prop
  | .live trace => trace.Within maxDepth bufferCapBytes bytes
  | .admitted trace path site => trace.Admits maxDepth bufferCapBytes bytes (path.plan site)
  | .handing trace _ => trace.Within maxDepth bufferCapBytes bytes
  | t => bytes + 64 * t.openFrames ≤ bufferCapBytes + 64 * (maxDepth - 1)

end PhpThread

end Capped

variable {maxDepth bufferCapBytes bytes bytes' : ℕ}

theorem BeginPlan.record_le_wouldAdd (plan : BeginPlan) (t : Trace) : 64 ≤ plan.wouldAdd t :=
  Nat.le_add_right _ _

theorem Trace.Within.mono {t : Trace} (h : t.Within maxDepth bufferCapBytes bytes)
    (hle : bytes' ≤ bytes) : t.Within maxDepth bufferCapBytes bytes' where
  depthLimit := h.depthLimit
  capLimit := h.capLimit
  depth := h.depth
  total := (Nat.add_le_add_right hle _).trans h.total

namespace PhpThread

theorem Capped.bytes_le {t : PhpThread} (h : t.Capped maxDepth bufferCapBytes bytes) :
    bytes + 64 * t.openFrames ≤ bufferCapBytes + 64 * (maxDepth - 1) := by
  cases t with
  | live trace => exact Trace.Within.total h
  | handing trace batch => exact Trace.Within.total h
  | admitted trace path site =>
      obtain ⟨-, -, -, hroom, htotal⟩ := h
      have hrecord := (path.plan site).record_le_wouldAdd trace
      show bytes + 64 * trace.stack.length ≤ _
      omega
  | _ => exact h

theorem Capped.mono {t : PhpThread} (h : t.Capped maxDepth bufferCapBytes bytes)
    (hle : bytes' ≤ bytes) : t.Capped maxDepth bufferCapBytes bytes' := by
  cases t with
  | live trace => exact Trace.Within.mono h hle
  | handing trace batch => exact Trace.Within.mono h hle
  | admitted trace path site =>
      obtain ⟨hmax, hcap, hdepth, hroom, htotal⟩ := h
      exact ⟨hmax, hcap, hdepth, hroom, (Nat.add_le_add_right hle _).trans htotal⟩
  | _ => exact (Nat.add_le_add_right hle _).trans h

end PhpThread

/-! ### One step of the thread -/

def PhpEvent.hasLimits (maxDepth bufferCapBytes : ℕ) : PhpEvent → Bool
  | .rinit _ limits _ => limits.maxDepth = maxDepth ∧ limits.bufferCapBytes = bufferCapBytes
  | _ => true

namespace PhpThread

/-- The `saturating_add`s of the begin gate do not hide that a limit is passed: the depth is
below `u32::MAX`, and with a cap of `usize::MAX` the projected total fits in a `usize`. -/
def gateExact (shared : Shared) : PhpThread → PhpEvent → Bool
  | .live trace, .beginGate path site =>
      trace.virtualDepth < u32Max &&
        (trace.bufferCapBytes < 2 ^ 64 - 1 ||
          shared.bytesInMemory + (path.plan site).wouldAdd trace < 2 ^ 64)
  | _, _ => true

variable {arc : ArcId} {shared : Shared} {move : PhpMove}

theorem openFrames_endCall {trace : Trace} {exit : ExitSnapshots} {abnormal : Bool}
    (h : (PhpThread.live trace).step arc shared (.endCall exit abnormal) = some move) :
    move.thread.openFrames =
      if 0 < trace.droppedBegins then trace.stack.length else trace.stack.length - 1 := by
  simp only [step] at h
  obtain ⟨hquiet, hend⟩ | ⟨hdrop, frame, stack, hstack, hend⟩ :=
    endToSend_cases trace shared exit abnormal
  · rw [hend] at h
    cases h
    show (endWouldAccept trace).2.stack.length = _
    rw [stack_endWouldAccept]
    split
    · rfl
    · rw [hquiet.resolve_left ‹_›]
      rfl
  · have hlength : stack.length = trace.stack.length - 1 := by rw [hstack]; rfl
    rw [hend] at h
    rw [hdrop, if_neg (Nat.lt_irrefl 0), ← hlength]
    rcases finishToSend_cases (endWouldAccept trace).2 shared stack
      (frame.intoCallRecord exit abnormal) with hfinish | hfinish
    · rw [hfinish] at h
      cases h
      rfl
    · rw [hfinish] at h
      cases h
      rfl

theorem Capped.beginGate {trace : Trace} {path : BeginPath} {site : RawCallSite}
    (h : trace.Within maxDepth bufferCapBytes shared.bytesInMemory)
    (hexact : gateExact shared (.live trace) (.beginGate path site) = true)
    (hstep : (PhpThread.live trace).step arc shared (.beginGate path site) = some move) :
    move.thread.Capped maxDepth bufferCapBytes move.shared.bytesInMemory := by
  obtain ⟨hmax, hcap, hdepth, htotal⟩ := h
  obtain ⟨hlt, hfits⟩ := Bool.and_eq_true_iff.mp hexact
  have hdeeper := saturatingSucc_of_lt (of_decide_eq_true hlt)
  rcases beginGate_cases hstep with ⟨hgate, rfl⟩ | ⟨-, rfl⟩
  · rw [beginGateOn_eq, Worker.wouldAccept_fst_iff, hdeeper] at hgate
    obtain ⟨hlevel, hroom⟩ := hgate
    have hsum : shared.bytesInMemory + (path.plan site).wouldAdd trace ≤ bufferCapBytes := by
      have hfits' : trace.bufferCapBytes < 2 ^ 64 - 1 ∨
          shared.bytesInMemory + (path.plan site).wouldAdd trace < 2 ^ 64 := by
        simpa using hfits
      have hroom' : min (shared.bytesInMemory + (path.plan site).wouldAdd trace) (2 ^ 64 - 1) ≤
        trace.bufferCapBytes := hroom
      omega
    refine ⟨hmax, hcap, ?_, ?_, hsum⟩
    · show trace.stack.length + 1 + trace.droppedBegins = saturatingSucc trace.virtualDepth
      omega
    · show trace.stack.length + 1 ≤ maxDepth
      dsimp only at hlevel
      omega
  · refine ⟨hmax, hcap, ?_, htotal⟩
    show trace.stack.length + saturatingSucc trace.droppedBegins =
      saturatingSucc trace.virtualDepth
    have hdropped : trace.droppedBegins < u32Max := by
      have := of_decide_eq_true hlt
      omega
    rw [hdeeper, saturatingSucc_of_lt hdropped]
    omega

theorem Capped.beginAccept {trace : Trace} {path : BeginPath} {site : RawCallSite}
    (h : trace.Admits maxDepth bufferCapBytes shared.bytesInMemory (path.plan site))
    (entry : EntrySnapshots) {fnId : ℕ} {outcome : ProbeOutcome} {dictionary : Dictionary}
    (hdict : trace.dictionary.internRef (path.plan site).keyRef (path.plan site).build =
      some (fnId, outcome, dictionary)) :
    (trace.pushFrame fnId entry dictionary (Recorder.billed (path.plan site) outcome)).Within
      maxDepth bufferCapBytes
      (shared.bytesInMemory + Recorder.billed (path.plan site) outcome) := by
  obtain ⟨hmax, hcap, hdepth, hroom, htotal⟩ := h
  have hbilled : Recorder.billed (path.plan site) outcome + 64 ≤
      (path.plan site).wouldAdd trace := by
    unfold BeginPlan.wouldAdd Dictionary.containsKeyRef callRecordFixedBytes
    rcases Dictionary.internRef_eq_some.mp hdict with ⟨hprobe, rfl, -⟩ | ⟨hprobe, -, -, rfl, -⟩
    · rw [hprobe]
      exact Nat.le_refl 64
    · rw [hprobe]
      exact (Nat.add_comm _ _).le
  refine ⟨hmax, hcap, hdepth, ?_⟩
  show _ + 64 * (trace.stack.length + 1) ≤ _
  omega

theorem Capped.endCall {trace : Trace} {exit : ExitSnapshots} {abnormal : Bool}
    (h : trace.Within maxDepth bufferCapBytes shared.bytesInMemory)
    (hstep : (PhpThread.live trace).step arc shared (.endCall exit abnormal) = some move) :
    move.thread.Capped maxDepth bufferCapBytes move.shared.bytesInMemory := by
  obtain ⟨hmax, hcap, hdepth, htotal⟩ := h
  have hopen := openFrames_endCall hstep
  cases step_endCall hstep with
  | quietEnd =>
      simp only [openFrames, stack_endWouldAccept] at hopen
      simp only [Capped, endWouldAccept_snd]
      refine ⟨hmax, hcap, ?_, htotal⟩
      dsimp only
      split at hopen <;> omega
  | emitEnd _ _ _ frame stack hstack | flushEnd _ _ _ frame stack hstack =>
      simp only [openFrames, Trace.emit, Trace.flushIntoPendingBatch] at hopen
      have hlength : trace.stack.length = stack.length + 1 := by rw [hstack]; rfl
      simp only [Capped, endWouldAccept_snd, Trace.emit, Trace.flushIntoPendingBatch,
        Shared.bytesInMemory_add, callRecordFixedBytes]
      refine ⟨hmax, hcap, ?_, ?_⟩
      · dsimp only
        split at hopen <;> omega
      · dsimp only
        omega

theorem bytesInMemory_sub_le (h : bytes ≤ shared.bytesInMemory) :
    (shared.sub bytes).bytesInMemory ≤ shared.bytesInMemory := by
  rw [Shared.sub_of_le h]
  exact Nat.sub_le _ _

theorem bytesInMemory_trySendBatch_le {batch : PendingBatch} (answer : TrySend)
    (h : batch.sizeEstimate ≤ shared.bytesInMemory) :
    (trySendBatch answer batch shared).bytesInMemory ≤ shared.bytesInMemory := by
  cases answer with
  | ok => exact Nat.le_refl _
  | noSender | full | disconnected => exact bytesInMemory_sub_le h

/-- **Step lemma**: a thread that gives back no more than there is keeps the soft cap. -/
theorem Capped.step {t : PhpThread} {e : PhpEvent}
    (h : t.Capped maxDepth bufferCapBytes shared.bytesInMemory)
    (hheld : t.heldBytes ≤ shared.bytesInMemory)
    (hlimits : e.hasLimits maxDepth bufferCapBytes = true)
    (hexact : t.gateExact shared e = true) (hstep : t.step arc shared e = some move) :
    move.thread.Capped maxDepth bufferCapBytes move.shared.bytesInMemory := by
  cases step_cases hstep with
  | rinit identity limits =>
      obtain ⟨hmax, hcap⟩ := of_decide_eq_true hlimits
      exact ⟨hmax, hcap, rfl, h⟩
  | rinitStale stale identity limits =>
      obtain ⟨hmax, hcap⟩ := of_decide_eq_true hlimits
      have hle := bytesInMemory_sub_le (Nat.le_of_add_right_le hheld)
      refine ⟨hmax, hcap, rfl, hle.trans ?_⟩
      exact (Nat.le_add_right _ _).trans h.bytes_le
  | ignore => exact h
  | dropBegin => exact Capped.beginGate h hexact hstep
  | admitBegin => exact Capped.beginGate h hexact hstep
  | acceptBegin trace path site entry fnId outcome dictionary hdict =>
      exact Capped.beginAccept h entry hdict
  | quietEnd => exact Capped.endCall h hstep
  | emitEnd => exact Capped.endCall h hstep
  | flushEnd => exact Capped.endCall h hstep
  | send trace batch answer =>
      have hle := bytesInMemory_trySendBatch_le answer (Nat.le_of_add_left_le hheld)
      exact Trace.Within.mono h hle
  | rshutdown => exact h.bytes_le
  | drainFrame trace exit frame stack hstack =>
      have htotal : shared.bytesInMemory + 64 * trace.stack.length ≤ _ := h
      rw [hstack, List.length_cons] at htotal
      show shared.bytesInMemory + 64 + 64 * stack.length ≤ _
      omega
  | skipFlush => exact h
  | flushLast => exact h
  | sendLast trace batch answer =>
      have hle := bytesInMemory_trySendBatch_le answer (Nat.le_of_add_left_le hheld)
      exact (Nat.add_le_add_right hle _).trans h
  | release trace =>
      have hle := bytesInMemory_sub_le (Nat.le_of_add_right_le hheld)
      refine hle.trans ?_
      exact (Nat.le_add_right _ _).trans h.bytes_le

end PhpThread

/-! ### The process -/

theorem bytesInMemory_shipper_le {env : NoticeEnv} {s s' : Shipper} {e : ShipperEvent}
    (h : Shipper.Step env s e s') (hheld : s.heldBytes ≤ s.shared.bytesInMemory) :
    s'.shared.bytesInMemory ≤ s.shared.bytesInMemory := by
  have hsettles := (settles_shipper h hheld).bytes
  have hheld' : s'.heldBytes ≤ s.heldBytes := by
    obtain ⟨left, -, hweight⟩ := Shipper.effect_step h
    have hleft := hweight PendingBatch.sizeEstimate
    unfold Shipper.heldBytes
    omega
  omega

def SystemEvent.hasLimits (maxDepth bufferCapBytes : ℕ) : SystemEvent (Fin 1) → Bool
  | .php _ e => e.hasLimits maxDepth bufferCapBytes
  | _ => true

theorem PhpThread.exists_beginGate (arc : ArcId) (shared : Shared) (trace : Trace)
    (path : BeginPath) (site : RawCallSite) :
    ∃ move, (PhpThread.live trace).step arc shared (.beginGate path site) = some move := by
  simp only [PhpThread.step]
  split <;> exact ⟨_, rfl⟩

namespace System

variable {env : NoticeEnv}

def gateExact (s : System (Fin 1)) : SystemEvent (Fin 1) → Bool
  | .php i e => (s.threads i).gateExact s.shared e
  | _ => true

/-- The thread keeps the soft cap, and the counter is what is held. -/
structure Capped (maxDepth bufferCapBytes : ℕ) (s : System (Fin 1)) : Prop where
  thread : (s.threads 0).Capped maxDepth bufferCapBytes s.shared.bytesInMemory
  balanced : s.Balanced

theorem capped_init : (init (Fin 1)).Capped maxDepth bufferCapBytes where
  thread := Nat.zero_le _
  balanced := balanced_init

/-- **Step lemma.** -/
theorem Capped.step {s s' : System (Fin 1)} {e : SystemEvent (Fin 1)}
    (h : s.Capped maxDepth bufferCapBytes)
    (hlimits : e.hasLimits maxDepth bufferCapBytes = true) (hexact : s.gateExact e = true)
    (hstep : s.step env e = some s') : s'.Capped maxDepth bufferCapBytes := by
  refine ⟨?_, h.balanced.step hstep⟩
  have hbytes := h.balanced.bytes
  cases step_cases hstep with
  | php i e =>
      obtain rfl : i = 0 := Subsingleton.elim i 0
      obtain ⟨move, hmove, heq⟩ := move_of_php hstep
      have hheld := Places.weigh_le_total PhpThread.heldBytes s.threads 0
      rw [heq, threads_moved_self]
      exact h.thread.step (by omega) hlimits hexact hmove
  | shipper e shipper hshipper =>
      exact h.thread.mono (bytesInMemory_shipper_le hshipper (by omega))
  | environment e s' drains hphp hshipper hframe =>
      rw [hframe.threads, hframe.shared]
      exact h.thread

/-- **The soft cap bounds the budget**: on one PHP thread, with the same limits for every
request, the budget never exceeds the cap by more than `max_depth - 1` records, not even when
every frame that is open had its record already. -/
theorem soft_cap_bounds_budget {es : List (SystemEvent (Fin 1))} {s : System (Fin 1)}
    (hlimits : ∀ e ∈ es, e.hasLimits maxDepth bufferCapBytes = true)
    (hexact : Along (step env) (fun s e => s.gateExact e = true) (init (Fin 1)) es)
    (h : run (step env) (init (Fin 1)) es = some s) :
    s.shared.bytesInMemory ≤ bufferCapBytes + 64 * (maxDepth - 1) ∧
      s.shared.bytesInMemory + 64 * (s.threads 0).openFrames ≤
        bufferCapBytes + 64 * (maxDepth - 1) := by
  have hcapped : s.Capped maxDepth bufferCapBytes :=
    run_invariant_along (fun _ e he _ hexact hstep hs => hs.step (hlimits e he) hexact hstep) h
      hexact capped_init
  have hle := hcapped.thread.bytes_le
  exact ⟨(Nat.le_add_right _ _).trans hle, hle⟩

/-- A call and, inside it, a second one that the gate lets pass; `RSHUTDOWN` drains both. -/
def drainedPastCap : List (SystemEvent (Fin 1)) :=
  phpSteps [rinitOf ⟨2, 89, 9, 4096⟩, .beginGate .lazy (callSiteOf "f"), .beginAccept (entryAt 1),
    .beginGate .lazy (callSiteOf "f"), .beginAccept (entryAt 2), .rshutdown (exitAt 3), .drain,
    .drain]

/-- The bound is reached. -/
theorem soft_cap_bounds_budget_reached :
    ∃ s, run (step noticeEnvOf) (init (Fin 1)) drainedPastCap = some s ∧
      s.shared.bytesInMemory = 89 + 64 * (2 - 1) ∧
      s.shared.bytesInMemory ≤ 89 + 64 * (2 - 1) := by
  have hrun := (Option.some_get (show (run (step noticeEnvOf) (init (Fin 1))
    drainedPastCap).isSome = true by decide)).symm
  have hlimits : ∀ e ∈ drainedPastCap, e.hasLimits 2 89 = true := by decide
  exact ⟨_, hrun, by decide, (soft_cap_bounds_budget hlimits (by decide) hrun).1⟩

/-! ### A depth that saturates

The depth counter stops at `u32::MAX`.  When `2 ^ 32 - 1` begins are dropped inside a call, the
ends of the dropped begins take it back to zero, below the frame that is open, and the next
begin passes the depth gate. -/

section saturation

theorem saturated_succ_add (v n top : ℕ) :
    min (min (v + 1) top + n) top = min (v + (n + 1)) top := by
  omega

theorem dropped_begins_run (env : NoticeEnv) (path : BeginPath) (site : RawCallSite) (n : ℕ) :
    ∀ {s : System (Fin 1)} {trace : Trace}, s.threads 0 = .live trace →
    trace.maxDepth ≤ trace.virtualDepth → trace.maxDepth < u32Max →
    trace.virtualDepth ≤ u32Max → trace.droppedBegins ≤ u32Max →
    ∃ s', run (step env) s (List.replicate n (.php 0 (.beginGate path site))) = some s' ∧
      s'.threads 0 = .live { trace with
        virtualDepth := min (trace.virtualDepth + n) u32Max
        droppedBegins := min (trace.droppedBegins + n) u32Max } ∧
      s'.shared.bytesInMemory = s.shared.bytesInMemory := by
  induction n with
  | zero =>
      intro s trace hthread _ _ hv hd
      refine ⟨s, rfl, ?_, rfl⟩
      rw [hthread, Nat.add_zero, Nat.add_zero, Nat.min_eq_left hv, Nat.min_eq_left hd]
  | succ n ih =>
      intro s trace hthread hlevel hmax hv hd
      obtain ⟨move, hmove⟩ := PhpThread.exists_beginGate s.nextArc s.shared trace path site
      rcases PhpThread.beginGate_cases hmove with ⟨hgate, -⟩ | ⟨-, rfl⟩
      · rw [beginGateOn_eq, Worker.wouldAccept_fst_iff] at hgate
        have hdepth : min (trace.virtualDepth + 1) u32Max ≤ trace.maxDepth := hgate.1
        omega
      · obtain ⟨s₁, hstep, hthread₁, hshared₁⟩ := exists_step_php env (hthread ▸ hmove) rfl
        obtain ⟨s', hrun, hthread', hbytes⟩ := ih hthread₁
          (show trace.maxDepth ≤ min (trace.virtualDepth + 1) u32Max by omega) hmax
          (Nat.min_le_right _ _) (Nat.min_le_right _ _)
        refine ⟨s', run_cons_eq_some.mpr ⟨s₁, hstep, hrun⟩, ?_, by rw [hbytes, hshared₁]; rfl⟩
        rw [hthread', ← saturated_succ_add trace.virtualDepth,
          ← saturated_succ_add trace.droppedBegins]
        rfl

theorem dropped_ends_run (env : NoticeEnv) (exit : ExitSnapshots) (abnormal : Bool) (n : ℕ) :
    ∀ {s : System (Fin 1)} {trace : Trace}, s.threads 0 = .live trace →
    n ≤ trace.droppedBegins →
    ∃ s', run (step env) s (List.replicate n (.php 0 (.endCall exit abnormal))) = some s' ∧
      s'.threads 0 = .live { trace with
        virtualDepth := trace.virtualDepth - n
        droppedBegins := trace.droppedBegins - n } ∧
      s'.shared.bytesInMemory = s.shared.bytesInMemory := by
  induction n with
  | zero =>
      intro s trace hthread _
      exact ⟨s, rfl, hthread, rfl⟩
  | succ n ih =>
      intro s trace hthread hdropped
      rcases endToSend_cases trace s.shared exit abnormal with ⟨-, hend⟩ | ⟨hzero, -⟩
      · have hmove : (PhpThread.live trace).step s.nextArc s.shared (.endCall exit abnormal) =
            some ⟨.live (endWouldAccept trace).2, s.shared, none⟩ := by
          simp only [PhpThread.step, hend]
        obtain ⟨s₁, hstep, hthread₁, hshared₁⟩ := exists_step_php env (hthread ▸ hmove) rfl
        rw [endWouldAccept_snd] at hthread₁
        obtain ⟨s', hrun, hthread', hbytes⟩ := ih hthread₁ (Nat.le_sub_of_add_le hdropped)
        refine ⟨s', run_cons_eq_some.mpr ⟨s₁, hstep, hrun⟩, ?_, by rw [hbytes, hshared₁]⟩
        rw [hthread', Nat.sub_sub, Nat.sub_sub, Nat.add_comm 1 n]
      · omega

theorem accepted_begin_run (env : NoticeEnv) {s : System (Fin 1)} {trace : Trace} {path : BeginPath}
    {site : RawCallSite} (entry : EntrySnapshots) {fnId : ℕ}
    (hthread : s.threads 0 = .live trace) (hlevel : trace.virtualDepth + 1 ≤ trace.maxDepth)
    (hroom : s.shared.bytesInMemory + 64 ≤ trace.bufferCapBytes)
    (hid : trace.callIdSeq + 1 < 2 ^ 64)
    (hhit : trace.dictionary.internRef (path.plan site).keyRef (path.plan site).build =
      some (fnId, .hit, trace.dictionary)) :
    ∃ s', run (step env) s [.php 0 (.beginGate path site), .php 0 (.beginAccept entry)] =
        some s' ∧
      s'.shared.bytesInMemory = s.shared.bytesInMemory ∧
      (s'.threads 0).openFrames = trace.stack.length + 1 := by
  have hgate : (beginGateOn path ⟨trace, s.shared⟩ site).1 = true := by
    have hadd : (path.plan site).wouldAdd (Worker.mk trace s.shared).deepen.trace = 64 := by
      obtain ⟨hprobe, -⟩ | ⟨-, -, -, hbad, -⟩ := Dictionary.internRef_eq_some.mp hhit
      · show 64 + (if (trace.dictionary.probeRef (path.plan site).keyRef).isSome then 0 else _) = 64
        rw [hprobe]
        rfl
      · cases hbad
    rw [beginGateOn_eq, Worker.wouldAccept_fst_iff, hadd]
    exact ⟨(Nat.min_le_left _ _).trans hlevel, (Nat.min_le_left _ _).trans hroom⟩
  obtain ⟨move, hmove⟩ := PhpThread.exists_beginGate s.nextArc s.shared trace path site
  rcases PhpThread.beginGate_cases hmove with ⟨-, rfl⟩ | ⟨hrejects, -⟩
  · obtain ⟨s₁, hstep₁, hthread₁, hshared₁⟩ := exists_step_php env (hthread ▸ hmove) rfl
    have haccept : (s₁.threads 0).step s₁.nextArc s₁.shared (.beginAccept entry) =
        some ⟨.live ((Worker.mk trace s.shared).deepen.trace.pushFrame fnId entry
          trace.dictionary 0), s₁.shared.add 0, none⟩ := by
      rw [hthread₁]
      simp only [PhpThread.step, beginAcceptOn_eq, Recorder.acceptBegin_eq]
      rw [if_pos (show (Worker.mk trace s.shared).deepen.trace.callIdSeq + 1 < 2 ^ 64 from hid)]
      exact congrArg _ (congrArg _ hhit)
    obtain ⟨s₂, hstep₂, hthread₂, hshared₂⟩ := exists_step_php env haccept rfl
    refine ⟨s₂, run_cons_eq_some.mpr ⟨s₁, hstep₁, run_cons_eq_some.mpr ⟨s₂, hstep₂, rfl⟩⟩, ?_, ?_⟩
    · rw [hshared₂, hshared₁]
      rfl
    · rw [hthread₂]
      rfl
  · rw [hgate] at hrejects
    cases hrejects

def oneCallOpen : List (SystemEvent (Fin 1)) :=
  phpSteps [rinitOf ⟨1, 89, 9, 4096⟩, .beginGate .lazy (callSiteOf "f"), .beginAccept (entryAt 1)]

/-- `n` begins inside the call, their ends, and a begin beside them. -/
def saturatedSession (n : ℕ) : List (SystemEvent (Fin 1)) :=
  oneCallOpen ++ (phpSteps (List.replicate n (.beginGate .lazy (callSiteOf "f"))) ++
    (phpSteps (List.replicate n (.endCall (exitAt 2) false)) ++
      phpSteps [.beginGate .lazy (callSiteOf "f"), .beginAccept (entryAt 3)]))

/-- With depth limit one, two frames are open in the end. -/
theorem saturated_run {n : ℕ} (hn : n = u32Max) :
    ∃ s, run (step noticeEnvOf) (init (Fin 1)) (saturatedSession n) = some s ∧
      s.shared.bytesInMemory = 25 ∧ (s.threads 0).openFrames = 2 := by
  -- the outer call
  obtain ⟨s₁, trace₁, hrun₁, hthread₁, hbytes₁, hvirtual₁, hdropped₁, hmax₁, hcap₁, hid₁, hhit₁,
    hstack₁⟩ : ∃ s₁ trace₁, run (step noticeEnvOf) (init (Fin 1)) oneCallOpen = some s₁ ∧
        s₁.threads 0 = .live trace₁ ∧ s₁.shared.bytesInMemory = 25 ∧
        trace₁.virtualDepth = 1 ∧ trace₁.droppedBegins = 0 ∧ trace₁.maxDepth = 1 ∧
        trace₁.bufferCapBytes = 89 ∧ trace₁.callIdSeq = 1 ∧
        trace₁.dictionary.internRef (BeginPath.lazy.plan (callSiteOf "f")).keyRef
          (BeginPath.lazy.plan (callSiteOf "f")).build = some (1, .hit, trace₁.dictionary) ∧
        trace₁.stack.length = 1 :=
    ⟨_, _, rfl, rfl, rfl, rfl, rfl, rfl, rfl, rfl, rfl, rfl⟩
  have htop : 1 < u32Max := by decide
  -- the dropped begins inside it, and their ends
  obtain ⟨s₂, hrun₂, hthread₂, hbytes₂⟩ := dropped_begins_run noticeEnvOf .lazy
    (callSiteOf "f") n hthread₁ (by omega) (by omega) (by omega) (by omega)
  obtain ⟨s₃, hrun₃, hthread₃, hbytes₃⟩ := dropped_ends_run noticeEnvOf (exitAt 2) false
    n hthread₂ (by dsimp only; omega)
  -- the begin beside them
  obtain ⟨s₄, hrun₄, hbytes₄, hopen₄⟩ := accepted_begin_run noticeEnvOf (entryAt 3)
    hthread₃ (by dsimp only; omega) (by dsimp only; omega) (by dsimp only; omega) hhit₁
  refine ⟨s₄, ?_, by omega, hopen₄.trans (congrArg (· + 1) hstack₁)⟩
  rw [← List.map_replicate] at hrun₂ hrun₃
  exact run_append_eq_some.mpr ⟨s₁, hrun₁, run_append_eq_some.mpr ⟨s₂, hrun₂,
    run_append_eq_some.mpr ⟨s₃, hrun₃, hrun₄⟩⟩⟩

/-- The soft cap does not bound the budget in every run. -/
theorem not_every_budget_soft_capped :
    ¬ ∀ (env : NoticeEnv) (maxDepth bufferCapBytes : ℕ) (es : List (SystemEvent (Fin 1)))
        (s : System (Fin 1)), 1 ≤ maxDepth →
      (∀ e ∈ es, e.hasLimits maxDepth bufferCapBytes = true) →
      run (step env) (init (Fin 1)) es = some s →
      s.shared.bytesInMemory ≤ bufferCapBytes + 64 * (maxDepth - 1) ∧
        s.shared.bytesInMemory + 64 * (s.threads 0).openFrames ≤
          bufferCapBytes + 64 * (maxDepth - 1) := by
  intro h
  obtain ⟨n, hn⟩ : ∃ n, n = u32Max := ⟨_, rfl⟩
  obtain ⟨s, hrun, hbytes, hopen⟩ := saturated_run hn
  have hlimits : ∀ e ∈ saturatedSession n, e.hasLimits 1 89 = true := by
    intro e he
    simp only [saturatedSession, oneCallOpen, phpSteps, List.mem_append, List.map_cons,
      List.map_nil, List.mem_cons, List.not_mem_nil, or_false, List.map_replicate,
      List.mem_replicate] at he
    rcases he with (rfl | rfl | rfl) | ⟨-, rfl⟩ | ⟨-, rfl⟩ | rfl | rfl <;> rfl
  have hbound := (h noticeEnvOf 1 89 _ s (Nat.le_refl 1) hlimits hrun).2
  rw [hbytes, hopen] at hbound
  omega

end saturation

end System

end PhpAnalyze
