import PhpAnalyze.Shipper
import PhpAnalyze.Thread

/-! # The process: PHP threads, the shipper, `MSHUTDOWN`

`System.step` interleaves the small steps of the PHP threads (`ι` names them), of the shipper
and of `drain_and_join_at_mshutdown`.  The environment decides the rest, and the clock never
runs backwards.

* `try_send` may answer anything at any time, except that no batch is taken once the loop has
  dropped the receiver.  Until then one is taken, also after the last `try_recv`.
* `MSHUTDOWN` sends one `Drain`.  The loop tolerates more, so more may come (`strayDrain`).
* `nextArc` names the allocation of the next drop counter; every counter is a fresh one. -/

namespace PhpAnalyze

open Machine

/-- Where `drain_and_join_at_mshutdown` is. -/
inductive Mshutdown where
  | before
  | taken (deadline : Instant)
  | published (deadline : Instant)
  /-- `send_timeout` of the `Drain` has returned. -/
  | drainSent
  | joining
  | joined (exit : ShipperExit)
deriving DecidableEq, Repr

inductive MshutdownEvent where
  | takeSender (grace : ℕ)
  | publishDrainDeadline
  | sendDrain (delivered : Bool)
  | dropSender
  | join
deriving DecidableEq, Repr

inductive SystemEvent (ι : Type*) where
  | php (i : ι) (e : PhpEvent)
  | shipper (e : ShipperEvent)
  | mshutdown (e : MshutdownEvent)
  | tick (now : Instant)
  | strayDrain (deadline : Instant)
deriving DecidableEq

structure System (ι : Type*) extends Shipper where
  threads : ι → PhpThread
  nextArc : ArcId
  mshutdown : Mshutdown

namespace System

variable {ι : Type*}

def init (ι : Type*) : System ι where
  shared := Shared.init
  channel := []
  closed := false
  drainDeadline := none
  now := 0
  pc := .head
  batchesDrained := 0
  dropNotices := []
  settled := []
  abandoned := []
  threads := fun _ => .noTrace
  nextArc := 0
  mshutdown := .before

/-- The loop has not dropped the receiver. -/
def receiverAlive (s : System ι) : Bool :=
  match s.pc with
  | .returned _ => false
  | _ => true

/-- What is queued; without a receiver nothing is. -/
def queued (s : System ι) : List ShipperMessage := if s.receiverAlive then s.channel else []

/-- The batches that were in the channel when the receiver was dropped. -/
def lost (s : System ι) : List PendingBatch :=
  if s.receiverAlive then [] else s.channel.filterMap ShipperMessage.batch?

/-- The step drops the receiver of a channel that holds a batch. -/
def destroysBatch (s : System ι) : SystemEvent ι → Bool
  | .shipper .dropReceiver => s.channel.any fun message => message.batch?.isSome
  | _ => false

def putDrain (s : System ι) (deadline : Instant) : Option (System ι) :=
  if s.receiverAlive then some { s with channel := s.channel ++ [.drain deadline] } else none

/-- `drain_and_join_at_mshutdown`, with the `Sender` installed. -/
def mshutdownStep (s : System ι) (e : MshutdownEvent) : Option (System ι) :=
  match s.mshutdown, e with
  | .before, .takeSender grace => some { s with mshutdown := .taken (s.now + grace) }
  | .taken deadline, .publishDrainDeadline =>
      some { s with drainDeadline := some deadline, mshutdown := .published deadline }
  | .published deadline, .sendDrain delivered =>
      let s := { s with mshutdown := .drainSent }
      if delivered then s.putDrain deadline else some s
  | .drainSent, .dropSender => some { s with closed := true, mshutdown := .joining }
  | .joining, .join =>
      match s.pc with
      | .returned exit => some { s with mshutdown := .joined exit }
      | _ => none
  | _, _ => none

def allocates : PhpEvent → ℕ
  | .rinit _ _ _ => 1
  | _ => 0

variable [DecidableEq ι]

def moved (s : System ι) (i : ι) (e : PhpEvent) (move : PhpMove) : System ι :=
  { s with
    shared := move.shared
    channel := s.channel ++ move.queued.toList.map .batch
    threads := Function.update s.threads i move.thread
    nextArc := s.nextArc + allocates e }

@[simp] theorem threads_moved_self (s : System ι) (i : ι) (e : PhpEvent) (move : PhpMove) :
    (s.moved i e move).threads i = move.thread :=
  Function.update_self ..

theorem threads_moved_of_ne (s : System ι) {i j : ι} (h : j ≠ i) (e : PhpEvent) (move : PhpMove) :
    (s.moved i e move).threads j = s.threads j :=
  Function.update_of_ne h _ _

def step (env : NoticeEnv) (s : System ι) : SystemEvent ι → Option (System ι)
  | .php i e =>
      match (s.threads i).step s.nextArc s.shared e with
      | some move =>
          if move.queued.isSome && !s.receiverAlive then none else some (s.moved i e move)
      | none => none
  | .shipper e => (s.toShipper.step env e).map fun shipper => { s with toShipper := shipper }
  | .mshutdown e => s.mshutdownStep e
  | .tick now => if s.now ≤ now then some { s with now } else none
  | .strayDrain deadline => s.putDrain deadline

theorem move_of_php {env : NoticeEnv} {s s' : System ι} {i : ι} {e : PhpEvent}
    (h : s.step env (.php i e) = some s') :
    ∃ move, (s.threads i).step s.nextArc s.shared e = some move ∧ s' = s.moved i e move := by
  simp only [step] at h
  split at h
  · split at h
    · cases h
    · cases h
      exact ⟨_, ‹_›, rfl⟩
  · cases h

theorem exists_step_php (env : NoticeEnv) {s : System ι} {i : ι} {e : PhpEvent} {move : PhpMove}
    (h : (s.threads i).step s.nextArc s.shared e = some move) (hqueued : move.queued = none) :
    ∃ s', s.step env (.php i e) = some s' ∧ s'.threads i = move.thread ∧
      s'.shared = move.shared :=
  ⟨s.moved i e move, by simp [step, h, hqueued], threads_moved_self s i e move, rfl⟩

omit [DecidableEq ι] in
/-- A step that moves no batch and no byte: it may put a `Drain` in the open channel. -/
structure Environment (s s' : System ι) (drains : List Instant) : Prop where
  shared : s'.shared = s.shared
  pc : s'.pc = s.pc
  settled : s'.settled = s.settled
  abandoned : s'.abandoned = s.abandoned
  threads : s'.threads = s.threads
  nextArc : s'.nextArc = s.nextArc
  channel : s'.channel = s.channel ++ drains.map .drain
  alive : drains ≠ [] → s.receiverAlive = true

inductive Step (env : NoticeEnv) (s : System ι) : SystemEvent ι → System ι → Prop
  | php (i e move) (hmove : PhpThread.Step s.nextArc s.shared (s.threads i) e move)
      (halive : move.queued.isSome = true → s.receiverAlive = true) :
      Step env s (.php i e) (s.moved i e move)
  | shipper (e shipper) (hstep : Shipper.Step env s.toShipper e shipper) :
      Step env s (.shipper e) { s with toShipper := shipper }
  | environment (e s' drains) (hphp : ∀ i e', e ≠ .php i e') (hshipper : ∀ e', e ≠ .shipper e')
      (hframe : Environment s s' drains) : Step env s e s'

omit [DecidableEq ι] in
theorem environment_putDrain {s s' : System ι} {deadline : Instant}
    (h : s.putDrain deadline = some s') : Environment s s' [deadline] := by
  unfold putDrain at h
  split at h
  · cases h
    exact ⟨rfl, rfl, rfl, rfl, rfl, rfl, rfl, fun _ => ‹_›⟩
  · cases h

omit [DecidableEq ι] in
theorem environment_mshutdown {s s' : System ι} {e : MshutdownEvent}
    (h : s.mshutdownStep e = some s') : ∃ drains, Environment s s' drains := by
  have hquiet : ∀ {s' : System ι}, s'.shared = s.shared → s'.pc = s.pc → s'.settled = s.settled →
      s'.abandoned = s.abandoned → s'.threads = s.threads → s'.nextArc = s.nextArc →
      s'.channel = s.channel → ∃ drains, Environment s s' drains :=
    fun h₁ h₂ h₃ h₄ h₅ h₆ h₇ =>
      ⟨[], h₁, h₂, h₃, h₄, h₅, h₆, h₇.trans (List.append_nil _).symm, fun h => absurd rfl h⟩
  unfold mshutdownStep at h
  split at h
  · cases h
    exact hquiet rfl rfl rfl rfl rfl rfl rfl
  · cases h
    exact hquiet rfl rfl rfl rfl rfl rfl rfl
  · dsimp only at h
    split at h
    · obtain ⟨h₁, h₂, h₃, h₄, h₅, h₆, h₇, h₈⟩ := environment_putDrain h
      exact ⟨_, h₁, h₂, h₃, h₄, h₅, h₆, h₇, h₈⟩
    · cases h
      exact hquiet rfl rfl rfl rfl rfl rfl rfl
  · cases h
    exact hquiet rfl rfl rfl rfl rfl rfl rfl
  · split at h
    · cases h
      exact hquiet rfl rfl rfl rfl rfl rfl rfl
    · cases h
  · cases h

/-- **The three kinds of steps.** -/
theorem step_cases {env : NoticeEnv} {s s' : System ι} {e : SystemEvent ι}
    (h : s.step env e = some s') : Step env s e s' := by
  cases e with
  | php i e =>
      simp only [step] at h
      split at h
      · split at h
        · cases h
        · cases h
          refine .php i e _ (PhpThread.step_cases ‹_›) fun hqueued => ?_
          cases halive : s.receiverAlive with
          | true => rfl
          | false => simp_all
      · cases h
  | shipper e =>
      obtain ⟨shipper, hstep, rfl⟩ := Option.map_eq_some_iff.mp h
      exact .shipper e shipper (Shipper.step_cases hstep)
  | mshutdown e =>
      obtain ⟨drains, hframe⟩ := environment_mshutdown h
      exact .environment _ s' drains (by simp) (by simp) hframe
  | tick now =>
      simp only [step] at h
      split at h
      · cases h
        exact .environment _ _ [] (by simp) (by simp)
          ⟨rfl, rfl, rfl, rfl, rfl, rfl, (List.append_nil _).symm, fun h => absurd rfl h⟩
      · cases h
  | strayDrain deadline =>
      exact .environment _ s' [deadline] (by simp) (by simp) (environment_putDrain h)

/-! ### What goes down with the receiver -/

section lost

variable {env : NoticeEnv} {s s' : System ι} {e : SystemEvent ι}

omit [DecidableEq ι] in
/-- The channel is what is queued or what is lost. -/
theorem queueWeight_channel (f : PendingBatch → ℕ) (s : System ι) :
    queueWeight f s.channel = queueWeight f s.queued + (s.lost.map f).sum := by
  unfold queued lost
  split
  · simp
  · rw [queueWeight_nil, Shipper.sum_map_filterMap_batch, Nat.zero_add]

omit [DecidableEq ι] in
/-- Of the shipper's steps only the drop of the receiver can lose a batch. -/
theorem lost_shipper {shipper : Shipper} {e : ShipperEvent}
    (h : Shipper.Step env s.toShipper e shipper) :
    { s with toShipper := shipper }.lost = [] ↔
      s.lost = [] ∧ s.destroysBatch (.shipper e) = false := by
  cases h with
  | loop hpc | recvBatch _ _ _ hpc | recvDrain _ _ _ hpc | timeout _ hpc | encode _ _ hpc
  | abandonBatch _ _ _ hpc | skipDrain _ _ _ hpc | giveUp _ hpc =>
      simp [lost, receiverAlive, destroysBatch, hpc]
  | recvClosed deadline hpc hchannel =>
      simp [lost, receiverAlive, destroysBatch, hpc, hchannel]
  | handled batch deadline droppedRecords outcome hpc =>
      cases deadline <;> simp [lost, receiverAlive, destroysBatch, hpc, Shipper.afterBatch]
  | dropReceiver exit hpc => simp [lost, receiverAlive, destroysBatch, hpc]

omit [DecidableEq ι] in
theorem lost_congr (hpc : s'.pc = s.pc)
    (hchannel : s'.channel.filterMap ShipperMessage.batch? =
      s.channel.filterMap ShipperMessage.batch?) : s'.lost = s.lost := by
  rw [lost, lost, receiverAlive, receiverAlive, hpc, hchannel]

omit [DecidableEq ι] in
theorem lost_of_receiverAlive (h : s.receiverAlive = true) : s.lost = [] := if_pos h

/-- No thread puts a batch in a channel without a receiver. -/
theorem lost_moved {i : ι} {e : PhpEvent} {move : PhpMove}
    (halive : move.queued.isSome = true → s.receiverAlive = true) :
    (s.moved i e move).lost = s.lost := by
  cases hqueued : move.queued with
  | none => exact lost_congr rfl (by simp [moved, hqueued])
  | some batch =>
      have hreceiver : s.receiverAlive = true := halive (by rw [hqueued]; rfl)
      have hmoved : (s.moved i e move).receiverAlive = true := hreceiver
      rw [lost_of_receiverAlive hreceiver, lost_of_receiverAlive hmoved]

omit [DecidableEq ι] in
theorem lost_environment {drains : List Instant} (h : Environment s s' drains) :
    s'.lost = s.lost := by
  refine lost_congr h.pc ?_
  rw [h.channel, List.filterMap_append, List.append_right_eq_self, List.filterMap_eq_nil_iff]
  simp [ShipperMessage.batch?]

/-- **Step lemma**: a batch is lost with the receiver or not at all. -/
theorem lost_step (h : Step env s e s') :
    s'.lost = [] ↔ s.lost = [] ∧ s.destroysBatch e = false := by
  cases h with
  | php i e move hmove halive =>
      rw [lost_moved halive]
      simp [destroysBatch]
  | shipper e shipper hshipper => exact lost_shipper hshipper
  | environment e s' drains hphp hshipper hframe =>
      have hkeep : s.destroysBatch e = false := by
        cases e with
        | shipper e => exact absurd rfl (hshipper e)
        | _ => rfl
      simp [lost_environment hframe, hkeep]

/-- **Run lemma**: nothing is lost exactly if the receiver is not dropped with a batch in its
channel. -/
theorem lost_eq_nil_iff {es : List (SystemEvent ι)} (h : run (step env) (init ι) es = some s) :
    s.lost = [] ↔ Along (step env) (fun s e => s.destroysBatch e = false) (init ι) es := by
  have hiff := run_iff_along (fun _ _ _ hstep => lost_step (step_cases hstep)) h
  rwa [and_iff_right (show (init ι).lost = [] from rfl)] at hiff

end lost

end System

/-! ### Values for concrete runs -/

def rinitOf (limits : TraceLimits) : PhpEvent :=
  .rinit (rinitWith limits).identity limits (rinitWith limits).startTimeRealtimeNs

/-- An accepted begin of the named function and its end. -/
def callOf (name : String) : List PhpEvent :=
  [.beginGate .lazy (callSiteOf name), .beginAccept (entryAt 1), .endCall (exitAt 2) false]

def System.phpSteps (es : List PhpEvent) : List (SystemEvent (Fin 1)) := es.map (.php 0)

end PhpAnalyze
