import Mathlib.Logic.Relation
import PhpAnalyze.Lib.Machine

/-! # The start of the shipper thread (`shipper/mod.rs`)

Any number of `install_channel_at_minit` and of `spawn_with_on_batch_factory_inner` calls run
at once.  A step is one atomic operation, one access to a slot under its lock, the OS spawn or
the warning; a call begins with its first step.  `install_channel_at_minit` holds the lock of
`SENDER_SLOT` until it returns, so the other accesses to that slot wait for it.

`Phase` is what the calls amount to together: one channel is installed, its receiver is taken
once, and the thread is started or the failure is reported.  The phases never go back, and
every interleaving goes through them (`Abstracts`). -/

namespace PhpAnalyze

open Machine

/-- Where a call of `install_channel_at_minit` is: it holds the lock at `sender`, when the sender is
in its slot and the receiver is not yet, and at `receiver`, when both are. -/
inductive InstallPc where
  | idle
  | sender
  | receiver
  | returned
deriving DecidableEq, Repr

/-- Where a call of `spawn_with_on_batch_factory_inner` is: after the load of
`SHIPPER_SPAWN_FAILED`, after the compare-exchange of `SHIPPER_SPAWNED`, with or without the
receiver, and after the OS was asked for the thread.  After a failure `SHIPPER_SPAWNED` is reverted,
`SHIPPER_SPAWN_FAILED` is set, and the sender is taken out of its slot. -/
inductive SpawnPc where
  | idle
  | loaded
  | claimed
  | noReceiver
  | taken
  | started
  | failed
  | reverted
  | flagged
  | cleared
  | returned
deriving DecidableEq, Repr

/-- Whether `SENDER_SLOT`, `RECEIVER_SLOT` and `SHIPPER_HANDLE` are some, the failure flag, and what
there is to remember of a run: whether a failure has cleared the sender, who has taken the receiver,
who has asked the OS, and how many threads it has started. -/
structure Slots (κ : Type) where
  sender : Bool
  receiver : Bool
  handle : Bool
  spawnFailed : Bool
  cleared : Bool
  warnings : ℕ
  takers : List κ
  attempts : List κ
  threads : ℕ
deriving DecidableEq

structure Lifecycle (ι κ : Type) extends Slots κ where
  /-- Who holds the lock of `SENDER_SLOT` from one step to the next. -/
  senderLock : Option ι
  spawned : Bool
  /-- The call whose compare-exchange has set `SHIPPER_SPAWNED`. -/
  claimant : Option κ
  install : ι → InstallPc
  spawn : κ → SpawnPc

/-- The next step of a call; `ok` is the answer of the OS, if the step is the spawn. -/
inductive LifecycleEvent (ι κ : Type) where
  | install (i : ι)
  | spawn (k : κ) (ok : Bool)
deriving DecidableEq

namespace Lifecycle

variable {ι κ : Type}

def init (ι κ : Type) : Lifecycle ι κ where
  sender := false
  receiver := false
  handle := false
  spawnFailed := false
  cleared := false
  warnings := 0
  takers := []
  attempts := []
  threads := 0
  senderLock := none
  spawned := false
  claimant := none
  install := fun _ => .idle
  spawn := fun _ => .idle

section install

variable [DecidableEq ι]

def installAt (s : Lifecycle ι κ) (i : ι) (pc : InstallPc) : Lifecycle ι κ :=
  { s with install := Function.update s.install i pc }

@[simp] theorem installAt_install (s : Lifecycle ι κ) (i j : ι) (pc : InstallPc) :
    (s.installAt i pc).install j = if j = i then pc else s.install j := Function.update_apply ..

/-- `install_channel_at_minit`. -/
def installStep (s : Lifecycle ι κ) (i : ι) : Option (Lifecycle ι κ) :=
  match s.install i with
  | .idle =>
      if s.senderLock.isSome then none
      else if s.sender then some (s.installAt i .returned)
      else some { s.installAt i .sender with sender := true, senderLock := some i }
  | .sender => some { s.installAt i .receiver with receiver := true }
  | .receiver => some { s.installAt i .returned with senderLock := none }
  | .returned => none

end install

section spawn

variable [DecidableEq κ]

def spawnAt (s : Lifecycle ι κ) (k : κ) (pc : SpawnPc) : Lifecycle ι κ :=
  { s with spawn := Function.update s.spawn k pc }

@[simp] theorem spawnAt_spawn (s : Lifecycle ι κ) (k j : κ) (pc : SpawnPc) :
    (s.spawnAt k pc).spawn j = if j = k then pc else s.spawn j := Function.update_apply ..

@[simp] theorem spawnAt_toSlots (s : Lifecycle ι κ) (k : κ) (pc : SpawnPc) :
    (s.spawnAt k pc).toSlots = s.toSlots := rfl

@[simp] theorem spawnAt_claimant (s : Lifecycle ι κ) (k : κ) (pc : SpawnPc) :
    (s.spawnAt k pc).claimant = s.claimant := rfl

/-- `spawn_with_on_batch_factory_inner`. -/
def spawnStep (s : Lifecycle ι κ) (k : κ) (ok : Bool) : Option (Lifecycle ι κ) :=
  match s.spawn k with
  | .idle => some (s.spawnAt k (if s.spawnFailed then .returned else .loaded))
  | .loaded =>
      if s.spawned then some (s.spawnAt k .returned)
      else some { s.spawnAt k .claimed with spawned := true, claimant := some k }
  | .claimed =>
      if s.receiver then
        some { s.spawnAt k .taken with receiver := false, takers := s.takers ++ [k] }
      else some (s.spawnAt k .noReceiver)
  | .noReceiver => some { s.spawnAt k .returned with spawned := false, claimant := none }
  | .taken =>
      if ok then
        some { s.spawnAt k .started with
          attempts := s.attempts ++ [k]
          threads := s.threads + 1 }
      else some { s.spawnAt k .failed with attempts := s.attempts ++ [k] }
  | .started => some { s.spawnAt k .returned with handle := true }
  | .failed => some { s.spawnAt k .reverted with spawned := false, claimant := none }
  | .reverted => some { s.spawnAt k .flagged with spawnFailed := true }
  | .flagged =>
      if s.senderLock.isSome then none
      else some { s.spawnAt k .cleared with sender := false, cleared := true }
  | .cleared => some { s.spawnAt k .returned with warnings := s.warnings + 1 }
  | .returned => none

end spawn

variable [DecidableEq ι] [DecidableEq κ]

def step (s : Lifecycle ι κ) : LifecycleEvent ι κ → Option (Lifecycle ι κ)
  | .install i => s.installStep i
  | .spawn k ok => s.spawnStep k ok

/-- No install begins after a spawn failure has cleared the sender slot. -/
def permits (s : Lifecycle ι κ) : LifecycleEvent ι κ → Bool
  | .install i => s.install i ≠ .idle || !s.cleared
  | .spawn _ _ => true

end Lifecycle

/-! ### The phases -/

/-- How far the start of the shipper has come, and by whom. -/
inductive Phase (κ : Type) where
  | vacant
  | installing
  | installed
  | taken (k : κ)
  | started (k : κ)
  | running (k : κ)
  | failed (k : κ)
  | reverted (k : κ)
  | flagged (k : κ)
  | cleared (k : κ)
  | dead (k : κ)
deriving DecidableEq

namespace Phase

variable {κ : Type}

inductive Next : Phase κ → Phase κ → Prop
  | send : Next .vacant .installing
  | install : Next .installing .installed
  | take (k) : Next .installed (.taken k)
  | start (k) : Next (.taken k) (.started k)
  | stash (k) : Next (.started k) (.running k)
  | fail (k) : Next (.taken k) (.failed k)
  | revert (k) : Next (.failed k) (.reverted k)
  | flag (k) : Next (.reverted k) (.flagged k)
  | clear (k) : Next (.flagged k) (.cleared k)
  | warn (k) : Next (.cleared k) (.dead k)

/-- Where the call is that has taken the receiver. -/
def taker : Phase κ → Option (κ × SpawnPc)
  | taken k => some (k, .taken)
  | started k => some (k, .started)
  | running k => some (k, .returned)
  | failed k => some (k, .failed)
  | reverted k => some (k, .reverted)
  | flagged k => some (k, .flagged)
  | cleared k => some (k, .cleared)
  | dead k => some (k, .returned)
  | _ => none

/-- The phase while the call `k` is at this place with the receiver. -/
def ofTaker (k : κ) : SpawnPc → Option (Phase κ)
  | .taken => some (taken k)
  | .started => some (started k)
  | .failed => some (failed k)
  | .reverted => some (reverted k)
  | .flagged => some (flagged k)
  | .cleared => some (cleared k)
  | _ => none

/-- The slots and the counts in this phase. -/
def slots : Phase κ → Slots κ
  | vacant => ⟨false, false, false, false, false, 0, [], [], 0⟩
  | installing => ⟨true, false, false, false, false, 0, [], [], 0⟩
  | installed => ⟨true, true, false, false, false, 0, [], [], 0⟩
  | taken k => ⟨true, false, false, false, false, 0, [k], [], 0⟩
  | started k => ⟨true, false, false, false, false, 0, [k], [k], 1⟩
  | running k => ⟨true, false, true, false, false, 0, [k], [k], 1⟩
  | failed k => ⟨true, false, false, false, false, 0, [k], [k], 0⟩
  | reverted k => ⟨true, false, false, false, false, 0, [k], [k], 0⟩
  | flagged k => ⟨true, false, false, true, false, 0, [k], [k], 0⟩
  | cleared k => ⟨false, false, false, true, true, 0, [k], [k], 0⟩
  | dead k => ⟨false, false, false, true, true, 1, [k], [k], 0⟩

def Ready (p : Phase κ) : Prop := p ≠ .vacant ∧ p ≠ .installing

end Phase

/-- The call holds the lock of `SENDER_SLOT`. -/
def InstallPc.holds : InstallPc → Bool
  | .sender => true
  | .receiver => true
  | _ => false

def SpawnPc.claims : SpawnPc → Bool
  | .claimed => true
  | .noReceiver => true
  | .taken => true
  | .started => true
  | .failed => true
  | _ => false

def SpawnPc.isTaker : SpawnPc → Bool
  | .taken => true
  | .started => true
  | .failed => true
  | .reverted => true
  | .flagged => true
  | .cleared => true
  | _ => false

/-- The installs, with the lock that one of them may hold. -/
structure InstallsAt {ι κ : Type} (lock : Option ι) (install : ι → InstallPc) (p : Phase κ) :
    Prop where
  lock_iff : ∀ i, lock = some i ↔ (install i).holds = true
  sender : ∀ i, install i = .sender → p = .installing
  installing : p = .installing → ∃ i, install i = .sender
  ready : ∀ i, install i = .receiver ∨ install i = .returned → p.Ready

/-- The spawns, with the flag that one of them may have set. -/
structure SpawnsAt {κ : Type} (spawned : Bool) (claimant : Option κ) (spawn : κ → SpawnPc)
    (p : Phase κ) : Prop where
  isTaker : ∀ k, (spawn k).isTaker = true → p.taker = some (k, spawn k)
  taker : ∀ k pc, p.taker = some (k, pc) → spawn k = pc
  spawned : spawned = claimant.isSome
  claims : ∀ k, (spawn k).claims = true → claimant = some k
  claimed : ∀ k, claimant = some k → (spawn k).claims = true ∨ p = .running k
  running : ∀ k, p = .running k → claimant = some k

/-- The state is in this phase. -/
structure Abstracts {ι κ : Type} (s : Lifecycle ι κ) (p : Phase κ) : Prop where
  slots : s.toSlots = p.slots
  installs : InstallsAt s.senderLock s.install p
  spawns : SpawnsAt s.spawned s.claimant s.spawn p

/-! ### One step -/

section step

variable {ι κ : Type} {s s' : Lifecycle ι κ} {p p' : Phase κ}

theorem isTaker_or_returned {k : κ} {pc : SpawnPc} (h : p.taker = some (k, pc)) :
    pc.isTaker = true ∨ pc = .returned := by
  cases p <;> cases h <;> simp [SpawnPc.isTaker]

theorem ready_of_taker {k : κ} {pc : SpawnPc} (h : p.taker = some (k, pc)) : p.Ready := by
  cases p <;> cases h <;> exact ⟨nofun, nofun⟩

theorem eq_of_isTaker {k : κ} {pc : SpawnPc} (h : p.taker = some (k, pc))
    (hpc : pc ≠ .returned) : Phase.ofTaker k pc = some p := by
  cases p <;> cases h <;> first | rfl | exact absurd rfl hpc

theorem eq_of_taker {k : κ} {pc : SpawnPc} (h : p.taker = some (k, pc)) (j : κ) (pc' : SpawnPc)
    (hj : p.taker = some (j, pc')) : j = k := by
  rw [h] at hj
  cases hj
  rfl

/-- The installs do not see the phases after the installation. -/
theorem InstallsAt.of_ready {lock : Option ι} {install : ι → InstallPc}
    (h : InstallsAt lock install p) (hp : p.Ready) (hp' : p'.Ready) :
    InstallsAt lock install p' where
  lock_iff := h.lock_iff
  sender i hi := absurd (h.sender i hi) hp.2
  installing hi := absurd hi hp'.2
  ready _ _ := hp'

/-- The spawns do not see the phases before the receiver is taken. -/
theorem SpawnsAt.of_taker_none {spawned : Bool} {claimant : Option κ} {spawn : κ → SpawnPc}
    (h : SpawnsAt spawned claimant spawn p) (hp : p.taker = none) (hp' : p'.taker = none) :
    SpawnsAt spawned claimant spawn p' where
  isTaker k hk := by rw [h.isTaker k hk] at hp; cases hp
  taker k pc hk := by rw [hk] at hp'; cases hp'
  spawned := h.spawned
  claims := h.claims
  claimed k hk := (h.claimed k hk).elim .inl fun hrunning => by rw [hrunning] at hp; cases hp
  running k hk := by rw [hk] at hp'; cases hp'

theorem SpawnsAt.claimant_eq {k : κ} {pc : SpawnPc}
    (h : SpawnsAt s.spawned s.claimant s.spawn p) (hpc : s.spawn k = pc)
    (hclaims : pc.claims = true) : s.claimant = some k :=
  h.claims k (by rw [hpc]; exact hclaims)

theorem SpawnsAt.running_of_claimant {k : κ} {pc : SpawnPc}
    (h : SpawnsAt s.spawned s.claimant s.spawn p) (hpc : s.spawn k = pc)
    (hclaims : pc.claims = false) (hclaimant : s.claimant = some k) : p = .running k := by
  refine (h.claimed k hclaimant).resolve_left fun hk => ?_
  rw [hpc, hclaims] at hk
  cases hk

theorem SpawnsAt.ofTaker_eq {k : κ} {pc : SpawnPc}
    (h : SpawnsAt s.spawned s.claimant s.spawn p) (hpc : s.spawn k = pc)
    (htaker : pc.isTaker = true) (hreturned : pc ≠ .returned) : Phase.ofTaker k pc = some p := by
  have hk := h.isTaker k (by rw [hpc]; exact htaker)
  rw [hpc] at hk
  exact eq_of_isTaker hk hreturned

theorem InstallsAt.ne_installing (h : InstallsAt s.senderLock s.install p)
    (hlock : s.senderLock = none) : p ≠ .installing := by
  intro hp
  obtain ⟨i, hi⟩ := h.installing hp
  have hholds := (h.lock_iff i).mpr (by rw [hi]; rfl)
  rw [hlock] at hholds
  cases hholds

theorem abstracts_init : Abstracts (Lifecycle.init ι κ) .vacant where
  slots := rfl
  installs := ⟨fun _ => ⟨nofun, nofun⟩, nofun, nofun, fun _ h => h.elim nofun nofun⟩
  spawns := ⟨nofun, nofun, rfl, nofun, nofun, nofun⟩

section install

variable [DecidableEq ι]

/-- What one step of an install can do. -/
inductive InstallStep (s : Lifecycle ι κ) (i : ι) : Lifecycle ι κ → Prop
  | already (hpc : s.install i = .idle) (hlock : s.senderLock = none) (hsender : s.sender = true) :
      InstallStep s i (s.installAt i .returned)
  | send (hpc : s.install i = .idle) (hlock : s.senderLock = none) (hsender : s.sender = false) :
      InstallStep s i { s.installAt i .sender with sender := true, senderLock := some i }
  | receive (hpc : s.install i = .sender) :
      InstallStep s i { s.installAt i .receiver with receiver := true }
  | unlock (hpc : s.install i = .receiver) :
      InstallStep s i { s.installAt i .returned with senderLock := none }

theorem installStep_cases {i : ι} (h : s.installStep i = some s') : InstallStep s i s' := by
  unfold Lifecycle.installStep at h
  split at h
  case h_1 hpc =>
    split_ifs at h with hlock hsender <;> cases h
    · exact .already hpc (by simpa using hlock) hsender
    · exact .send hpc (by simpa using hlock) (by simpa using hsender)
  case h_2 hpc => cases h; exact .receive hpc
  case h_3 hpc => cases h; exact .unlock hpc
  case h_4 hpc => cases h

theorem abstracts_install {i : ι} (hs : Abstracts s p) (hpermits : s.permits (.install i) = true)
    (h : s.installStep i = some s') : ∃ p', (p' = p ∨ p.Next p') ∧ Abstracts s' p' := by
  obtain ⟨hslots, hinstalls, hspawns⟩ := hs
  obtain ⟨hlockiff, hsent, hinstalling, hready⟩ := hinstalls
  have hsenderSlot : s.sender = p.slots.sender := congrArg Slots.sender hslots
  have hclearedSlot : s.cleared = p.slots.cleared := congrArg Slots.cleared hslots
  cases installStep_cases h with
  | already hpc hlock hsender =>
      have hp : p.Ready := by
        refine ⟨fun hp => ?_, InstallsAt.ne_installing ⟨hlockiff, hsent, hinstalling, hready⟩ hlock⟩
        rw [hsender, hp] at hsenderSlot
        cases hsenderSlot
      refine ⟨p, .inl rfl, hslots, ⟨?_, ?_, fun hp' => absurd hp' hp.2, fun _ _ => hp⟩, hspawns⟩ <;>
        simp only [Lifecycle.installAt, Function.update_apply] <;>
        grind [InstallPc.holds]
  | send hpc hlock hsender =>
      have hp : p = .vacant := by
        cases p <;> simp_all [Lifecycle.permits, Phase.slots]
      subst hp
      refine ⟨.installing, .inr .send, ?_, ⟨?_, fun _ _ => rfl, fun _ => ⟨i, ?_⟩, ?_⟩,
        hspawns.of_taker_none rfl rfl⟩ <;>
        simp only [Lifecycle.installAt, Function.update_apply]
      · exact congrArg (fun slots : Slots κ => { slots with sender := true }) hslots
      · grind [InstallPc.holds]
      · rfl
      · grind [Phase.Ready]
  | receive hpc =>
      have hp := hsent i hpc
      subst hp
      refine ⟨.installed, .inr .install, ?_, ⟨?_, ?_, (nomatch ·), fun _ _ => ⟨nofun, nofun⟩⟩,
        hspawns.of_taker_none rfl rfl⟩ <;>
        simp only [Lifecycle.installAt, Function.update_apply]
      · exact congrArg (fun slots : Slots κ => { slots with receiver := true }) hslots
      · grind [InstallPc.holds]
      · grind [InstallPc.holds]
  | unlock hpc =>
      have hp := hready i (.inl hpc)
      refine ⟨p, .inl rfl, hslots, ⟨?_, ?_, fun hp' => absurd hp' hp.2, fun _ _ => hp⟩, hspawns⟩ <;>
        simp only [Lifecycle.installAt, Function.update_apply] <;>
        grind [InstallPc.holds]

end install

section spawn

variable [DecidableEq κ]

/-- What one step of a spawn can do. -/
inductive SpawnStep (s : Lifecycle ι κ) (k : κ) : Lifecycle ι κ → Prop
  | giveUp (hpc : s.spawn k = .idle) (hfailed : s.spawnFailed = true) :
      SpawnStep s k (s.spawnAt k .returned)
  | load (hpc : s.spawn k = .idle) (hfailed : s.spawnFailed = false) :
      SpawnStep s k (s.spawnAt k .loaded)
  | lose (hpc : s.spawn k = .loaded) (hspawned : s.spawned = true) :
      SpawnStep s k (s.spawnAt k .returned)
  | claim (hpc : s.spawn k = .loaded) (hspawned : s.spawned = false) :
      SpawnStep s k { s.spawnAt k .claimed with spawned := true, claimant := some k }
  | take (hpc : s.spawn k = .claimed) (hreceiver : s.receiver = true) :
      SpawnStep s k { s.spawnAt k .taken with receiver := false, takers := s.takers ++ [k] }
  | findNone (hpc : s.spawn k = .claimed) (hreceiver : s.receiver = false) :
      SpawnStep s k (s.spawnAt k .noReceiver)
  | unclaim (hpc : s.spawn k = .noReceiver) :
      SpawnStep s k { s.spawnAt k .returned with spawned := false, claimant := none }
  | start (hpc : s.spawn k = .taken) :
      SpawnStep s k { s.spawnAt k .started with
        attempts := s.attempts ++ [k]
        threads := s.threads + 1 }
  | fail (hpc : s.spawn k = .taken) :
      SpawnStep s k { s.spawnAt k .failed with attempts := s.attempts ++ [k] }
  | stash (hpc : s.spawn k = .started) :
      SpawnStep s k { s.spawnAt k .returned with handle := true }
  | revert (hpc : s.spawn k = .failed) :
      SpawnStep s k { s.spawnAt k .reverted with spawned := false, claimant := none }
  | flag (hpc : s.spawn k = .reverted) :
      SpawnStep s k { s.spawnAt k .flagged with spawnFailed := true }
  | clear (hpc : s.spawn k = .flagged) (hlock : s.senderLock = none) :
      SpawnStep s k { s.spawnAt k .cleared with sender := false, cleared := true }
  | warn (hpc : s.spawn k = .cleared) :
      SpawnStep s k { s.spawnAt k .returned with warnings := s.warnings + 1 }

theorem spawnStep_cases {k : κ} {ok : Bool} (h : s.spawnStep k ok = some s') :
    SpawnStep s k s' := by
  unfold Lifecycle.spawnStep at h
  split at h
  case h_1 hpc =>
    cases h
    split_ifs with hfailed
    · exact .giveUp hpc hfailed
    · exact .load hpc (by simpa using hfailed)
  case h_2 hpc =>
    split_ifs at h with hspawned <;> cases h
    · exact .lose hpc hspawned
    · exact .claim hpc (by simpa using hspawned)
  case h_3 hpc =>
    split_ifs at h with hreceiver <;> cases h
    · exact .take hpc hreceiver
    · exact .findNone hpc (by simpa using hreceiver)
  case h_4 hpc => cases h; exact .unclaim hpc
  case h_5 hpc =>
    split_ifs at h <;> cases h
    · exact .start hpc
    · exact .fail hpc
  case h_6 hpc => cases h; exact .stash hpc
  case h_7 hpc => cases h; exact .revert hpc
  case h_8 hpc => cases h; exact .flag hpc
  case h_9 hpc =>
    split_ifs at h with hlock
    cases h
    exact .clear hpc (by simpa using hlock)
  case h_10 hpc => cases h; exact .warn hpc
  case h_11 hpc => cases h

/-- A call that is not the taker moves without the receiver. -/
theorem SpawnsAt.update {k : κ} {pc : SpawnPc} {spawned : Bool} {claimant : Option κ}
    (h : SpawnsAt s.spawned s.claimant s.spawn p) (hspawned : spawned = claimant.isSome)
    (hnot : (s.spawn k).isTaker = false) (hreturned : s.spawn k ≠ .returned)
    (hpc : pc.isTaker = false)
    (hclaims : claimant = some k ↔ pc.claims = true)
    (hothers : ∀ j, j ≠ k → (claimant = some j ↔ s.claimant = some j)) :
    SpawnsAt spawned claimant (s.spawnAt k pc).spawn p := by
  obtain ⟨hisTaker, htaker, -, hclaims', hclaimed, hrunning⟩ := h
  constructor
  · grind [Lifecycle.spawnAt_spawn]
  · intro j pc' hj
    have hplace := isTaker_or_returned hj
    grind [Lifecycle.spawnAt_spawn]
  · exact hspawned
  · grind [Lifecycle.spawnAt_spawn]
  · grind [Lifecycle.spawnAt_spawn]
  · grind [Phase.taker]

theorem SpawnsAt.update_taker {k : κ} {pc : SpawnPc} {spawned : Bool} {claimant : Option κ}
    (h : SpawnsAt s.spawned s.claimant s.spawn p) (hspawned : spawned = claimant.isSome)
    (hp : ∀ j pc, p.taker = some (j, pc) → j = k) (hp' : p'.taker = some (k, pc))
    (hclaims : pc.claims = true → claimant = some k)
    (hclaimed : claimant = some k → pc.claims = true ∨ p' = .running k)
    (hrunning : p' = .running k → claimant = some k)
    (hothers : ∀ j, j ≠ k → (claimant = some j ↔ s.claimant = some j))
    (hnot : ∀ j, p ≠ .running j) :
    SpawnsAt spawned claimant (s.spawnAt k pc).spawn p' := by
  obtain ⟨hisTaker, htaker, -, hclaims', hclaimed', -⟩ := h
  constructor
  · grind [Lifecycle.spawnAt_spawn]
  · grind [Lifecycle.spawnAt_spawn]
  · exact hspawned
  · grind [Lifecycle.spawnAt_spawn]
  · grind [Lifecycle.spawnAt_spawn]
  · intro j hj
    have hjk : j = k := by
      rw [hj] at hp'
      cases hp'
      rfl
    subst hjk
    exact hrunning hj

theorem SpawnsAt.keep_claim {k : κ} {pc pc' : SpawnPc}
    (h : SpawnsAt s.spawned s.claimant s.spawn p) (hpc : s.spawn k = pc)
    (hclaims : pc.claims = true) (hclaims' : pc'.claims = true)
    (hp : ∀ j pc, p.taker = some (j, pc) → j = k) (hp' : p'.taker = some (k, pc'))
    (hnot : ∀ j, p ≠ .running j) (hnot' : p' ≠ .running k) :
    SpawnsAt s.spawned s.claimant (s.spawnAt k pc').spawn p' :=
  h.update_taker h.spawned hp hp' (fun _ => h.claimant_eq hpc hclaims) (fun _ => .inl hclaims')
    (fun hrunning => absurd hrunning hnot') (fun _ _ => Iff.rfl) hnot

theorem SpawnsAt.keep_free {k : κ} {pc pc' : SpawnPc}
    (h : SpawnsAt s.spawned s.claimant s.spawn p) (hpc : s.spawn k = pc)
    (hclaims : pc.claims = false) (hclaims' : pc'.claims = false)
    (hp : ∀ j pc, p.taker = some (j, pc) → j = k) (hp' : p'.taker = some (k, pc'))
    (hnot : ∀ j, p ≠ .running j) (hnot' : p' ≠ .running k) :
    SpawnsAt s.spawned s.claimant (s.spawnAt k pc').spawn p' := by
  have hfree : pc'.claims ≠ true := by
    rw [hclaims']
    exact Bool.false_ne_true
  exact h.update_taker h.spawned hp hp' (fun hk => absurd hk hfree)
    (fun hk => absurd (h.running_of_claimant hpc hclaims hk) (hnot k))
    (fun hrunning => absurd hrunning hnot') (fun _ _ => Iff.rfl) hnot

/-- A step of the taker, from one phase to the next. -/
theorem Abstracts.of_taker {k : κ} {pc : SpawnPc} {slots : Slots κ} {spawned : Bool}
    {claimant : Option κ} (h : Abstracts s p) (hnext : p.Next p') (hready : p.Ready)
    (hp' : p'.taker = some (k, pc)) (hslots : slots = p'.slots)
    (hspawns : SpawnsAt spawned claimant (s.spawnAt k pc).spawn p') :
    ∃ p', (p' = p ∨ p.Next p') ∧
      Abstracts { s.spawnAt k pc with toSlots := slots, spawned, claimant } p' :=
  ⟨p', .inr hnext, hslots, h.installs.of_ready hready (ready_of_taker hp'), hspawns⟩

/-- A step that is not the taker's. -/
theorem Abstracts.of_other {k : κ} {pc : SpawnPc} {spawned : Bool} {claimant : Option κ}
    (h : Abstracts s p)
    (hspawns : SpawnsAt spawned claimant (s.spawnAt k pc).spawn p) :
    ∃ p', (p' = p ∨ p.Next p') ∧ Abstracts { s.spawnAt k pc with spawned, claimant } p' :=
  ⟨p, .inl rfl, h.slots, h.installs, hspawns⟩

theorem Abstracts.of_bystander {k : κ} {pc pc' : SpawnPc} (h : Abstracts s p)
    (hpc : s.spawn k = pc) (hnot : pc.isTaker = false) (hreturned : pc ≠ .returned)
    (hnot' : pc'.isTaker = false) (hclaims : pc'.claims = pc.claims) :
    ∃ p', (p' = p ∨ p.Next p') ∧ Abstracts (s.spawnAt k pc') p' := by
  refine h.of_other (h.spawns.update h.spawns.spawned (by rw [hpc]; exact hnot)
    (by rw [hpc]; exact hreturned) hnot' ⟨fun hclaimant => ?_, fun hk => ?_⟩ fun _ _ => Iff.rfl)
  · rw [hclaims]
    by_contra hfree
    have hrunning := h.spawns.running_of_claimant hpc (Bool.eq_false_iff.mpr hfree) hclaimant
    exact hreturned (hpc.symm.trans (h.spawns.taker k .returned (by rw [hrunning]; rfl)))
  · exact h.spawns.claimant_eq hpc (hclaims ▸ hk)

theorem abstracts_spawn {k : κ} {ok : Bool} (hs : Abstracts s p)
    (h : s.spawnStep k ok = some s') : ∃ p', (p' = p ∨ p.Next p') ∧ Abstracts s' p' := by
  have hslots := hs.slots
  have hspawns := hs.spawns
  cases spawnStep_cases h with
  | giveUp hpc => exact hs.of_bystander hpc rfl nofun rfl rfl
  | load hpc => exact hs.of_bystander hpc rfl nofun rfl rfl
  | lose hpc => exact hs.of_bystander hpc rfl nofun rfl rfl
  | findNone hpc => exact hs.of_bystander hpc rfl nofun rfl rfl
  | claim hpc hspawned =>
      have hfree : s.claimant = none := by simpa [hspawned] using hspawns.spawned
      refine hs.of_other (hspawns.update rfl (by rw [hpc]; rfl) (by rw [hpc]; exact nofun) rfl
        (iff_of_true rfl rfl) fun j hj => ?_)
      rw [hfree]
      exact ⟨fun hk => absurd (Option.some.inj hk).symm hj, nofun⟩
  | unclaim hpc =>
      have hclaimant := hspawns.claimant_eq hpc rfl
      refine hs.of_other (hspawns.update rfl (by rw [hpc]; rfl) (by rw [hpc]; exact nofun) rfl
        (iff_of_false nofun nofun) fun j hj => ?_)
      rw [hclaimant]
      exact ⟨nofun, fun hk => absurd (Option.some.inj hk).symm hj⟩
  | take hpc hreceiver =>
      have hreceiverSlot : s.receiver = p.slots.receiver := congrArg Slots.receiver hslots
      have hp : p = .installed := by
        cases p <;> simp_all [Phase.slots]
      subst hp
      exact hs.of_taker (.take k) ⟨nofun, nofun⟩ rfl (congrArg (fun slots : Slots κ =>
        { slots with receiver := false, takers := slots.takers ++ [k] }) hslots)
        (hspawns.keep_claim hpc rfl rfl nofun rfl nofun nofun)
  | start hpc =>
      obtain rfl := Option.some.inj (hspawns.ofTaker_eq hpc rfl nofun)
      exact hs.of_taker (.start k) ⟨nofun, nofun⟩ rfl (congrArg (fun slots : Slots κ =>
        { slots with attempts := slots.attempts ++ [k], threads := slots.threads + 1 }) hslots)
        (hspawns.keep_claim hpc rfl rfl (eq_of_taker rfl) rfl nofun nofun)
  | fail hpc =>
      obtain rfl := Option.some.inj (hspawns.ofTaker_eq hpc rfl nofun)
      exact hs.of_taker (.fail k) ⟨nofun, nofun⟩ rfl (congrArg (fun slots : Slots κ =>
        { slots with attempts := slots.attempts ++ [k] }) hslots)
        (hspawns.keep_claim hpc rfl rfl (eq_of_taker rfl) rfl nofun nofun)
  | stash hpc =>
      obtain rfl := Option.some.inj (hspawns.ofTaker_eq hpc rfl nofun)
      exact hs.of_taker (.stash k) ⟨nofun, nofun⟩ rfl (congrArg (fun slots : Slots κ =>
        { slots with handle := true }) hslots)
        (hspawns.update_taker hspawns.spawned (eq_of_taker rfl) rfl nofun (fun _ => .inr rfl)
          (fun _ => hspawns.claimant_eq hpc rfl) (fun _ _ => Iff.rfl) nofun)
  | revert hpc =>
      obtain rfl := Option.some.inj (hspawns.ofTaker_eq hpc rfl nofun)
      have hclaimant := hspawns.claimant_eq hpc rfl
      refine hs.of_taker (.revert k) ⟨nofun, nofun⟩ rfl hslots
        (hspawns.update_taker rfl (eq_of_taker rfl) rfl nofun nofun nofun (fun j hj => ?_) nofun)
      rw [hclaimant]
      exact ⟨nofun, fun hk => absurd (Option.some.inj hk).symm hj⟩
  | flag hpc =>
      obtain rfl := Option.some.inj (hspawns.ofTaker_eq hpc rfl nofun)
      exact hs.of_taker (.flag k) ⟨nofun, nofun⟩ rfl (congrArg (fun slots : Slots κ =>
        { slots with spawnFailed := true }) hslots)
        (hspawns.keep_free hpc rfl rfl (eq_of_taker rfl) rfl nofun nofun)
  | clear hpc hlock =>
      obtain rfl := Option.some.inj (hspawns.ofTaker_eq hpc rfl nofun)
      exact hs.of_taker (.clear k) ⟨nofun, nofun⟩ rfl (congrArg (fun slots : Slots κ =>
        { slots with sender := false, cleared := true }) hslots)
        (hspawns.keep_free hpc rfl rfl (eq_of_taker rfl) rfl nofun nofun)
  | warn hpc =>
      obtain rfl := Option.some.inj (hspawns.ofTaker_eq hpc rfl nofun)
      exact hs.of_taker (.warn k) ⟨nofun, nofun⟩ rfl (congrArg (fun slots : Slots κ =>
        { slots with warnings := slots.warnings + 1 }) hslots)
        (hspawns.keep_free hpc rfl rfl (eq_of_taker rfl) rfl nofun nofun)

end spawn

/-! ### A run -/

variable [DecidableEq ι] [DecidableEq κ]

/-- **The phases of a step**: a permitted step of any call stays in the phase or goes to the next
one. -/
theorem abstracts_step {e : LifecycleEvent ι κ} (hs : Abstracts s p) (hpermits : s.permits e = true)
    (h : s.step e = some s') : ∃ p', (p' = p ∨ p.Next p') ∧ Abstracts s' p' := by
  cases e with
  | install i => exact abstracts_install hs hpermits h
  | spawn k ok => exact abstracts_spawn hs h

/-- **Every interleaving goes through the phases.** -/
theorem abstracts_run {es : List (LifecycleEvent ι κ)}
    (h : run Lifecycle.step (Lifecycle.init ι κ) es = some s)
    (hpermits : Along Lifecycle.step (fun s e => s.permits e = true) (Lifecycle.init ι κ) es) :
    ∃ p, Relation.ReflTransGen Phase.Next .vacant p ∧ Abstracts s p := by
  refine run_invariant_along
    (I := fun s => ∃ p, Relation.ReflTransGen Phase.Next .vacant p ∧ Abstracts s p)
    ?_ h hpermits ⟨.vacant, .refl, abstracts_init⟩
  rintro s e - s' hpermit hstep ⟨p, hreach, hs⟩
  obtain ⟨p', rfl | hnext, hs'⟩ := abstracts_step hs hpermit hstep
  · exact ⟨p', hreach, hs'⟩
  · exact ⟨p', hreach.tail hnext, hs'⟩

end step

end PhpAnalyze
