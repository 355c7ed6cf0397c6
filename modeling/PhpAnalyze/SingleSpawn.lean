import PhpAnalyze.Lifecycle

/-! # The shipper is started once

Read off the phases: the receiver is taken and the OS is asked at most once, whoever takes
`SHIPPER_SPAWNED` back has set it, and when all calls have returned nothing was started, or one
thread runs, or the failure was reported once (`single_spawn`).

A call that starts when everything is at rest and a channel is installed brings the start about,
but the call that makes it may be a later one, which has set `SHIPPER_SPAWNED` first
(`not_every_first_call_attempts`). -/

namespace PhpAnalyze

open Machine

section single

variable {ι κ : Type}

/-! ### When all calls have returned -/

namespace Lifecycle

def AtRest (s : Lifecycle ι κ) : Prop := ∀ k, s.spawn k = .idle ∨ s.spawn k = .returned

structure Settled (s : Lifecycle ι κ) : Prop where
  installs : ∀ i, s.install i = .idle ∨ s.install i = .returned
  spawns : s.AtRest

/-- `drain_and_join_at_mshutdown` finds the sender and the handle, and joins a thread. -/
def joins (s : Lifecycle ι κ) : Bool := s.sender && s.handle

/-- Nothing was spawned, and there is no warning. -/
structure NotSpawned (s : Lifecycle ι κ) : Prop where
  attempts : s.attempts = []
  threads : s.threads = 0
  handle : s.handle = false
  warnings : s.warnings = 0
  spawned : s.spawned = false
  spawnFailed : s.spawnFailed = false

/-- One thread runs, and can be joined. -/
structure Runs (s : Lifecycle ι κ) : Prop where
  attempts : s.attempts.length = 1
  threads : s.threads = 1
  handle : s.handle = true
  warnings : s.warnings = 0
  spawned : s.spawned = true
  spawnFailed : s.spawnFailed = false
  sender : s.sender = true
  receiver : s.receiver = false
  joins : s.joins = true

/-- The spawn has failed, with one warning, and the producers find no sender. -/
structure Failed (s : Lifecycle ι κ) : Prop where
  attempts : s.attempts.length = 1
  threads : s.threads = 0
  handle : s.handle = false
  warnings : s.warnings = 1
  spawned : s.spawned = false
  spawnFailed : s.spawnFailed = true
  sender : s.sender = false
  receiver : s.receiver = false
  joins : s.joins = false

end Lifecycle

open Lifecycle

variable {s s' : Lifecycle ι κ} {p : Phase κ}

theorem taker_of_atRest (hs : Abstracts s p) (h : s.AtRest) {k : κ} {pc : SpawnPc}
    (htaker : p.taker = some (k, pc)) : pc = .returned := by
  have hpc := hs.spawns.taker k pc htaker
  rcases isTaker_or_returned htaker with hisTaker | hreturned
  · rcases h k with hidle | hreturned
    · rw [← hpc, hidle] at hisTaker
      cases hisTaker
    · rw [← hpc, hreturned] at hisTaker
      cases hisTaker
  · exact hreturned

theorem claimant_of_atRest (hs : Abstracts s p) (h : s.AtRest) {k : κ}
    (hk : s.claimant = some k) : p = .running k := by
  rcases hs.spawns.claimed k hk with hclaims | hrunning
  · rcases h k with hpc | hpc <;>
    · rw [hpc] at hclaims
      cases hclaims
  · exact hrunning

theorem claimant_eq_none (hs : Abstracts s p) (h : s.AtRest) (hp : ∀ k, p ≠ .running k) :
    s.claimant = none := by
  cases hclaimant : s.claimant with
  | none => rfl
  | some k => exact absurd (claimant_of_atRest hs h hclaimant) (hp k)

theorem phase_of_atRest (hs : Abstracts s p) (h : s.AtRest) (hready : p.Ready) :
    p = .installed ∨ (∃ k, p = .running k) ∨ ∃ k, p = .dead k := by
  have htaker : ∀ k pc, p.taker = some (k, pc) → pc = .returned := fun k pc =>
    taker_of_atRest hs h
  cases p with
  | vacant => exact absurd rfl hready.1
  | installing => exact absurd rfl hready.2
  | installed => exact .inl rfl
  | running k => exact .inr (.inl ⟨k, rfl⟩)
  | dead k => exact .inr (.inr ⟨k, rfl⟩)
  | taken k => cases htaker k _ rfl
  | started k => cases htaker k _ rfl
  | failed k => cases htaker k _ rfl
  | reverted k => cases htaker k _ rfl
  | flagged k => cases htaker k _ rfl
  | cleared k => cases htaker k _ rfl

theorem ready_of_settled (hs : Abstracts s p) (h : s.Settled) (hp : p ≠ .vacant) : p.Ready := by
  refine ⟨hp, fun hinstalling => ?_⟩
  obtain ⟨i, hi⟩ := hs.installs.installing hinstalling
  rcases h.installs i with hpc | hpc <;>
  · rw [hpc] at hi
    cases hi

/-- **The three ends.** -/
theorem settled_cases (hs : Abstracts s p) (h : s.Settled) :
    s.NotSpawned ∨ s.Runs ∨ s.Failed := by
  have hoff (hp : ∀ k, p ≠ .running k) : s.spawned = false := by
    rw [hs.spawns.spawned, claimant_eq_none hs h.spawns hp]
    rfl
  have hon (k : κ) (hp : p = .running k) : s.spawned = true := by
    rw [hs.spawns.spawned, hs.spawns.running k hp]
    rfl
  have hready := ready_of_settled hs h
  have hphase := phase_of_atRest hs h.spawns
  have hslots := hs.slots
  obtain ⟨⟨⟩, _, _, _, _, _⟩ := s
  by_cases hvacant : p = .vacant
  · subst hvacant
    cases hslots
    exact .inl ⟨rfl, rfl, rfl, rfl, hoff nofun, rfl⟩
  · rcases hphase (hready hvacant) with rfl | ⟨k, rfl⟩ | ⟨k, rfl⟩
    · cases hslots
      exact .inl ⟨rfl, rfl, rfl, rfl, hoff nofun, rfl⟩
    · cases hslots
      exact .inr (.inl ⟨rfl, rfl, rfl, rfl, hon k rfl, rfl, rfl, rfl, rfl⟩)
    · cases hslots
      exact .inr (.inr ⟨rfl, rfl, rfl, rfl, hoff nofun, rfl, rfl, rfl, rfl⟩)

theorem ends_disjoint :
    ¬(s.NotSpawned ∧ s.Runs) ∧ ¬(s.NotSpawned ∧ s.Failed) ∧ ¬(s.Runs ∧ s.Failed) := by
  refine ⟨fun ⟨hnot, hruns⟩ => ?_, fun ⟨hnot, hfailed⟩ => ?_, fun ⟨hruns, hfailed⟩ => ?_⟩
  · exact absurd (hnot.threads.symm.trans hruns.threads) (by decide)
  · exact absurd (hnot.warnings.symm.trans hfailed.warnings) (by decide)
  · exact absurd (hruns.threads.symm.trans hfailed.threads) (by decide)

/-- In every phase at most one call has taken the receiver, and at most one has asked the OS. -/
theorem at_most_once (hs : Abstracts s p) : s.takers.length ≤ 1 ∧ s.attempts.length ≤ 1 := by
  have htakers : s.takers = p.slots.takers := congrArg Slots.takers hs.slots
  have hattempts : s.attempts = p.slots.attempts := congrArg Slots.attempts hs.slots
  rw [htakers, hattempts]
  cases p <;> simp [Phase.slots]

/-! ### The first call after an installation -/

theorem ready_of_next {p' : Phase κ} (hnext : p' = p ∨ p.Next p') (hready : p.Ready) :
    p'.Ready := by
  rcases hnext with rfl | hnext
  · exact hready
  · cases hnext with
    | send => exact absurd rfl hready.1
    | _ => exact ⟨nofun, nofun⟩

/-- What the start of the call `k` leads to: the receiver is gone, or a call is about to take it. -/
def Imminent (k : κ) (s : Lifecycle ι κ) : Prop :=
  s.receiver = false ∨
    (∀ j, s.spawn j ≠ .noReceiver) ∧ (s.spawn k = .loaded ∨ ∃ j, s.spawn j = .claimed)

/-- **The start is brought about**: when the calls that follow have returned, one of them, or one
before, has asked the OS. -/
theorem attempted_of_imminent {k : κ} (hs : Abstracts s p) (hready : p.Ready) (h : s.Settled)
    (hk : Imminent k s) : s.attempts.length = 1 := by
  have hattempts : s.attempts = p.slots.attempts := congrArg Slots.attempts hs.slots
  rcases phase_of_atRest hs h.spawns hready with rfl | ⟨j, rfl⟩ | ⟨j, rfl⟩
  · rcases hk with hgone | ⟨-, hloaded | ⟨j, hclaimed⟩⟩
    · exact absurd ((congrArg Slots.receiver hs.slots).symm.trans hgone) nofun
    · have := h.spawns k
      grind
    · have := h.spawns j
      grind
  · rw [hattempts]
    rfl
  · rw [hattempts]
    rfl

/-- The call `k` is on its way to the OS, or has asked it. -/
def Leads (k : κ) (s : Lifecycle ι κ) : Prop :=
  s.spawn k = .loaded ∧ s.receiver = true ∧ s.claimant = none ∨
    s.spawn k = .claimed ∧ s.receiver = true ∨ s.spawn k = .taken ∨ k ∈ s.attempts

/-- Another call has set `SHIPPER_SPAWNED` before the call `k` could. -/
def Overtaken (k : κ) (s : Lifecycle ι κ) : Prop :=
  s.spawn k = .loaded ∧ ∃ j, j ≠ k ∧ s.claimant = some j

variable [DecidableEq κ]

theorem imminent_start {k : κ} {ok : Bool} (hs : Abstracts s p) (hready : p.Ready)
    (hrest : s.AtRest) (hidle : s.spawn k = .idle) (h : s.spawnStep k ok = some s') :
    Imminent k s' := by
  simp only [Lifecycle.spawnStep, hidle, Option.some.injEq] at h
  subst h
  rcases phase_of_atRest hs hrest hready with rfl | ⟨j, rfl⟩ | ⟨j, rfl⟩
  · have hlive : s.spawnFailed = false := congrArg Slots.spawnFailed hs.slots
    refine .inr ⟨fun j => ?_, .inl ?_⟩
    · have := hrest j
      grind [Lifecycle.spawnAt_spawn]
    · simp [hlive]
  · exact .inl (congrArg Slots.receiver hs.slots)
  · exact .inl (congrArg Slots.receiver hs.slots)

theorem leads_start {k : κ} {ok : Bool} (hs : Abstracts s p) (hready : p.Ready)
    (hrest : s.AtRest) (hidle : s.spawn k = .idle) (hnobody : s.attempts = [])
    (h : s.spawnStep k ok = some s') : Leads k s' := by
  have hattempts : s.attempts = p.slots.attempts := congrArg Slots.attempts hs.slots
  simp only [Lifecycle.spawnStep, hidle, Option.some.injEq] at h
  subst h
  rcases phase_of_atRest hs hrest hready with rfl | ⟨j, rfl⟩ | ⟨j, rfl⟩
  · have hlive : s.spawnFailed = false := congrArg Slots.spawnFailed hs.slots
    have hfree : s.claimant = none := claimant_eq_none hs hrest nofun
    exact .inl ⟨by simp [hlive], congrArg Slots.receiver hs.slots, hfree⟩
  · rw [hnobody] at hattempts
    cases hattempts
  · rw [hnobody] at hattempts
    cases hattempts

variable [DecidableEq ι]

theorem imminent_step {k : κ} {e : LifecycleEvent ι κ} (hs : Abstracts s p) (hready : p.Ready)
    (h : s.step e = some s') (hk : Imminent k s) : Imminent k s' := by
  cases e with
  | install i =>
      cases installStep_cases h with
      | receive hpc => exact absurd (hs.installs.sender i hpc) hready.2
      | _ => exact hk
  | spawn j ok =>
      have hslots : s.receiver = p.slots.receiver := congrArg Slots.receiver hs.slots
      rcases hk with hgone | ⟨hnone, hk⟩
      · refine .inl ?_
        cases spawnStep_cases h <;> first | exact hgone | rfl
      · by_cases hreceiver : s.receiver = true
        · have hp : p = .installed := by
            cases p <;> simp_all [Phase.slots]
          subst hp
          have hnot : (s.spawn j).isTaker = false := by
            by_contra htaker
            cases hs.spawns.isTaker j (eq_true_of_ne_false htaker)
          cases spawnStep_cases h with
          | take hpc _ => exact .inl rfl
          | lose hpc hset =>
              -- whoever has set the flag has not yet looked for the receiver
              obtain ⟨j', hj'⟩ : ∃ j', s.claimant = some j' :=
                Option.isSome_iff_exists.mp (hs.spawns.spawned.symm.trans hset)
              have hclaimed : s.spawn j' = .claimed := by
                have hclaims := (hs.spawns.claimed j' hj').resolve_right (by simp)
                have htaker := hs.spawns.isTaker j'
                have hreceiverless := hnone j'
                generalize s.spawn j' = pc at *
                cases pc <;> simp_all [SpawnPc.claims, SpawnPc.isTaker, Phase.taker]
              refine .inr ⟨?_, .inr ⟨j', ?_⟩⟩ <;> grind [Lifecycle.spawnAt_spawn]
          | claim hpc hset =>
              refine .inr ⟨?_, .inr ⟨j, ?_⟩⟩ <;> grind [Lifecycle.spawnAt_spawn]
          | giveUp hpc hfailed =>
              have hlive : s.spawnFailed = false := congrArg Slots.spawnFailed hs.slots
              rw [hfailed] at hlive
              cases hlive
          | load hpc hfailed =>
              refine .inr ⟨by grind [Lifecycle.spawnAt_spawn], ?_⟩
              rcases hk with hloaded | ⟨j', hclaimed⟩
              · exact .inl (by grind [Lifecycle.spawnAt_spawn])
              · exact .inr ⟨j', by grind [Lifecycle.spawnAt_spawn]⟩
          | findNone hpc hgone => exact absurd (hreceiver.symm.trans hgone) (by decide)
          | unclaim hpc => exact absurd hpc (hnone j)
          | start hpc | fail hpc | stash hpc | revert hpc | flag hpc | clear hpc | warn hpc =>
              rw [hpc] at hnot
              cases hnot
        · refine .inl ?_
          cases spawnStep_cases h <;> first | exact eq_false_of_ne_true hreceiver | rfl

theorem leads_step {k : κ} {e : LifecycleEvent ι κ} (hs : Abstracts s p)
    (h : s.step e = some s') (hk : Leads k s) : Leads k s' ∨ Overtaken k s' := by
  have hclaims := hs.spawns.claims
  have hspawned := hs.spawns.spawned
  cases e with
  | install i =>
      refine .inl ?_
      cases installStep_cases h with
      | receive hpc =>
          rcases hk with ⟨hloaded, -, hfree⟩ | ⟨hclaimed, -⟩ | hlater
          · exact .inl ⟨hloaded, rfl, hfree⟩
          · exact .inr (.inl ⟨hclaimed, rfl⟩)
          · exact .inr (.inr hlater)
      | _ => exact hk
  | spawn j ok =>
      have hj := hclaims j
      have hk' := hclaims k
      cases spawnStep_cases h <;>
        grind [Leads, Overtaken, SpawnPc.claims, Lifecycle.spawnAt_spawn,
          Lifecycle.spawnAt_toSlots, Lifecycle.spawnAt_claimant]

/-! ### Runs -/

/-- No install begins after a spawn failure has cleared the sender slot. -/
abbrev Permitted (s : Lifecycle ι κ) (es : List (LifecycleEvent ι κ)) : Prop :=
  Along Lifecycle.step (fun s e => s.permits e = true) s es

theorem imminent_run {k : κ} {fs : List (LifecycleEvent ι κ)}
    (h : run Lifecycle.step s fs = some s') (hpermits : Permitted s fs)
    (hs : ∃ p, Abstracts s p ∧ p.Ready ∧ Imminent k s) :
    ∃ p, Abstracts s' p ∧ p.Ready ∧ Imminent k s' := by
  refine run_invariant_along (I := fun s => ∃ p, Abstracts s p ∧ p.Ready ∧ Imminent k s) ?_ h
    hpermits hs
  rintro s e - s' hpermit hstep ⟨p, hs, hready, hk⟩
  obtain ⟨p', hnext, hs'⟩ := abstracts_step hs hpermit hstep
  exact ⟨p', hs', ready_of_next hnext hready, imminent_step hs hready hstep hk⟩

theorem leads_run {k : κ} {fs : List (LifecycleEvent ι κ)}
    (h : run Lifecycle.step s fs = some s') (hpermits : Permitted s fs) (hs : Abstracts s p)
    (hk : Leads k s) :
    Leads k s' ∨ ∃ fs₁ fs₂ t, fs = fs₁ ++ fs₂ ∧ run Lifecycle.step s fs₁ = some t ∧
      Overtaken k t := by
  induction fs generalizing s p with
  | nil => cases h; exact .inl hk
  | cons e fs ih =>
      obtain ⟨t, ht, hrun⟩ := run_cons_eq_some.mp h
      obtain ⟨p', -, hs'⟩ := abstracts_step hs hpermits.1 ht
      rcases leads_step hs ht hk with hleads | hovertaken
      · rcases ih hrun (hpermits.2 t ht) hs' hleads with hend | ⟨fs₁, fs₂, t', hfs, ht', hover⟩
        · exact .inl hend
        · exact .inr ⟨e :: fs₁, fs₂, t', by rw [hfs]; rfl,
            run_cons_eq_some.mpr ⟨t, ht, ht'⟩, hover⟩
      · exact .inr ⟨[e], fs, t, rfl, run_cons_eq_some.mpr ⟨t, ht, rfl⟩, hovertaken⟩

/-- **The first call** after an installation that starts when nobody else is under way. -/
theorem first_call {i : ι} {k : κ} {ok : Bool} {fs : List (LifecycleEvent ι κ)}
    (hs : Abstracts s p) (hrest : s.AtRest) (hinstalled : s.install i = .returned)
    (hidle : s.spawn k = .idle) (hpermits : Permitted s (.spawn k ok :: fs))
    (h : run Lifecycle.step s (.spawn k ok :: fs) = some s') :
    (s'.Settled → s'.attempts.length = 1) ∧
      (s'.spawn k = .returned → k ∈ s'.attempts ∨ s.attempts ≠ [] ∨
        ∃ fs₁ fs₂ t, fs = fs₁ ++ fs₂ ∧ run Lifecycle.step s (.spawn k ok :: fs₁) = some t ∧
          Overtaken k t) := by
  have hready := hs.installs.ready i (.inr hinstalled)
  obtain ⟨t, ht, hrun⟩ := run_cons_eq_some.mp h
  obtain ⟨p', hnext, hs'⟩ := abstracts_step hs hpermits.1 ht
  constructor
  · intro hsettled
    obtain ⟨p'', hend, hreadyEnd, himminent⟩ := imminent_run hrun (hpermits.2 t ht)
      ⟨p', hs', ready_of_next hnext hready, imminent_start hs hready hrest hidle ht⟩
    exact attempted_of_imminent hend hreadyEnd hsettled himminent
  · intro hreturned
    by_cases hnobody : s.attempts = []
    · rcases leads_run hrun (hpermits.2 t ht) hs' (leads_start hs hready hrest hidle hnobody ht)
        with hleads | ⟨fs₁, fs₂, t', hfs, ht', hover⟩
      · exact .inl (by simpa [Leads, hreturned] using hleads)
      · exact .inr (.inr ⟨fs₁, fs₂, t', hfs, run_cons_eq_some.mpr ⟨t, ht, ht'⟩, hover⟩)
    · exact .inr (.inl hnobody)

/-- **The shipper is spawned once.** -/
theorem single_spawn {es : List (LifecycleEvent ι κ)}
    (h : run Lifecycle.step (Lifecycle.init ι κ) es = some s)
    (hpermits : Permitted (Lifecycle.init ι κ) es) :
    s.takers.length ≤ 1 ∧ s.attempts.length ≤ 1 ∧
    (∀ k, s.spawn k = .noReceiver ∨ s.spawn k = .failed → s.claimant = some k) ∧
    (s.AtRest → ∀ i k ok fs s', s.install i = .returned → s.spawn k = .idle →
      Permitted s (.spawn k ok :: fs) → run Lifecycle.step s (.spawn k ok :: fs) = some s' →
      (s'.Settled → s'.attempts.length = 1) ∧
        (s'.spawn k = .returned → k ∈ s'.attempts ∨ s.attempts ≠ [] ∨
          ∃ fs₁ fs₂ t, fs = fs₁ ++ fs₂ ∧ run Lifecycle.step s (.spawn k ok :: fs₁) = some t ∧
            Overtaken k t)) ∧
    (s.Settled → (s.NotSpawned ∨ s.Runs ∨ s.Failed) ∧
      ¬(s.NotSpawned ∧ s.Runs) ∧ ¬(s.NotSpawned ∧ s.Failed) ∧ ¬(s.Runs ∧ s.Failed)) := by
  obtain ⟨p, -, hs⟩ := abstracts_run h hpermits
  obtain ⟨htakers, hattempts⟩ := at_most_once hs
  refine ⟨htakers, hattempts, fun k hk => ?_, fun hrest i k ok fs s' hi hidle => ?_,
    fun hsettled => ⟨settled_cases hs hsettled, ends_disjoint⟩⟩
  · refine hs.spawns.claims k ?_
    rcases hk with hk | hk <;>
    · rw [hk]
      rfl
  · exact first_call hs hrest hi hidle

end single

def installRun : List (LifecycleEvent Unit Bool) := [.install (), .install (), .install ()]

/-- The spawn of one call fails; the other one sets `SHIPPER_SPAWNED` after the revert and finds
no receiver. -/
def failingRun : List (LifecycleEvent Unit Bool) :=
  installRun ++ [.spawn false false, .spawn true false, .spawn false false, .spawn false false,
    .spawn false false, .spawn false false, .spawn true false, .spawn true false,
    .spawn false false, .spawn false false, .spawn true false, .spawn false false]

theorem settled_of_bool {s : Lifecycle Unit Bool}
    (h : (s.install () = .idle ∨ s.install () = .returned) ∧
      ∀ k, s.spawn k = .idle ∨ s.spawn k = .returned) : s.Settled :=
  ⟨fun _ => h.1, h.2⟩

theorem single_spawn_failing :
    ∃ s, run Lifecycle.step (Lifecycle.init Unit Bool) failingRun = some s ∧
      s.takers.length ≤ 1 ∧ s.attempts.length ≤ 1 ∧ (s.NotSpawned ∨ s.Runs ∨ s.Failed) := by
  have hrun := (Option.some_get (x := run Lifecycle.step (Lifecycle.init Unit Bool) failingRun)
    (by decide)).symm
  obtain ⟨htakers, hattempts, -, -, hend⟩ := single_spawn hrun (by decide)
  exact ⟨_, hrun, htakers, hattempts, (hend (settled_of_bool (by decide))).1⟩

/-- The second call starts after the first one and sets `SHIPPER_SPAWNED` before it. -/
def overtakingRun : List (LifecycleEvent Unit Bool) :=
  [.spawn true true, .spawn true true, .spawn false true, .spawn true true, .spawn true true,
    .spawn true true]

/-- The first call that starts after the installation need not be the one that asks the OS. -/
theorem not_every_first_call_attempts :
    ¬ ∀ (es fs : List (LifecycleEvent Unit Bool)) (s s' : Lifecycle Unit Bool) (k ok : Bool),
      run Lifecycle.step (Lifecycle.init Unit Bool) es = some s →
      Permitted (Lifecycle.init Unit Bool) (es ++ .spawn k ok :: fs) →
      s.install () = .returned → (∀ j, s.spawn j = .idle) →
      run Lifecycle.step s (.spawn k ok :: fs) = some s' → s'.Settled → k ∈ s'.attempts := by
  intro h
  have hmem := h installRun overtakingRun _ _ false true (Option.some_get (by decide)).symm
    (by decide) (by decide) (by decide) (Option.some_get (by decide)).symm
    (settled_of_bool (by decide))
  exact absurd hmem (by decide)

end PhpAnalyze
