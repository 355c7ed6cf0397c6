import PhpAnalyze.Lib.Numerals
import PhpAnalyze.Lifecycle
import PhpAnalyze.Poster
import PhpAnalyze.SkipFilter

/-! # The hooks of the extension (`bootstrap.rs`)

What `MINIT`, `RINIT`, `RSHUTDOWN` and `MSHUTDOWN` are made of: the messages for the PHP error log,
the identity of a request, the dispatcher of the observer, and the slots of `shipper/mod.rs`.

The hooks run on the PHP thread, and the shipper thread does not touch the slots.  So
`install_channel_at_minit` and `spawn_with_on_batch_factory_inner` are one step each here; they do
what the calls of `Lifecycle` do when nothing comes between (`install_alone`, `spawn_alone`). -/

namespace PhpAnalyze

open Machine Numerals

/-! ### The PHP error log -/

inductive ErrorType where
  | warning
  | notice
deriving DecidableEq, Repr

structure PhpError where
  level : ErrorType
  message : String
deriving DecidableEq, Repr

/-- `Display` of `ConfigWarning`; `debugPath` is the `Debug` of a path. -/
def ConfigWarning.display (debugPath : String → String) : ConfigWarning → String
  | .invalidUrl value reason =>
      "php_analyze.server_url: failed to parse '" ++ value ++ "' as a URL: " ++ reason
  | .unsupportedScheme scheme =>
      "php_analyze.server_url: scheme '" ++ scheme ++
        "' is not supported (must be http or https)"
  | .httpScheme =>
      "php_analyze.server_url uses http://; TLS is recommended for production deployments"
  | .missingServerUrl => "php_analyze disabled: server_url is not configured"
  | .missingToken =>
      "php_analyze disabled: no bearer token configured " ++
        "(set php_analyze.auth_token or php_analyze.auth_token_file)"
  | .tokenFileUnreadable path details =>
      "php_analyze disabled: auth_token_file at " ++ debugPath path ++ " could not be read: " ++
        details
  | .emptyTokenFile path =>
      "php_analyze disabled: auth_token_file at " ++ debugPath path ++
        " is empty after trimming whitespace"
  | .outOfRange directive value clampedTo =>
      "php_analyze." ++ directive ++ ": value " ++ renderInt value ++
        " is out of range, clamped to " ++ renderInt clampedTo
  | .unknownCpuSnapshotMode rawValue fallback =>
      "php_analyze.cpu_snapshot_mode: unrecognised value '" ++ rawValue ++
        "', falling back to '" ++ fallback ++ "'"

def ConfigWarning.error (debugPath : String → String) (warning : ConfigWarning) : PhpError where
  level := .warning
  message := warning.display debugPath

/-- `emit_php_notice`. -/
def phpNotice (message : String) : PhpError where
  level := .notice
  message := message

def emitMasterSwitchNoticeIfOff (config : Option Config) : List PhpError :=
  match config with
  | some config =>
      if config.disableReason = some .masterSwitchOff then
        [phpNotice "php_analyze: disabled by php_analyze.enabled = 0"]
      else []
  | none => []

def startupErrors (debugPath : String → String) (resolved : Config × List ConfigWarning) :
    List PhpError :=
  resolved.2.map (ConfigWarning.error debugPath) ++ emitMasterSwitchNoticeIfOff (some resolved.1)

/-- `emit_spawn_failure_warning`. -/
def spawnFailureWarning : PhpError where
  level := .warning
  message := "php-analyze: failed to spawn shipper thread; profiling disabled for this process"

/-! ### A request -/

/-- What the SAPI and the host say of a request. -/
structure SapiReadings where
  sapiName : String
  requestUri : Option String
  argv0 : Option String
  pathTranslated : Option String
  hostname : Option String
  pid : UInt32
deriving DecidableEq, Repr

def resolveUriOrScript (requestUri argv0 pathTranslated : Option String) : String :=
  ((requestUri.or argv0).or pathTranslated).getD "(unknown-uri)"

/-- `request_identity_from_sapi`. -/
def SapiReadings.identity (readings : SapiReadings) : RequestIdentity where
  host := readings.hostname.getD "(unknown-host)"
  sapi := readings.sapiName
  pid := readings.pid
  uriOrScript := resolveUriOrScript readings.requestUri readings.argv0 readings.pathTranslated

/-- `From<&Config>` of `TraceLimits`. -/
def TraceLimits.ofConfig (config : Config) : TraceLimits where
  maxDepth := config.maxDepth
  bufferCapBytes := config.bufferCapBytes
  flushRecords := config.flushRecords
  flushBytes := config.flushBytes

/-! ### The dispatcher -/

inductive BootObserver where
  | disabled
  | recorder
deriving DecidableEq, Repr

def buildBootObserver (global : Option Config) : BootObserver :=
  match global with
  | some config => if config.enabled then .recorder else .disabled
  | none => .disabled

def BootObserver.shouldObserve (global : Option Config) (info : FcallInfo) : BootObserver → Bool
  | .disabled => false
  | .recorder => PhpAnalyze.shouldObserve global info

/-! ### The slots -/

/-- The slots and flags of `shipper/mod.rs`, as the PHP thread finds them: whether `SENDER_SLOT`,
`RECEIVER_SLOT` and `SHIPPER_HANDLE` are some, `SHIPPER_SPAWNED` and `SHIPPER_SPAWN_FAILED`, and
whether the OS has started the thread. -/
structure ShipperSlots where
  sender : Bool
  receiver : Bool
  spawned : Bool
  spawnFailed : Bool
  handle : Bool
  running : Bool
  /-- How many messages the installed channel can hold. -/
  capacity : ℕ
deriving DecidableEq, Repr

namespace ShipperSlots

def init : ShipperSlots where
  sender := false
  receiver := false
  spawned := false
  spawnFailed := false
  handle := false
  running := false
  capacity := 0

def installChannelAtMinit (depth : ℕ) (s : ShipperSlots) : ShipperSlots :=
  if s.sender then s else { s with sender := true, receiver := true, capacity := depth }

/-- `spawn_with_on_batch_factory_inner` with what it logs; `ok` is the answer of the OS. -/
def spawnWithOnBatchFactoryInner (ok : Bool) (s : ShipperSlots) : ShipperSlots × List PhpError :=
  if s.spawnFailed then (s, [])
  else if s.spawned then (s, [])
  -- the flag that the compare-exchange has set is reverted
  else if !s.receiver then (s, [])
  else if ok then
    ({ s with spawned := true, receiver := false, handle := true, running := true }, [])
  else ({ s with receiver := false, spawnFailed := true, sender := false }, [spawnFailureWarning])

end ShipperSlots

def installShipperIfEnabled (config : Option Config) (s : ShipperSlots) : ShipperSlots :=
  match config with
  | some config => if config.enabled then s.installChannelAtMinit config.shipperQueueDepth else s
  | none => s

/-! ### Calls that nothing comes between -/

namespace Lifecycle

variable {ι κ : Type}

/-- The slots; `depth` is the capacity of the channel that is or will be installed. -/
def slots (depth : ℕ) (s : Lifecycle ι κ) : ShipperSlots where
  sender := s.sender
  receiver := s.receiver
  spawned := s.spawned
  spawnFailed := s.spawnFailed
  handle := s.handle
  running := s.threads != 0
  capacity := depth

variable [DecidableEq κ]

@[simp] theorem senderLock_spawnAt (s : Lifecycle ι κ) (k : κ) (pc : SpawnPc) :
    (s.spawnAt k pc).senderLock = s.senderLock := rfl

variable [DecidableEq ι] {s t : Lifecycle ι κ}

theorem exists_run_step {e : LifecycleEvent ι κ} {P : Lifecycle ι κ → Prop}
    (hstep : s.step e = some t)
    (h : ∃ n s', run step t (List.replicate n e) = some s' ∧ P s') :
    ∃ n s', run step s (List.replicate n e) = some s' ∧ P s' := by
  obtain ⟨n, s', hrun, hs'⟩ := h
  refine ⟨n + 1, s', ?_, hs'⟩
  rw [List.replicate_succ, run_cons, hstep]
  exact hrun

/-- **An install alone** is `install_channel_at_minit` in one step. -/
theorem install_alone (depth : ℕ) {i : ι} (hidle : s.install i = .idle)
    (hlock : s.senderLock = none) :
    ∃ n s', run step s (List.replicate n (.install i)) = some s' ∧ s'.install i = .returned ∧
      s'.slots depth = (s.slots depth).installChannelAtMinit depth := by
  cases hsender : s.sender with
  | true =>
      have hstep : s.step (.install i) = some (s.installAt i .returned) := by
        simp [step, installStep, hidle, hlock, hsender]
      refine exists_run_step hstep ⟨0, _, rfl, by simp, ?_⟩
      simp [ShipperSlots.installChannelAtMinit, slots, installAt, hsender]
  | false =>
      let u : Lifecycle ι κ :=
        { s.installAt i .sender with sender := true, senderLock := some i }
      have hsend : s.step (.install i) = some u := by
        simp [step, installStep, hidle, hlock, hsender, u]
      have hreceive : u.step (.install i) =
          some { u.installAt i .receiver with receiver := true } := by
        simp [step, installStep, u]
      refine exists_run_step hsend (exists_run_step hreceive ?_)
      refine exists_run_step (by simp [step, installStep]; rfl) ?_
      refine ⟨0, _, rfl, by simp, ?_⟩
      simp [ShipperSlots.installChannelAtMinit, slots, installAt, hsender, u]

/-- **A spawn alone** is `spawn_with_on_batch_factory_inner` in one step. -/
theorem spawn_alone (depth : ℕ) (ok : Bool) {k : κ} (hidle : s.spawn k = .idle)
    (hlock : s.senderLock = none) (hthreads : s.spawned = false → s.threads = 0) :
    ∃ n s', run step s (List.replicate n (.spawn k ok)) = some s' ∧ s'.spawn k = .returned ∧
      s'.slots depth = ((s.slots depth).spawnWithOnBatchFactoryInner ok).1 ∧
      s'.warnings = s.warnings + ((s.slots depth).spawnWithOnBatchFactoryInner ok).2.length := by
  cases hfailed : s.spawnFailed with
  | true =>
      have hload : s.step (.spawn k ok) = some (s.spawnAt k .returned) := by
        simp [step, spawnStep, hidle, hfailed]
      refine exists_run_step hload ⟨0, _, rfl, by simp, ?_⟩
      simp [ShipperSlots.spawnWithOnBatchFactoryInner, slots, spawnAt, hfailed]
  | false =>
    have hload : s.step (.spawn k ok) = some (s.spawnAt k .loaded) := by
      simp [step, spawnStep, hidle, hfailed]
    apply exists_run_step hload
    cases hspawned : s.spawned with
    | true =>
        refine exists_run_step (by simp [step, spawnStep, spawnAt, hspawned]; rfl) ?_
        refine ⟨0, _, rfl, by simp, ?_⟩
        simp [ShipperSlots.spawnWithOnBatchFactoryInner, slots, hfailed, hspawned]
    | false =>
      refine exists_run_step (by simp [step, spawnStep, spawnAt, hspawned]; rfl) ?_
      cases hreceiver : s.receiver with
      | false =>
          refine exists_run_step (by simp [step, spawnStep, hreceiver]; rfl) ?_
          refine exists_run_step (by simp [step, spawnStep]; rfl) ?_
          refine ⟨0, _, rfl, by simp, ?_⟩
          simp [ShipperSlots.spawnWithOnBatchFactoryInner, slots, hfailed, hspawned, hreceiver]
      | true =>
        refine exists_run_step (by simp [step, spawnStep, hreceiver]; rfl) ?_
        cases ok with
        | true =>
            refine exists_run_step (by simp [step, spawnStep]; rfl) ?_
            refine exists_run_step (by simp [step, spawnStep]; rfl) ?_
            refine ⟨0, _, rfl, by simp, ?_⟩
            simp [ShipperSlots.spawnWithOnBatchFactoryInner, slots, spawnAt, hfailed, hspawned,
              hreceiver, hthreads hspawned]
        | false =>
            refine exists_run_step (by simp [step, spawnStep]; rfl) ?_
            refine exists_run_step (by simp [step, spawnStep]; rfl) ?_
            refine exists_run_step (by simp [step, spawnStep]; rfl) ?_
            refine exists_run_step (by simp [step, spawnStep, hlock]; rfl) ?_
            refine exists_run_step (by simp [step, spawnStep]; rfl) ?_
            refine ⟨0, _, rfl, by simp, ?_⟩
            simp [ShipperSlots.spawnWithOnBatchFactoryInner, slots, spawnAt, hfailed, hspawned,
              hreceiver, hthreads hspawned]

end Lifecycle

end PhpAnalyze
