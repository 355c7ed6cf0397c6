import PhpAnalyze.Bootstrap
import PhpAnalyze.EndToEnd

/-! # The extension in a PHP process

`Extension` is `Pipeline` with one PHP thread under the hooks of `bootstrap.rs`.  PHP calls `MINIT`
once, then `RINIT` and `RSHUTDOWN` around each request, and at last `MSHUTDOWN`.  What the hooks
read decides what `Pipeline` leaves to the environment: the configuration says whether anything
is recorded, and the slots and the channel say what `try_send` answers.

A step of a hook is `act`: at most one step of the pipeline, and what the hook makes of the rest
of the process, the `Module`.  So the extension refines the pipeline (`refines_pipeline`). -/

namespace PhpAnalyze

open Machine

/-- Where the PHP thread is.  A request lasts up to the end of `rshutdown_release_trace`; `notices`
is before a `drain_drop_notices`, in `RSHUTDOWN` or at the end of `MSHUTDOWN`, and `emitting` in the
loop of `emit_queued_drop_notices`. -/
inductive HookPc where
  | loaded
  | idle
  | rinit
  | request
  | notices (last : Bool)
  | emitting (queue : List String) (last : Bool)
  | mshutdown
  | stopped
deriving DecidableEq, Repr

/-- What the hooks have apart from the trace and the channel. -/
structure Module where
  config : Option Config
  observer : BootObserver
  slots : ShipperSlots
  hook : HookPc
  errorLog : List PhpError

def Module.init : Module where
  config := none
  observer := .disabled
  slots := .init
  hook := .loaded
  errorLog := []

structure Extension (Addr : Type) extends Pipeline Unit Addr, Module

inductive ExtensionEvent (Addr : Type) where
  | startup
  /-- `RINIT`, up to `spawn_if_needed_at_rinit`; `spawns` is the answer of the OS, if it is
  asked. -/
  | rinit (spawns : Bool)
  /-- `rinit_allocate_trace`. -/
  | allocate (readings : SapiReadings) (startTimeRealtimeNs : ℤ)
  | observe (e : PhpEvent)
  | trySend
  | rshutdown (exit : ExitSnapshots)
  | drain
  | release
  | drainDropNotices
  | emit
  | mshutdown
  /-- A step of `drain_and_join_at_mshutdown`. -/
  | shutdown (e : MshutdownEvent)
  | delivery (e : DeliveryEvent Addr)

/-- The loop of `emit_queued_drop_notices` before the next notice, or after the last. -/
def HookPc.emitQueued (queue : List String) (last : Bool) : HookPc :=
  if queue.isEmpty then if last then .stopped else .idle else .emitting queue last

def PhpEvent.isObserver : PhpEvent → Bool
  | .beginGate path _ => path = .lazy
  | .beginAccept _ => true
  | .endCall _ _ => true
  | _ => false

/-- A step that is not one of the shipper thread: the time passes, or somebody looks at the
server. -/
def DeliveryEvent.elsewhere {Addr : Type} : DeliveryEvent Addr → Bool
  | .shipper (.consumption (.tick _)) => true
  | .visit _ => true
  | _ => false

def DeliveryEvent.readsNotices {Addr : Type} : DeliveryEvent Addr → Bool
  | .shipper (.consumption .drainDropNotices) => true
  | _ => false

namespace Extension

variable {Addr : Type}

def start (files : String → Option (List UInt8)) : Extension Addr where
  toPipeline := .start Unit files
  toModule := .init

/-- The receiver is in its slot, or the loop has it. -/
def receiverAlive (s : Extension Addr) : Bool :=
  s.slots.receiver || s.slots.running && s.toSystem.receiverAlive

def hasRoom (s : Extension Addr) : Bool := s.channel.length < s.slots.capacity

/-- What `clone_canonical_sender` and `try_send` find. -/
def answer (s : Extension Addr) : TrySend :=
  if !s.slots.sender then .noSender
  else if !s.receiverAlive then .disconnected
  else if s.hasRoom then .ok
  else .full

def startupBody (debugPath : String → String) (resolved : Config × List ConfigWarning)
    (m : Module) : Module :=
  { m with
    config := some resolved.1
    observer := buildBootObserver (some resolved.1)
    slots := installShipperIfEnabled (some resolved.1) m.slots
    hook := .idle
    errorLog := m.errorLog ++ startupErrors debugPath resolved }

/-- `rinit_body`, up to `build_request_identity`; the thread gets this poster.  Without a URL
`spawn_if_needed_at_rinit` panics, and the hook catches the panic. -/
def rinitBody (version : String) (poster : RmpEncodeAndHttpPost) (spawns : Bool) (m : Module) :
    Option Module :=
  match m.config with
  | none => some { m with hook := .request }
  | some config =>
      if !config.enabled then some { m with hook := .request }
      else
        match spawnIfNeededAtRinit version config with
        | none => some { m with hook := .request }
        | some built =>
            if built = poster then
              let (slots, errors) := m.slots.spawnWithOnBatchFactoryInner spawns
              some { m with slots, hook := .rinit, errorLog := m.errorLog ++ errors }
            else none

/-- The shipper thread takes its steps once it is started; `drain_drop_notices` is called by the
hooks. -/
def permits (s : Extension Addr) (e : DeliveryEvent Addr) : Bool :=
  e.elsewhere || s.slots.running && !e.readsNotices

/-- A step of `drain_and_join_at_mshutdown` after the `Sender` was taken: a step of the pipeline,
unless there is no thread to join. -/
def shutdown (s : Extension Addr) :
    MshutdownEvent → Option (Option (PipelineEvent Unit Addr) × Module)
  | .takeSender _ => none
  | .sendDrain delivered =>
      if delivered && !(s.receiverAlive && s.hasRoom) then none
      else some (some (.mshutdown (.sendDrain delivered)), s.toModule)
  | .join =>
      if s.slots.handle then
        some (some (.mshutdown .join),
          { s.toModule with slots := { s.slots with handle := false }, hook := .notices true })
      else if s.mshutdown = .joining then
        some (none, { s.toModule with hook := .notices true })
      else none
  | e => some (some (.mshutdown e), s.toModule)

/-- `mshutdown_body`, up to the `Sender`. -/
def mshutdownBody (s : Extension Addr) : Option (PipelineEvent Unit Addr) × Module :=
  match s.config with
  | none => (none, { s.toModule with hook := .stopped })
  | some config =>
      if !config.enabled then (none, { s.toModule with hook := .stopped })
      else if s.slots.sender then
        (some (.mshutdown (.takeSender config.shutdownGrace)),
          { s.toModule with slots := { s.slots with sender := false }, hook := .mshutdown })
      else (none, { s.toModule with hook := .notices true })

/-- What the step does: a step of the pipeline, if any, and the module after it. -/
def act (debugPath : String → String) (version : String) (resolved : Config × List ConfigWarning)
    (poster : RmpEncodeAndHttpPost) (s : Extension Addr) :
    ExtensionEvent Addr → Option (Option (PipelineEvent Unit Addr) × Module)
  | .startup =>
      if s.hook = .loaded then some (none, startupBody debugPath resolved s.toModule) else none
  | .rinit spawns =>
      if s.hook = .idle then (rinitBody version poster spawns s.toModule).map fun m => (none, m)
      else none
  | .allocate readings startTimeRealtimeNs =>
      match s.hook, s.config with
      | .rinit, some config =>
          some (some (.php () (.rinit readings.identity (.ofConfig config) startTimeRealtimeNs)),
            { s.toModule with hook := .request })
      | _, _ => none
  | .observe e =>
      if (s.hook = .idle || s.hook = .request) && e.isObserver then
        match s.observer with
        | .disabled => some (none, s.toModule)
        | .recorder => some (some (.php () e), s.toModule)
      else none
  | .trySend =>
      if s.hook = .request then some (some (.php () (.trySend s.answer)), s.toModule) else none
  | .rshutdown exit =>
      if s.hook = .request then
        some (some (.php () (.rshutdown exit)),
          { s.toModule with
            hook := if (s.threads ()).released then .notices false else .request })
      else none
  | .drain => if s.hook = .request then some (some (.php () .drain), s.toModule) else none
  | .release =>
      if s.hook = .request then
        some (some (.php () .release), { s.toModule with hook := .notices false })
      else none
  | .drainDropNotices =>
      match s.hook with
      | .notices last =>
          some (some (.delivery (.shipper (.consumption .drainDropNotices))),
            { s.toModule with hook := .emitQueued s.dropNotices last })
      | _ => none
  | .emit =>
      match s.hook with
      | .emitting (notice :: queue) last =>
          some (none,
            { s.toModule with
              hook := .emitQueued queue last
              errorLog := s.errorLog ++ [phpNotice notice] })
      | _ => none
  | .mshutdown => if s.hook = .idle then some s.mshutdownBody else none
  | .shutdown e => if s.hook = .mshutdown then s.shutdown e else none
  | .delivery e => if s.permits e then some (some (.delivery e), s.toModule) else none

section act

variable (debugPath : String → String) (version : String)
  (resolved : Config × List ConfigWarning) (poster : RmpEncodeAndHttpPost)

def pipelineEvents (s : Extension Addr) (e : ExtensionEvent Addr) :
    List (PipelineEvent Unit Addr) :=
  match s.act debugPath version resolved poster e with
  | some (some e', _) => [e']
  | _ => []

/-- What a hook can ask for, and the module after it. -/
inductive Act (s : Extension Addr) :
    ExtensionEvent Addr → Option (PipelineEvent Unit Addr) → Module → Prop
  | startup (hhook : s.hook = .loaded) :
      Act s .startup none (startupBody debugPath resolved s.toModule)
  | rinit (spawns) (hhook : s.hook = .idle) :
      Act s (.rinit spawns) none { s.toModule with hook := .request }
  | spawn (spawns config) (hhook : s.hook = .idle) (hconfig : s.config = some config)
      (hon : config.enabled = true) :
      Act s (.rinit spawns) none
        { s.toModule with
          slots := (s.slots.spawnWithOnBatchFactoryInner spawns).1
          hook := .rinit
          errorLog := s.errorLog ++ (s.slots.spawnWithOnBatchFactoryInner spawns).2 }
  | allocate (readings startTimeRealtimeNs config) (hhook : s.hook = .rinit)
      (hconfig : s.config = some config) :
      Act s (.allocate readings startTimeRealtimeNs)
        (some (.php () (.rinit readings.identity (.ofConfig config) startTimeRealtimeNs)))
        { s.toModule with hook := .request }
  | unobserved (e) (hhook : s.hook = .idle ∨ s.hook = .request)
      (hobserver : s.observer = .disabled) : Act s (.observe e) none s.toModule
  | observe (e) (hhook : s.hook = .idle ∨ s.hook = .request) (he : e.isObserver = true)
      (hobserver : s.observer = .recorder) : Act s (.observe e) (some (.php () e)) s.toModule
  | trySend (hhook : s.hook = .request) :
      Act s .trySend (some (.php () (.trySend s.answer))) s.toModule
  | rshutdown (exit) (hhook : s.hook = .request) :
      Act s (.rshutdown exit) (some (.php () (.rshutdown exit)))
        { s.toModule with
          hook := if (s.threads ()).released then .notices false else .request }
  | drain (hhook : s.hook = .request) : Act s .drain (some (.php () .drain)) s.toModule
  | release (hhook : s.hook = .request) :
      Act s .release (some (.php () .release)) { s.toModule with hook := .notices false }
  | drainDropNotices (last) (hhook : s.hook = .notices last) :
      Act s .drainDropNotices (some (.delivery (.shipper (.consumption .drainDropNotices))))
        { s.toModule with hook := .emitQueued s.dropNotices last }
  | emit (notice queue last) (hhook : s.hook = .emitting (notice :: queue) last) :
      Act s .emit none
        { s.toModule with
          hook := .emitQueued queue last
          errorLog := s.errorLog ++ [phpNotice notice] }
  | leave (hhook : s.hook = .idle)
      (hoff : ∀ config, s.config = some config → config.enabled = false) :
      Act s .mshutdown none { s.toModule with hook := .stopped }
  | take (config) (hhook : s.hook = .idle) (hconfig : s.config = some config)
      (hon : config.enabled = true) (hsender : s.slots.sender = true) :
      Act s .mshutdown (some (.mshutdown (.takeSender config.shutdownGrace)))
        { s.toModule with slots := { s.slots with sender := false }, hook := .mshutdown }
  | senderless (config) (hhook : s.hook = .idle) (hconfig : s.config = some config)
      (hon : config.enabled = true) (hsender : s.slots.sender = false) :
      Act s .mshutdown none { s.toModule with hook := .notices true }
  | shutdown (e) (hhook : s.hook = .mshutdown) (he : e ≠ .join) :
      Act s (.shutdown e) (some (.mshutdown e)) s.toModule
  | join (hhook : s.hook = .mshutdown) (hhandle : s.slots.handle = true) :
      Act s (.shutdown .join) (some (.mshutdown .join))
        { s.toModule with slots := { s.slots with handle := false }, hook := .notices true }
  | threadless (hhook : s.hook = .mshutdown) (hhandle : s.slots.handle = false) :
      Act s (.shutdown .join) none { s.toModule with hook := .notices true }
  | delivery (e) (hpermits : s.permits e = true) :
      Act s (.delivery e) (some (.delivery e)) s.toModule

variable {debugPath version resolved poster}

theorem rinitBody_cases {m m' : Module} {spawns : Bool}
    (h : rinitBody version poster spawns m = some m') :
    m' = { m with hook := .request } ∨
      ∃ config, m.config = some config ∧ config.enabled = true ∧
        m' = { m with
          slots := (m.slots.spawnWithOnBatchFactoryInner spawns).1
          hook := .rinit
          errorLog := m.errorLog ++ (m.slots.spawnWithOnBatchFactoryInner spawns).2 } := by
  unfold rinitBody at h
  split at h
  case h_1 =>
    cases h
    exact .inl rfl
  case h_2 config hconfig =>
    split at h
    case isTrue =>
      cases h
      exact .inl rfl
    case isFalse hon =>
      split at h
      case h_1 =>
        cases h
        exact .inl rfl
      case h_2 =>
        split at h
        case isTrue =>
          cases h
          exact .inr ⟨config, hconfig, by simpa using hon, rfl⟩
        case isFalse => cases h

theorem mshutdownBody_act {s : Extension Addr} (hhook : s.hook = .idle) :
    Act debugPath resolved s .mshutdown s.mshutdownBody.1 s.mshutdownBody.2 := by
  unfold mshutdownBody
  split
  case h_1 hconfig => exact .leave hhook fun config h => by simp [hconfig] at h
  case h_2 config hconfig =>
    split
    case isTrue hoff =>
      refine .leave hhook fun config' h => ?_
      rw [hconfig] at h
      cases h
      simpa using hoff
    case isFalse hon =>
      have hon : config.enabled = true := by simpa using hon
      split
      case isTrue hsender => exact .take config hhook hconfig hon hsender
      case isFalse hsender => exact .senderless config hhook hconfig hon (by simpa using hsender)

theorem shutdown_act {s : Extension Addr} {e : MshutdownEvent}
    {move : Option (PipelineEvent Unit Addr) × Module} (hhook : s.hook = .mshutdown)
    (h : s.shutdown e = some move) :
    Act debugPath resolved s (.shutdown e) move.1 move.2 := by
  unfold shutdown at h
  split at h
  case h_1 => cases h
  case h_2 =>
    split at h
    case isTrue => cases h
    case isFalse =>
      cases h
      exact .shutdown _ hhook (by simp)
  case h_3 =>
    split at h
    case isTrue hhandle =>
      cases h
      exact .join hhook hhandle
    case isFalse hhandle =>
      split at h
      case isTrue =>
        cases h
        exact .threadless hhook (by simpa using hhandle)
      case isFalse => cases h
  case h_4 _ _ hjoin =>
    cases h
    exact .shutdown _ hhook hjoin

/-- **The cases of a hook.** -/
theorem act_cases {s : Extension Addr} {e : ExtensionEvent Addr}
    {move : Option (PipelineEvent Unit Addr) × Module}
    (h : s.act debugPath version resolved poster e = some move) :
    Act debugPath resolved s e move.1 move.2 := by
  cases e with
  | startup =>
      simp only [act] at h
      split at h
      · cases h
        exact .startup ‹_›
      · cases h
  | rinit spawns =>
      simp only [act] at h
      split at h
      case isTrue hhook =>
        obtain ⟨m, hbody, rfl⟩ := Option.map_eq_some_iff.mp h
        rcases rinitBody_cases hbody with rfl | ⟨config, hconfig, hon, rfl⟩
        · exact .rinit spawns hhook
        · exact .spawn spawns config hhook hconfig hon
      case isFalse => cases h
  | allocate readings startTimeRealtimeNs =>
      simp only [act] at h
      split at h
      · cases h
        exact .allocate readings startTimeRealtimeNs _ ‹_› ‹_›
      · cases h
  | observe e =>
      simp only [act] at h
      split at h
      case isTrue hhook =>
        simp only [Bool.and_eq_true, Bool.or_eq_true, decide_eq_true_eq] at hhook
        split at h
        · cases h
          exact .unobserved e hhook.1 ‹_›
        · cases h
          exact .observe e hhook.1 hhook.2 ‹_›
      case isFalse => cases h
  | trySend =>
      simp only [act] at h
      split at h
      · cases h
        exact .trySend ‹_›
      · cases h
  | rshutdown exit =>
      simp only [act] at h
      split at h
      · cases h
        exact .rshutdown exit ‹_›
      · cases h
  | drain =>
      simp only [act] at h
      split at h
      · cases h
        exact .drain ‹_›
      · cases h
  | release =>
      simp only [act] at h
      split at h
      · cases h
        exact .release ‹_›
      · cases h
  | drainDropNotices =>
      simp only [act] at h
      split at h
      · cases h
        exact .drainDropNotices _ ‹_›
      · cases h
  | emit =>
      simp only [act] at h
      split at h
      · cases h
        exact .emit _ _ _ ‹_›
      · cases h
  | mshutdown =>
      simp only [act] at h
      split at h
      case isTrue hhook =>
        cases h
        exact mshutdownBody_act hhook
      case isFalse => cases h
  | shutdown e =>
      simp only [act] at h
      split at h
      case isTrue hhook => exact shutdown_act hhook h
      case isFalse => cases h
  | delivery e =>
      simp only [act] at h
      split at h
      · cases h
        exact .delivery e ‹_›
      · cases h

end act

section step

variable [DecidableEq Addr] (debugPath : String → String) (version : String)
  (resolved : Config × List ConfigWarning) (uuidToString : TraceId → String)
  (codec : WireCodec) (poster : RmpEncodeAndHttpPost) (d : Instant) (args : StubIngest.Args)
  (target : String) (asError : ℕ → Option UreqError)

def after (p : Pipeline Unit Addr) : Option (PipelineEvent Unit Addr) → Option (Pipeline Unit Addr)
  | none => some p
  | some e => p.step uuidToString codec poster d args target asError e

def step (s : Extension Addr) (e : ExtensionEvent Addr) : Option (Extension Addr) :=
  (s.act debugPath version resolved poster e).bind fun move =>
    (after uuidToString codec poster d args target asError s.toPipeline move.1).map
      fun pipeline => { toPipeline := pipeline, toModule := move.2 }

variable {debugPath version resolved uuidToString codec poster d args target asError}

theorem exists_act {s s' : Extension Addr} {e : ExtensionEvent Addr}
    (h : s.step debugPath version resolved uuidToString codec poster d args target asError e =
      some s') :
    ∃ e', Act debugPath resolved s e e' s'.toModule ∧
      after uuidToString codec poster d args target asError s.toPipeline e' =
        some s'.toPipeline ∧
      s.pipelineEvents debugPath version resolved poster e = e'.toList := by
  obtain ⟨⟨e', m⟩, hact, hmap⟩ := Option.bind_eq_some_iff.mp h
  obtain ⟨pipeline, hafter, rfl⟩ := Option.map_eq_some_iff.mp hmap
  refine ⟨e', act_cases hact, hafter, ?_⟩
  unfold pipelineEvents
  rw [hact]
  cases e' <;> rfl

variable (Addr debugPath version resolved uuidToString codec poster d args target asError) in
/-- **The extension refines the pipeline.** -/
theorem refines_pipeline :
    Refines (step debugPath version resolved uuidToString codec poster d args target asError)
      (Pipeline.step uuidToString codec poster d args target asError)
      (toPipeline : Extension Addr → Pipeline Unit Addr)
      (pipelineEvents debugPath version resolved poster) := by
  intro s e s' hstep
  obtain ⟨e', -, hafter, hevents⟩ := exists_act hstep
  rw [hevents]
  cases e' with
  | none => exact hafter
  | some e' => exact (run_singleton _ _ _).trans hafter

end step

end Extension

end PhpAnalyze
