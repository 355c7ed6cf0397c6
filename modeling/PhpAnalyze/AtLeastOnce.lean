import PhpAnalyze.Delivery

/-! # How often a batch is stored

The poster is at least once (`delivered_at_least_once`): a batch that the shipper counts as sent
is in the store, and a batch is there at most once for every attempt, whatever the network does
to a request while its attempt lasts.  When the network loses nothing, a sent batch is there
exactly once (`delivered_exactly_once`); but a server that stores and then answers with an error
gets every batch as often as it is tried (`stored_once_an_attempt`).  With a wrong token nothing
is stored (`unauthorized_never_stored`).

`Phase` is the invariant; what the exchanges of one `handle` have to say of the copies that it
leaves is `Delivers`, and the results differ in it only. -/

namespace PhpAnalyze

open Machine Interaction Msgpack

/-! ### Copies in the store -/

/-- The store holds the consumed batches in their order, each in a number of copies that goes
with its fate; the copies are equal, with the drop counter that the one encoding has read. -/
def Copied (uuidToString : TraceId → String) (C : BatchFate → ℕ → Prop)
    (consumed : List (PendingBatch × BatchFate)) (store : List Wire.Batch) : Prop :=
  ∃ pieces : List (List Wire.Batch), store = pieces.flatten ∧
    List.Forall₂ (fun x piece => ∃ droppedRecords copies, C x.2 copies ∧
      piece = List.replicate copies (wireForm uuidToString x.1 droppedRecords)) consumed pieces

section copied

variable {uuidToString : TraceId → String} {C : BatchFate → ℕ → Prop}
  {consumed new : List (PendingBatch × BatchFate)} {store : List Wire.Batch}

theorem copied_nil : Copied uuidToString C [] [] := ⟨[], rfl, .nil⟩

theorem Copied.snoc (h : Copied uuidToString C consumed store) (batch : PendingBatch)
    {fate : BatchFate} (droppedRecords : ℕ) {copies : ℕ} (hcopies : C fate copies) :
    Copied uuidToString C (consumed ++ [(batch, fate)])
      (store ++ List.replicate copies (wireForm uuidToString batch droppedRecords)) := by
  obtain ⟨pieces, rfl, hpieces⟩ := h
  refine ⟨pieces ++ [List.replicate copies (wireForm uuidToString batch droppedRecords)], ?_, ?_⟩
  · simp
  · exact List.rel_append hpieces (.cons ⟨droppedRecords, copies, hcopies, rfl⟩ .nil)

theorem Copied.unsent (h : Copied uuidToString C consumed store) (hnew : ∀ x ∈ new, C x.2 0) :
    Copied uuidToString C (consumed ++ new) store := by
  induction new using List.reverseRecOn with
  | nil => rwa [List.append_nil]
  | append_singleton new x ih =>
      have hmore := (ih fun y hy => hnew y (List.mem_append_left _ hy)).snoc x.1 0
        (hnew x (List.mem_append_right _ List.mem_cons_self))
      rw [List.replicate_zero, List.append_nil, List.append_assoc] at hmore
      exact hmore

end copied

/-! ### Around `OnBatch::handle` -/

section around

variable {env : NoticeEnv} {c c' : Consumption} {e : ConsumptionEvent}

/-- The fates of the batches that never come to the `OnBatch` step. -/
def BatchFate.Unsent (fate : BatchFate) : Prop :=
  fate = .abandoned ∨ fate = .dropped false .encodeFailed 0

theorem unsent_around (honBatch : ∀ outcome, e ≠ .onBatch outcome) (h : c.step env e = some c') :
    ∃ new, c'.consumed = c.consumed ++ new ∧ ∀ x ∈ new, x.2.Unsent := by
  have hquiet : c'.history = c.history →
      ∃ new, c'.consumed = c.consumed ++ new ∧ ∀ x ∈ new, x.2.Unsent :=
    fun hhistory => ⟨[], by simp [Consumption.consumed, hhistory], by simp⟩
  cases Consumption.step_cases h with
  | tryRecv =>
      refine ⟨(Consumption.nextBatch c.toShipper).toList.map fun batch => (batch, .abandoned), ?_,
        by simp [BatchFate.Unsent]⟩
      cases Consumption.nextBatch c.toShipper <;> simp [Consumption.consumed, Change.consumed?]
  | encodeFailed => exact ⟨_, Consumption.consumed_snoc rfl, by simp [BatchFate.Unsent]⟩
  | onBatch outcome => exact absurd rfl (honBatch outcome)
  | other op =>
      refine ⟨[], ?_, by simp⟩
      simp [Consumption.consumed, List.filterMap_cons, Change.consumed?]
  | loop | recv | timeout | dropReceiver | encode | send | close | publishDrainDeadline | tick
  | drainDropNotices => exact hquiet rfl

theorem frame_around (honBatch : ∀ outcome, e ≠ .onBatch outcome) (h : c.step env e = some c')
    (hhandling : Consumption.handling c.pc ≠ none) :
    c'.pc = c.pc ∧ c'.consumed = c.consumed := by
  cases Consumption.step_cases h with
  | loop hloop | recv hloop | timeout hloop | tryRecv hloop | dropReceiver hloop =>
      exact absurd (handling_eq_none hloop nofun) hhandling
  | encode hpc | encodeFailed hpc =>
      rw [hpc] at hhandling
      exact absurd rfl hhandling
  | onBatch outcome => exact absurd rfl (honBatch outcome)
  | other op =>
      refine ⟨rfl, ?_⟩
      simp [Consumption.consumed, List.filterMap_cons, Change.consumed?]
  | send | close | publishDrainDeadline | tick | drainDropNotices => exact ⟨rfl, rfl⟩

theorem consumed_encode (h : c.step env (.encode true) = some c') :
    c'.consumed = c.consumed := by
  cases Consumption.step_cases h with
  | encode => rfl

theorem consumed_onBatch {outcome : OnBatchOutcome} {batch : PendingBatch}
    {deadline : Option Instant} {droppedRecords : ℕ}
    (hpc : c.pc = .handling batch deadline droppedRecords)
    (h : c.step env (.onBatch outcome) = some c') :
    c'.consumed = c.consumed ++ [(batch, Consumption.fateOf outcome)] := by
  cases Consumption.step_cases h with
  | onBatch _ hpc' =>
      rw [hpc] at hpc'
      cases hpc'
      exact Consumption.consumed_snoc rfl

end around

/-! ### The invariant -/

theorem ofValue_wireForm {uuidToString : TraceId → String} {batch : PendingBatch}
    (hrange : batch.InRange) {droppedRecords : ℕ} (hcount : droppedRecords < 2 ^ 64) :
    Wire.Batch.ofValue (wireForm uuidToString batch droppedRecords).toValue =
      some (wireForm uuidToString batch droppedRecords) := by
  have h : Wire.Batch.ofValue (batchToWire uuidToString
      { Shared.init with dropCounters := fun _ => droppedRecords } batch).toValue = _ :=
    ofValue_batchToWire hrange hcount
  rwa [batchToWire_eq] at h

namespace Delivery

/-- The batch that is handled has the numbers of its Rust types, and its encoding is read back. -/
def Fits {Addr : Type} (uuidToString : TraceId → String) (codec : WireCodec) (s : Delivery Addr) :
    Prop :=
  ∀ batch deadline droppedRecords, s.pc = .handling batch deadline droppedRecords →
    batch.InRange ∧ droppedRecords < 2 ^ 64 ∧
      codec.Survives (wireForm uuidToString batch droppedRecords).toValue

section invariant

variable {Addr : Type} {uuidToString : TraceId → String} {codec : WireCodec}
  {poster : RmpEncodeAndHttpPost} {d : Instant} {args : StubIngest.Args} {target : String}
  {asError : ℕ → Option UreqError}

theorem Fits.decode {s : Delivery Addr} (h : s.Fits uuidToString codec)
    {batch : PendingBatch} {deadline : Option Instant} {droppedRecords : ℕ} {bytes : List UInt8}
    (hpc : s.pc = .handling batch deadline droppedRecords)
    (hbytes : encodedBytes codec uuidToString batch droppedRecords = some bytes) :
    codec.decode bytes = some (wireForm uuidToString batch droppedRecords) := by
  obtain ⟨hrange, hcount, bytes', hbytes', hdecode⟩ := h batch deadline droppedRecords hpc
  obtain rfl : bytes' = bytes := Option.some.inj (hbytes'.symm.trans hbytes)
  refine codec.named ?_
  rw [decodeBatch, hdecode]
  exact ofValue_wireForm hrange hcount

/-- What the exchanges of a `handle` have to say of the copies that it leaves, if each of them is
in `P`. -/
structure Delivers (retryCount : ℕ) (P : AttemptOutcome → Bool → Prop)
    (C : BatchFate → ℕ → Prop) : Prop where
  unsent : ∀ fate : BatchFate, fate.Unsent → C fate 0
  handled : ∀ attempts outcome (exchanges : List (AttemptOutcome × Bool)),
    Summary retryCount 0 attempts outcome → attempts.map Prod.snd = exchanges.map Prod.fst →
      (∀ x ∈ exchanges, P x.1 x.2) →
        C (Consumption.fateOf outcome) (exchanges.countP Prod.snd)

variable (uuidToString poster) in
/-- `OnBatch::handle` has the batch, after these turns, and the store was `base` before it. -/
structure Handling (P : AttemptOutcome → Bool → Prop) (C : BatchFate → ℕ → Prop)
    (s : Delivery Addr) (p : RetryProgram) (batch : PendingBatch) (droppedRecords : ℕ)
    (turns : List RetryTurn) (base : List Wire.Batch) : Prop where
  pc : ∃ deadline, s.pc = .handling batch deadline droppedRecords
  follows : Follows (runWithRetry poster.retryCount poster.retryBackoffMs) turns p
  verdicts : (attemptsOf turns).map Prod.snd = s.exchanges.map Prod.fst
  each : ∀ x ∈ s.exchanges, P x.1 x.2
  copied : Copied uuidToString C s.consumed base
  store : s.server.store = base ++
    List.replicate (s.exchanges.countP Prod.snd) (wireForm uuidToString batch droppedRecords)

variable (uuidToString poster) in
/-- What is true between any two steps. -/
structure Phase (P : AttemptOutcome → Bool → Prop) (C : BatchFate → ℕ → Prop)
    (s : Delivery Addr) : Prop where
  idle : s.program = none →
    s.exchanges = [] ∧ Copied uuidToString C s.consumed s.server.store
  busy : ∀ p, s.program = some p →
    ∃ batch droppedRecords turns base,
      Handling uuidToString poster P C s p batch droppedRecords turns base

variable {P : AttemptOutcome → Bool → Prop} {C : BatchFate → ℕ → Prop} {s s' : Delivery Addr}

theorem phase_start (shared : Shared) (files : String → Option (List UInt8)) :
    Phase uuidToString poster P C (start shared files : Delivery Addr) where
  idle := fun _ => ⟨rfl, copied_nil⟩
  busy := fun _ h => by cases h

theorem Phase.around (h : Phase uuidToString poster P C s)
    (hdelivers : Delivers poster.retryCount P C) {c : Consumption} {e : ConsumptionEvent}
    (honBatch : ∀ outcome, e ≠ .onBatch outcome)
    (hc : s.toConsumption.step (poster.noticeEnv uuidToString) e = some c) :
    Phase uuidToString poster P C { s with toConsumption := c } where
  idle := by
    intro hprogram
    obtain ⟨hexchanges, hcopied⟩ := h.idle hprogram
    obtain ⟨new, hconsumed, hnew⟩ := unsent_around honBatch hc
    refine ⟨hexchanges, ?_⟩
    show Copied uuidToString C c.consumed _
    rw [hconsumed]
    exact hcopied.unsent fun x hx => hdelivers.unsent _ (hnew x hx)
  busy := by
    intro p hprogram
    obtain ⟨batch, droppedRecords, turns, base, hhandling⟩ := h.busy p hprogram
    obtain ⟨deadline, hpc⟩ := hhandling.pc
    obtain ⟨hsame, hconsumed⟩ := frame_around honBatch hc (by simp [hpc, Consumption.handling])
    refine ⟨batch, droppedRecords, turns, base, { hhandling with
      pc := ⟨deadline, hsame.trans hpc⟩
      copied := ?_ }⟩
    show Copied uuidToString C c.consumed base
    rw [hconsumed]
    exact hhandling.copied

theorem Phase.handle (h : Phase uuidToString poster P C s) {batch : PendingBatch}
    {deadline : Option Instant} (hpc : s.pc = .consuming batch deadline) {c : Consumption}
    (hc : s.toConsumption.step (poster.noticeEnv uuidToString) (.encode true) = some c) :
    Phase uuidToString poster P C
      { s with
        toConsumption := c
        program := some (runWithRetry poster.retryCount poster.retryBackoffMs)
        iteration := [] } := by
  have hidle : s.program = none := by
    by_contra hbusy
    obtain ⟨p, hprogram⟩ := Option.ne_none_iff_exists'.mp hbusy
    obtain ⟨_, _, _, _, hhandling⟩ := h.busy p hprogram
    obtain ⟨_, hpc'⟩ := hhandling.pc
    rw [hpc] at hpc'
    cases hpc'
  obtain ⟨hexchanges, hcopied⟩ := h.idle hidle
  have hpc' : c.pc = .handling batch deadline (s.shared.dropCounters batch.dropCounter) := by
    cases Consumption.step_cases hc with
    | encode hconsuming =>
        rw [hpc] at hconsuming
        cases hconsuming
        rfl
  refine ⟨fun hprogram => (by cases hprogram), fun p hprogram => ?_⟩
  cases hprogram
  refine ⟨batch, _, [], s.server.store, ⟨⟨deadline, hpc'⟩, .nil _, ?_, ?_, ?_, ?_⟩⟩
  · simp [hexchanges, attemptsOf]
  · simp [hexchanges]
  · show Copied uuidToString C c.consumed _
    rw [consumed_encode hc]
    exact hcopied
  · simp [hexchanges]

theorem Phase.turn (h : Phase uuidToString poster P C s) {q : RetryCall}
    {next : RetryAnswer q → RetryProgram} (hquiet : ∀ i, q ≠ .attempt i)
    (hprogram : s.program = some (.ask q next)) (answer : RetryAnswer q)
    (iteration : List RetryTurn) (launches : List Launch) :
    Phase uuidToString poster P C
      { s with program := some (next answer), iteration, launches } := by
  obtain ⟨batch, droppedRecords, turns, base, hhandling⟩ := h.busy _ hprogram
  have hnone : attemptsOf [(⟨q, answer⟩ : RetryTurn)] = [] := by
    cases q with
    | attempt i => exact absurd rfl (hquiet i)
    | deadlineFn | now | sleepFn => rfl
  refine ⟨fun hidle => (by cases hidle), fun p hp => ?_⟩
  cases hp
  refine ⟨batch, droppedRecords, turns ++ [⟨q, answer⟩], base, { hhandling with
    follows := hhandling.follows.snoc _
    verdicts := ?_ }⟩
  rw [attemptsOf_append, hnone, List.append_nil]
  exact hhandling.verdicts

/-- An attempt is an exchange, and the store has one copy more if the server has stored it. -/
theorem Phase.attempt (h : Phase uuidToString poster P C s) {i : ℕ}
    {next : RetryAnswer (.attempt i) → RetryProgram}
    (hprogram : s.program = some (.ask (.attempt i) next)) {batch : PendingBatch}
    {deadline : Option Instant} {droppedRecords : ℕ}
    (hpc : s.pc = .handling batch deadline droppedRecords) {verdict : AttemptOutcome}
    {server : StubIngest.State Addr} {stored : Bool} (hP : P verdict stored)
    (hstore : server.store = s.server.store ++
      if stored then [wireForm uuidToString batch droppedRecords] else [])
    (iteration : List RetryTurn) (launches : List Launch) :
    Phase uuidToString poster P C
      { s with
        program := some (next verdict)
        iteration
        launches
        server
        exchanges := s.exchanges ++
          [(verdict, decide (s.server.store.length < server.store.length))] } := by
  obtain ⟨batch', droppedRecords', turns, base, hhandling⟩ := h.busy _ hprogram
  obtain ⟨deadline', hpc'⟩ := hhandling.pc
  obtain ⟨rfl, rfl, rfl⟩ : batch = batch' ∧ deadline = deadline' ∧
      droppedRecords = droppedRecords' := by simpa using hpc.symm.trans hpc'
  have hstored : decide (s.server.store.length < server.store.length) = stored := by
    rw [hstore]
    cases stored <;> simp
  refine ⟨fun hidle => (by cases hidle), fun p hp => ?_⟩
  cases hp
  refine ⟨batch, droppedRecords, turns ++ [⟨.attempt i, verdict⟩], base,
    ⟨⟨deadline, hpc⟩, hhandling.follows.snoc _, ?_, fun x hx => ?_, hhandling.copied, ?_⟩⟩
  · rw [attemptsOf_append, List.map_append, List.map_append, hhandling.verdicts]
    rfl
  · rcases List.mem_append.mp hx with hold | hnew
    · exact hhandling.each x hold
    · obtain rfl := List.mem_singleton.mp hnew
      rwa [hstored]
  · rw [hstored, List.countP_append, List.countP_singleton, List.replicate_add,
      ← List.append_assoc, ← hhandling.store]
    cases stored <;> exact hstore

/-- `handle` returns, and the exchanges decide on the copies. -/
theorem Phase.finish (h : Phase uuidToString poster P C s)
    (hdelivers : Delivers poster.retryCount P C) {outcome : OnBatchOutcome} {c : Consumption}
    (hprogram : s.program = some (.ret (some outcome)))
    (hc : s.toConsumption.step (poster.noticeEnv uuidToString) (.onBatch outcome) = some c) :
    Phase uuidToString poster P C
      { s with toConsumption := c, program := none, iteration := [], exchanges := [] } := by
  obtain ⟨batch, droppedRecords, turns, base, hhandling⟩ := h.busy _ hprogram
  obtain ⟨deadline, hpc⟩ := hhandling.pc
  obtain ⟨outcome', heq, hruns⟩ := runs_of_follows_runWithRetry hhandling.follows
  obtain rfl := Option.some.inj heq
  have hsummary := hruns.summary (Nat.zero_le _)
  refine ⟨fun _ => ⟨rfl, ?_⟩, fun p hp => (by cases hp)⟩
  show Copied uuidToString C c.consumed s.server.store
  rw [consumed_onBatch hpc hc, hhandling.store]
  exact hhandling.copied.snoc batch droppedRecords
    (hdelivers.handled _ _ _ hsummary hhandling.verdicts hhandling.each)

variable [DecidableEq Addr]

variable (uuidToString codec poster args target asError) in
/-- The attempt adds its batch to the store or not, and its verdict is in `P` with that. -/
def Exchanges (P : AttemptOutcome → Bool → Prop) (s : Delivery Addr) (e : DeliveryEvent Addr) :
    Prop :=
  ∀ transmission, e = .attempt transmission → ∀ batch deadline droppedRecords bytes,
    s.pc = .handling batch deadline droppedRecords →
      encodedBytes codec uuidToString batch droppedRecords = some bytes →
        ∃ stored, P (transmit codec args target asError s.server (poster.request bytes)
            transmission).1 stored ∧
          (transmit codec args target asError s.server (poster.request bytes)
            transmission).2.store = s.server.store ++
              if stored then [wireForm uuidToString batch droppedRecords] else []

/-- **Step lemma.** -/
theorem Phase.step (h : Phase uuidToString poster P C s)
    (hdelivers : Delivers poster.retryCount P C) {e : DeliveryEvent Addr}
    (hexchanges : Exchanges uuidToString codec poster args target asError P s e)
    (hstep : s.step uuidToString codec poster d args target asError e = some s') :
    Phase uuidToString poster P C s' := by
  cases step_cases hstep with
  | around _ honBatch hc => exact h.around hdelivers honBatch hc
  | handle hpc _ hc => exact h.handle hpc hc
  | call verdict hquiet hprogram => exact h.turn hquiet hprogram _ _ _
  | @attempt i next batch deadline droppedRecords bytes verdict server transmission hprogram hpc
      hbytes htransmit =>
      have hexchange := hexchanges transmission rfl _ _ _ _ hpc hbytes
      rw [htransmit] at hexchange
      obtain ⟨stored, hP, hstore⟩ := hexchange
      exact h.attempt hprogram hpc hP hstore _ _
  | finish hprogram hc => exact h.finish hdelivers hprogram hc
  | @visit e hmethod =>
      have hother : (StubIngest.dispatch codec.decode args s.server e).2 = s.server :=
        StubIngest.dispatch_of_other (by simp [StubIngest.Event.isIngest, hmethod])
          (by simp [StubIngest.Event.isReset, hmethod])
      rw [hother]
      exact ⟨h.idle, h.busy⟩

/-- **Run lemma.** -/
theorem phase_run (hdelivers : Delivers poster.retryCount P C) {shared : Shared}
    {files : String → Option (List UInt8)} {es : List (DeliveryEvent Addr)}
    (hexchanges : Along (step uuidToString codec poster d args target asError)
      (Exchanges uuidToString codec poster args target asError P) (start shared files) es)
    (h : run (step uuidToString codec poster d args target asError) (start shared files) es =
      some s) : Phase uuidToString poster P C s :=
  run_invariant_along (fun _ _ _ _ hexchange hstep hphase =>
    hphase.step hdelivers hexchange hstep) h hexchanges (phase_start shared files)

/-- Where the batch fits, the exchange is in `P` if its verdict is, with what is stored. -/
theorem exchange_of_fits (hreaches : Reaches args target) (hfits : s.Fits uuidToString codec)
    {e : DeliveryEvent Addr}
    (hP : ∀ transmission, e = .attempt transmission → ∀ server bytes wire,
      codec.decode bytes = some wire →
        P (transmit codec args target asError server (poster.request bytes) transmission).1
          (transmission.stores poster args)) :
    Exchanges uuidToString codec poster args target asError P s e := by
  intro transmission he batch deadline droppedRecords bytes hpc hbytes
  have hdecode := hfits.decode hpc hbytes
  have hstore := transmit_store codec asError poster bytes hreaches s.server transmission
  rw [hdecode] at hstore
  exact ⟨_, hP transmission he s.server bytes _ hdecode, hstore⟩

theorem exchanges_of_fits (hreaches : Reaches args target) {shared : Shared}
    {files : String → Option (List UInt8)} {es : List (DeliveryEvent Addr)}
    (hfits : Along (step uuidToString codec poster d args target asError)
      (fun s _ => s.Fits uuidToString codec) (start shared files) es)
    (hP : ∀ transmission, .attempt transmission ∈ es → ∀ server bytes wire,
      codec.decode bytes = some wire →
        P (transmit codec args target asError server (poster.request bytes) transmission).1
          (transmission.stores poster args)) :
    Along (step uuidToString codec poster d args target asError)
      (Exchanges uuidToString codec poster args target asError P) (start shared files) es := by
  refine along_iff.mpr fun pre e post t hes ht => ?_
  exact exchange_of_fits hreaches (along_iff.mp hfits pre e post t hes ht)
    fun transmission he => hP transmission (by simp [hes, he])

variable (uuidToString) in
/-- The store holds the batches in the order of the channel, each in as many copies as `C` says;
what else is in it are copies of the batch that is handled. -/
structure Ships (C : BatchFate → ℕ → Prop) (s : Delivery Addr) : Prop where
  order : s.enqueued = s.consumed.map Prod.fst ++ s.held
  store : ∃ base inFlight, s.server.store = base ++ inFlight ∧
    Copied uuidToString C s.consumed base ∧
      ∀ wire ∈ inFlight, ∃ batch deadline droppedRecords,
        s.pc = .handling batch deadline droppedRecords ∧
          wire = wireForm uuidToString batch droppedRecords

theorem Phase.ships (h : Phase uuidToString poster P C s) {shared : Shared}
    {files : String → Option (List UInt8)} {es : List (DeliveryEvent Addr)}
    (hrun : run (Delivery.step uuidToString codec poster d args target asError)
      (start shared files) es = some s) : Ships uuidToString C s := by
  obtain ⟨fs, hfs⟩ := exists_httpShipper_run hrun
  refine ⟨HttpShipper.order_run hfs, ?_⟩
  cases hprogram : s.program with
  | none =>
      obtain ⟨-, hcopied⟩ := h.idle hprogram
      exact ⟨_, [], (List.append_nil _).symm, hcopied, by simp⟩
  | some p =>
      obtain ⟨batch, droppedRecords, turns, base, hhandling⟩ := h.busy p hprogram
      obtain ⟨deadline, hpc⟩ := hhandling.pc
      refine ⟨base, _, hhandling.store, hhandling.copied, fun wire hwire => ?_⟩
      exact ⟨batch, deadline, droppedRecords, hpc, List.eq_of_mem_replicate hwire⟩

end invariant

end Delivery

/-! ### How many copies -/

/-- A sent batch is stored, and no batch is stored more often than it was tried. -/
def AtLeastOnce (retryCount : ℕ) : BatchFate → ℕ → Prop
  | .sent, copies => 1 ≤ copies ∧ copies ≤ retryCount + 1
  | .dropped _ _ attempts, copies => copies ≤ attempts ∧ attempts ≤ retryCount + 1
  | .abandoned, copies => copies = 0

/-- A sent batch is stored once, and the others were not tried. -/
def ExactlyOnce : BatchFate → ℕ → Prop
  | .sent, copies => copies = 1
  | .dropped _ reason attempts, copies =>
      copies = 0 ∧ attempts = 0 ∧ (reason = .deadlineExceeded ∨ reason = .encodeFailed)
  | .abandoned, copies => copies = 0

/-- No batch is sent, and each is stored as often as it was tried. -/
def OnceAnAttempt (retryCount : ℕ) (reason : DropReason) : BatchFate → ℕ → Prop
  | .sent, _ => False
  | .dropped true reason' attempts, copies =>
      copies = attempts ∧ attempts ≤ retryCount + 1 ∧
        reason' = if attempts = retryCount + 1 then reason else .deadlineExceeded
  | .dropped false _ attempts, copies => copies = 0 ∧ attempts = 0
  | .abandoned, copies => copies = 0

/-- No batch is sent or stored. -/
def NotAtAll : BatchFate → ℕ → Prop
  | .sent, _ => False
  | _, copies => copies = 0

theorem Copied.notAtAll {uuidToString : TraceId → String}
    {consumed : List (PendingBatch × BatchFate)} {store : List Wire.Batch}
    (h : Copied uuidToString NotAtAll consumed store) :
    store = [] ∧ ∀ x ∈ consumed, x.2 ≠ .sent := by
  obtain ⟨pieces, rfl, hpieces⟩ := h
  induction hpieces with
  | nil => simp
  | @cons x piece consumed pieces hpiece _ ih =>
      obtain ⟨droppedRecords, copies, hcopies, rfl⟩ := hpiece
      obtain ⟨hnone, hunsent⟩ := ih
      obtain ⟨hfate, rfl⟩ : x.2 ≠ .sent ∧ copies = 0 := by
        cases hx : x.2 <;> simp_all [NotAtAll]
      exact ⟨by simpa using hnone, List.forall_mem_cons.mpr ⟨hfate, hunsent⟩⟩

namespace Delivery

section copies

variable {retryCount : ℕ}

theorem delivers_atLeastOnce :
    Delivers retryCount (fun verdict stored => verdict = .sent → stored = true)
      (AtLeastOnce retryCount) where
  unsent := by
    rintro fate (rfl | rfl)
    · rfl
    · exact ⟨Nat.le_refl 0, Nat.zero_le _⟩
  handled := by
    intro attempts outcome exchanges hsummary hverdicts hP
    have hlength : attempts.length = exchanges.length := by
      simpa using congrArg List.length hverdicts
    have hcount : exchanges.countP Prod.snd ≤ exchanges.length := List.countP_le_length
    have hbounded := hsummary.bounded
    cases outcome with
    | sent =>
        obtain ⟨j, hj⟩ := hsummary.sent_iff.mp rfl
        have hmem : AttemptOutcome.sent ∈ exchanges.map Prod.fst := by
          rw [← hverdicts]
          exact List.mem_map.mpr ⟨_, hj, rfl⟩
        obtain ⟨x, hx, hsent⟩ := List.mem_map.mp hmem
        have hpos := List.countP_pos_iff.mpr ⟨x, hx, hP x hx hsent⟩
        exact ⟨hpos, by omega⟩
    | dropped reason count =>
        obtain ⟨hattempts, -⟩ := hsummary.dropped reason count rfl
        exact ⟨by omega, by omega⟩

theorem delivers_exactlyOnce :
    Delivers retryCount (fun verdict stored => verdict = .sent ∧ stored = true) ExactlyOnce where
  unsent := by
    rintro fate (rfl | rfl)
    · rfl
    · exact ⟨rfl, rfl, .inr rfl⟩
  handled := by
    intro attempts outcome exchanges hsummary hverdicts hP
    have hall : ∀ x ∈ attempts, x.2 = .sent := by
      intro x hx
      have hmem : x.2 ∈ exchanges.map Prod.fst := hverdicts ▸ List.mem_map.mpr ⟨x, hx, rfl⟩
      obtain ⟨y, hy, heq⟩ := List.mem_map.mp hmem
      rw [← heq]
      exact (hP y hy).1
    have hcount : exchanges.countP Prod.snd = exchanges.length :=
      List.countP_eq_length.mpr fun x hx => (hP x hx).2
    have hlength : attempts.length = exchanges.length := by
      simpa using congrArg List.length hverdicts
    cases attempts with
    | nil =>
        cases outcome with
        | sent => simpa using hsummary.sent_iff.mp rfl
        | dropped reason count =>
            obtain ⟨hattempts, hreason⟩ := hsummary.dropped reason count rfl
            simp only [List.length_nil, Nat.add_zero] at hattempts hlength
            rw [if_neg (by omega)] at hreason
            exact ⟨by omega, hattempts, .inl hreason⟩
    | cons first rest =>
        -- the first attempt is sent, so it is the last one
        obtain ⟨j, verdict⟩ := first
        obtain rfl : verdict = .sent := hall _ List.mem_cons_self
        obtain rfl := hsummary.sent_last [] j rest rfl
        obtain rfl := hsummary.sent_iff.mpr ⟨j, List.mem_cons_self⟩
        show exchanges.countP Prod.snd = 1
        rw [hcount, ← hlength]
        rfl

theorem dropped_of_not_sent {attempts : List (ℕ × AttemptOutcome)} {outcome : OnBatchOutcome}
    {exchanges : List (AttemptOutcome × Bool)} (hsummary : Summary retryCount 0 attempts outcome)
    (hverdicts : attempts.map Prod.snd = exchanges.map Prod.fst)
    (h : ∀ x ∈ exchanges, x.1 ≠ .sent) :
    ∃ reason, outcome = .dropped reason exchanges.length ∧
      if exchanges.length = retryCount + 1 then
        ∃ x ∈ exchanges, x.1 = .failed reason
      else reason = .deadlineExceeded := by
  have hlength : attempts.length = exchanges.length := by
    simpa using congrArg List.length hverdicts
  cases outcome with
  | sent =>
      obtain ⟨j, hj⟩ := hsummary.sent_iff.mp rfl
      have hmem : AttemptOutcome.sent ∈ exchanges.map Prod.fst :=
        hverdicts ▸ List.mem_map.mpr ⟨_, hj, rfl⟩
      obtain ⟨x, hx, hsent⟩ := List.mem_map.mp hmem
      exact absurd hsent (h x hx)
  | dropped reason count =>
      obtain ⟨hattempts, hreason⟩ := hsummary.dropped reason count rfl
      obtain rfl : count = exchanges.length := by omega
      refine ⟨reason, rfl, ?_⟩
      split_ifs at hreason ⊢
      · have hmem : AttemptOutcome.failed reason ∈ exchanges.map Prod.fst :=
          hverdicts ▸ List.mem_map.mpr ⟨_, List.mem_of_getLast? hreason, rfl⟩
        obtain ⟨x, hx, hfailed⟩ := List.mem_map.mp hmem
        exact ⟨x, hx, hfailed⟩
      · exact hreason

theorem delivers_onceAnAttempt (reason : DropReason) :
    Delivers retryCount (fun verdict stored => verdict = .failed reason ∧ stored = true)
      (OnceAnAttempt retryCount reason) where
  unsent := by
    rintro fate (rfl | rfl)
    · rfl
    · exact ⟨rfl, rfl⟩
  handled := by
    intro attempts outcome exchanges hsummary hverdicts hP
    have hcount : exchanges.countP Prod.snd = exchanges.length :=
      List.countP_eq_length.mpr fun x hx => (hP x hx).2
    have hlength : attempts.length = exchanges.length := by
      simpa using congrArg List.length hverdicts
    have hbounded := hsummary.bounded
    obtain ⟨reason', rfl, hreason⟩ := dropped_of_not_sent hsummary hverdicts fun x hx => by
      rw [(hP x hx).1]
      simp
    refine ⟨hcount, by omega, ?_⟩
    split_ifs at hreason ⊢
    · obtain ⟨x, hx, hfailed⟩ := hreason
      rw [(hP x hx).1] at hfailed
      cases hfailed
      rfl
    · exact hreason

theorem delivers_notAtAll :
    Delivers retryCount (fun verdict stored => verdict ≠ .sent ∧ stored = false) NotAtAll where
  unsent := by
    rintro fate (rfl | rfl) <;> rfl
  handled := by
    intro attempts outcome exchanges hsummary hverdicts hP
    obtain ⟨reason, rfl, -⟩ :=
      dropped_of_not_sent hsummary hverdicts fun x hx => (hP x hx).1
    refine List.countP_eq_zero.mpr fun x hx => ?_
    simp [(hP x hx).2]

end copies

/-! ### The main results -/

section results

variable {Addr : Type} [DecidableEq Addr] {uuidToString : TraceId → String} {codec : WireCodec}
  {poster : RmpEncodeAndHttpPost} {d : Instant} {args : StubIngest.Args} {target : String}
  {asError : ℕ → Option UreqError} {shared : Shared} {files : String → Option (List UInt8)}
  {es : List (DeliveryEvent Addr)} {s : Delivery Addr}

/-- **A batch is delivered at least once.**  Whatever the network does to the requests and to the
answers of the attempts, in every run: a batch that counts as sent is stored, no batch is stored
more often than it was tried, and the store has the order of the channel. -/
theorem delivered_at_least_once (hreaches : Reaches args target)
    (herror : ∀ status ∈ [401, 415, 400, 500], asError status ≠ none)
    (hfits : Along (step uuidToString codec poster d args target asError)
      (fun s _ => s.Fits uuidToString codec) (start shared files) es)
    (h : run (step uuidToString codec poster d args target asError) (start shared files) es =
      some s) : Ships uuidToString (AtLeastOnce poster.retryCount) s := by
  have hphase := phase_run delivers_atLeastOnce (exchanges_of_fits hreaches hfits
    fun transmission _ server bytes wire _ => stores_of_sent hreaches herror) h
  exact hphase.ships h

theorem verdict_of_arrives (hreaches : Reaches args target)
    (htoken : poster.authToken = args.authToken) {transmission : Transmission Addr}
    (harrives : transmission.Arrives args) (server : StubIngest.State Addr) {bytes : List UInt8}
    {wire : Wire.Batch} (hdecode : codec.decode bytes = some wire) :
    (transmit codec args target asError server (poster.request bytes) transmission).1 =
        statusVerdict asError args.respondWith ∧
      transmission.stores poster args = true := by
  obtain ⟨arrival, rfl, hwritten⟩ := harrives
  have hstores : (Transmission.answered arrival none).stores poster args = true := by
    cases hdir : args.captureDir with
    | false => simp [Transmission.stores, htoken, hdir]
    | true => simp [Transmission.stores, htoken, hwritten hdir]
  obtain ⟨status, hverdict, hstatus⟩ := transmit_verdict asError hreaches server arrival
  rw [hdecode, if_pos ⟨hstores, rfl⟩] at hstatus
  exact ⟨hverdict.trans (by rw [hstatus]), hstores⟩

/-- **Without losses a batch is delivered exactly once.**  If every request and every answer
arrives, the captures are written and the status counts as a success: in every run, a batch that
counts as sent is stored once, and a batch that does not was never tried. -/
theorem delivered_exactly_once (hreaches : Reaches args target)
    (htoken : poster.authToken = args.authToken) (hok : asError args.respondWith = none)
    (harrive : ∀ transmission, .attempt transmission ∈ es → transmission.Arrives args)
    (hfits : Along (step uuidToString codec poster d args target asError)
      (fun s _ => s.Fits uuidToString codec) (start shared files) es)
    (h : run (step uuidToString codec poster d args target asError) (start shared files) es =
      some s) : Ships uuidToString ExactlyOnce s := by
  have hverdict : statusVerdict asError args.respondWith = .sent := by rw [statusVerdict, hok]
  have hphase := phase_run delivers_exactlyOnce (exchanges_of_fits hreaches hfits
    fun transmission he server bytes wire hdecode =>
      hverdict ▸ verdict_of_arrives hreaches htoken (harrive transmission he) server hdecode) h
  exact hphase.ships h

/-- **A server that stores and then fails has every batch many times.**  If every request and
every answer arrives and the status counts as an error: in every run, no batch counts as sent,
and each is stored as often as it was tried, `retry_count + 1` times unless the deadline comes
first. -/
theorem stored_once_an_attempt (hreaches : Reaches args target)
    (htoken : poster.authToken = args.authToken) {err : UreqError}
    (hfails : asError args.respondWith = some err)
    (harrive : ∀ transmission, .attempt transmission ∈ es → transmission.Arrives args)
    (hfits : Along (step uuidToString codec poster d args target asError)
      (fun s _ => s.Fits uuidToString codec) (start shared files) es)
    (h : run (step uuidToString codec poster d args target asError) (start shared files) es =
      some s) : Ships uuidToString (OnceAnAttempt poster.retryCount (mapUreqError err)) s := by
  have hverdict : statusVerdict asError args.respondWith = .failed (mapUreqError err) := by
    rw [statusVerdict, hfails]
  have hphase := phase_run (delivers_onceAnAttempt _) (exchanges_of_fits hreaches hfits
    fun transmission he server bytes wire hdecode =>
      hverdict ▸ verdict_of_arrives hreaches htoken (harrive transmission he) server hdecode) h
  exact hphase.ships h

/-- **A wrong token stores nothing**, whatever the batches and the network: in every run, nothing
is in the store, and no batch counts as sent. -/
theorem unauthorized_never_stored (hreaches : Reaches args target)
    (htoken : poster.authToken ≠ args.authToken)
    (herror : ∀ status ∈ [401, 415, 400, 500], asError status ≠ none)
    (h : run (step uuidToString codec poster d args target asError) (start shared files) es =
      some s) : s.server.store = [] ∧ ∀ x ∈ s.consumed, x.2 ≠ .sent := by
  have hrejected : ∀ transmission : Transmission Addr, transmission.stores poster args = false := by
    intro transmission
    cases transmission <;> simp [Transmission.stores, htoken]
  have hexchanges : Along (step uuidToString codec poster d args target asError)
      (Exchanges uuidToString codec poster args target asError
        fun verdict stored => verdict ≠ .sent ∧ stored = false) (start shared files) es := by
    refine along_iff.mpr fun pre e post t hes ht => ?_
    rintro transmission rfl batch deadline droppedRecords bytes hpc hbytes
    refine ⟨false, ⟨fun hsent => ?_, rfl⟩, ?_⟩
    · have hstores := stores_of_sent hreaches herror hsent
      rw [hrejected] at hstores
      cases hstores
    · rw [transmit_store codec asError poster bytes hreaches, hrejected]
      rfl
  have hphase := phase_run delivers_notAtAll hexchanges h
  cases hprogram : s.program with
  | none => exact (hphase.idle hprogram).2.notAtAll
  | some p =>
      obtain ⟨batch, droppedRecords, turns, base, hhandling⟩ := hphase.busy p hprogram
      obtain ⟨rfl, hsent⟩ := hhandling.copied.notAtAll
      have hnone : s.exchanges.countP Prod.snd = 0 :=
        List.countP_eq_zero.mpr fun x hx => by simp [(hhandling.each x hx).2]
      refine ⟨?_, hsent⟩
      rw [hhandling.store, hnone]
      rfl

end results

/-! ### A run -/

/-- An error from 400 on. -/
def statusAsError (status : ℕ) : Option UreqError :=
  if 400 ≤ status then some (.statusCode status.toUInt16) else none

def samplePoster (authToken : String) : RmpEncodeAndHttpPost where
  serverUrl := "http://127.0.0.1:9999/v1/ingest"
  authToken := authToken
  retryCount := 2
  retryBackoffMs := 200
  httpTimeout := fromMillis 5000
  userAgent := "php-analyze/0.1.0"

def sampleArrival : Arrival ℕ where
  before := [("Host", "127.0.0.1:9999")]
  after := [("Content-Length", "512")]
  remoteAddr := some 40000
  capture := .written
  before_others := by decide

/-- The batch of another trace. -/
def secondBatch : PendingBatch :=
  { sampleBatch with
    metaPartial := { sampleBatch.metaPartial with traceId := Vector.replicate 16 0x0a }
    dropCounter := 1 }

def secondWire : Wire.Batch := wireForm Uuid.hyphenated secondBatch 0

/-- MessagePack, as far as these values need it, and a server that reads named fields only. -/
def codecOfAll (vs : List Value) : WireCodec where
  toVec v := some v.toBytes
  fromSlice bytes := vs.find? fun v => v.toBytes = bytes
  decode := decodeBatch ⟨fun v => some v.toBytes, fun bytes => vs.find? fun v => v.toBytes = bytes⟩
  named := id

theorem survives_codecOfAll {vs : List Value} {v : Value} (hv : v ∈ vs)
    (hvs : (vs.map Value.toBytes).Nodup) : (codecOfAll vs).Survives v := by
  refine ⟨v.toBytes, rfl, ?_⟩
  have hfound : (vs.find? fun w => w.toBytes = v.toBytes).isSome = true :=
    List.find?_isSome.mpr ⟨v, hv, by simp⟩
  obtain ⟨w, hw⟩ := Option.isSome_iff_exists.mp hfound
  have hsame : w.toBytes = v.toBytes := by simpa using List.find?_some hw
  have hwv : w = v := List.inj_on_of_nodup_map hvs (List.mem_of_find?_eq_some hw) hv hsame
  exact hw.trans (congrArg some hwv)

/-- Two batches go to the channel. -/
def twoSent : List (DeliveryEvent ℕ) :=
  [.shipper (.consumption (.send (.batch sampleBatch))),
    .shipper (.consumption (.send (.batch secondBatch)))]

/-- The next batch goes to its `handle`, which comes to its first attempt. -/
def take : List (DeliveryEvent ℕ) :=
  [.shipper (.consumption .loop), .shipper (.consumption .recv),
    .shipper (.consumption (.encode true)), .shipper (.call .sent)]

/-- The sleep and the head of the next iteration. -/
def again : List (DeliveryEvent ℕ) := [.shipper (.call .sent), .shipper (.call .sent)]

def answerArrives : DeliveryEvent ℕ := .attempt (.answered sampleArrival none)

def sampleCodec : WireCodec := codecOfAll [StubIngest.sampleWire.toValue, secondWire.toValue]

def sampleStep (poster : RmpEncodeAndHttpPost) (args : StubIngest.Args) :
    Delivery ℕ → DeliveryEvent ℕ → Option (Delivery ℕ) :=
  step Uuid.hyphenated sampleCodec poster 0 args "/v1/ingest" statusAsError

def sampleStart : Delivery ℕ := start Shared.init fun _ => none

def lostAnswer : List (DeliveryEvent ℕ) :=
  twoSent ++ take ++ .attempt (.answered sampleArrival (some .timeout)) :: again ++
    answerArrives :: .shipper .finish :: take ++ [answerArrives, .shipper .finish]

def twoAnswers : List (DeliveryEvent ℕ) :=
  twoSent ++ take ++ answerArrives :: .shipper .finish :: take ++ [answerArrives, .shipper .finish]

def sixAnswers : List (DeliveryEvent ℕ) :=
  twoSent ++ take ++
    answerArrives :: again ++ answerArrives :: again ++ answerArrives :: .shipper .finish :: take ++
    answerArrives :: again ++ answerArrives :: again ++ [answerArrives, .shipper .finish]

/-- Only the two batches are handled, before anything was dropped. -/
def handlesSample (s : Delivery ℕ) : Bool :=
  match s.pc with
  | .handling batch _ droppedRecords =>
      (batch = sampleBatch ∨ batch = secondBatch) ∧ droppedRecords = 0
  | _ => true

theorem inRange_sample : sampleBatch.InRange ∧ secondBatch.InRange := by
  refine ⟨⟨by decide, by simp [InI64, sampleBatch], by decide, fun call hcall => ?_⟩,
    ⟨by decide, by simp [InI64, sampleBatch, secondBatch], by decide, fun call hcall => ?_⟩⟩ <;>
  · obtain rfl := List.mem_singleton.mp hcall
    constructor <;> simp [InI64]

theorem fits_sample {s : Delivery ℕ} (h : s.handlesSample = true) :
    s.Fits Uuid.hyphenated sampleCodec := by
  have hdistinct : ([StubIngest.sampleWire.toValue, secondWire.toValue].map
    Value.toBytes).Nodup := by decide +kernel
  intro batch deadline droppedRecords hpc
  obtain ⟨rfl | rfl, rfl⟩ :
      (batch = sampleBatch ∨ batch = secondBatch) ∧ droppedRecords = 0 := by
    simpa [handlesSample, hpc] using h
  · exact ⟨inRange_sample.1, by decide, survives_codecOfAll (List.mem_cons_self) hdistinct⟩
  · exact ⟨inRange_sample.2, by decide,
      survives_codecOfAll (List.mem_cons_of_mem _ List.mem_cons_self) hdistinct⟩

theorem along_fits {poster : RmpEncodeAndHttpPost} {args : StubIngest.Args}
    {es : List (DeliveryEvent ℕ)}
    (h : Along (sampleStep poster args) (fun s _ => s.handlesSample = true) sampleStart es) :
    Along (sampleStep poster args) (fun s _ => s.Fits Uuid.hyphenated sampleCodec)
      sampleStart es :=
  along_iff.mpr fun pre e post t hes ht => fits_sample (along_iff.mp h pre e post t hes ht)

theorem arrives_answer {args : StubIngest.Args} {es : List (DeliveryEvent ℕ)}
    (h : ∀ e ∈ es, ∀ transmission, e = .attempt transmission → e = answerArrives)
    (transmission : Transmission ℕ) (hmem : .attempt transmission ∈ es) :
    transmission.Arrives args := by
  cases h _ hmem transmission rfl
  exact ⟨sampleArrival, rfl, fun _ => rfl⟩

theorem reaches_sample {args : StubIngest.Args} (h : args.path = "/v1/ingest") :
    Reaches args "/v1/ingest" := by
  unfold Reaches
  rw [h]
  decide

theorem rejections_fail : ∀ status ∈ [401, 415, 400, 500], statusAsError status ≠ none := by
  decide

/-- The first batch is stored twice. -/
theorem delivered_at_least_once_lost_answer :
    ∃ s, run (sampleStep (samplePoster "s3cret") StubIngest.sampleArgs) sampleStart lostAnswer =
        some s ∧ s.consumed = [(sampleBatch, .sent), (secondBatch, .sent)] ∧
      s.server.store = [StubIngest.sampleWire, StubIngest.sampleWire, secondWire] ∧
      Ships Uuid.hyphenated (AtLeastOnce 2) s := by
  have hrun := (Option.some_get (show (run (sampleStep (samplePoster "s3cret")
    StubIngest.sampleArgs) sampleStart lostAnswer).isSome = true by decide +kernel)).symm
  have hships := delivered_at_least_once (reaches_sample rfl) rejections_fail
    (along_fits (by decide +kernel)) hrun
  exact ⟨_, hrun, by decide +kernel, by decide +kernel, hships⟩

theorem delivered_exactly_once_two_answers :
    ∃ s, run (sampleStep (samplePoster "s3cret") StubIngest.sampleArgs) sampleStart twoAnswers =
        some s ∧ s.consumed = [(sampleBatch, .sent), (secondBatch, .sent)] ∧
      s.server.store = [StubIngest.sampleWire, secondWire] ∧
      Ships Uuid.hyphenated ExactlyOnce s := by
  have hrun := (Option.some_get (show (run (sampleStep (samplePoster "s3cret")
    StubIngest.sampleArgs) sampleStart twoAnswers).isSome = true by decide +kernel)).symm
  have hships := delivered_exactly_once (reaches_sample rfl) rfl rfl
    (arrives_answer (by simp [twoAnswers, twoSent, take, answerArrives]))
    (along_fits (by decide +kernel)) hrun
  exact ⟨_, hrun, by decide +kernel, by decide +kernel, hships⟩

/-- The server answers 503. -/
def failingArgs : StubIngest.Args := { StubIngest.sampleArgs with respondWith := 503 }

theorem stored_once_an_attempt_failing :
    ∃ s, run (sampleStep (samplePoster "s3cret") failingArgs) sampleStart sixAnswers = some s ∧
      s.consumed = [(sampleBatch, .dropped true (.httpStatus 503) 3),
        (secondBatch, .dropped true (.httpStatus 503) 3)] ∧
      s.server.store =
        List.replicate 3 StubIngest.sampleWire ++ List.replicate 3 secondWire ∧
      Ships Uuid.hyphenated (OnceAnAttempt 2 (.httpStatus 503)) s := by
  have hrun := (Option.some_get (show (run (sampleStep (samplePoster "s3cret")
    failingArgs) sampleStart sixAnswers).isSome = true by decide +kernel)).symm
  have hships := stored_once_an_attempt (reaches_sample rfl) rfl
    (show statusAsError failingArgs.respondWith = some (.statusCode 503) by decide)
    (arrives_answer (by simp [sixAnswers, twoSent, take, again, answerArrives]))
    (along_fits (by decide +kernel)) hrun
  exact ⟨_, hrun, by decide +kernel, by decide +kernel, hships⟩

theorem unauthorized_never_stored_six_answers :
    ∃ s, run (sampleStep (samplePoster "guess") StubIngest.sampleArgs) sampleStart sixAnswers =
        some s ∧
      s.consumed = [(sampleBatch, .dropped true (.httpStatus 401) 3),
        (secondBatch, .dropped true (.httpStatus 401) 3)] ∧
      s.server.store = [] := by
  have hrun := (Option.some_get (show (run (sampleStep (samplePoster "guess")
    StubIngest.sampleArgs) sampleStart sixAnswers).isSome = true by decide +kernel)).symm
  obtain ⟨hstore, -⟩ := unauthorized_never_stored (reaches_sample rfl)
    (show (samplePoster "guess").authToken ≠ StubIngest.sampleArgs.authToken by decide)
    rejections_fail hrun
  exact ⟨_, hrun, by decide +kernel, hstore⟩

end Delivery

end PhpAnalyze
