import PhpAnalyze.StubIngest

/-! # From the channel to the store of the server

`Delivery` is the shipper with its HTTP poster, a network and the ingest server.  An attempt of
`run_with_retry` sends one request; the network loses it, breaks it off in its body, or brings
it to the server and may lose the response (`Transmission`).  What `ureq` makes of a status,
`asError`, is a parameter.

The server reads the headers that the poster has set, and stores the batch of every attempt that
reaches it (`transmit_store`); an attempt whose answer arrives counts as sent by the status of
this answer (`transmit_verdict`). -/

namespace PhpAnalyze

open Machine Interaction Msgpack

/-! ### One attempt (`shipper/http.rs`) -/

inductive UreqError where
  | statusCode (code : UInt16)
  | timeout
  | connectionFailed
  | tls
  | other
deriving DecidableEq, Repr

def mapUreqError : UreqError → DropReason
  | .statusCode code => .httpStatus code
  | .timeout => .timeout
  | .connectionFailed => .connectRefused
  | .tls => .tlsError
  | .other => .transport

/-- The closure `attempt` of `handle`, from what `send` returns. -/
def attemptOutcome : Except UreqError Unit → AttemptOutcome
  | .ok _ => .sent
  | .error err => .failed (mapUreqError err)

/-- The wire form of a batch whose encoding has read this count. -/
def wireForm (uuidToString : TraceId → String) (batch : PendingBatch) (droppedRecords : ℕ) :
    Wire.Batch where
  metaFull := metaPartialToWire uuidToString batch.metaPartial droppedRecords
  dict := batch.dict.map dictEntryToWire
  calls := batch.calls.map callRecordToWire

theorem batchToWire_eq (uuidToString : TraceId → String) (s : Shared) (batch : PendingBatch) :
    batchToWire uuidToString s batch =
      wireForm uuidToString batch (s.dropCounters batch.dropCounter) := rfl

/-- `rmp_serde` on both sides of the wire. -/
structure WireCodec extends Codec where
  /-- `rmp_serde::from_slice::<Batch>` on the side of the server. -/
  decode : List UInt8 → Option Wire.Batch
  /-- Maps of named fields are read; what else serde accepts is left open. -/
  named : ∀ {bytes wire}, decodeBatch toCodec bytes = some wire → decode bytes = some wire

def encodedBytes (codec : WireCodec) (uuidToString : TraceId → String) (batch : PendingBatch)
    (droppedRecords : ℕ) : Option (List UInt8) :=
  codec.toVec (wireForm uuidToString batch droppedRecords).toValue

/-! ### The network -/

/-- What `ureq` and the connection add to a request; the headers in front of it are others. -/
structure Arrival (Addr : Type) where
  before : List (String × String)
  after : List (String × String)
  remoteAddr : Option Addr
  capture : StubIngest.CaptureWrite
  before_others : ∀ h ∈ before, Text.eqIgnoreAsciiCase h.1 "Authorization" = false ∧
    Text.eqIgnoreAsciiCase h.1 "Content-Type" = false

/-- What becomes of a request within its attempt.  None arrives later. -/
inductive Transmission (Addr : Type) where
  | lost (err : UreqError)
  | cut (arrival : Arrival Addr) (err : UreqError)
  /-- The server answers it; `some err` if the client does not get the answer. -/
  | answered (arrival : Arrival Addr) (lost : Option UreqError)

/-- The request as the server reads it; the target is the path and query of the URL. -/
def Arrival.event {Addr : Type} (arrival : Arrival Addr) (target : String)
    (headers : List (String × String)) (body : Option (List UInt8)) :
    StubIngest.Event Addr where
  request :=
    { method := .post
      url := target
      headers := arrival.before ++ headers ++ arrival.after
      remoteAddr := arrival.remoteAddr
      body }
  capture := arrival.capture

section transmission

variable {Addr : Type} [DecidableEq Addr] (codec : WireCodec) (args : StubIngest.Args)
  (target : String) (asError : ℕ → Option UreqError)

def received (lost : Option UreqError) (reply : StubIngest.Reply) : Except UreqError Unit :=
  match lost with
  | some err => .error err
  | none =>
      match asError reply.status with
      | some err => .error err
      | none => .ok ()

/-- The verdict of the attempt, and the server after it. -/
def transmit (server : StubIngest.State Addr) (request : HttpRequest) :
    Transmission Addr → AttemptOutcome × StubIngest.State Addr
  | .lost err => (attemptOutcome (.error err), server)
  | .cut arrival err =>
      (attemptOutcome (.error err),
        (StubIngest.dispatch codec.decode args server
          (arrival.event target request.headers none)).2)
  | .answered arrival lost =>
      let (reply, server) := StubIngest.dispatch codec.decode args server
        (arrival.event target request.headers (some request.body))
      (attemptOutcome (received asError lost reply), server)

end transmission

/-! ### What the server makes of an attempt -/

section attempt

variable {Addr : Type} {codec : WireCodec} {args : StubIngest.Args}
  {target : String} {asError : ℕ → Option UreqError} {poster : RmpEncodeAndHttpPost}
  {arrival : Arrival Addr} {body : Option (List UInt8)} {encoded : List UInt8}

theorem findHeaderValue_others {before : List (String × String)} {name : String}
    (h : ∀ x ∈ before, Text.eqIgnoreAsciiCase x.1 name = false)
    (rest : List (String × String)) :
    StubIngest.findHeaderValue (before ++ rest) name = StubIngest.findHeaderValue rest name := by
  unfold StubIngest.findHeaderValue
  rw [List.find?_append, List.find?_eq_none.mpr fun x hx => by simp [h x hx]]
  rfl

theorem headers_of_arrival (arrival : Arrival Addr) (encoded : List UInt8) :
    let headers := arrival.before ++ (poster.request encoded).headers ++ arrival.after
    StubIngest.findHeaderValue headers "Authorization" = some ("Bearer " ++ poster.authToken) ∧
      StubIngest.findHeaderValue headers "Content-Type" = some mediaType := by
  have hself : Text.eqIgnoreAsciiCase "Authorization" "Authorization" = true := by decide
  have hother : Text.eqIgnoreAsciiCase "Authorization" "Content-Type" = false := by decide
  have htype : Text.eqIgnoreAsciiCase "Content-Type" "Content-Type" = true := by decide
  dsimp only
  rw [List.append_assoc,
    findHeaderValue_others fun x hx => (arrival.before_others x hx).1,
    findHeaderValue_others fun x hx => (arrival.before_others x hx).2]
  simp [StubIngest.findHeaderValue, RmpEncodeAndHttpPost.request, hself, hother, htype]

theorem validateBearer_arrival (arrival : Arrival Addr) (encoded : List UInt8)
    (configured : String) :
    StubIngest.validateBearer
        (arrival.before ++ (poster.request encoded).headers ++ arrival.after) configured =
      (poster.authToken == configured) := by
  unfold StubIngest.validateBearer
  rw [(headers_of_arrival arrival encoded).1]
  simp only [Text.stripPrefix_append]

theorem validateContentType_arrival (arrival : Arrival Addr) (encoded : List UInt8) :
    StubIngest.validateContentType
        (arrival.before ++ (poster.request encoded).headers ++ arrival.after) = true := by
  unfold StubIngest.validateContentType
  rw [(headers_of_arrival arrival encoded).2]
  simp

/-- The target leads to the ingest path. -/
def Reaches (args : StubIngest.Args) (target : String) : Prop :=
  ((Text.split '?' target).head?).getD "" = args.path

theorem isIngest_arrival (hreaches : Reaches args target) :
    (arrival.event target (poster.request encoded).headers body).isIngest args = true :=
  decide_eq_true ⟨rfl, hreaches⟩

theorem valid_arrival (hreaches : Reaches args target) :
    (arrival.event target (poster.request encoded).headers body).valid codec.decode args =
      if poster.authToken = args.authToken then body.bind codec.decode else none := by
  have hbearer : StubIngest.validateBearer
      (arrival.event target (poster.request encoded).headers body).request.headers
        args.authToken = (poster.authToken == args.authToken) :=
    validateBearer_arrival arrival encoded args.authToken
  have htype : StubIngest.validateContentType
      (arrival.event target (poster.request encoded).headers body).request.headers = true :=
    validateContentType_arrival arrival encoded
  unfold StubIngest.Event.valid
  rw [isIngest_arrival hreaches, hbearer, htype]
  by_cases htoken : poster.authToken = args.authToken
  · simp only [htoken, beq_self_eq_true, Bool.and_self, ↓reduceIte]
    rfl
  · simp [htoken]

def Transmission.stores (poster : RmpEncodeAndHttpPost) (args : StubIngest.Args) :
    Transmission Addr → Bool
  | .answered arrival _ =>
      (poster.authToken == args.authToken) &&
        (!args.captureDir || arrival.capture == .written)
  | _ => false

/-- Nothing is lost, and nothing fails on the disk of the server. -/
def Transmission.Arrives (args : StubIngest.Args) (transmission : Transmission Addr) : Prop :=
  ∃ arrival, transmission = .answered arrival none ∧
    (args.captureDir = true → arrival.capture = .written)

variable (codec poster encoded) in
theorem accepted_arrival (hreaches : Reaches args target) (arrival : Arrival Addr)
    (lost : Option UreqError) :
    (arrival.event target (poster.request encoded).headers
        (some encoded)).accepted codec.decode args =
      if (Transmission.answered arrival lost).stores poster args then codec.decode encoded
      else none := by
  have hcapture : (arrival.event target (poster.request encoded).headers
      (some encoded)).capture = arrival.capture := rfl
  unfold StubIngest.Event.accepted Transmission.stores
  rw [valid_arrival hreaches, Option.bind_some, hcapture]
  by_cases htoken : poster.authToken = args.authToken
  · cases args.captureDir with
    | false => simp [htoken]
    | true => by_cases hwrite : arrival.capture = .written <;> simp [htoken, hwrite]
  · simp [htoken]

variable [DecidableEq Addr]

variable (codec asError poster encoded) in
/-- **The store after an attempt.** -/
theorem transmit_store (hreaches : Reaches args target) (server : StubIngest.State Addr)
    (transmission : Transmission Addr) :
    (transmit codec args target asError server (poster.request encoded) transmission).2.store =
      server.store ++
        if transmission.stores poster args then (codec.decode encoded).toList else [] := by
  cases transmission with
  | lost err => simp [transmit, Transmission.stores]
  | cut arrival err =>
      have hpath : (arrival.event target (poster.request encoded).headers none).isIngest args =
        true := isIngest_arrival hreaches
      have hvalid : (arrival.event target (poster.request encoded).headers
          none).valid codec.decode args = none := by
        rw [valid_arrival hreaches]
        split <;> rfl
      simp only [transmit, StubIngest.dispatch_of_ingest hpath, StubIngest.handleIngest_snd hpath,
        StubIngest.Event.accepted, hvalid, Transmission.stores]
      simp
  | answered arrival lost =>
      have hpath : (arrival.event target (poster.request encoded).headers
        (some encoded)).isIngest args = true := isIngest_arrival hreaches
      have haccepted := accepted_arrival codec poster encoded hreaches arrival lost
      show (StubIngest.dispatch codec.decode args server (arrival.event target
        (poster.request encoded).headers (some encoded))).2.store = _
      rw [StubIngest.dispatch_of_ingest hpath, StubIngest.handleIngest_snd hpath, haccepted]
      split <;> rfl

def statusVerdict (asError : ℕ → Option UreqError) (status : ℕ) : AttemptOutcome :=
  match asError status with
  | some err => .failed (mapUreqError err)
  | none => .sent

variable (asError) in
/-- **The verdict of an attempt** whose answer arrives. -/
theorem transmit_verdict (hreaches : Reaches args target) (server : StubIngest.State Addr)
    (arrival : Arrival Addr) :
    ∃ status, (transmit codec args target asError server (poster.request encoded)
        (.answered arrival none)).1 = statusVerdict asError status ∧
      if (Transmission.answered arrival none).stores poster args ∧
          (codec.decode encoded).isSome then
        status = args.respondWith
      else status ∈ [401, 415, 400, 500] := by
  have hpath : (arrival.event target (poster.request encoded).headers
    (some encoded)).isIngest args = true := isIngest_arrival hreaches
  have haccepted := accepted_arrival codec poster encoded hreaches arrival none
  obtain ⟨hstored, hrejected⟩ := StubIngest.handleIngest_fst codec.decode server hpath
  refine ⟨(StubIngest.handleIngest codec.decode args server (arrival.event target
    (poster.request encoded).headers (some encoded))).1.status, ?_, ?_⟩
  · show attemptOutcome (received asError none (StubIngest.dispatch codec.decode args server
      (arrival.event target (poster.request encoded).headers (some encoded))).1) = _
    rw [StubIngest.dispatch_of_ingest hpath]
    unfold received statusVerdict
    dsimp only
    split
    case h_1 => rfl
    case h_2 => rfl
  · split
    case isTrue hstores =>
      rw [if_pos hstores.1] at haccepted
      rw [hstored (haccepted ▸ hstores.2)]
      rfl
    case isFalse hstores =>
      refine (hrejected ?_).1
      rw [haccepted, ite_eq_right_iff]
      intro h
      exact Option.not_isSome_iff_eq_none.mp fun hdecode => hstores ⟨h, hdecode⟩

variable (codec args target asError) in
theorem transmit_failed (server : StubIngest.State Addr) (request : HttpRequest)
    {transmission : Transmission Addr} (h : ∀ arrival, transmission ≠ .answered arrival none) :
    ∃ reason, (transmit codec args target asError server request transmission).1 =
      .failed reason := by
  cases transmission with
  | lost err => exact ⟨_, rfl⟩
  | cut arrival err => exact ⟨_, rfl⟩
  | answered arrival lost =>
      cases lost with
      | none => exact absurd rfl (h arrival)
      | some err => exact ⟨_, rfl⟩

/-- **What counts as sent is stored**, if a rejection does not count as sent. -/
theorem stores_of_sent (hreaches : Reaches args target)
    (herror : ∀ status ∈ [401, 415, 400, 500], asError status ≠ none)
    {server : StubIngest.State Addr} {transmission : Transmission Addr}
    (hsent : (transmit codec args target asError server (poster.request encoded)
      transmission).1 = .sent) : transmission.stores poster args = true := by
  by_cases hanswered : ∃ arrival, transmission = .answered arrival none
  · obtain ⟨arrival, rfl⟩ := hanswered
    obtain ⟨status, hverdict, hstatus⟩ := transmit_verdict asError hreaches server arrival
    split at hstatus
    case isTrue hstores => exact hstores.1
    case isFalse =>
      obtain ⟨err, herr⟩ := Option.ne_none_iff_exists'.mp (herror status hstatus)
      rw [hverdict, statusVerdict, herr] at hsent
      cases hsent
  · obtain ⟨reason, hfailed⟩ := transmit_failed codec args target asError server
      (poster.request encoded) fun arrival h => hanswered ⟨arrival, h⟩
    rw [hfailed] at hsent
    cases hsent

end attempt

/-! ### The system -/

structure Delivery (Addr : Type) extends HttpShipper where
  server : StubIngest.State Addr
  /-- The verdicts on the attempts of the current `handle`, and whether the server has stored
  the batch in it. -/
  exchanges : List (AttemptOutcome × Bool)

inductive DeliveryEvent (Addr : Type) where
  | shipper (e : HttpEvent)
  | attempt (transmission : Transmission Addr)
  /-- Somebody looks at a debug endpoint. -/
  | visit (e : StubIngest.Event Addr)

namespace Delivery

section step

variable {Addr : Type} [DecidableEq Addr] (uuidToString : TraceId → String) (codec : WireCodec)
  (poster : RmpEncodeAndHttpPost) (d : Instant) (args : StubIngest.Args) (target : String)
  (asError : ℕ → Option UreqError)

def start (shared : Shared) (files : String → Option (List UInt8)) : Delivery Addr where
  toHttpShipper := .start shared
  server := StubIngest.start files
  exchanges := []

def pending (s : Delivery Addr) : Option HttpRequest :=
  match s.program, s.pc with
  | some (.ask (.attempt _) _), .handling batch _ droppedRecords =>
      (encodedBytes codec uuidToString batch droppedRecords).map poster.request
  | _, _ => none

/-- The encoder decides what `encode_batch` returns, and an attempt is a transmission. -/
def agrees (s : Delivery Addr) : HttpEvent → Bool
  | .consumption (.encode ok) =>
      match s.pc with
      | .consuming batch _ =>
          ok = (encodedBytes codec uuidToString batch
            (s.shared.dropCounters batch.dropCounter)).isSome
      | _ => false
  | .call _ =>
      match s.program with
      | some (.ask (.attempt _) _) => false
      | _ => true
  | _ => true

def shipperStep (s : HttpShipper) (e : HttpEvent) : Option HttpShipper :=
  s.step (poster.noticeEnv uuidToString) poster.retryCount poster.retryBackoffMs d e

def step (s : Delivery Addr) : DeliveryEvent Addr → Option (Delivery Addr)
  | .shipper e =>
      if s.agrees uuidToString codec e then
        (shipperStep uuidToString poster d s.toHttpShipper e).map fun shipper =>
          { s with
            toHttpShipper := shipper
            exchanges := if e = .finish then [] else s.exchanges }
      else none
  | .attempt transmission =>
      (s.pending uuidToString codec poster).bind fun request =>
        let (verdict, server) := transmit codec args target asError s.server request transmission
        (shipperStep uuidToString poster d s.toHttpShipper (.call verdict)).map fun shipper =>
          { s with
            toHttpShipper := shipper
            server
            exchanges := s.exchanges ++
              [(verdict, decide (s.server.store.length < server.store.length))] }
  | .visit e =>
      if e.request.method = .post then none
      else some { s with server := (StubIngest.dispatch codec.decode args s.server e).2 }

inductive Step (s : Delivery Addr) : DeliveryEvent Addr → Delivery Addr → Prop
  | around {e c} (hencode : e ≠ .encode true) (honBatch : ∀ outcome, e ≠ .onBatch outcome)
      (h : s.toConsumption.step (poster.noticeEnv uuidToString) e = some c) :
      Step s (.shipper (.consumption e)) { s with toConsumption := c }
  | handle {batch deadline bytes c} (hpc : s.pc = .consuming batch deadline)
      (hbytes : encodedBytes codec uuidToString batch
        (s.shared.dropCounters batch.dropCounter) = some bytes)
      (h : s.toConsumption.step (poster.noticeEnv uuidToString) (.encode true) = some c) :
      Step s (.shipper (.consumption (.encode true)))
        { s with
          toConsumption := c
          program := some (runWithRetry poster.retryCount poster.retryBackoffMs)
          iteration := [] }
  | call {q next} (verdict) (hquiet : ∀ i, q ≠ .attempt i)
      (hprogram : s.program = some (.ask q next)) :
      Step s (.shipper (.call verdict))
        { s with
          program := some (next (s.answer verdict q))
          iteration := s.iterationAfter verdict q
          launches := s.launches ++ s.launchesOf q }
  | attempt {i next batch deadline droppedRecords bytes verdict server} (transmission)
      (hprogram : s.program = some (.ask (.attempt i) next))
      (hpc : s.pc = .handling batch deadline droppedRecords)
      (hbytes : encodedBytes codec uuidToString batch droppedRecords = some bytes)
      (htransmit : transmit codec args target asError s.server (poster.request bytes)
        transmission = (verdict, server)) :
      Step s (.attempt transmission)
        { s with
          program := some (next verdict)
          iteration := s.iterationAfter verdict (.attempt i)
          launches := s.launches ++ s.launchesOf (.attempt i)
          server
          exchanges := s.exchanges ++
            [(verdict, decide (s.server.store.length < server.store.length))] }
  | finish {outcome c} (hprogram : s.program = some (.ret (some outcome)))
      (h : s.toConsumption.step (poster.noticeEnv uuidToString) (.onBatch outcome) = some c) :
      Step s (.shipper .finish)
        { s with toConsumption := c, program := none, iteration := [], exchanges := [] }
  | visit {e} (hmethod : e.request.method ≠ .post) :
      Step s (.visit e) { s with server := (StubIngest.dispatch codec.decode args s.server e).2 }

variable {uuidToString codec poster d args target asError}

/-- **The six cases of a step.** -/
theorem step_cases {s s' : Delivery Addr} {e : DeliveryEvent Addr}
    (h : s.step uuidToString codec poster d args target asError e = some s') :
    Step uuidToString codec poster args target asError s e s' := by
  cases e with
  | shipper e =>
      simp only [step, shipperStep] at h
      split at h
      case isTrue hagrees =>
        obtain ⟨shipper, hstep, rfl⟩ := Option.map_eq_some_iff.mp h
        cases HttpShipper.step_cases hstep with
        | around hdeadline hencode hc =>
            exact .around hencode (not_onBatch_of_agrees hdeadline) hc
        | handle hc =>
            cases Consumption.step_cases hc with
            | @encode batch deadline hpc =>
                simp only [agrees, hpc, decide_eq_true_eq] at hagrees
                obtain ⟨bytes, hbytes⟩ := Option.isSome_iff_exists.mp hagrees.symm
                exact .handle hpc hbytes hc
        | @call q next verdict hprogram =>
            refine .call verdict ?_ hprogram
            rintro i rfl
            simp [agrees, hprogram] at hagrees
        | finish hprogram hc => exact .finish hprogram hc
      case isFalse => cases h
  | attempt transmission =>
      obtain ⟨request, hpending, hrest⟩ := Option.bind_eq_some_iff.mp h
      obtain ⟨shipper, hstep, rfl⟩ := Option.map_eq_some_iff.mp hrest
      unfold pending at hpending
      split at hpending
      case h_1 hprogram hpc =>
        obtain ⟨bytes, hbytes, rfl⟩ := Option.map_eq_some_iff.mp hpending
        cases HttpShipper.step_cases hstep with
        | call verdict hprogram' =>
            rw [hprogram] at hprogram'
            cases hprogram'
            exact .attempt transmission hprogram hpc hbytes rfl
      case h_2 => cases hpending
  | visit e =>
      simp only [step] at h
      split at h
      case isTrue => cases h
      case isFalse hmethod =>
        cases h
        exact .visit hmethod

theorem exists_httpShipper_run {shared : Shared} {files : String → Option (List UInt8)}
    {es : List (DeliveryEvent Addr)} {s : Delivery Addr}
    (h : run (step uuidToString codec poster d args target asError) (start shared files) es =
      some s) :
    ∃ fs, run (HttpShipper.step (poster.noticeEnv uuidToString) poster.retryCount
      poster.retryBackoffMs d) (.start shared) fs = some s.toHttpShipper := by
  refine run_invariant (I := fun s : Delivery Addr => ∃ fs, run (HttpShipper.step
    (poster.noticeEnv uuidToString) poster.retryCount poster.retryBackoffMs d) (.start shared) fs =
      some s.toHttpShipper) ?_ h ⟨[], rfl⟩
  rintro s e s' hstep ⟨fs, hfs⟩
  cases e with
  | shipper e =>
      simp only [step, shipperStep] at hstep
      split at hstep
      case isTrue =>
        obtain ⟨shipper, hshipper, rfl⟩ := Option.map_eq_some_iff.mp hstep
        exact ⟨fs ++ [e], run_snoc_eq_some.mpr ⟨_, hfs, hshipper⟩⟩
      case isFalse => cases hstep
  | attempt transmission =>
      obtain ⟨request, -, hrest⟩ := Option.bind_eq_some_iff.mp hstep
      obtain ⟨shipper, hshipper, rfl⟩ := Option.map_eq_some_iff.mp hrest
      exact ⟨_, run_snoc_eq_some.mpr ⟨_, hfs, hshipper⟩⟩
  | visit e =>
      simp only [step] at hstep
      split at hstep
      case isTrue => cases hstep
      case isFalse =>
        cases hstep
        exact ⟨fs, hfs⟩

end step

end Delivery

end PhpAnalyze
