import Mathlib.Data.Finset.Card
import Mathlib.Data.Finset.Insert
import Mathlib.Data.List.DropRight
import PhpAnalyze.Lib.Numerals
import PhpAnalyze.Lib.Text
import PhpAnalyze.Poster
import PhpAnalyze.WireFormat

/-! # The ingest server (`stub-ingest/src/main.rs`)

`dispatch` answers one request: it is ingested, or one of the debug endpoints shows or resets
what has been ingested.  The addresses of the clients are of any type; what the file system
makes of a captured body is part of the event (`CaptureWrite`).

* The server handles one request at a time, and no handler panics while it holds a lock, so no
  lock is ever poisoned.
* A debug endpoint answers JSON; `Body` is what is in it.
* `decode` is `rmp_serde::from_slice::<Batch>`, whatever bodies it accepts.

What the server knows is a function of the requests since the last reset
(`stub_remembers_since_reset`), and every batch that it ever stored has a capture file of its
own (`stored_batches_captured`). -/

namespace PhpAnalyze

open Machine Msgpack

namespace StubIngest

inductive Method where
  | get
  | post
  | other (name : String)
deriving DecidableEq, Repr

structure Request (Addr : Type) where
  method : Method
  url : String
  headers : List (String × String)
  remoteAddr : Option Addr
  /-- `none` if `read_to_end` fails. -/
  body : Option (List UInt8)
deriving DecidableEq

structure Args where
  authToken : String
  path : String
  respondWith : ℕ
  simulateSlow : ℕ
  /-- Is there a `--capture-dir`? -/
  captureDir : Bool

/-- The JSON of a debug endpoint; the other answers have no body. -/
inductive Body where
  | empty
  | batches (snapshot : List Wire.Batch)
  | headers (pairs : List (String × String))
  | count (count : ℕ)
deriving DecidableEq

structure Reply where
  status : ℕ
  body : Body
  /-- What `respond_status` writes to stderr after the status. -/
  reason : Option String
  /-- The milliseconds that the handler sleeps before it answers. -/
  slept : ℕ
deriving DecidableEq

/-- The result of `fs::write`; a write that fails may leave something in the file. -/
inductive CaptureWrite where
  | written
  | failed (left : Option (List UInt8))
deriving DecidableEq

structure State (Addr : Type) where
  store : List Wire.Batch
  lastHeaders : Option (List (String × String))
  connections : Finset Addr
  captureCounter : ℕ
  files : String → Option (List UInt8)

/-- A request, and what becomes of its capture. -/
structure Event (Addr : Type) where
  request : Request Addr
  capture : CaptureWrite

def respondEmpty (status : ℕ) : Reply where
  status := status
  body := .empty
  reason := none
  slept := 0

def respondStatus (status : ℕ) (reason : String) : Reply :=
  { respondEmpty status with reason := some reason }

def respondJson (body : Body) : Reply := { respondEmpty 200 with body }

/-! ### Ingest -/

def findHeaderValue (headers : List (String × String)) (name : String) : Option String :=
  (headers.find? fun h => Text.eqIgnoreAsciiCase h.1 name).map Prod.snd

def validateBearer (headers : List (String × String)) (configured : String) : Bool :=
  match findHeaderValue headers "Authorization" with
  | none => false
  | some value =>
      match Text.stripPrefix "Bearer " value with
      | none => false
      | some presented => presented == configured

def validateContentType (headers : List (String × String)) : Bool :=
  match findHeaderValue headers "Content-Type" with
  | none => false
  | some value => value == mediaType

/-- `batch-{n:04}.msgpack`. -/
def captureFilename (n : ℕ) : String :=
  "batch-" ++ String.ofList (List.leftpad 4 '0' (Nat.toDigits 10 n)) ++ ".msgpack"

/-- The number of a capture can be read off its file name. -/
theorem captureFilename_inj {n m : ℕ} (h : captureFilename n = captureFilename m) : n = m := by
  have hread : ∀ n : ℕ,
      Numerals.digitsFrom 0 (List.leftpad 4 '0' (Nat.toDigits 10 n)) = n := by
    intro n
    have hzeros : ∀ k cs, Numerals.digitsFrom 0 (List.replicate k '0' ++ cs) =
        Numerals.digitsFrom 0 cs := by
      intro k cs
      induction k with
      | zero => rfl
      | succ k ih =>
          rw [List.replicate_succ, List.cons_append, Numerals.digitsFrom_cons]
          exact ih
    have hdigits := Numerals.digitsFrom_renderDigits n
    rw [Digits.renderDigits, String.toList_ofList] at hdigits
    rw [List.leftpad, hzeros, hdigits]
  have hchars := congrArg String.toList h
  simp only [captureFilename, String.toList_append, String.toList_ofList,
    List.append_cancel_right_eq, List.append_cancel_left_eq] at hchars
  rw [← hread n, ← hread m, hchars]

section server

variable {Addr : Type} [DecidableEq Addr]

/-- A request without an address is not counted. -/
def recordConnection (s : State Addr) (remoteAddr : Option Addr) : State Addr :=
  match remoteAddr with
  | none => s
  | some addr => { s with connections := insert addr s.connections }

/-- The counter stays where it is when the write fails. -/
def writeCapturedBatch (s : State Addr) (body : List UInt8) (capture : CaptureWrite) :
    Bool × State Addr :=
  let n := s.captureCounter + 1
  let filename := captureFilename n
  match capture with
  | .written =>
      (true, { s with
        captureCounter := n
        files := Function.update s.files filename (some body) })
  | .failed none => (false, { s with captureCounter := n })
  | .failed (some left) =>
      (false, { s with
        captureCounter := n
        files := Function.update s.files filename (some left) })

variable (decode : List UInt8 → Option Wire.Batch) (args : Args)

def handleIngest (s : State Addr) (e : Event Addr) : Reply × State Addr :=
  -- before any validation, so that a rejected request is seen too
  let s := { s with lastHeaders := some e.request.headers }
  let s := recordConnection s e.request.remoteAddr
  if !validateBearer e.request.headers args.authToken then
    (respondStatus 401 "missing or invalid bearer token", s)
  else if !validateContentType e.request.headers then
    (respondStatus 415 "wrong content-type", s)
  else
    match e.request.body with
    | none => (respondStatus 400 "body read failure", s)
    | some body =>
        match decode body with
        | none => (respondStatus 400 "msgpack decode failure", s)
        | some batch =>
            let (captured, s) :=
              if args.captureDir then writeCapturedBatch s body e.capture else (true, s)
            if captured then
              ({ respondEmpty args.respondWith with slept := args.simulateSlow },
                { s with store := s.store ++ [batch] })
            else (respondStatus 500 "capture write failed", s)

/-! ### Debug endpoints and dispatch -/

def handleDebugBatches (s : State Addr) : Reply := respondJson (.batches s.store)

def handleDebugLastRequestHeaders (s : State Addr) : Reply :=
  match s.lastHeaders with
  | none => respondEmpty 404
  | some pairs => respondJson (.headers pairs)

def handleDebugConnectionCount (s : State Addr) : Reply :=
  respondJson (.count s.connections.card)

def handleDebugReset (s : State Addr) : Reply × State Addr :=
  (respondEmpty 200, { s with store := [], lastHeaders := none, connections := ∅ })

/-- The URL up to its query. -/
def Request.path (request : Request Addr) : String :=
  ((Text.split '?' request.url).head?).getD ""

def Method.name : Method → String
  | .get => "GET"
  | .post => "POST"
  | .other name => name

def dispatch (s : State Addr) (e : Event Addr) : Reply × State Addr :=
  let method := e.request.method
  let path := e.request.path
  if method = .post ∧ path = args.path then handleIngest decode args s e
  else if method = .get ∧ path = "/debug/batches" then (handleDebugBatches s, s)
  else if method = .get ∧ path = "/debug/last_request_headers" then
    (handleDebugLastRequestHeaders s, s)
  else if method = .get ∧ path = "/debug/connection_count" then
    (handleDebugConnectionCount s, s)
  else if method = .post ∧ path = "/debug/reset" then handleDebugReset s
  else if path = args.path then (respondStatus 405 (method.name ++ " " ++ path), s)
  else (respondStatus 404 (method.name ++ " " ++ path), s)

def start (files : String → Option (List UInt8)) : State Addr where
  store := []
  lastHeaders := none
  connections := ∅
  captureCounter := 0
  files := files

/-- `serve`: the requests, one after the other. -/
def serve (s : State Addr) (e : Event Addr) : Option (Reply × State Addr) :=
  some (dispatch decode args s e)

/-! ### What the requests amount to -/

def Event.isIngest (e : Event Addr) : Bool :=
  e.request.method = .post ∧ e.request.path = args.path

def Event.isReset (e : Event Addr) : Bool :=
  !e.isIngest args && (e.request.method = .post ∧ e.request.path = "/debug/reset")

def Event.valid (e : Event Addr) : Option Wire.Batch :=
  if e.isIngest args && validateBearer e.request.headers args.authToken &&
      validateContentType e.request.headers then
    e.request.body.bind (decode)
  else none

def Event.accepted (e : Event Addr) : Option Wire.Batch :=
  if args.captureDir && e.capture != .written then none else e.valid decode args

/-- A capture file is written, or tried. -/
def Event.captures (e : Event Addr) : Bool := args.captureDir && (e.valid decode args).isSome

/-- What the write leaves in its file. -/
def Event.captured (e : Event Addr) : Option (List UInt8) :=
  match e.capture with
  | .written => e.request.body
  | .failed left => left

/-- The requests after the last reset. -/
def sinceReset (log : List (Event Addr)) : List (Event Addr) :=
  log.rtakeWhile fun e => !e.isReset args

/-- The capture files after the request, when `n` numbers are used up. -/
def Event.writes (e : Event Addr) (n : ℕ) (files : String → Option (List UInt8)) :
    String → Option (List UInt8) :=
  if e.captures decode args then
    match e.captured with
    | none => files
    | some body => Function.update files (captureFilename (n + 1)) (some body)
  else files

def filesAfter (n : ℕ) (files : String → Option (List UInt8)) :
    List (Event Addr) → String → Option (List UInt8)
  | [] => files
  | e :: log =>
      filesAfter (n + (e.captures decode args).toNat) (e.writes decode args n files) log

/-- What the server remembers of the requests. -/
def remembers (files : String → Option (List UInt8)) (log : List (Event Addr)) : State Addr where
  store := (sinceReset args log).filterMap (Event.accepted decode args)
  lastHeaders :=
    (((sinceReset args log).filter (Event.isIngest args)).getLast?).map fun e => e.request.headers
  connections :=
    (((sinceReset args log).filter (Event.isIngest args)).filterMap
      fun e => e.request.remoteAddr).toFinset
  captureCounter := log.countP (Event.captures decode args)
  files := filesAfter decode args 0 files log

/-! ### One request -/

def seen (s : State Addr) (e : Event Addr) : State Addr :=
  recordConnection { s with lastHeaders := some e.request.headers } e.request.remoteAddr

variable {decode args} {s : State Addr} {e : Event Addr}

theorem seen_eq (s : State Addr) (e : Event Addr) :
    seen s e =
      { s with
        lastHeaders := some e.request.headers
        connections := e.request.remoteAddr.toList.foldr insert s.connections } := by
  unfold seen recordConnection
  cases e.request.remoteAddr <;> rfl

theorem handleIngest_of_invalid (hpath : e.isIngest args = true)
    (h : e.valid decode args = none) :
    ∃ status reason, handleIngest decode args s e = (respondStatus status reason, seen s e) ∧
      status ∈ [401, 415, 400] := by
  unfold Event.valid at h
  unfold handleIngest
  cases hbearer : validateBearer e.request.headers args.authToken with
  | false => exact ⟨401, _, rfl, by simp⟩
  | true =>
      cases htype : validateContentType e.request.headers with
      | false => exact ⟨415, _, rfl, by simp⟩
      | true =>
          rw [hpath, hbearer, htype] at h
          cases hbody : e.request.body with
          | none => exact ⟨400, _, rfl, by simp⟩
          | some body =>
              have hdecode : decode body = none := by simpa [hbody] using h
              refine ⟨400, "msgpack decode failure", ?_, by simp⟩
              simp only [Bool.not_true, Bool.false_eq_true, ↓reduceIte, hdecode]
              rfl

omit [DecidableEq Addr] in
theorem valid_eq_some {batch : Wire.Batch} (h : e.valid decode args = some batch) :
    e.isIngest args = true ∧ validateBearer e.request.headers args.authToken = true ∧
      validateContentType e.request.headers = true ∧
      ∃ body, e.request.body = some body ∧ decode body = some batch := by
  unfold Event.valid at h
  split at h
  case isTrue hvalid =>
    obtain ⟨⟨hpath, hbearer⟩, htype⟩ : (_ ∧ _) ∧ _ := by simpa using hvalid
    exact ⟨hpath, hbearer, htype, Option.bind_eq_some_iff.mp h⟩
  case isFalse => cases h

theorem handleIngest_of_valid {batch : Wire.Batch} (h : e.valid decode args = some batch) :
    handleIngest decode args s e =
      (if (e.accepted decode args).isSome then
          { respondEmpty args.respondWith with slept := args.simulateSlow }
        else respondStatus 500 "capture write failed",
        { seen s e with
          store := s.store ++ (e.accepted decode args).toList
          captureCounter := s.captureCounter + (e.captures decode args).toNat
          files := e.writes decode args s.captureCounter s.files }) := by
  obtain ⟨hpath, hbearer, htype, body, hbody, hdecode⟩ := valid_eq_some h
  have hseen : recordConnection { s with lastHeaders := some e.request.headers }
      e.request.remoteAddr = seen s e := rfl
  unfold handleIngest
  simp only [hseen, seen_eq, hbearer, htype, hbody, hdecode, Event.accepted, Event.captures,
    Event.writes, h]
  cases hdir : args.captureDir with
  | false => simp
  | true =>
      cases hcapture : e.capture with
      | written => simp [writeCapturedBatch, hcapture, Event.captured, hbody]
      | failed left => cases left <;> simp [writeCapturedBatch, hcapture, Event.captured]

theorem handleIngest_snd (hpath : e.isIngest args = true) :
    (handleIngest decode args s e).2 =
      { seen s e with
        store := s.store ++ (e.accepted decode args).toList
        captureCounter := s.captureCounter + (e.captures decode args).toNat
        files := e.writes decode args s.captureCounter s.files } := by
  cases hvalid : e.valid decode args with
  | none =>
      obtain ⟨status, reason, heq, -⟩ := handleIngest_of_invalid (s := s) hpath hvalid
      rw [heq, seen_eq]
      simp [Event.accepted, Event.captures, Event.writes, hvalid]
  | some batch => rw [handleIngest_of_valid hvalid]

variable (decode s) in
/-- The answer to a request for the ingest path. -/
theorem handleIngest_fst (hpath : e.isIngest args = true) :
    ((e.accepted decode args).isSome = true →
        (handleIngest decode args s e).1 =
          { respondEmpty args.respondWith with slept := args.simulateSlow }) ∧
      (e.accepted decode args = none →
        (handleIngest decode args s e).1.status ∈ [401, 415, 400, 500] ∧
          (handleIngest decode args s e).1.body = .empty) := by
  cases hvalid : e.valid decode args with
  | none =>
      obtain ⟨status, reason, heq, hstatus⟩ := handleIngest_of_invalid (s := s) hpath hvalid
      have hnone : e.accepted decode args = none := by simp [Event.accepted, hvalid]
      refine ⟨fun h => by simp [hnone] at h, fun _ => ?_⟩
      rw [heq]
      refine ⟨?_, rfl⟩
      show status ∈ _
      simp only [List.mem_cons, List.not_mem_nil, or_false] at hstatus ⊢
      omega
  | some batch =>
      rw [handleIngest_of_valid hvalid]
      constructor
      · intro h
        rw [if_pos h]
      · intro h
        rw [h]
        simp [respondStatus, respondEmpty]

variable (decode) in
omit [DecidableEq Addr] in
theorem not_valid_of_not_ingest (hpath : e.isIngest args = false) :
    e.valid decode args = none := by
  simp [Event.valid, hpath]

/-- A request for another path or with another method, when it is no reset, changes nothing. -/
theorem dispatch_of_other (hpath : e.isIngest args = false) (hreset : e.isReset args = false) :
    (dispatch decode args s e).2 = s := by
  unfold Event.isIngest at hpath
  unfold Event.isReset Event.isIngest at hreset
  have hpath' : ¬(e.request.method = .post ∧ e.request.path = args.path) := by simpa using hpath
  unfold dispatch
  dsimp only
  rw [if_neg hpath']
  split
  · rfl
  split
  · rfl
  split
  · rfl
  split
  case isTrue hpost => simp [hpost] at hreset hpath'; exact absurd hreset hpath'
  split <;> rfl

theorem dispatch_of_reset (hreset : e.isReset args = true) :
    dispatch decode args s e = handleDebugReset s := by
  obtain ⟨hpath, hmethod, hurl⟩ : e.isIngest args = false ∧ _ ∧ _ := by
    simpa [Event.isReset] using hreset
  have hpath' : ¬(Method.post = .post ∧ "/debug/reset" = args.path) := by
    simpa [Event.isIngest, hmethod, hurl] using hpath
  unfold dispatch
  dsimp only
  rw [hmethod, hurl, if_neg hpath']
  simp

theorem dispatch_of_ingest (hpath : e.isIngest args = true) :
    dispatch decode args s e = handleIngest decode args s e := by
  unfold dispatch
  exact if_pos (by simpa [Event.isIngest] using hpath)

/-! ### All requests -/

omit [DecidableEq Addr] in
theorem sinceReset_snoc (log : List (Event Addr)) (e : Event Addr) :
    sinceReset args (log ++ [e]) =
      if e.isReset args then [] else sinceReset args log ++ [e] := by
  unfold sinceReset
  rw [List.rtakeWhile_concat]
  cases e.isReset args <;> rfl

variable (decode args) in
omit [DecidableEq Addr] in
theorem filesAfter_snoc (log : List (Event Addr)) (e : Event Addr) (n : ℕ)
    (files : String → Option (List UInt8)) :
    filesAfter decode args n files (log ++ [e]) =
      e.writes decode args (n + log.countP (Event.captures decode args))
        (filesAfter decode args n files log) := by
  induction log generalizing n files with
  | nil => rfl
  | cons e' log ih =>
      rw [List.cons_append, filesAfter, filesAfter, ih, List.countP_cons]
      congr 1
      cases e'.captures decode args <;> simp
      omega

theorem dispatch_remembers (files : String → Option (List UInt8)) (log : List (Event Addr))
    (e : Event Addr) :
    (dispatch decode args (remembers decode args files log) e).2 =
      remembers decode args files (log ++ [e]) := by
  have hcount : (log ++ [e]).countP (Event.captures decode args) =
      log.countP (Event.captures decode args) + (e.captures decode args).toNat := by
    rw [List.countP_append, List.countP_singleton]
    cases e.captures decode args <;> rfl
  have hfiles := filesAfter_snoc decode args log e 0 files
  rw [Nat.zero_add] at hfiles
  cases hpath : e.isIngest args with
  | true =>
      have hreset : e.isReset args = false := by simp [Event.isReset, hpath]
      rw [dispatch_of_ingest hpath, handleIngest_snd hpath, seen_eq]
      unfold remembers
      rw [hcount, hfiles, sinceReset_snoc, hreset]
      cases hstored : e.accepted decode args <;> cases haddr : e.request.remoteAddr <;>
        simp [List.filterMap_append, List.filter_append, hstored, hpath, haddr]
  | false =>
      have hvalid := not_valid_of_not_ingest decode hpath
      have hcaptures : e.captures decode args = false := by simp [Event.captures, hvalid]
      have hstored : e.accepted decode args = none := by simp [Event.accepted, hvalid]
      have hwrites : ∀ n files, e.writes decode args n files = files := by
        intro n files
        simp [Event.writes, hcaptures]
      cases hreset : e.isReset args with
      | true =>
          rw [dispatch_of_reset hreset]
          unfold remembers
          rw [hcount, hfiles, sinceReset_snoc, hreset, hwrites, hcaptures]
          rfl
      | false =>
          rw [dispatch_of_other hpath hreset]
          unfold remembers
          rw [hcount, hfiles, sinceReset_snoc, hreset, hwrites, hcaptures]
          simp [List.filterMap_append, List.filter_append, hstored, hpath]

/-! ### The capture files -/

omit [DecidableEq Addr] in
theorem captured_of_accepted (hdir : args.captureDir = true) {batch : Wire.Batch}
    (h : e.accepted decode args = some batch) :
    e.captures decode args = true ∧ ∃ body, e.captured = some body ∧
      e.request.body = some body ∧ decode body = some batch := by
  unfold Event.accepted at h
  split at h
  case isTrue => cases h
  case isFalse hcapture =>
    have hwritten : e.capture = .written := by simpa [hdir] using hcapture
    obtain ⟨-, -, -, body, hbody, hdecode⟩ := valid_eq_some h
    refine ⟨by simp [Event.captures, hdir, h], body, ?_, hbody, hdecode⟩
    simp only [Event.captured, hwritten, hbody]

/-- The file with the number `n` holds the body of a request, which is a batch. -/
def Holds (decode : List UInt8 → Option Wire.Batch) (files : String → Option (List UInt8)) (n : ℕ)
    (batch : Wire.Batch) : Prop :=
  ∃ body, files (captureFilename n) = some body ∧ decode body = some batch

theorem Holds.update {files : String → Option (List UInt8)} {n m : ℕ} {batch : Wire.Batch}
    (h : Holds decode files n batch) (hne : n ≠ m) (body : Option (List UInt8)) :
    Holds decode (Function.update files (captureFilename m) body) n batch := by
  obtain ⟨held, hfile, hdecode⟩ := h
  refine ⟨held, ?_, hdecode⟩
  rw [Function.update_of_ne fun heq => hne (captureFilename_inj heq)]
  exact hfile

omit [DecidableEq Addr] in
/-- A file is written over only when its own number comes up. -/
theorem writes_eq_update (e : Event Addr) (n : ℕ) (files : String → Option (List UInt8)) :
    e.writes decode args n files = files ∨
      e.captures decode args = true ∧ ∃ body, e.captured = some body ∧
        e.writes decode args n files =
          Function.update files (captureFilename (n + 1)) (some body) := by
  unfold Event.writes
  split
  case isFalse => exact .inl rfl
  case isTrue hcaptures =>
    cases hbody : e.captured with
    | none => exact .inl rfl
    | some body => exact .inr ⟨hcaptures, body, rfl, rfl⟩

/-- The files of the stored batches, by their numbers `ns`. -/
structure Captured (decode : List UInt8 → Option Wire.Batch) (args : Args)
    (files : String → Option (List UInt8)) (log : List (Event Addr)) (ns : List ℕ) : Prop where
  increasing : ns.Pairwise (· < ·)
  counted : ∀ n ∈ ns, n ≤ log.countP (Event.captures decode args)
  holds : List.Forall₂ (Holds decode (filesAfter decode args 0 files log)) ns
    (log.filterMap (Event.accepted decode args))
  only : (∀ n, files (captureFilename n) = none) →
    (∀ e ∈ log, ∀ left, e.capture ≠ .failed (some left)) →
      ∀ n, filesAfter decode args 0 files log (captureFilename n) ≠ none → n ∈ ns

omit [DecidableEq Addr] in
theorem Captured.snoc_rejected {files : String → Option (List UInt8)} {log : List (Event Addr)}
    {ns : List ℕ} (h : Captured decode args files log ns) (hdir : args.captureDir = true)
    (hstored : e.accepted decode args = none) : Captured decode args files (log ++ [e]) ns := by
  have hsnoc := filesAfter_snoc decode args log e 0 files
  rw [Nat.zero_add] at hsnoc
  refine ⟨h.increasing, fun n hn => ?_, ?_, fun hempty hclean n hfile => ?_⟩
  · rw [List.countP_append]
    exact (h.counted n hn).trans (Nat.le_add_right _ _)
  · rw [hsnoc, List.filterMap_append, List.filterMap_cons_none hstored, List.filterMap_nil,
      List.append_nil]
    rcases writes_eq_update e _ _ with heq | ⟨-, body, -, heq⟩
    · rw [heq]
      exact h.holds
    · rw [heq]
      refine (List.forall₂_and_left (p := fun n => n ≤ log.countP (Event.captures decode args))
        ns _).mpr ⟨h.counted, h.holds⟩ |>.imp ?_
      rintro n batch ⟨hn, hholds⟩
      exact hholds.update (by omega) _
  · rw [hsnoc] at hfile
    refine h.only hempty (fun e' he' => hclean e' (List.mem_append_left _ he')) n ?_
    rcases writes_eq_update e _ _ with heq | ⟨hcaptures, body, hbody, heq⟩
    · rwa [heq] at hfile
    · -- a capture that fails would have left something
      exfalso
      have hvalid : (e.valid decode args).isSome = true := by
        simpa [Event.captures, hdir] using hcaptures
      obtain ⟨batch, hbatch⟩ := Option.isSome_iff_exists.mp hvalid
      cases hcapture : e.capture with
      | written => simp [Event.accepted, hcapture, hbatch] at hstored
      | failed left =>
          have hleft : left = some body := by simpa [Event.captured, hcapture] using hbody
          exact hclean e (by simp) body (hleft ▸ hcapture)

omit [DecidableEq Addr] in
theorem Captured.snoc_stored {files : String → Option (List UInt8)} {log : List (Event Addr)}
    {ns : List ℕ} (h : Captured decode args files log ns) (hdir : args.captureDir = true)
    {batch : Wire.Batch} (hstored : e.accepted decode args = some batch) :
    Captured decode args files (log ++ [e])
      (ns ++ [log.countP (Event.captures decode args) + 1]) := by
  obtain ⟨hcaptures, body, hbody, -, hdecode⟩ := captured_of_accepted hdir hstored
  have hsnoc := filesAfter_snoc decode args log e 0 files
  rw [Nat.zero_add] at hsnoc
  have hwrites : ∀ n files, e.writes decode args n files =
      Function.update files (captureFilename (n + 1)) (some body) := by
    intro n files
    rw [Event.writes, if_pos hcaptures, hbody]
  rw [hwrites] at hsnoc
  have hcount : (log ++ [e]).countP (Event.captures decode args) =
      log.countP (Event.captures decode args) + 1 := by
    rw [List.countP_append, List.countP_singleton, if_pos hcaptures]
  refine ⟨?_, fun n hn => ?_, ?_, fun hempty hclean n hfile => ?_⟩
  · refine List.pairwise_append.mpr ⟨h.increasing, List.pairwise_singleton _ _, ?_⟩
    intro n hn m hm
    have := h.counted n hn
    rw [List.mem_singleton] at hm
    omega
  · rw [hcount]
    rcases List.mem_append.mp hn with hold | hnew
    · have := h.counted n hold
      omega
    · rw [List.mem_singleton] at hnew
      omega
  · rw [hsnoc, List.filterMap_append, List.filterMap_cons_some hstored, List.filterMap_nil]
    refine List.rel_append ?_ (.cons ⟨body, ?_, hdecode⟩ .nil)
    · refine (List.forall₂_and_left (p := fun n => n ≤ log.countP (Event.captures decode args))
        ns _).mpr ⟨h.counted, h.holds⟩ |>.imp ?_
      rintro n batch ⟨hn, hholds⟩
      exact hholds.update (by omega) _
    · rw [Function.update_self]
  · rw [hsnoc] at hfile
    by_cases hn : n = log.countP (Event.captures decode args) + 1
    · exact List.mem_append_right _ (List.mem_singleton.mpr hn)
    · rw [Function.update_of_ne fun heq => hn (captureFilename_inj heq)] at hfile
      exact List.mem_append_left _ (h.only hempty
        (fun e' he' => hclean e' (List.mem_append_left _ he')) n hfile)

omit [DecidableEq Addr] in
theorem exists_captured (hdir : args.captureDir = true)
    (files : String → Option (List UInt8)) (log : List (Event Addr)) :
    ∃ ns, Captured decode args files log ns := by
  induction log using List.reverseRecOn with
  | nil =>
      refine ⟨[], ⟨.nil, by simp, .nil, fun hempty _ n hfile => ?_⟩⟩
      exact absurd (hempty n) hfile
  | append_singleton log e ih =>
      obtain ⟨ns, h⟩ := ih
      cases hstored : e.accepted decode args with
      | none => exact ⟨ns, h.snoc_rejected hdir hstored⟩
      | some batch => exact ⟨_, h.snoc_stored hdir hstored⟩

variable (decode args)

theorem run_serve (files : String → Option (List UInt8)) (log : List (Event Addr)) :
    run (moves (serve decode args)) (start files) log = some (remembers decode args files log) := by
  induction log using List.reverseRecOn with
  | nil => simp [remembers, start, sinceReset, filesAfter]
  | append_singleton log e ih =>
      rw [run_snoc, ih, ← dispatch_remembers]
      rfl

/-- **The server knows exactly what it was asked since the last reset.**  For all requests in any
order: the store holds the batches that were accepted since the last reset, in order;
`/debug/last_request_headers` shows the last request for the ingest path, rejected or not;
`/debug/connection_count` counts the addresses of all of them.  An accepted request gets the
configured status, any other one for the ingest path gets 401, 415, 400 or 500. -/
theorem stub_remembers_since_reset (files : String → Option (List UInt8))
    (log : List (Event Addr)) :
    ∃ s, run (moves (serve decode args)) (start files) log = some s ∧
      s.store = (sinceReset args log).filterMap (Event.accepted decode args) ∧
      ∀ e : Event Addr,
        (e.request.method = .get → e.request.path = "/debug/batches" →
          dispatch decode args s e =
            ({ status := 200, body := .batches s.store, reason := none, slept := 0 }, s)) ∧
        (e.request.method = .get → e.request.path = "/debug/last_request_headers" →
          dispatch decode args s e =
            (match ((sinceReset args log).filter (Event.isIngest args)).getLast? with
              | none => { status := 404, body := .empty, reason := none, slept := 0 }
              | some last =>
                  { status := 200
                    body := .headers last.request.headers
                    reason := none
                    slept := 0 }, s)) ∧
        (e.request.method = .get → e.request.path = "/debug/connection_count" →
          dispatch decode args s e =
            ({ status := 200
               body := .count (((sinceReset args log).filter (Event.isIngest args)).filterMap
                 fun e => e.request.remoteAddr).toFinset.card
               reason := none
               slept := 0 }, s)) ∧
        (e.isIngest args = true →
          (dispatch decode args s e).2.store = s.store ++ (e.accepted decode args).toList ∧
            match e.accepted decode args with
            | some _ => (dispatch decode args s e).1 =
                { status := args.respondWith
                  body := .empty
                  reason := none
                  slept := args.simulateSlow }
            | none => (dispatch decode args s e).1.status ∈ [401, 415, 400, 500] ∧
                (dispatch decode args s e).1.body = .empty) := by
  refine ⟨_, run_serve decode args files log, rfl, fun e => ⟨?_, ?_, ?_, ?_⟩⟩
  · intro hmethod hurl
    simp [dispatch, hmethod, hurl, handleDebugBatches, respondJson, respondEmpty]
  · intro hmethod hurl
    simp only [dispatch, hmethod, hurl, handleDebugLastRequestHeaders, remembers]
    cases ((sinceReset args log).filter (Event.isIngest args)).getLast? <;>
      simp [respondJson, respondEmpty]
  · intro hmethod hurl
    simp [dispatch, hmethod, hurl, handleDebugConnectionCount, remembers, respondJson,
      respondEmpty]
  · intro hpath
    rw [dispatch_of_ingest hpath, handleIngest_snd hpath]
    refine ⟨rfl, ?_⟩
    obtain ⟨haccepted, hrejected⟩ := handleIngest_fst decode
      (remembers decode args files log) hpath
    cases hstored : e.accepted decode args with
    | some batch => exact haccepted (by rw [hstored]; rfl)
    | none => exact hrejected hstored

variable {decode args}

/-- **Every stored batch has a capture file of its own.**  For all requests in any order, resets
included: the batches that were ever stored are, in order, in files with increasing numbers,
whatever failed writes leave behind in between.  If these leave nothing and the directory had no
such file, there are no others. -/
theorem stored_batches_captured (hdir : args.captureDir = true)
    {files : String → Option (List UInt8)} {log : List (Event Addr)} {s : State Addr}
    (h : run (moves (serve decode args)) (start files) log = some s) :
    ∃ ns : List ℕ, ns.Pairwise (· < ·) ∧
      List.Forall₂ (Holds decode s.files) ns (log.filterMap (Event.accepted decode args)) ∧
      ((∀ n, files (captureFilename n) = none) →
        (∀ e ∈ log, ∀ left, e.capture ≠ .failed (some left)) →
          ∀ n, s.files (captureFilename n) ≠ none → n ∈ ns) := by
  obtain ⟨ns, hcaptured⟩ := exists_captured hdir files log
  rw [run_serve] at h
  obtain rfl := Option.some.inj h
  exact ⟨ns, hcaptured.increasing, hcaptured.holds, hcaptured.only⟩

end server

/-! ### A log -/

def sampleArgs : Args where
  authToken := "s3cret"
  path := "/v1/ingest"
  respondWith := 200
  simulateSlow := 0
  captureDir := true

def sampleHeaders : List (String × String) :=
  [("host", "127.0.0.1"), ("authorization", "Bearer s3cret"), ("content-type", mediaType)]

def sampleRequest (body : List UInt8) : Request ℕ where
  method := .post
  url := "/v1/ingest?try=1"
  headers := sampleHeaders
  remoteAddr := some 40000
  body := some body

def sampleWire : Wire.Batch := batchToWire Uuid.hyphenated Shared.init sampleBatch

/-- A capture that fails, a reset in between, and two that succeed. -/
def sampleLog : List (Event ℕ) :=
  [{ request := sampleRequest sampleWire.toValue.toBytes, capture := .failed (some [0x83]) },
    { request := sampleRequest sampleWire.toValue.toBytes, capture := .written },
    { request := { sampleRequest [] with url := "/debug/reset" }, capture := .written },
    { request := sampleRequest sampleWire.toValue.toBytes, capture := .written }]

theorem valid_sampleRequest (decode : List UInt8 → Option Wire.Batch) (body : List UInt8)
    (capture : CaptureWrite) :
    Event.valid decode sampleArgs ⟨sampleRequest body, capture⟩ = decode body := by
  have hpath : Event.isIngest sampleArgs ⟨sampleRequest body, capture⟩ = true := by
    have hurl : ((Text.split '?' "/v1/ingest?try=1").head?).getD "" = "/v1/ingest" := by decide
    exact decide_eq_true ⟨rfl, hurl⟩
  have hbearer : validateBearer sampleHeaders sampleArgs.authToken = true := by decide
  have htype : validateContentType sampleHeaders = true := by decide
  have hvalid : (Event.isIngest sampleArgs ⟨sampleRequest body, capture⟩ &&
      validateBearer (sampleRequest body).headers sampleArgs.authToken &&
      validateContentType (sampleRequest body).headers) = true := by
    rw [hpath, show (sampleRequest body).headers = sampleHeaders from rfl, hbearer, htype]
    rfl
  rw [Event.valid, if_pos hvalid]
  rfl

/-- A decoder that knows the sample batch. -/
def sampleDecode : List UInt8 → Option Wire.Batch := decodeBatch (codecOf sampleWire.toValue)

theorem decode_sampleWire : sampleDecode sampleWire.toValue.toBytes = some sampleWire := by
  simp only [sampleDecode, decodeBatch, codecOf, ↓reduceIte, Option.bind_some]
  decide

theorem stored_batches_captured_sample :
    ∃ s : State ℕ, ∃ ns : List ℕ,
      run (moves (serve sampleDecode sampleArgs)) (start fun _ => none) sampleLog = some s ∧
      ns.Pairwise (· < ·) ∧
      List.Forall₂ (Holds sampleDecode s.files) ns [sampleWire, sampleWire] := by
  have hrun := run_serve sampleDecode sampleArgs (fun _ => none) sampleLog
  obtain ⟨ns, hincreasing, hholds, -⟩ := stored_batches_captured rfl hrun
  refine ⟨_, ns, hrun, hincreasing, ?_⟩
  have hstored : sampleLog.filterMap (Event.accepted sampleDecode sampleArgs) =
      [sampleWire, sampleWire] := by
    have haccepted : Event.accepted sampleDecode sampleArgs
        ⟨sampleRequest sampleWire.toValue.toBytes, .written⟩ = some sampleWire := by
      rw [Event.accepted, if_neg (by decide), valid_sampleRequest]
      exact decode_sampleWire
    have hreset : Event.accepted sampleDecode sampleArgs
        ⟨{ sampleRequest [] with url := "/debug/reset" }, .written⟩ = none := by
      rw [Event.accepted, if_neg (by decide)]
      exact not_valid_of_not_ingest _ (by decide)
    rw [sampleLog, List.filterMap_cons_none rfl, List.filterMap_cons_some haccepted,
      List.filterMap_cons_none hreset, List.filterMap_cons_some haccepted, List.filterMap_nil]
  rw [← hstored]
  exact hholds

end StubIngest

end PhpAnalyze
