import PhpAnalyze.DictFlow
import PhpAnalyze.Records
import PhpAnalyze.Wire

/-! # The requests of one process

`serve` runs the requests of a process one after the other, each from `RINIT` to
`RSHUTDOWN`; between two requests the shipper may change the process-wide state.
`encodeAll` is the wire form of the batches of one request that the channel took.

Trace ids are the placeholder of `Trace::new`, so on the wire nothing tells the requests
apart (`not_every_trace_id_separates`); within one request the ids of records and
dictionary entries are unique (`ids_unique_within_request`). -/

namespace PhpAnalyze

open Machine Recorder

structure Request where
  rinit : Rinit
  events : List Event
  exit : ExitSnapshots
  answer : TrySend

def Request.run (request : Request) (shared : Shared) : Option Recorder :=
  (Machine.run step (start shared request.rinit) request.events).map fun r =>
    r.rshutdownReleaseTrace request.exit request.answer

/-- Serve the requests in order; `between n` is what the shipper does before the request at
position `n`. -/
def serve : (ℕ → Shared → Shared) → Shared → List Request →
    Option (List (List (PendingBatch × TrySend)))
  | _, _, [] => some []
  | between, shared, request :: requests =>
      (request.run (between 0 shared)).bind fun r =>
        (serve (fun n => between (n + 1)) r.shared requests).map fun served => r.handed :: served

/-- The wire forms of the batches that the channel took; the batch at position `i` is
encoded in the state `states i`. -/
def encodeAll (uuidToString : TraceId → String) (states : ℕ → Shared)
    (handed : List (PendingBatch × TrySend)) : List Wire.Batch :=
  handed.zipIdx.filterMap fun (h, i) =>
    if h.2 = .ok then some (batchToWire uuidToString (states i) h.1) else none

theorem serve_forall {P : List (PendingBatch × TrySend) → Prop}
    (hP : ∀ (request : Request) (shared : Shared) (r : Recorder),
      request.run shared = some r → P r.handed) {requests : List Request} :
    ∀ {between : ℕ → Shared → Shared} {shared : Shared}
      {served : List (List (PendingBatch × TrySend))},
      serve between shared requests = some served → ∀ handed ∈ served, P handed := by
  induction requests with
  | nil =>
      intro between shared served h handed hmem
      cases h
      cases hmem
  | cons request requests ih =>
      intro between shared served h handed hmem
      obtain ⟨r, hr, h⟩ := Option.bind_eq_some_iff.mp h
      obtain ⟨served', hserved', rfl⟩ := Option.map_eq_some_iff.mp h
      rcases List.mem_cons.mp hmem with rfl | hmem
      · exact hP request _ r hr
      · exact ih hserved' handed hmem

/-- The encoded records (or entries) are among those handed off, in their order. -/
theorem flatMap_encodeAll_sublist {α β : Type*} {uuidToString : TraceId → String}
    {field : PendingBatch → List α} {wireField : Wire.Batch → List β} {toWire : α → β}
    (hfield : ∀ s b, wireField (batchToWire uuidToString s b) = (field b).map toWire)
    (states : ℕ → Shared) (handed : List (PendingBatch × TrySend)) :
    ((encodeAll uuidToString states handed).flatMap wireField).Sublist
      ((handed.flatMap fun h => field h.1).map toWire) := by
  unfold encodeAll
  generalize 0 = n
  induction handed generalizing n with
  | nil => exact List.Sublist.refl _
  | cons h handed ih =>
      rw [List.zipIdx_cons, List.flatMap_cons, List.map_append]
      by_cases hok : h.2 = .ok
      · rw [List.filterMap_cons_some (by simp [hok]; rfl), List.flatMap_cons, hfield]
        exact (List.Sublist.refl _).append (ih (n + 1))
      · rw [List.filterMap_cons_none (by simp [hok])]
        exact (ih (n + 1)).trans (List.sublist_append_right _ _)

theorem nodup_ids_encodeAll {α β : Type*} {uuidToString : TraceId → String}
    {field : PendingBatch → List α} {wireField : Wire.Batch → List β} {toWire : α → β}
    (hfield : ∀ s b, wireField (batchToWire uuidToString s b) = (field b).map toWire)
    {id : α → ℕ} {wireId : β → ℕ} (hid : ∀ a, wireId (toWire a) = id a) (states : ℕ → Shared)
    {handed : List (PendingBatch × TrySend)}
    (hnodup : ((handed.flatMap fun h => field h.1).map id).Nodup) :
    (((encodeAll uuidToString states handed).flatMap wireField).map wireId).Nodup := by
  have hids : ((handed.flatMap fun h => field h.1).map toWire).map wireId =
      (handed.flatMap fun h => field h.1).map id := by
    rw [List.map_map]
    exact List.map_congr_left fun a _ => hid a
  exact ((flatMap_encodeAll_sublist hfield states handed).map wireId).nodup (hids ▸ hnodup)

/-! ### Trace ids -/

/-- Every batch of the trace carries the placeholder id. -/
structure NilTraceId (r : Recorder) : Prop where
  trace : r.trace.traceId = nilTraceId
  handed : ∀ h ∈ r.handed, h.1.metaPartial.traceId = nilTraceId

theorem NilTraceId.flushAndSend {r : Recorder} (h : NilTraceId r) (answer : TrySend) :
    NilTraceId (r.flushAndSend answer) := by
  refine ⟨h.trace, fun b hb => ?_⟩
  rcases List.mem_append.mp hb with hold | hnew
  · exact h.handed b hold
  · rw [List.mem_singleton.mp hnew]
    exact h.trace

theorem nilTraceId_run {shared : Shared} {rinit : Rinit} {es : List Event} {r : Recorder}
    (h : run step (start shared rinit) es = some r) : NilTraceId r := by
  refine run_invariant (I := NilTraceId) ?_ h ⟨rfl, fun _ hmem => absurd hmem List.not_mem_nil⟩
  intro r e r' hstep hr
  cases step_cases hstep with
  | emitEnd exit abnormal answer frame stack =>
      have hemit : NilTraceId (r.afterEmit stack (frame.intoCallRecord exit abnormal)) :=
        ⟨hr.trace, hr.handed⟩
      rcases flushIfDue_eq_or (r.afterEmit stack (frame.intoCallRecord exit abnormal)) answer
        with hflush | hflush <;> rw [hflush]
      · exact hemit
      · exact hemit.flushAndSend answer
  | _ => exact ⟨hr.trace, hr.handed⟩

theorem NilTraceId.release {r : Recorder} (h : NilTraceId r) (exit : ExitSnapshots)
    (answer : TrySend) : NilTraceId (r.rshutdownReleaseTrace exit answer) := by
  have hdrained : NilTraceId (r.drained exit) := ⟨h.trace, h.handed⟩
  rw [rshutdownReleaseTrace_eq]
  unfold flushed
  split
  · exact ⟨hdrained.trace, hdrained.handed⟩
  · exact ⟨(hdrained.flushAndSend answer).trace, (hdrained.flushAndSend answer).handed⟩

/-- **Identity within a request**: every encoded batch carries the placeholder trace id, and
over the encoded batches of one request no two records share a call id and no two
dictionary entries share a function id. -/
theorem ids_unique_within_request {between : ℕ → Shared → Shared} {shared : Shared}
    {requests : List Request} {served : List (List (PendingBatch × TrySend))}
    (h : serve between shared requests = some served) (uuidToString : TraceId → String) :
    ∀ handed ∈ served, ∀ states : ℕ → Shared,
      (∀ w ∈ encodeAll uuidToString states handed,
        w.metaFull.traceId = uuidToString nilTraceId) ∧
      (((encodeAll uuidToString states handed).flatMap Wire.Batch.calls).map
        Wire.CallRecord.callId).Nodup ∧
      (((encodeAll uuidToString states handed).flatMap Wire.Batch.dict).map
        Wire.DictEntry.fnId).Nodup := by
  refine serve_forall (fun request shared r hr states => ?_) h
  obtain ⟨r, hrun, rfl⟩ := Option.map_eq_some_iff.mp hr
  obtain ⟨t, hflow⟩ := dictFlow_run hrun
  refine ⟨fun w hw => ?_, ?_, ?_⟩
  · obtain ⟨⟨b, i⟩, hmem, hwire⟩ := List.mem_filterMap.mp hw
    have hb := List.fst_mem_of_mem_zipIdx hmem
    have hnil := ((nilTraceId_run hrun).release request.exit request.answer).handed b hb
    simp only [Option.ite_none_right_eq_some] at hwire
    rw [← Option.some.inj hwire.2]
    exact congrArg uuidToString hnil
  · have hids := callId_calls_release r request.exit request.answer
    exact nodup_ids_encodeAll (fun _ _ => rfl) (fun _ => rfl) states
      (hids ▸ (recorded_run hrun).ids_nodup)
  · exact nodup_ids_encodeAll (fun _ _ => rfl) (fun _ => rfl) states
      (hflow.release request.exit request.answer).2

/-- Five calls of three functions, in three batches: two are flushed while the first call is open,
and the last comes with `RSHUTDOWN`. -/
def threeFunctions : Request where
  rinit := rinitWith ⟨8, 4096, 2, 4096⟩
  events :=
    [beginOf "f" 1, beginOf "g" 2, endAt 3, beginOf "g" 4, endAt 5, beginOf "h" 6, endAt 7,
      beginOf "g" 8, endAt 9, endAt 10]
  exit := exitAt 11
  answer := .ok

theorem ids_unique_within_request_three_functions :
    ∃ served, serve (fun _ => id) Shared.init [threeFunctions, threeFunctions] = some served ∧
      (served.map fun handed => handed.map fun h => (h.1.calls.length, h.1.dict.length)) =
        [[(2, 2), (2, 1), (1, 0)], [(2, 2), (2, 1), (1, 0)]] ∧
      ∀ handed ∈ served, ∀ states : ℕ → Shared,
        (∀ w ∈ encodeAll (fun _ => "00000000-0000-0000-0000-000000000000") states handed,
          w.metaFull.traceId = "00000000-0000-0000-0000-000000000000") ∧
        (((encodeAll (fun _ => "00000000-0000-0000-0000-000000000000") states handed).flatMap
          Wire.Batch.calls).map Wire.CallRecord.callId).Nodup ∧
        (((encodeAll (fun _ => "00000000-0000-0000-0000-000000000000") states handed).flatMap
          Wire.Batch.dict).map Wire.DictEntry.fnId).Nodup := by
  have hserved := (Option.some_get (show (serve (fun _ => id) Shared.init
    [threeFunctions, threeFunctions]).isSome = true by decide)).symm
  exact ⟨_, hserved, by decide, ids_unique_within_request hserved
    (fun _ => "00000000-0000-0000-0000-000000000000")⟩

def oneCall : Request where
  rinit := rinitWith ⟨8, 4096, 100, 4096⟩
  events := [beginOf "f" 1, endAt 2]
  exit := exitAt 3
  answer := .ok

/-- Trace ids do not separate requests: two requests with one call each are encoded with one
trace id. -/
theorem not_every_trace_id_separates :
    ¬ ∀ (uuidToString : TraceId → String) (between : ℕ → Shared → Shared) (shared : Shared)
        (requests : List Request) (served : List (List (PendingBatch × TrySend)))
        (states : ℕ → ℕ → Shared),
      serve between shared requests = some served →
      ∀ i j hi hj wi wj, served[i]? = some hi → served[j]? = some hj →
        wi ∈ encodeAll uuidToString (states i) hi → wj ∈ encodeAll uuidToString (states j) hj →
        wi.metaFull.traceId = wj.metaFull.traceId → i = j := by
  intro h
  have hij := h (fun _ => "00000000-0000-0000-0000-000000000000") (fun _ => id) Shared.init
    [oneCall, oneCall] _ (fun _ _ => Shared.init) (Option.some_get (by decide)).symm 0 1 _ _ _ _ rfl
    rfl
    List.mem_cons_self List.mem_cons_self rfl
  exact absurd hij (by decide)

end PhpAnalyze
