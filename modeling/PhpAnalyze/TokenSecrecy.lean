import PhpAnalyze.ConfigValid
import PhpAnalyze.PhpInfo
import PhpAnalyze.Poster

/-! # The bearer token is kept

Two operators have configured everything alike but for the text of the token, which is blank for
both or for neither.  Then whatever the program shows is the same for both: the warnings, the
rows of `phpinfo()`, the drop notices and the counters (`token_noninterference`).  Their
requests differ in the `Authorization` header only. -/

namespace PhpAnalyze

open Machine Config

/-! ### Alike but for the token -/

/-- The two texts are equal, or both are tokens. -/
def SameToken (s t : String) : Prop := s = t ∨ Text.trim s ≠ "" ∧ Text.trim t ≠ ""

/-- The two readings failed alike, or their contents are equal or both tokens. -/
inductive SameContent : Except String String → Except String String → Prop
  | error (details : String) : SameContent (.error details) (.error details)
  | ok {s t} (h : SameToken s t) : SameContent (.ok s) (.ok t)

structure SameButToken (readToString₁ readToString₂ : String → Except String String)
    (raw₁ raw₂ : RawIni) : Prop where
  others : { raw₁ with authToken := none } = { raw₂ with authToken := none }
  inline : Option.Rel SameToken raw₁.authToken raw₂.authToken
  file : ∀ path, SameContent (readToString₁ path) (readToString₂ path)

theorem SameToken.trim_eq_empty_iff {s t : String} (h : SameToken s t) :
    Text.trim s = "" ↔ Text.trim t = "" := by
  rcases h with rfl | ⟨hs, ht⟩
  · exact Iff.rfl
  · exact ⟨fun h => absurd h hs, fun h => absurd h ht⟩

/-! ### The configuration -/

def TokenOutcome.withoutToken : TokenOutcome → TokenOutcome
  | .resolved _ source => .resolved "" source
  | outcome => outcome

section resolve

variable {readToString₁ readToString₂ : String → Except String String}
  {token₁ token₂ : Option String} (raw : RawIni)

theorem resolveToken_same (htoken : Option.Rel SameToken token₁ token₂)
    (hfile : ∀ path, SameContent (readToString₁ path) (readToString₂ path)) :
    let resolved₁ := resolveToken readToString₁ { raw with authToken := token₁ }
    let resolved₂ := resolveToken readToString₂ { raw with authToken := token₂ }
    resolved₁.1.withoutToken = resolved₂.1.withoutToken ∧ resolved₁.2 = resolved₂.2 := by
  simp only [resolveToken, RawIni.tokenFile]
  split
  case h_1 path hpath =>
    have hcontent := hfile path
    generalize readToString₁ path = content₁ at hcontent
    generalize readToString₂ path = content₂ at hcontent
    cases hcontent with
    | error details => exact ⟨rfl, rfl⟩
    | ok h =>
        simp only [h.trim_eq_empty_iff]
        split_ifs <;> simp only [TokenOutcome.withoutToken, and_self]
  case h_2 hpath =>
    have hblank : Text.trim (token₁.getD "") = "" ↔ Text.trim (token₂.getD "") = "" := by
      cases htoken with
      | none => exact Iff.rfl
      | some h => exact h.trim_eq_empty_iff
    simp only [hblank]
    split_ifs <;> simp only [TokenOutcome.withoutToken, and_self]

theorem resolveCredentials_same (htoken : Option.Rel SameToken token₁ token₂)
    (hfile : ∀ path, SameContent (readToString₁ path) (readToString₂ path))
    (outcome : ServerUrlOutcome) :
    let resolved₁ := resolveCredentials readToString₁ { raw with authToken := token₁ } outcome
    let resolved₂ := resolveCredentials readToString₂ { raw with authToken := token₂ } outcome
    resolved₁.1.2 = resolved₂.1.2 ∧ resolved₁.2 = resolved₂.2 := by
  obtain ⟨hsame, hwarned⟩ := resolveToken_same raw htoken hfile
  simp only [resolveCredentials]
  cases outcome.disableReason with
  | some reason => exact ⟨rfl, rfl⟩
  | none =>
      generalize resolveToken readToString₁ { raw with authToken := token₁ } = resolved₁ at *
      generalize resolveToken readToString₂ { raw with authToken := token₂ } = resolved₂ at *
      obtain ⟨outcome₁, warnings₁⟩ := resolved₁
      obtain ⟨outcome₂, warnings₂⟩ := resolved₂
      cases outcome₁ <;> cases outcome₂ <;> simp_all [TokenOutcome.withoutToken]

theorem fromIniValues_same_of_token (hinline : Option.Rel SameToken token₁ token₂)
    (hfile : ∀ path, SameContent (readToString₁ path) (readToString₂ path)) :
    let resolved₁ := fromIniValues readToString₁ { raw with authToken := token₁ }
    let resolved₂ := fromIniValues readToString₂ { raw with authToken := token₂ }
    resolved₁.1.withoutToken = resolved₂.1.withoutToken ∧ resolved₁.2 = resolved₂.2 := by
  have hurl (token : Option String) :
      resolveServerUrl { raw with authToken := token } = resolveServerUrl raw := by
    simp only [resolveServerUrl]
  obtain ⟨hcredentials, hwarned⟩ := resolveCredentials_same raw hinline hfile
    (resolveServerUrl raw).1.2
  simp only [fromIniValues, hurl]
  generalize resolveCredentials readToString₁ _ _ = resolved₁ at *
  generalize resolveCredentials readToString₂ _ _ = resolved₂ at *
  obtain ⟨⟨secret₁, credentials₁⟩, warnings₁⟩ := resolved₁
  obtain ⟨⟨secret₂, credentials₂⟩, warnings₂⟩ := resolved₂
  cases hcredentials
  cases hwarned
  split_ifs
  · exact ⟨rfl, rfl⟩
  · simp only [Config.withoutToken, resolveCpuSnapshotMode, and_self]

theorem eq_of_others {raw₁ raw₂ : RawIni}
    (h : { raw₁ with authToken := none } = { raw₂ with authToken := none }) :
    raw₂ = { raw₁ with authToken := raw₂.authToken } := by
  cases raw₁
  cases raw₂
  simp_all

/-- **The configuration is the same** in every field but the token, and so are the warnings. -/
theorem fromIniValues_same {raw₁ raw₂ : RawIni}
    (h : SameButToken readToString₁ readToString₂ raw₁ raw₂) :
    (fromIniValues readToString₁ raw₁).1.withoutToken =
        (fromIniValues readToString₂ raw₂).1.withoutToken ∧
      (fromIniValues readToString₁ raw₁).2 = (fromIniValues readToString₂ raw₂).2 := by
  rw [eq_of_others h.others]
  exact fromIniValues_same_of_token raw₁ h.inline h.file

end resolve

/-! ### The shipper -/

/-- The request without the header that the token is in. -/
def HttpRequest.withoutAuthorization (request : HttpRequest) : HttpRequest :=
  { request with headers := request.headers.filter (·.1 ≠ "Authorization") }

def RmpEncodeAndHttpPost.withoutToken (poster : RmpEncodeAndHttpPost) : RmpEncodeAndHttpPost :=
  { poster with authToken := "" }

namespace Posting

/-- What there is to see of the shipper: its whole state, with its queued notices and all
counters, and the requests without the token. -/
def view (s : Posting) : HttpShipper × List HttpRequest :=
  (s.toHttpShipper, s.requests.map HttpRequest.withoutAuthorization)

variable {uuidToString : TraceId → String} {encoded : PendingBatch → ℕ → List UInt8}
  {poster₁ poster₂ : RmpEncodeAndHttpPost} {d : Instant}

theorem request_same (h : poster₁.withoutToken = poster₂.withoutToken) (body : List UInt8) :
    (poster₁.request body).withoutAuthorization = (poster₂.request body).withoutAuthorization := by
  cases poster₁
  cases poster₂
  cases h
  rfl

theorem requestOf_same (h : poster₁.withoutToken = poster₂.withoutToken) (s : HttpShipper)
    (e : HttpEvent) :
    (requestOf encoded poster₁ s e).toList.map HttpRequest.withoutAuthorization =
      (requestOf encoded poster₂ s e).toList.map HttpRequest.withoutAuthorization := by
  cases e with
  | call verdict =>
      simp only [requestOf]
      split
      · exact congrArg (fun request => [request]) (request_same h _)
      · rfl
  | _ => rfl

/-- **A step looks the same** with both tokens. -/
theorem step_same (h : poster₁.withoutToken = poster₂.withoutToken) (s t : Posting)
    (e : HttpEvent) (hst : s.view = t.view) :
    (s.step uuidToString encoded poster₁ d e).map view =
      (t.step uuidToString encoded poster₂ d e).map view := by
  obtain ⟨shipper, requests₁⟩ := s
  obtain ⟨shipper', requests₂⟩ := t
  obtain ⟨hshipper, hrequests⟩ := Prod.ext_iff.mp hst
  cases hshipper
  have hbudget : poster₁.noticeEnv uuidToString = poster₂.noticeEnv uuidToString ∧
      poster₁.retryCount = poster₂.retryCount ∧
      poster₁.retryBackoffMs = poster₂.retryBackoffMs := by
    cases poster₁
    cases poster₂
    cases h
    exact ⟨rfl, rfl, rfl⟩
  obtain ⟨henv, hcount, hbackoff⟩ := hbudget
  rw [step, step, Option.map_map, Option.map_map, henv, hcount, hbackoff]
  refine congrArg (Option.map · _) (funext fun shipper' => Prod.ext rfl ?_)
  show List.map _ (requests₁ ++ _) = List.map _ (requests₂ ++ _)
  rw [List.map_append, List.map_append, requestOf_same h]
  exact congrArg (· ++ _) hrequests

theorem runOf_same {config₁ config₂ : Config} (h : config₁.withoutToken = config₂.withoutToken)
    (version : String) (shared : Shared) (es : List HttpEvent) :
    (runOf uuidToString encoded d version config₁ shared es).map view =
      (runOf uuidToString encoded d version config₂ shared es).map view := by
  have hspawn : (spawnIfNeededAtRinit version config₁).map RmpEncodeAndHttpPost.withoutToken =
      (spawnIfNeededAtRinit version config₂).map RmpEncodeAndHttpPost.withoutToken := by
    cases config₁
    cases config₂
    cases h
    simp only [spawnIfNeededAtRinit, Option.map_map, Function.comp_def, RmpEncodeAndHttpPost.new,
      RmpEncodeAndHttpPost.withoutToken]
  rw [runOf, runOf]
  cases hposter₁ : spawnIfNeededAtRinit version config₁ with
  | none =>
      rw [hposter₁, Option.map_none] at hspawn
      rw [Option.map_eq_none_iff.mp hspawn.symm]
  | some poster₁ =>
      rw [hposter₁] at hspawn
      obtain ⟨poster₂, hposter₂, hposter⟩ := Option.map_eq_some_iff.mp hspawn.symm
      rw [hposter₂]
      exact run_view (step_same hposter.symm) es rfl

end Posting

/-- **Non-interference of the token**: with tokens that are blank for both or for neither, the
warnings, the configuration but for the token, the rows of `phpinfo()` and every run of the
shipper with the same events look the same. -/
theorem token_noninterference {readToString₁ readToString₂ : String → Except String String}
    {raw₁ raw₂ : RawIni} (h : SameButToken readToString₁ readToString₂ raw₁ raw₂) :
    let resolved₁ := fromIniValues readToString₁ raw₁
    let resolved₂ := fromIniValues readToString₂ raw₂
    resolved₁.2 = resolved₂.2 ∧
      PhpInfoRenderer.rows (some resolved₁.1) = PhpInfoRenderer.rows (some resolved₂.1) ∧
      resolved₁.1.withoutToken = resolved₂.1.withoutToken ∧
      ∀ uuidToString encoded d version shared es,
        (Posting.runOf uuidToString encoded d version resolved₁.1 shared es).map Posting.view =
          (Posting.runOf uuidToString encoded d version resolved₂.1 shared es).map
            Posting.view := by
  obtain ⟨hconfig, hwarnings⟩ := fromIniValues_same h
  refine ⟨hwarnings, ?_, hconfig, ?_⟩
  · rw [rows_withoutToken, hconfig, ← rows_withoutToken]
  · intro uuidToString encoded d version shared es
    exact Posting.runOf_same hconfig version shared es

/-- A configuration with the token inline. -/
def rawWithToken (token : String) : RawIni where
  enabled := none
  serverUrl := some "https://ingest.example.com/v1/ingest"
  authToken := some token
  authTokenFile := none
  flushRecords := some 0
  flushBytes := none
  bufferCapBytes := none
  maxDepth := none
  retryCount := none
  retryBackoffMs := none
  httpTimeoutMs := none
  shutdownGraceMs := none
  shipperQueueDepth := none
  cpuSnapshotMode := none
  skipFunctions := none
  skipInternal := none

/-- There is one file, with a token in its only line. -/
def tokenFile (token path : String) : Except String String :=
  if path = "/run/secrets/token" then .ok (token ++ "\n") else .error "No such file"

def rawWithTokenFile : RawIni :=
  { rawWithToken "" with authToken := none, authTokenFile := some "/run/secrets/token" }

/-- The tokens are inline, or in the file. -/
theorem token_noninterference_inline_and_file :
    (let resolved₁ := fromIniValues (fun _ => .error "No such file") (rawWithToken "alpha")
    let resolved₂ := fromIniValues (fun _ => .error "No such file") (rawWithToken " beta ")
    resolved₁.2 = resolved₂.2 ∧
      PhpInfoRenderer.rows (some resolved₁.1) = PhpInfoRenderer.rows (some resolved₂.1) ∧
      resolved₁.1.withoutToken = resolved₂.1.withoutToken ∧
      ∀ uuidToString encoded d version shared es,
        (Posting.runOf uuidToString encoded d version resolved₁.1 shared es).map Posting.view =
          (Posting.runOf uuidToString encoded d version resolved₂.1 shared es).map
            Posting.view) ∧
    (let resolved₁ := fromIniValues (tokenFile "alpha") rawWithTokenFile
    let resolved₂ := fromIniValues (tokenFile "beta") rawWithTokenFile
    resolved₁.1.authToken = "alpha" ∧ resolved₂.1.authToken = "beta" ∧
      resolved₁.2 = resolved₂.2 ∧
      PhpInfoRenderer.rows (some resolved₁.1) = PhpInfoRenderer.rows (some resolved₂.1) ∧
      resolved₁.1.withoutToken = resolved₂.1.withoutToken ∧
      ∀ uuidToString encoded d version shared es,
        (Posting.runOf uuidToString encoded d version resolved₁.1 shared es).map Posting.view =
          (Posting.runOf uuidToString encoded d version resolved₂.1 shared es).map
            Posting.view) := by
  have hfile : ∀ path, SameContent (tokenFile "alpha" path) (tokenFile "beta" path) := by
    intro path
    unfold tokenFile
    split
    · exact .ok (.inr ⟨by decide, by decide⟩)
    · exact .error "No such file"
  constructor
  · exact token_noninterference
      { others := rfl
        inline := .some (.inr ⟨by decide, by decide⟩)
        file := fun _ => .error "No such file" }
  · exact ⟨by decide, by decide,
      token_noninterference { others := rfl, inline := .none, file := hfile }⟩

end PhpAnalyze
