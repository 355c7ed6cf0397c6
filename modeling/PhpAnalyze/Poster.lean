import PhpAnalyze.ConfigValid
import PhpAnalyze.DeadlineWatch

/-! # The HTTP poster (`RmpEncodeAndHttpPost` in `shipper/http.rs`)

The poster is made from the configuration at the first `RINIT`.  `Posting` is the shipper with
this poster: its notices name the poster's URL, its retries follow the poster's budget, and
every attempt sends one request.  What the server makes of a request is the verdict of the
event.

The bytes of a batch are `encoded`, from the batch and the drop counter that its encoding has
read. -/

namespace PhpAnalyze

open Machine

structure RmpEncodeAndHttpPost where
  serverUrl : String
  authToken : String
  retryCount : ℕ
  retryBackoffMs : UInt32
  httpTimeout : Duration
  userAgent : String
deriving DecidableEq

structure HttpRequest where
  url : String
  headers : List (String × String)
  body : List UInt8
deriving DecidableEq, Repr

/-- `wire::MEDIA_TYPE`. -/
def mediaType : String := "application/vnd.php-analyze.v1+msgpack"

namespace RmpEncodeAndHttpPost

/-- `new`, in a crate of the given version. -/
def new (version serverUrl authToken : String) (retryCount : ℕ)
    (retryBackoff httpTimeout : Duration) : RmpEncodeAndHttpPost where
  serverUrl := serverUrl
  authToken := authToken
  retryCount := retryCount
  retryBackoffMs := UInt32.ofNat (min (asMillis retryBackoff) u32Max)
  httpTimeout := httpTimeout
  userAgent := "php-analyze/" ++ version

def request (poster : RmpEncodeAndHttpPost) (encoded : List UInt8) : HttpRequest where
  url := poster.serverUrl
  headers :=
    [("Authorization", "Bearer " ++ poster.authToken), ("Content-Type", mediaType),
      ("User-Agent", poster.userAgent)]
  body := encoded

/-- What a drop notice shows of the poster. -/
def noticeEnv (uuidToString : TraceId → String) (poster : RmpEncodeAndHttpPost) : NoticeEnv where
  uuidToString := uuidToString
  serverUrl := some poster.serverUrl

end RmpEncodeAndHttpPost

/-- The poster of `spawn_if_needed_at_rinit`; without a URL its `expect` panics. -/
def spawnIfNeededAtRinit (version : String) (config : Config) : Option RmpEncodeAndHttpPost :=
  config.serverUrl.map fun serverUrl =>
    .new version serverUrl config.authToken config.retryCount config.retryBackoff
      config.httpTimeout

/-- **An enabled configuration has a poster**: the `expect` does not panic, there is a token, and
the base of the backoff is the one of the directive. -/
theorem spawn_of_enabled {readToString : String → Except String String} {raw : RawIni}
    (version : String) (h : (Config.fromIniValues readToString raw).1.enabled = true) :
    ∃ poster, spawnIfNeededAtRinit version (Config.fromIniValues readToString raw).1 =
        some poster ∧
      HasHttpScheme poster.serverUrl ∧ poster.authToken ≠ "" ∧
      (poster.retryBackoffMs.toNat : ℤ) = (IntDirective.retryBackoffMs.resolve raw).1 := by
  have hvalid := every_resolved_config_valid readToString raw
  obtain ⟨hon, ⟨url, hurl, hscheme⟩, token, htoken, hne⟩ :=
    hvalid.reason_iff.mp (hvalid.enabled_iff.mp h)
  have hsecret : (Config.fromIniValues readToString raw).1.authToken = token :=
    Option.some.inj ((hvalid.token h).1.symm.trans htoken)
  have hbackoff := (hvalid.lossless .retryBackoffMs).trans (if_pos hon)
  have hrange := (hvalid.in_range .retryBackoffMs).2
  simp only [IntDirective.field, IntDirective.range, rangeRetryBackoffMs] at hbackoff hrange
  have hmin : min (asMillis (Config.fromIniValues readToString raw).1.retryBackoff) u32Max =
      asMillis (Config.fromIniValues readToString raw).1.retryBackoff :=
    min_eq_left (by rw [u32Max]; omega)
  refine ⟨_, congrArg (Option.map _) hurl, hscheme, hsecret ▸ hne, ?_⟩
  show ((UInt32.ofNat (min (asMillis _) u32Max)).toNat : ℤ) = _
  rw [hmin, UInt32.toNat_ofNat_of_lt' (by rw [UInt32.size]; omega), hbackoff]

/-- The shipper with its poster and the requests that it sent. -/
structure Posting extends HttpShipper where
  requests : List HttpRequest

namespace Posting

variable (uuidToString : TraceId → String) (encoded : PendingBatch → ℕ → List UInt8)
  (poster : RmpEncodeAndHttpPost) (d : Instant)

def start (shared : Shared) : Posting where
  toHttpShipper := .start shared
  requests := []

def requestOf (s : HttpShipper) : HttpEvent → Option HttpRequest
  | .call _ =>
      match s.program, s.pc with
      | some (.ask (.attempt _) _), .handling batch _ droppedRecords =>
          some (poster.request (encoded batch droppedRecords))
      | _, _ => none
  | _ => none

def step (s : Posting) (e : HttpEvent) : Option Posting :=
  (s.toHttpShipper.step (poster.noticeEnv uuidToString) poster.retryCount poster.retryBackoffMs
    d e).map fun shipper =>
      { toHttpShipper := shipper
        requests := s.requests ++ (requestOf encoded poster s.toHttpShipper e).toList }

def runOf (version : String) (config : Config) (shared : Shared) (es : List HttpEvent) :
    Option Posting :=
  (spawnIfNeededAtRinit version config).bind fun poster =>
    run (step uuidToString encoded poster d) (start shared) es

end Posting

end PhpAnalyze
