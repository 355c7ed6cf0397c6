import Mathlib.Data.Finset.Dedup
import Mathlib.Data.Finset.Empty
import PhpAnalyze.Lib.Text
import PhpAnalyze.Retry

/-! # The configuration (`config.rs`)

`fromIniValues` resolves the raw directives into a `Config` and the warnings that the caller
logs.  Each helper returns the warnings that it pushes there, and they are joined in the order
of the pushes.  The integers of a `RawIni` are `i64` there; here they are not bounded, and the
casts into the narrower fields are explicit.

A path is the text that it was made of.  Reading the token file is `readToString`: its content,
or the text of the error. -/

namespace PhpAnalyze

/-! ### Types -/

/-- Where the resolved bearer token came from. -/
inductive TokenSource where
  | none
  | inline
  | file (path : String)
deriving DecidableEq, Repr

inductive CpuSnapshotMode where
  | perCall
  | off
deriving DecidableEq, Repr

namespace CpuSnapshotMode

def asIniStr : CpuSnapshotMode → String
  | perCall => "per-call"
  | off => "off"

def parse (raw : String) : Option CpuSnapshotMode :=
  let normalised := Text.trim raw
  if Text.eqIgnoreAsciiCase normalised "per-call" then some perCall
  else if Text.eqIgnoreAsciiCase normalised "off" then some off
  else none

end CpuSnapshotMode

/-- Why the configuration is not enabled. -/
inductive DisableReason where
  | masterSwitchOff
  | serverUrlNotConfigured
  | serverUrlInvalid
  | serverUrlSchemeUnsupported
  | tokenNotConfigured
  | tokenFileUnreadable
  | tokenFileEmpty
deriving DecidableEq, Repr

def DisableReason.human : DisableReason → String
  | masterSwitchOff => "php_analyze.enabled = 0"
  | serverUrlNotConfigured => "server_url not configured"
  | serverUrlInvalid => "server_url failed to parse"
  | serverUrlSchemeUnsupported => "server_url scheme not supported"
  | tokenNotConfigured => "no bearer token configured"
  | tokenFileUnreadable => "auth_token_file could not be read"
  | tokenFileEmpty => "auth_token_file is empty"

/-- The directives as PHP hands them back; `none` is a directive that is not set. -/
structure RawIni where
  enabled : Option Bool
  serverUrl : Option String
  authToken : Option String
  authTokenFile : Option String
  flushRecords : Option ℤ
  flushBytes : Option ℤ
  bufferCapBytes : Option ℤ
  maxDepth : Option ℤ
  retryCount : Option ℤ
  retryBackoffMs : Option ℤ
  httpTimeoutMs : Option ℤ
  shutdownGraceMs : Option ℤ
  shipperQueueDepth : Option ℤ
  cpuSnapshotMode : Option String
  skipFunctions : Option String
  skipInternal : Option Bool
deriving DecidableEq, Repr

inductive ConfigWarning where
  | invalidUrl (value reason : String)
  | unsupportedScheme (scheme : String)
  | httpScheme
  | missingServerUrl
  | missingToken
  | tokenFileUnreadable (path details : String)
  | emptyTokenFile (path : String)
  | outOfRange (directive : String) (value clampedTo : ℤ)
  | unknownCpuSnapshotMode (rawValue fallback : String)
deriving DecidableEq, Repr

structure Config where
  enabled : Bool
  disableReason : Option DisableReason
  serverUrl : Option String
  authToken : String
  authTokenSource : TokenSource
  flushRecords : ℕ
  flushBytes : ℕ
  bufferCapBytes : ℕ
  maxDepth : ℕ
  retryCount : ℕ
  retryBackoff : Duration
  httpTimeout : Duration
  shutdownGrace : Duration
  shipperQueueDepth : ℕ
  cpuSnapshotMode : CpuSnapshotMode
  skipFunctions : Finset String
  skipInternal : Bool
deriving DecidableEq

/-! ### Defaults and ranges -/

def defaultEnabled : Bool := true

def defaultFlushRecords : ℤ := 10000
def rangeFlushRecords : ℤ × ℤ := (1, 1000000000)

def defaultFlushBytes : ℤ := 1048576
def rangeFlushBytes : ℤ × ℤ := (1024, 1000000000)

def defaultBufferCapBytes : ℤ := 67108864
def rangeBufferCapBytes : ℤ × ℤ := (1024, 10000000000)

def defaultMaxDepth : ℤ := 1024
def rangeMaxDepth : ℤ × ℤ := (1, 65535)

def defaultRetryCount : ℤ := 3
def rangeRetryCount : ℤ × ℤ := (0, 10)

def defaultRetryBackoffMs : ℤ := 100
def rangeRetryBackoffMs : ℤ × ℤ := (1, 60000)

def defaultHttpTimeoutMs : ℤ := 2000
def rangeHttpTimeoutMs : ℤ × ℤ := (100, 60000)

def defaultShutdownGraceMs : ℤ := 5000
def rangeShutdownGraceMs : ℤ × ℤ := (0, 60000)

def defaultShipperQueueDepth : ℤ := 8
def rangeShipperQueueDepth : ℤ × ℤ := (1, 1024)

/-- `as u8`, `as u16`, `as u64` and `as usize`: the low bits of the number. -/
def asUnsigned (bits : ℕ) (x : ℤ) : ℕ := (x % 2 ^ bits).toNat

/-- `Duration::from_millis(x as u64)`. -/
def durationOfMillis (x : ℤ) : Duration := fromMillis (asUnsigned 64 x)

/-- `Duration::as_millis`. -/
def asMillis (d : Duration) : ℕ := d / 10 ^ 6

/-! ### The helpers -/

def clampDirective (raw : Option ℤ) (default : ℤ) (range : ℤ × ℤ) (directive : String) :
    ℤ × List ConfigWarning :=
  let value := raw.getD default
  if value < range.1 then (range.1, [.outOfRange directive value range.1])
  else if value > range.2 then (range.2, [.outOfRange directive value range.2])
  else (value, [])

inductive ServerUrlOutcome where
  | ok
  | unset
  | invalidUrl
  | unsupportedScheme
deriving DecidableEq, Repr

def ServerUrlOutcome.disableReason : ServerUrlOutcome → Option DisableReason
  | ok => none
  | unset => some .serverUrlNotConfigured
  | invalidUrl => some .serverUrlInvalid
  | unsupportedScheme => some .serverUrlSchemeUnsupported

def resolveServerUrl (raw : RawIni) :
    (Option String × ServerUrlOutcome) × List ConfigWarning :=
  let rawUrl := Text.trim (raw.serverUrl.getD "")
  if rawUrl = "" then ((none, .unset), [])
  else
    match Text.splitOnce "://".toList rawUrl.toList with
    | none =>
        ((none, .invalidUrl),
          [.invalidUrl rawUrl "missing scheme (expected http:// or https://)"])
    | some (scheme, _) =>
        if String.ofList scheme = "https" then ((some rawUrl, .ok), [])
        else if String.ofList scheme = "http" then ((some rawUrl, .ok), [.httpScheme])
        else ((none, .unsupportedScheme), [.unsupportedScheme (String.ofList scheme)])

/-- The curated names that are skipped unless the directive says otherwise. -/
def defaultSkipFunctions : List String :=
  ["is_array", "is_bool", "is_callable", "is_countable", "is_float", "is_int", "is_integer",
    "is_iterable", "is_long", "is_null", "is_numeric", "is_object", "is_scalar", "is_string",
    "gettype", "get_class", "get_called_class", "get_parent_class", "function_exists",
    "method_exists", "property_exists", "defined", "spl_object_id", "spl_object_hash",
    "strlen", "count", "sizeof", "array_key_exists", "key_exists", "key", "current",
    "intval", "floatval", "doubleval", "strval", "boolval",
    "abs", "floor", "ceil", "round", "intdiv"]

/-- The entries of the directive, in lower case; the default list when there are none. -/
def parseSkipFunctions (raw : Option String) : Finset String :=
  let parsed : Finset String :=
    match raw with
    | some value =>
        ((((Text.split ',' value).map Text.trim).filter (· ≠ "")).map
          Text.toAsciiLowercase).toFinset
    | none => ∅
  if parsed = ∅ then defaultSkipFunctions.toFinset else parsed

inductive TokenOutcome where
  | resolved (secret : String) (source : TokenSource)
  | missing
  | fileUnreadable
  | fileEmpty
deriving DecidableEq, Repr

/-- The path of `auth_token_file`, if there is one. -/
def RawIni.tokenFile (raw : RawIni) : Option String :=
  (raw.authTokenFile.map Text.trim).filter (· ≠ "")

def resolveToken (readToString : String → Except String String) (raw : RawIni) :
    TokenOutcome × List ConfigWarning :=
  match raw.tokenFile with
  | some path =>
      match readToString path with
      | .ok content =>
          let trimmed := Text.trim content
          if trimmed = "" then (.fileEmpty, [.emptyTokenFile path])
          else (.resolved trimmed (.file path), [])
      | .error details => (.fileUnreadable, [.tokenFileUnreadable path details])
  | none =>
      let inline := Text.trim (raw.authToken.getD "")
      if inline = "" then (.missing, [])
      else (.resolved inline .inline, [])

/-- The parsed mode, or the default with a warning when the value is not known. -/
def resolveCpuSnapshotMode (raw : RawIni) : CpuSnapshotMode × List ConfigWarning :=
  match raw.cpuSnapshotMode with
  | none => (.perCall, [])
  | some rawValue =>
      match CpuSnapshotMode.parse rawValue with
      | some mode => (mode, [])
      | none =>
          (.perCall, [.unknownCpuSnapshotMode rawValue CpuSnapshotMode.perCall.asIniStr])

/-- The token, its source and the reason to be disabled, from the outcome of the URL on. -/
def resolveCredentials (readToString : String → Except String String) (raw : RawIni)
    (serverUrlOutcome : ServerUrlOutcome) :
    (String × TokenSource × Option DisableReason) × List ConfigWarning :=
  match serverUrlOutcome.disableReason with
  | some reason =>
      (("", .none, some reason),
        if reason = .serverUrlNotConfigured then [.missingServerUrl] else [])
  | none =>
      match resolveToken readToString raw with
      | (.resolved secret source, warnings) => ((secret, source, none), warnings)
      | (.missing, warnings) =>
          (("", .none, some .tokenNotConfigured), warnings ++ [.missingToken])
      | (.fileUnreadable, warnings) => (("", .none, some .tokenFileUnreadable), warnings)
      | (.fileEmpty, warnings) => (("", .none, some .tokenFileEmpty), warnings)

/-! ### The constructor -/

namespace Config

/-- The disabled state, with every numeric directive at its default. -/
def disabled (reason : DisableReason) : Config where
  enabled := false
  disableReason := some reason
  serverUrl := none
  authToken := ""
  authTokenSource := .none
  flushRecords := asUnsigned 64 defaultFlushRecords
  flushBytes := asUnsigned 64 defaultFlushBytes
  bufferCapBytes := asUnsigned 64 defaultBufferCapBytes
  maxDepth := asUnsigned 16 defaultMaxDepth
  retryCount := asUnsigned 8 defaultRetryCount
  retryBackoff := durationOfMillis defaultRetryBackoffMs
  httpTimeout := durationOfMillis defaultHttpTimeoutMs
  shutdownGrace := durationOfMillis defaultShutdownGraceMs
  shipperQueueDepth := asUnsigned 64 defaultShipperQueueDepth
  cpuSnapshotMode := .perCall
  skipFunctions := ∅
  skipInternal := false

def fromIniValues (readToString : String → Except String String) (raw : RawIni) :
    Config × List ConfigWarning :=
  if raw.enabled.getD defaultEnabled = false then (disabled .masterSwitchOff, [])
  else
    let flushRecords :=
      clampDirective raw.flushRecords defaultFlushRecords rangeFlushRecords "flush_records"
    let flushBytes :=
      clampDirective raw.flushBytes defaultFlushBytes rangeFlushBytes "flush_bytes"
    let bufferCapLower := max rangeBufferCapBytes.1 flushBytes.1
    let bufferCapBytes :=
      clampDirective raw.bufferCapBytes (max defaultBufferCapBytes flushBytes.1)
        (bufferCapLower, rangeBufferCapBytes.2) "buffer_cap_bytes"
    let maxDepth := clampDirective raw.maxDepth defaultMaxDepth rangeMaxDepth "max_depth"
    let retryCount :=
      clampDirective raw.retryCount defaultRetryCount rangeRetryCount "retry_count"
    let retryBackoffMs :=
      clampDirective raw.retryBackoffMs defaultRetryBackoffMs rangeRetryBackoffMs
        "retry_backoff_ms"
    let httpTimeoutMs :=
      clampDirective raw.httpTimeoutMs defaultHttpTimeoutMs rangeHttpTimeoutMs
        "http_timeout_ms"
    let shutdownGraceMs :=
      clampDirective raw.shutdownGraceMs defaultShutdownGraceMs rangeShutdownGraceMs
        "shutdown_grace_ms"
    let shipperQueueDepth :=
      clampDirective raw.shipperQueueDepth defaultShipperQueueDepth rangeShipperQueueDepth
        "shipper_queue_depth"
    let serverUrl := resolveServerUrl raw
    let credentials := resolveCredentials readToString raw serverUrl.1.2
    let cpuSnapshotMode := resolveCpuSnapshotMode raw
    ({ enabled := credentials.1.2.2.isNone
       disableReason := credentials.1.2.2
       serverUrl := serverUrl.1.1
       authToken := credentials.1.1
       authTokenSource := credentials.1.2.1
       flushRecords := asUnsigned 64 flushRecords.1
       flushBytes := asUnsigned 64 flushBytes.1
       bufferCapBytes := asUnsigned 64 bufferCapBytes.1
       maxDepth := asUnsigned 16 maxDepth.1
       retryCount := asUnsigned 8 retryCount.1
       retryBackoff := durationOfMillis retryBackoffMs.1
       httpTimeout := durationOfMillis httpTimeoutMs.1
       shutdownGrace := durationOfMillis shutdownGraceMs.1
       shipperQueueDepth := asUnsigned 64 shipperQueueDepth.1
       cpuSnapshotMode := cpuSnapshotMode.1
       skipFunctions := parseSkipFunctions raw.skipFunctions
       skipInternal := raw.skipInternal.getD false },
      flushRecords.2 ++ flushBytes.2 ++ bufferCapBytes.2 ++ maxDepth.2 ++ retryCount.2 ++
        retryBackoffMs.2 ++ httpTimeoutMs.2 ++ shutdownGraceMs.2 ++ shipperQueueDepth.2 ++
        serverUrl.2 ++ credentials.2 ++ cpuSnapshotMode.2)

end Config

end PhpAnalyze
