import PhpAnalyze.Directives
import PhpAnalyze.Lib.Numerals

/-! # The ini map (`raw_ini_from_ini_map` in `bootstrap.rs`)

The values of PHP's ini map are texts.  A text that `i64::from_str` does not read is taken for
a directive that is not set; this is also so for an integer that is too large for an `i64`,
which then gets the default and no warning (`integer_directive_clamped_iff`). -/

namespace PhpAnalyze

open Config Numerals

/-- The snapshot of `ini_values()`: a directive is missing, has no value, or a text. -/
abbrev IniMap := String → Option (Option String)

/-- `zend_ini_parse_bool` with the usual texts. -/
def parseBool (s : String) : Option Bool :=
  let t := Text.toAsciiLowercase (Text.trim s)
  if t ∈ ["1", "on", "true", "yes"] then some true
  else if t ∈ ["0", "off", "false", "no", ""] then some false
  else none

def lookupStr (ini : IniMap) (name : String) : Option String :=
  ((ini name).join.map Text.trim).filter (· ≠ "")

def lookupInt (ini : IniMap) (name : String) : Option ℤ := (lookupStr ini name).bind parseI64

def lookupBool (ini : IniMap) (name : String) : Option Bool := (lookupStr ini name).bind parseBool

def rawIniFromIniMap (ini : IniMap) : RawIni where
  enabled := lookupBool ini "php_analyze.enabled"
  serverUrl := lookupStr ini "php_analyze.server_url"
  authToken := lookupStr ini "php_analyze.auth_token"
  authTokenFile := lookupStr ini "php_analyze.auth_token_file"
  flushRecords := lookupInt ini "php_analyze.flush_records"
  flushBytes := lookupInt ini "php_analyze.flush_bytes"
  bufferCapBytes := lookupInt ini "php_analyze.buffer_cap_bytes"
  maxDepth := lookupInt ini "php_analyze.max_depth"
  retryCount := lookupInt ini "php_analyze.retry_count"
  retryBackoffMs := lookupInt ini "php_analyze.retry_backoff_ms"
  httpTimeoutMs := lookupInt ini "php_analyze.http_timeout_ms"
  shutdownGraceMs := lookupInt ini "php_analyze.shutdown_grace_ms"
  shipperQueueDepth := lookupInt ini "php_analyze.shipper_queue_depth"
  cpuSnapshotMode := lookupStr ini "php_analyze.cpu_snapshot_mode"
  skipFunctions := lookupStr ini "php_analyze.skip_functions"
  skipInternal := lookupBool ini "php_analyze.skip_internal"

/-- The directive's name in `php.ini`. -/
def IntDirective.iniName : IntDirective → String
  | flushRecords => "php_analyze.flush_records"
  | flushBytes => "php_analyze.flush_bytes"
  | bufferCapBytes => "php_analyze.buffer_cap_bytes"
  | maxDepth => "php_analyze.max_depth"
  | retryCount => "php_analyze.retry_count"
  | retryBackoffMs => "php_analyze.retry_backoff_ms"
  | httpTimeoutMs => "php_analyze.http_timeout_ms"
  | shutdownGraceMs => "php_analyze.shutdown_grace_ms"
  | shipperQueueDepth => "php_analyze.shipper_queue_depth"

/-- Every integer is looked up under its own name. -/
theorem raw_rawIniFromIniMap (d : IntDirective) (ini : IniMap) :
    d.raw (rawIniFromIniMap ini) = lookupInt ini d.iniName := by
  cases d <;> rfl

theorem lookupStr_eq_some {ini : IniMap} {name text : String} (h : ini name = some (some text))
    (hne : Text.trim text ≠ "") : lookupStr ini name = some (Text.trim text) := by
  rw [lookupStr, h]
  exact Option.filter_eq_some_iff.mpr ⟨rfl, decide_eq_true hne⟩

theorem ne_empty_of_literal {s : String} {n : ℤ} (h : Literal s.toList n) : s ≠ "" := by
  rintro rfl
  obtain ⟨digits, hd, ⟨hcs | hcs, -⟩ | ⟨hcs, -⟩⟩ := h
  · exact hd.ne_nil hcs.symm
  · cases hcs
  · cases hcs

theorem lookupInt_of_literal {ini : IniMap} {name text : String} {n : ℤ}
    (h : ini name = some (some text)) (hlit : Literal (Text.trim text).toList n) :
    lookupInt ini name = checked (-2 ^ 63) (2 ^ 63 - 1) n := by
  rw [lookupInt, lookupStr_eq_some h (ne_empty_of_literal hlit), Option.bind_some, parseI64,
    parseInt_of_literal (by decide) (by decide) hlit]

/-! ### Clamping -/

/-- What is promised of an integer directive: its field is the integer clamped to the range,
and there is one warning when the integer is outside and none when it is inside. -/
structure Clamped (d : IntDirective) (n : ℤ) (resolved : Config × List ConfigWarning) :
    Prop where
  field : (d.field resolved.1 : ℤ) =
    max (d.range resolved.1.flushBytes).1 (min n (d.range resolved.1.flushBytes).2)
  warned : resolved.2.countP (ConfigWarning.outOfRangeFor d.name) =
    if (d.range resolved.1.flushBytes).1 ≤ n ∧ n ≤ (d.range resolved.1.flushBytes).2 then 0
    else 1

section clamped

variable {readToString : String → Except String String} {raw : RawIni}

theorem clamped_of_raw (h : raw.enabled.getD defaultEnabled = true) {d : IntDirective} {n : ℤ}
    (hraw : d.raw raw = some n) : Clamped d n (fromIniValues readToString raw) := by
  have hrange := (range_bounds (resolvedFlushBytes_mem raw) d).2.1
  constructor
  · rw [field_eq readToString h, flushBytes_eq readToString h, resolve_eq,
      clampDirective_fst hrange, hraw]
    rfl
  · rw [countP_outOfRange readToString h, flushBytes_eq readToString h, resolve_eq,
      clampDirective_snd, hraw, Option.getD_some]
    split_ifs <;> rfl

/-- A directive that is not set has no warning, so it is not clamped to anything outside its
range. -/
theorem mem_range_of_clamped (h : raw.enabled.getD defaultEnabled = true) {d : IntDirective}
    {n : ℤ} (hraw : d.raw raw = none) (hclamped : Clamped d n (fromIniValues readToString raw)) :
    (d.range (fromIniValues readToString raw).1.flushBytes).1 ≤ n ∧
      n ≤ (d.range (fromIniValues readToString raw).1.flushBytes).2 := by
  have hdefault := default_mem_range (resolvedFlushBytes_mem raw) d
  have hnone : (d.resolve raw).2.length = 0 := by
    rw [resolve_eq, clampDirective_snd, hraw, Option.getD_none, if_pos hdefault]
    rfl
  have hwarned := hclamped.warned
  rw [countP_outOfRange readToString h, hnone] at hwarned
  split_ifs at hwarned with hin
  exact hin

variable (readToString) in
/-- **Clamping of the integer directives**: a literal is clamped, with one warning when it is out
of range, if and only if it is an `i64`. -/
theorem integer_directive_clamped_iff {ini : IniMap}
    (hon : (rawIniFromIniMap ini).enabled.getD defaultEnabled = true) (d : IntDirective)
    {text : String} {n : ℤ} (hset : ini d.iniName = some (some text))
    (hlit : Literal (Text.trim text).toList n) :
    Clamped d n (fromIniValues readToString (rawIniFromIniMap ini)) ↔
      -2 ^ 63 ≤ n ∧ n ≤ 2 ^ 63 - 1 := by
  have hraw := (raw_rawIniFromIniMap d ini).trans (lookupInt_of_literal hset hlit)
  constructor
  · intro hclamped
    by_contra hout
    rw [checked_eq_none hout] at hraw
    obtain ⟨hlow, hhigh⟩ := mem_range_of_clamped hon hraw hclamped
    rw [flushBytes_eq readToString hon] at hlow hhigh
    obtain ⟨hnonneg, -, -⟩ := range_bounds (resolvedFlushBytes_mem (rawIniFromIniMap ini)) d
    have hlargest := range_le (IntDirective.resolvedFlushBytes (rawIniFromIniMap ini)) d
    omega
  · intro hin
    rw [checked_eq_some hin] at hraw
    exact clamped_of_raw hon hraw

end clamped

def iniWith (name text : String) : IniMap :=
  fun name' => if name' = name then some (some text) else none

/-- A depth beyond `u16` is clamped to it, with one warning. -/
theorem integer_directive_clamped_iff_max_depth :
    Clamped .maxDepth 70000 (fromIniValues (fun _ => .error "No such file or directory")
      (rawIniFromIniMap (iniWith "php_analyze.max_depth" " +70000 "))) :=
  (integer_directive_clamped_iff (fun _ => .error "No such file or directory") (by decide)
    .maxDepth (show iniWith "php_analyze.max_depth" " +70000 " "php_analyze.max_depth" =
      some (some " +70000 ") by decide)
    ⟨"70000".toList, by decide, .inl ⟨.inr (by decide), by decide⟩⟩).mpr
    ⟨by decide, by decide⟩

/-- The first integer past `i64` is not clamped: the directive gets its default, and there is no
warning. -/
theorem not_every_integer_directive_clamped :
    ¬ ∀ (readToString : String → Except String String) (ini : IniMap) (d : IntDirective)
        (text : String) (n : ℤ),
      (rawIniFromIniMap ini).enabled.getD defaultEnabled = true →
      ini d.iniName = some (some text) → Literal (Text.trim text).toList n →
      Clamped d n (fromIniValues readToString (rawIniFromIniMap ini)) := by
  intro h
  have hclamped := h (fun _ => .error "No such file or directory")
    (iniWith "php_analyze.flush_records" "9223372036854775808") .flushRecords
    "9223372036854775808" 9223372036854775808 (by decide) (by decide)
    ⟨"9223372036854775808".toList, by decide, .inl ⟨.inl (by decide), by decide⟩⟩
  have hin := mem_range_of_clamped (by decide) (by decide) hclamped
  exact absurd hin.2 (by decide)

end PhpAnalyze
