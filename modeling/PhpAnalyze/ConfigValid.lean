import PhpAnalyze.Directives

/-! # Every resolved configuration is valid

What the rest of the program takes for granted of a `Config`: every number is in its range, the
configuration is enabled exactly when the master switch, the URL and the token say so, and
whoever is disabled by a mistake is told once (`config_valid`).

The operator's token is `configuredToken`: a file takes precedence, and when it cannot be read
there is no token. -/

namespace PhpAnalyze

open Config

/-! ### What was configured -/

/-- The URL has one of the two supported schemes. -/
def HasHttpScheme (url : String) : Prop :=
  "http://".toList <+: url.toList ∨ "https://".toList <+: url.toList

namespace RawIni

variable (readToString : String → Except String String) (raw : RawIni)

def masterEnabled : Bool := raw.enabled.getD defaultEnabled

def trimmedUrl : String := Text.trim (raw.serverUrl.getD "")

def configuredToken : Option String :=
  match raw.tokenFile with
  | some path =>
      match readToString path with
      | .ok content => some (Text.trim content)
      | .error _ => none
  | none => raw.authToken.map Text.trim

/-- Where the token is from, when there is one. -/
def configuredSource : TokenSource :=
  match raw.tokenFile with
  | some path => .file path
  | none => .inline

/-- There is a token that is not blank. -/
def HasToken : Prop := ∃ token, raw.configuredToken readToString = some token ∧ token ≠ ""

end RawIni

/-- The warnings that come with a disabled configuration. -/
def ConfigWarning.disabling : ConfigWarning → Bool
  | .invalidUrl _ _ => true
  | .unsupportedScheme _ => true
  | .missingServerUrl => true
  | .missingToken => true
  | .tokenFileUnreadable _ _ => true
  | .emptyTokenFile _ => true
  | _ => false

/-! ### The URL -/

theorem splitOnce_of_hasHttpScheme {url : String} (h : HasHttpScheme url) :
    ∃ scheme rest, Text.splitOnce "://".toList url.toList = some (scheme, rest) ∧
      (String.ofList scheme = "https" ∨ String.ofList scheme = "http") := by
  rcases h with h | h
  · obtain ⟨rest, hrest⟩ : ∃ rest, Text.splitOnce "://".toList url.toList =
        some ("http".toList, rest) := Text.splitOnce_of_prefix h (by decide)
    exact ⟨"http".toList, rest, hrest, .inr (by decide)⟩
  · obtain ⟨rest, hrest⟩ : ∃ rest, Text.splitOnce "://".toList url.toList =
        some ("https".toList, rest) := Text.splitOnce_of_prefix h (by decide)
    exact ⟨"https".toList, rest, hrest, .inl (by decide)⟩

theorem prefix_of_splitOnce {url scheme : String} {before rest : List Char}
    (h : Text.splitOnce "://".toList url.toList = some (before, rest))
    (hscheme : String.ofList before = scheme) : scheme.toList ++ "://".toList <+: url.toList := by
  rw [← hscheme, String.toList_ofList]
  exact ⟨rest, (Text.splitOnce_eq_some h).symm⟩

theorem trimmedUrl_ne_empty {url : String} (h : HasHttpScheme url) : url ≠ "" := by
  rintro rfl
  rcases h with h | h
  · exact absurd h (by decide)
  · exact absurd h (by decide)

inductive UrlCase (raw : RawIni) :
    (Option String × ServerUrlOutcome) × List ConfigWarning → Prop
  | usable (ws) (h : HasHttpScheme raw.trimmedUrl) (hws : ws.countP ConfigWarning.disabling = 0) :
      UrlCase raw ((some raw.trimmedUrl, .ok), ws)
  | unset (h : ¬HasHttpScheme raw.trimmedUrl) : UrlCase raw ((none, .unset), [])
  | invalid (reason) (h : ¬HasHttpScheme raw.trimmedUrl) :
      UrlCase raw ((none, .invalidUrl), [.invalidUrl raw.trimmedUrl reason])
  | unsupported (scheme) (h : ¬HasHttpScheme raw.trimmedUrl) :
      UrlCase raw ((none, .unsupportedScheme), [.unsupportedScheme scheme])

theorem resolveServerUrl_cases (raw : RawIni) : UrlCase raw (resolveServerUrl raw) := by
  simp only [resolveServerUrl]
  rw [← RawIni.trimmedUrl]
  split_ifs with hempty
  · exact .unset fun h => trimmedUrl_ne_empty h hempty
  · split
    case h_1 hsplit =>
      refine .invalid _ fun h => ?_
      obtain ⟨scheme, rest, hsome, -⟩ := splitOnce_of_hasHttpScheme h
      rw [hsplit] at hsome
      cases hsome
    case h_2 scheme rest hsplit =>
      split_ifs with hhttps hhttp
      · exact .usable _ (.inr (prefix_of_splitOnce hsplit hhttps)) rfl
      · exact .usable _ (.inl (prefix_of_splitOnce hsplit hhttp)) rfl
      · refine .unsupported _ fun h => ?_
        obtain ⟨scheme', rest', hsome, hknown⟩ := splitOnce_of_hasHttpScheme h
        rw [hsplit] at hsome
        cases hsome
        exact hknown.elim hhttps hhttp

/-! ### The token -/

section token

variable {readToString : String → Except String String} {raw : RawIni}

inductive TokenCase (readToString : String → Except String String) (raw : RawIni) :
    TokenOutcome × List ConfigWarning → Prop
  | usable (token) (h : raw.configuredToken readToString = some token) (hne : token ≠ "") :
      TokenCase readToString raw (.resolved token raw.configuredSource, [])
  | missing (h : ¬raw.HasToken readToString) : TokenCase readToString raw (.missing, [])
  | unreadable (path details) (h : ¬raw.HasToken readToString) :
      TokenCase readToString raw (.fileUnreadable, [.tokenFileUnreadable path details])
  | empty (path) (h : ¬raw.HasToken readToString) :
      TokenCase readToString raw (.fileEmpty, [.emptyTokenFile path])

theorem not_hasToken {token : Option String} (h : raw.configuredToken readToString = token)
    (hblank : token.getD "" = "") : ¬raw.HasToken readToString := by
  rintro ⟨token', hsome, hne⟩
  rw [h] at hsome
  subst hsome
  exact hne hblank

theorem resolveToken_cases : TokenCase readToString raw (resolveToken readToString raw) := by
  simp only [resolveToken]
  split
  case h_1 path hpath =>
    split
    case h_1 content hread =>
      have hconfigured : raw.configuredToken readToString = some (Text.trim content) := by
        simp only [RawIni.configuredToken, hpath, hread]
      split_ifs with hblank
      · exact .empty path (not_hasToken hconfigured hblank)
      · have hsource : raw.configuredSource = .file path := by
          simp only [RawIni.configuredSource, hpath]
        exact hsource ▸ .usable _ hconfigured hblank
    case h_2 details hread =>
      have hconfigured : raw.configuredToken readToString = none := by
        simp only [RawIni.configuredToken, hpath, hread]
      exact .unreadable path details (not_hasToken hconfigured rfl)
  case h_2 hpath =>
    have hconfigured : raw.configuredToken readToString = raw.authToken.map Text.trim := by
      simp only [RawIni.configuredToken, hpath]
    have hsource : raw.configuredSource = .inline := by
      simp only [RawIni.configuredSource, hpath]
    cases htoken : raw.authToken with
    | none =>
        rw [htoken] at hconfigured
        exact .missing (not_hasToken hconfigured rfl)
    | some token =>
        rw [htoken] at hconfigured
        split_ifs with hblank
        · exact .missing (not_hasToken hconfigured hblank)
        · exact hsource ▸ .usable _ hconfigured hblank

/-! ### Both together -/

/-- What the URL and the credentials come to. -/
structure Decided (readToString : String → Except String String) (raw : RawIni)
    (serverUrl : Option String) (credentials : String × TokenSource × Option DisableReason)
    (warnings : List ConfigWarning) : Prop where
  url_iff : ∀ url, serverUrl = some url ↔ url = raw.trimmedUrl ∧ HasHttpScheme url
  reason_iff : credentials.2.2 = none ↔
    HasHttpScheme raw.trimmedUrl ∧ raw.HasToken readToString
  not_master : credentials.2.2 ≠ some .masterSwitchOff
  token : credentials.2.2 = none → raw.configuredToken readToString = some credentials.1 ∧
    credentials.2.1 = raw.configuredSource
  no_token : credentials.2.2 ≠ none → credentials.1 = ""
  disabling : warnings.countP ConfigWarning.disabling = if credentials.2.2 = none then 0 else 1

/-- Without a URL the token is not looked at. -/
theorem decided_of_no_url {reason : DisableReason} {warnings : List ConfigWarning}
    (h : ¬HasHttpScheme raw.trimmedUrl) (hreason : reason ≠ .masterSwitchOff)
    (hwarned : warnings.countP ConfigWarning.disabling = 1) :
    Decided readToString raw none ("", .none, some reason) warnings where
  url_iff := fun _ =>
    ⟨(nomatch ·), fun ⟨hurl, hscheme⟩ => absurd hscheme (hurl ▸ h)⟩
  reason_iff := ⟨(nomatch ·), fun hboth => absurd hboth.1 h⟩
  not_master := fun heq => hreason (Option.some.inj heq)
  token := (nomatch ·)
  no_token := fun _ => rfl
  disabling := hwarned

/-- With a URL but without a token there is one reason, and one warning. -/
theorem decided_of_no_token {reason : DisableReason} {warnings : List ConfigWarning}
    (hurl : HasHttpScheme raw.trimmedUrl) (h : ¬raw.HasToken readToString)
    (hreason : reason ≠ .masterSwitchOff)
    (hwarned : warnings.countP ConfigWarning.disabling = 1) :
    Decided readToString raw (some raw.trimmedUrl) ("", .none, some reason) warnings where
  url_iff := fun url => ⟨fun heq => by cases heq; exact ⟨rfl, hurl⟩, fun heq => by rw [heq.1]⟩
  reason_iff := ⟨(nomatch ·), fun hboth => absurd hboth.2 h⟩
  not_master := fun heq => hreason (Option.some.inj heq)
  token := (nomatch ·)
  no_token := fun _ => rfl
  disabling := hwarned

theorem decided_of_usable {token : String} {warnings : List ConfigWarning}
    (hurl : HasHttpScheme raw.trimmedUrl) (h : raw.configuredToken readToString = some token)
    (hne : token ≠ "") (hwarned : warnings.countP ConfigWarning.disabling = 0) :
    Decided readToString raw (some raw.trimmedUrl) (token, raw.configuredSource, none)
      warnings where
  url_iff := fun url => ⟨fun heq => by cases heq; exact ⟨rfl, hurl⟩, fun heq => by rw [heq.1]⟩
  reason_iff := ⟨fun _ => ⟨hurl, token, h, hne⟩, fun _ => rfl⟩
  not_master := fun heq => by cases heq
  token := fun _ => ⟨h, rfl⟩
  no_token := fun hnone => absurd rfl hnone
  disabling := hwarned

theorem resolveCredentials_decided :
    Decided readToString raw (resolveServerUrl raw).1.1
      (resolveCredentials readToString raw (resolveServerUrl raw).1.2).1
      ((resolveServerUrl raw).2 ++
        (resolveCredentials readToString raw (resolveServerUrl raw).1.2).2) := by
  rcases hurl : resolveServerUrl raw with ⟨⟨url, outcome⟩, urlWarnings⟩
  have hcase := hurl ▸ resolveServerUrl_cases raw
  cases hcase with
  | unset h => exact decided_of_no_url h (by decide) rfl
  | invalid reason h => exact decided_of_no_url h (by decide) rfl
  | unsupported scheme h => exact decided_of_no_url h (by decide) rfl
  | usable ws hscheme hws =>
      simp only [resolveCredentials, ServerUrlOutcome.disableReason]
      rcases htoken : resolveToken readToString raw with ⟨token, tokenWarnings⟩
      have htokenCase : TokenCase readToString raw _ := htoken ▸ resolveToken_cases
      cases htokenCase with
      | usable token h hne =>
          exact decided_of_usable hscheme h hne (by rw [List.append_nil]; exact hws)
      | missing h =>
          exact decided_of_no_token hscheme h (by decide) (by rw [List.countP_append, hws]; rfl)
      | unreadable path details h =>
          exact decided_of_no_token hscheme h (by decide) (by rw [List.countP_append, hws]; rfl)
      | empty path h =>
          exact decided_of_no_token hscheme h (by decide) (by rw [List.countP_append, hws]; rfl)

/-! ### The invariant -/

/-- What holds of the configuration and the warnings that `raw` resolves to. -/
structure ConfigValid (readToString : String → Except String String) (raw : RawIni) (c : Config)
    (warnings : List ConfigWarning) : Prop where
  in_range : ∀ d : IntDirective,
    (d.range c.flushBytes).1 ≤ d.field c ∧ d.field c ≤ (d.range c.flushBytes).2
  flushBytes_le : c.flushBytes ≤ c.bufferCapBytes
  /-- No cast loses anything. -/
  lossless : ∀ d : IntDirective, (d.field c : ℤ) =
    if raw.masterEnabled then (d.resolve raw).1 else d.defaultValue defaultFlushBytes
  /-- The durations are whole milliseconds. -/
  whole : ∀ d ∈ [c.retryBackoff, c.httpTimeout, c.shutdownGrace], fromMillis (asMillis d) = d
  url_iff : ∀ url, c.serverUrl = some url ↔
    raw.masterEnabled = true ∧ url = raw.trimmedUrl ∧ HasHttpScheme url
  enabled_iff : c.enabled = true ↔ c.disableReason = none
  reason_iff : c.disableReason = none ↔
    raw.masterEnabled = true ∧ (∃ url, c.serverUrl = some url ∧ HasHttpScheme url) ∧
      raw.HasToken readToString
  master_iff : c.disableReason = some .masterSwitchOff ↔ raw.masterEnabled = false
  /-- The token is the configured one, without fallback. -/
  token : c.enabled = true → raw.configuredToken readToString = some c.authToken ∧
    c.authTokenSource = raw.configuredSource
  no_token : c.enabled = false → c.authToken = ""
  warned_once : c.enabled = false → c.disableReason ≠ some .masterSwitchOff →
    warnings.countP ConfigWarning.disabling = 1
  not_warned : c.enabled = true → warnings.countP ConfigWarning.disabling = 0
  quiet : raw.masterEnabled = false → warnings = []

theorem countP_disabling_resolve (d : IntDirective) (raw : RawIni) :
    (d.resolve raw).2.countP ConfigWarning.disabling = 0 := by
  rw [resolve_eq, clampDirective_snd]
  split_ifs <;> rfl

theorem countP_disabling (h : raw.enabled.getD defaultEnabled = true) :
    (fromIniValues readToString raw).2.countP ConfigWarning.disabling =
      ((resolveServerUrl raw).2 ++
        (resolveCredentials readToString raw (resolveServerUrl raw).1.2).2).countP
          ConfigWarning.disabling := by
  have hnumbers : (IntDirective.all.flatMap fun d => (d.resolve raw).2).countP
      ConfigWarning.disabling = 0 := by
    simp only [List.countP_flatMap, Function.comp_def, countP_disabling_resolve, List.map_const',
      List.sum_replicate, Nat.nsmul_eq_mul, Nat.mul_zero]
  rw [warnings_eq readToString h, List.countP_append, hnumbers, laterWarnings, List.countP_append,
    countP_resolveCpuSnapshotMode fun _ _ => rfl, Nat.add_zero, Nat.zero_add]

theorem fromMillis_asMillis_durationOfMillis (x : ℤ) :
    fromMillis (asMillis (durationOfMillis x)) = durationOfMillis x :=
  congrArg fromMillis (asMillis_durationOfMillis x)

theorem configValid_of_off (h : raw.masterEnabled = false) :
    ConfigValid readToString raw (disabled .masterSwitchOff) [] where
  in_range d := by cases d <;> decide
  flushBytes_le := by decide
  lossless d := by
    rw [if_neg (by rw [h]; decide)]
    cases d <;> decide
  whole := by decide
  url_iff _ := ⟨(nomatch ·), fun hurl => absurd (h.symm.trans hurl.1) (by decide)⟩
  enabled_iff := by decide
  reason_iff := ⟨(nomatch ·), fun hall => absurd (h.symm.trans hall.1) (by decide)⟩
  master_iff := ⟨fun _ => h, fun _ => rfl⟩
  token := (nomatch ·)
  no_token := fun _ => rfl
  warned_once := fun _ hmaster => absurd rfl hmaster
  not_warned := (nomatch ·)
  quiet := fun _ => rfl

/-- The credentials that the resolved configuration has. -/
def Config.credentials (c : Config) : String × TokenSource × Option DisableReason :=
  (c.authToken, c.authTokenSource, c.disableReason)

theorem serverUrl_eq (h : raw.enabled.getD defaultEnabled = true) :
    (fromIniValues readToString raw).1.serverUrl = (resolveServerUrl raw).1.1 := by
  rw [fromIniValues, if_neg (by rw [h]; decide)]

theorem credentials_eq (h : raw.enabled.getD defaultEnabled = true) :
    (fromIniValues readToString raw).1.credentials =
      (resolveCredentials readToString raw (resolveServerUrl raw).1.2).1 := by
  rw [fromIniValues, if_neg (by rw [h]; decide), Config.credentials]

theorem enabled_eq (h : raw.enabled.getD defaultEnabled = true) :
    (fromIniValues readToString raw).1.enabled =
      (fromIniValues readToString raw).1.disableReason.isNone := by
  rw [fromIniValues, if_neg (by rw [h]; decide)]

theorem durations_whole (h : raw.enabled.getD defaultEnabled = true) :
    let c := (fromIniValues readToString raw).1
    ∀ d ∈ [c.retryBackoff, c.httpTimeout, c.shutdownGrace], fromMillis (asMillis d) = d := by
  rw [fromIniValues, if_neg (by rw [h]; decide)]
  simp only [List.forall_mem_cons, fromMillis_asMillis_durationOfMillis, List.not_mem_nil,
    false_imp_iff, implies_true, and_self]

theorem configValid_of_on (h : raw.masterEnabled = true) :
    ConfigValid readToString raw (fromIniValues readToString raw).1
      (fromIniValues readToString raw).2 := by
  have hdecided : Decided readToString raw _ _ _ := resolveCredentials_decided
  have hcount := (countP_disabling h).trans hdecided.disabling
  have hfield := field_eq readToString h
  have hfb := flushBytes_eq readToString h
  have hcap := hfield .bufferCapBytes
  have hcapRange := (resolve_mem_range .bufferCapBytes raw).1
  have henabled : (fromIniValues readToString raw).1.enabled = _ := enabled_eq h
  have hserverUrl : (fromIniValues readToString raw).1.serverUrl = _ := serverUrl_eq h
  rw [← credentials_eq h] at hdecided hcount
  rw [← hserverUrl] at hdecided
  have hiff : (fromIniValues readToString raw).1.enabled = true ↔
      (fromIniValues readToString raw).1.disableReason = none := by
    rw [henabled, Option.isNone_iff_eq_none]
  have hoff : (fromIniValues readToString raw).1.enabled = false →
      (fromIniValues readToString raw).1.disableReason ≠ none := fun hfalse hnone => by
    rw [hiff.mpr hnone] at hfalse
    cases hfalse
  exact
    { in_range := fun d => by
        rw [hfield, hfb]
        exact resolve_mem_range d raw
      flushBytes_le := by
        simp only [IntDirective.field] at hcap
        simp only [IntDirective.range] at hcapRange
        omega
      lossless := fun d => by rw [if_pos h, hfield]
      whole := durations_whole h
      url_iff := fun url => (hdecided.url_iff url).trans ⟨fun hboth => ⟨h, hboth⟩, And.right⟩
      enabled_iff := hiff
      reason_iff := hdecided.reason_iff.trans
        ⟨fun ⟨hscheme, htoken⟩ =>
          ⟨h, ⟨raw.trimmedUrl, (hdecided.url_iff _).mpr ⟨rfl, hscheme⟩, hscheme⟩, htoken⟩,
        fun ⟨_, ⟨url, hsome, hscheme⟩, htoken⟩ =>
          ⟨((hdecided.url_iff url).mp hsome).1 ▸ hscheme, htoken⟩⟩
      master_iff := ⟨fun heq => absurd heq hdecided.not_master,
        fun hfalse => absurd (h.symm.trans hfalse) (by decide)⟩
      token := fun hon => hdecided.token (hiff.mp hon)
      no_token := fun hfalse => hdecided.no_token (hoff hfalse)
      warned_once := fun hfalse _ => hcount.trans (if_neg (hoff hfalse))
      not_warned := fun hon => hcount.trans (if_pos (hiff.mp hon))
      quiet := fun hfalse => absurd (h.symm.trans hfalse) (by decide) }

/-- **Every resolved configuration is valid.** -/
theorem every_resolved_config_valid (readToString : String → Except String String)
    (raw : RawIni) :
    ConfigValid readToString raw (fromIniValues readToString raw).1
      (fromIniValues readToString raw).2 := by
  cases h : raw.masterEnabled with
  | true => exact configValid_of_on h
  | false =>
      rw [fromIniValues_of_off readToString h]
      exact configValid_of_off h

end token

end PhpAnalyze
