import PhpAnalyze.Lib.Numerals
import PhpAnalyze.Lib.Text
import PhpAnalyze.Shipper

/-! # What a drop notice says

`readDropNotice` reads the line of `format_drop_notice` back: how many records were dropped, of
which trace, where they should have gone, and why after how many attempts.  The number of the
records comes first, so that it can be read whatever the URL is (`namedRecords_formatDropNotice`);
for the others the identifier has to be one word, and the URL without blanks
(`readDropNotice_formatDropNotice`).  A UUID is such a word, so a notice tells which drop it is
about (`formatDropNotice_inj`). -/

namespace PhpAnalyze

open Digits Numerals

structure DropNotice where
  records : ℕ
  traceId : String
  serverUrl : String
  /-- The token of a `DropReason`. -/
  reason : String
  attempts : ℕ
deriving DecidableEq, Repr

/-- The number of records, and what comes after it. -/
def readRecords (notice : String) : Option (ℕ × List Char) := do
  let rest ← Text.stripPrefix "php-analyze: dropped " notice
  let (records, rest) ← Text.splitOnce " records from trace ".toList rest.toList
  return (digitsFrom 0 records, rest)

def namedRecords (notice : String) : Option ℕ := (readRecords notice).map Prod.fst

def readDropNotice (notice : String) : Option DropNotice := do
  let (records, rest) ← readRecords notice
  let (traceId, rest) ← Text.splitOnce ": ".toList rest
  let (serverUrl, rest) ← Text.splitOnce " ".toList rest
  let (reason, rest) ← Text.splitOnce "(attempt ".toList rest
  let (attempts, _) ← Text.splitOnce ")".toList rest
  return {
    records
    traceId := String.ofList traceId
    serverUrl := String.ofList serverUrl
    -- the token stands before the last blank
    reason := String.ofList reason.dropLast
    attempts := digitsFrom 0 attempts }

/-! ### The tokens -/

theorem digitsFrom_toString (n : ℕ) : digitsFrom 0 (toString n).toList = n :=
  digitsFrom_renderDigits n

theorem not_mem_toString (n : ℕ) {c : Char} (hc : c.isDigit = false) : c ∉ (toString n).toList := by
  intro hmem
  have hdigit := (isDigits_renderDigits n).digits c hmem
  rw [hc] at hdigit
  cases hdigit

theorem not_mem_display (reason : DropReason) : '(' ∉ reason.display.toList := by
  cases reason with
  | httpStatus code =>
      rw [DropReason.display, String.toList_append, List.mem_append, not_or]
      exact ⟨by decide, not_mem_toString _ rfl⟩
  | _ => decide

/-- Only the token of a status begins like that. -/
theorem startsWith_display {reason : DropReason}
    (h : Text.startsWith "http " reason.display = true) :
    ∃ code, reason = .httpStatus code := by
  cases reason with
  | httpStatus code => exact ⟨code, rfl⟩
  | _ => exact absurd h (by decide)

/-- **A reason is known from its token.** -/
theorem display_injective {reason reason' : DropReason} (h : reason.display = reason'.display) :
    reason = reason' := by
  have hstatus : ∀ code, Text.startsWith "http " (DropReason.httpStatus code).display = true :=
    fun code => Text.startsWith_append _ _
  cases reason with
  | httpStatus code =>
      obtain ⟨code', rfl⟩ := startsWith_display (h ▸ hstatus code)
      have hdigits : toString code.toNat = toString code'.toNat := by
        simpa [DropReason.display] using h
      have hvalue : code.toNat = code'.toNat := by
        rw [← digitsFrom_toString code.toNat, hdigits, digitsFrom_toString]
      rw [UInt16.toNat_inj.mp hvalue]
  | _ =>
      cases reason' with
      | httpStatus code' => exact absurd (h ▸ hstatus code') (by decide)
      | _ => first | rfl | exact absurd h (by decide)

/-! ### Reading a notice -/

variable (env : NoticeEnv) (batch : PendingBatch) (reason : DropReason) (attempts : ℕ)

/-- The notice after the number of the records. -/
def noticeTail : String :=
  env.uuidToString batch.metaPartial.traceId ++ ": " ++ (env.serverUrl.getD "" ++ " " ++
    (reason.display ++ " " ++ "(attempt " ++ (toString attempts ++ ")" ++ "")))

theorem formatDropNotice_eq :
    formatDropNotice env batch reason attempts = "php-analyze: dropped " ++
      (toString batch.calls.length ++ " records from trace " ++
        noticeTail env batch reason attempts) := by
  have hblank : " (attempt " = " " ++ "(attempt " := by decide
  unfold formatDropNotice noticeTail
  rw [hblank, String.append_empty]
  simp only [String.append_assoc]

theorem readRecords_formatDropNotice :
    readRecords (formatDropNotice env batch reason attempts) =
      some (batch.calls.length, (noticeTail env batch reason attempts).toList) := by
  have hblank := not_mem_toString batch.calls.length (c := ' ') rfl
  have hsplit := Text.splitOnce_toList " records from trace " (by decide) hblank
  rw [readRecords, formatDropNotice_eq, Text.stripPrefix_append]
  simp only [Option.bind_eq_bind, Option.bind_some, hsplit, digitsFrom_toString]
  rfl

/-- **A notice names the records of its batch.** -/
theorem namedRecords_formatDropNotice :
    namedRecords (formatDropNotice env batch reason attempts) = some batch.calls.length := by
  rw [namedRecords, readRecords_formatDropNotice, Option.map_some]

variable {env batch}

/-- **A notice says which batch was dropped, and why.** -/
theorem readDropNotice_formatDropNotice
    (htrace : Text.IsWord (env.uuidToString batch.metaPartial.traceId))
    (hurl : Text.Unbroken (env.serverUrl.getD "")) :
    readDropNotice (formatDropNotice env batch reason attempts) = some
      { records := batch.calls.length
        traceId := env.uuidToString batch.metaPartial.traceId
        serverUrl := env.serverUrl.getD ""
        reason := reason.display
        attempts } := by
  have hcolon := htrace.not_mem (c := ':') rfl (by decide)
  have hblank : ' ' ∉ (env.serverUrl.getD "").toList := fun h => absurd (hurl ' ' h) (by decide)
  have hopen : '(' ∉ (reason.display ++ " ").toList := by
    rw [String.toList_append, List.mem_append, not_or]
    exact ⟨not_mem_display reason, by decide⟩
  have hclose := not_mem_toString attempts (c := ')') rfl
  have htoken : (reason.display ++ " ").toList.dropLast = reason.display.toList := by
    rw [String.toList_append]
    exact List.dropLast_concat
  rw [readDropNotice, readRecords_formatDropNotice, noticeTail]
  simp only [Option.bind_eq_bind, Option.bind_some, Text.splitOnce_toList ": " (by decide) hcolon,
    Text.splitOnce_toList " " (by decide) hblank,
    Text.splitOnce_toList "(attempt " (by decide) hopen,
    Text.splitOnce_toList ")" (by decide) hclose, htoken, digitsFrom_toString,
    String.ofList_toList]
  rfl

theorem isWord_hyphenated (id : TraceId) : Text.IsWord (Uuid.hyphenated id) :=
  fun _ hc => Uuid.isAlphanum_or_hyphen id hc

/-- **Drops with the same notice agree in all that it names.** -/
theorem formatDropNotice_inj (huuid : env.uuidToString = Uuid.hyphenated)
    (hurl : Text.Unbroken (env.serverUrl.getD "")) {batch' : PendingBatch}
    {reason reason' : DropReason} {attempts attempts' : ℕ}
    (h : formatDropNotice env batch reason attempts =
      formatDropNotice env batch' reason' attempts') :
    batch.calls.length = batch'.calls.length ∧
      batch.metaPartial.traceId = batch'.metaPartial.traceId ∧ reason = reason' ∧
      attempts = attempts' := by
  have hword : ∀ id, Text.IsWord (env.uuidToString id) := by
    intro id
    rw [huuid]
    exact isWord_hyphenated id
  have hread := congrArg readDropNotice h
  rw [readDropNotice_formatDropNotice reason attempts (hword _) hurl,
    readDropNotice_formatDropNotice reason' attempts' (hword _) hurl] at hread
  obtain ⟨hrecords, htrace, -, hreason, hattempts⟩ := DropNotice.mk.inj (Option.some.inj hread)
  rw [huuid] at htrace
  exact ⟨hrecords, Uuid.hyphenated_injective htrace, display_injective hreason, hattempts⟩

end PhpAnalyze
