import PhpAnalyze.Config

/-! # The integer directives

`fromIniValues` resolves nine integers in the same way.  An `IntDirective` is one of them, with
its name, default, range and field; `resolve` is its `clampDirective`.  The range of
`buffer_cap_bytes` starts at the resolved `flush_bytes`.

Every field holds its clamped integer, the casts lose nothing, and the warnings of a directive
are those of its own `clampDirective` (`field_eq`, `countP_outOfRange`). -/

namespace PhpAnalyze

open Config

/-! ### Casts -/

theorem asUnsigned_cast {bits : ℕ} {x : ℤ} (h : 0 ≤ x ∧ x < 2 ^ bits) :
    (asUnsigned bits x : ℤ) = x := by
  rw [asUnsigned, Int.emod_eq_of_lt h.1 h.2, Int.toNat_of_nonneg h.1]

theorem asMillis_durationOfMillis (x : ℤ) : asMillis (durationOfMillis x) = asUnsigned 64 x :=
  Nat.mul_div_cancel _ (by decide)

/-! ### One directive -/

inductive IntDirective where
  | flushRecords
  | flushBytes
  | bufferCapBytes
  | maxDepth
  | retryCount
  | retryBackoffMs
  | httpTimeoutMs
  | shutdownGraceMs
  | shipperQueueDepth
deriving DecidableEq, Repr

namespace IntDirective

def name : IntDirective → String
  | flushRecords => "flush_records"
  | flushBytes => "flush_bytes"
  | bufferCapBytes => "buffer_cap_bytes"
  | maxDepth => "max_depth"
  | retryCount => "retry_count"
  | retryBackoffMs => "retry_backoff_ms"
  | httpTimeoutMs => "http_timeout_ms"
  | shutdownGraceMs => "shutdown_grace_ms"
  | shipperQueueDepth => "shipper_queue_depth"

def raw : IntDirective → RawIni → Option ℤ
  | flushRecords => RawIni.flushRecords
  | flushBytes => RawIni.flushBytes
  | bufferCapBytes => RawIni.bufferCapBytes
  | maxDepth => RawIni.maxDepth
  | retryCount => RawIni.retryCount
  | retryBackoffMs => RawIni.retryBackoffMs
  | httpTimeoutMs => RawIni.httpTimeoutMs
  | shutdownGraceMs => RawIni.shutdownGraceMs
  | shipperQueueDepth => RawIni.shipperQueueDepth

/-- The default, from the resolved `flush_bytes`. -/
def defaultValue (fb : ℤ) : IntDirective → ℤ
  | flushRecords => defaultFlushRecords
  | flushBytes => defaultFlushBytes
  | bufferCapBytes => max defaultBufferCapBytes fb
  | maxDepth => defaultMaxDepth
  | retryCount => defaultRetryCount
  | retryBackoffMs => defaultRetryBackoffMs
  | httpTimeoutMs => defaultHttpTimeoutMs
  | shutdownGraceMs => defaultShutdownGraceMs
  | shipperQueueDepth => defaultShipperQueueDepth

/-- The documented range, from the resolved `flush_bytes`. -/
def range (fb : ℤ) : IntDirective → ℤ × ℤ
  | flushRecords => rangeFlushRecords
  | flushBytes => rangeFlushBytes
  | bufferCapBytes => (fb, rangeBufferCapBytes.2)
  | maxDepth => rangeMaxDepth
  | retryCount => rangeRetryCount
  | retryBackoffMs => rangeRetryBackoffMs
  | httpTimeoutMs => rangeHttpTimeoutMs
  | shutdownGraceMs => rangeShutdownGraceMs
  | shipperQueueDepth => rangeShipperQueueDepth

def bits : IntDirective → ℕ
  | maxDepth => 16
  | retryCount => 8
  | _ => 64

def field : IntDirective → Config → ℕ
  | flushRecords, c => c.flushRecords
  | flushBytes, c => c.flushBytes
  | bufferCapBytes, c => c.bufferCapBytes
  | maxDepth, c => c.maxDepth
  | retryCount, c => c.retryCount
  | retryBackoffMs, c => asMillis c.retryBackoff
  | httpTimeoutMs, c => asMillis c.httpTimeout
  | shutdownGraceMs, c => asMillis c.shutdownGrace
  | shipperQueueDepth, c => c.shipperQueueDepth

def all : List IntDirective :=
  [flushRecords, flushBytes, bufferCapBytes, maxDepth, retryCount, retryBackoffMs,
    httpTimeoutMs, shutdownGraceMs, shipperQueueDepth]

theorem name_injective {d e : IntDirective} (h : d.name = e.name) : d = e := by
  cases d <;> cases e <;> first | rfl | exact absurd h (by decide)

def resolvedFlushBytes (ini : RawIni) : ℤ :=
  (clampDirective ini.flushBytes defaultFlushBytes rangeFlushBytes "flush_bytes").1

/-- The lower bound of `buffer_cap_bytes` is written as a maximum. -/
def resolve (d : IntDirective) (ini : RawIni) : ℤ × List ConfigWarning :=
  let fb := resolvedFlushBytes ini
  let range := if d = bufferCapBytes then (max rangeBufferCapBytes.1 fb, rangeBufferCapBytes.2)
    else d.range fb
  clampDirective (d.raw ini) (d.defaultValue fb) range d.name

end IntDirective

open IntDirective

/-! ### Clamping -/

theorem clampDirective_fst {raw : Option ℤ} {default : ℤ} {range : ℤ × ℤ} {directive : String}
    (h : range.1 ≤ range.2) :
    (clampDirective raw default range directive).1 =
      max range.1 (min (raw.getD default) range.2) := by
  simp only [clampDirective]
  split_ifs with hlow hhigh
  · exact (max_eq_left ((min_le_left _ _).trans hlow.le)).symm
  · rw [min_eq_right (le_of_lt hhigh), max_eq_right h]
  · rw [min_eq_left (not_lt.mp hhigh), max_eq_right (not_lt.mp hlow)]

/-- A value outside the range has one warning, a value inside has none. -/
theorem clampDirective_snd {raw : Option ℤ} {default : ℤ} {range : ℤ × ℤ} {directive : String} :
    (clampDirective raw default range directive).2 =
      if range.1 ≤ raw.getD default ∧ raw.getD default ≤ range.2 then []
      else
        [.outOfRange directive (raw.getD default)
          (clampDirective raw default range directive).1] := by
  simp only [clampDirective]
  split_ifs with hlow hin hhigh hin hin
  · omega
  · rfl
  · omega
  · rfl
  · rfl
  · omega

theorem resolvedFlushBytes_mem (ini : RawIni) :
    1024 ≤ resolvedFlushBytes ini ∧ resolvedFlushBytes ini ≤ 1000000000 := by
  rw [resolvedFlushBytes, clampDirective_fst (by decide)]
  simp only [rangeFlushBytes]
  omega

/-- Every range is one of the values of the field. -/
theorem range_bounds {fb : ℤ} (hfb : 1024 ≤ fb ∧ fb ≤ 1000000000) (d : IntDirective) :
    0 ≤ (d.range fb).1 ∧ (d.range fb).1 ≤ (d.range fb).2 ∧ (d.range fb).2 < 2 ^ d.bits := by
  cases d <;>
    simp only [range, bits, rangeFlushRecords, rangeFlushBytes, rangeBufferCapBytes,
      rangeMaxDepth, rangeRetryCount, rangeRetryBackoffMs, rangeHttpTimeoutMs,
      rangeShutdownGraceMs, rangeShipperQueueDepth] <;>
    omega

/-- The largest value of all ranges is that of `buffer_cap_bytes`. -/
theorem range_le (fb : ℤ) (d : IntDirective) : (d.range fb).2 ≤ 10000000000 := by
  cases d <;>
    simp only [range, rangeFlushRecords, rangeFlushBytes, rangeBufferCapBytes, rangeMaxDepth,
      rangeRetryCount, rangeRetryBackoffMs, rangeHttpTimeoutMs, rangeShutdownGraceMs,
      rangeShipperQueueDepth] <;>
    omega

/-- Every default is in its range. -/
theorem default_mem_range {fb : ℤ} (hfb : 1024 ≤ fb ∧ fb ≤ 1000000000) (d : IntDirective) :
    (d.range fb).1 ≤ d.defaultValue fb ∧ d.defaultValue fb ≤ (d.range fb).2 := by
  cases d with
  | bufferCapBytes =>
      simp only [range, defaultValue, rangeBufferCapBytes, defaultBufferCapBytes]
      omega
  | _ =>
      rw [range, defaultValue]
      decide

theorem resolve_eq (d : IntDirective) (ini : RawIni) :
    d.resolve ini = clampDirective (d.raw ini) (d.defaultValue (resolvedFlushBytes ini))
      (d.range (resolvedFlushBytes ini)) d.name := by
  simp only [resolve]
  split_ifs with h
  · subst h
    have hlower : max rangeBufferCapBytes.1 (resolvedFlushBytes ini) = resolvedFlushBytes ini :=
      max_eq_right (resolvedFlushBytes_mem ini).1
    rw [hlower]
    rfl
  · rfl

/-- The resolved value is in the range. -/
theorem resolve_mem_range (d : IntDirective) (ini : RawIni) :
    (d.range (resolvedFlushBytes ini)).1 ≤ (d.resolve ini).1 ∧
      (d.resolve ini).1 ≤ (d.range (resolvedFlushBytes ini)).2 := by
  have hrange := (range_bounds (resolvedFlushBytes_mem ini) d).2.1
  rw [resolve_eq, clampDirective_fst hrange]
  exact ⟨le_max_left _ _, max_le hrange (min_le_right _ _)⟩

/-! ### The warnings of the others -/

/-- The warning that this directive is out of range. -/
def ConfigWarning.outOfRangeFor (directive : String) : ConfigWarning → Bool
  | .outOfRange directive' _ _ => directive' = directive
  | _ => false

theorem countP_resolve (d e : IntDirective) (ini : RawIni) :
    (e.resolve ini).2.countP (ConfigWarning.outOfRangeFor d.name) =
      if d = e then (d.resolve ini).2.length else 0 := by
  split_ifs with h
  · subst h
    rw [resolve_eq, clampDirective_snd]
    split_ifs
    · rfl
    · exact List.countP_eq_length.mpr fun w hw => by
        rw [List.mem_singleton.mp hw]
        exact decide_eq_true rfl
  · rw [resolve_eq, clampDirective_snd]
    split_ifs
    · rfl
    · have hname : ¬e.name = d.name := fun he => h (name_injective he).symm
      exact List.countP_eq_zero.mpr fun w hw => by
        rw [List.mem_singleton.mp hw]
        simpa [ConfigWarning.outOfRangeFor] using hname

theorem countP_resolve_all (d : IntDirective) (ini : RawIni) :
    (all.flatMap fun e => (e.resolve ini).2).countP (ConfigWarning.outOfRangeFor d.name) =
      (d.resolve ini).2.length := by
  rw [List.countP_flatMap]
  simp only [Function.comp_def, countP_resolve]
  cases d <;> simp [all]

theorem countP_resolveServerUrl (d : IntDirective) (ini : RawIni) :
    (resolveServerUrl ini).2.countP (ConfigWarning.outOfRangeFor d.name) = 0 := by
  simp only [resolveServerUrl]
  split_ifs
  · rfl
  · split
    · rfl
    · split_ifs <;> rfl

theorem countP_resolveToken (readToString : String → Except String String) (d : IntDirective)
    (ini : RawIni) :
    (resolveToken readToString ini).2.countP (ConfigWarning.outOfRangeFor d.name) = 0 := by
  simp only [resolveToken]
  split
  · split
    · split_ifs <;> rfl
    · rfl
  · split_ifs <;> rfl

theorem countP_resolveCredentials (readToString : String → Except String String)
    (d : IntDirective) (ini : RawIni) (outcome : ServerUrlOutcome) :
    (resolveCredentials readToString ini outcome).2.countP
      (ConfigWarning.outOfRangeFor d.name) = 0 := by
  have htoken := countP_resolveToken readToString d ini
  simp only [resolveCredentials]
  split
  · split_ifs <;> rfl
  · split <;> simp_all [ConfigWarning.outOfRangeFor]

/-- The mode has a warning of its own only. -/
theorem countP_resolveCpuSnapshotMode {q : ConfigWarning → Bool}
    (hq : ∀ text default, q (.unknownCpuSnapshotMode text default) = false) (ini : RawIni) :
    (resolveCpuSnapshotMode ini).2.countP q = 0 := by
  simp only [resolveCpuSnapshotMode]
  split
  · rfl
  · split
    · rfl
    · rw [List.countP_singleton, hq]
      rfl

/-! ### The resolved configuration -/

section resolved

variable (readToString : String → Except String String) (ini : RawIni)

/-- The warnings after those of the integers. -/
def laterWarnings : List ConfigWarning :=
  (resolveServerUrl ini).2 ++
    (resolveCredentials readToString ini (resolveServerUrl ini).1.2).2 ++
    (resolveCpuSnapshotMode ini).2

variable {ini}

/-- With the master switch off nothing else is looked at. -/
theorem fromIniValues_of_off (h : ini.enabled.getD defaultEnabled = false) :
    fromIniValues readToString ini = (disabled .masterSwitchOff, []) := if_pos h

theorem warnings_eq (h : ini.enabled.getD defaultEnabled = true) :
    (fromIniValues readToString ini).2 =
      (all.flatMap fun d => (d.resolve ini).2) ++ laterWarnings readToString ini := by
  rw [fromIniValues, if_neg (by rw [h]; decide)]
  simp only [all, List.flatMap_cons, List.flatMap_nil, List.append_assoc, List.append_nil,
    laterWarnings]
  rfl

/-- The field before the cast is undone. -/
theorem field_eq_asUnsigned (h : ini.enabled.getD defaultEnabled = true) (d : IntDirective) :
    d.field (fromIniValues readToString ini).1 = asUnsigned d.bits (d.resolve ini).1 := by
  rw [fromIniValues, if_neg (by rw [h]; decide)]
  cases d with
  | retryBackoffMs => exact asMillis_durationOfMillis _
  | httpTimeoutMs => exact asMillis_durationOfMillis _
  | shutdownGraceMs => exact asMillis_durationOfMillis _
  | _ => rfl

/-- **Every cast is lossless.** -/
theorem field_eq (h : ini.enabled.getD defaultEnabled = true) (d : IntDirective) :
    (d.field (fromIniValues readToString ini).1 : ℤ) = (d.resolve ini).1 := by
  obtain ⟨hnonneg, hle, hlt⟩ := range_bounds (resolvedFlushBytes_mem ini) d
  obtain ⟨hlow, hhigh⟩ := resolve_mem_range d ini
  rw [field_eq_asUnsigned readToString h]
  exact asUnsigned_cast ⟨hnonneg.trans hlow, hhigh.trans_lt hlt⟩

theorem flushBytes_eq (h : ini.enabled.getD defaultEnabled = true) :
    ((fromIniValues readToString ini).1.flushBytes : ℤ) = resolvedFlushBytes ini :=
  (field_eq readToString h .flushBytes).trans
    (congrArg Prod.fst (resolve_eq .flushBytes ini))

/-- **One warning** for a directive out of its range, none for one inside. -/
theorem countP_outOfRange (h : ini.enabled.getD defaultEnabled = true) (d : IntDirective) :
    (fromIniValues readToString ini).2.countP (ConfigWarning.outOfRangeFor d.name) =
      (d.resolve ini).2.length := by
  rw [warnings_eq readToString h, List.countP_append, countP_resolve_all, laterWarnings,
    List.countP_append, List.countP_append, countP_resolveServerUrl, countP_resolveCredentials,
    countP_resolveCpuSnapshotMode fun _ _ => rfl]
  rfl

end resolved

end PhpAnalyze
