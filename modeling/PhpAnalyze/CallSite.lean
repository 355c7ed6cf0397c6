import Mathlib.Data.Nat.Size
import Mathlib.Tactic.NormNum
import PhpAnalyze.Lib.Digits
import PhpAnalyze.Types

/-! # Call sites and the two categorisers (`recorder/observer.rs`)

`categorise` maps a call site to an owned key and a rendered name; `categoriseLazy` is its
zero-allocation sibling on the production path, with a borrowed key and a description of
the name (`FqnSpec`) that is rendered only on a dictionary miss.

Both walk the same ladder: internal, method, closure, user function.  They agree exactly on
the call sites whose name is reported, or that fall into the closure row
(`categoriseLazy_agrees_iff`): in the three rows that need a fallback name the owning
categoriser makes one from the `execute_data` address and the lazy one does not. -/

namespace PhpAnalyze

open Digits

structure RawCallSite where
  functionName : Option String
  className : Option String
  filename : Option String
  lineno : UInt32
  isInternal : Bool
  executeDataAddr : UInt64
deriving DecidableEq, Repr

structure Categorised where
  key : FunctionKey
  kind : FunctionKind
  fqn : String
  file : String
  line : UInt32
deriving DecidableEq, Repr

/-- `({kind})@0x{addr:x}`. -/
def unknownPlaceholder (kind : String) (addr : UInt64) : String :=
  "(" ++ kind ++ ")@0x" ++ renderDigits 16 addr.toNat

/-- `name.starts_with("\x7bclosure")`. -/
def startsWithClosure (name : String) : Bool :=
  "\x7bclosure".toList.isPrefixOf name.toList

/-- The closure row of both categorisers. -/
def RawCallSite.isClosure (info : RawCallSite) : Bool :=
  match info.functionName with
  | some name => startsWithClosure name
  | none => info.filename.isSome

def categorise (info : RawCallSite) : Categorised :=
  let line := info.lineno
  let file := info.filename.getD ""
  if info.isInternal then
    let name := info.functionName.getD (unknownPlaceholder "anonymous" info.executeDataAddr)
    { key := .internal name, kind := .internal, fqn := name, file := "", line := 0 }
  else match info.className with
    | some class_ =>
        let method := info.functionName.getD (unknownPlaceholder "unknown" info.executeDataAddr)
        { key := .method class_ method, kind := .method, fqn := class_ ++ "::" ++ method,
          file, line }
    | none =>
        if info.isClosure then
          { key := .closure file line, kind := .closure,
            fqn := "closure:" ++ file ++ ":" ++ renderDigits 10 line.toNat, file, line }
        else
          let function :=
            info.functionName.getD (unknownPlaceholder "unknown" info.executeDataAddr)
          { key := .function file function line, kind := .function, fqn := function, file, line }

inductive FqnSpec where
  | borrowed (name : String)
  | method (class_ method : String)
  | closure (file : String) (line : UInt32)
  | unknown (kindLabel : String) (addr : UInt64)
deriving DecidableEq, Repr

def FqnSpec.render : FqnSpec → String
  | .borrowed name => name
  | .method class_ meth => class_ ++ "::" ++ meth
  | .closure file line => "closure:" ++ file ++ ":" ++ renderDigits 10 line.toNat
  | .unknown kindLabel addr => unknownPlaceholder kindLabel addr

/-- Length of the rendered name without rendering.  `line.ilog10()` is `Nat.log 10`, and
`usize::BITS - addr.leading_zeros()` is the bit length `Nat.size`. -/
def FqnSpec.renderLen : FqnSpec → ℕ
  | .borrowed name => name.utf8ByteSize
  | .method class_ meth => class_.utf8ByteSize + 2 + meth.utf8ByteSize
  | .closure file line =>
      let lineDigits := if line = 0 then 1 else Nat.log 10 line.toNat + 1
      "closure:".utf8ByteSize + file.utf8ByteSize + 1 + lineDigits
  | .unknown kindLabel addr =>
      let hexDigits := if addr = 0 then 1 else (Nat.size addr.toNat + 3) / 4
      1 + kindLabel.utf8ByteSize + 1 + 1 + 2 + hexDigits

structure LazyCategorised where
  keyRef : FunctionKeyRef
  kind : FunctionKind
  fqnSpec : FqnSpec
  file : String
  line : UInt32
deriving DecidableEq, Repr

def categoriseLazy (info : RawCallSite) : LazyCategorised :=
  let line := info.lineno
  let file := info.filename.getD ""
  if info.isInternal then
    let (keyRef, fqnSpec) := match info.functionName with
      | some name => (FunctionKeyRef.internal name, FqnSpec.borrowed name)
      | none =>
          let addr := info.executeDataAddr
          -- `line: addr as u32` keeps the low 32 bits of the address
          (FunctionKeyRef.function "" "" addr.toUInt32, FqnSpec.unknown "anonymous" addr)
    { keyRef, kind := .internal, fqnSpec, file := "", line := 0 }
  else match info.className with
    | some class_ =>
        let method := info.functionName.getD ""
        { keyRef := .method class_ method, kind := .method, fqnSpec := .method class_ method,
          file, line }
    | none =>
        if info.isClosure then
          { keyRef := .closure file line, kind := .closure, fqnSpec := .closure file line,
            file, line }
        else
          let function := info.functionName.getD ""
          { keyRef := .function file function line, kind := .function,
            fqnSpec := .borrowed function, file, line }

/-! ### The length of a rendered name -/

theorem bitLength_eq_log (n : ℕ) (hn : n ≠ 0) : (Nat.size n + 3) / 4 = Nat.log 16 n + 1 := by
  have hpow : ∀ k, n < 16 ^ k ↔ Nat.size n ≤ 4 * k := by
    intro k
    rw [Nat.size_le, pow_mul]
    norm_num
  have hlog : Nat.log 16 n + 1 ≤ (Nat.size n + 3) / 4 :=
    Nat.log_lt_of_lt_pow hn ((hpow _).mpr (by omega))
  have hsize : Nat.size n ≤ 4 * (Nat.log 16 n + 1) :=
    (hpow _).mp (Nat.lt_pow_succ_log_self (by norm_num) n)
  omega

/-- **The projected length is the rendered length**, for every name description. -/
theorem FqnSpec.renderLen_eq (spec : FqnSpec) : spec.renderLen = spec.render.utf8ByteSize := by
  cases spec with
  | borrowed name => rfl
  | method class_ meth =>
      have h : "::".utf8ByteSize = 2 := by decide
      simp only [renderLen, render, String.utf8ByteSize_append, h]
  | closure file line =>
      have h : ":".utf8ByteSize = 1 := by decide
      simp only [renderLen, render, String.utf8ByteSize_append, h,
        utf8ByteSize_renderDigits (show 1 < 10 by norm_num)]
      split_ifs with hl
      · subst hl; simp
      · rfl
  | unknown kindLabel addr =>
      have h₁ : "(".utf8ByteSize = 1 := by decide
      have h₂ : ")@0x".utf8ByteSize = 4 := by decide
      simp only [renderLen, render, unknownPlaceholder, String.utf8ByteSize_append, h₁, h₂,
        utf8ByteSize_renderDigits (show 1 < 16 by norm_num)]
      split_ifs with ha
      · subst ha; simp
      · have hne : addr.toNat ≠ 0 := fun h => ha (UInt64.toNat_inj.mp h)
        rw [bitLength_eq_log _ hne]

/-! ### Agreement of the two categorisers -/

/-- The two results denote the same function. -/
def SameFunction (lazy : LazyCategorised) (cat : Categorised) : Prop :=
  lazy.keyRef.toOwned = cat.key ∧ lazy.kind = cat.kind ∧ lazy.fqnSpec.render = cat.fqn ∧
    lazy.file = cat.file ∧ lazy.line = cat.line

/-- The name is reported, or the closure row identifies the function without it. -/
def RawCallSite.NamedOrClosure (info : RawCallSite) : Prop :=
  info.functionName.isSome ∨
    (info.isInternal = false ∧ info.className = none ∧ info.filename.isSome)

instance (info : RawCallSite) : Decidable info.NamedOrClosure := by
  unfold RawCallSite.NamedOrClosure
  infer_instance

theorem unknownPlaceholder_ne_empty (kind : String) (addr : UInt64) :
    unknownPlaceholder kind addr ≠ "" := by
  intro h
  have hlen := congrArg String.utf8ByteSize h
  have h₁ : "(".utf8ByteSize = 1 := by decide
  simp only [unknownPlaceholder, String.utf8ByteSize_append, h₁, String.utf8ByteSize_empty]
    at hlen
  omega

/-- With the name reported, the two ladders take the same row with the same name. -/
theorem sameFunction_of_name {info : RawCallSite} {name : String}
    (hname : info.functionName = some name) :
    SameFunction (categoriseLazy info) (categorise info) := by
  unfold SameFunction categoriseLazy categorise
  simp only [hname, Option.getD_some]
  cases hint : info.isInternal with
  | true => exact ⟨rfl, rfl, rfl, rfl, rfl⟩
  | false =>
      cases hclass : info.className with
      | some class_ => exact ⟨rfl, rfl, rfl, rfl, rfl⟩
      | none => cases info.isClosure <;> exact ⟨rfl, rfl, rfl, rfl, rfl⟩

theorem sameFunction_of_namedOrClosure {info : RawCallSite} (h : info.NamedOrClosure) :
    SameFunction (categoriseLazy info) (categorise info) := by
  cases hname : info.functionName with
  | some name => exact sameFunction_of_name hname
  | none =>
      obtain ⟨hint, hclass, hfile⟩ := h.resolve_left (by simp [hname])
      have hclosure : info.isClosure = true := by
        simp only [RawCallSite.isClosure, hname, hfile]
      unfold SameFunction categoriseLazy categorise
      simp only [hint, hclass, hclosure]
      exact ⟨rfl, rfl, rfl, rfl, rfl⟩

/-- **Agreement of the categorisers**: they denote the same function exactly on the call
sites with a reported name and on nameless closures. -/
theorem categoriseLazy_agrees_iff (info : RawCallSite) :
    SameFunction (categoriseLazy info) (categorise info) ↔ info.NamedOrClosure := by
  refine ⟨fun h => ?_, sameFunction_of_namedOrClosure⟩
  by_contra hno
  obtain ⟨hnone, hrow⟩ := not_or.mp hno
  have hname : info.functionName = none := Option.not_isSome_iff_eq_none.mp hnone
  have hkey := h.1
  cases hint : info.isInternal with
  | true =>
      -- the lazy key is a `Function` key, the owned one an `Internal` key
      simp [categoriseLazy, categorise, hint, hname, FunctionKeyRef.toOwned] at hkey
  | false =>
      cases hclass : info.className with
      | some class_ =>
          simp [categoriseLazy, categorise, hint, hname, hclass, FunctionKeyRef.toOwned] at hkey
          exact unknownPlaceholder_ne_empty _ _ hkey
      | none =>
          have hfile : info.filename = none := by
            by_contra hf
            exact hrow ⟨hint, hclass, Option.isSome_iff_ne_none.mpr hf⟩
          simp [categoriseLazy, categorise, hint, hname, hclass, hfile, RawCallSite.isClosure,
            FunctionKeyRef.toOwned] at hkey
          exact unknownPlaceholder_ne_empty _ _ hkey

def RawCallSite.empty (executeDataAddr : UInt64) : RawCallSite where
  functionName := none
  className := none
  filename := none
  lineno := 0
  isInternal := false
  executeDataAddr := executeDataAddr

/-- On a call site without a function the lazy key has an empty name, the owned one
`(unknown)@0x1000`. -/
theorem categoriseLazy_disagrees_on_empty :
    ¬ SameFunction (categoriseLazy (RawCallSite.empty 0x1000))
        (categorise (RawCallSite.empty 0x1000)) := by
  rw [categoriseLazy_agrees_iff]
  decide

end PhpAnalyze
