import PhpAnalyze.CallSite

/-! # What a hot-path key identifies

A dictionary hit takes the `fn_id` of an earlier call site with the same `key_ref`, so a key
should fix the function: its kind and its rendered name (`HitSound`).  And call sites without
a name should be told apart by their `execute_data` address (`Tiebreaker`).

The fallbacks of `categoriseLazy` break both.  A nameless internal call site borrows the
`Function` variant with the low 32 bits of its address for a line; a nameless method or
function keeps an empty name and no address at all.  `Collides` lists the four kinds of
pairs that go wrong, and there are no others (`keySound_iff`). -/

namespace PhpAnalyze

open Digits

/-! ### The rows of the ladder -/

namespace RawCallSite

def AnonymousInternal (info : RawCallSite) : Prop :=
  info.isInternal = true ∧ info.functionName = none

def InClosureRow (info : RawCallSite) : Prop :=
  info.isInternal = false ∧ info.className = none ∧ info.isClosure = true

/-- The fall-through row of a user function. -/
def InFunctionRow (info : RawCallSite) : Prop :=
  info.isInternal = false ∧ info.className = none ∧ info.isClosure = false

end RawCallSite

/-- The row that a call site takes, with what the row makes of it. -/
inductive LazyRow (info : RawCallSite) : LazyCategorised → Prop
  | named (name) (hint : info.isInternal = true) (hname : info.functionName = some name) :
      LazyRow info
        { keyRef := .internal name, kind := .internal, fqnSpec := .borrowed name, file := ""
          line := 0 }
  | anonymous (hrow : info.AnonymousInternal) :
      LazyRow info
        { keyRef := .function "" "" info.executeDataAddr.toUInt32, kind := .internal
          fqnSpec := .unknown "anonymous" info.executeDataAddr, file := "", line := 0 }
  | method (class_) (hint : info.isInternal = false) (hclass : info.className = some class_) :
      LazyRow info
        { keyRef := .method class_ (info.functionName.getD ""), kind := .method
          fqnSpec := .method class_ (info.functionName.getD ""), file := info.filename.getD ""
          line := info.lineno }
  | closure (hrow : info.InClosureRow) :
      LazyRow info
        { keyRef := .closure (info.filename.getD "") info.lineno, kind := .closure
          fqnSpec := .closure (info.filename.getD "") info.lineno
          file := info.filename.getD "", line := info.lineno }
  | function (hrow : info.InFunctionRow) :
      LazyRow info
        { keyRef := .function (info.filename.getD "") (info.functionName.getD "") info.lineno
          kind := .function, fqnSpec := .borrowed (info.functionName.getD "")
          file := info.filename.getD "", line := info.lineno }

/-- **The five rows of the lazy categoriser.** -/
theorem lazyRow (info : RawCallSite) : LazyRow info (categoriseLazy info) := by
  unfold categoriseLazy
  cases hint : info.isInternal with
  | true =>
      cases hname : info.functionName with
      | some name => exact .named name hint hname
      | none => exact .anonymous ⟨hint, hname⟩
  | false =>
      cases hclass : info.className with
      | some class_ => exact .method class_ hint hclass
      | none =>
          cases hclosure : info.isClosure with
          | true => exact .closure ⟨hint, hclass, hclosure⟩
          | false => exact .function ⟨hint, hclass, hclosure⟩

/-! ### Reading a row back from its key -/

namespace LazyRow

variable {info : RawCallSite} {lazy : LazyCategorised}

theorem of_internal {name : String} (h : LazyRow info lazy) (hkey : lazy.keyRef = .internal name) :
    lazy.kind = .internal ∧ lazy.fqnSpec = .borrowed name ∧ info.functionName = some name := by
  cases h with
  | named name' hint hname =>
      cases hkey
      exact ⟨rfl, rfl, hname⟩
  | _ => nomatch hkey

theorem of_method {class_ meth : String} (h : LazyRow info lazy)
    (hkey : lazy.keyRef = .method class_ meth) :
    lazy.kind = .method ∧ lazy.fqnSpec = .method class_ meth ∧
      info.isInternal = false ∧ info.className = some class_ := by
  cases h with
  | method class' hint hclass =>
      cases hkey
      exact ⟨rfl, rfl, hint, hclass⟩
  | _ => nomatch hkey

theorem of_closure {file : String} {line : UInt32} (h : LazyRow info lazy)
    (hkey : lazy.keyRef = .closure file line) :
    lazy.kind = .closure ∧ lazy.fqnSpec = .closure file line ∧ info.InClosureRow := by
  cases h with
  | closure hrow =>
      cases hkey
      exact ⟨rfl, rfl, hrow⟩
  | _ => nomatch hkey

theorem of_function {file function : String} {line : UInt32} (h : LazyRow info lazy)
    (hkey : lazy.keyRef = .function file function line) :
    (info.AnonymousInternal ∧ file = "" ∧ function = "" ∧
      line = info.executeDataAddr.toUInt32 ∧ lazy.kind = .internal ∧
      lazy.fqnSpec = .unknown "anonymous" info.executeDataAddr) ∨
    (info.InFunctionRow ∧ info.filename.getD "" = file ∧ info.functionName.getD "" = function ∧
      info.lineno = line ∧ lazy.kind = .function ∧ lazy.fqnSpec = .borrowed function) := by
  cases h with
  | anonymous hrow =>
      cases hkey
      exact .inl ⟨hrow, rfl, rfl, rfl, rfl, rfl⟩
  | function hrow =>
      cases hkey
      exact .inr ⟨hrow, rfl, rfl, rfl, rfl, rfl⟩
  | _ => nomatch hkey

end LazyRow

theorem categoriseLazy_of_anonymous {info : RawCallSite} (h : info.AnonymousInternal) :
    (categoriseLazy info).keyRef = .function "" "" info.executeDataAddr.toUInt32 ∧
      (categoriseLazy info).kind = .internal ∧
      (categoriseLazy info).fqnSpec = .unknown "anonymous" info.executeDataAddr := by
  obtain ⟨hint, hname⟩ := h
  unfold categoriseLazy
  simp only [hint, hname]
  exact ⟨rfl, rfl, rfl⟩

theorem categoriseLazy_of_functionRow {info : RawCallSite} (h : info.InFunctionRow) :
    (categoriseLazy info).keyRef =
        .function (info.filename.getD "") (info.functionName.getD "") info.lineno ∧
      (categoriseLazy info).kind = .function := by
  obtain ⟨hint, hclass, hclosure⟩ := h
  unfold categoriseLazy
  simp only [hint, hclass, hclosure]
  exact ⟨rfl, rfl⟩

theorem keyRef_of_method {info : RawCallSite} {class_ : String} (hint : info.isInternal = false)
    (hclass : info.className = some class_) :
    (categoriseLazy info).keyRef = .method class_ (info.functionName.getD "") := by
  unfold categoriseLazy
  simp only [hint, hclass]
  rfl

/-- The function row without a name has no file either: with a file it is a closure. -/
theorem RawCallSite.InFunctionRow.filename_eq_none {info : RawCallSite} (h : info.InFunctionRow)
    (hname : info.functionName = none) : info.filename = none := by
  have hclosure := h.2.2
  unfold isClosure at hclosure
  rw [hname] at hclosure
  exact Option.not_isSome_iff_eq_none.mp (ne_true_of_eq_false hclosure)

/-! ### The pairs that go wrong -/

/-- A dictionary hit attributes the call to its own function. -/
def HitSound (a b : RawCallSite) : Prop :=
  (categoriseLazy a).keyRef = (categoriseLazy b).keyRef →
    (categoriseLazy a).kind = (categoriseLazy b).kind ∧
      (categoriseLazy a).fqnSpec.render = (categoriseLazy b).fqnSpec.render

/-- Nameless call sites outside the closure row are told apart by their address. -/
def Tiebreaker (a b : RawCallSite) : Prop :=
  a.functionName = none → b.functionName = none → ¬ a.InClosureRow → ¬ b.InClosureRow →
    a.executeDataAddr ≠ b.executeDataAddr → (categoriseLazy a).keyRef ≠ (categoriseLazy b).keyRef

/-- The call site `b` is in the function row with the key of the nameless internal `a`. -/
def BorrowsKeyOf (a b : RawCallSite) : Prop :=
  a.AnonymousInternal ∧ b.InFunctionRow ∧ b.filename.getD "" = "" ∧
    b.functionName.getD "" = "" ∧ b.lineno = a.executeDataAddr.toUInt32

/-- The four kinds of call sites that share a key and should not. -/
inductive Collides (a b : RawCallSite) : Prop
  /-- Two nameless internals whose addresses agree in the low 32 bits. -/
  | internals (ha : a.AnonymousInternal) (hb : b.AnonymousInternal)
      (haddr : a.executeDataAddr ≠ b.executeDataAddr)
      (hlow : a.executeDataAddr.toUInt32 = b.executeDataAddr.toUInt32)
  /-- A nameless internal and a function without file and name, on the line that the low 32
  bits of the address spell. -/
  | internalFunction (h : BorrowsKeyOf a b ∨ BorrowsKeyOf b a)
  /-- Two nameless methods of one class. -/
  | methods (class_) (ha : a.isInternal = false) (hb : b.isInternal = false)
      (haclass : a.className = some class_) (hbclass : b.className = some class_)
      (haname : a.functionName = none) (hbname : b.functionName = none)
      (haddr : a.executeDataAddr ≠ b.executeDataAddr)
  /-- Two nameless functions on one line, both without a file. -/
  | functions (ha : a.InFunctionRow) (hb : b.InFunctionRow) (haname : a.functionName = none)
      (hbname : b.functionName = none) (hline : a.lineno = b.lineno)
      (haddr : a.executeDataAddr ≠ b.executeDataAddr)

section pairs

variable {a b : RawCallSite}

theorem sameRow_of_function {file function : String} {line : UInt32}
    (hno : ¬ Collides a b) (ha : (categoriseLazy a).keyRef = .function file function line)
    (hb : (categoriseLazy b).keyRef = .function file function line) :
    (categoriseLazy a).kind = (categoriseLazy b).kind ∧
      (categoriseLazy a).fqnSpec = (categoriseLazy b).fqnSpec := by
  rcases (lazyRow a).of_function ha with
    ⟨hanon, rfl, rfl, hline, hkind, hspec⟩ | ⟨hrow, hfile, hname, hline, hkind, hspec⟩ <;>
  rcases (lazyRow b).of_function hb with
    ⟨hanon', hfile', hname', hline', hkind', hspec'⟩ |
      ⟨hrow', hfile', hname', hline', hkind', hspec'⟩
  · have haddr : a.executeDataAddr = b.executeDataAddr := by
      by_contra hne
      exact hno (.internals hanon hanon' hne (hline.symm.trans hline'))
    rw [hkind, hkind', hspec, hspec', haddr]
    exact ⟨rfl, rfl⟩
  · exact absurd (.internalFunction (.inl ⟨hanon, hrow', hfile', hname', hline'.trans hline⟩)) hno
  · subst hfile' hname'
    exact absurd (.internalFunction (.inr ⟨hanon', hrow, hfile, hname, hline.trans hline'⟩)) hno
  · rw [hkind, hkind', hspec, hspec']
    exact ⟨rfl, rfl⟩

theorem hitSound_of_not_collides (hno : ¬ Collides a b) : HitSound a b := by
  intro hkey
  have hsame : (categoriseLazy a).kind = (categoriseLazy b).kind ∧
      (categoriseLazy a).fqnSpec = (categoriseLazy b).fqnSpec := by
    cases hb : (categoriseLazy b).keyRef with
    | internal name =>
        obtain ⟨hkind, hspec, -⟩ := (lazyRow a).of_internal (hkey.trans hb)
        obtain ⟨hkind', hspec', -⟩ := (lazyRow b).of_internal hb
        exact ⟨hkind.trans hkind'.symm, hspec.trans hspec'.symm⟩
    | method class_ meth =>
        obtain ⟨hkind, hspec, -⟩ := (lazyRow a).of_method (hkey.trans hb)
        obtain ⟨hkind', hspec', -⟩ := (lazyRow b).of_method hb
        exact ⟨hkind.trans hkind'.symm, hspec.trans hspec'.symm⟩
    | closure file line =>
        obtain ⟨hkind, hspec, -⟩ := (lazyRow a).of_closure (hkey.trans hb)
        obtain ⟨hkind', hspec', -⟩ := (lazyRow b).of_closure hb
        exact ⟨hkind.trans hkind'.symm, hspec.trans hspec'.symm⟩
    | function file function line => exact sameRow_of_function hno (hkey.trans hb) hb
  exact ⟨hsame.1, congrArg FqnSpec.render hsame.2⟩

theorem tiebreaker_of_not_collides (hno : ¬ Collides a b) : Tiebreaker a b := by
  intro haname hbname hnotClosure _ haddr hkey
  refine hno ?_
  cases hb : (categoriseLazy b).keyRef with
  | internal name =>
      obtain ⟨-, -, hname⟩ := (lazyRow b).of_internal hb
      exact absurd (hbname.symm.trans hname) (Option.some_ne_none name).symm
  | method class_ meth =>
      obtain ⟨-, -, ha, haclass⟩ := (lazyRow a).of_method (hkey.trans hb)
      obtain ⟨-, -, hb, hbclass⟩ := (lazyRow b).of_method hb
      exact .methods class_ ha hb haclass hbclass haname hbname haddr
  | closure file line =>
      obtain ⟨-, -, hrow⟩ := (lazyRow a).of_closure (hkey.trans hb)
      exact absurd hrow hnotClosure
  | function file function line =>
      rcases (lazyRow a).of_function (hkey.trans hb) with
        ⟨hanon, hfile, hname, hline, -⟩ | ⟨hrow, hfile, hname, hline, -⟩ <;>
      rcases (lazyRow b).of_function hb with
        ⟨hanon', hfile', hname', hline', -⟩ | ⟨hrow', hfile', hname', hline', -⟩
      · exact .internals hanon hanon' haddr (hline.symm.trans hline')
      · exact .internalFunction (.inl ⟨hanon, hrow', hfile'.trans hfile, hname'.trans hname,
          hline'.trans hline⟩)
      · exact .internalFunction (.inr ⟨hanon', hrow, hfile.trans hfile', hname.trans hname',
          hline.trans hline'⟩)
      · exact .functions hrow hrow' haname hbname (hline.trans hline'.symm) haddr

theorem unknownPlaceholder_inj {kind : String} {addr addr' : UInt64}
    (h : unknownPlaceholder kind addr = unknownPlaceholder kind addr') : addr = addr' := by
  unfold unknownPlaceholder at h
  rw [String.append_right_inj] at h
  exact UInt64.toNat_inj.mp (renderDigits_inj (by norm_num) le_rfl h)

theorem not_hitSound_of_borrows (h : BorrowsKeyOf a b) :
    (categoriseLazy a).keyRef = (categoriseLazy b).keyRef ∧
      (categoriseLazy a).kind ≠ (categoriseLazy b).kind := by
  obtain ⟨hanon, hrow, hfile, hname, hline⟩ := h
  obtain ⟨hkey, hkind, -⟩ := categoriseLazy_of_anonymous hanon
  obtain ⟨hkey', hkind'⟩ := categoriseLazy_of_functionRow hrow
  rw [hkey, hkey', hkind, hkind', hfile, hname, hline]
  exact ⟨rfl, FunctionKind.noConfusion⟩

theorem Collides.not_keySound (h : Collides a b) : ¬ (HitSound a b ∧ Tiebreaker a b) := by
  rintro ⟨hhit, htie⟩
  cases h with
  | internals ha hb haddr hlow =>
      obtain ⟨hkey, -, hspec⟩ := categoriseLazy_of_anonymous ha
      obtain ⟨hkey', -, hspec'⟩ := categoriseLazy_of_anonymous hb
      have hrender := (hhit (by rw [hkey, hkey', hlow])).2
      rw [hspec, hspec'] at hrender
      exact haddr (unknownPlaceholder_inj hrender)
  | internalFunction h =>
      rcases h with h | h
      · obtain ⟨hkey, hkind⟩ := not_hitSound_of_borrows h
        exact hkind (hhit hkey).1
      · obtain ⟨hkey, hkind⟩ := not_hitSound_of_borrows h
        exact hkind (hhit hkey.symm).1.symm
  | methods class_ ha hb haclass hbclass haname hbname haddr =>
      refine htie haname hbname ?_ ?_ haddr ?_
      · exact fun hrow => Option.some_ne_none class_ (haclass.symm.trans hrow.2.1)
      · exact fun hrow => Option.some_ne_none class_ (hbclass.symm.trans hrow.2.1)
      · rw [keyRef_of_method ha haclass, keyRef_of_method hb hbclass, haname, hbname]
  | functions ha hb haname hbname hline haddr =>
      refine htie haname hbname ?_ ?_ haddr ?_
      · exact fun hrow => Bool.false_ne_true (ha.2.2.symm.trans hrow.2.2)
      · exact fun hrow => Bool.false_ne_true (hb.2.2.symm.trans hrow.2.2)
      · rw [(categoriseLazy_of_functionRow ha).1, (categoriseLazy_of_functionRow hb).1, hline,
          haname, hbname, ha.filename_eq_none haname, hb.filename_eq_none hbname]

end pairs

/-- **Hot-path keys**: a hit is sound and nameless call sites are told apart exactly on the
pairs that do not collide. -/
theorem keySound_iff (a b : RawCallSite) : HitSound a b ∧ Tiebreaker a b ↔ ¬ Collides a b :=
  ⟨fun hsound hno => hno.not_keySound hsound,
    fun hno => ⟨hitSound_of_not_collides hno, tiebreaker_of_not_collides hno⟩⟩

def RawCallSite.anonymousInternal (executeDataAddr : UInt64) : RawCallSite :=
  { RawCallSite.empty executeDataAddr with isInternal := true }

/-- Two call sites without a function share the key of an empty name on line `0`, and two
nameless internals whose addresses are `2 ^ 32` apart share a key and not a name. -/
theorem not_every_pair_keySound :
    ¬ (∀ a b, Tiebreaker a b) ∧ ¬ (∀ a b, HitSound a b) := by
  constructor
  · intro h
    exact h (RawCallSite.empty 0x1000) (RawCallSite.empty 0x2000) rfl rfl
      (fun hrow => absurd hrow.2.2 (by decide)) (fun hrow => absurd hrow.2.2 (by decide))
      (by decide) (by decide)
  · intro h
    obtain ⟨-, hname⟩ := h (RawCallSite.anonymousInternal 0x1000)
      (RawCallSite.anonymousInternal 0x100001000) (by decide)
    exact absurd (@unknownPlaceholder_inj "anonymous" _ _ hname) (by decide)

end PhpAnalyze
