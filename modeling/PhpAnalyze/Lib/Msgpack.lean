import Mathlib.Algebra.BigOperators.Group.List.Basic
import Mathlib.Algebra.Ring.Nat
import Mathlib.Data.Int.Order.Basic
import Mathlib.Data.List.Forall2
import Mathlib.Data.Nat.Notation
import Mathlib.Data.String.Basic

/-! # MessagePack values and derived decoders

`Value` is what a MessagePack document holds; the keys of a map are strings.  A decoder reads a
value, `none` is an error.  The decoder that is derived for a struct looks up each field by its
key (`field`): there is exactly one entry with the key, and entries with other keys are ignored.

`MapVariant known R` relates a map to the maps that have the same entries in any order, with
values related by `R`, and more entries under keys that are not in `known`.  What is read under
a known key is the same in both (`field_variant`), so a decoder that reads only known keys
cannot tell them apart (`decodeMap_variant`). -/

namespace Msgpack

inductive Value where
  | nil
  | bool (b : Bool)
  | int (i : ℤ)
  | float (bits : UInt64)
  | str (s : String)
  | bin (bytes : List UInt8)
  | array (items : List Value)
  | map (entries : List (String × Value))
  | ext (type : UInt8) (bytes : List UInt8)

abbrev Entries := List (String × Value)

/-- An encoder and a decoder of documents; both may fail. -/
structure Codec where
  toVec : Value → Option (List UInt8)
  fromSlice : List UInt8 → Option Value

/-- The value is encoded, and its bytes decode to it. -/
def Codec.Survives (codec : Codec) (v : Value) : Prop :=
  ∃ bytes, codec.toVec v = some bytes ∧ codec.fromSlice bytes = some v

/-! ### Decoders -/

variable {α : Type*}

def decodeBool : Value → Option Bool
  | .bool b => some b
  | _ => none

def decodeStr : Value → Option String
  | .str s => some s
  | _ => none

/-- An unsigned integer of `bits` bits. -/
def decodeUnsigned (bits : ℕ) : Value → Option ℕ
  | .int (.ofNat n) => if n < 2 ^ bits then some n else none
  | _ => none

/-- A signed integer of `bits + 1` bits. -/
def decodeSigned (bits : ℕ) : Value → Option ℤ
  | .int i => if -(2 ^ bits : ℕ) ≤ i ∧ i < (2 ^ bits : ℕ) then some i else none
  | _ => none

def decodeArray (d : Value → Option α) : Value → Option (List α)
  | .array items => items.mapM d
  | _ => none

/-- The decoder of a struct, from what it reads of the entries. -/
def decodeMap (d : Entries → Option α) : Value → Option α
  | .map entries => d entries
  | _ => none

/-- The field under this key; a missing or a repeated key is an error. -/
def field (entries : Entries) (key : String) (d : Value → Option α) : Option α :=
  match entries.filter fun e => e.1 == key with
  | [e] => d e.2
  | _ => none

section roundTrip

theorem decodeUnsigned_int {bits n : ℕ} (h : n < 2 ^ bits) :
    decodeUnsigned bits (.int n) = some n :=
  if_pos h

theorem decodeSigned_int {bits : ℕ} {i : ℤ} (hlow : -2 ^ bits ≤ i) (hhigh : i < 2 ^ bits) :
    decodeSigned bits (.int i) = some i := by
  have hcast : ((2 ^ bits : ℕ) : ℤ) = 2 ^ bits := by push_cast; rfl
  exact if_pos ⟨by rw [hcast]; exact hlow, by rw [hcast]; exact hhigh⟩

/-- Items that decode one by one decode as an array. -/
theorem decodeArray_map {d : Value → Option α} {encode : α → Value} {items : List α}
    (h : ∀ item ∈ items, d (encode item) = some item) :
    decodeArray d (.array (items.map encode)) = some items := by
  show (items.map encode).mapM d = some items
  induction items with
  | nil => rfl
  | cons item items ih =>
      have hitem := h item List.mem_cons_self
      have hitems := ih fun item' hmem => h item' (List.mem_cons_of_mem item hmem)
      rw [List.map_cons, List.mapM_cons, hitem, hitems]
      rfl

end roundTrip

/-- One bad item spoils the array. -/
theorem decodeArray_eq_none {d : Value → Option α} {items : List Value} {item : Value}
    (hmem : item ∈ items) (h : d item = none) : decodeArray d (.array items) = none := by
  show items.mapM d = none
  induction items with
  | nil => cases hmem
  | cons head items ih =>
      rw [List.mapM_cons]
      rcases List.mem_cons.mp hmem with rfl | htail
      · rw [h]
        rfl
      · rw [ih htail]
        cases d head <;> rfl

/-- A field that is there and does not decode is an error, and so is one that is repeated. -/
theorem field_eq_none {entries : Entries} {key : String} {v : Value} {d : Value → Option α}
    (hmem : (key, v) ∈ entries) (h : d v = none) : field entries key d = none := by
  have hkey : (key, v) ∈ entries.filter fun e => e.1 == key :=
    List.mem_filter.mpr ⟨hmem, beq_self_eq_true key⟩
  unfold field
  split
  · rename_i e hfilter
    rw [hfilter, List.mem_singleton] at hkey
    rw [← hkey]
    exact h
  · rfl

/-! ### Other orders and unknown keys -/

/-- The same entries in any order, with values related by `R`, and more under unknown keys. -/
structure EntriesVariant (known : List String) (R : String → Value → Value → Prop)
    (entries entries' : Entries) : Prop where
  exists_order : ∃ kept unknown, entries'.Perm (kept ++ unknown) ∧
    List.Forall₂ (fun e e' => e.1 = e'.1 ∧ R e.1 e.2 e'.2) entries kept ∧
    ∀ e ∈ unknown, e.1 ∉ known

inductive MapVariant (known : List String) (R : String → Value → Value → Prop) :
    Value → Value → Prop
  | intro {entries entries'} (h : EntriesVariant known R entries entries') :
      MapVariant known R (.map entries) (.map entries')

/-- The items, one by one, are related by `R`. -/
inductive ArrayVariant (R : Value → Value → Prop) : Value → Value → Prop
  | intro {items items'} (h : List.Forall₂ R items items') :
      ArrayVariant R (.array items) (.array items')

section variants

variable {known : List String} {R : String → Value → Value → Prop} {entries entries' : Entries}

theorem forall₂_filter_key (key : String) {kept : Entries}
    (h : List.Forall₂ (fun e e' => e.1 = e'.1 ∧ R e.1 e.2 e'.2) entries kept) :
    List.Forall₂ (fun e e' => R key e.2 e'.2) (entries.filter (·.1 == key))
      (kept.filter (·.1 == key)) := by
  induction h with
  | nil => exact .nil
  | @cons e e' _ _ hhead _ ih =>
      obtain ⟨hsame, hrel⟩ := hhead
      have hsameKey : (e'.1 == key) = (e.1 == key) := by rw [hsame]
      rw [List.filter_cons, List.filter_cons, hsameKey]
      split
      · rename_i hkey
        exact .cons (eq_of_beq hkey ▸ hrel) ih
      · exact ih

/-- The entries under a known key are the same up to their order. -/
theorem EntriesVariant.filter (h : EntriesVariant known R entries entries') {key : String}
    (hkey : key ∈ known) :
    ∃ kept, (entries'.filter (·.1 == key)).Perm kept ∧
      List.Forall₂ (fun e e' => R key e.2 e'.2) (entries.filter (·.1 == key)) kept := by
  obtain ⟨kept, unknown, horder, hkept, hunknown⟩ := h.exists_order
  have hnone : unknown.filter (·.1 == key) = [] :=
    List.filter_eq_nil_iff.mpr fun e he hbeq => hunknown e he (eq_of_beq hbeq ▸ hkey)
  have hfilter := horder.filter (·.1 == key)
  rw [List.filter_append, hnone, List.append_nil] at hfilter
  exact ⟨kept.filter (·.1 == key), hfilter, forall₂_filter_key key hkept⟩

/-- What is read under a known key does not depend on the order or on unknown keys. -/
theorem field_variant (h : EntriesVariant known R entries entries') {key : String}
    (hkey : key ∈ known) {d : Value → Option α} (hd : ∀ v v', R key v v' → d v' = d v) :
    field entries' key d = field entries key d := by
  obtain ⟨kept, horder, hkept⟩ := h.filter hkey
  unfold field
  generalize (entries.filter fun e => e.1 == key) = found at hkept
  cases hkept with
  | nil => rw [horder.eq_nil]
  | cons hhead htail =>
      cases htail with
      | nil =>
          rw [List.perm_singleton.mp horder]
          exact hd _ _ hhead
      | cons =>
          -- a repeated key stays repeated
          have hlength := horder.length_eq
          split
          · rename_i hsingle
            rw [hsingle] at hlength
            simp at hlength
          · rfl

theorem field_variant_eq (h : EntriesVariant known (fun _ => Eq) entries entries') {key : String}
    (hkey : key ∈ known) (d : Value → Option α) : field entries' key d = field entries key d :=
  field_variant h hkey fun _ _ heq => by rw [heq]

theorem decodeMap_variant {d : Entries → Option α} {v v' : Value} (h : MapVariant known R v v')
    (hd : ∀ entries entries', EntriesVariant known R entries entries' → d entries' = d entries) :
    decodeMap d v' = decodeMap d v := by
  obtain ⟨hentries⟩ := h
  exact hd _ _ hentries

theorem decodeArray_variant {R : Value → Value → Prop} {d : Value → Option α} {v v' : Value}
    (h : ArrayVariant R v v') (hd : ∀ v v', R v v' → d v' = d v) :
    decodeArray d v' = decodeArray d v := by
  obtain ⟨hitems⟩ := h
  show List.mapM d _ = List.mapM d _
  induction hitems with
  | nil => rfl
  | cons hhead htail ih => rw [List.mapM_cons, List.mapM_cons, hd _ _ hhead, ih]

end variants

/-! ### Documents -/

section toBytes

/-- `k` bytes of a number, the most significant first. -/
def bigEndian : ℕ → ℕ → List UInt8
  | 0, _ => []
  | k + 1, n => bigEndian k (n / 256) ++ [UInt8.ofNat n]

/-- The markers of a kind of value with a length: the length is in the marker when it is below
`limit`, and in one, two or four bytes after it otherwise. -/
structure Markers where
  short : ℕ
  limit : ℕ
  one : Option UInt8
  two : UInt8
  four : UInt8

def Markers.header (m : Markers) (n : ℕ) : List UInt8 :=
  if n < m.limit then [UInt8.ofNat (m.short + n)]
  else
    match m.one with
    | some one =>
        if n < 2 ^ 8 then one :: bigEndian 1 n
        else if n < 2 ^ 16 then m.two :: bigEndian 2 n
        else m.four :: bigEndian 4 n
    | none => if n < 2 ^ 16 then m.two :: bigEndian 2 n else m.four :: bigEndian 4 n

/-- The shortest form of an integer. -/
def intToBytes (i : ℤ) : List UInt8 :=
  if 0 ≤ i then
    if i < 2 ^ 7 then bigEndian 1 i.toNat
    else if i < 2 ^ 8 then 0xcc :: bigEndian 1 i.toNat
    else if i < 2 ^ 16 then 0xcd :: bigEndian 2 i.toNat
    else if i < 2 ^ 32 then 0xce :: bigEndian 4 i.toNat
    else 0xcf :: bigEndian 8 i.toNat
  else
    -- two's complement
    if -2 ^ 5 ≤ i then bigEndian 1 (i + 2 ^ 8).toNat
    else if -2 ^ 7 ≤ i then 0xd0 :: bigEndian 1 (i + 2 ^ 8).toNat
    else if -2 ^ 15 ≤ i then 0xd1 :: bigEndian 2 (i + 2 ^ 16).toNat
    else if -2 ^ 31 ≤ i then 0xd2 :: bigEndian 4 (i + 2 ^ 32).toNat
    else 0xd3 :: bigEndian 8 (i + 2 ^ 64).toNat

def strToBytes (s : String) : List UInt8 :=
  Markers.header ⟨0xa0, 32, some 0xd9, 0xda, 0xdb⟩ s.utf8ByteSize ++ s.toByteArray.data.toList

mutual

/-- The document of a value, in its shortest form. -/
def Value.toBytes : Value → List UInt8
  | .nil => [0xc0]
  | .bool b => [if b then 0xc3 else 0xc2]
  | .int i => intToBytes i
  | .float bits => 0xcb :: bigEndian 8 bits.toNat
  | .str s => strToBytes s
  | .bin bytes => Markers.header ⟨0, 0, some 0xc4, 0xc5, 0xc6⟩ bytes.length ++ bytes
  | .array items => Markers.header ⟨0x90, 16, none, 0xdc, 0xdd⟩ items.length ++ itemsToBytes items
  | .map entries =>
      Markers.header ⟨0x80, 16, none, 0xde, 0xdf⟩ entries.length ++ entriesToBytes entries
  | .ext type bytes =>
      Markers.header ⟨0, 0, some 0xc7, 0xc8, 0xc9⟩ bytes.length ++ type :: bytes

def itemsToBytes : List Value → List UInt8
  | [] => []
  | item :: items => item.toBytes ++ itemsToBytes items

def entriesToBytes : List (String × Value) → List UInt8
  | [] => []
  | (key, v) :: entries => strToBytes key ++ v.toBytes ++ entriesToBytes entries

end

example : (Value.map [("a", .array [.int (-1), .int 300, .bool true])]).toBytes =
    [0x81, 0xa1, 0x61, 0x93, 0xff, 0xcd, 0x01, 0x2c, 0xc3] := by decide

end toBytes

end Msgpack
