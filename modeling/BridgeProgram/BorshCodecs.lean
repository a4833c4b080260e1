import Mathlib.Data.PEquiv
import BridgeProgram.ByteStrings

/-!
Self-delimiting formats. A codec writes a value as a string of symbols and reads one back
from the front of such a string; what it reads is exactly what it would have written.
Codecs are put together from symbols, little-endian words, sequences, length-prefixed
lists and tagged alternatives.
-/

namespace BridgeProgram.BorshCodecs

open BridgeProgram.ByteStrings

variable {σ α β κ : Type}

/-- A format of values. Reading returns the value and the symbols after it. -/
structure Codec (σ α : Type) where
  /-- The values that can be written. -/
  Fits : α → Prop
  encode : α → List σ
  decode : List σ → Option (α × List σ)
  decode_iff : ∀ text x rest,
    decode text = some (x, rest) ↔ Fits x ∧ text = encode x ++ rest

namespace Codec

theorem decode_encode (c : Codec σ α) {x : α} (fits : c.Fits x) (rest : List σ) :
    c.decode (c.encode x ++ rest) = some (x, rest) :=
  (c.decode_iff _ x rest).mpr ⟨fits, rfl⟩

def symbol : Codec σ σ where
  Fits _ := True
  encode a := [a]
  decode
    | [] => none
    | a :: rest => some (a, rest)
  decode_iff text a rest := by
    cases text with
    | nil => simp
    | cons first text => simp

/-- A symbol that is always the same. -/
def literal [DecidableEq σ] (a : σ) : Codec σ Unit where
  Fits _ := True
  encode _ := [a]
  decode
    | [] => none
    | b :: rest => if b = a then some ((), rest) else none
  decode_iff text _ rest := by
    cases text with
    | nil => simp
    | cons first text => simp

/-- `[u8; n]`. -/
def fixed (n : Nat) : Codec σ (Vector σ n) where
  Fits _ := True
  encode v := v.toList
  decode text := (toFixed n (text.take n)).map fun v => (v, text.drop n)
  decode_iff text v rest := by
    simp only [Option.map_eq_some_iff, toFixed_eq_some, Prod.mk.injEq, true_and]
    constructor
    · rintro ⟨v', htake, rfl, rfl⟩
      rw [← htake, List.take_append_drop]
    · rintro rfl
      have hlength : v.toList.length = n := by simp
      exact ⟨v, List.take_left' hlength, rfl, List.drop_left' hlength⟩

/-- A format of other values: what has been read is converted, where that is possible. -/
def through (c : Codec σ α) (e : α ≃. β) : Codec σ β where
  Fits y := ∃ x, e.symm y = some x ∧ c.Fits x
  encode y :=
    match e.symm y with
    | some x => c.encode x
    | none => []
  decode text := do
    let (x, rest) ← c.decode text
    let y ← e x
    pure (y, rest)
  decode_iff text y rest := by
    simp only [Option.bind_eq_bind, Option.bind_eq_some_iff, Prod.exists, Option.pure_def,
      Option.some.injEq, Prod.mk.injEq, c.decode_iff]
    constructor
    · rintro ⟨x, rest, ⟨fits, rfl⟩, y, hread, rfl, rfl⟩
      have hwrite := e.eq_some_iff.mpr hread
      exact ⟨⟨x, hwrite, fits⟩, by rw [hwrite]⟩
    · rintro ⟨⟨x, hwrite, fits⟩, rfl⟩
      exact ⟨x, rest, ⟨fits, by rw [hwrite]⟩, y, e.eq_some_iff.mp hwrite, rfl, rfl⟩

/-- A format of other values in a one-to-one correspondence. -/
def map (c : Codec σ α) (e : α ≃ β) : Codec σ β :=
  c.through e.toPEquiv

@[simp] theorem fits_map (c : Codec σ α) (e : α ≃ β) (y : β) :
    (c.map e).Fits y ↔ c.Fits (e.symm y) := by
  simp [map, through, ← Equiv.toPEquiv_symm]

@[simp] theorem encode_map (c : Codec σ α) (e : α ≃ β) (y : β) :
    (c.map e).encode y = c.encode (e.symm y) := rfl

abbrev byte : Codec UInt8 UInt8 :=
  symbol

/-- The `width` little-endian bytes of a number. -/
def leBytes (width n : Nat) : Vector UInt8 width :=
  ⟨⟨(beBytes width n).reverse⟩, by simp⟩

/-- The number whose little-endian bytes are given. -/
def leValue {width : Nat} (bytes : Vector UInt8 width) : Nat :=
  beValue bytes.toList.reverse

theorem leValue_leBytes {width n : Nat} (h : n < 256 ^ width) :
    leValue (leBytes width n) = n := by
  simp [leValue, leBytes, beValue_beBytes h]

theorem leBytes_leValue {width : Nat} (bytes : Vector UInt8 width) :
    leBytes width (leValue bytes) = bytes := by
  have hbytes := beBytes_beValue bytes.toList.reverse
  rw [List.length_reverse, Vector.length_toList] at hbytes
  apply Vector.toList_inj.mp
  simp [leValue, leBytes, hbytes]

theorem leValue_lt {width : Nat} (bytes : Vector UInt8 width) : leValue bytes < 256 ^ width := by
  simpa [leValue] using beValue_lt bytes.toList.reverse

/-- A `u32` and its bytes. -/
def u32Bytes : Vector UInt8 4 ≃ UInt32 where
  toFun bytes := UInt32.ofNat (leValue bytes)
  invFun x := leBytes 4 x.toNat
  left_inv bytes := by
    show leBytes 4 (UInt32.ofNat (leValue bytes)).toNat = bytes
    rw [UInt32.toNat_ofNat_of_lt' (leValue_lt bytes), leBytes_leValue]
  right_inv x := by
    show UInt32.ofNat (leValue (leBytes 4 x.toNat)) = x
    rw [leValue_leBytes x.toNat_lt, UInt32.ofNat_toNat]

/-- A `u64` and its bytes. -/
def u64Bytes : Vector UInt8 8 ≃ UInt64 where
  toFun bytes := UInt64.ofNat (leValue bytes)
  invFun x := leBytes 8 x.toNat
  left_inv bytes := by
    show leBytes 8 (UInt64.ofNat (leValue bytes)).toNat = bytes
    rw [UInt64.toNat_ofNat_of_lt' (leValue_lt bytes), leBytes_leValue]
  right_inv x := by
    show UInt64.ofNat (leValue (leBytes 8 x.toNat)) = x
    rw [leValue_leBytes x.toNat_lt, UInt64.ofNat_toNat]

def u32 : Codec UInt8 UInt32 :=
  (fixed 4).map u32Bytes

def u64 : Codec UInt8 UInt64 :=
  (fixed 8).map u64Bytes

/-- A flag is 0 or 1. -/
def flag : UInt8 ≃. Bool where
  toFun b := if b = 0 then some false else if b = 1 then some true else none
  invFun x := some (if x then 1 else 0)
  inv b x := by
    split_ifs with h0 h1 <;> cases x <;> simp_all [eq_comm]

def bool : Codec UInt8 Bool :=
  byte.through flag

def unit : Codec σ Unit where
  Fits _ := True
  encode _ := []
  decode text := some ((), text)
  decode_iff text _ rest := by simp

def pair (c : Codec σ α) (d : Codec σ β) : Codec σ (α × β) where
  Fits x := c.Fits x.1 ∧ d.Fits x.2
  encode x := c.encode x.1 ++ d.encode x.2
  decode text := do
    let (x, rest) ← c.decode text
    let (y, rest) ← d.decode rest
    pure ((x, y), rest)
  decode_iff := by
    rintro text ⟨x, y⟩ rest
    simp only [Option.bind_eq_bind, Option.bind_eq_some_iff, Prod.exists, Option.pure_def,
      Option.some.injEq, Prod.mk.injEq, c.decode_iff, d.decode_iff]
    constructor
    · rintro ⟨x, _, ⟨hx, rfl⟩, y, rest, ⟨hy, rfl⟩, ⟨rfl, rfl⟩, rfl⟩
      exact ⟨⟨hx, hy⟩, (List.append_assoc ..).symm⟩
    · rintro ⟨⟨hx, hy⟩, rfl⟩
      exact ⟨x, _, ⟨hx, List.append_assoc ..⟩, y, rest, ⟨hy, rfl⟩, ⟨rfl, rfl⟩, rfl⟩

/-- A tag is written first and decides the format of the rest. -/
def tagged (c : Codec σ κ) (tag : α → κ) (body : κ → Codec σ α)
    (belongs : ∀ k x, (body k).Fits x → tag x = k) : Codec σ α where
  Fits x := c.Fits (tag x) ∧ (body (tag x)).Fits x
  encode x := c.encode (tag x) ++ (body (tag x)).encode x
  decode text := do
    let (k, rest) ← c.decode text
    (body k).decode rest
  decode_iff text x rest := by
    simp only [Option.bind_eq_bind, Option.bind_eq_some_iff, Prod.exists, c.decode_iff,
      (body _).decode_iff]
    constructor
    · rintro ⟨k, _, ⟨hk, rfl⟩, hx, rfl⟩
      obtain rfl := belongs k x hx
      exact ⟨⟨hk, hx⟩, (List.append_assoc ..).symm⟩
    · rintro ⟨⟨hk, hx⟩, rfl⟩
      exact ⟨tag x, _, ⟨hk, List.append_assoc ..⟩, hx, rfl⟩

/-- Reading `n` values. -/
def decodeMany (c : Codec σ α) : (n : Nat) → List σ → Option (List α × List σ)
  | 0, text => some ([], text)
  | n + 1, text => do
      let (x, rest) ← c.decode text
      let (xs, rest) ← decodeMany c n rest
      pure (x :: xs, rest)

theorem decodeMany_iff (c : Codec σ α) (n : Nat) (text : List σ) (xs : List α)
    (rest : List σ) :
    decodeMany c n text = some (xs, rest) ↔
      (xs.length = n ∧ ∀ x ∈ xs, c.Fits x) ∧ text = xs.flatMap c.encode ++ rest := by
  induction n generalizing text xs rest with
  | zero =>
      rw [decodeMany, Option.some.injEq, Prod.mk.injEq]
      constructor
      · rintro ⟨rfl, rfl⟩
        simp
      · rintro ⟨⟨hlength, -⟩, rfl⟩
        obtain rfl := List.eq_nil_of_length_eq_zero hlength
        simp
  | succ n ih =>
      simp only [decodeMany, Option.bind_eq_bind, Option.bind_eq_some_iff, Prod.exists,
        Option.pure_def, Option.some.injEq, Prod.mk.injEq, c.decode_iff, ih]
      constructor
      · rintro ⟨x, _, ⟨hx, rfl⟩, xs, rest, ⟨⟨hlength, hxs⟩, rfl⟩, rfl, rfl⟩
        refine ⟨⟨by rw [List.length_cons, hlength], List.forall_mem_cons.mpr ⟨hx, hxs⟩⟩, ?_⟩
        rw [List.flatMap_cons, List.append_assoc]
      · rintro ⟨⟨hlength, hxs⟩, rfl⟩
        cases xs with
        | nil => simp at hlength
        | cons x xs =>
            obtain ⟨hx, hxs⟩ := List.forall_mem_cons.mp hxs
            exact ⟨x, _, ⟨hx, by rw [List.flatMap_cons, List.append_assoc]⟩, xs, rest,
              ⟨⟨Nat.succ.inj hlength, hxs⟩, rfl⟩, rfl, rfl⟩

/-- `n` values one after the other. -/
def many (c : Codec σ α) (n : Nat) : Codec σ (List α) where
  Fits xs := xs.length = n ∧ ∀ x ∈ xs, c.Fits x
  encode xs := xs.flatMap c.encode
  decode := decodeMany c n
  decode_iff := decodeMany_iff c n

/-- `Vec`: the number of values as a `u32`, then the values. -/
def vec (c : Codec UInt8 α) : Codec UInt8 (List α) :=
  u32.tagged (fun xs => UInt32.ofNat xs.length) (fun n => many c n.toNat) (by
    intro n xs fits
    rw [fits.1, UInt32.ofNat_toNat])

/-- A value as one that is there. -/
def present : α ≃. Option α where
  toFun x := some (some x)
  invFun x := x
  inv x y := by rw [Option.some.injEq, eq_comm]

/-- The value that is not there. -/
def absent : Unit ≃. Option α where
  toFun _ := some none
  invFun x := if x.isNone then some () else none
  inv _ x := by cases x <;> simp

/-- `Option`: a flag, then the value if there is one. -/
def option (c : Codec UInt8 α) : Codec UInt8 (Option α) :=
  bool.tagged Option.isSome
    (fun isSome => if isSome then c.through present else unit.through absent)
    (by
      rintro (_ | _) x ⟨y, hy, -⟩
      · have hx := absent.eq_some_iff.mp hy
        rw [← Option.some.inj hx, Option.isSome_none]
      · have hx := present.eq_some_iff.mp hy
        rw [← Option.some.inj hx, Option.isSome_some])

/-- A text and its bytes. -/
def utf8 : List UInt8 ≃. String where
  toFun bytes := String.fromUTF8? ⟨bytes.toArray⟩
  invFun text := some text.toByteArray.data.toList
  inv bytes text := by
    unfold String.fromUTF8?
    rw [Option.some.injEq]
    constructor
    · rintro rfl
      exact dif_pos text.isValidUTF8
    · intro h
      split_ifs at h with hvalid
      obtain rfl := Option.some.inj h
      rfl

def string : Codec UInt8 String :=
  byte.vec.through utf8

@[simp] theorem encode_symbol (a : σ) : symbol.encode a = [a] := rfl

@[simp] theorem encode_pair (c : Codec σ α) (d : Codec σ β) (x : α × β) :
    (c.pair d).encode x = c.encode x.1 ++ d.encode x.2 := rfl

@[simp] theorem length_encode_symbol (a : σ) : (symbol.encode a).length = 1 := rfl

@[simp] theorem length_encode_fixed {n : Nat} (v : Vector σ n) :
    ((fixed n).encode v).length = n :=
  v.length_toList

@[simp] theorem length_encode_u32 (x : UInt32) : (u32.encode x).length = 4 := by
  simp [u32]

@[simp] theorem length_encode_u64 (x : UInt64) : (u64.encode x).length = 8 := by
  simp [u64]

@[simp] theorem length_encode_bool (x : Bool) : (bool.encode x).length = 1 := by
  cases x <;> rfl

@[simp] theorem length_encode_pair (c : Codec σ α) (d : Codec σ β) (x : α × β) :
    ((pair c d).encode x).length = (c.encode x.1).length + (d.encode x.2).length :=
  List.length_append

theorem length_encode_vec {c : Codec UInt8 α} {width : Nat}
    (hwidth : ∀ x, (c.encode x).length = width) (xs : List α) :
    (c.vec.encode xs).length = 4 + width * xs.length := by
  show (u32.encode _ ++ xs.flatMap c.encode).length = _
  rw [List.length_append, length_encode_u32, length_flatMap_const hwidth]

@[simp] theorem fits_symbol (a : σ) : symbol.Fits a := trivial

@[simp] theorem fits_literal [DecidableEq σ] (a : σ) (x : Unit) : (literal a).Fits x := trivial

@[simp] theorem fits_fixed {n : Nat} (v : Vector σ n) : (fixed n).Fits v := trivial

@[simp] theorem fits_unit (x : Unit) : (unit : Codec σ Unit).Fits x := trivial

@[simp] theorem fits_u32 (x : UInt32) : u32.Fits x := by
  simp [u32]

@[simp] theorem fits_u64 (x : UInt64) : u64.Fits x := by
  simp [u64]

@[simp] theorem fits_bool (x : Bool) : bool.Fits x :=
  ⟨_, rfl, trivial⟩

@[simp] theorem fits_pair (c : Codec σ α) (d : Codec σ β) (x : α × β) :
    (pair c d).Fits x ↔ c.Fits x.1 ∧ d.Fits x.2 := Iff.rfl

@[simp] theorem fits_vec (c : Codec UInt8 α) (xs : List α) :
    c.vec.Fits xs ↔ xs.length < 2 ^ 32 ∧ ∀ x ∈ xs, c.Fits x := by
  show (u32.Fits _ ∧ xs.length = (UInt32.ofNat xs.length).toNat ∧ ∀ x ∈ xs, c.Fits x) ↔ _
  constructor
  · rintro ⟨-, hlength, hxs⟩
    exact ⟨hlength ▸ UInt32.toNat_lt _, hxs⟩
  · rintro ⟨hlength, hxs⟩
    exact ⟨fits_u32 _, (UInt32.toNat_ofNat_of_lt' hlength).symm, hxs⟩

@[simp] theorem fits_option (c : Codec UInt8 α) (x : Option α) :
    c.option.Fits x ↔ ∀ y ∈ x, c.Fits y := by
  cases x with
  | none =>
      show (bool.Fits false ∧ (unit.through absent).Fits none) ↔ _
      exact ⟨by simp, fun _ => ⟨fits_bool _, (), rfl, trivial⟩⟩
  | some y =>
      show (bool.Fits true ∧ (c.through present).Fits (some y)) ↔ _
      constructor
      · rintro ⟨-, x, hx, fits⟩
        obtain rfl := Option.some.inj hx
        simpa using fits
      · intro fits
        exact ⟨fits_bool _, y, rfl, fits y rfl⟩

/-- Writing at the beginning of memory, which must be long enough. What is beyond the
written bytes stays. -/
def overwrite (old new : List UInt8) : Option (List UInt8) :=
  if new.length ≤ old.length then some (new ++ old.drop new.length) else none

theorem overwrite_eq_some {old new memory : List UInt8} :
    overwrite old new = some memory ↔
      new.length ≤ old.length ∧ new ++ old.drop new.length = memory := by
  simp [overwrite]

theorem length_overwrite {old new memory : List UInt8} (h : overwrite old new = some memory) :
    memory.length = old.length := by
  obtain ⟨hle, rfl⟩ := overwrite_eq_some.mp h
  rw [List.length_append, List.length_drop, Nat.add_sub_cancel' hle]

theorem decode_overwrite (c : Codec UInt8 α) {x : α} {old memory : List UInt8} (fits : c.Fits x)
    (h : overwrite old (c.encode x) = some memory) :
    c.decode memory = some (x, old.drop (c.encode x).length) := by
  obtain ⟨-, rfl⟩ := overwrite_eq_some.mp h
  exact c.decode_encode fits _

theorem overwrite_of_decode (c : Codec UInt8 α) {x : α} {memory rest : List UInt8}
    (h : c.decode memory = some (x, rest)) : overwrite memory (c.encode x) = some memory := by
  obtain ⟨-, rfl⟩ := (c.decode_iff _ _ _).mp h
  rw [overwrite_eq_some, List.drop_left]
  exact ⟨by simp, rfl⟩

end Codec

end BridgeProgram.BorshCodecs
