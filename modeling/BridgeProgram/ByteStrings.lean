import Mathlib.Data.List.Induction
import Mathlib.Tactic.Ring

namespace BridgeProgram.ByteStrings

universe u

/-- The entries from `start` up to `stop`, when that range lies inside the list. -/
def slice {α : Type u} (data : List α) (start stop : Nat) : Option (List α) :=
  if start ≤ stop ∧ stop ≤ data.length then
    some ((data.drop start).take (stop - start))
  else none

theorem slice_eq_some {α : Type u} {data part : List α} {start stop : Nat} :
    slice data start stop = some part ↔
      (start ≤ stop ∧ stop ≤ data.length) ∧
        (data.drop start).take (stop - start) = part := by
  simp [slice]

theorem slice_append {α : Type u} (first part rest : List α) {start stop : Nat}
    (hstart : start = first.length) (hstop : stop = first.length + part.length) :
    slice (first ++ part ++ rest) start stop = some part := by
  subst hstart hstop
  rw [slice_eq_some]
  refine ⟨⟨by omega, ?_⟩, ?_⟩
  · simp
  · simp [List.append_assoc]

theorem slice_inside {α : Type u} (first rest : List α) {middle part : List α}
    {start stop : Nat} (h : slice middle start stop = some part) :
    slice (first ++ middle ++ rest) (first.length + start) (first.length + stop) =
      some part := by
  obtain ⟨⟨hstart, hstop⟩, rfl⟩ := slice_eq_some.mp h
  rw [slice_eq_some, Nat.add_sub_add_left]
  refine ⟨⟨by omega, ?_⟩, ?_⟩
  · simp only [List.length_append]
    omega
  · rw [List.append_assoc, ← List.drop_drop, List.drop_left,
      List.drop_append_of_le_length (hstart.trans hstop), List.take_append_of_le_length]
    rw [List.length_drop]
    omega

theorem slice_slice {α : Type u} {data middle part : List α} {start stop first last : Nat}
    (hmiddle : slice data start stop = some middle) (hpart : slice middle first last = some part) :
    slice data (start + first) (start + last) = some part := by
  obtain ⟨⟨hstart, hstop⟩, rfl⟩ := slice_eq_some.mp hmiddle
  have hinside := slice_inside (data.take start) (data.drop stop) hpart
  have hrest : data.drop stop = (data.drop start).drop (stop - start) := by
    rw [List.drop_drop, Nat.add_sub_cancel' hstart]
  rwa [List.append_assoc, hrest, List.take_append_drop, List.take_append_drop,
    List.length_take_of_le (hstart.trans hstop)] at hinside

theorem length_flatMap_const {α β : Type u} {entry : β → List α} {width : Nat}
    (hwidth : ∀ b, (entry b).length = width) (l : List β) :
    (l.flatMap entry).length = width * l.length := by
  induction l with
  | nil => rfl
  | cons b l ih =>
      rw [List.flatMap_cons, List.length_append, hwidth, ih, List.length_cons, Nat.mul_succ,
        Nat.add_comm]

theorem slice_flatMap {α β : Type u} {entry : β → List α} {width : Nat}
    (hwidth : ∀ b, (entry b).length = width) {l : List β} {i : Nat} (hi : i < l.length) :
    slice (l.flatMap entry) (width * i) (width * i + width) = some (entry l[i]) := by
  have hsplit : l.flatMap entry =
      (l.take i).flatMap entry ++ entry l[i] ++ (l.drop (i + 1)).flatMap entry := by
    rw [← List.flatMap_singleton entry l[i], ← List.flatMap_append, ← List.flatMap_append,
      List.append_assoc, List.singleton_append, ← List.drop_eq_getElem_cons,
      List.take_append_drop]
  have hbefore : ((l.take i).flatMap entry).length = width * i := by
    rw [length_flatMap_const hwidth, List.length_take_of_le hi.le]
  rw [hsplit]
  exact slice_append _ _ _ hbefore.symm (by rw [hbefore, hwidth])

/-- The pieces of length `n` of a list, the last one possibly shorter. -/
def chunks {α : Type u} (n : Nat) (data : List α) : List (List α) :=
  (List.range ((data.length + n - 1) / n)).map fun i => (data.drop (i * n)).take n

theorem chunks_append {α : Type u} {n : Nat} (hn : 0 < n) {first : List α} (rest : List α)
    (hfirst : first.length = n) : chunks n (first ++ rest) = first :: chunks n rest := by
  have hcount : ((first ++ rest).length + n - 1) / n = (rest.length + n - 1) / n + 1 := by
    rw [List.length_append, hfirst, ← Nat.add_div_right _ hn]
    congr 1
    omega
  rw [chunks, hcount, List.range_succ_eq_map, List.map_cons, List.map_map]
  congr 1
  · rw [Nat.zero_mul, List.drop_zero, ← hfirst, List.take_left]
  · refine List.map_congr_left fun i _ => ?_
    rw [Function.comp_apply, Nat.succ_mul, Nat.add_comm, ← List.drop_drop, ← hfirst,
      List.drop_left]

theorem chunks_flatten {α : Type u} {n : Nat} (hn : 0 < n) {parts : List (List α)}
    (h : ∀ part ∈ parts, part.length = n) : chunks n parts.flatten = parts := by
  induction parts with
  | nil =>
      have hcount : (([] : List α).length + n - 1) / n = 0 := by
        rw [List.length_nil, Nat.div_eq_zero_iff]
        omega
      rw [List.flatten_nil, chunks, hcount]
      rfl
  | cons part parts ih =>
      obtain ⟨hpart, hparts⟩ := List.forall_mem_cons.mp h
      rw [List.flatten_cons, chunks_append hn _ hpart, ih hparts]

/-- A list as an array of fixed length, when it has that length. -/
def toFixed {α : Type u} (n : Nat) (data : List α) : Option (Vector α n) :=
  if h : data.length = n then some ⟨⟨data⟩, h⟩ else none

theorem toFixed_eq_some {α : Type u} {n : Nat} {data : List α} {v : Vector α n} :
    toFixed n data = some v ↔ data = v.toList := by
  unfold toFixed
  constructor
  · intro h
    split at h
    · obtain rfl := Option.some.inj h
      rfl
    · simp at h
  · rintro rfl
    rw [dif_pos (by simp)]
    congr

theorem exists_toList_eq {α : Type u} {n : Nat} {data : List α}
    (h : data.length = n) : ∃ v : Vector α n, v.toList = data :=
  ⟨⟨⟨data⟩, h⟩, rfl⟩

/-- The `width` big-endian bytes of a number. -/
def beBytes : (width : Nat) → Nat → List UInt8
  | 0, _ => []
  | width + 1, n => beBytes width (n / 256) ++ [UInt8.ofNat (n % 256)]

/-- The number whose big-endian bytes are given. -/
def beValue (bytes : List UInt8) : Nat :=
  bytes.foldl (fun value byte => value * 256 + byte.toNat) 0

@[simp] theorem length_beBytes (width n : Nat) : (beBytes width n).length = width := by
  induction width generalizing n with
  | zero => rfl
  | succ width ih => simp [beBytes, ih]

theorem beValue_concat (bytes : List UInt8) (byte : UInt8) :
    beValue (bytes ++ [byte]) = beValue bytes * 256 + byte.toNat := by
  simp [beValue]

theorem beValue_lt (bytes : List UInt8) : beValue bytes < 256 ^ bytes.length := by
  induction bytes using List.reverseRecOn with
  | nil => simp [beValue]
  | append_singleton bytes byte ih =>
      have hbyte := byte.toNat_lt
      rw [beValue_concat, List.length_append, List.length_singleton, Nat.pow_succ]
      omega

theorem beBytes_beValue (bytes : List UInt8) :
    beBytes bytes.length (beValue bytes) = bytes := by
  induction bytes using List.reverseRecOn with
  | nil => rfl
  | append_singleton bytes byte ih =>
      have hbyte := byte.toNat_lt
      have hdiv : (beValue bytes * 256 + byte.toNat) / 256 = beValue bytes := by omega
      have hmod : (beValue bytes * 256 + byte.toNat) % 256 = byte.toNat := by omega
      rw [List.length_append, List.length_singleton, beBytes, beValue_concat, hdiv,
        hmod, ih, UInt8.ofNat_toNat]

theorem beValue_beBytes {width n : Nat} (h : n < 256 ^ width) :
    beValue (beBytes width n) = n := by
  induction width generalizing n with
  | zero =>
      rw [Nat.pow_zero, Nat.lt_one_iff] at h
      rw [h]
      rfl
  | succ width ih =>
      have hdiv : n / 256 < 256 ^ width := by
        rw [Nat.pow_succ] at h
        exact Nat.div_lt_of_lt_mul (Nat.mul_comm _ _ ▸ h)
      have hmod : (UInt8.ofNat (n % 256)).toNat = n % 256 :=
        UInt8.toNat_ofNat_of_lt' (Nat.mod_lt _ (by decide))
      rw [beBytes, beValue_concat, ih hdiv, hmod]
      omega

/-- `u64::to_be_bytes`. -/
def toBeBytes (x : UInt64) : List UInt8 :=
  beBytes 8 x.toNat

@[simp] theorem length_toBeBytes (x : UInt64) : (toBeBytes x).length = 8 :=
  length_beBytes 8 x.toNat

theorem toBeBytes_inj {x y : UInt64} : toBeBytes x = toBeBytes y ↔ x = y := by
  refine ⟨fun h => ?_, fun h => by rw [h]⟩
  have hvalue := congrArg beValue h
  rw [toBeBytes, toBeBytes, beValue_beBytes x.toNat_lt, beValue_beBytes y.toNat_lt] at hvalue
  exact UInt64.toNat_inj.mp hvalue

theorem exists_toBeBytes_eq {bytes : List UInt8} (h : bytes.length = 8) :
    ∃ x, toBeBytes x = bytes := by
  have hlt : beValue bytes < 2 ^ 64 := by
    have hvalue := beValue_lt bytes
    rw [h] at hvalue
    omega
  refine ⟨UInt64.ofNat (beValue bytes), ?_⟩
  rw [toBeBytes, UInt64.toNat_ofNat_of_lt' hlt, ← h]
  exact beBytes_beValue bytes

end BridgeProgram.ByteStrings
