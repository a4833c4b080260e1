import BridgeProgram.Ed25519Instruction

namespace BridgeProgram.SignatureParser

open BridgeProgram.ByteStrings
open BridgeProgram.CheckedResult
open BridgeProgram.Ed25519Instruction
open BridgeProgram.ProgramStates

/-- The little-endian `u16` at a position. -/
def u16At (data : List UInt8) (position : Nat) : Nat :=
  (data.getD position 0).toNat + 256 * (data.getD (position + 1) 0).toNat

/-- Where the `i`-th offset record begins. -/
def recordStart (i : Nat) : Nat :=
  signatureOffsetsStart + signatureOffsetsSerializedSize * i

/-- The fields of the `i`-th record that the program uses. -/
def signatureStart (data : List UInt8) (i : Nat) : Nat := u16At data (recordStart i)
def pubkeyStart (data : List UInt8) (i : Nat) : Nat := u16At data (recordStart i + 4)
def messageStart (data : List UInt8) (i : Nat) : Nat := u16At data (recordStart i + 8)
def messageSize (data : List UInt8) (i : Nat) : Nat := u16At data (recordStart i + 10)

/-- The first byte is `n`, and `n` records lie inside the data. -/
structure TableInside (data : List UInt8) (n : Nat) : Prop where
  count : data.head?.map UInt8.toNat = some n
  length : signatureOffsetsStart + signatureOffsetsSerializedSize * n ≤ data.length

/-- The three ranges of the `i`-th record lie inside the data. -/
structure RangesInside (data : List UInt8) (i : Nat) : Prop where
  signature : signatureStart data i + signatureSerializedSize ≤ data.length
  pubkey : pubkeyStart data i + pubkeySerializedSize ≤ data.length
  message : messageStart data i + messageSize data i ≤ data.length

/-- The `i`-th record can be read. -/
structure RecordValid (data : List UInt8) (i : Nat) : Prop where
  inside : RangesInside data i
  size : messageSize data i = messageDataSize

/-- The data consists of `n` records that can be read. -/
structure WellFormed (data : List UInt8) (n : Nat) : Prop where
  table : TableInside data n
  records : ∀ i < n, RecordValid data i

/-- The parts that the `i`-th record names. -/
structure ReadAt (data : List UInt8) (i : Nat) (sig : Ed25519Signature) : Prop where
  signature : slice data (signatureStart data i)
    (signatureStart data i + signatureSerializedSize) = some sig.signature.toList
  pubkey : slice data (pubkeyStart data i) (pubkeyStart data i + pubkeySerializedSize) =
    some sig.pubkey.toList
  msg : slice data (messageStart data i) (messageStart data i + messageDataSize) =
    some sig.msg.toList

/-- The parser returns the signatures of well-formed data and rejects other data. -/
structure ParserExact (data : List UInt8) : Prop where
  accepts : ∀ n, WellFormed data n → ∃ sigs, loadSignatures data = .ok sigs ∧
    sigs.length = n ∧ ∀ i (h : i < sigs.length), ReadAt data i sigs[i]
  rejects : (∀ n, ¬ WellFormed data n) →
    loadSignatures data = .error (.bridge .invalidEd25519Data)

/-- The parser comes to the `i`-th record, and its ranges lie inside the data, but
its message has another length than a digest. -/
structure OddMessage (data : List UInt8) (n i : Nat) : Prop where
  table : TableInside data n
  index : i < n
  before : ∀ j < i, RecordValid data j
  inside : RangesInside data i
  size : messageSize data i ≠ messageDataSize

theorem u16At_lt (data : List UInt8) (position : Nat) : u16At data position < 65536 := by
  have hlow := (data.getD position 0).toNat_lt
  have hhigh := (data.getD (position + 1) 0).toNat_lt
  unfold u16At
  omega

theorem decodeU16_eq {chunk : List UInt8} {index : Nat} (h : index + 2 ≤ chunk.length) :
    decodeU16 chunk index = .ok (UInt16.ofNat (u16At chunk index)) := by
  have hlow : index < chunk.length := by omega
  have hhigh : index + 1 < chunk.length := by omega
  have hslice : slice chunk index (index + 2) = some [chunk[index], chunk[index + 1]] := by
    rw [slice_eq_some]
    refine ⟨⟨by omega, h⟩, ?_⟩
    rw [List.drop_eq_getElem_cons hlow, List.drop_eq_getElem_cons hhigh,
      Nat.add_sub_cancel_left]
    rfl
  rw [u16At, List.getD_eq_getElem?_getD, List.getD_eq_getElem?_getD,
    List.getElem?_eq_getElem hlow, List.getElem?_eq_getElem hhigh, decodeU16, hslice]
  rfl

/-- The bytes of the `i`-th record. -/
def recordChunk (data : List UInt8) (i : Nat) : List UInt8 :=
  (data.drop (recordStart i)).take signatureOffsetsSerializedSize

theorem u16At_recordChunk (data : List UInt8) (i : Nat) {position : Nat}
    (h : position + 1 < signatureOffsetsSerializedSize) :
    u16At (recordChunk data i) position = u16At data (recordStart i + position) := by
  have hbyte : ∀ k < signatureOffsetsSerializedSize,
      (recordChunk data i).getD k 0 = data.getD (recordStart i + k) 0 := by
    intro k hk
    rw [recordChunk, List.getD_eq_getElem?_getD, List.getElem?_take_of_lt hk,
      List.getElem?_drop, ← List.getD_eq_getElem?_getD]
  rw [u16At, u16At, hbyte _ (Nat.lt_of_succ_lt h), hbyte _ h, Nat.add_assoc]

/-- The `i`-th record as the program decodes it. -/
def decodedRecord (data : List UInt8) (i : Nat) : Ed25519SignatureOffsets where
  signatureOffset := UInt16.ofNat (signatureStart data i)
  signatureInstructionIndex := UInt16.ofNat (u16At data (recordStart i + 2))
  publicKeyOffset := UInt16.ofNat (pubkeyStart data i)
  publicKeyInstructionIndex := UInt16.ofNat (u16At data (recordStart i + 6))
  messageDataOffset := UInt16.ofNat (messageStart data i)
  messageDataSize := UInt16.ofNat (messageSize data i)
  messageInstructionIndex := UInt16.ofNat (u16At data (recordStart i + 12))

theorem decodeOffsets_recordChunk {data : List UInt8} {n i : Nat} (table : TableInside data n)
    (hi : i < n) : decodeOffsets (recordChunk data i) = .ok (decodedRecord data i) := by
  have hlength : (recordChunk data i).length = 14 := by
    have htable := table.length
    simp only [recordChunk, recordStart, List.length_take, List.length_drop,
      signatureOffsetsSerializedSize, signatureOffsetsStart] at htable ⊢
    omega
  have hfield : ∀ k ≤ 12, decodeU16 (recordChunk data i) k =
      .ok (UInt16.ofNat (u16At data (recordStart i + k))) := by
    intro k hk
    rw [decodeU16_eq (by omega), u16At_recordChunk]
    exact Nat.lt_of_le_of_lt (Nat.succ_le_succ hk) (by decide)
  simp only [decodeOffsets, hfield _ (Nat.zero_le 12), hfield 2 (by decide),
    hfield 4 (by decide), hfield 6 (by decide), hfield 8 (by decide), hfield 10 (by decide),
    hfield 12 (by decide)]
  rfl

theorem toNat_decodedRecord (data : List UInt8) (i : Nat) :
    (decodedRecord data i).signatureOffset.toNat = signatureStart data i ∧
      (decodedRecord data i).publicKeyOffset.toNat = pubkeyStart data i ∧
      (decodedRecord data i).messageDataOffset.toNat = messageStart data i ∧
      (decodedRecord data i).messageDataSize.toNat = messageSize data i :=
  ⟨UInt16.toNat_ofNat_of_lt' (u16At_lt _ _), UInt16.toNat_ofNat_of_lt' (u16At_lt _ _),
    UInt16.toNat_ofNat_of_lt' (u16At_lt _ _), UInt16.toNat_ofNat_of_lt' (u16At_lt _ _)⟩

theorem loadSignature_eq {data : List UInt8} {n i : Nat} (table : TableInside data n)
    (hi : i < n) :
    loadSignature data (recordChunk data i) = (do
      let signature ← okOr (slice data (signatureStart data i)
        (signatureStart data i + signatureSerializedSize)) (.bridge .invalidEd25519Data)
      let pubkey ← okOr (slice data (pubkeyStart data i)
        (pubkeyStart data i + pubkeySerializedSize)) (.bridge .invalidEd25519Data)
      let msg ← okOr (slice data (messageStart data i)
        (messageStart data i + messageSize data i)) (.bridge .invalidEd25519Data)
      let pubkey ← okOr (toFixed 32 pubkey) .panic
      let signature ← okOr (toFixed 64 signature) .panic
      let msg ← okOr (toFixed 32 msg) .panic
      pure { pubkey, signature, msg }) := by
  obtain ⟨hsignature, hpubkey, hmsg, hsize⟩ := toNat_decodedRecord data i
  simp only [loadSignature, decodeOffsets_recordChunk table hi]
  simp only [← hsignature, ← hpubkey, ← hmsg, ← hsize]
  rfl

theorem slice_eq_none {α : Type} {data : List α} {start stop : Nat} (h : data.length < stop) :
    slice data start stop = none :=
  if_neg fun hinside => by omega

theorem exists_slice {α : Type} {data : List α} {start size : Nat}
    (h : start + size ≤ data.length) :
    ∃ part, slice data start (start + size) = some part ∧ part.length = size := by
  refine ⟨_, if_pos ⟨Nat.le_add_right _ _, h⟩, ?_⟩
  rw [List.length_take, List.length_drop]
  omega

theorem loadSignature_of_valid {data : List UInt8} {n i : Nat} (table : TableInside data n)
    (hi : i < n) (valid : RecordValid data i) :
    ∃ sig, loadSignature data (recordChunk data i) = .ok sig ∧ ReadAt data i sig := by
  obtain ⟨signature, hsignature, hlength⟩ := exists_slice valid.inside.signature
  obtain ⟨pubkey, hpubkey, hlength'⟩ := exists_slice valid.inside.pubkey
  have hmessage := valid.inside.message
  rw [valid.size] at hmessage
  obtain ⟨msg, hmsg, hlength''⟩ := exists_slice hmessage
  obtain ⟨signature, rfl⟩ := exists_toList_eq hlength
  obtain ⟨pubkey, rfl⟩ := exists_toList_eq hlength'
  obtain ⟨msg, rfl⟩ := exists_toList_eq hlength''
  refine ⟨⟨pubkey, signature, msg⟩, ?_, hsignature, hpubkey, hmsg⟩
  simp only [loadSignature_eq table hi, bind_eq_ok, okOr_eq_ok, pure_eq_ok, toFixed_eq_some]
  exact ⟨_, hsignature, _, hpubkey, _, by rw [valid.size]; exact hmsg, _, rfl, _, rfl, _, rfl,
    rfl⟩

theorem loadSignature_of_outside {data : List UInt8} {n i : Nat} (table : TableInside data n)
    (hi : i < n) (outside : ¬ RangesInside data i) :
    loadSignature data (recordChunk data i) = .error (.bridge .invalidEd25519Data) := by
  rw [loadSignature_eq table hi]
  by_cases hsignature : signatureStart data i + signatureSerializedSize ≤ data.length
  · obtain ⟨signature, hsignature', -⟩ := exists_slice hsignature
    rw [hsignature']
    by_cases hpubkey : pubkeyStart data i + pubkeySerializedSize ≤ data.length
    · obtain ⟨pubkey, hpubkey', -⟩ := exists_slice hpubkey
      rw [hpubkey', slice_eq_none (Nat.lt_of_not_le fun hmessage =>
        outside ⟨hsignature, hpubkey, hmessage⟩)]
      rfl
    · rw [slice_eq_none (Nat.lt_of_not_le hpubkey)]
      rfl
  · rw [slice_eq_none (Nat.lt_of_not_le hsignature)]
    rfl

theorem loadSignature_of_odd {data : List UInt8} {n i : Nat} (table : TableInside data n)
    (hi : i < n) (inside : RangesInside data i) (size : messageSize data i ≠ messageDataSize) :
    loadSignature data (recordChunk data i) = .error .panic := by
  obtain ⟨signature, hsignature, hlength⟩ := exists_slice inside.signature
  obtain ⟨pubkey, hpubkey, hlength'⟩ := exists_slice inside.pubkey
  obtain ⟨msg, hmsg, hlength''⟩ := exists_slice inside.message
  obtain ⟨signature, rfl⟩ := exists_toList_eq hlength
  obtain ⟨pubkey, rfl⟩ := exists_toList_eq hlength'
  have hpubkey' : toFixed 32 pubkey.toList = some pubkey := toFixed_eq_some.mpr rfl
  have hsignature' : toFixed 64 signature.toList = some signature := toFixed_eq_some.mpr rfl
  have hmsg' : toFixed 32 msg = none := dif_neg (by rw [hlength'']; exact size)
  rw [loadSignature_eq table hi, hsignature, hpubkey, hmsg]
  simp only [okOr, hpubkey', hsignature', hmsg', bind, Except.bind]

theorem chunks_table (data : List UInt8) (n : Nat)
    (h : signatureOffsetsStart + signatureOffsetsSerializedSize * n ≤ data.length) :
    chunks signatureOffsetsSerializedSize ((data.drop signatureOffsetsStart).take
        (signatureOffsetsSerializedSize * n)) = (List.range n).map (recordChunk data) := by
  have hlength : ((data.drop signatureOffsetsStart).take
      (signatureOffsetsSerializedSize * n)).length = signatureOffsetsSerializedSize * n := by
    rw [List.length_take, List.length_drop]
    omega
  have hcount : (signatureOffsetsSerializedSize * n + signatureOffsetsSerializedSize - 1) /
      signatureOffsetsSerializedSize = n := by
    rw [signatureOffsetsSerializedSize]
    omega
  rw [chunks, hlength, hcount]
  refine List.map_congr_left fun i hi => ?_
  have hlt := List.mem_range.mp hi
  rw [List.drop_take, List.drop_drop, List.take_take, recordChunk, recordStart, Nat.mul_comm i]
  congr 1
  rw [signatureOffsetsSerializedSize]
  omega

theorem iterSignatureOffsets_of_inside {data : List UInt8} {n : Nat}
    (table : TableInside data n) :
    iterSignatureOffsets data = .ok ((List.range n).map (recordChunk data)) := by
  obtain ⟨byte, hbyte, rfl⟩ := Option.map_eq_some_iff.mp table.count
  have hlength := table.length
  simp only [iterSignatureOffsets, bind_eq_ok, okOr_eq_ok, require_eq_ok, pure_eq_ok]
  rw [Nat.add_comm] at hlength
  refine ⟨byte, hbyte, (), hlength, _, if_pos ⟨Nat.le_add_left _ _, hlength⟩, ?_⟩
  rw [Nat.add_sub_cancel, chunks_table data _ table.length]

theorem iterSignatureOffsets_of_outside {data : List UInt8}
    (outside : ∀ n, ¬ TableInside data n) :
    iterSignatureOffsets data = .error (.bridge .invalidEd25519Data) := by
  cases hhead : data.head? with
  | none =>
      rw [iterSignatureOffsets, hhead]
      rfl
  | some byte =>
      have hlength : ¬ signatureOffsetsSerializedSize * byte.toNat + signatureOffsetsStart ≤
          data.length := by
        intro hlength
        refine outside byte.toNat ⟨by rw [hhead]; rfl, ?_⟩
        rwa [Nat.add_comm]
      rw [iterSignatureOffsets, hhead]
      simp only [okOr, require, if_neg hlength, bind, Except.bind]

theorem loadSignatures_of_inside {data : List UInt8} {n : Nat} (table : TableInside data n) :
    loadSignatures data =
      (List.range n).mapM fun i => loadSignature data (recordChunk data i) := by
  rw [loadSignatures, iterSignatureOffsets_of_inside table]
  exact List.mapM_map

theorem accepts_of_wellFormed {data : List UInt8} {n : Nat} (wellFormed : WellFormed data n) :
    ∃ sigs, loadSignatures data = .ok sigs ∧ sigs.length = n ∧
      ∀ i (h : i < sigs.length), ReadAt data i sigs[i] := by
  have hrecord : ∀ i ∈ List.range n,
      ∃ sig, loadSignature data (recordChunk data i) = .ok sig ∧ ReadAt data i sig := by
    intro i hi
    have hlt := List.mem_range.mp hi
    exact loadSignature_of_valid wellFormed.table hlt (wellFormed.records i hlt)
  obtain ⟨sigs, hsigs⟩ :=
    exists_mapM_eq_ok fun i hi => (hrecord i hi).imp fun _ h => h.1
  obtain ⟨hlength, hget⟩ := List.forall₂_iff_get.mp (mapM_eq_ok.mp hsigs)
  rw [List.length_range] at hlength
  refine ⟨sigs, (loadSignatures_of_inside wellFormed.table).trans hsigs, hlength.symm, ?_⟩
  intro i hi
  have hload := hget i (by rwa [List.length_range, hlength]) hi
  rw [List.get_eq_getElem, List.get_eq_getElem, List.getElem_range] at hload
  obtain ⟨sig, hload', hread⟩ := hrecord i (List.mem_range.mpr (hlength ▸ hi))
  obtain rfl := Except.ok.inj (hload.symm.trans hload')
  exact hread

theorem rejects_of_not_wellFormed {data : List UInt8} (ill : ∀ n, ¬ WellFormed data n)
    (regular : ∀ n i, ¬ OddMessage data n i) :
    loadSignatures data = .error (.bridge .invalidEd25519Data) := by
  by_cases htable : ∃ n, TableInside data n
  · obtain ⟨n, table⟩ := htable
    have hinvalid : ∃ i, i < n ∧ ¬ RecordValid data i := by
      by_contra hvalid
      refine ill n ⟨table, fun i hi => ?_⟩
      by_contra hrecord
      exact hvalid ⟨i, hi, hrecord⟩
    -- the first record that cannot be read decides
    classical
    obtain ⟨hi, hrecord⟩ := Nat.find_spec hinvalid
    have before : ∀ j < Nat.find hinvalid, RecordValid data j := by
      intro j hj
      by_contra hrecord'
      exact Nat.find_min hinvalid hj ⟨hj.trans hi, hrecord'⟩
    have houtside : ¬ RangesInside data (Nat.find hinvalid) := by
      intro inside
      exact regular n _ ⟨table, hi, before, inside, fun size => hrecord ⟨inside, size⟩⟩
    rw [loadSignatures_of_inside table]
    refine mapM_range_eq_error hi (fun j hj => ?_) (loadSignature_of_outside table hi houtside)
    obtain ⟨sig, hload, -⟩ := loadSignature_of_valid table (hj.trans hi) (before j hj)
    exact ⟨sig, hload⟩
  · rw [loadSignatures, iterSignatureOffsets_of_outside fun n table => htable ⟨n, table⟩]
    rfl

theorem panics_of_oddMessage {data : List UInt8} {n i : Nat} (odd : OddMessage data n i) :
    loadSignatures data = .error .panic := by
  rw [loadSignatures_of_inside odd.table]
  refine mapM_range_eq_error odd.index (fun j hj => ?_)
    (loadSignature_of_odd odd.table odd.index odd.inside odd.size)
  obtain ⟨sig, hload, -⟩ :=
    loadSignature_of_valid odd.table (hj.trans odd.index) (odd.before j hj)
  exact ⟨sig, hload⟩

theorem ReadAt.unique {data : List UInt8} {i : Nat} {sig sig' : Ed25519Signature}
    (h : ReadAt data i sig) (h' : ReadAt data i sig') : sig = sig' := by
  obtain ⟨pubkey, signature, msg⟩ := sig
  obtain ⟨pubkey', signature', msg'⟩ := sig'
  obtain rfl := Vector.toList_inj.mp (Option.some.inj (h.signature.symm.trans h'.signature))
  obtain rfl := Vector.toList_inj.mp (Option.some.inj (h.pubkey.symm.trans h'.pubkey))
  obtain rfl := Vector.toList_inj.mp (Option.some.inj (h.msg.symm.trans h'.msg))
  rfl

/-- The program returns some signatures exactly when the data consists of them. -/
theorem loadSignatures_eq_ok {data : List UInt8} {sigs : List Ed25519Signature} :
    loadSignatures data = .ok sigs ↔
      WellFormed data sigs.length ∧ ∀ i (h : i < sigs.length), ReadAt data i sigs[i] := by
  constructor
  · intro hload
    by_cases hwell : ∃ n, WellFormed data n
    · obtain ⟨n, wellFormed⟩ := hwell
      obtain ⟨sigs', hload', hlength, hread⟩ := accepts_of_wellFormed wellFormed
      obtain rfl := Except.ok.inj (hload.symm.trans hload')
      exact ⟨hlength ▸ wellFormed, hread⟩
    · by_cases hodd : ∃ n i, OddMessage data n i
      · obtain ⟨n, i, odd⟩ := hodd
        cases hload.symm.trans (panics_of_oddMessage odd)
      · cases hload.symm.trans (rejects_of_not_wellFormed (fun n h => hwell ⟨n, h⟩)
          fun n i odd => hodd ⟨n, i, odd⟩)
  · rintro ⟨wellFormed, hread⟩
    obtain ⟨sigs', hload, hlength, hread'⟩ := accepts_of_wellFormed wellFormed
    have hsame : sigs' = sigs :=
      List.ext_getElem hlength fun i h h' => (hread' i h).unique (hread i h')
    rw [hload, hsame]

/-- The parser is exact unless it comes to a record whose message lies inside the
data with another length than a digest; there it aborts. -/
theorem parser_exact_iff (data : List UInt8) :
    (ParserExact data ↔ ∀ n i, ¬ OddMessage data n i) ∧
      (loadSignatures data = .error .panic ↔ ∃ n i, OddMessage data n i) := by
  have hexact : ParserExact data ↔ ∀ n i, ¬ OddMessage data n i := by
    constructor
    · intro exact_ n i odd
      have hill : ∀ m, ¬ WellFormed data m := by
        intro m wellFormed
        obtain rfl := Option.some.inj (wellFormed.table.count.symm.trans odd.table.count)
        exact odd.size (wellFormed.records i odd.index).size
      have hreject := exact_.rejects hill
      rw [panics_of_oddMessage odd] at hreject
      cases hreject
    · intro regular
      exact ⟨fun n => accepts_of_wellFormed, fun ill => rejects_of_not_wellFormed ill regular⟩
  refine ⟨hexact, ?_, fun ⟨n, i, odd⟩ => panics_of_oddMessage odd⟩
  intro hpanic
  by_contra hregular
  have regular : ∀ n i, ¬ OddMessage data n i := fun n i odd => hregular ⟨n, i, odd⟩
  by_cases hwell : ∃ n, WellFormed data n
  · obtain ⟨n, wellFormed⟩ := hwell
    obtain ⟨sigs, hload, -⟩ := accepts_of_wellFormed wellFormed
    cases hload.symm.trans hpanic
  · have hreject := rejects_of_not_wellFormed (fun n h => hwell ⟨n, h⟩) regular
    cases hreject.symm.trans hpanic

/-- A record of zeros names an empty message. -/
theorem empty_message_panics : ¬ ∀ data, ParserExact data := by
  intro h
  have hcount : ∀ n, WellFormed (1 :: List.replicate 79 0) n → n = 1 :=
    fun n wellFormed => (Option.some.inj wellFormed.table.count).symm
  have hill : ∀ n, ¬ WellFormed (1 :: List.replicate 79 0) n := by
    intro n wellFormed
    obtain rfl := hcount n wellFormed
    exact absurd (wellFormed.records 0 Nat.one_pos).size (by decide)
  have hreject := (h (1 :: List.replicate 79 0)).rejects hill
  have hpanic : loadSignatures (1 :: List.replicate 79 0) = .error .panic := by rfl
  rw [hpanic] at hreject
  cases hreject

end BridgeProgram.SignatureParser
