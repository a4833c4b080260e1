import BridgeProgram.ClientEncoding
import BridgeProgram.ListPositions

namespace BridgeProgram.ClientRoundTrip

open BridgeProgram.ByteStrings
open BridgeProgram.CheckedResult
open BridgeProgram.ClientEncoding
open BridgeProgram.Ed25519Instruction
open BridgeProgram.ListPositions
open BridgeProgram.ProgramStates
open BridgeProgram.SolanaRuntime

/-- Two little-endian bytes. -/
def u16Bytes (n : Nat) : List UInt8 :=
  [UInt8.ofNat (n % 256), UInt8.ofNat (n / 256)]

/-- The numbers of a record in the order in which they are encoded. -/
def fields (offsets : ClientOffsets) : List Nat :=
  [offsets.signatureOffset, offsets.signatureInstructionIndex, offsets.publicKeyOffset,
    offsets.publicKeyInstructionIndex, offsets.messageDataOffset, offsets.messageDataSize,
    offsets.messageInstructionIndex]

/-- No number of the record exceeds a `u16`. -/
def Fits (offsets : ClientOffsets) : Prop :=
  ∀ n ∈ fields offsets, n < 65536

/-- The encoding of a record that fits. -/
def recordBytes (offsets : ClientOffsets) : List UInt8 :=
  (fields offsets).flatMap u16Bytes

/-- The record as it is read. -/
def toRecord (offsets : ClientOffsets) : Ed25519SignatureOffsets where
  signatureOffset := UInt16.ofNat offsets.signatureOffset
  signatureInstructionIndex := UInt16.ofNat offsets.signatureInstructionIndex
  publicKeyOffset := UInt16.ofNat offsets.publicKeyOffset
  publicKeyInstructionIndex := UInt16.ofNat offsets.publicKeyInstructionIndex
  messageDataOffset := UInt16.ofNat offsets.messageDataOffset
  messageDataSize := UInt16.ofNat offsets.messageDataSize
  messageInstructionIndex := UInt16.ofNat offsets.messageInstructionIndex

@[simp] theorem length_recordBytes (offsets : ClientOffsets) :
    (recordBytes offsets).length = signatureOffsetsSerializedSize := by
  rfl

theorem mapM_eq_map {α β : Type} {f : α → Option β} {g : α → β} {l : List α}
    (h : ∀ a ∈ l, f a = some (g a)) : l.mapM f = some (l.map g) := by
  induction l with
  | nil => rfl
  | cons a l ih =>
      obtain ⟨ha, hl⟩ := List.forall_mem_cons.mp h
      rw [List.mapM_cons, ha, ih hl]
      rfl

theorem encodeOffsets_of_fits {offsets : ClientOffsets} (fits : Fits offsets) :
    encodeOffsets offsets = some (recordBytes offsets) := by
  have hfields : (fields offsets).mapM encodeU16 = some ((fields offsets).map u16Bytes) :=
    mapM_eq_map fun n hn => if_pos (fits n hn)
  rw [encodeOffsets]
  exact Option.bind_eq_some_iff.mpr ⟨_, hfields, by rw [recordBytes, List.flatMap_def]; rfl⟩

theorem ofNat_u16Bytes {n : Nat} (h : n < 65536) :
    UInt16.ofNat ((UInt8.ofNat (n % 256)).toNat + 256 * (UInt8.ofNat (n / 256)).toNat) =
      UInt16.ofNat n := by
  rw [UInt8.toNat_ofNat_of_lt' (Nat.mod_lt _ (by decide)),
    UInt8.toNat_ofNat_of_lt' (Nat.div_lt_of_lt_mul h), Nat.mod_add_div]

theorem decodeOffsets_recordBytes {offsets : ClientOffsets} (fits : Fits offsets) :
    decodeOffsets (recordBytes offsets) = .ok (toRecord offsets) := by
  simp only [Fits, fields, List.forall_mem_cons] at fits
  obtain ⟨h₁, h₂, h₃, h₄, h₅, h₆, h₇, -⟩ := fits
  rw [toRecord, ← ofNat_u16Bytes h₁, ← ofNat_u16Bytes h₂, ← ofNat_u16Bytes h₃,
    ← ofNat_u16Bytes h₄, ← ofNat_u16Bytes h₅, ← ofNat_u16Bytes h₆, ← ofNat_u16Bytes h₇]
  rfl

/-- The count and the table of offset records. -/
def instHeader (offsets : List ClientOffsets) : List UInt8 :=
  UInt8.ofNat offsets.length :: 0 :: (offsets.map recordBytes).flatten

/-- Both encodings: the header and whatever the records point into. -/
def instData (offsets : List ClientOffsets) (body : List UInt8) : List UInt8 :=
  instHeader offsets ++ body

theorem length_instHeader (offsets : List ClientOffsets) :
    (instHeader offsets).length =
      offsets.length * signatureOffsetsSerializedSize + signatureOffsetsStart := by
  have hlengths : (offsets.map recordBytes).map List.length =
      List.replicate offsets.length signatureOffsetsSerializedSize := by
    rw [List.map_map, List.eq_replicate_iff]
    simp
  rw [instHeader, List.length_cons, List.length_cons, List.length_flatten, hlengths,
    List.sum_replicate_nat]
  rfl

theorem slice_instData (offsets : List ClientOffsets) (body : List UInt8) {stop : Nat}
    (hstop : stop = offsets.length * signatureOffsetsSerializedSize + signatureOffsetsStart) :
    slice (instData offsets body) signatureOffsetsStart stop =
      some (offsets.map recordBytes).flatten := by
  have hlength := length_instHeader offsets
  rw [instHeader, List.length_cons, List.length_cons] at hlength
  refine slice_append [UInt8.ofNat offsets.length, 0] _ body rfl ?_
  rw [hstop, ← hlength]
  exact Nat.add_comm _ 2

theorem chunks_records (offsets : List ClientOffsets) :
    chunks signatureOffsetsSerializedSize (offsets.map recordBytes).flatten =
      offsets.map recordBytes :=
  chunks_flatten (by decide) (by simp)

theorem iterSignatureOffsets_instData {offsets : List ClientOffsets} (body : List UInt8)
    (count : offsets.length < 256) :
    iterSignatureOffsets (instData offsets body) = .ok (offsets.map recordBytes) := by
  have hcount : (UInt8.ofNat offsets.length).toNat = offsets.length :=
    UInt8.toNat_ofNat_of_lt' count
  have htable : slice (instData offsets body) signatureOffsetsStart
      (signatureOffsetsSerializedSize * (UInt8.ofNat offsets.length).toNat +
        signatureOffsetsStart) = some (offsets.map recordBytes).flatten :=
    slice_instData offsets body (by rw [hcount, Nat.mul_comm])
  simp only [iterSignatureOffsets, bind_eq_ok, okOr_eq_ok, require_eq_ok, pure_eq_ok]
  exact ⟨_, rfl, (), (slice_eq_some.mp htable).1.2, _, htable, chunks_records offsets⟩

theorem offsetRecords_instData {offsets : List ClientOffsets} (body : List UInt8)
    (count : offsets.length < 256) (fits : ∀ o ∈ offsets, Fits o) :
    offsetRecords (instData offsets body) = some (offsets.map toRecord) := by
  have hcount : (UInt8.ofNat offsets.length).toNat = offsets.length :=
    UInt8.toNat_ofNat_of_lt' count
  have htable : slice (instData offsets body) signatureOffsetsStart
      (signatureOffsetsStart +
        signatureOffsetsSerializedSize * (UInt8.ofNat offsets.length).toNat) =
      some (offsets.map recordBytes).flatten :=
    slice_instData offsets body (by rw [hcount, Nat.mul_comm, Nat.add_comm])
  have hdecode : (offsets.map recordBytes).mapM decodeOffsets = .ok (offsets.map toRecord) := by
    rw [mapM_eq_ok, List.forall₂_map_left_iff, List.forall₂_map_right_iff, List.forall₂_same]
    exact fun o ho => decodeOffsets_recordBytes (fits o ho)
  simp only [offsetRecords, Option.bind_eq_bind, Option.bind_eq_some_iff]
  refine ⟨_, rfl, _, htable, ?_⟩
  rw [chunks_records, hdecode]
  rfl

/-- A record fits and points to the parts of a signature. -/
structure Located (data : List UInt8) (offsets : ClientOffsets) (sig : Ed25519Signature) :
    Prop where
  fits : Fits offsets
  signature : slice data offsets.signatureOffset
    (offsets.signatureOffset + signatureSerializedSize) = some sig.signature.toList
  pubkey : slice data offsets.publicKeyOffset
    (offsets.publicKeyOffset + pubkeySerializedSize) = some sig.pubkey.toList
  size : offsets.messageDataSize = messageDataSize
  msg : slice data offsets.messageDataOffset (offsets.messageDataOffset + messageDataSize) =
    some sig.msg.toList

theorem toNat_toRecord {offsets : ClientOffsets} (fits : Fits offsets) :
    (toRecord offsets).signatureOffset.toNat = offsets.signatureOffset ∧
      (toRecord offsets).publicKeyOffset.toNat = offsets.publicKeyOffset ∧
      (toRecord offsets).messageDataOffset.toNat = offsets.messageDataOffset ∧
      (toRecord offsets).messageDataSize.toNat = offsets.messageDataSize := by
  simp only [Fits, fields, List.forall_mem_cons] at fits
  obtain ⟨h₁, -, h₃, -, h₅, h₆, -⟩ := fits
  exact ⟨UInt16.toNat_ofNat_of_lt' h₁, UInt16.toNat_ofNat_of_lt' h₃,
    UInt16.toNat_ofNat_of_lt' h₅, UInt16.toNat_ofNat_of_lt' h₆⟩

theorem loadSignature_of_located {data : List UInt8} {offsets : ClientOffsets}
    {sig : Ed25519Signature} (located : Located data offsets sig) :
    loadSignature data (recordBytes offsets) = .ok sig := by
  obtain ⟨hsignature, hpubkey, hmsg, hsize⟩ := toNat_toRecord located.fits
  simp only [loadSignature, decodeOffsets_recordBytes located.fits, bind_eq_ok, okOr_eq_ok,
    pure_eq_ok, toFixed_eq_some, Except.ok.injEq]
  refine ⟨_, rfl, _, ?_, _, ?_, _, ?_, _, rfl, _, rfl, _, rfl, rfl⟩
  · rw [hsignature]
    exact located.signature
  · rw [hpubkey]
    exact located.pubkey
  · rw [hmsg, hsize, located.size]
    exact located.msg

theorem fits_of_located {data : List UInt8} {offsets : List ClientOffsets}
    {sigs : List Ed25519Signature} (located : List.Forall₂ (Located data) offsets sigs) :
    ∀ o ∈ offsets, Fits o := by
  intro o ho
  obtain ⟨sig, -, hlocated⟩ := exists_right_of_mem located ho
  exact hlocated.fits

theorem loadSignatures_of_located {offsets : List ClientOffsets} {body : List UInt8}
    {sigs : List Ed25519Signature} (count : offsets.length < 256)
    (located : List.Forall₂ (Located (instData offsets body)) offsets sigs) :
    loadSignatures (instData offsets body) = .ok sigs := by
  simp only [loadSignatures, iterSignatureOffsets_instData body count, bind_eq_ok, mapM_eq_ok,
    Except.ok.injEq, exists_eq_left', List.forall₂_map_left_iff]
  exact located.imp fun _ _ h => loadSignature_of_located h

/-- Every part of the record is in the instruction itself. -/
structure OwnIndexes (offsets : ClientOffsets) : Prop where
  signature : offsets.signatureInstructionIndex = u16Max
  publicKey : offsets.publicKeyInstructionIndex = u16Max
  message : offsets.messageInstructionIndex = u16Max

variable {Pubkey : Type}

theorem readRecord_of_located (instructions : List (TxInstruction Pubkey)) {data : List UInt8}
    {offsets : ClientOffsets} {sig : Ed25519Signature} (own : OwnIndexes offsets)
    (located : Located data offsets sig) :
    readRecord instructions data (toRecord offsets) = some (checkedOf sig) := by
  obtain ⟨hsignature, hpubkey, hmsg, hsize⟩ := toNat_toRecord located.fits
  have hown : instructionData instructions data (UInt16.ofNat u16Max) = some data :=
    if_pos rfl
  simp only [readRecord, getDataSlice, hsignature, hpubkey, hmsg, hsize, located.size]
  simp only [toRecord, own.signature, own.publicKey, own.message, hown, Option.bind_eq_bind,
    Option.bind_some, located.signature, located.pubkey, located.msg]
  rfl

theorem mapM_readRecord (instructions : List (TxInstruction Pubkey)) {data : List UInt8}
    {offsets : List ClientOffsets} {sigs : List Ed25519Signature}
    (own : ∀ o ∈ offsets, OwnIndexes o) (located : List.Forall₂ (Located data) offsets sigs) :
    (offsets.map toRecord).mapM (readRecord instructions data) =
      some (sigs.map checkedOf) := by
  induction located with
  | nil => rfl
  | cons hlocated _ ih =>
      obtain ⟨hown, hrest⟩ := List.forall_mem_cons.mp own
      rw [List.map_cons, List.mapM_cons, readRecord_of_located instructions hown hlocated,
        ih hrest]
      rfl

theorem readRecords_of_located (instructions : List (TxInstruction Pubkey))
    {offsets : List ClientOffsets} {body : List UInt8} {sigs : List Ed25519Signature}
    (count : offsets.length < 256) (own : ∀ o ∈ offsets, OwnIndexes o)
    (located : List.Forall₂ (Located (instData offsets body)) offsets sigs) :
    readRecords instructions (instData offsets body) = some (sigs.map checkedOf) := by
  simp only [readRecords, offsetRecords_instData body count (fits_of_located located),
    Option.bind_eq_bind, Option.bind_some]
  exact mapM_readRecord instructions own located

/-- The record of an entry: the public key is at `position`, the signature after it. -/
def entryOffsets (instructionIndex position messageOffset : Nat) : ClientOffsets where
  signatureOffset := position + pubkeySerializedSize
  signatureInstructionIndex := instructionIndex
  publicKeyOffset := position
  publicKeyInstructionIndex := instructionIndex
  messageDataOffset := messageOffset
  messageDataSize := messageDataSize
  messageInstructionIndex := instructionIndex

/-- The public key and the signature of an entry. -/
def keyAndSignature (sig : Ed25519Signature) : List UInt8 :=
  sig.pubkey.toList ++ sig.signature.toList

theorem located_entryOffsets {data : List UInt8} {sig : Ed25519Signature}
    {instructionIndex position messageOffset : Nat} (index : instructionIndex < 65536)
    (small : data.length < 65536)
    (entry : slice data position (position + 96) = some (keyAndSignature sig))
    (message : slice data messageOffset (messageOffset + messageDataSize) =
      some sig.msg.toList) :
    Located data (entryOffsets instructionIndex position messageOffset) sig := by
  have hpubkey : slice (keyAndSignature sig) 0 32 = some sig.pubkey.toList :=
    slice_append [] _ _ rfl (by simp)
  have hsignature : slice (keyAndSignature sig) 32 96 = some sig.signature.toList := by
    rw [← List.append_nil (keyAndSignature sig)]
    exact slice_append _ _ [] (by simp) (by simp)
  have hentry := (slice_eq_some.mp entry).1.2
  have hmessage := (slice_eq_some.mp message).1.2
  refine ⟨?_, slice_slice entry hsignature, slice_slice entry hpubkey, rfl, message⟩
  simp only [Fits, fields, entryOffsets, pubkeySerializedSize, List.forall_mem_cons,
    List.not_mem_nil, false_implies, implies_true, and_true]
  unfold messageDataSize at *
  omega

theorem foldl_entries (record : Nat → ClientOffsets)
    {entry : Ed25519Signature → List UInt8} {width : Nat}
    (hwidth : ∀ sig, (entry sig).length = width) (sigs : List Ed25519Signature) :
    sigs.foldl (fun (acc : List ClientOffsets × List UInt8) sig =>
        (acc.1 ++ [record acc.2.length], acc.2 ++ entry sig)) ([], []) =
      (sigs.mapIdx fun i _ => record (width * i), sigs.flatMap entry) := by
  induction sigs using List.reverseRecOn with
  | nil => rfl
  | append_singleton sigs sig ih =>
      rw [List.foldl_append, ih, List.foldl_cons, List.foldl_nil, List.mapIdx_concat,
        List.flatMap_append, List.flatMap_singleton, length_flatMap_const hwidth]

/-- The end of both encoders. -/
def writeRecords (numSignatures : Nat) :
    List ClientOffsets × List UInt8 → Option (List UInt8)
  | (offsets, body) => do
      let numSignatures ← writeUInt8 numSignatures
      let encodedOffsets ← offsets.mapM encodeOffsets
      pure (numSignatures :: 0 :: (encodedOffsets.flatten ++ body))

theorem writeRecords_of_located {offsets : List ClientOffsets} {body : List UInt8}
    {sigs : List Ed25519Signature} (count : sigs.length < 256)
    (located : List.Forall₂ (Located (instData offsets body)) offsets sigs) :
    writeRecords sigs.length (offsets, body) = some (instData offsets body) := by
  have hwrite : writeUInt8 sigs.length = some (UInt8.ofNat sigs.length) := if_pos count
  have hencode : offsets.mapM encodeOffsets = some (offsets.map recordBytes) :=
    mapM_eq_map fun o ho => encodeOffsets_of_fits (fits_of_located located o ho)
  simp only [writeRecords, hwrite, hencode, instData, instHeader, located.length_eq]
  rfl

/-- Where the body begins. -/
def dataStart (sigs : List Ed25519Signature) : Nat :=
  sigs.length * signatureOffsetsSerializedSize + signatureOffsetsStart

/-- The records of signatures whose entries lie one behind the other. -/
def recordsAt (sigs : List Ed25519Signature) (instructionIndex width : Nat)
    (position messageOffset : Nat → Nat) : List ClientOffsets :=
  sigs.mapIdx fun i _ => entryOffsets instructionIndex (position (width * i))
    (messageOffset (width * i))

@[simp] theorem length_recordsAt (sigs : List Ed25519Signature) (instructionIndex width : Nat)
    (position messageOffset : Nat → Nat) :
    (recordsAt sigs instructionIndex width position messageOffset).length = sigs.length :=
  List.length_mapIdx

theorem located_recordsAt {sigs : List Ed25519Signature} {data : List UInt8}
    {instructionIndex width : Nat} {position messageOffset : Nat → Nat}
    (index : instructionIndex < 65536) (small : data.length < 65536)
    (entry : ∀ i (h : i < sigs.length), slice data (position (width * i))
      (position (width * i) + 96) = some (keyAndSignature sigs[i]))
    (message : ∀ i (h : i < sigs.length), slice data (messageOffset (width * i))
      (messageOffset (width * i) + messageDataSize) = some sigs[i].msg.toList) :
    List.Forall₂ (Located data)
      (recordsAt sigs instructionIndex width position messageOffset) sigs := by
  refine List.forall₂_iff_get.mpr ⟨length_recordsAt .., fun i _ hi => ?_⟩
  rw [List.get_eq_getElem, List.get_eq_getElem]
  simp only [recordsAt, List.getElem_mapIdx]
  exact located_entryOffsets index small (entry i hi) (message i hi)

theorem ownIndexes_recordsAt {sigs : List Ed25519Signature} {width : Nat}
    {position messageOffset : Nat → Nat} :
    ∀ o ∈ recordsAt sigs u16Max width position messageOffset, OwnIndexes o := by
  intro o ho
  obtain ⟨i, -, rfl⟩ := List.mem_mapIdx.mp ho
  exact ⟨rfl, rfl, rfl⟩

theorem length_header_recordsAt (sigs : List Ed25519Signature) (instructionIndex width : Nat)
    (position messageOffset : Nat → Nat) :
    (instHeader (recordsAt sigs instructionIndex width position messageOffset)).length =
      dataStart sigs := by
  rw [length_instHeader, length_recordsAt, dataStart]

/-- An entry of `makeEd25519InstData`. -/
def plainEntry (sig : Ed25519Signature) : List UInt8 :=
  keyAndSignature sig ++ sig.msg.toList

theorem length_plainEntry (sig : Ed25519Signature) : (plainEntry sig).length = 128 := by
  simp [plainEntry, keyAndSignature]

def plainRecords (sigs : List Ed25519Signature) (instructionIndex : Nat) :
    List ClientOffsets :=
  recordsAt sigs instructionIndex 128 (dataStart sigs + ·) (dataStart sigs + · + 96)

/-- What `makeEd25519InstData` builds. -/
def plainData (sigs : List Ed25519Signature) (instructionIndex : Nat) : List UInt8 :=
  instData (plainRecords sigs instructionIndex) (sigs.flatMap plainEntry)

theorem length_plainData (sigs : List Ed25519Signature) (instructionIndex : Nat) :
    (plainData sigs instructionIndex).length = dataStart sigs + 128 * sigs.length := by
  rw [plainData, instData, List.length_append, plainRecords, length_header_recordsAt,
    length_flatMap_const length_plainEntry]

theorem located_plain {sigs : List Ed25519Signature} {instructionIndex : Nat}
    (count : sigs.length < 256) (index : instructionIndex < 65536) :
    List.Forall₂ (Located (plainData sigs instructionIndex))
      (plainRecords sigs instructionIndex) sigs := by
  have hentry : ∀ i (h : i < sigs.length), slice (plainData sigs instructionIndex)
      (dataStart sigs + 128 * i) (dataStart sigs + 128 * i + 128) =
        some (plainEntry sigs[i]) := by
    intro i hi
    have hinside := slice_inside (instHeader (plainRecords sigs instructionIndex)) []
      (slice_flatMap length_plainEntry hi)
    rw [plainRecords, length_header_recordsAt, List.append_nil, ← Nat.add_assoc] at hinside
    exact hinside
  refine located_recordsAt index ?_ (fun i hi => ?_) (fun i hi => ?_)
  · rw [length_plainData, dataStart, signatureOffsetsSerializedSize, signatureOffsetsStart]
    omega
  · exact slice_slice (hentry i hi) (slice_append [] _ _ rfl (by simp))
  · rw [Nat.add_assoc _ 96]
    refine slice_slice (hentry i hi) ?_
    rw [← List.append_nil (plainEntry sigs[i])]
    exact slice_append _ _ [] (by simp [keyAndSignature])
      (by simp [keyAndSignature, messageDataSize])

theorem makeEd25519InstData_eq {sigs : List Ed25519Signature} {instructionIndex : Nat}
    (count : sigs.length < 256) (index : instructionIndex < 65536) :
    makeEd25519InstData sigs instructionIndex = some (plainData sigs instructionIndex) := by
  have hloop := foldl_entries (fun position => entryOffsets instructionIndex
    (dataStart sigs + position) (dataStart sigs + position + 96)) length_plainEntry sigs
  simp only [plainEntry, keyAndSignature, ← List.append_assoc] at hloop
  calc makeEd25519InstData sigs instructionIndex
      = writeRecords sigs.length (plainRecords sigs instructionIndex,
          sigs.flatMap plainEntry) := congrArg (writeRecords sigs.length) hloop
    _ = some (plainData sigs instructionIndex) :=
        writeRecords_of_located count (located_plain count index)

theorem length_keyAndSignature (sig : Ed25519Signature) :
    (keyAndSignature sig).length = 96 := by
  simp [keyAndSignature]

def packedRecords (sigs : List Ed25519Signature) (instructionIndex : Nat) :
    List ClientOffsets :=
  recordsAt sigs instructionIndex 96 (dataStart sigs + messageDataSize + ·)
    fun _ => dataStart sigs

/-- What `makeEd25519InstDataPacked` builds with the message `msg`. -/
def packedData (sigs : List Ed25519Signature) (msg : Vector UInt8 32)
    (instructionIndex : Nat) : List UInt8 :=
  instData (packedRecords sigs instructionIndex)
    (msg.toList ++ sigs.flatMap keyAndSignature)

theorem length_packedData (sigs : List Ed25519Signature) (msg : Vector UInt8 32)
    (instructionIndex : Nat) :
    (packedData sigs msg instructionIndex).length = dataStart sigs + (32 + 96 * sigs.length) := by
  rw [packedData, instData, List.length_append, packedRecords, length_header_recordsAt,
    List.length_append, Vector.length_toList, length_flatMap_const length_keyAndSignature]

theorem located_packed {sigs : List Ed25519Signature} {msg : Vector UInt8 32}
    {instructionIndex : Nat} (count : sigs.length < 256) (index : instructionIndex < 65536)
    (same : ∀ sig ∈ sigs, sig.msg = msg) :
    List.Forall₂ (Located (packedData sigs msg instructionIndex))
      (packedRecords sigs instructionIndex) sigs := by
  have hheader : (instHeader (packedRecords sigs instructionIndex)).length = dataStart sigs :=
    length_header_recordsAt ..
  refine located_recordsAt index ?_ (fun i hi => ?_) (fun i hi => ?_)
  · rw [length_packedData, dataStart, signatureOffsetsSerializedSize, signatureOffsetsStart]
    omega
  · have hinside := slice_inside (instHeader (packedRecords sigs instructionIndex) ++ msg.toList) []
      (slice_flatMap length_keyAndSignature hi)
    rw [List.length_append, hheader, Vector.length_toList, List.append_nil,
      List.append_assoc, ← Nat.add_assoc] at hinside
    exact hinside
  · rw [same _ (List.getElem_mem hi), packedData, instData, ← List.append_assoc]
    exact slice_append _ _ _ hheader.symm (by rw [hheader, Vector.length_toList, messageDataSize])

theorem makeEd25519InstDataPacked_eq {sigs : List Ed25519Signature} {first : Ed25519Signature}
    {instructionIndex : Nat} (hfirst : sigs.head? = some first) (count : sigs.length < 256)
    (index : instructionIndex < 65536) (same : ∀ sig ∈ sigs, sig.msg = first.msg) :
    makeEd25519InstDataPacked sigs instructionIndex =
      some (packedData sigs first.msg instructionIndex) := by
  have hloop := foldl_entries (fun position => entryOffsets instructionIndex
    (dataStart sigs + messageDataSize + position) (dataStart sigs)) length_keyAndSignature sigs
  simp only [keyAndSignature] at hloop
  refine Eq.trans ?_ (writeRecords_of_located count (located_packed count index same))
  simp only [makeEd25519InstDataPacked, hfirst, List.append_assoc]
  exact congrArg (fun r => writeRecords sigs.length (r.1, first.msg.toList ++ r.2)) hloop

/-- For at most 255 signatures both encoders return, with offsets that fit their
fields; the program reads back the signatures in their order, and so does the
precompile when the records name the instruction itself. -/
theorem encodings_round_trip (sigs : List Ed25519Signature) (instructionIndex : Nat)
    (nonempty : sigs ≠ []) (count : sigs.length ≤ 255) (index : instructionIndex < 65536) :
    (∃ offsets body,
      makeEd25519InstData sigs instructionIndex = some (instData offsets body) ∧
      (∀ o ∈ offsets, Fits o) ∧ loadSignatures (instData offsets body) = .ok sigs ∧
      (instructionIndex = u16Max → ∀ instructions : List (TxInstruction Pubkey),
        readRecords instructions (instData offsets body) = some (sigs.map checkedOf))) ∧
    ((∀ sig ∈ sigs, ∀ sig' ∈ sigs, sig.msg = sig'.msg) → ∃ offsets body,
      makeEd25519InstDataPacked sigs instructionIndex = some (instData offsets body) ∧
      (∀ o ∈ offsets, Fits o) ∧ loadSignatures (instData offsets body) = .ok sigs ∧
      (instructionIndex = u16Max → ∀ instructions : List (TxInstruction Pubkey),
        readRecords instructions (instData offsets body) = some (sigs.map checkedOf))) := by
  have hcount : sigs.length < 256 := Nat.lt_succ_of_le count
  constructor
  · have hlocated := located_plain hcount index
    have hrecords : (plainRecords sigs instructionIndex).length < 256 := by
      rwa [hlocated.length_eq]
    refine ⟨_, _, makeEd25519InstData_eq hcount index, fits_of_located hlocated,
      loadSignatures_of_located hrecords hlocated, ?_⟩
    rintro rfl instructions
    exact readRecords_of_located instructions hrecords ownIndexes_recordsAt hlocated
  · intro same
    obtain ⟨first, rest, rfl⟩ := List.exists_cons_of_ne_nil nonempty
    have hsame : ∀ sig ∈ first :: rest, sig.msg = first.msg :=
      fun sig hsig => same sig hsig first List.mem_cons_self
    have hlocated := located_packed hcount index hsame
    have hrecords : (packedRecords (first :: rest) instructionIndex).length < 256 := by
      rwa [hlocated.length_eq]
    refine ⟨_, _, makeEd25519InstDataPacked_eq rfl hcount index hsame, fits_of_located hlocated,
      loadSignatures_of_located hrecords hlocated, ?_⟩
    rintro rfl instructions
    exact readRecords_of_located instructions hrecords ownIndexes_recordsAt hlocated

/-- Two signatures of one message. -/
def twoSignatures : List Ed25519Signature :=
  [ { pubkey := Vector.replicate 32 1, signature := Vector.replicate 64 2
      msg := Vector.replicate 32 3 },
    { pubkey := Vector.replicate 32 4, signature := Vector.replicate 64 5
      msg := Vector.replicate 32 3 } ]

theorem encodings_round_trip_sample :
    ∃ offsets body,
      makeEd25519InstDataPacked twoSignatures u16Max = some (instData offsets body) ∧
      loadSignatures (instData offsets body) = .ok twoSignatures ∧
      readRecords ([] : List (TxInstruction Nat)) (instData offsets body) =
        some (twoSignatures.map checkedOf) := by
  obtain ⟨offsets, body, hencode, -, hload, hread⟩ :=
    (encodings_round_trip twoSignatures u16Max (by simp [twoSignatures]) (by decide)
      (by decide)).2 (by simp [twoSignatures])
  exact ⟨offsets, body, hencode, hload, hread rfl []⟩

end BridgeProgram.ClientRoundTrip
