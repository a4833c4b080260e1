import BridgeProgram.Ed25519Instruction

namespace BridgeProgram.ClientEncoding

open BridgeProgram.Ed25519Instruction
open BridgeProgram.ProgramStates

/-- `U16_MAX`, the index of the instruction itself. -/
def u16Max : Nat := 65535

/-- `writeUInt8`. -/
def writeUInt8 (n : Nat) : Option UInt8 :=
  if n < 256 then some (UInt8.ofNat n) else none

/-- A field `BufferLayout.u16`: two little-endian bytes. -/
def encodeU16 (n : Nat) : Option (List UInt8) :=
  if n < 65536 then some [UInt8.ofNat (n % 256), UInt8.ofNat (n / 256)] else none

/-- The numbers of one offset record before they are encoded. -/
structure ClientOffsets where
  signatureOffset : Nat
  signatureInstructionIndex : Nat
  publicKeyOffset : Nat
  publicKeyInstructionIndex : Nat
  messageDataOffset : Nat
  messageDataSize : Nat
  messageInstructionIndex : Nat

/-- `ED25519_INSTRUCTION_OFFSET_LAYOUT.encode`. -/
def encodeOffsets (offsets : ClientOffsets) : Option (List UInt8) := do
  let fields ← [offsets.signatureOffset, offsets.signatureInstructionIndex,
    offsets.publicKeyOffset, offsets.publicKeyInstructionIndex, offsets.messageDataOffset,
    offsets.messageDataSize, offsets.messageInstructionIndex].mapM encodeU16
  pure fields.flatten

/-- `makeEd25519InstDataPacked`: the message of the first entry is stored once. -/
def makeEd25519InstDataPacked (sigs : List Ed25519Signature) (instructionIndex : Nat) :
    Option (List UInt8) := do
  let first ← sigs.head?
  let dataStart := sigs.length * signatureOffsetsSerializedSize + signatureOffsetsStart
  let dataStartAfterMsg := dataStart + first.msg.size
  let (signatureOffsets, signatureBuffer) :=
    sigs.foldl (fun (signatureOffsets, signatureBuffer) sig =>
      let pubKeyOffset := dataStartAfterMsg + signatureBuffer.length
      (signatureOffsets ++
        [{ signatureOffset := pubKeyOffset + pubkeySerializedSize
           signatureInstructionIndex := instructionIndex
           publicKeyOffset := pubKeyOffset
           publicKeyInstructionIndex := instructionIndex
           messageDataOffset := dataStart
           messageDataSize := sig.msg.size
           messageInstructionIndex := instructionIndex }],
        signatureBuffer ++ sig.pubkey.toList ++ sig.signature.toList)) ([], [])
  let numSignatures ← writeUInt8 sigs.length
  let encodedOffsets ← signatureOffsets.mapM encodeOffsets
  pure (numSignatures :: 0 :: (encodedOffsets.flatten ++ first.msg.toList ++ signatureBuffer))

/-- `makeEd25519InstData`: every entry is stored with its own message. -/
def makeEd25519InstData (sigs : List Ed25519Signature) (instructionIndex : Nat) :
    Option (List UInt8) := do
  let dataStart := sigs.length * signatureOffsetsSerializedSize + signatureOffsetsStart
  let (signatureOffsets, signatureBuffer) :=
    sigs.foldl (fun (signatureOffsets, signatureBuffer) sig =>
      let pubKeyOffset := dataStart + signatureBuffer.length
      let signatureOffset := pubKeyOffset + pubkeySerializedSize
      (signatureOffsets ++
        [{ signatureOffset
           signatureInstructionIndex := instructionIndex
           publicKeyOffset := pubKeyOffset
           publicKeyInstructionIndex := instructionIndex
           messageDataOffset := signatureOffset + signatureSerializedSize
           messageDataSize := sig.msg.size
           messageInstructionIndex := instructionIndex }],
        signatureBuffer ++ sig.pubkey.toList ++ sig.signature.toList ++ sig.msg.toList))
      ([], [])
  let numSignatures ← writeUInt8 sigs.length
  let encodedOffsets ← signatureOffsets.mapM encodeOffsets
  pure (numSignatures :: 0 :: (encodedOffsets.flatten ++ signatureBuffer))

end BridgeProgram.ClientEncoding
