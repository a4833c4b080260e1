import BridgeProgram.ByteStrings
import BridgeProgram.SolanaRuntime

namespace BridgeProgram.Ed25519Instruction

open BridgeProgram.ByteStrings
open BridgeProgram.CheckedResult
open BridgeProgram.ProgramStates
open BridgeProgram.SolanaRuntime

structure Ed25519SignatureOffsets where
  signatureOffset : UInt16
  signatureInstructionIndex : UInt16
  publicKeyOffset : UInt16
  publicKeyInstructionIndex : UInt16
  messageDataOffset : UInt16
  messageDataSize : UInt16
  messageInstructionIndex : UInt16
  deriving DecidableEq

structure Ed25519Signature where
  pubkey : Vector UInt8 32
  signature : Vector UInt8 64
  msg : Vector UInt8 32
  deriving DecidableEq

/-- `decode_u16`: two little-endian bytes; aborts when the slice is too short. -/
def decodeU16 (chunk : List UInt8) (index : Nat) : Except ProgramError UInt16 := do
  let bytes ← okOr (slice chunk index (index + 2)) .panic
  let bytes ← okOr (toFixed 2 bytes) .panic
  pure (UInt16.ofNat (bytes[0].toNat + 256 * bytes[1].toNat))

/-- One offset record. -/
def decodeOffsets (chunk : List UInt8) : Except ProgramError Ed25519SignatureOffsets := do
  let signatureOffset ← decodeU16 chunk 0
  let signatureInstructionIndex ← decodeU16 chunk 2
  let publicKeyOffset ← decodeU16 chunk 4
  let publicKeyInstructionIndex ← decodeU16 chunk 6
  let messageDataOffset ← decodeU16 chunk 8
  let messageDataSize ← decodeU16 chunk 10
  let messageInstructionIndex ← decodeU16 chunk 12
  pure { signatureOffset, signatureInstructionIndex, publicKeyOffset,
         publicKeyInstructionIndex, messageDataOffset, messageDataSize,
         messageInstructionIndex }

/-- `iter_signature_offsets`: the chunks of the offset table. They are decoded
one by one while they are consumed. -/
def iterSignatureOffsets (data : List UInt8) : Except ProgramError (List (List UInt8)) := do
  let numSigs ← okOr data.head? (.bridge .invalidEd25519Data)
  let allStructsSize := signatureOffsetsSerializedSize * numSigs.toNat
  require (allStructsSize + signatureOffsetsStart ≤ data.length)
    (.bridge .invalidEd25519Data)
  let allStructsSlice ← okOr
    (slice data signatureOffsetsStart (allStructsSize + signatureOffsetsStart))
    (.bridge .invalidEd25519Data)
  pure (chunks signatureOffsetsSerializedSize allStructsSlice)

/-- The body of the loop of `load_signatures`. The three conversions to arrays
abort on a wrong length. -/
def loadSignature (data chunk : List UInt8) : Except ProgramError Ed25519Signature := do
  let offsets ← decodeOffsets chunk
  let signature ← okOr
    (slice data offsets.signatureOffset.toNat
      (offsets.signatureOffset.toNat + signatureSerializedSize))
    (.bridge .invalidEd25519Data)
  let pubkey ← okOr
    (slice data offsets.publicKeyOffset.toNat
      (offsets.publicKeyOffset.toNat + pubkeySerializedSize))
    (.bridge .invalidEd25519Data)
  let msg ← okOr
    (slice data offsets.messageDataOffset.toNat
      (offsets.messageDataOffset.toNat + offsets.messageDataSize.toNat))
    (.bridge .invalidEd25519Data)
  let pubkey ← okOr (toFixed 32 pubkey) .panic
  let signature ← okOr (toFixed 64 signature) .panic
  let msg ← okOr (toFixed 32 msg) .panic
  pure { pubkey, signature, msg }

def loadSignatures (data : List UInt8) : Except ProgramError (List Ed25519Signature) := do
  let offsets ← iterSignatureOffsets data
  offsets.mapM (loadSignature data)

section

variable {Pubkey Hash : Type} [DecidableEq Pubkey]

omit [DecidableEq Pubkey] in
/-- `get_instruction_relative(-1, ..)`. -/
def getPreviousInstruction (sysvar : InstructionsSysvar Pubkey) :
    Except ProgramError (TxInstruction Pubkey) := do
  require (0 < sysvar.currentIndex) .invalidArgument
  okOr sysvar.instructions[sysvar.currentIndex - 1]? .invalidArgument

def verifyEd25519Ix (rt : Runtime Pubkey Hash) (ixSysvar : InstructionsSysvar Pubkey)
    (signers : List Pubkey) (message : Vector UInt8 32) : Except ProgramError Unit := do
  let ed25519Inst ← getPreviousInstruction ixSysvar
  require (ed25519Inst.programId = rt.ed25519Program) (.bridge .invalidEd25519ProgramId)
  require (ed25519Inst.accounts = []) (.bridge .invalidEd25519Accounts)
  require (1 < ed25519Inst.data.length) (.bridge .invalidEd25519Data)
  let signatures ← loadSignatures ed25519Inst.data
  require (signatures.length = signers.length) (.bridge .invalidGuardianSigCount)
  forM (signatures.zip signers) fun (sigBundle, signer) => do
    require (sigBundle.pubkey = rt.pubkeyBytes signer)
      (.bridge .invalidGuardianSignaturePubKey)
    require (sigBundle.msg = message) (.bridge .invalidGuardianSignatureMessage)

/-- The bytes that an instruction index field names: 65535 is the ed25519
instruction itself, anything else an instruction of the transaction. -/
def instructionData (instructions : List (TxInstruction Pubkey)) (data : List UInt8)
    (instructionIndex : UInt16) : Option (List UInt8) :=
  if instructionIndex = 65535 then some data
  else instructions[instructionIndex.toNat]?.map TxInstruction.data

/-- `get_data_slice`. -/
def getDataSlice (instructions : List (TxInstruction Pubkey)) (data : List UInt8)
    (instructionIndex offsetStart : UInt16) (size : Nat) : Option (List UInt8) := do
  let instruction ← instructionData instructions data instructionIndex
  slice instruction offsetStart.toNat (offsetStart.toNat + size)

/-- What the precompile checks for one record. -/
structure CheckedSignature where
  pubkey : List UInt8
  signature : List UInt8
  msg : List UInt8
  deriving DecidableEq

/-- What the precompile checks for a signature. -/
def checkedOf (sig : Ed25519Signature) : CheckedSignature where
  pubkey := sig.pubkey.toList
  signature := sig.signature.toList
  msg := sig.msg.toList

/-- What the precompile reads for one offset record. -/
def readRecord (instructions : List (TxInstruction Pubkey)) (data : List UInt8)
    (offsets : Ed25519SignatureOffsets) : Option CheckedSignature := do
  let signature ← getDataSlice instructions data offsets.signatureInstructionIndex
    offsets.signatureOffset signatureSerializedSize
  let pubkey ← getDataSlice instructions data offsets.publicKeyInstructionIndex
    offsets.publicKeyOffset pubkeySerializedSize
  let msg ← getDataSlice instructions data offsets.messageInstructionIndex
    offsets.messageDataOffset offsets.messageDataSize.toNat
  pure { pubkey, signature, msg }

/-- The offset records of an ed25519 instruction. -/
def offsetRecords (data : List UInt8) : Option (List Ed25519SignatureOffsets) := do
  let numSignatures ← data.head?
  let start := signatureOffsetsStart
  let table ← slice data start (start + signatureOffsetsSerializedSize * numSignatures.toNat)
  ((chunks signatureOffsetsSerializedSize table).mapM decodeOffsets).toOption

/-- Everything the precompile reads for one ed25519 instruction. -/
def readRecords (instructions : List (TxInstruction Pubkey)) (data : List UInt8) :
    Option (List CheckedSignature) := do
  (← offsetRecords data).mapM (readRecord instructions data)

/-- The precompile accepts an instruction when every record can be read and
every signature verifies. -/
def Ed25519Accepts (verify : CheckedSignature → Bool)
    (instructions : List (TxInstruction Pubkey)) (data : List UInt8) : Prop :=
  ∃ checked, readRecords instructions data = some checked ∧
    ∀ signature ∈ checked, verify signature = true

/-- The transaction goes on only if the precompile accepts each of its ed25519
instructions. -/
def PrecompileAccepts (rt : Runtime Pubkey Hash) (verify : CheckedSignature → Bool)
    (instructions : List (TxInstruction Pubkey)) : Prop :=
  ∀ ix ∈ instructions, ix.programId = rt.ed25519Program →
    Ed25519Accepts verify instructions ix.data

/-- The precompile has checked, in some ed25519 instruction of the transaction,
the signature `signature`. -/
def PrecompileChecked (rt : Runtime Pubkey Hash)
    (instructions : List (TxInstruction Pubkey)) (signature : CheckedSignature) : Prop :=
  ∃ ix ∈ instructions, ix.programId = rt.ed25519Program ∧
    ∃ checked, readRecords instructions ix.data = some checked ∧ signature ∈ checked

end

end BridgeProgram.Ed25519Instruction
