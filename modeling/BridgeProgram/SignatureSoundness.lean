import BridgeProgram.Ed25519Instruction
import BridgeProgram.ListPositions
import BridgeProgram.SignatureParser
import BridgeProgram.SymbolicRuntime

/-!
What the success of `verify_ed25519_ix` says about the signatures that the
precompile has checked. Both read the same offset records; the program reads
keys and messages from the ed25519 instruction itself, the precompile from the
instructions that the index fields name.
-/

namespace BridgeProgram.SignatureSoundness

open BridgeProgram.ByteStrings
open BridgeProgram.CheckedResult
open BridgeProgram.Ed25519Instruction
open BridgeProgram.ListPositions
open BridgeProgram.ProgramStates
open BridgeProgram.SignatureParser
open BridgeProgram.SolanaRuntime
open BridgeProgram.SymbolicRuntime

/-- The key and the message at a record's offsets in the ed25519 instruction. -/
def OwnSlices (data : List UInt8) (offsets : Ed25519SignatureOffsets)
    (pubkey msg : List UInt8) : Prop :=
  slice data offsets.publicKeyOffset.toNat
      (offsets.publicKeyOffset.toNat + pubkeySerializedSize) = some pubkey ∧
    slice data offsets.messageDataOffset.toNat
      (offsets.messageDataOffset.toNat + offsets.messageDataSize.toNat) = some msg

theorem ownSlices_of_loadSignature {data chunk : List UInt8} {sig : Ed25519Signature}
    (h : loadSignature data chunk = .ok sig) :
    ∃ offsets, decodeOffsets chunk = .ok offsets ∧
      OwnSlices data offsets sig.pubkey.toList sig.msg.toList := by
  simp only [loadSignature, bind_eq_ok, okOr_eq_ok, toFixed_eq_some, pure_eq_ok] at h
  obtain ⟨offsets, hoffsets, _, -, _, hpubkey, _, hmsg, pubkey, rfl, signature, rfl, msg, rfl,
    rfl⟩ := h
  exact ⟨offsets, hoffsets, hpubkey, hmsg⟩

theorem records_of_loadSignatures {data : List UInt8} {sigs : List Ed25519Signature}
    (h : loadSignatures data = .ok sigs) :
    ∃ records, offsetRecords data = some records ∧
      List.Forall₂ (fun offsets sig => OwnSlices data offsets sig.pubkey.toList
        sig.msg.toList) records sigs := by
  simp only [loadSignatures, iterSignatureOffsets, bind_eq_ok, okOr_eq_ok, require_eq_ok,
    pure_eq_ok, mapM_eq_ok] at h
  obtain ⟨_, ⟨numSigs, hhead, -, -, table, htable, rfl⟩, hsigs⟩ := h
  have hrecords : ∃ records,
      List.Forall₂ (fun chunk offsets => decodeOffsets chunk = .ok offsets)
        (chunks signatureOffsetsSerializedSize table) records ∧
      List.Forall₂ (fun offsets sig => OwnSlices data offsets sig.pubkey.toList
        sig.msg.toList) records sigs := by
    generalize chunks signatureOffsetsSerializedSize table = cs at hsigs ⊢
    induction hsigs with
    | nil => exact ⟨[], .nil, .nil⟩
    | cons hsig _ ih =>
        obtain ⟨offsets, hdecode, hown⟩ := ownSlices_of_loadSignature hsig
        obtain ⟨records, hdecodes, howns⟩ := ih
        exact ⟨offsets :: records, .cons hdecode hdecodes, .cons hown howns⟩
  obtain ⟨records, hdecode, hown⟩ := hrecords
  refine ⟨records, ?_, hown⟩
  rw [Nat.add_comm] at htable
  simp only [offsetRecords, hhead, htable, Option.bind_eq_bind, Option.bind_some,
    mapM_eq_ok.mpr hdecode, Except.toOption]

section

variable {Pubkey Hash : Type} {rt : Runtime Pubkey Hash}
  {ixSysvar : InstructionsSysvar Pubkey} {signers : List Pubkey}
  {message : Vector UInt8 32} {ix : TxInstruction Pubkey}

theorem verifyEd25519Ix_iff [DecidableEq Pubkey] :
    verifyEd25519Ix rt ixSysvar signers message = .ok () ↔
      ∃ data sigs, getPreviousInstruction ixSysvar =
          .ok { programId := rt.ed25519Program, accounts := [], data } ∧
        loadSignatures data = .ok sigs ∧
        List.Forall₂ (fun sig signer => sig.pubkey = rt.pubkeyBytes signer ∧
          sig.msg = message) sigs signers := by
  simp only [verifyEd25519Ix, bind_eq_ok, require_eq_ok, forM_eq_ok, List.forall₂_iff_zip]
  constructor
  · rintro ⟨⟨_, _, data⟩, hprevious, -, rfl, -, rfl, -, -, sigs, hload, -, hlength, hall⟩
    refine ⟨data, sigs, hprevious, hload, hlength, ?_⟩
    intro sig signer hmem
    obtain ⟨-, hpubkey, hmsg⟩ := hall (sig, signer) hmem
    exact ⟨hpubkey, hmsg⟩
  · rintro ⟨data, sigs, hprevious, hload, hlength, hall⟩
    have htable := (loadSignatures_eq_ok.mp hload).1.table.length
    rw [signatureOffsetsStart] at htable
    refine ⟨_, hprevious, (), rfl, (), rfl, (), ?_, sigs, hload, (), hlength, ?_⟩
    · exact Nat.lt_of_lt_of_le (Nat.lt_add_right _ Nat.one_lt_two) htable
    · intro x hx
      obtain ⟨hpubkey, hmsg⟩ := hall hx
      exact ⟨(), hpubkey, hmsg⟩

theorem verifyEd25519Ix_eq_ok [DecidableEq Pubkey]
    (h : verifyEd25519Ix rt ixSysvar signers message = .ok ())
    (previous : getPreviousInstruction ixSysvar = .ok ix) :
    ix ∈ ixSysvar.instructions ∧ ix.programId = rt.ed25519Program ∧
      ∃ sigs, loadSignatures ix.data = .ok sigs ∧
        List.Forall₂ (fun sig signer => sig.pubkey = rt.pubkeyBytes signer ∧
          sig.msg = message) sigs signers := by
  obtain ⟨data, sigs, hprevious, hload, hsigners⟩ := verifyEd25519Ix_iff.mp h
  obtain rfl := Except.ok.inj (hprevious.symm.trans previous)
  refine ⟨?_, rfl, sigs, hload, hsigners⟩
  simp only [getPreviousInstruction, bind_eq_ok, require_eq_ok, okOr_eq_ok] at previous
  obtain ⟨-, -, hget⟩ := previous
  exact List.mem_of_getElem? hget

theorem ed25519Accepts_iff {verify : CheckedSignature → Bool}
    {instructions : List (TxInstruction Pubkey)} {data : List UInt8} :
    Ed25519Accepts verify instructions data ↔
      (readRecords instructions data).any (fun checked => checked.all verify) = true := by
  unfold Ed25519Accepts
  cases readRecords instructions data <;> simp

theorem verified_of_precompileChecked {verify : CheckedSignature → Bool}
    {instructions : List (TxInstruction Pubkey)} {signature : CheckedSignature}
    (accepts : PrecompileAccepts rt verify instructions)
    (checked : PrecompileChecked rt instructions signature) : verify signature = true := by
  obtain ⟨ix, hix, hprogram, checked, hread, hmem⟩ := checked
  obtain ⟨checked', hread', hverify⟩ := accepts ix hix hprogram
  obtain rfl := Option.some.inj (hread.symm.trans hread')
  exact hverify signature hmem

/-- For the key and the message that a record's offsets select in the ed25519
instruction itself, the precompile has checked a signature. -/
def RecordsConfirmed (rt : Runtime Pubkey Hash) (instructions : List (TxInstruction Pubkey))
    (data : List UInt8) : Prop :=
  ∀ records, offsetRecords data = some records → ∀ offsets ∈ records, ∀ pubkey msg,
    OwnSlices data offsets pubkey msg →
    ∃ signature, PrecompileChecked rt instructions signature ∧
      signature.pubkey = pubkey ∧ signature.msg = msg

theorem recordsConfirmed_of_own {verify : CheckedSignature → Bool}
    (accepts : PrecompileAccepts rt verify ixSysvar.instructions)
    (mem : ix ∈ ixSysvar.instructions) (program : ix.programId = rt.ed25519Program)
    (own : ∀ records, offsetRecords ix.data = some records → ∀ offsets ∈ records,
      instructionData ixSysvar.instructions ix.data offsets.publicKeyInstructionIndex =
        some ix.data ∧
      instructionData ixSysvar.instructions ix.data offsets.messageInstructionIndex =
        some ix.data) :
    RecordsConfirmed rt ixSysvar.instructions ix.data := by
  intro records hrecords offsets hoffsets pubkey msg ⟨hpubkey, hmsg⟩
  obtain ⟨hkeyIndex, hmsgIndex⟩ := own records hrecords offsets hoffsets
  obtain ⟨checked, hread, -⟩ := accepts ix mem program
  have hchecked : List.Forall₂ (fun offsets signature =>
      readRecord ixSysvar.instructions ix.data offsets = some signature) records checked := by
    simp only [readRecords, hrecords, Option.bind_eq_bind, Option.bind_some] at hread
    clear hrecords hoffsets own
    induction records generalizing checked with
    | nil =>
        obtain rfl : [] = checked := by simpa using hread
        exact .nil
    | cons offsets records ih =>
        simp only [List.mapM_cons, Option.bind_eq_bind, Option.bind_eq_some_iff,
          Option.pure_def, Option.some.injEq] at hread
        obtain ⟨signature, hsignature, rest, hrest, rfl⟩ := hread
        exact .cons hsignature (ih _ hrest)
  obtain ⟨signature, hmem, hsignature⟩ := exists_right_of_mem hchecked hoffsets
  simp only [readRecord, getDataSlice, hkeyIndex, hmsgIndex, Option.bind_eq_bind,
    Option.bind_eq_some_iff, Option.some.injEq, Option.pure_def] at hsignature
  obtain ⟨_, -, _, ⟨_, rfl, hpubkey'⟩, _, ⟨_, rfl, hmsg'⟩, rfl⟩ := hsignature
  refine ⟨_, ⟨ix, mem, program, checked, hread, hmem⟩, ?_, ?_⟩
  · exact Option.some.inj (hpubkey'.symm.trans hpubkey)
  · exact Option.some.inj (hmsg'.symm.trans hmsg)

/-- When `verify_ed25519_ix` succeeds in a transaction that the precompile lets
through, the precompile has checked a signature by every signer over the message
exactly if it has confirmed every record of the preceding instruction. -/
theorem signers_verified_iff_records_confirmed [DecidableEq Pubkey]
    {verify : CheckedSignature → Bool}
    (accepts : PrecompileAccepts rt verify ixSysvar.instructions)
    (previous : getPreviousInstruction ixSysvar = .ok ix)
    (verified : verifyEd25519Ix rt ixSysvar signers message = .ok ()) :
    (∀ signer ∈ signers, ∃ signature,
        PrecompileChecked rt ixSysvar.instructions signature ∧ verify signature = true ∧
        signature.pubkey = (rt.pubkeyBytes signer).toList ∧
        signature.msg = message.toList) ↔
      RecordsConfirmed rt ixSysvar.instructions ix.data := by
  obtain ⟨-, -, sigs, hsigs, hsigners⟩ := verifyEd25519Ix_eq_ok verified previous
  obtain ⟨records, hrecords, hown⟩ := records_of_loadSignatures hsigs
  constructor
  · intro hverified records' hrecords' offsets hoffsets pubkey msg hslices
    obtain rfl := Option.some.inj (hrecords.symm.trans hrecords')
    obtain ⟨sig, hsig, hsigSlices⟩ := exists_right_of_mem hown hoffsets
    obtain ⟨signer, hsigner, hpubkey, hmsg⟩ := exists_right_of_mem hsigners hsig
    obtain ⟨signature, hchecked, -, hkey, hmessage⟩ := hverified signer hsigner
    refine ⟨signature, hchecked, ?_, ?_⟩
    · rw [hkey, ← hpubkey]
      exact Option.some.inj (hsigSlices.1.symm.trans hslices.1)
    · rw [hmessage, ← hmsg]
      exact Option.some.inj (hsigSlices.2.symm.trans hslices.2)
  · intro hconfirmed signer hsigner
    obtain ⟨sig, hsig, hpubkey, hmsg⟩ := exists_left_of_mem hsigners hsigner
    obtain ⟨offsets, hoffsets, hslices⟩ := exists_left_of_mem hown hsig
    obtain ⟨signature, hchecked, hkey, hmessage⟩ :=
      hconfirmed records hrecords offsets hoffsets _ _ hslices
    exact ⟨signature, hchecked, verified_of_precompileChecked accepts hchecked,
      by rw [hkey, hpubkey], by rw [hmessage, hmsg]⟩

end

def keyBytes (n : Nat) : Vector UInt8 32 :=
  (symbolicRuntime false).pubkeyBytes (.atom n)

/-- The signatures that the holder of one key can make. -/
def madeBy (n : Nat) (signature : CheckedSignature) : Bool :=
  signature.pubkey = (keyBytes n).toList

def sampleMessage : Vector UInt8 32 :=
  Vector.replicate 32 7

def honestTransaction : InstructionsSysvar Key where
  instructions := [signatureInstruction [.atom 11] sampleMessage.toList,
    { programId := .atom 1001, accounts := [], data := [] }]
  currentIndex := 1

theorem signers_verified_iff_records_confirmed_sample :
    (∀ signer ∈ [Key.atom 11], ∃ signature,
        PrecompileChecked (symbolicRuntime false) honestTransaction.instructions signature ∧
        madeBy 11 signature = true ∧
        signature.pubkey = ((symbolicRuntime false).pubkeyBytes signer).toList ∧
        signature.msg = sampleMessage.toList) ↔
      RecordsConfirmed (symbolicRuntime false) honestTransaction.instructions
        (signatureInstruction [.atom 11] sampleMessage.toList).data := by
  refine signers_verified_iff_records_confirmed ?_ rfl (by decide +kernel)
  have haccepts : ∀ ix ∈ honestTransaction.instructions, ix.programId = .atom 1002 →
      (readRecords honestTransaction.instructions ix.data).any
        (fun checked => checked.all (madeBy 11)) = true := by
    decide +kernel
  exact fun ix hix hprogram => ed25519Accepts_iff.mpr (haccepts ix hix hprogram)

/-- An ed25519 instruction whose own data names key 11. Its index fields name the
first instruction of the transaction, which has key 9 at the same offset. -/
def forgedTransaction : InstructionsSysvar Key where
  instructions :=
    [ { programId := .atom 2000
        accounts := []
        data := List.replicate 16 0 ++ (keyBytes 9).toList ++ List.replicate 64 0 ++
          sampleMessage.toList },
      { programId := .atom 1002
        accounts := []
        data := [1, 0] ++ [48, 0, 0, 0, 16, 0, 0, 0, 112, 0, 32, 0, 0, 0] ++
          (keyBytes 11).toList ++ List.replicate 64 0 ++ sampleMessage.toList },
      { programId := .atom 1001, accounts := [], data := [] } ]
  currentIndex := 2

/-- The holder of key 9 passes as the holder of key 11. -/
theorem forged_signer_accepted :
    ¬ ∀ (verify : CheckedSignature → Bool) (ixSysvar : InstructionsSysvar Key)
        (signers : List Key) (message : Vector UInt8 32),
      PrecompileAccepts (symbolicRuntime false) verify ixSysvar.instructions →
      verifyEd25519Ix (symbolicRuntime false) ixSysvar signers message = .ok () →
      ∀ signer ∈ signers, ∃ signature,
        PrecompileChecked (symbolicRuntime false) ixSysvar.instructions signature ∧
        verify signature = true ∧
        signature.pubkey = ((symbolicRuntime false).pubkeyBytes signer).toList ∧
        signature.msg = message.toList := by
  intro h
  have haccepts : ∀ ix ∈ forgedTransaction.instructions, ix.programId = .atom 1002 →
      (readRecords forgedTransaction.instructions ix.data).any
        (fun checked => checked.all (madeBy 9)) = true := by
    decide +kernel
  obtain ⟨signature, -, hmade, hkey, -⟩ := h (madeBy 9) forgedTransaction [.atom 11]
    sampleMessage (fun ix hix hprogram => ed25519Accepts_iff.mpr (haccepts ix hix hprogram))
    (by decide +kernel) (.atom 11) (List.mem_singleton_self _)
  rw [madeBy, hkey, decide_eq_true_eq] at hmade
  exact absurd hmade (by decide +kernel)

end BridgeProgram.SignatureSoundness
