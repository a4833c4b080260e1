import BridgeProgram.ApprovalBatches
import BridgeProgram.ClientRoundTrip
import BridgeProgram.Transactions

namespace BridgeProgram.VerificationTransactions

open BridgeProgram.AccountBytes
open BridgeProgram.AccountEffects
open BridgeProgram.AnchorAccounts
open BridgeProgram.ApprovalBatches
open BridgeProgram.BorshCodecs
open BridgeProgram.BorshCodecs.Codec
open BridgeProgram.BridgeProgramEntry
open BridgeProgram.CheckedResult
open BridgeProgram.ClientEncoding
open BridgeProgram.ClientRoundTrip
open BridgeProgram.Ed25519Instruction
open BridgeProgram.InstructionData
open BridgeProgram.ProgramStates
open BridgeProgram.SignatureInstructions
open BridgeProgram.SignatureSoundness
open BridgeProgram.SolanaRuntime
open BridgeProgram.Transactions

variable {Pubkey Hash : Type}

/-- The compute unit limit and price that the transactions of the client begin with. -/
def newTransactionWithComputeUnitPriceAndLimit (computeBudgetProgram : Pubkey) :
    List (TxInstruction Pubkey) :=
  [ { programId := computeBudgetProgram
      accounts := []
      data := 2 :: u32.encode 500000 },
    { programId := computeBudgetProgram
      accounts := []
      data := 3 :: u64.encode 1000000 } ]

/-- The signatures of a batch: whose they are, and the positions they are submitted for. -/
structure SignatureBatch (Pubkey : Type) where
  operator : Pubkey
  sigs : List Ed25519Signature
  signerIndexes : List UInt8

def SignatureBatch.ix (b : SignatureBatch Pubkey) (target : ApprovalTarget Pubkey Hash) :
    Instruction Pubkey Hash :=
  .verifySignature
    { operator := b.operator
      bridgeHandler := target.bridgeHandler
      guardianInfo := target.guardianInfo
      verifiedSignatures := target.verifiedSignatures } target.msgHash b.signerIndexes

variable [DecidableEq Pubkey] {rt : Runtime Pubkey Hash}

/-- The instructions of the transaction, with the data of the ed25519 instruction. -/
def verificationInstructions (F : KeyFormat rt) (P : FixedAccounts Pubkey)
    (computeBudgetProgram : Pubkey) (target : ApprovalTarget Pubkey Hash)
    (b : SignatureBatch Pubkey) (ed25519Data : List UInt8) : List (TxInstruction Pubkey) :=
  newTransactionWithComputeUnitPriceAndLimit computeBudgetProgram ++
    [ { programId := rt.ed25519Program
        accounts := []
        data := ed25519Data },
      { programId := rt.programId
        accounts := instructionAccounts rt P (b.ix target)
        data := instructionData F (b.ix target) } ]

/-- `main` of the `verify_signature` script. -/
def verificationTransaction (F : KeyFormat rt) (P : FixedAccounts Pubkey)
    (computeBudgetProgram : Pubkey) (target : ApprovalTarget Pubkey Hash)
    (b : SignatureBatch Pubkey) : Option (Transaction Pubkey) := do
  let ed25519Data ← makeEd25519InstDataPacked b.sigs u16Max
  pure
    { signers := [b.operator]
      instructions := verificationInstructions F P computeBudgetProgram target b ed25519Data }

section Reading

variable {sigs : List Ed25519Signature} {msg : Vector UInt8 32}

theorem located_packedData (count : sigs.length < 256) (same : ∀ sig ∈ sigs, sig.msg = msg) :
    List.Forall₂ (Located (packedData sigs msg u16Max)) (packedRecords sigs u16Max) sigs :=
  located_packed count (by decide) same

omit [DecidableEq Pubkey] in
theorem readRecords_packedData (instructions : List (TxInstruction Pubkey))
    (count : sigs.length < 256) (same : ∀ sig ∈ sigs, sig.msg = msg) :
    readRecords instructions (packedData sigs msg u16Max) = some (sigs.map checkedOf) := by
  have hlocated := located_packedData count same
  refine readRecords_of_located instructions ?_ ownIndexes_recordsAt hlocated
  rwa [hlocated.length_eq]

theorem loadSignatures_packedData (count : sigs.length < 256)
    (same : ∀ sig ∈ sigs, sig.msg = msg) :
    loadSignatures (packedData sigs msg u16Max) = .ok sigs := by
  have hlocated := located_packedData count same
  refine loadSignatures_of_located ?_ hlocated
  rwa [hlocated.length_eq]

theorem verifyEd25519Ix_packedData {ixSysvar : InstructionsSysvar Pubkey}
    (previous : getPreviousInstruction ixSysvar =
      .ok { programId := rt.ed25519Program, accounts := [], data := packedData sigs msg u16Max })
    (count : sigs.length < 256) (same : ∀ sig ∈ sigs, sig.msg = msg) {keys : List Pubkey}
    {message : Vector UInt8 32} :
    verifyEd25519Ix rt ixSysvar keys message = .ok () ↔
      List.Forall₂ (fun sig k => sig.pubkey = rt.pubkeyBytes k ∧ sig.msg = message) sigs
        keys := by
  have hload := loadSignatures_packedData count same
  rw [verifyEd25519Ix_iff]
  constructor
  · rintro ⟨data, sigs', hprevious, hload', hsigners⟩
    obtain ⟨-, -, rfl⟩ := TxInstruction.mk.inj (Except.ok.inj (previous.symm.trans hprevious))
    obtain rfl := Except.ok.inj (hload.symm.trans hload')
    exact hsigners
  · exact fun hsigners => ⟨_, sigs, previous, hload, hsigners⟩

end Reading

variable [DecidableEq Hash] {F : KeyFormat rt} {P : FixedAccounts Pubkey}
  {C : Surroundings Pubkey Hash} {computeBudgetProgram : Pubkey}

/-- The compute budget program is a program of its own, and its instructions do nothing to
accounts. -/
structure ComputeBudget (rt : Runtime Pubkey Hash) (C : Surroundings Pubkey Hash)
    (computeBudgetProgram : Pubkey) : Prop where
  ne_program : computeBudgetProgram ≠ rt.programId
  ne_ed25519 : computeBudgetProgram ≠ rt.ed25519Program
  no_action : ∀ signers sysvar ix s, ix.programId = computeBudgetProgram →
    C.actions signers sysvar ix s = some []

omit [DecidableEq Hash] in
theorem precompilePasses_verification (budget : ComputeBudget rt C computeBudgetProgram)
    (apart : rt.programId ≠ rt.ed25519Program) {target : ApprovalTarget Pubkey Hash}
    {b : SignatureBatch Pubkey} {msg : Vector UInt8 32} (count : b.sigs.length < 256)
    (same : ∀ sig ∈ b.sigs, sig.msg = msg) :
    precompilePasses rt C (verificationInstructions F P computeBudgetProgram target b
        (packedData b.sigs msg u16Max)) = true ↔
      ∀ sig ∈ b.sigs, C.verify (checkedOf sig) = true := by
  simp [precompilePasses, verificationInstructions, newTransactionWithComputeUnitPriceAndLimit,
    budget.ne_ed25519, apart, readRecords_packedData _ count same]

/-- The call that the last instruction of the transaction makes. -/
def verificationCall (F : KeyFormat rt) (P : FixedAccounts Pubkey)
    (computeBudgetProgram : Pubkey) (target : ApprovalTarget Pubkey Hash)
    (b : SignatureBatch Pubkey) (ed25519Data : List UInt8) : Call Pubkey Hash where
  signers := [b.operator]
  ixSysvar :=
    { instructions :=
        verificationInstructions F P computeBudgetProgram target b ed25519Data
      currentIndex := 3 }
  ix := b.ix target

omit [DecidableEq Hash] in
theorem dispatch_batch {target : ApprovalTarget Pubkey Hash} {b : SignatureBatch Pubkey}
    (indexes : b.signerIndexes.length < 2 ^ 32) :
    dispatch F P (instructionAccounts rt P (b.ix target)) (instructionData F (b.ix target)) =
      .ok (b.ix target) := by
  have hfits : ArgumentsFit F (b.ix target) := by
    refine ⟨fits_digest F _, ?_⟩
    rw [fits_vec]
    exact ⟨indexes, fun _ _ => trivial⟩
  refine dispatch_eq_ok.mpr ⟨hfits, ⟨[], (List.append_nil _).symm⟩, [],
    (List.append_nil _).symm, ?_⟩
  intro hnonce
  cases hnonce

theorem runInstructions_verification (budget : ComputeBudget rt C computeBudgetProgram)
    (apart : rt.programId ≠ rt.ed25519Program) {target : ApprovalTarget Pubkey Hash}
    {b : SignatureBatch Pubkey} (indexes : b.signerIndexes.length < 2 ^ 32)
    (ed25519Data : List UInt8) {s s' : State Pubkey Hash}
    {trace : List (LedgerTransition Pubkey Hash)} :
    let call := verificationCall F P computeBudgetProgram target b ed25519Data
    let tx : Transaction Pubkey :=
      { signers := call.signers, instructions := call.ixSysvar.instructions }
    runInstructions rt (dispatch F P) C tx s tx.instructions.zipIdx = .ok (trace, s') ↔
      ∃ returned, execute rt s call = .ok (s', returned) ∧
        trace = [⟨s, .call call returned, s'⟩] := by
  intro call tx
  have hbudget : ∀ sysvar ix u, ix.programId = computeBudgetProgram →
      actionsOf rt C tx sysvar ix u = some [] := by
    intro sysvar ix u hix
    rw [actionsOf_other (hix ▸ budget.ne_program) (hix ▸ budget.ne_ed25519)]
    exact budget.no_action _ _ _ _ hix
  have hed25519 : ∀ sysvar ix u, ix.programId = rt.ed25519Program →
      actionsOf rt C tx sysvar ix u = some [] := by
    intro sysvar ix u hix
    exact actionsOf_ed25519 apart hix
  rw [show tx.instructions.zipIdx = [(_, 0), (_, 1), (_, 2), (_, 3)] from rfl,
    runInstructions_silent (hbudget _ _ _ rfl), runInstructions_silent (hbudget _ _ _ rfl),
    runInstructions_silent (hed25519 _ _ _ rfl)]
  exact runInstructions_call rfl (dispatch_batch indexes)

omit [DecidableEq Hash] in
/-- What a batch needs: the accounts, the approvals that are found or created, and at each
position a guardian whose signature over the message hash is in the batch. -/
structure BatchApproved (rt : Runtime Pubkey Hash) (s : State Pubkey Hash)
    (target : ApprovalTarget Pubkey Hash) (b : SignatureBatch Pubkey) (g : GuardianInfo Pubkey)
    (t : State Pubkey Hash) (v : VerifiedSignatures) (bump : UInt8) (keys : List Pubkey) :
    Prop where
  handler : ∃ h, loadBridgeHandler rt s target.bridgeHandler = .ok h
  guardians : loadGuardianInfo rt s target.bridgeHandler target.guardianInfo = .ok g
  opened : initIfNeeded rt s b.operator
    (.verifiedSignatures target.bridgeHandler target.msgHash) target.verifiedSignatures
    ProgramData.verifiedSignatures?
    (.verifiedSignatures { bump := 0, pubkeyIndex := [], createdAt := 0 }) = .ok (t, v, bump)
  selected : SignersSelected g.guardians v.pubkeyIndex b.signerIndexes keys
  signers : List.Forall₂ (fun sig k => sig.pubkey = rt.pubkeyBytes k ∧
    sig.msg = rt.hashBytes target.msgHash) b.sigs keys

/-- The approvals with the positions of a batch. -/
def withBatch (v : VerifiedSignatures) (bump : UInt8) (clock : Clock)
    (b : SignatureBatch Pubkey) : VerifiedSignatures where
  bump := bump
  pubkeyIndex := v.pubkeyIndex ++ b.signerIndexes
  createdAt := clock.unixTimestamp

theorem execute_batch {target : ApprovalTarget Pubkey Hash} {b : SignatureBatch Pubkey}
    {msg : Vector UInt8 32} (count : b.sigs.length < 256) (same : ∀ sig ∈ b.sigs, sig.msg = msg)
    {s s' : State Pubkey Hash} {returned : Option UInt64} :
    execute rt s (verificationCall F P computeBudgetProgram target b
        (packedData b.sigs msg u16Max)) = .ok (s', returned) ↔
      returned = none ∧ ∃ g t v bump keys, BatchApproved rt s target b g t v bump keys ∧
        s' = t.setData target.verifiedSignatures
          (.program (.verifiedSignatures (withBatch v bump t.clock b))) := by
  have hverify (keys : List Pubkey) : verifyEd25519Ix rt
      (verificationCall F P computeBudgetProgram target b (packedData b.sigs msg u16Max)).ixSysvar
      keys (rt.hashBytes target.msgHash) = .ok () ↔
        List.Forall₂ (fun sig k => sig.pubkey = rt.pubkeyBytes k ∧
          sig.msg = rt.hashBytes target.msgHash) b.sigs keys :=
    verifyEd25519Ix_packedData rfl count same
  simp only [verificationCall] at hverify
  simp only [execute, verificationCall, SignatureBatch.ix, verifySignature, bind_eq_ok,
    pure_eq_ok, Prod.exists, Prod.mk.injEq, checkSigner_eq_ok, exitAccount_eq_ok,
    selectSigners_eq_ok, hverify]
  constructor
  · rintro ⟨_, ⟨-, -, h, handler, g, guardians, t, v, bump, opened, keys, selected, -, signers,
      -, rfl⟩, rfl, rfl⟩
    exact ⟨rfl, g, t, v, bump, keys, ⟨⟨h, handler⟩, guardians, opened, selected, signers⟩, rfl⟩
  · rintro ⟨rfl, g, t, v, bump, keys, ⟨⟨h, handler⟩, guardians, opened, selected, signers⟩, rfl⟩
    refine ⟨_, ⟨(), List.mem_singleton_self _, h, handler, g, guardians, t, v, bump, opened,
      keys, selected, (), signers, ?_, rfl⟩, rfl, rfl⟩
    have hlimit := selected.limit
    simp only [ProgramData.serializedLen, ProgramData.space, List.length_append]
    omega

/-- The client's transaction goes through exactly if every signature of the batch is valid
and the program approves the batch; where the account is new, the operator has to pay for
it. Then it appends the positions, overwrites the bump and the time of the account with its
own, and does nothing else. -/
theorem verification_transaction_exact (F : KeyFormat rt) (P : FixedAccounts Pubkey)
    (budget : ComputeBudget rt C computeBudgetProgram)
    (apart : rt.programId ≠ rt.ed25519Program) (target : ApprovalTarget Pubkey Hash)
    {b : SignatureBatch Pubkey} (nonempty : b.sigs ≠ []) (count : b.sigs.length ≤ 255)
    (same : ∀ sig ∈ b.sigs, ∀ sig' ∈ b.sigs, sig.msg = sig'.msg)
    (indexes : b.signerIndexes.length < 2 ^ 32) :
    ∃ tx call, verificationTransaction F P computeBudgetProgram target b = some tx ∧
      call.ix = b.ix target ∧
      ∀ s trace s', runTransaction rt (dispatch F P) C s tx = .ok (trace, s') ↔
        (∀ sig ∈ b.sigs, C.verify (checkedOf sig) = true) ∧
        (∃ g t v bump keys, BatchApproved rt s target b g t v bump keys ∧
          s' = t.setData target.verifiedSignatures
            (.program (.verifiedSignatures (withBatch v bump t.clock b)))) ∧
        trace = [⟨s, .call call none, s'⟩] := by
  have hcount : b.sigs.length < 256 := Nat.lt_succ_of_le count
  obtain ⟨first, hfirst⟩ := Option.isSome_iff_exists.mp (List.isSome_head?.mpr nonempty)
  have hsame : ∀ sig ∈ b.sigs, sig.msg = first.msg :=
    fun sig hsig => same sig hsig first (List.mem_of_mem_head? hfirst)
  let call := verificationCall F P computeBudgetProgram target b
    (packedData b.sigs first.msg u16Max)
  refine ⟨{ signers := call.signers, instructions := call.ixSysvar.instructions }, call, ?_, rfl,
    ?_⟩
  · rw [verificationTransaction, makeEd25519InstDataPacked_eq hfirst hcount (by decide) hsame]
    rfl
  intro s trace s'
  have hprecompile : precompilePasses rt C call.ixSysvar.instructions = true ↔
      ∀ sig ∈ b.sigs, C.verify (checkedOf sig) = true :=
    precompilePasses_verification budget apart hcount hsame
  unfold runTransaction
  constructor
  · intro h
    split_ifs at h with hpasses
    obtain ⟨returned, hexecuted, rfl⟩ :=
      (runInstructions_verification budget apart indexes _).mp h
    obtain ⟨rfl, happroved⟩ := (execute_batch hcount hsame).mp hexecuted
    exact ⟨hprecompile.mp hpasses, happroved, rfl⟩
  · rintro ⟨hvalid, happroved, rfl⟩
    refine (if_pos (hprecompile.mpr hvalid)).trans ?_
    exact (runInstructions_verification budget apart indexes _).mpr
      ⟨none, (execute_batch hcount hsame).mpr ⟨rfl, happroved⟩, rfl⟩

section Sample

open BridgeProgram.AccountNamespaces

def stringTarget : ApprovalTarget (Vector UInt8 32) (Vector UInt8 32) where
  bridgeHandler := stringHandlerKey
  guardianInfo := (stringRuntime.findProgramAddress (.guardianInfo stringHandlerKey)).1
  verifiedSignatures := (stringRuntime.findProgramAddress
    (.verifiedSignatures stringHandlerKey (Vector.replicate 32 8))).1
  msgHash := Vector.replicate 32 8

def addStringGuardian (guardian : Vector UInt8 32) :
    Call (Vector UInt8 32) (Vector UInt8 32) where
  signers := [Vector.replicate 32 9]
  ixSysvar := { instructions := [], currentIndex := 0 }
  ix := .addGuardian
    { manager := Vector.replicate 32 9
      bridgeHandler := stringTarget.bridgeHandler
      guardianInfo := stringTarget.guardianInfo
      guardian }

/-- A handler with three guardians. -/
def stringGuardianLedger : State (Vector UInt8 32) (Vector UInt8 32) :=
  stateAfter stringRuntime richLedger [initializeStringHandler,
    addStringGuardian (Vector.replicate 32 21), addStringGuardian (Vector.replicate 32 22),
    addStringGuardian (Vector.replicate 32 23)]

def stringSignature (key : UInt8) : Ed25519Signature where
  pubkey := Vector.replicate 32 key
  signature := Vector.replicate 64 1
  msg := stringTarget.msgHash

/-- The third guardian and the first, in this order. -/
def stringBatch : SignatureBatch (Vector UInt8 32) where
  operator := Vector.replicate 32 9
  sigs := [stringSignature 23, stringSignature 21]
  signerIndexes := [2, 0]

/-- The signatures of keys 21 and 23. -/
def stringSurroundings : Surroundings (Vector UInt8 32) (Vector UInt8 32) :=
  quietSurroundings _ _ fun signature => signature.pubkey = List.replicate 32 21 ||
    signature.pubkey = List.replicate 32 23

theorem verification_transaction_exact_sample :
    ∃ tx call, verificationTransaction stringFormat sampleFixedAccounts (Vector.replicate 32 6)
        stringTarget stringBatch = some tx ∧
      ∃ s', runTransaction stringRuntime (dispatch stringFormat sampleFixedAccounts)
          stringSurroundings stringGuardianLedger tx =
            .ok ([⟨stringGuardianLedger, .call call none, s'⟩], s') ∧
        ∃ g t v bump keys, BatchApproved stringRuntime stringGuardianLedger stringTarget
            stringBatch g t v bump keys ∧
          s' = t.setData stringTarget.verifiedSignatures
            (.program (.verifiedSignatures (withBatch v bump t.clock stringBatch))) := by
  have hok : (verificationTransaction stringFormat sampleFixedAccounts (Vector.replicate 32 6)
      stringTarget stringBatch).any (fun tx => (runTransaction stringRuntime
        (dispatch stringFormat sampleFixedAccounts) stringSurroundings stringGuardianLedger
        tx).isOk) = true := by
    decide +kernel
  have hbudget : ComputeBudget stringRuntime stringSurroundings (Vector.replicate 32 6) :=
    { ne_program := by decide, ne_ed25519 := by decide, no_action := fun _ _ _ _ _ => rfl }
  obtain ⟨tx, call, htx, -, hexact⟩ := verification_transaction_exact stringFormat
    sampleFixedAccounts hbudget (by decide) stringTarget
    (b := stringBatch) (by decide) (by decide) (by simp [stringBatch, stringSignature]) (by decide)
  rw [htx, Option.any_some] at hok
  obtain ⟨⟨trace, s'⟩, hrun⟩ := exists_of_isOk hok
  obtain ⟨-, happroved, rfl⟩ := (hexact _ _ _).mp hrun
  exact ⟨tx, call, htx, s', hrun, happroved⟩

end Sample

end BridgeProgram.VerificationTransactions
