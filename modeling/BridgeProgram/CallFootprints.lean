import BridgeProgram.AccountFootprints
import BridgeProgram.InstructionData

namespace BridgeProgram.CallFootprints

open BridgeProgram.AccountFootprints
open BridgeProgram.AnchorAccounts
open BridgeProgram.BridgeProgramEntry
open BridgeProgram.CheckedResult
open BridgeProgram.HandlerInstructions
open BridgeProgram.InstructionData
open BridgeProgram.LocalComputations
open BridgeProgram.ProgramStates
open BridgeProgram.SignatureInstructions
open BridgeProgram.SolanaRuntime
open BridgeProgram.SourceInstructions
open BridgeProgram.TargetInstructions
open BridgeProgram.TokenInstructions
open BridgeProgram.TokenPrograms

variable {Pubkey Hash : Type}

/-- The accounts that a call may write, by the attributes of its account list. -/
def writableAccounts : Instruction Pubkey Hash → List Pubkey
  | .initializeHandler a .. => [a.signer, a.bridgeHandler, a.guardianInfo]
  | .addToken a .. => [a.operator, a.mint, a.bridgeHandlerVault, a.metadata, a.tokenInfo]
  | .pauseToken _ | .unpauseToken _ => []
  | .pauseBridge a | .unpauseBridge a => [a.bridgeHandler]
  | .bridgeAssetSourceChain a .. =>
      [a.signer, a.mint, a.signerVault, a.bridgeHandler, a.bridgeHandlerVault, a.bridgeProof,
        a.tokenInfo, a.feeVault]
  | .bridgeAssetSourceChainSol a .. => [a.signer, a.bridgeHandler, a.bridgeProof, a.feeVault]
  | .bridgeAssetTargetChain a .. =>
      [a.operator, a.mint, a.recipient, a.recipientVault, a.bridgeHandler,
        a.bridgeHandlerVault, a.bridgeProof, a.verifiedSignatures]
  | .bridgeAssetTargetChainSol a .. =>
      [a.operator, a.recipient, a.bridgeHandler, a.bridgeProof, a.verifiedSignatures]
  | .addGuardian a => [a.guardianInfo]
  | .removeGuardian a => [a.guardianInfo]
  | .updateGuardianThreshold a _ => [a.bridgeHandler]
  | .verifySignature a .. => [a.operator, a.verifiedSignatures]
  | .updateFeeVault a => [a.bridgeHandler]
  | .updateFeeInfo a _ => [a.bridgeHandler]
  | .updateInstantBridgeCap a _ => [a.bridgeHandler]
  | .updateOperator a => [a.bridgeHandler]
  | .updateManager a => [a.bridgeHandler]

variable [DecidableEq Pubkey] {rt : Runtime Pubkey Hash} {A W : Set Pubkey}
  {s₀ t₀ s t : State Pubkey Hash} {signers : List Pubkey}

theorem initializeHandler_twins (twins : Twins A W s₀ t₀ s t) {a : Initialize Pubkey}
    (hW : ∀ b ∈ [a.signer, a.bridgeHandler, a.guardianInfo], b ∈ W) (initNonce : UInt64)
    (chain : UInt8) :
    TwinRuns A W s₀ t₀ (initializeHandler rt signers s a initNonce chain)
      (initializeHandler rt signers t a initNonce chain) := by
  have hsigner := hW a.signer (by simp)
  have hhandler := hW a.bridgeHandler (by simp)
  have hguardian := hW a.guardianInfo (by simp)
  refine .bind_same fun _ => bind_twins (initAccount_twins twins hsigner hhandler _ _)
    fun s₁ t₁ handlerBump twins₁ => ?_
  refine bind_twins (initAccount_twins twins₁ hsigner hguardian _ _)
    fun s₂ t₂ guardianBump twins₂ => ?_
  dsimp only
  rw [clock_eq twins₂]
  refine .bind_same fun chain => .bind (exitAccount_twins twins₂ (fun _ => hhandler) _)
    fun s₃ t₃ twins₃ => ?_
  exact exitAccount_twins twins₃ (fun _ => hguardian) _

theorem updateByManager_twins (twins : Twins A W s₀ t₀ s t) {bridgeHandler : Pubkey}
    (hhandler : bridgeHandler ∈ W) (manager : Pubkey)
    (update : BridgeHandler Pubkey → Except ProgramError (BridgeHandler Pubkey)) :
    TwinRuns A W s₀ t₀ (updateByManager rt signers s manager bridgeHandler update)
      (updateByManager rt signers t manager bridgeHandler update) := by
  unfold updateByManager
  rw [loadBridgeHandler_eq twins (twins.subset hhandler)]
  exact .bind_same fun _ => .bind_same fun h => .bind_same fun _ => .bind_same fun h' =>
    exitAccount_twins twins (fun _ => hhandler) _

theorem loadManagedGuardians_eq (twins : Twins A W s₀ t₀ s t) {bridgeHandler guardianInfo : Pubkey}
    (hhandler : bridgeHandler ∈ A) (hguardian : guardianInfo ∈ A) (manager : Pubkey) :
    loadManagedGuardians rt signers t manager bridgeHandler guardianInfo =
      loadManagedGuardians rt signers s manager bridgeHandler guardianInfo := by
  unfold loadManagedGuardians
  rw [loadBridgeHandler_eq twins hhandler, loadGuardianInfo_eq twins hguardian]

theorem addGuardian_twins (twins : Twins A W s₀ t₀ s t) {a : AddGuardian Pubkey}
    (hhandler : a.bridgeHandler ∈ A) (hguardian : a.guardianInfo ∈ W) :
    TwinRuns A W s₀ t₀ (addGuardian rt signers s a) (addGuardian rt signers t a) := by
  unfold addGuardian
  rw [loadManagedGuardians_eq twins hhandler (twins.subset hguardian)]
  exact .bind_same fun x => .bind_same fun _ => exitAccount_twins twins (fun _ => hguardian) _

theorem removeGuardian_twins (twins : Twins A W s₀ t₀ s t) {a : RemoveGuardian Pubkey}
    (hhandler : a.bridgeHandler ∈ A) (hguardian : a.guardianInfo ∈ W) :
    TwinRuns A W s₀ t₀ (removeGuardian rt signers s a) (removeGuardian rt signers t a) := by
  unfold removeGuardian
  rw [loadManagedGuardians_eq twins hhandler (twins.subset hguardian)]
  exact .bind_same fun x => .bind_same fun _ => .bind_same fun _ =>
    exitAccount_twins twins (fun _ => hguardian) _

theorem updateGuardianThreshold_twins (twins : Twins A W s₀ t₀ s t)
    {a : UpdateGuardianThreshold Pubkey} (hhandler : a.bridgeHandler ∈ W)
    (hguardian : a.guardianInfo ∈ A) (guardianThreshold : UInt8) :
    TwinRuns A W s₀ t₀ (updateGuardianThreshold rt signers s a guardianThreshold)
      (updateGuardianThreshold rt signers t a guardianThreshold) := by
  unfold updateGuardianThreshold
  rw [loadManagedGuardians_eq twins (twins.subset hhandler) hguardian]
  exact .bind_same fun x => .bind_same fun _ => .bind_same fun _ => .bind_same fun _ =>
    exitAccount_twins twins (fun _ => hhandler) _

theorem verifySignature_twins (twins : Twins A W s₀ t₀ s t) {a : VerifySignature Pubkey}
    (hA : ∀ b ∈ [a.bridgeHandler, a.guardianInfo], b ∈ A)
    (hW : ∀ b ∈ [a.operator, a.verifiedSignatures], b ∈ W)
    (ixSysvar : InstructionsSysvar Pubkey) (msgHash : Hash) (signerIndexes : List UInt8) :
    TwinRuns A W s₀ t₀ (verifySignature rt signers ixSysvar s a msgHash signerIndexes)
      (verifySignature rt signers ixSysvar t a msgHash signerIndexes) := by
  have hoperator := hW a.operator (by simp)
  have happrovals := hW a.verifiedSignatures (by simp)
  unfold verifySignature
  rw [loadBridgeHandler_eq twins (hA _ (by simp)), loadGuardianInfo_eq twins (hA _ (by simp))]
  refine .bind_same fun _ => .bind_same fun _ => .bind_same fun g =>
    bind_twins (initIfNeeded_twins twins hoperator happrovals _ _ _) ?_
  rintro s₁ t₁ ⟨v, bump⟩ twins₁
  dsimp only
  rw [clock_eq twins₁]
  exact .bind_same fun keys => .bind_same fun _ =>
    exitAccount_twins twins₁ (fun _ => happrovals) _

theorem initMintIfNeeded_twins (twins : Twins A W s₀ t₀ s t) {a : AddToken Pubkey}
    (hoperator : a.operator ∈ W) (hmint : a.mint ∈ W) (decimal : UInt8) :
    TwinRuns A W s₀ t₀ (initMintIfNeeded rt s a decimal) (initMintIfNeeded rt t a decimal) := by
  refine .bind_same fun _ => .bind (created_twins twins (twins.subset hmint)
    (createAccount_twins twins hoperator hmint _ _)) fun s₁ t₁ twins₁ => ?_
  rw [loadMint_eq twins₁ (twins.subset hmint)]
  exact .bind_same fun m => .bind_same fun _ => .bind_same fun _ => .pure twins₁

theorem addToken_twins (twins : Twins A W s₀ t₀ s t) {a : AddToken Pubkey}
    (hhandler : a.bridgeHandler ∈ A)
    (hW : ∀ b ∈ [a.operator, a.mint, a.bridgeHandlerVault, a.metadata, a.tokenInfo], b ∈ W)
    (decimal : UInt8) (name symbol uri : Option String) :
    TwinRuns A W s₀ t₀ (addToken rt signers s a decimal name symbol uri)
      (addToken rt signers t a decimal name symbol uri) := by
  have hoperator := hW a.operator (by simp)
  have hmint := hW a.mint (by simp)
  have htoken := hW a.tokenInfo (by simp)
  unfold addToken
  rw [loadBridgeHandler_eq twins hhandler]
  refine .bind_same fun _ => .bind_same fun _ => .bind_same fun h => .bind_same fun _ =>
    .bind (initMintIfNeeded_twins twins hoperator hmint decimal) fun s₁ t₁ twins₁ => ?_
  refine .bind_same fun _ => bind_twins (initIfNeeded_twins twins₁ hoperator htoken _ _ _) ?_
  rintro s₂ t₂ ⟨info, bump⟩ twins₂
  refine .bind (vault_twins twins₂ hoperator (hW _ (by simp)) (twins.subset hmint) _ _)
    fun s₃ t₃ twins₃ => ?_
  refine .ite (fun _ => exitAccount_twins twins₃ (fun _ => htoken) _) fun _ => ?_
  refine .bind (.ite (fun _ => createAccount_twins twins₃ hoperator (hW _ (by simp)) _ _)
    fun _ => .pure twins₃) fun s₄ t₄ twins₄ => ?_
  exact exitAccount_twins twins₄ (fun _ => htoken) _

theorem setTokenPause_twins (twins : Twins A W s₀ t₀ s t) {a : PauseToken Pubkey}
    (hA : ∀ b ∈ [a.bridgeHandler, a.mint, a.tokenInfo], b ∈ A) (pause : Bool) :
    TwinRuns A W s₀ t₀ (setTokenPause rt signers s a pause)
      (setTokenPause rt signers t a pause) := by
  unfold setTokenPause
  rw [loadBridgeHandler_eq twins (hA _ (by simp)), loadMint_eq twins (hA _ (by simp)),
    loadTokenInfo_eq twins (hA _ (by simp))]
  exact .bind_same fun _ => .bind_same fun h => .bind_same fun _ => .bind_same fun _ =>
    .bind_same fun _ => .bind_same fun _ => .pure twins

theorem takeAdditionalSolGas_twins (twins : Twins A W s₀ t₀ s t) {signer bridgeHandler : Pubkey}
    (hsigner : signer ∈ W) (hhandler : bridgeHandler ∈ W) (chain : Chain) (gas : UInt64) :
    TwinRuns A W s₀ t₀ (takeAdditionalSolGas rt s chain signer bridgeHandler gas)
      (takeAdditionalSolGas rt t chain signer bridgeHandler gas) := by
  refine .bind_same fun _ => .ite (fun _ => .bind_same fun _ => ?_) fun _ => .pure twins
  cases chain with
  | solana => exact systemTransfer_twins twins hsigner hhandler _
  | solayer => exact burnSol_twins twins hsigner gas

theorem takeTokens_twins (twins : Twins A W s₀ t₀ s t) {a : BridgeAssetSourceChain Pubkey}
    (hW : ∀ b ∈ [a.signer, a.mint, a.signerVault, a.bridgeHandlerVault, a.feeVault], b ∈ W)
    (chain : Chain) (decimals : UInt8) (info : TokenInfo Pubkey) (bump : UInt8) (amount : UInt64)
    (targetMint : Pubkey) :
    TwinResults A W s₀ t₀ (takeTokens rt s a chain decimals info bump amount targetMint)
      (takeTokens rt t a chain decimals info bump amount targetMint) := by
  have hmint := hW a.mint (by simp)
  have hsource := hW a.signerVault (by simp)
  have transfer : TwinRuns A W s₀ t₀ (transferChecked rt s a.tokenProgram a.signerVault
      a.bridgeHandlerVault a.mint a.signer amount.toNat decimals) _ :=
    transferChecked_twins twins hsource (hW _ (by simp)) (twins.subset hmint) _ _ _ _
  unfold takeTokens
  refine .ite (fun _ => .bind transfer fun s₁ t₁ twins₁ => ?_) fun _ => .bind_same fun _ =>
    .ite (fun _ => .bind transfer fun s₁ t₁ twins₁ => .pure ⟨rfl, twins₁⟩) fun _ =>
    .ite (fun _ => ?_) fun _ => .pure ⟨rfl, twins⟩
  · cases chain with
    | solana => exact .pure ⟨rfl, twins₁⟩
    | solayer =>
        exact .bind (systemTransfer_twins twins₁ (hW _ (by simp)) (hW _ (by simp)) _)
          fun s₂ t₂ twins₂ => .pure ⟨rfl, twins₂⟩
  · exact .bind (burn_twins twins hmint hsource _ _ _) fun s₁ t₁ twins₁ => .pure ⟨rfl, twins₁⟩

theorem bridgeAssetSourceChain_twins (twins : Twins A W s₀ t₀ s t)
    {a : BridgeAssetSourceChain Pubkey}
    (hW : ∀ b ∈ [a.signer, a.mint, a.signerVault, a.bridgeHandler, a.bridgeHandlerVault,
      a.bridgeProof, a.tokenInfo, a.feeVault], b ∈ W)
    (bridgeProofNonce amount : UInt64) (recipient targetMint : Pubkey) (gas : UInt64) :
    TwinResults A W s₀ t₀
      (bridgeAssetSourceChain rt signers s a bridgeProofNonce amount recipient targetMint gas)
      (bridgeAssetSourceChain rt signers t a bridgeProofNonce amount recipient targetMint gas) := by
  have hsigner := hW a.signer (by simp)
  have hmint := hW a.mint (by simp)
  have hhandler := hW a.bridgeHandler (by simp)
  have hproof := hW a.bridgeProof (by simp)
  have htoken := hW a.tokenInfo (by simp)
  have hvault : loadSignerVault rt t a = loadSignerVault rt s a := by
    rw [loadSignerVault, readTokenAccount_eq twins (twins.subset (hW _ (by simp))),
      loadSignerVault]
  unfold bridgeAssetSourceChain
  rw [loadMint_eq twins (twins.subset hmint), hvault,
    loadBridgeHandler_eq twins (twins.subset hhandler)]
  refine .bind_same fun _ => .bind_same fun _ => .bind_same fun m => .bind_same fun vault =>
    .bind_same fun h => .bind_same fun _ =>
    bind_twins (initAccount_twins twins hsigner hproof _ _) fun s₁ t₁ proofBump twins₁ => ?_
  refine bind_twins (initIfNeeded_twins twins₁ hsigner htoken _ _ _) ?_
  rintro s₂ t₂ ⟨info, tokenInfoBump⟩ twins₂
  refine .bind (vault_twins twins₂ hsigner (hW _ (by simp)) (twins.subset hmint) _ _)
    fun s₃ t₃ twins₃ => ?_
  refine .bind_same fun _ => .bind_same fun _ =>
    .bind (systemTransfer_twins twins₃ hsigner (hW _ (by simp)) _) fun s₄ t₄ twins₄ => ?_
  refine .bind (takeAdditionalSolGas_twins twins₄ hsigner hhandler _ _) fun s₅ t₅ twins₅ => ?_
  refine bind_twins (takeTokens_twins twins₅ (fun b hb => hW b ?_) _ _ _ _ _ _)
    fun s₆ t₆ info' twins₆ => ?_
  · simp only [List.mem_cons, List.not_mem_nil, or_false] at hb ⊢
    tauto
  dsimp only
  rw [clock_eq twins₆]
  refine .bind_same fun x => .bind (exitAccount_twins twins₆ (fun _ => hhandler) _)
    fun s₇ t₇ twins₇ => .bind (exitAccount_twins twins₇ (fun _ => hproof) _)
    fun s₈ t₈ twins₈ => .bind (exitAccount_twins twins₈ (fun _ => htoken) _)
    fun s₉ t₉ twins₉ => .pure ⟨rfl, twins₉⟩

theorem bridgeAssetSourceChainSol_twins (twins : Twins A W s₀ t₀ s t)
    {a : BridgeAssetSourceChainSol Pubkey}
    (hW : ∀ b ∈ [a.signer, a.bridgeHandler, a.bridgeProof, a.feeVault], b ∈ W)
    (bridgeProofNonce amount : UInt64) (recipient : Pubkey) :
    TwinResults A W s₀ t₀
      (bridgeAssetSourceChainSol rt signers s a bridgeProofNonce amount recipient)
      (bridgeAssetSourceChainSol rt signers t a bridgeProofNonce amount recipient) := by
  have hsigner := hW a.signer (by simp)
  have hhandler := hW a.bridgeHandler (by simp)
  have hproof := hW a.bridgeProof (by simp)
  unfold bridgeAssetSourceChainSol
  rw [loadBridgeHandler_eq twins (twins.subset hhandler)]
  refine .bind_same fun _ => .bind_same fun h => .bind_same fun _ =>
    bind_twins (initAccount_twins twins hsigner hproof _ _) fun s₁ t₁ proofBump twins₁ => ?_
  refine .bind_same fun _ => .bind_same fun _ =>
    .bind (systemTransfer_twins twins₁ hsigner (hW _ (by simp)) _) fun s₂ t₂ twins₂ => ?_
  rw [lamports_eq twins₂ (twins.subset hsigner)]
  refine .bind_same fun _ => .bind (takeSol_twins twins₂ hsigner hhandler _ _)
    fun s₃ t₃ twins₃ => ?_
  rw [clock_eq twins₃]
  refine .bind_same fun x => .bind (exitAccount_twins twins₃ (fun _ => hhandler) _)
    fun s₄ t₄ twins₄ => .bind (exitAccount_twins twins₄ (fun _ => hproof) _)
    fun s₅ t₅ twins₅ => .pure ⟨rfl, twins₅⟩

variable [DecidableEq Hash]

omit [DecidableEq Hash] in
theorem initRecipientVaultIfNeeded_twins (twins : Twins A W s₀ t₀ s t)
    {a : BridgeAssetTargetChain Pubkey} (hoperator : a.operator ∈ W)
    (hvault : a.recipientVault ∈ W) (hmint : a.mint ∈ A) :
    TwinRuns A W s₀ t₀ (initRecipientVaultIfNeeded rt s a) (initRecipientVaultIfNeeded rt t a) := by
  refine .bind (created_twins twins (twins.subset hvault)
    (createAssociatedToken_twins twins hoperator hvault hmint _ _)) fun s₁ t₁ twins₁ => ?_
  rw [readTokenAccount_eq twins₁ (twins.subset hvault)]
  exact .bind_same fun x => .bind_same fun _ => .bind_same fun _ => .bind_same fun _ =>
    .bind_same fun _ => .bind_same fun _ => .pure twins₁

omit [DecidableEq Hash] in
theorem payTokens_twins (twins : Twins A W s₀ t₀ s t) {a : BridgeAssetTargetChain Pubkey}
    (hW : ∀ b ∈ [a.mint, a.bridgeHandlerVault, a.recipientVault], b ∈ W) (chain : Chain)
    (info : TokenInfo Pubkey) (vaultAmount : ℕ) (decimals : UInt8) (receiveAmount : UInt64) :
    TwinRuns A W s₀ t₀ (payTokens rt s a chain info vaultAmount decimals receiveAmount)
      (payTokens rt t a chain info vaultAmount decimals receiveAmount) := by
  have hmint := hW a.mint (by simp)
  have htarget := hW a.recipientVault (by simp)
  refine .ite (fun _ => .bind_same fun _ => ?_) fun _ => .ite (fun _ => ?_) fun _ => .error _
  · exact transferChecked_twins twins (hW _ (by simp)) htarget (twins.subset hmint) _ _ _ _
  · exact mintTo_twins twins hmint htarget _ _ _

theorem bridgeAssetTargetChain_twins (twins : Twins A W s₀ t₀ s t)
    {a : BridgeAssetTargetChain Pubkey}
    (hA : ∀ b ∈ [a.guardianInfo, a.tokenInfo], b ∈ A)
    (hW : ∀ b ∈ [a.operator, a.mint, a.recipient, a.recipientVault, a.bridgeHandler,
      a.bridgeHandlerVault, a.bridgeProof, a.verifiedSignatures], b ∈ W)
    (msgHash : Hash) (sourceTxId : Vector UInt8 64) (sender sourceMint : Pubkey)
    (receiveAmount nonce gas : UInt64) :
    TwinRuns A W s₀ t₀
      (bridgeAssetTargetChain rt signers s a msgHash sourceTxId sender sourceMint receiveAmount
        nonce gas)
      (bridgeAssetTargetChain rt signers t a msgHash sourceTxId sender sourceMint receiveAmount
        nonce gas) := by
  have hoperator := hW a.operator (by simp)
  have hmint := hW a.mint (by simp)
  have hhandler := hW a.bridgeHandler (by simp)
  have hproof := hW a.bridgeProof (by simp)
  have happrovals := hW a.verifiedSignatures (by simp)
  have hvault : loadBridgeHandlerVault rt t a = loadBridgeHandlerVault rt s a := by
    rw [loadBridgeHandlerVault, readTokenAccount_eq twins (twins.subset (hW _ (by simp))),
      loadBridgeHandlerVault]
  unfold bridgeAssetTargetChain
  rw [loadMint_eq twins (twins.subset hmint), hvault,
    loadBridgeHandler_eq twins (twins.subset hhandler),
    loadGuardianInfo_eq twins (hA _ (by simp)),
    loadVerifiedSignatures_eq twins (twins.subset happrovals),
    loadTokenInfo_eq twins (hA _ (by simp))]
  refine .bind_same fun _ => .bind_same fun _ => .bind_same fun m => .bind_same fun h =>
    .bind_same fun _ => .bind_same fun vault => .bind_same fun g => .bind_same fun v =>
    .bind_same fun _ => .bind_same fun info => .bind (initRecipientVaultIfNeeded_twins twins
      hoperator (hW _ (by simp)) (twins.subset hmint)) fun s₁ t₁ twins₁ => ?_
  refine bind_twins (initAccount_twins twins₁ hoperator hproof _ _)
    fun s₂ t₂ proofBump twins₂ => ?_
  dsimp only
  rw [clock_eq twins₂]
  refine .bind_same fun _ => .bind_same fun h' => .bind_same fun _ => .bind_same fun _ =>
    .bind_same fun _ => .bind (payTokens_twins twins₂ (fun b hb => hW b ?_) _ _ _ _ _)
      fun s₃ t₃ twins₃ => ?_
  · simp only [List.mem_cons, List.not_mem_nil, or_false] at hb ⊢
    tauto
  rw [clock_eq twins₃]
  refine .bind (.ite (fun _ => paySol_twins twins₃ hhandler (hW _ (by simp)) _ _ _ _)
    fun _ => .pure twins₃) fun s₄ t₄ twins₄ => ?_
  refine .bind (exitAccount_twins twins₄ (fun _ => hhandler) _) fun s₅ t₅ twins₅ =>
    .bind (exitAccount_twins twins₅ (fun _ => hproof) _) fun s₆ t₆ twins₆ => ?_
  exact closeAccount_twins twins₆ happrovals hoperator

theorem bridgeAssetTargetChainSol_twins (twins : Twins A W s₀ t₀ s t)
    {a : BridgeAssetTargetChainSol Pubkey} (hguardian : a.guardianInfo ∈ A)
    (hW : ∀ b ∈ [a.operator, a.recipient, a.bridgeHandler, a.bridgeProof,
      a.verifiedSignatures], b ∈ W)
    (msgHash : Hash) (sourceTxId : Vector UInt8 64) (sender : Pubkey)
    (receiveAmount nonce : UInt64) :
    TwinRuns A W s₀ t₀
      (bridgeAssetTargetChainSol rt signers s a msgHash sourceTxId sender receiveAmount nonce)
      (bridgeAssetTargetChainSol rt signers t a msgHash sourceTxId sender receiveAmount nonce) := by
  have hoperator := hW a.operator (by simp)
  have hhandler := hW a.bridgeHandler (by simp)
  have hproof := hW a.bridgeProof (by simp)
  have happrovals := hW a.verifiedSignatures (by simp)
  unfold bridgeAssetTargetChainSol
  rw [loadBridgeHandler_eq twins (twins.subset hhandler), loadGuardianInfo_eq twins hguardian,
    loadVerifiedSignatures_eq twins (twins.subset happrovals)]
  refine .bind_same fun _ => .bind_same fun h => .bind_same fun _ => .bind_same fun g =>
    .bind_same fun v => .bind_same fun _ =>
    bind_twins (initAccount_twins twins hoperator hproof _ _) fun s₁ t₁ proofBump twins₁ => ?_
  dsimp only
  rw [clock_eq twins₁]
  refine .bind_same fun _ => .bind_same fun h' => .bind_same fun _ => .bind_same fun _ =>
    .bind (paySol_twins twins₁ hhandler (hW _ (by simp)) _ _ _ _) fun s₂ t₂ twins₂ => ?_
  refine .bind (exitAccount_twins twins₂ (fun _ => hhandler) _) fun s₃ t₃ twins₃ =>
    .bind (exitAccount_twins twins₃ (fun _ => hproof) _) fun s₄ t₄ twins₄ => ?_
  exact closeAccount_twins twins₄ happrovals hoperator

omit [DecidableEq Pubkey] [DecidableEq Hash] in
theorem silent_twins {x y : Except ProgramError (State Pubkey Hash)}
    (h : TwinRuns A W s₀ t₀ x y) :
    TwinResults A W s₀ t₀ (do pure (← x, (none : Option UInt64))) (do pure (← y, none)) :=
  h.bind fun _ _ twins' => .pure ⟨rfl, twins'⟩

omit [DecidableEq Pubkey] [DecidableEq Hash] in
theorem returning_twins {x y : Except ProgramError (State Pubkey Hash × UInt64)}
    (h : TwinResults A W s₀ t₀ x y) :
    TwinResults A W s₀ t₀ (do let (s, nonce) ← x; pure (s, some nonce))
      (do let (s, nonce) ← y; pure (s, some nonce)) :=
  bind_twins h fun _ _ _ twins' => .pure ⟨rfl, twins'⟩

/-- The accounts that a call reads, without those that it may write. -/
def readAccounts : Instruction Pubkey Hash → List Pubkey
  | .addToken a .. => [a.bridgeHandler]
  | .pauseToken a | .unpauseToken a => [a.bridgeHandler, a.mint, a.tokenInfo]
  | .bridgeAssetTargetChain a .. => [a.guardianInfo, a.tokenInfo]
  | .bridgeAssetTargetChainSol a .. => [a.guardianInfo]
  | .addGuardian a => [a.bridgeHandler]
  | .removeGuardian a => [a.bridgeHandler]
  | .updateGuardianThreshold a _ => [a.guardianInfo]
  | .verifySignature a .. => [a.bridgeHandler, a.guardianInfo]
  | _ => []

omit [DecidableEq Hash] in
theorem listed (P : FixedAccounts Pubkey) (ix : Instruction Pubkey Hash) :
    ∀ b ∈ writableAccounts ix ++ readAccounts ix, b ∈ instructionAccounts rt P ix := by
  cases ix <;> simp [writableAccounts, readAccounts, instructionAccounts, partsOf, accountList,
    initializeAccounts, addTokenAccounts, pauseTokenAccounts, bridgeAssetSourceChainAccounts,
    bridgeAssetSourceChainSolAccounts, bridgeAssetTargetChainAccounts,
    bridgeAssetTargetChainSolAccounts, verifySignatureAccounts]

theorem execute_twins (twins : Twins A W s₀ t₀ s t) {call : Call Pubkey Hash}
    (hA : ∀ b ∈ readAccounts call.ix, b ∈ A) (hW : ∀ b ∈ writableAccounts call.ix, b ∈ W) :
    TwinResults A W s₀ t₀ (execute rt s call) (execute rt t call) := by
  obtain ⟨signers, ixSysvar, ix⟩ := call
  cases ix with
  | initializeHandler a initNonce chain =>
      exact silent_twins (initializeHandler_twins twins hW initNonce chain)
  | addToken a decimal name symbol uri =>
      exact silent_twins (addToken_twins twins (hA _ (by simp [readAccounts])) hW ..)
  | pauseToken a => exact silent_twins (setTokenPause_twins twins hA true)
  | unpauseToken a => exact silent_twins (setTokenPause_twins twins hA false)
  | bridgeAssetSourceChain a =>
      exact returning_twins (bridgeAssetSourceChain_twins twins hW ..)
  | bridgeAssetSourceChainSol a =>
      exact returning_twins (bridgeAssetSourceChainSol_twins twins hW ..)
  | bridgeAssetTargetChain a =>
      exact silent_twins (bridgeAssetTargetChain_twins twins hA hW ..)
  | bridgeAssetTargetChainSol a =>
      exact silent_twins
        (bridgeAssetTargetChainSol_twins twins (hA _ (by simp [readAccounts])) hW ..)
  | addGuardian a =>
      exact silent_twins (addGuardian_twins twins (hA _ (by simp [readAccounts]))
        (hW _ (by simp [writableAccounts])))
  | removeGuardian a =>
      exact silent_twins (removeGuardian_twins twins (hA _ (by simp [readAccounts]))
        (hW _ (by simp [writableAccounts])))
  | updateGuardianThreshold a guardianThreshold =>
      exact silent_twins (updateGuardianThreshold_twins twins
        (hW _ (by simp [writableAccounts])) (hA _ (by simp [readAccounts])) guardianThreshold)
  | verifySignature a msgHash signerIndexes =>
      exact silent_twins (verifySignature_twins twins hA hW ixSysvar msgHash signerIndexes)
  | _ =>
      exact silent_twins (updateByManager_twins twins (hW _ (by simp [writableAccounts])) _ _)

end BridgeProgram.CallFootprints
