import BridgeProgram.DerivedMints
import BridgeProgram.SymbolicRuntime

namespace BridgeProgram.TokenRegistrations

open BridgeProgram.AnchorAccounts
open BridgeProgram.BalanceShifts
open BridgeProgram.BridgeProgramEntry
open BridgeProgram.CheckedResult
open BridgeProgram.DerivedAccounts
open BridgeProgram.DerivedMints
open BridgeProgram.LedgerInvariants
open BridgeProgram.PayoutSteps
open BridgeProgram.ProgramStates
open BridgeProgram.RegistryModel
open BridgeProgram.RegistryRefinement
open BridgeProgram.SolanaRuntime
open BridgeProgram.SourceInstructions
open BridgeProgram.SourceSteps
open BridgeProgram.SymbolicRuntime
open BridgeProgram.TargetInstructions
open BridgeProgram.TokenInstructions
open BridgeProgram.TokenPrograms
open BridgeProgram.TokenRegistry
open BridgeProgram.TransitionRuns

variable {Pubkey Hash : Type}

def otherChain : Chain → Chain
  | .solana => .solayer
  | .solayer => .solana

/-- A token info with one of its flags set. -/
def isRegistered (r : Registry Pubkey Hash) (a : Pubkey) : Bool :=
  match r a with
  | some (.tokenInfo t) => !isUnregistered t
  | _ => false

/-- The metadata fee is due when a call registers a mint on Solayer. -/
def dueMetadataFee (s s' : State Pubkey Hash) (chain : Chain) (tokenInfo : Pubkey) : ℕ :=
  if chain = .solayer ∧ isRegistered s.programData tokenInfo = false ∧
      isRegistered s'.programData tokenInfo = true
  then metadataCreationFee.toNat else 0

variable [DecidableEq Pubkey]

/-- What a transition charges as metadata fee for a mint of a handler. -/
def chargedMetadata (bridgeHandler mint : Pubkey) (u : LedgerTransition Pubkey Hash) : ℕ :=
  match u.label with
  | .call call _ =>
      match tokenRequest? call.ix, u.pre.programData bridgeHandler with
      | some (x, _), some (.bridgeHandler h) =>
          if x.bridgeHandler = bridgeHandler ∧ x.mint = mint then
            dueMetadataFee u.pre u.post h.chain x.tokenInfo
          else 0
      | _, _ => 0
  | .other => 0

/-- How a source call for tokens changes lamports: rent, the fee, the SOL that is
bridged and the metadata fee, if it is due. -/
def chargedShift (rt : Runtime Pubkey Hash) (s s' : State Pubkey Hash)
    (h : BridgeHandler Pubkey) (x : BridgeAssetSourceChain Pubkey)
    (ix : Instruction Pubkey Hash) : Pubkey → ℤ :=
  rentShift rt s ix + moved x.signer x.feeVault h.feeInfo.bridgeAssetFee.toNat +
    solTaken h.chain x.signer x.bridgeHandler (solRequest ix) +
    moved x.signer x.feeVault (dueMetadataFee s s' h.chain x.tokenInfo)

variable [DecidableEq Hash]

/-- The tokens of all handlers at the end of a run, and how they came about. -/
structure RegistrySound (rt : Runtime Pubkey Hash)
    (trace : List (LedgerTransition Pubkey Hash)) (s' : State Pubkey Hash) : Prop where
  recorded : ∀ a t, s'.programData a = some (.tokenInfo t) →
    ∃ bridgeHandler mint, RegisteredToken rt s'.programData bridgeHandler mint a t
  added : ∀ u ∈ trace, ∀ call returned x decimal name symbol uri,
    u.label = .call call returned → call.ix = .addToken x decimal name symbol uri →
    ∃ h t, HandlerAt rt s'.programData x.bridgeHandler h ∧
      TokenInfoAt rt s'.programData x.bridgeHandler x.mint x.tokenInfo t ∧
      isNativeOn h.chain t = false ∧ isNativeOn (otherChain h.chain) t = true ∧
      ownMint h.chain t = x.mint ∧ counterpartMint h.chain t = x.sourceMint
  kept : ∀ u ∈ trace, ∀ a t, u.pre.programData a = some (.tokenInfo t) →
    s'.programData a = some (.tokenInfo t)
  charged : ∀ u ∈ trace, ∀ call returned x amount, u.label = .call call returned →
    tokenRequest? call.ix = some (x, amount) →
    ∃ h, HandlerAt rt u.pre.programData x.bridgeHandler h ∧
      Shifted u.pre.lamports u.post.lamports (chargedShift rt u.pre u.post h x call.ix)
  chargedOnce : ∀ bridgeHandler mint,
    (trace.map (chargedMetadata bridgeHandler mint)).sum ≤ metadataCreationFee.toNat
  valid : ∀ call x amount, tokenPayment? call.ix = some (x, amount) →
    execute rt s' call ≠ .error (.bridge .invalidTokenInfo)

variable {rt : Runtime Pubkey Hash} {s s' : State Pubkey Hash} {event : Event Pubkey Hash}
  {call : Call Pubkey Hash} {returned : Option UInt64} {a : Pubkey}

section Errors

variable {e : BridgeHandlerError}

omit [DecidableEq Hash]

@[simp] theorem avoids_systemTransfer {target : Pubkey} {n : ℕ} :
    Avoids (.bridge e) (systemTransfer s a target n) := by
  simp [systemTransfer]

@[simp] theorem avoids_createAccount {payer : Pubkey} {len : ℕ}
    {d : AccountData Pubkey Hash} : Avoids (.bridge e) (createAccount rt s payer a len d) := by
  simp [createAccount]

@[simp] theorem avoids_loadSeeded {α : Type} {read : ProgramData Pubkey Hash → Option α}
    {seeds : α → Seeds Pubkey Hash} {bump : α → UInt8} :
    Avoids (.bridge e) (loadSeeded rt s read seeds bump a) := by
  have hload : Avoids (.bridge e) (loadAccount s read a) := by
    unfold loadAccount
    split <;> simp
  simp [loadSeeded, hload]

omit [DecidableEq Pubkey] in
@[simp] theorem avoids_readMint : Avoids (.bridge e) (readMint s a) := by
  unfold readMint
  split <;> simp

omit [DecidableEq Pubkey] in
@[simp] theorem avoids_readTokenAccount : Avoids (.bridge e) (readTokenAccount s a) := by
  unfold readTokenAccount
  split <;> simp

@[simp] theorem avoids_exitAccount {w : Writability} {d : ProgramData Pubkey Hash} :
    Avoids (.bridge e) (exitAccount w s a d) := by
  cases w <;> simp [exitAccount]

@[simp] theorem avoids_paySol {chain : Chain} {recipient : Pubkey} {len : ℕ}
    {n accountIdx : UInt64} :
    Avoids (.bridge .invalidTokenInfo) (paySol rt s chain a recipient len n accountIdx) := by
  cases chain <;> simp [paySol, mintSolToRecipient, transferSolToRecipient]

@[simp] theorem avoids_payTokens {x : BridgeAssetTargetChain Pubkey} {chain : Chain}
    {t : TokenInfo Pubkey} {vaultAmount : ℕ} {decimals : UInt8} {amount : UInt64} :
    Avoids (.bridge .invalidTokenInfo) (payTokens rt s x chain t vaultAmount decimals amount) := by
  cases hnative : isNativeOn chain t <;>
    simp [payTokens, isWrappedOn_eq, hnative, transferChecked, mintTo, mintOf, tokenAccountOf]

theorem avoids_bridgeAssetTargetChain [DecidableEq Hash] {signers : List Pubkey}
    {x : BridgeAssetTargetChain Pubkey} {msgHash : Hash} {sourceTxId : Vector UInt8 64}
    {sender sourceMint : Pubkey} {amount nonce gas : UInt64} :
    Avoids (.bridge .invalidTokenInfo) (bridgeAssetTargetChain rt signers s x msgHash sourceTxId
      sender sourceMint amount nonce gas) := by
  simp [bridgeAssetTargetChain, checkSigner, checkTokenProgram, loadMint, loadBridgeHandler,
    loadBridgeHandlerVault, loadGuardianInfo, loadVerifiedSignatures, loadTokenInfo,
    initRecipientVaultIfNeeded, createAssociatedToken, mintOf, initAccount, chargeTokenPayout,
    chargeInstantCap, checkApprovals, closeAccount]

end Errors

theorem ne_invalidTokenInfo {x : BridgeAssetTargetChain Pubkey} {amount : UInt64}
    (token : tokenPayment? call.ix = some (x, amount)) :
    execute rt s call ≠ .error (.bridge .invalidTokenInfo) := by
  obtain ⟨signers, ixSysvar, ix⟩ := call
  cases ix with
  | bridgeAssetTargetChain => exact avoids_bind.mpr ⟨avoids_bridgeAssetTargetChain, by simp⟩
  | _ => simp [tokenPayment?] at token

omit [DecidableEq Hash] in
theorem addToken_addresses {clock : Clock} {r r' : Registry Pubkey Hash}
    (step : RegistryStep rt clock r call returned r') {x : AddToken Pubkey} {decimal : UInt8}
    {name symbol uri : Option String} (ix : call.ix = .addToken x decimal name symbol uri) :
    mintAddress rt x.bridgeHandler x.sourceMint = x.mint ∧
      ∃ bump, rt.findProgramAddress (.tokenInfo x.bridgeHandler x.mint) = (x.tokenInfo, bump) := by
  obtain ⟨signers, ixSysvar, ix'⟩ := call
  subst ix
  cases step with
  | addToken _ _ _ hmint htoken => exact ⟨hmint, _, htoken⟩
  | addTokenAgain _ _ _ hmint htoken => exact ⟨hmint, _, htoken⟩
  | managed kind => simp [managerUpdate?] at kind
  | tokenPause kind => simp [tokenPause?] at kind
  | payout kind => simp [payout?] at kind

omit [DecidableEq Hash] in
theorem tokenInfo_of_source {clock : Clock} {r r' : Registry Pubkey Hash}
    (step : RegistryStep rt clock r call returned r') {x : BridgeAssetSourceChain Pubkey}
    {amount : UInt64} (token : tokenRequest? call.ix = some (x, amount)) :
    (∃ bump, rt.findProgramAddress (.tokenInfo x.bridgeHandler x.mint) = (x.tokenInfo, bump)) ∧
      ∃ t, r' x.tokenInfo = some (.tokenInfo t) := by
  obtain ⟨signers, ixSysvar, ix⟩ := call
  cases ix with
  | bridgeAssetSourceChain =>
      obtain ⟨rfl, -⟩ := Prod.mk.inj (Option.some.inj token)
      cases step with
      | bridgeAssetSourceChain _ tokenAddress =>
          exact ⟨⟨_, tokenAddress⟩, _, Function.update_self ..⟩
      | managed kind => simp [managerUpdate?] at kind
      | tokenPause kind => simp [tokenPause?] at kind
      | payout kind => simp [payout?] at kind
  | _ => simp [tokenRequest?] at token

omit [DecidableEq Pubkey] [DecidableEq Hash] in
theorem isRegistered_of_found {r : Registry Pubkey Hash} {t : TokenInfo Pubkey}
    (found : StoredOrNew r a (.tokenInfo t) (.tokenInfo (zeroTokenInfo rt))) :
    isRegistered r a = !isUnregistered t := by
  rcases found with hstored | ⟨hnone, hzero⟩
  · rw [isRegistered, hstored]
  · obtain rfl := ProgramData.tokenInfo.inj hzero
    rw [isRegistered, hnone]
    rfl

theorem isRegistered_of_stored (reachable : LedgerReachable rt s) {t : TokenInfo Pubkey}
    (stored : s.programData a = some (.tokenInfo t)) :
    isRegistered s.programData a = true := by
  obtain ⟨_, _, registered⟩ := tokensRegistered_of_reachable reachable a t stored
  rw [isRegistered, stored]
  simp [isUnregistered, registered.native]

theorem charged_of_executed (reachable : LedgerReachable rt s)
    (executed : execute rt s call = .ok (s', returned)) {x : BridgeAssetSourceChain Pubkey}
    {amount : UInt64} (token : tokenRequest? call.ix = some (x, amount)) :
    ∃ h, HandlerAt rt s.programData x.bridgeHandler h ∧
      Shifted s.lamports s'.lamports (chargedShift rt s s' h x call.ix) := by
  obtain ⟨-, t', stored'⟩ := tokenInfo_of_source (execute_refines executed).1 token
  have hpost := isRegistered_of_stored (reachable.next (.call executed)) stored'
  obtain ⟨signers, ixSysvar, ix⟩ := call
  cases ix with
  | bridgeAssetSourceChain =>
      obtain ⟨rfl, rfl⟩ := Prod.mk.inj (Option.some.inj token)
      obtain ⟨h, t, effect⟩ := source_effect rfl executed
      have hpre := isRegistered_of_found (effect.tokens _ _ rfl).found
      refine ⟨h, effect.handler, ?_⟩
      have hlamports := effect.lamports
      unfold sourceShift at hlamports
      unfold chargedShift dueMetadataFee
      rw [hpre, hpost]
      simpa [metadataFee, registrationFee] using hlamports
  | _ => simp [tokenRequest?] at token

theorem addedToken_kept_run {trace : List (LedgerTransition Pubkey Hash)}
    (reachable : LedgerReachable rt s) (run : LedgerRun rt s trace s')
    {bridgeHandler sourceMint : Pubkey} (added : AddedToken rt s bridgeHandler sourceMint) :
    AddedToken rt s' bridgeHandler sourceMint := by
  induction run with
  | nil => exact added
  | snoc run next ih => exact addedToken_kept (reachable.run run) next ih

omit [DecidableEq Pubkey] [DecidableEq Hash] in
theorem tokenInfoAt_of_added {bridgeHandler sourceMint : Pubkey}
    (added : AddedToken rt s bridgeHandler sourceMint) {bump : UInt8}
    (address : rt.findProgramAddress
      (.tokenInfo bridgeHandler (mintAddress rt bridgeHandler sourceMint)) = (a, bump)) :
    ∃ h t, HandlerAt rt s.programData bridgeHandler h ∧
      TokenInfoAt rt s.programData bridgeHandler (mintAddress rt bridgeHandler sourceMint) a t ∧
      isNativeOn h.chain t = false ∧ isNativeOn (otherChain h.chain) t = true ∧
      ownMint h.chain t = mintAddress rt bridgeHandler sourceMint ∧
      counterpartMint h.chain t = sourceMint := by
  obtain ⟨h, b, bump', handler, address', stored⟩ := added
  obtain ⟨rfl, rfl⟩ := Prod.mk.inj (address'.symm.trans address)
  have hcreate := rt.create_of_find address'
  refine ⟨h, _, handler, ⟨stored, ?_⟩, ?_⟩
  · cases h.chain <;> exact hcreate
  · cases h.chain <;> exact ⟨rfl, rfl, rfl, rfl⟩

omit [DecidableEq Pubkey] [DecidableEq Hash] in
/-- The fee that is still due for a mint: none once it is registered. -/
def outstandingFee (rt : Runtime Pubkey Hash) (bridgeHandler mint : Pubkey)
    (s : State Pubkey Hash) : ℕ :=
  if isRegistered s.programData (rt.findProgramAddress (.tokenInfo bridgeHandler mint)).1 = true
  then 0 else metadataCreationFee.toNat

theorem outstandingFee_le (reachable : LedgerReachable rt s) (step : LedgerStep rt s event s')
    (bridgeHandler mint : Pubkey) :
    outstandingFee rt bridgeHandler mint s' ≤ outstandingFee rt bridgeHandler mint s := by
  unfold outstandingFee
  by_cases hpre : isRegistered s.programData
      (rt.findProgramAddress (.tokenInfo bridgeHandler mint)).1 = true
  · have hpost : isRegistered s'.programData
        (rt.findProgramAddress (.tokenInfo bridgeHandler mint)).1 = true := by
      unfold isRegistered at hpre
      split at hpre
      next t stored =>
          exact isRegistered_of_stored (reachable.next step) (tokenInfo_kept reachable step stored)
      next => cases hpre
    rw [if_pos hpre, if_pos hpost]
  · rw [if_neg hpre]
    split_ifs <;> omega

theorem chargedMetadata_le (reachable : LedgerReachable rt s) (step : LedgerStep rt s event s')
    (bridgeHandler mint : Pubkey) :
    chargedMetadata bridgeHandler mint ⟨s, event, s'⟩ +
      outstandingFee rt bridgeHandler mint s' ≤ outstandingFee rt bridgeHandler mint s := by
  have hle := outstandingFee_le reachable step bridgeHandler mint
  cases step with
  | other change => simpa [chargedMetadata] using hle
  | @call _ call returned executed =>
      cases htoken : tokenRequest? call.ix with
      | none => simpa [chargedMetadata, htoken] using hle
      | some token =>
          obtain ⟨x, amount⟩ := token
          simp only [chargedMetadata, htoken]
          split
          next h hx hstored =>
              obtain ⟨⟨bump, address⟩, -⟩ :=
                tokenInfo_of_source (execute_refines executed).1 htoken
              obtain ⟨rfl, -⟩ := Prod.mk.inj (Option.some.inj hx)
              split_ifs with hsame
              · obtain ⟨rfl, rfl⟩ := hsame
                simp only [outstandingFee, address, dueMetadataFee] at hle ⊢
                split_ifs at hle ⊢ <;> simp_all
              · omega
          next => omega

/-- In every run each stored token info belongs to one chain and never changes, mints of
`add_token` belong to the other chain, and a mint is charged for when it is registered. -/
theorem token_registry_sound (collisionFree : CollisionFree rt) {s₀ : State Pubkey Hash}
    {trace : List (LedgerTransition Pubkey Hash)} (genesis : Genesis s₀)
    (unminted : NoDerivedMints rt s₀) (run : LedgerRun rt s₀ trace s)
    (respectful : Respectful rt trace) : RegistrySound rt trace s := by
  have hreachable : ∀ u ∈ trace, LedgerReachable rt u.pre :=
    fun u hu => reachable_of_mem genesis run hu
  constructor
  · exact tokensRegistered_of_reachable ⟨s₀, trace, genesis, run⟩
  · intro u hu call returned x decimal name symbol uri hlabel ix
    obtain ⟨before, after, rfl⟩ := List.append_of_mem hu
    obtain ⟨hbefore, next, hafter⟩ := run.split_at
    have hminted := mintsAdded_step collisionFree ⟨s₀, before, genesis, hbefore⟩ next
      (respectful u hu) (mintsAdded_of_run collisionFree genesis unminted hbefore
        fun w hw => respectful w (List.mem_append_left _ hw))
    have hpost : LedgerReachable rt u.post := (hreachable u hu).next next
    rw [hlabel] at next
    cases next with
    | call executed =>
        obtain ⟨hmint, bump, address⟩ := addToken_addresses (execute_refines executed).1 ix
        obtain ⟨m, hdata, -⟩ := mint_of_addToken executed ix
        rw [← hmint] at hdata address
        have hadded := addedToken_kept_run hpost hafter (hminted.added _ _ _ _ hdata).2
        obtain ⟨h, t, handler, token, hrest⟩ := tokenInfoAt_of_added hadded address
        rw [hmint] at token hrest
        exact ⟨h, t, handler, token, hrest⟩
  · intro u hu a t stored
    obtain ⟨before, after, rfl⟩ := List.append_of_mem hu
    obtain ⟨-, next, hafter⟩ := run.split_at
    exact tokenInfo_kept_run (hreachable u hu) (.cons next hafter) stored
  · intro u hu call returned x amount hlabel token
    have next := run.step_of_mem hu
    rw [hlabel] at next
    cases next with
    | call executed => exact charged_of_executed (hreachable u hu) executed token
  · intro bridgeHandler mint
    have hsum : (trace.map (chargedMetadata bridgeHandler mint)).sum +
        outstandingFee rt bridgeHandler mint s ≤ outstandingFee rt bridgeHandler mint s₀ :=
      run.sum_cost_le _ _ fun u hu next => chargedMetadata_le (hreachable u hu) next _ _
    have hfirst : outstandingFee rt bridgeHandler mint s₀ ≤ metadataCreationFee.toNat := by
      unfold outstandingFee
      split_ifs <;> omega
    omega
  · exact fun call x amount token => ne_invalidTokenInfo token

/-- A token of one handler is registered with a second handler, too. -/
def sharedToken : List (Call Key Digest) :=
  paidTokens ++ [initializeBy (.atom 5) 8 2 (.atom 5) (.atom 6),
    bridgeTokenBy (.atom 5) (handlerKey 8) sampleMint (.atom 5) 0 100 (.atom 20) (.atom 40),
    sampleSourceCall 0]

theorem sharedToken_isOk :
    (executeAll (symbolicRuntime true) sampleLedger sharedToken).isOk = true := by
  decide +kernel

theorem token_registry_sound_sample :
    RegistrySound (symbolicRuntime true)
      (callTrace (symbolicRuntime true) sampleLedger sharedToken)
      (stateAfter (symbolicRuntime true) sampleLedger sharedToken) :=
  token_registry_sound (symbolicRuntime_collisionFree true) (genesis_ledgerOf _)
    (noDerivedMints_ledgerOf true _) (run_callTrace sharedToken_isOk)
    (respectful_callTrace sharedToken_isOk)

end BridgeProgram.TokenRegistrations
