import BridgeProgram.BridgeProgramEntry

/-!
The program's own accounts as a registry: what each instruction requires of the
registry and how it changes it. Lamports, token balances and everything else on
a ledger are left out.
-/

namespace BridgeProgram.RegistryModel

open BridgeProgram.BridgeProgramEntry
open BridgeProgram.CheckedResult
open BridgeProgram.Ed25519Instruction
open BridgeProgram.HandlerInstructions
open BridgeProgram.MessageFormats
open BridgeProgram.ProgramStates
open BridgeProgram.SignatureInstructions
open BridgeProgram.SolanaRuntime
open BridgeProgram.SourceInstructions
open BridgeProgram.TargetInstructions
open BridgeProgram.TokenInstructions
open Function (update)

/-- What the bridge program stores at each address. -/
abbrev Registry (Pubkey Hash : Type) :=
  Pubkey → Option (ProgramData Pubkey Hash)

variable {Pubkey Hash : Type}

/-- The account `a` is accepted as `bridge_handler`, with contents `h`. -/
structure HandlerAt (rt : Runtime Pubkey Hash) (r : Registry Pubkey Hash) (a : Pubkey)
    (h : BridgeHandler Pubkey) : Prop where
  stored : r a = some (.bridgeHandler h)
  address : rt.createProgramAddress (.bridgeHandler h.initNonce) h.bump = some a

theorem HandlerAt.unique {rt : Runtime Pubkey Hash} {r : Registry Pubkey Hash} {a : Pubkey}
    {h h' : BridgeHandler Pubkey} (handler : HandlerAt rt r a h)
    (handler' : HandlerAt rt r a h') : h = h' :=
  ProgramData.bridgeHandler.inj (Option.some.inj (handler.stored.symm.trans handler'.stored))

/-- The account `a` is accepted as `guardian_info` of a handler. -/
structure GuardiansAt (rt : Runtime Pubkey Hash) (r : Registry Pubkey Hash)
    (bridgeHandler a : Pubkey) (g : GuardianInfo Pubkey) : Prop where
  stored : r a = some (.guardianInfo g)
  address : rt.createProgramAddress (.guardianInfo bridgeHandler) g.bump = some a

/-- The account `a` is accepted as `token_info` of a handler and a mint. -/
structure TokenInfoAt (rt : Runtime Pubkey Hash) (r : Registry Pubkey Hash)
    (bridgeHandler mint a : Pubkey) (t : TokenInfo Pubkey) : Prop where
  stored : r a = some (.tokenInfo t)
  address : rt.createProgramAddress (.tokenInfo bridgeHandler mint) t.bump = some a

/-- The account `a` is accepted as `verified_signatures` of a handler and a
message hash. -/
structure ApprovalsAt (rt : Runtime Pubkey Hash) (r : Registry Pubkey Hash)
    (bridgeHandler : Pubkey) (msgHash : Hash) (a : Pubkey) (v : VerifiedSignatures) :
    Prop where
  stored : r a = some (.verifiedSignatures v)
  address : rt.createProgramAddress (.verifiedSignatures bridgeHandler msgHash) v.bump =
    some a

/-- What `init_if_needed` hands to an instruction: the stored contents, or the
contents of a new account. -/
def StoredOrNew (r : Registry Pubkey Hash) (a : Pubkey) (d fresh : ProgramData Pubkey Hash) :
    Prop :=
  r a = some d ∨ r a = none ∧ d = fresh

/-- Requirements of the guardian instructions. -/
structure ManagedGuardians (rt : Runtime Pubkey Hash) (r : Registry Pubkey Hash)
    (signers : List Pubkey) (manager bridgeHandler guardianInfo : Pubkey)
    (h : BridgeHandler Pubkey) (g : GuardianInfo Pubkey) : Prop where
  signed : manager ∈ signers
  handler : HandlerAt rt r bridgeHandler h
  manager : h.manager = manager
  guardians : GuardiansAt rt r bridgeHandler guardianInfo g

/-- Requirements of the source calls. -/
structure SourceRequest (rt : Runtime Pubkey Hash) (r : Registry Pubkey Hash)
    (signers : List Pubkey) (signer bridgeHandler bridgeProof feeVault : Pubkey)
    (bridgeProofNonce : UInt64) (h : BridgeHandler Pubkey) (bump : UInt8) : Prop where
  signed : signer ∈ signers
  handler : HandlerAt rt r bridgeHandler h
  feeVault : h.feeVault = feeVault
  proofAddress : rt.findProgramAddress
    (.bridgeProofSource bridgeHandler signer bridgeProofNonce) = (bridgeProof, bump)
  proofFresh : r bridgeProof = none
  unpaused : h.pause = false
  room : h.nonce.toNat + 1 < 2 ^ 64

/-- A handler that differs at most in its instant cap. -/
def SameButCap (h h' : BridgeHandler Pubkey) : Prop :=
  ∃ remained epoch, h' = { h with
    instantBridgeCapRemainedDollar := remained
    instantBridgeCapEpoch := epoch }

/-- The accounts and arguments that both payouts have. -/
structure PayoutCall (Pubkey Hash : Type) where
  operator : Pubkey
  recipient : Pubkey
  bridgeHandler : Pubkey
  bridgeProof : Pubkey
  guardianInfo : Pubkey
  verifiedSignatures : Pubkey
  msgHash : Hash
  sourceTxId : Vector UInt8 64

def BridgeAssetTargetChain.payout (a : BridgeAssetTargetChain Pubkey) (msgHash : Hash)
    (sourceTxId : Vector UInt8 64) : PayoutCall Pubkey Hash where
  operator := a.operator
  recipient := a.recipient
  bridgeHandler := a.bridgeHandler
  bridgeProof := a.bridgeProof
  guardianInfo := a.guardianInfo
  verifiedSignatures := a.verifiedSignatures
  msgHash := msgHash
  sourceTxId := sourceTxId

def BridgeAssetTargetChainSol.payout (a : BridgeAssetTargetChainSol Pubkey)
    (msgHash : Hash) (sourceTxId : Vector UInt8 64) : PayoutCall Pubkey Hash where
  operator := a.operator
  recipient := a.recipient
  bridgeHandler := a.bridgeHandler
  bridgeProof := a.bridgeProof
  guardianInfo := a.guardianInfo
  verifiedSignatures := a.verifiedSignatures
  msgHash := msgHash
  sourceTxId := sourceTxId

/-- The payout that an instruction is. -/
def payout? : Instruction Pubkey Hash → Option (PayoutCall Pubkey Hash)
  | .bridgeAssetTargetChain a msgHash sourceTxId .. =>
      some (BridgeAssetTargetChain.payout a msgHash sourceTxId)
  | .bridgeAssetTargetChainSol a msgHash sourceTxId .. =>
      some (BridgeAssetTargetChainSol.payout a msgHash sourceTxId)
  | _ => none

/-- The token that `pause_token` or `unpause_token` is about. -/
def tokenPause? : Instruction Pubkey Hash → Option (PauseToken Pubkey)
  | .pauseToken a => some a
  | .unpauseToken a => some a
  | _ => none

/-- Requirements of both payouts. -/
structure Payout (rt : Runtime Pubkey Hash) (r : Registry Pubkey Hash)
    (signers : List Pubkey) (p : PayoutCall Pubkey Hash) (h : BridgeHandler Pubkey)
    (g : GuardianInfo Pubkey) (v : VerifiedSignatures) (bump : UInt8) : Prop where
  signed : p.operator ∈ signers
  handler : HandlerAt rt r p.bridgeHandler h
  operator : h.operator = p.operator
  guardians : GuardiansAt rt r p.bridgeHandler p.guardianInfo g
  approvals : ApprovalsAt rt r p.bridgeHandler p.msgHash p.verifiedSignatures v
  proofAddress : rt.findProgramAddress
    (.bridgeProofTarget p.bridgeHandler (rt.hash p.sourceTxId.toList)) =
      (p.bridgeProof, bump)
  proofFresh : r p.bridgeProof = none
  unpaused : h.pause = false
  counted : v.pubkeyIndex ≠ [] ∧ v.pubkeyIndex.length ≤ g.guardians.length ∧
    v.pubkeyIndex.length ≤ maxGuardianSignatures
  approved : h.guardianThreshold.toNat ≤ v.pubkeyIndex.length

/-- What a payout requires beyond that: the hash of its message, the charge to the
instant cap, and for tokens a registered mint. -/
def PayoutTerms (rt : Runtime Pubkey Hash) (clock : Clock) (r : Registry Pubkey Hash)
    (h h' : BridgeHandler Pubkey) (v : VerifiedSignatures) :
    Instruction Pubkey Hash → Prop
  | .bridgeAssetTargetChain a msgHash sourceTxId sender sourceMint amount nonce gas =>
      (∃ t, TokenInfoAt rt r a.bridgeHandler a.mint a.tokenInfo t ∧
        (isNativeOn h.chain t = true ∨ isWrappedOn h.chain t = true)) ∧
      gas ≤ maxAdditionalSolGas ∧
      rt.hash (bridgeAssetTargetChainMessageData (rt.pubkeyBytes sender)
        (rt.pubkeyBytes a.recipient) (rt.pubkeyBytes sourceMint) (rt.pubkeyBytes a.mint)
        amount nonce sourceTxId gas) = msgHash ∧
      ∃ decimals, chargeTokenPayout rt clock a.mint amount decimals v.createdAt h = .ok h'
  | .bridgeAssetTargetChainSol a msgHash sourceTxId sender amount nonce =>
      rt.hash (bridgeAssetTargetChainSolMessageData (rt.pubkeyBytes sender)
        (rt.pubkeyBytes a.recipient) amount nonce sourceTxId) = msgHash ∧
      chargeSolPayout rt clock amount v.createdAt h = .ok h'
  | _ => False

theorem SameButCap.refl (h : BridgeHandler Pubkey) : SameButCap h h :=
  ⟨_, _, rfl⟩

theorem SameButCap.chain {h h' : BridgeHandler Pubkey} (same : SameButCap h h') :
    h'.chain = h.chain := by
  obtain ⟨remained, epoch, rfl⟩ := same
  rfl

theorem SameButCap.guardianThreshold {h h' : BridgeHandler Pubkey}
    (same : SameButCap h h') : h'.guardianThreshold = h.guardianThreshold := by
  obtain ⟨remained, epoch, rfl⟩ := same
  rfl

theorem resetInstantCap_sameButCap (clock : Clock) (h : BridgeHandler Pubkey) :
    SameButCap h (resetInstantCap clock h) := by
  unfold resetInstantCap
  split
  · exact ⟨_, _, rfl⟩
  · exact .refl h

theorem chargeInstantCap_sameButCap {clock : Clock} {createdAt dollarValue : UInt64}
    {h h' : BridgeHandler Pubkey}
    (charged : chargeInstantCap clock createdAt dollarValue h = .ok h') :
    SameButCap h h' := by
  obtain ⟨remained, epoch, hreset⟩ := resetInstantCap_sameButCap clock h
  simp only [chargeInstantCap] at charged
  split at charged
  · simp only [bind_eq_ok, pure_eq_ok] at charged
    obtain ⟨-, -, -, -, rfl⟩ := charged
    exact ⟨remained, epoch, hreset⟩
  · obtain rfl := pure_eq_ok.mp charged
    exact ⟨_, epoch, by rw [hreset]⟩

theorem chargeTokenPayout_sameButCap {rt : Runtime Pubkey Hash} {clock : Clock}
    {mint : Pubkey} {receiveAmount createdAt : UInt64} {decimals : UInt8}
    {h h' : BridgeHandler Pubkey}
    (charged : chargeTokenPayout rt clock mint receiveAmount decimals createdAt h = .ok h') :
    SameButCap h h' := by
  unfold chargeTokenPayout at charged
  split at charged
  · simp only [bind_eq_ok] at charged
    obtain ⟨_, -, charged⟩ := charged
    exact chargeInstantCap_sameButCap charged
  · obtain rfl := pure_eq_ok.mp charged
    exact .refl h

theorem chargeSolPayout_sameButCap {rt : Runtime Pubkey Hash} {clock : Clock}
    {receiveAmount createdAt : UInt64} {h h' : BridgeHandler Pubkey}
    (charged : chargeSolPayout rt clock receiveAmount createdAt h = .ok h') :
    SameButCap h h' := by
  unfold chargeSolPayout at charged
  split at charged
  · exact chargeInstantCap_sameButCap charged
  · obtain rfl := pure_eq_ok.mp charged
    exact .refl h

theorem PayoutTerms.sameButCap {rt : Runtime Pubkey Hash} {clock : Clock}
    {r : Registry Pubkey Hash} {h h' : BridgeHandler Pubkey} {v : VerifiedSignatures}
    {ix : Instruction Pubkey Hash} (terms : PayoutTerms rt clock r h h' v ix) :
    SameButCap h h' := by
  cases ix with
  | bridgeAssetTargetChain =>
      obtain ⟨-, -, -, decimals, charged⟩ := terms
      exact chargeTokenPayout_sameButCap charged
  | bridgeAssetTargetChainSol => exact chargeSolPayout_sameButCap terms.2
  | _ => exact terms.elim

variable [DecidableEq Pubkey]

/-- The registry after a payout: the handler is stored, the proof is created and
the approvals are closed. -/
def afterPayout (clock : Clock) (r : Registry Pubkey Hash) (p : PayoutCall Pubkey Hash)
    (h : BridgeHandler Pubkey) (bump : UInt8) : Registry Pubkey Hash :=
  update (update (update r p.bridgeHandler (some (.bridgeHandler h))) p.bridgeProof
    (some (.bridgeProof (payoutProof clock bump p.msgHash p.sourceTxId p.recipient))))
    p.verifiedSignatures none

/-- A successful call changes the registry in this way and returns this value. -/
inductive RegistryStep (rt : Runtime Pubkey Hash) (clock : Clock) (r : Registry Pubkey Hash) :
    Call Pubkey Hash → Option UInt64 → Registry Pubkey Hash → Prop
  | initializeHandler {signers : List Pubkey} {ixSysvar : InstructionsSysvar Pubkey}
      {a : Initialize Pubkey} {initNonce : UInt64} {n : UInt8} {chain : Chain}
      {handlerBump guardianBump : UInt8}
      (signed : a.signer ∈ signers)
      (handlerAddress : rt.findProgramAddress (.bridgeHandler initNonce) =
        (a.bridgeHandler, handlerBump))
      (guardianAddress : rt.findProgramAddress (.guardianInfo a.bridgeHandler) =
        (a.guardianInfo, guardianBump))
      (handlerFresh : r a.bridgeHandler = none)
      (guardiansFresh : r a.guardianInfo = none)
      (distinct : a.guardianInfo ≠ a.bridgeHandler)
      (chain_eq : chainOfU8 n = .ok chain) :
      RegistryStep rt clock r ⟨signers, ixSysvar, .initializeHandler a initNonce n⟩ none
        (update (update r a.bridgeHandler
          (some (.bridgeHandler (initialHandler a handlerBump initNonce chain clock))))
          a.guardianInfo (some (.guardianInfo { bump := guardianBump, guardians := [] })))
  | managed {call : Call Pubkey Hash} {manager bridgeHandler : Pubkey}
      {f : BridgeHandler Pubkey → Except ProgramError (BridgeHandler Pubkey)}
      {h h' : BridgeHandler Pubkey}
      (kind : managerUpdate? call.ix = some (manager, bridgeHandler, f))
      (signed : manager ∈ call.signers)
      (handler : HandlerAt rt r bridgeHandler h)
      (manager_eq : h.manager = manager)
      (updated : f h = .ok h') :
      RegistryStep rt clock r call none (update r bridgeHandler (some (.bridgeHandler h')))
  | addToken {signers : List Pubkey} {ixSysvar : InstructionsSysvar Pubkey}
      {a : AddToken Pubkey} {decimal : UInt8} {name symbol uri : Option String}
      {h : BridgeHandler Pubkey} {t : TokenInfo Pubkey} {bump : UInt8}
      (signed : a.operator ∈ signers)
      (handler : HandlerAt rt r a.bridgeHandler h)
      (operator_eq : h.operator = a.operator)
      (mintAddress : (rt.findProgramAddress (.mint a.bridgeHandler a.sourceMint)).1 = a.mint)
      (tokenAddress : rt.findProgramAddress (.tokenInfo a.bridgeHandler a.mint) =
        (a.tokenInfo, bump))
      (found : StoredOrNew r a.tokenInfo (.tokenInfo t) (.tokenInfo (zeroTokenInfo rt)))
      (unregistered : t.isSolanaNativeToken = false ∧ t.isSolayerNativeToken = false) :
      RegistryStep rt clock r ⟨signers, ixSysvar, .addToken a decimal name symbol uri⟩ none
        (update r a.tokenInfo
          (some (.tokenInfo (addedTokenInfo h.chain bump a.mint a.sourceMint))))
  | addTokenAgain {signers : List Pubkey} {ixSysvar : InstructionsSysvar Pubkey}
      {a : AddToken Pubkey} {decimal : UInt8} {name symbol uri : Option String}
      {h : BridgeHandler Pubkey} {t : TokenInfo Pubkey} {bump : UInt8}
      (signed : a.operator ∈ signers)
      (handler : HandlerAt rt r a.bridgeHandler h)
      (operator_eq : h.operator = a.operator)
      (mintAddress : (rt.findProgramAddress (.mint a.bridgeHandler a.sourceMint)).1 = a.mint)
      (tokenAddress : rt.findProgramAddress (.tokenInfo a.bridgeHandler a.mint) =
        (a.tokenInfo, bump))
      (stored : r a.tokenInfo = some (.tokenInfo t))
      (registered : t.isSolanaNativeToken = true ∨ t.isSolayerNativeToken = true) :
      RegistryStep rt clock r ⟨signers, ixSysvar, .addToken a decimal name symbol uri⟩ none r
  | tokenPause {call : Call Pubkey Hash} {a : PauseToken Pubkey}
      {h : BridgeHandler Pubkey} {t : TokenInfo Pubkey}
      (kind : tokenPause? call.ix = some a)
      (signed : a.manager ∈ call.signers)
      (handler : HandlerAt rt r a.bridgeHandler h)
      (manager_eq : h.manager = a.manager)
      (token : TokenInfoAt rt r a.bridgeHandler a.mint a.tokenInfo t) :
      RegistryStep rt clock r call none r
  | bridgeAssetSourceChain {signers : List Pubkey} {ixSysvar : InstructionsSysvar Pubkey}
      {a : BridgeAssetSourceChain Pubkey} {bridgeProofNonce amount : UInt64}
      {recipient targetMint : Pubkey} {gas : UInt64} {h : BridgeHandler Pubkey}
      {t t' : TokenInfo Pubkey} {proofBump tokenBump : UInt8}
      (request : SourceRequest rt r signers a.signer a.bridgeHandler a.bridgeProof a.feeVault
        bridgeProofNonce h proofBump)
      (tokenAddress : rt.findProgramAddress (.tokenInfo a.bridgeHandler a.mint) =
        (a.tokenInfo, tokenBump))
      (distinct : a.tokenInfo ≠ a.bridgeProof)
      (found : StoredOrNew r a.tokenInfo (.tokenInfo t) (.tokenInfo (zeroTokenInfo rt)))
      (token : t.isSolanaNativeToken = false ∧ t.isSolayerNativeToken = false ∧
          t' = registeredTokenInfo h.chain tokenBump a.mint targetMint ∨
        (t.isSolanaNativeToken = true ∨ t.isSolayerNativeToken = true) ∧
          t.pause = false ∧ t' = t) :
      RegistryStep rt clock r
        ⟨signers, ixSysvar, .bridgeAssetSourceChain a bridgeProofNonce amount recipient
          targetMint gas⟩ (some h.nonce)
        (update (update (update r a.bridgeHandler
          (some (.bridgeHandler { h with nonce := h.nonce + 1 })))
          a.bridgeProof (some (.bridgeProofSourceChain (issueBridgeProof rt clock proofBump
            a.signer recipient (rt.pubkeyBytes a.mint) amount bridgeProofNonce))))
          a.tokenInfo (some (.tokenInfo t')))
  | bridgeAssetSourceChainSol {signers : List Pubkey} {ixSysvar : InstructionsSysvar Pubkey}
      {a : BridgeAssetSourceChainSol Pubkey} {bridgeProofNonce amount : UInt64}
      {recipient : Pubkey} {h : BridgeHandler Pubkey} {proofBump : UInt8}
      (request : SourceRequest rt r signers a.signer a.bridgeHandler a.bridgeProof a.feeVault
        bridgeProofNonce h proofBump) :
      RegistryStep rt clock r
        ⟨signers, ixSysvar, .bridgeAssetSourceChainSol a bridgeProofNonce amount recipient⟩
        (some h.nonce)
        (update (update r a.bridgeHandler
          (some (.bridgeHandler { h with nonce := h.nonce + 1 })))
          a.bridgeProof (some (.bridgeProofSourceChain (issueBridgeProof rt clock proofBump
            a.signer recipient solMintPubkey amount bridgeProofNonce))))
  | payout {call : Call Pubkey Hash} {p : PayoutCall Pubkey Hash}
      {h h' : BridgeHandler Pubkey} {g : GuardianInfo Pubkey} {v : VerifiedSignatures}
      {bump : UInt8}
      (kind : payout? call.ix = some p)
      (payout : Payout rt r call.signers p h g v bump)
      (terms : PayoutTerms rt clock r h h' v call.ix) :
      RegistryStep rt clock r call none (afterPayout clock r p h' bump)
  | addGuardian {signers : List Pubkey} {ixSysvar : InstructionsSysvar Pubkey}
      {a : AddGuardian Pubkey} {h : BridgeHandler Pubkey} {g : GuardianInfo Pubkey}
      (managed : ManagedGuardians rt r signers a.manager a.bridgeHandler a.guardianInfo h g)
      (absent : a.guardian ∉ g.guardians)
      (fits : g.guardians.length < maxGuardianCount) :
      RegistryStep rt clock r ⟨signers, ixSysvar, .addGuardian a⟩ none
        (update r a.guardianInfo
          (some (.guardianInfo { g with guardians := g.guardians ++ [a.guardian] })))
  | removeGuardian {signers : List Pubkey} {ixSysvar : InstructionsSysvar Pubkey}
      {a : RemoveGuardian Pubkey} {h : BridgeHandler Pubkey} {g : GuardianInfo Pubkey}
      (managed : ManagedGuardians rt r signers a.manager a.bridgeHandler a.guardianInfo h g)
      (present : a.guardian ∈ g.guardians)
      (enough : h.guardianThreshold.toNat ≤
        (g.guardians.filter (· ≠ a.guardian)).length) :
      RegistryStep rt clock r ⟨signers, ixSysvar, .removeGuardian a⟩ none
        (update r a.guardianInfo
          (some (.guardianInfo { g with guardians := g.guardians.filter (· ≠ a.guardian) })))
  | updateGuardianThreshold {signers : List Pubkey} {ixSysvar : InstructionsSysvar Pubkey}
      {a : UpdateGuardianThreshold Pubkey} {guardianThreshold : UInt8}
      {h : BridgeHandler Pubkey} {g : GuardianInfo Pubkey}
      (managed : ManagedGuardians rt r signers a.manager a.bridgeHandler a.guardianInfo h g)
      (range : 0 < guardianThreshold ∧ guardianThreshold ≤ UInt8.ofNat maxGuardianCount)
      (majority : UInt8.ofNat g.guardians.length / 2 + 1 ≤ guardianThreshold)
      (attainable : guardianThreshold.toNat ≤ g.guardians.length) :
      RegistryStep rt clock r ⟨signers, ixSysvar, .updateGuardianThreshold a guardianThreshold⟩
        none (update r a.bridgeHandler (some (.bridgeHandler { h with guardianThreshold })))
  | verifySignature {signers : List Pubkey} {ixSysvar : InstructionsSysvar Pubkey}
      {a : VerifySignature Pubkey} {msgHash : Hash} {signerIndexes : List UInt8}
      {h : BridgeHandler Pubkey} {g : GuardianInfo Pubkey} {v : VerifiedSignatures}
      {bump : UInt8} {guardianSigners : List Pubkey}
      (signed : a.operator ∈ signers)
      (handler : HandlerAt rt r a.bridgeHandler h)
      (guardians : GuardiansAt rt r a.bridgeHandler a.guardianInfo g)
      (address : rt.findProgramAddress (.verifiedSignatures a.bridgeHandler msgHash) =
        (a.verifiedSignatures, bump))
      (found : StoredOrNew r a.verifiedSignatures (.verifiedSignatures v)
        (.verifiedSignatures { bump := 0, pubkeyIndex := [], createdAt := 0 }))
      (selected : selectSigners g.guardians v.pubkeyIndex signerIndexes =
        .ok guardianSigners)
      (verified : verifyEd25519Ix rt ixSysvar guardianSigners (rt.hashBytes msgHash) =
        .ok ()) :
      RegistryStep rt clock r ⟨signers, ixSysvar, .verifySignature a msgHash signerIndexes⟩
        none (update r a.verifiedSignatures
          (some (.verifiedSignatures { bump := bump
                                       pubkeyIndex := v.pubkeyIndex ++ signerIndexes
                                       createdAt := clock.unixTimestamp })))

variable {rt : Runtime Pubkey Hash} {clock : Clock} {r r' : Registry Pubkey Hash}
  {call : Call Pubkey Hash} {returned : Option UInt64}

theorem managerUpdate_ne_payout {ix : Instruction Pubkey Hash} {p : PayoutCall Pubkey Hash}
    (kind : payout? ix = some p) : managerUpdate? ix = none := by
  cases ix with
  | bridgeAssetTargetChain | bridgeAssetTargetChainSol => rfl
  | _ => simp [payout?] at kind

omit [DecidableEq Pubkey] in
theorem tokenPause_ne_payout {ix : Instruction Pubkey Hash} {p : PayoutCall Pubkey Hash}
    (kind : payout? ix = some p) : tokenPause? ix = none := by
  cases ix with
  | bridgeAssetTargetChain | bridgeAssetTargetChainSol => rfl
  | _ => simp [payout?] at kind

theorem RegistryStep.of_payout (step : RegistryStep rt clock r call returned r')
    {p : PayoutCall Pubkey Hash} (kind : payout? call.ix = some p) :
    ∃ h h' g v bump, Payout rt r call.signers p h g v bump ∧
      PayoutTerms rt clock r h h' v call.ix ∧ r' = afterPayout clock r p h' bump := by
  cases step with
  | @payout call p' h h' g v bump kind' payout terms =>
      obtain rfl := Option.some.inj (kind.symm.trans kind')
      exact ⟨h, h', g, v, bump, payout, terms, rfl⟩
  | managed kind' => simp [managerUpdate_ne_payout kind] at kind'
  | tokenPause kind' => simp [tokenPause_ne_payout kind] at kind'
  | _ => simp [payout?] at kind

theorem RegistryStep.of_verifySignature (step : RegistryStep rt clock r call returned r')
    {a : VerifySignature Pubkey} {msgHash : Hash} {signerIndexes : List UInt8}
    (ix : call.ix = .verifySignature a msgHash signerIndexes) :
    ∃ h g v bump guardianSigners,
      HandlerAt rt r a.bridgeHandler h ∧ GuardiansAt rt r a.bridgeHandler a.guardianInfo g ∧
      rt.findProgramAddress (.verifiedSignatures a.bridgeHandler msgHash) =
        (a.verifiedSignatures, bump) ∧
      StoredOrNew r a.verifiedSignatures (.verifiedSignatures v)
        (.verifiedSignatures { bump := 0, pubkeyIndex := [], createdAt := 0 }) ∧
      selectSigners g.guardians v.pubkeyIndex signerIndexes = .ok guardianSigners ∧
      verifyEd25519Ix rt call.ixSysvar guardianSigners (rt.hashBytes msgHash) = .ok () ∧
      r' = update r a.verifiedSignatures (some (.verifiedSignatures
        { bump := bump
          pubkeyIndex := v.pubkeyIndex ++ signerIndexes
          createdAt := clock.unixTimestamp })) := by
  cases step with
  | @verifySignature signers ixSysvar a' msgHash' signerIndexes' h g v bump guardianSigners
      signed handler guardians address found selected verified =>
      obtain ⟨rfl, rfl, rfl⟩ := by simpa using ix
      exact ⟨h, g, v, bump, guardianSigners, handler, guardians, address, found, selected,
        verified, rfl⟩
  | managed kind => simp [managerUpdate?, ix] at kind
  | tokenPause kind => simp [tokenPause?, ix] at kind
  | payout kind => simp [payout?, ix] at kind
  | _ => cases ix

theorem RegistryStep.of_addGuardian (step : RegistryStep rt clock r call returned r')
    {a : AddGuardian Pubkey} (ix : call.ix = .addGuardian a) :
    ∃ h g, ManagedGuardians rt r call.signers a.manager a.bridgeHandler a.guardianInfo h g ∧
      r' = update r a.guardianInfo
        (some (.guardianInfo { g with guardians := g.guardians ++ [a.guardian] })) := by
  cases step with
  | @addGuardian signers ixSysvar a' h g managed absent fits =>
      obtain rfl := Instruction.addGuardian.inj ix
      exact ⟨h, g, managed, rfl⟩
  | managed kind => simp [managerUpdate?, ix] at kind
  | tokenPause kind => simp [tokenPause?, ix] at kind
  | payout kind => simp [payout?, ix] at kind
  | _ => cases ix

omit [DecidableEq Pubkey] in
/-- What `update_guardian_threshold` checks of a new threshold. -/
structure ThresholdChecked (g : GuardianInfo Pubkey) (guardianThreshold : UInt8) : Prop where
  range : 0 < guardianThreshold ∧ guardianThreshold ≤ UInt8.ofNat maxGuardianCount
  majority : UInt8.ofNat g.guardians.length / 2 + 1 ≤ guardianThreshold
  attainable : guardianThreshold.toNat ≤ g.guardians.length

theorem RegistryStep.of_updateGuardianThreshold
    (step : RegistryStep rt clock r call returned r') {u : UpdateGuardianThreshold Pubkey}
    {n : UInt8} (ix : call.ix = .updateGuardianThreshold u n) :
    ∃ h g, ManagedGuardians rt r call.signers u.manager u.bridgeHandler u.guardianInfo h g ∧
      ThresholdChecked g n ∧
      r' = update r u.bridgeHandler
        (some (.bridgeHandler { h with guardianThreshold := n })) := by
  cases step with
  | @updateGuardianThreshold signers ixSysvar u' n' h g managed range majority attainable =>
      obtain ⟨rfl, rfl⟩ := Instruction.updateGuardianThreshold.inj ix
      exact ⟨h, g, managed, ⟨range, majority, attainable⟩, rfl⟩
  | managed kind => simp [managerUpdate?, ix] at kind
  | tokenPause kind => simp [tokenPause?, ix] at kind
  | payout kind => simp [payout?, ix] at kind
  | _ => cases ix

end BridgeProgram.RegistryModel
