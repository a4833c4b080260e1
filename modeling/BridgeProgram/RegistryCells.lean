import BridgeProgram.RegistryModel

namespace BridgeProgram.RegistryCells

open BridgeProgram.BridgeProgramEntry
open BridgeProgram.HandlerInstructions
open BridgeProgram.ProgramStates
open BridgeProgram.RegistryModel
open BridgeProgram.SignatureInstructions
open BridgeProgram.SolanaRuntime
open BridgeProgram.SourceInstructions
open BridgeProgram.TargetInstructions
open BridgeProgram.TokenInstructions
open Function (update)

variable {Pubkey Hash : Type} [DecidableEq Pubkey]

omit [DecidableEq Pubkey] in
/-- The handler of a source call. -/
def sourceHandler? : Instruction Pubkey Hash → Option Pubkey
  | .bridgeAssetSourceChain a .. => some a.bridgeHandler
  | .bridgeAssetSourceChainSol a .. => some a.bridgeHandler
  | _ => none

/-- How a call changes the handler at `a`. -/
inductive HandlerChange (rt : Runtime Pubkey Hash) (r : Registry Pubkey Hash)
    (call : Call Pubkey Hash) (returned : Option UInt64) (a : Pubkey) :
    BridgeHandler Pubkey → BridgeHandler Pubkey → Prop
  | managed {f : BridgeHandler Pubkey → Except ProgramError (BridgeHandler Pubkey)}
      {h h' : BridgeHandler Pubkey}
      (kind : managerUpdate? call.ix = some (h.manager, a, f))
      (signed : h.manager ∈ call.signers) (updated : f h = .ok h') :
      HandlerChange rt r call returned a h h'
  | numbered {h : BridgeHandler Pubkey} (kind : sourceHandler? call.ix = some a)
      (nonce : returned = some h.nonce) (room : h.nonce.toNat + 1 < 2 ^ 64) :
      HandlerChange rt r call returned a h { h with nonce := h.nonce + 1 }
  | charged {p : PayoutCall Pubkey Hash} {h h' : BridgeHandler Pubkey}
      (kind : payout? call.ix = some p) (handler : p.bridgeHandler = a)
      (same : SameButCap h h') :
      HandlerChange rt r call returned a h h'
  | threshold {u : UpdateGuardianThreshold Pubkey} {guardianThreshold : UInt8}
      {h : BridgeHandler Pubkey} {g : GuardianInfo Pubkey}
      (ix : call.ix = .updateGuardianThreshold u guardianThreshold)
      (handler : u.bridgeHandler = a)
      (managed : ManagedGuardians rt r call.signers u.manager a u.guardianInfo h g)
      (range : 0 < guardianThreshold ∧ guardianThreshold ≤ UInt8.ofNat maxGuardianCount)
      (majority : UInt8.ofNat g.guardians.length / 2 + 1 ≤ guardianThreshold)
      (attainable : guardianThreshold.toNat ≤ g.guardians.length) :
      HandlerChange rt r call returned a h { h with guardianThreshold }

/-- How a call changes the guardian list at `a`. -/
inductive GuardiansChange (rt : Runtime Pubkey Hash) (r : Registry Pubkey Hash)
    (call : Call Pubkey Hash) (a : Pubkey) :
    GuardianInfo Pubkey → GuardianInfo Pubkey → Prop
  | added {x : AddGuardian Pubkey} {h : BridgeHandler Pubkey} {g : GuardianInfo Pubkey}
      (ix : call.ix = .addGuardian x) (account : x.guardianInfo = a)
      (managed : ManagedGuardians rt r call.signers x.manager x.bridgeHandler a h g)
      (absent : x.guardian ∉ g.guardians)
      (fits : g.guardians.length < maxGuardianCount) :
      GuardiansChange rt r call a g { g with guardians := g.guardians ++ [x.guardian] }
  | removed {x : RemoveGuardian Pubkey} {h : BridgeHandler Pubkey} {g : GuardianInfo Pubkey}
      (ix : call.ix = .removeGuardian x) (account : x.guardianInfo = a)
      (managed : ManagedGuardians rt r call.signers x.manager x.bridgeHandler a h g)
      (present : x.guardian ∈ g.guardians)
      (enough : h.guardianThreshold.toNat ≤
        (g.guardians.filter (· ≠ x.guardian)).length) :
      GuardiansChange rt r call a g
        { g with guardians := g.guardians.filter (· ≠ x.guardian) }

/-- What a call writes to the account at `a`, given the old and the new contents. -/
inductive CellWrite (rt : Runtime Pubkey Hash) (clock : Clock) (r : Registry Pubkey Hash)
    (call : Call Pubkey Hash) (returned : Option UInt64) (a : Pubkey) :
    Option (ProgramData Pubkey Hash) → Option (ProgramData Pubkey Hash) → Prop
  | handlerCreated {i : Initialize Pubkey} {initNonce : UInt64} {n bump : UInt8}
      {chain : Chain}
      (ix : call.ix = .initializeHandler i initNonce n) (signed : i.signer ∈ call.signers)
      (account : i.bridgeHandler = a)
      (address : rt.findProgramAddress (.bridgeHandler initNonce) = (a, bump)) :
      CellWrite rt clock r call returned a none
        (some (.bridgeHandler (initialHandler i bump initNonce chain clock)))
  | guardiansCreated {i : Initialize Pubkey} {initNonce : UInt64} {n bump : UInt8}
      (ix : call.ix = .initializeHandler i initNonce n)
      (address : rt.findProgramAddress (.guardianInfo i.bridgeHandler) = (a, bump))
      (fresh : r i.bridgeHandler = none) :
      CellWrite rt clock r call returned a none
        (some (.guardianInfo { bump := bump, guardians := [] }))
  | handlerChanged {h h' : BridgeHandler Pubkey} (handler : HandlerAt rt r a h)
      (change : HandlerChange rt r call returned a h h') :
      CellWrite rt clock r call returned a (some (.bridgeHandler h))
        (some (.bridgeHandler h'))
  | guardiansChanged {g g' : GuardianInfo Pubkey} (change : GuardiansChange rt r call a g g') :
      CellWrite rt clock r call returned a (some (.guardianInfo g)) (some (.guardianInfo g'))
  | tokenRegistered {bridgeHandler mint counterpart : Pubkey} {h : BridgeHandler Pubkey}
      {t : TokenInfo Pubkey} {bump : UInt8} {old : Option (ProgramData Pubkey Hash)}
      (handler : HandlerAt rt r bridgeHandler h)
      (address : rt.findProgramAddress (.tokenInfo bridgeHandler mint) = (a, bump))
      (unregistered : old = none ∨ ∃ t₀, old = some (.tokenInfo t₀) ∧
        t₀.isSolanaNativeToken = false ∧ t₀.isSolayerNativeToken = false)
      (stored : t = addedTokenInfo h.chain bump mint counterpart ∨
        t = registeredTokenInfo h.chain bump mint counterpart) :
      CellWrite rt clock r call returned a old (some (.tokenInfo t))
  | sourceProofCreated {signer bridgeHandler : Pubkey} {nonce : UInt64} {bump : UInt8}
      {proof : BridgeProofSourceChain Pubkey Hash}
      (kind : sourceHandler? call.ix = some bridgeHandler)
      (address : rt.findProgramAddress (.bridgeProofSource bridgeHandler signer nonce) =
        (a, bump)) :
      CellWrite rt clock r call returned a none (some (.bridgeProofSourceChain proof))
  | proofCreated {p : PayoutCall Pubkey Hash} {bump : UInt8}
      (kind : payout? call.ix = some p) (account : p.bridgeProof = a)
      (address : rt.findProgramAddress (.bridgeProofTarget p.bridgeHandler
        (rt.hash p.sourceTxId.toList)) = (a, bump)) :
      CellWrite rt clock r call returned a none (some (.bridgeProof
        (payoutProof clock bump p.msgHash p.sourceTxId p.recipient)))
  | approvalsClosed {p : PayoutCall Pubkey Hash} {v : VerifiedSignatures}
      (kind : payout? call.ix = some p) (account : p.verifiedSignatures = a)
      (approvals : ApprovalsAt rt r p.bridgeHandler p.msgHash a v) :
      CellWrite rt clock r call returned a (some (.verifiedSignatures v)) none
  | approvalsAdded {x : VerifySignature Pubkey} {msgHash : Hash} {signerIndexes : List UInt8}
      {g : GuardianInfo Pubkey} {v : VerifiedSignatures} {bump : UInt8}
      {guardianSigners : List Pubkey} {old : Option (ProgramData Pubkey Hash)}
      (ix : call.ix = .verifySignature x msgHash signerIndexes)
      (account : x.verifiedSignatures = a)
      (guardians : GuardiansAt rt r x.bridgeHandler x.guardianInfo g)
      (address : rt.findProgramAddress (.verifiedSignatures x.bridgeHandler msgHash) =
        (a, bump))
      (found : old = some (.verifiedSignatures v) ∨ old = none ∧ v.pubkeyIndex = [])
      (selected : selectSigners g.guardians v.pubkeyIndex signerIndexes =
        .ok guardianSigners) :
      CellWrite rt clock r call returned a old (some (.verifiedSignatures
        { bump := bump
          pubkeyIndex := v.pubkeyIndex ++ signerIndexes
          createdAt := clock.unixTimestamp }))

variable {rt : Runtime Pubkey Hash} {clock : Clock} {r r' : Registry Pubkey Hash}
  {call : Call Pubkey Hash} {returned : Option UInt64}

theorem cell_update {a k : Pubkey} {d : Option (ProgramData Pubkey Hash)}
    (others : r' a = r a ∨ CellWrite rt clock r call returned a (r a) (r' a))
    (written : d = r k ∨ CellWrite rt clock r call returned k (r k) d) :
    Function.update r' k d a = r a ∨
      CellWrite rt clock r call returned a (r a) (Function.update r' k d a) := by
  by_cases h : a = k
  · subst h
    rw [Function.update_self]
    exact written
  · rw [Function.update_of_ne h]
    exact others

theorem cell (step : RegistryStep rt clock r call returned r') (a : Pubkey) :
    r' a = r a ∨ CellWrite rt clock r call returned a (r a) (r' a) := by
  cases step with
  | @initializeHandler signers ixSysvar i initNonce n chain handlerBump guardianBump signed
      handlerAddress guardianAddress handlerFresh guardiansFresh distinct chain_eq =>
      refine cell_update (cell_update (.inl rfl) (.inr ?_)) (.inr ?_)
      · rw [handlerFresh]
        exact .handlerCreated rfl signed rfl handlerAddress
      · rw [guardiansFresh]
        exact .guardiansCreated rfl guardianAddress handlerFresh
  | @managed call manager bridgeHandler f h h' kind signed handler manager_eq updated =>
      subst manager_eq
      refine cell_update (.inl rfl) (.inr ?_)
      rw [handler.stored]
      exact .handlerChanged handler (.managed kind signed updated)
  | @addToken signers ixSysvar x decimal name symbol uri h t bump signed handler operator_eq
      mintAddress tokenAddress found unregistered =>
      refine cell_update (.inl rfl) (.inr (.tokenRegistered handler tokenAddress ?_ (.inl rfl)))
      rcases found with hstored | ⟨hnone, -⟩
      · exact .inr ⟨t, hstored, unregistered⟩
      · exact .inl hnone
  | addTokenAgain => exact .inl rfl
  | tokenPause => exact .inl rfl
  | @bridgeAssetSourceChain signers ixSysvar x bridgeProofNonce amount recipient targetMint gas
      h t t' proofBump tokenBump request tokenAddress distinct found token =>
      refine cell_update (cell_update (cell_update (.inl rfl) (.inr ?_)) (.inr ?_)) ?_
      · rw [request.handler.stored]
        exact .handlerChanged request.handler (.numbered rfl rfl request.room)
      · rw [request.proofFresh]
        exact .sourceProofCreated rfl request.proofAddress
      rcases token with ⟨hsolana, hsolayer, hnew⟩ | ⟨hregistered, -, rfl⟩
      · refine .inr (.tokenRegistered request.handler tokenAddress ?_ (.inr hnew))
        rcases found with hstored | ⟨hnone, -⟩
        · exact .inr ⟨t, hstored, hsolana, hsolayer⟩
        · exact .inl hnone
      · rcases found with hstored | ⟨-, hfresh⟩
        · exact .inl hstored.symm
        · cases hfresh
          simp [zeroTokenInfo] at hregistered
  | @bridgeAssetSourceChainSol signers ixSysvar x bridgeProofNonce amount recipient h proofBump
      request =>
      refine cell_update (cell_update (.inl rfl) (.inr ?_)) (.inr ?_)
      · rw [request.handler.stored]
        exact .handlerChanged request.handler (.numbered rfl rfl request.room)
      · rw [request.proofFresh]
        exact .sourceProofCreated rfl request.proofAddress
  | @payout call p h h' g v bump kind payout terms =>
      refine cell_update (cell_update (cell_update (.inl rfl) (.inr ?_)) (.inr ?_)) (.inr ?_)
      · rw [payout.handler.stored]
        exact .handlerChanged payout.handler (.charged kind rfl terms.sameButCap)
      · rw [payout.proofFresh]
        exact .proofCreated kind rfl payout.proofAddress
      · rw [payout.approvals.stored]
        exact .approvalsClosed kind rfl payout.approvals
  | @addGuardian signers ixSysvar x h g managed absent fits =>
      refine cell_update (.inl rfl) (.inr ?_)
      rw [managed.guardians.stored]
      exact .guardiansChanged (.added rfl rfl managed absent fits)
  | @removeGuardian signers ixSysvar x h g managed present enough =>
      refine cell_update (.inl rfl) (.inr ?_)
      rw [managed.guardians.stored]
      exact .guardiansChanged (.removed rfl rfl managed present enough)
  | @updateGuardianThreshold signers ixSysvar u guardianThreshold h g managed range majority
      attainable =>
      refine cell_update (.inl rfl) (.inr ?_)
      rw [managed.handler.stored]
      exact .handlerChanged managed.handler
        (.threshold rfl rfl managed range majority attainable)
  | @verifySignature signers ixSysvar x msgHash signerIndexes h g v bump guardianSigners signed
      handler guardians address found selected verified =>
      refine cell_update (.inl rfl)
        (.inr (.approvalsAdded rfl rfl guardians address ?_ selected))
      rcases found with hstored | ⟨hnone, hfresh⟩
      · exact .inl hstored
      · cases hfresh
        exact .inr ⟨hnone, rfl⟩

omit [DecidableEq Pubkey] in
/-- The accounts of the program that an instruction may write. -/
def writtenAccounts : Instruction Pubkey Hash → List Pubkey
  | .initializeHandler a .. => [a.bridgeHandler, a.guardianInfo]
  | .addToken a .. => [a.tokenInfo]
  | .pauseToken _ => []
  | .unpauseToken _ => []
  | .pauseBridge a => [a.bridgeHandler]
  | .unpauseBridge a => [a.bridgeHandler]
  | .bridgeAssetSourceChain a .. => [a.bridgeHandler, a.bridgeProof, a.tokenInfo]
  | .bridgeAssetSourceChainSol a .. => [a.bridgeHandler, a.bridgeProof]
  | .bridgeAssetTargetChain a .. => [a.bridgeHandler, a.bridgeProof, a.verifiedSignatures]
  | .bridgeAssetTargetChainSol a .. => [a.bridgeHandler, a.bridgeProof, a.verifiedSignatures]
  | .addGuardian a => [a.guardianInfo]
  | .removeGuardian a => [a.guardianInfo]
  | .updateGuardianThreshold a _ => [a.bridgeHandler]
  | .verifySignature a .. => [a.verifiedSignatures]
  | .updateFeeVault a => [a.bridgeHandler]
  | .updateFeeInfo a _ => [a.bridgeHandler]
  | .updateInstantBridgeCap a _ => [a.bridgeHandler]
  | .updateOperator a => [a.bridgeHandler]
  | .updateManager a => [a.bridgeHandler]

theorem managerUpdate_accounts {ix : Instruction Pubkey Hash} {manager bridgeHandler : Pubkey}
    {f : BridgeHandler Pubkey → Except ProgramError (BridgeHandler Pubkey)}
    (kind : managerUpdate? ix = some (manager, bridgeHandler, f)) :
    bridgeHandler ∈ writtenAccounts ix := by
  cases ix with
  | pauseBridge | unpauseBridge | updateFeeVault | updateFeeInfo | updateInstantBridgeCap
  | updateOperator | updateManager =>
      obtain ⟨-, rfl, -⟩ := by simpa [managerUpdate?] using kind
      exact List.mem_singleton_self _
  | _ => simp [managerUpdate?] at kind

omit [DecidableEq Pubkey] in
theorem payout_accounts {ix : Instruction Pubkey Hash} {p : PayoutCall Pubkey Hash}
    (kind : payout? ix = some p) :
    writtenAccounts ix = [p.bridgeHandler, p.bridgeProof, p.verifiedSignatures] := by
  cases ix with
  | bridgeAssetTargetChain | bridgeAssetTargetChainSol =>
      obtain rfl := Option.some.inj kind
      rfl
  | _ => simp [payout?] at kind

theorem frame (step : RegistryStep rt clock r call returned r') {a : Pubkey}
    (h : a ∉ writtenAccounts call.ix) : r' a = r a := by
  cases step with
  | managed kind =>
      have hne := ne_of_mem_of_not_mem (managerUpdate_accounts kind) h
      exact Function.update_of_ne hne.symm _ _
  | addTokenAgain => rfl
  | tokenPause => rfl
  | payout kind =>
      rw [payout_accounts kind] at h
      simp only [List.mem_cons, List.not_mem_nil, or_false, not_or] at h
      obtain ⟨hh, hp, hv⟩ := h
      rw [afterPayout, Function.update_of_ne hv, Function.update_of_ne hp,
        Function.update_of_ne hh]
  | _ =>
      simp only [writtenAccounts, List.mem_cons, List.not_mem_nil, or_false, not_or] at h
      simp only [Function.update_apply, h, if_false]

end BridgeProgram.RegistryCells
