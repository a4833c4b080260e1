import BridgeProgram.SourceProofs
import BridgeProgram.TokenEffects

namespace BridgeProgram.LockedAmounts

open BridgeProgram.BalanceEffects
open BridgeProgram.BridgeProgramEntry
open BridgeProgram.MessageFormats
open BridgeProgram.ProgramStates
open BridgeProgram.RegistryModel
open BridgeProgram.RegistryRefinement
open BridgeProgram.SolanaRuntime
open BridgeProgram.SourceInstructions
open BridgeProgram.SourceProofs
open BridgeProgram.SourceSteps
open BridgeProgram.SymbolicRuntime
open BridgeProgram.TokenEffects
open BridgeProgram.TokenInstructions
open BridgeProgram.TransitionRuns

variable {Pubkey Hash : Type} {rt : Runtime Pubkey Hash}

/-- The hash of the proof is that of a request for the amount. -/
def CommitsTo (rt : Runtime Pubkey Hash) (proof : BridgeProofSourceChain Pubkey Hash)
    (amount : UInt64) : Prop :=
  ∃ signer recipient mint bridgeProofNonce, proof.msgHash =
    rt.hash (issueBridgeProofMessageData signer recipient mint amount bridgeProofNonce)

theorem commitsTo_unique (injective : Function.Injective rt.hash)
    {proof : BridgeProofSourceChain Pubkey Hash} {amount amount' : UInt64}
    (commits : CommitsTo rt proof amount) (commits' : CommitsTo rt proof amount') :
    amount = amount' := by
  obtain ⟨signer, recipient, mint, nonce, hhash⟩ := commits
  obtain ⟨signer', recipient', mint', nonce', hhash'⟩ := commits'
  exact (fields_of_messageData (injective (hhash.symm.trans hhash'))).2.2.2.1

variable [DecidableEq Pubkey] {s s' : State Pubkey Hash} {call : Call Pubkey Hash}
  {returned : Option UInt64} {x : BridgeAssetSourceChain Pubkey} {amount : UInt64}

omit [DecidableEq Pubkey] in
theorem storedOrNew_unique {r : Registry Pubkey Hash} {a : Pubkey}
    {d d' fresh : ProgramData Pubkey Hash} (found : StoredOrNew r a d fresh)
    (found' : StoredOrNew r a d' fresh) : d = d' := by
  rcases found with hstored | ⟨hnone, rfl⟩ <;> rcases found' with hstored' | ⟨hnone', rfl⟩
  · exact Option.some.inj (hstored.symm.trans hstored')
  · rw [hnone'] at hstored
    cases hstored
  · rw [hnone] at hstored'
    cases hstored'
  · rfl

theorem tokenInfo_after_source {clock : Clock} {r r' : Registry Pubkey Hash}
    (step : RegistryStep rt clock r call returned r')
    (token : tokenRequest? call.ix = some (x, amount)) :
    ∃ t t', StoredOrNew r x.tokenInfo (.tokenInfo t) (.tokenInfo (zeroTokenInfo rt)) ∧
      r' x.tokenInfo = some (.tokenInfo t') ∧ (isUnregistered t = true ∨ t' = t) := by
  obtain ⟨signers, ixSysvar, ix⟩ := call
  cases ix with
  | bridgeAssetSourceChain =>
      obtain ⟨rfl, -⟩ := Prod.mk.inj (Option.some.inj token)
      cases step with
      | @bridgeAssetSourceChain _ _ _ _ _ _ _ _ _ t t' _ _ _ _ _ found written =>
          refine ⟨t, t', found, Function.update_self .., ?_⟩
          rcases written with ⟨hsolana, hsolayer, -⟩ | ⟨-, -, rfl⟩
          · exact .inl (by simp [isUnregistered, hsolana, hsolayer])
          · exact .inr rfl
      | managed kind => simp [managerUpdate?] at kind
      | tokenPause kind => simp [tokenPause?] at kind
      | payout kind => simp [payout?] at kind
  | _ => simp [tokenRequest?] at token

omit [DecidableEq Pubkey] in
theorem source_of_tokenRequest (token : tokenRequest? call.ix = some (x, amount)) :
    source? call.ix = some ⟨x.signer, x.bridgeHandler, x.bridgeProof, x.feeVault⟩ := by
  cases hix : call.ix with
  | bridgeAssetSourceChain =>
      rw [hix] at token
      obtain ⟨rfl, -⟩ := Prod.mk.inj (Option.some.inj token)
      rfl
  | _ => simp [hix, tokenRequest?] at token

variable [DecidableEq Hash]

/-- The vault receives the amount without the fee of the mint, at the first call for
the mint and at each later one. -/
theorem vault_of_native (token : tokenRequest? call.ix = some (x, amount))
    (executed : execute rt s call = .ok (s', returned)) {h : BridgeHandler Pubkey}
    (handler : HandlerAt rt s.programData x.bridgeHandler h) {t : TokenInfo Pubkey}
    (info : s'.programData x.tokenInfo = some (.tokenInfo t))
    (native : isNativeOn h.chain t = true) :
    amounts s' x.bridgeHandlerVault = amounts s x.bridgeHandlerVault +
      (amount.toNat - rt.transferFee x.mint amount.toNat) := by
  obtain ⟨h', t₀, effect⟩ := SourceSteps.source_effect (source_of_tokenRequest token) executed
  obtain rfl : h' = h := effect.handler.unique handler
  obtain ⟨t₁, t₂, found, hstored, hwritten⟩ :=
    tokenInfo_after_source (execute_refines executed).1 token
  obtain rfl : t₂ = t := by simpa using hstored.symm.trans info
  obtain rfl := ProgramData.tokenInfo.inj
    (storedOrNew_unique found (effect.tokens x amount token).found)
  refine vault_of_source effect token ?_
  rcases hwritten with hunregistered | rfl
  · exact .inl hunregistered
  · exact .inr native

theorem exists_commitment (token : tokenRequest? call.ix = some (x, amount))
    (executed : execute rt s call = .ok (s', returned)) :
    ∃ proof, s'.programData x.bridgeProof = some (.bridgeProofSourceChain proof) ∧
      CommitsTo rt proof amount := by
  cases hix : call.ix with
  | bridgeAssetSourceChain x' nonce amount' recipient targetMint gas =>
      rw [hix] at token
      obtain ⟨rfl, rfl⟩ := Prod.mk.inj (Option.some.inj token)
      obtain ⟨-, bump, -, -, hproof⟩ := SourceProofs.source_effect (by rw [hix]; rfl) executed
      exact ⟨_, hproof, _, _, _, _, rfl⟩
  | _ => simp [hix, tokenRequest?] at token

/-- The vault grows by what the proof commits to exactly when the transfer of the
amount is free of a fee, or the amount is 0. -/
theorem proved_is_locked_iff (injective : Function.Injective rt.hash)
    (token : tokenRequest? call.ix = some (x, amount))
    (executed : execute rt s call = .ok (s', returned)) {h : BridgeHandler Pubkey}
    (handler : HandlerAt rt s.programData x.bridgeHandler h) {t : TokenInfo Pubkey}
    (info : s'.programData x.tokenInfo = some (.tokenInfo t))
    (native : isNativeOn h.chain t = true) :
    ∃ proof, s'.programData x.bridgeProof = some (.bridgeProofSourceChain proof) ∧
      CommitsTo rt proof amount ∧
      ∀ committed, CommitsTo rt proof committed →
        (amounts s' x.bridgeHandlerVault = amounts s x.bridgeHandlerVault + committed.toNat ↔
          amount = 0 ∨ rt.transferFee x.mint amount.toNat = 0) := by
  obtain ⟨proof, hproof, hcommits⟩ := exists_commitment token executed
  refine ⟨proof, hproof, hcommits, fun committed hcommits' => ?_⟩
  obtain rfl := commitsTo_unique injective hcommits hcommits'
  rw [vault_of_native token executed handler info native, Nat.add_left_cancel_iff,
    ← UInt64.toNat_inj, UInt64.toNat_zero]
  omega

/-- A ledger with a mint that the program has not created, and tokens of key 5. -/
def mintedLedger : State Key Digest :=
  (sampleLedger.setData (.atom 40)
      (.mint (.atom 1005) { supply := 5000, decimals := 6, mintAuthority := none })).setData
    ((symbolicRuntime false).associatedTokenAddress (.atom 5) (.atom 40) (.atom 1005))
    (.tokenAccount (.atom 1005) { mint := .atom 40, owner := .atom 5, amount := 5000 })

/-- Key 5 bridges 1000 tokens of this mint. -/
def lockTokens : Call Key Digest :=
  callBy (.atom 5) (.bridgeAssetSourceChain
    { signer := .atom 5, mint := .atom 40
      signerVault :=
        (symbolicRuntime false).associatedTokenAddress (.atom 5) (.atom 40) (.atom 1005)
      bridgeHandler := handlerKey 7
      bridgeHandlerVault :=
        (symbolicRuntime false).associatedTokenAddress (handlerKey 7) (.atom 40) (.atom 1005)
      bridgeProof := sourceProofKey (handlerKey 7) (.atom 5) 0
      tokenInfo := tokenInfoKey (handlerKey 7) (.atom 40)
      feeVault := .atom 5, tokenProgram := .atom 1005 } 0 1000 (.atom 20) (.atom 30) 0)

/-- The same runtime with a fee of one percent on transfers of this mint. -/
def feeRuntime : Runtime Key Digest :=
  { symbolicRuntime false with
    transferFee := fun mint amount => if mint = .atom 40 then amount / 100 else 0 }

theorem genesis_mintedLedger : Genesis mintedLedger := by
  intro a
  simp only [mintedLedger, State.programData, setData_data, Function.update_apply]
  split_ifs <;> rfl

def handlerSetup : List (Call Key Digest) :=
  [initializeBy (.atom 5) 7 1 (.atom 5) (.atom 6)]

/-- The info of the mint after the call. -/
def checkNative (s : State Key Digest) (a : Key) : Bool :=
  match s.programData a with
  | some (.tokenInfo t) => isNativeOn .solana t
  | _ => false

theorem exists_native {s : State Key Digest} {a : Key} (h : checkNative s a = true) :
    ∃ t, s.programData a = some (.tokenInfo t) ∧ isNativeOn .solana t = true := by
  unfold checkNative at h
  split at h
  next t hstored => exact ⟨t, hstored, h⟩
  next => cases h

theorem proved_is_locked_sample :
    let rt := symbolicRuntime false
    let s := stateAfter rt mintedLedger handlerSetup
    ∃ s' returned, execute rt s lockTokens = .ok (s', returned) ∧
      amounts s' (rt.associatedTokenAddress (handlerKey 7) (.atom 40) (.atom 1005)) =
        amounts s (rt.associatedTokenAddress (handlerKey 7) (.atom 40) (.atom 1005)) + 1000 := by
  intro rt s
  obtain ⟨returned, hstep⟩ := exists_step_of_executeAll rt s lockTokens (by decide +kernel)
  obtain ⟨h, handler, hchain⟩ := exists_handlerAt false s (handlerKey 7)
    (fun h => h.chain = .solana) (by decide +kernel)
  obtain ⟨t, info, native⟩ := exists_native (s := stateAfter rt s [lockTokens])
    (a := tokenInfoKey (handlerKey 7) (.atom 40)) (by decide +kernel)
  generalize stateAfter rt s [lockTokens] = s' at hstep info
  clear_value s
  cases hstep with
  | call executed =>
      obtain ⟨proof, -, hcommits, hlocked⟩ := proved_is_locked_iff (fun _ _ heq => heq) rfl executed
        handler info (by rw [of_decide_eq_true hchain]; exact native)
      exact ⟨s', returned, executed, (hlocked 1000 hcommits).mpr (.inr rfl)⟩

/-- With a fee of one percent the vault receives 990 of 1000 tokens. -/
theorem fee_not_locked :
    ¬ ∀ s, LedgerReachable feeRuntime s →
      ∀ call x amount s' returned h t, tokenRequest? call.ix = some (x, amount) →
        execute feeRuntime s call = .ok (s', returned) →
        HandlerAt feeRuntime s.programData x.bridgeHandler h →
        s'.programData x.tokenInfo = some (.tokenInfo t) → isNativeOn h.chain t = true →
        ∀ proof committed, s'.programData x.bridgeProof = some (.bridgeProofSourceChain proof) →
          CommitsTo feeRuntime proof committed →
          amounts s' x.bridgeHandlerVault =
            amounts s x.bridgeHandlerVault + committed.toNat := by
  intro locked
  let s := stateAfter feeRuntime mintedLedger handlerSetup
  let vault := feeRuntime.associatedTokenAddress (handlerKey 7) (.atom 40) (.atom 1005)
  have hreachable : LedgerReachable feeRuntime s :=
    ⟨mintedLedger, _, genesis_mintedLedger, run_callTrace (by decide +kernel)⟩
  obtain ⟨returned, hstep⟩ :=
    exists_step_of_executeAll feeRuntime s lockTokens (by decide +kernel)
  obtain ⟨h, handler, hchain⟩ := exists_handlerAt false s (handlerKey 7)
    (fun h => h.chain = .solana) (by decide +kernel)
  obtain ⟨t, info, native⟩ := exists_native (s := stateAfter feeRuntime s [lockTokens])
    (a := tokenInfoKey (handlerKey 7) (.atom 40)) (by decide +kernel)
  have hbefore : amounts s vault = 0 := by decide +kernel
  have hafter : amounts (stateAfter feeRuntime s [lockTokens]) vault = 990 := by decide +kernel
  generalize stateAfter feeRuntime s [lockTokens] = s' at hstep info hafter
  clear_value s
  cases hstep with
  | call executed =>
      obtain ⟨proof, hproof, hcommits⟩ := exists_commitment rfl executed
      have hlocked : amounts s' vault = amounts s vault + 1000 :=
        locked s hreachable lockTokens _ 1000 s' returned h t rfl executed
          ⟨handler.stored, handler.address⟩ info
          (by rw [of_decide_eq_true hchain]; exact native) proof 1000 hproof hcommits
      omega

end BridgeProgram.LockedAmounts
