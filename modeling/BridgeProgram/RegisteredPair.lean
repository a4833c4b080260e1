import BridgeProgram.RegistryRefinement
import BridgeProgram.SymbolicRuntime
import BridgeProgram.TokenRegistry

namespace BridgeProgram.RegisteredPair

open BridgeProgram.BridgeProgramEntry
open BridgeProgram.ByteStrings
open BridgeProgram.MessageFormats
open BridgeProgram.ProgramStates
open BridgeProgram.RegistryModel
open BridgeProgram.RegistryRefinement
open BridgeProgram.SolanaRuntime
open BridgeProgram.SymbolicRuntime
open BridgeProgram.TokenRegistry
open BridgeProgram.TransitionRuns

variable {Pubkey Hash : Type}

/-- A token message with this hash names the source mint. -/
def NamesSourceMint (rt : Runtime Pubkey Hash) (msgHash : Hash)
    (sourceMint : Vector UInt8 32) : Prop :=
  ∃ sender recipient mint receiveAmount nonce sourceTxId additionalSolGas,
    rt.hash (bridgeAssetTargetChainMessageData sender recipient sourceMint mint receiveAmount
      nonce sourceTxId additionalSolGas) = msgHash

theorem sourceMint_of_messageData {sender recipient sourceMint mint sender' recipient'
    sourceMint' mint' : Vector UInt8 32} {receiveAmount nonce gas receiveAmount' nonce'
    gas' : UInt64} {sourceTxId sourceTxId' : Vector UInt8 64}
    (h : bridgeAssetTargetChainMessageData sender recipient sourceMint mint receiveAmount nonce
        sourceTxId gas =
      bridgeAssetTargetChainMessageData sender' recipient' sourceMint' mint' receiveAmount'
        nonce' sourceTxId' gas') : sourceMint = sourceMint' := by
  simp only [bridgeAssetTargetChainMessageData, List.append_assoc] at h
  obtain ⟨-, h⟩ := List.append_inj h (by simp)
  obtain ⟨-, h⟩ := List.append_inj h (by simp)
  obtain ⟨hmint, -⟩ := List.append_inj h (by simp)
  exact Vector.toList_inj.mp hmint

variable [DecidableEq Pubkey] [DecidableEq Hash] {rt : Runtime Pubkey Hash}
  {s s' : State Pubkey Hash} {call : Call Pubkey Hash} {returned : Option UInt64}
  {a : TargetInstructions.BridgeAssetTargetChain Pubkey} {msgHash : Hash}
  {sourceTxId : Vector UInt8 64} {sender sourceMint : Pubkey}
  {receiveAmount nonce gas : UInt64}

/-- A token payout is of a mint that is registered as the own mint of its handler's
chain, under approvals that reach the threshold; its source mint is the recorded
counterpart exactly when the approved message names the counterpart. -/
theorem counterpart_iff_message_names_it (collisionFree : CollisionFree rt)
    (injective : Function.Injective rt.hash) (reachable : LedgerReachable rt s)
    (step : LedgerStep rt s (.call call returned) s')
    (ix : call.ix = .bridgeAssetTargetChain a msgHash sourceTxId sender sourceMint
      receiveAmount nonce gas) :
    ∃ h t v, HandlerAt rt s.programData a.bridgeHandler h ∧
      TokenInfoAt rt s.programData a.bridgeHandler a.mint a.tokenInfo t ∧
      ApprovalsAt rt s.programData a.bridgeHandler msgHash a.verifiedSignatures v ∧
      h.guardianThreshold.toNat ≤ v.pubkeyIndex.length ∧
      ownMint h.chain t = a.mint ∧
      t.isSolayerNativeToken = !t.isSolanaNativeToken ∧
      (rt.pubkeyBytes sourceMint = rt.pubkeyBytes (counterpartMint h.chain t) ↔
        NamesSourceMint rt msgHash (rt.pubkeyBytes (counterpartMint h.chain t))) := by
  have hpays : Pays (BridgeAssetTargetChain.payout a msgHash sourceTxId)
      (.call call returned) := ⟨call, returned, rfl, by rw [ix]; rfl⟩
  obtain ⟨_, _, h, h', g, v, bump, heq, payout, terms, -⟩ := payout_of_pays step hpays
  obtain ⟨rfl, rfl⟩ := Event.call.inj heq
  rw [ix] at terms
  obtain ⟨⟨t, token, -⟩, -, hmessage, -⟩ := terms
  have registered := registeredToken_of_tokenInfoAt collisionFree reachable token
  obtain ⟨h₁, handler₁, hown⟩ := registered.recorded
  obtain rfl : h₁ = h := handler₁.unique payout.handler
  refine ⟨h₁, t, v, handler₁, token, payout.approvals, payout.approved, hown,
    registered.native, ?_⟩
  constructor
  · intro hsame
    rw [← hsame]
    exact ⟨_, _, _, _, _, _, _, hmessage⟩
  · rintro ⟨_, _, _, _, _, _, _, hnames⟩
    exact sourceMint_of_messageData (injective (hmessage.trans hnames.symm))

theorem counterpart_iff_message_names_it_sample :
    let s := stateAfter (symbolicRuntime true) sampleLedger (approvedTokenTransfer (.atom 30))
    let msgHash := (tokenTransferNaming (.atom 30)).msgHash
    ∃ h t v, HandlerAt (symbolicRuntime true) s.programData (handlerKey 7) h ∧
      TokenInfoAt (symbolicRuntime true) s.programData (handlerKey 7) sampleMint
        (tokenInfoKey (handlerKey 7) sampleMint) t ∧
      ApprovalsAt (symbolicRuntime true) s.programData (handlerKey 7) msgHash
        (approvalsKey (handlerKey 7) msgHash) v ∧
      h.guardianThreshold.toNat ≤ v.pubkeyIndex.length ∧
      ownMint h.chain t = sampleMint ∧
      t.isSolayerNativeToken = !t.isSolanaNativeToken ∧
      ((symbolicRuntime true).pubkeyBytes (.atom 30) =
          (symbolicRuntime true).pubkeyBytes (counterpartMint h.chain t) ↔
        NamesSourceMint (symbolicRuntime true) msgHash
          ((symbolicRuntime true).pubkeyBytes (counterpartMint h.chain t))) := by
  intro s msgHash
  obtain ⟨hok, hpaid⟩ := approvedTokenTransfer_isOk (.atom 30) (by simp)
  have hreachable : LedgerReachable (symbolicRuntime true) s :=
    ⟨sampleLedger, _, genesis_ledgerOf _, run_callTrace hok⟩
  obtain ⟨returned, hstep⟩ := exists_step_of_executeAll (symbolicRuntime true) s _ hpaid
  clear_value s
  exact counterpart_iff_message_names_it (symbolicRuntime_collisionFree true)
    (fun _ _ h => h) hreachable hstep rfl

/-- A message that names another mint than the recorded counterpart is paid out too. -/
theorem unrelated_source_mint_paid :
    ¬ ∀ s, LedgerReachable (symbolicRuntime true) s →
      ∀ call returned s', LedgerStep (symbolicRuntime true) s (.call call returned) s' →
      ∀ a msgHash sourceTxId sender sourceMint receiveAmount nonce gas,
        call.ix = .bridgeAssetTargetChain a msgHash sourceTxId sender sourceMint
          receiveAmount nonce gas →
      ∀ h t, HandlerAt (symbolicRuntime true) s.programData a.bridgeHandler h →
        TokenInfoAt (symbolicRuntime true) s.programData a.bridgeHandler a.mint
          a.tokenInfo t →
        sourceMint = counterpartMint h.chain t := by
  intro hpair
  let s := stateAfter (symbolicRuntime true) sampleLedger (approvedTokenTransfer (.atom 31))
  obtain ⟨hok, hpaid⟩ := approvedTokenTransfer_isOk (.atom 31) (by simp)
  have hreachable : LedgerReachable (symbolicRuntime true) s :=
    ⟨sampleLedger, _, genesis_ledgerOf _, run_callTrace hok⟩
  obtain ⟨returned, hstep⟩ := exists_step_of_executeAll (symbolicRuntime true) s _ hpaid
  obtain ⟨h, handler, hchain⟩ := exists_handlerAt true s (handlerKey 7)
    (fun h => h.chain = .solayer) (by decide +kernel)
  obtain ⟨t, token, ht⟩ := exists_tokenInfoAt true s (handlerKey 7) sampleMint
    (fun t => t.solanaMint = .atom 30) (by decide +kernel)
  clear_value s
  have hsame := hpair s hreachable _ _ _ hstep _ _ _ _ _ _ _ _ rfl h t handler token
  rw [of_decide_eq_true hchain] at hsame
  exact absurd (hsame.trans (of_decide_eq_true ht)) (by decide)

end BridgeProgram.RegisteredPair
