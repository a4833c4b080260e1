import BridgeProgram.AccountKeeping
import BridgeProgram.PayoutSteps
import BridgeProgram.SourceSteps

namespace BridgeProgram.CallEffects

open BridgeProgram.AccountEffects
open BridgeProgram.AccountKeeping
open BridgeProgram.BalanceEffects
open BridgeProgram.BalanceShifts
open BridgeProgram.BridgeProgramEntry
open BridgeProgram.CheckedResult
open BridgeProgram.PayoutSteps
open BridgeProgram.ProgramStates
open BridgeProgram.RegistryCells
open BridgeProgram.RegistryModel
open BridgeProgram.RegistryRefinement
open BridgeProgram.SolanaRuntime
open BridgeProgram.SourceSteps
open BridgeProgram.TargetInstructions
open BridgeProgram.TokenInstructions
open BridgeProgram.TokenPrograms

variable {Pubkey Hash : Type}

/-- The mint that an instruction creates unless it exists. -/
def newMints : Instruction Pubkey Hash → Set Pubkey
  | .addToken x .. => {x.mint}
  | _ => ∅

theorem source?_of_payout {ix : Instruction Pubkey Hash} {p : PayoutCall Pubkey Hash}
    (kind : payout? ix = some p) : source? ix = none := by
  cases ix with
  | bridgeAssetTargetChain | bridgeAssetTargetChainSol => rfl
  | _ => simp [payout?] at kind

theorem payout?_of_source {ix : Instruction Pubkey Hash} {c : SourceCall Pubkey}
    (kind : source? ix = some c) : payout? ix = none := by
  cases ix with
  | bridgeAssetSourceChain | bridgeAssetSourceChainSol => rfl
  | _ => simp [source?] at kind

theorem sourceHandler?_eq (ix : Instruction Pubkey Hash) :
    sourceHandler? ix = (source? ix).map SourceCall.bridgeHandler := by
  cases ix <;> rfl

variable [DecidableEq Pubkey]

/-- A successful call has one of three kinds of effects. -/
inductive CallEffect (rt : Runtime Pubkey Hash) (s s' : State Pubkey Hash)
    (call : Call Pubkey Hash) : Prop
  | quiet (noSource : source? call.ix = none) (noPayout : payout? call.ix = none)
      (keeps : Keeps (newMints call.ix) s s') : CallEffect rt s s' call
  | requested {c : SourceCall Pubkey} {h : BridgeHandler Pubkey} {t : TokenInfo Pubkey}
      (kind : source? call.ix = some c) (effect : SourceEffect rt s s' call c h t)
      (stored : ∀ a ∈ writtenAccounts call.ix, s'.programData a ≠ none) :
      CallEffect rt s s' call
  | paid {p : PayoutCall Pubkey Hash} {q : PayoutQuote Pubkey}
      (pays : PaysWith rt s call p q s') : CallEffect rt s s' call

variable {rt : Runtime Pubkey Hash} {s s' : State Pubkey Hash} {call : Call Pubkey Hash}
  {returned : Option UInt64} {a : Pubkey}

theorem stored_of_source {clock : Clock} {r r' : Registry Pubkey Hash}
    (step : RegistryStep rt clock r call returned r') {c : SourceCall Pubkey}
    (kind : source? call.ix = some c) (ha : a ∈ writtenAccounts call.ix) : r' a ≠ none := by
  cases step with
  | bridgeAssetSourceChain | bridgeAssetSourceChainSol =>
      simp only [writtenAccounts, List.mem_cons, List.not_mem_nil, or_false] at ha
      simp only [Function.update_apply]
      split_ifs <;> simp_all
  | @managed call manager bridgeHandler f h h' kind' =>
      cases hix : call.ix <;> simp [hix, source?, managerUpdate?] at kind kind'
  | @tokenPause call x h t kind' =>
      cases hix : call.ix <;> simp [hix, source?, tokenPause?] at kind kind'
  | @payout call p h h' g v bump kind' =>
      cases hix : call.ix <;> simp [hix, source?, payout?] at kind kind'
  | _ => simp [source?] at kind

variable [DecidableEq Hash]

theorem execute_keeps (noSource : source? call.ix = none) (noPayout : payout? call.ix = none)
    (executed : execute rt s call = .ok (s', returned)) :
    KeepsExactly (newMints call.ix) s s' := by
  obtain ⟨signers, ixSysvar, ix⟩ := call
  cases ix with
  | bridgeAssetSourceChain | bridgeAssetSourceChainSol => simp [source?] at noSource
  | bridgeAssetTargetChain | bridgeAssetTargetChainSol => simp [payout?] at noPayout
  | _ =>
      simp only [execute, bind_eq_ok, pure_eq_ok, Prod.mk.injEq] at executed
      obtain ⟨u, hcall, rfl, -⟩ := executed
      first
        | exact initializeHandler_keeps hcall
        | exact (addToken_keeps hcall).1
        | exact setTokenPause_keeps hcall
        | exact updateByManager_keeps hcall
        | exact addGuardian_keeps hcall
        | exact removeGuardian_keeps hcall
        | exact updateGuardianThreshold_keeps hcall
        | exact verifySignature_keeps hcall

theorem callEffect (executed : execute rt s call = .ok (s', returned)) :
    CallEffect rt s s' call := by
  cases hsource : source? call.ix with
  | some c =>
      obtain ⟨h, t, effect⟩ := source_effect hsource executed
      exact .requested hsource effect fun a ha =>
        stored_of_source (execute_refines executed).1 hsource ha
  | none =>
      cases hpayout : payout? call.ix with
      | some p =>
          obtain ⟨q, pays⟩ := paysWith_of_executed hpayout executed
          exact .paid pays
      | none => exact .quiet hsource hpayout (execute_keeps hsource hpayout executed).toKeeps

omit [DecidableEq Hash]

theorem rentShift_nonneg {c : SourceCall Pubkey} {ix : Instruction Pubkey Hash}
    (kind : source? ix = some c) (h : a ≠ c.signer) : 0 ≤ rentShift rt s ix a := by
  cases ix with
  | bridgeAssetSourceChain x =>
      obtain rfl := Option.some.inj kind
      exact add_nonneg (add_nonneg (moved_nonneg _ h) (moved_nonneg _ h)) (moved_nonneg _ h)
  | bridgeAssetSourceChainSol x =>
      obtain rfl := Option.some.inj kind
      exact moved_nonneg _ h
  | _ => simp [source?] at kind

theorem sourceShift_ge {h : BridgeHandler Pubkey} {t : TokenInfo Pubkey} {c : SourceCall Pubkey}
    {ix : Instruction Pubkey Hash} (kind : source? ix = some c) (hne : a ≠ c.signer) :
    (if h.chain = .solana ∧ a = c.bridgeHandler then (solRequest ix : ℤ) else 0) ≤
      sourceShift rt s h t c ix a := by
  have hrent : 0 ≤ rentShift rt s ix a := rentShift_nonneg kind hne
  have hfee : 0 ≤ moved c.signer c.feeVault h.feeInfo.bridgeAssetFee.toNat a :=
    moved_nonneg _ hne
  have hmetadata : 0 ≤ moved c.signer c.feeVault (metadataFee h.chain t ix) a :=
    moved_nonneg _ hne
  have hsol : (if h.chain = .solana ∧ a = c.bridgeHandler then (solRequest ix : ℤ) else 0) =
      solTaken h.chain c.signer c.bridgeHandler (solRequest ix) a := by
    cases hchain : h.chain with
    | solana => simp [solTaken, moved_apply, hne]
    | solayer => simp [solTaken, hne]
  rw [hsol]
  simp only [sourceShift, Pi.add_apply]
  omega

/-- Only wallets lose lamports, and the handler and the approvals of a payout. -/
theorem CallEffect.lamports_kept (effect : CallEffect rt s s' call) (ha : s.data a ≠ .system)
    (hpayout : ∀ p, payout? call.ix = some p →
      a ≠ p.bridgeHandler ∧ a ≠ p.verifiedSignatures) : s.lamports a ≤ s'.lamports a := by
  cases effect with
  | quiet noSource noPayout keeps => exact keeps.lamports a ha
  | @requested c h t kind effect stored =>
      have hshift := effect.lamports a
      have hne : a ≠ c.signer := fun heq => ha (heq ▸ effect.signer)
      have hge : _ ≤ sourceShift rt s h t c call.ix a := sourceShift_ge kind hne
      split_ifs at hge <;> omega
  | paid pays =>
      obtain ⟨hhandler, happrovals⟩ := hpayout _ pays.1
      exact pays.lamports_ge (fun heq => ha (heq ▸ pays.accounts.operator)) hhandler happrovals

theorem CallEffect.shape_kept (effect : CallEffect rt s s' call) (ha : s.data a ≠ .system)
    (hprogram : s.programData a = none) : shape s' a = shape s a := by
  cases effect with
  | quiet noSource noPayout keeps => rw [shape, keeps.data a ha hprogram, shape]
  | requested kind effect stored => exact effect.kept a ha hprogram
  | paid pays =>
      have hne : ∀ b d, s.data b = .program d → a ≠ b := by
        rintro b d hb rfl
        rw [programData_eq_some.mpr hb] at hprogram
        cases hprogram
      exact pays.shape_of_ne_system ha (hne _ _ pays.accounts.handler)
        (hne _ _ pays.accounts.approvals)

theorem vaultShape_of_system {f : Pubkey → AccountData Pubkey Hash}
    {ix : Instruction Pubkey Hash} (h : f a = .system) :
    vaultShape f ix a = .system ∨ ∃ x amount, tokenRequest? ix = some (x, amount) ∧
      a = x.bridgeHandlerVault ∧ vaultShape f ix a = emptyVault x := by
  cases ix with
  | bridgeAssetSourceChain x n amount =>
      by_cases hvault : a = x.bridgeHandlerVault
      · subst hvault
        refine .inr ⟨x, amount, rfl, rfl, ?_⟩
        rw [vaultShape, openAt, if_pos (AccountData.isSystem_iff.mpr h), Function.update_self]
      · exact .inl ((openAt_of_ne hvault).trans h)
  | _ => exact .inl h

theorem openShape_of_system {f : Pubkey → AccountData Pubkey Hash}
    {ix : Instruction Pubkey Hash} (h : f a = .system) :
    openShape f ix a = .system ∨ ∃ x amount, tokenPayment? ix = some (x, amount) ∧
      a = x.recipientVault ∧ openShape f ix a =
        .tokenAccount x.tokenProgram { mint := x.mint, owner := x.recipient, amount := 0 } := by
  cases ix with
  | bridgeAssetTargetChain x msgHash sourceTxId sender sourceMint amount =>
      unfold openShape openVault
      dsimp only
      by_cases hvault : a = x.recipientVault
      · subst hvault
        refine .inr ⟨x, amount, rfl, rfl, ?_⟩
        rw [if_pos (AccountData.isSystem_iff.mpr h), Function.update_self]
      · split
        · exact .inl ((Function.update_of_ne hvault _ _).trans h)
        · exact .inl h
  | _ => exact .inl h

theorem CallEffect.mint_created (effect : CallEffect rt s s' call) (ha : s.data a = .system)
    {tokenProgram : Pubkey} {m : Mint Pubkey} (hmint : s'.data a = .mint tokenProgram m) :
    a ∈ newMints call.ix ∧ m.supply = 0 := by
  have hsystem : shape s a = .system := data_eq_system.mpr ha
  have hshape : shape s' a = shapeOf (.mint tokenProgram m) := by rw [shape, hmint]
  cases effect with
  | quiet noSource noPayout keeps =>
      have hempty := keeps.empty a ha
      rw [amounts, hmint] at hempty
      exact ⟨keeps.created a tokenProgram m ha hmint, hempty⟩
  | requested kind effect stored =>
      have hnot : a ∉ writtenAccounts call.ix :=
        fun hmem => stored a hmem (programData_eq_none_of_mint hmint)
      rw [effect.shape a hnot] at hshape
      rcases vaultShape_of_system hsystem with h | ⟨x, -, -, -, h⟩
      · cases h.symm.trans hshape
      · cases h.symm.trans hshape
  | @paid p q pays =>
      have hproof : a ≠ p.bridgeProof := by
        rintro rfl
        rw [pays.moves.2, payoutShape, Function.update_of_ne pays.accounts.approvals_ne_proof.symm,
          Function.update_self] at hshape
        cases hshape
      rw [pays.shape_of_system ha hproof] at hshape
      rcases openShape_of_system hsystem with h | ⟨x, -, -, -, h⟩
      · cases h.symm.trans hshape
      · cases h.symm.trans hshape

end BridgeProgram.CallEffects
