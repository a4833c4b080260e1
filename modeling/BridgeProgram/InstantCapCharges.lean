import BridgeProgram.PayoutSteps

namespace BridgeProgram.InstantCapCharges

open BridgeProgram.BridgeProgramEntry
open BridgeProgram.CheckedResult
open BridgeProgram.PayoutSteps
open BridgeProgram.ProgramStates
open BridgeProgram.RegistryModel
open BridgeProgram.SolanaRuntime
open BridgeProgram.TargetInstructions
open BridgeProgram.TokenInstructions

variable {Pubkey Hash : Type}

/-- What a payout charges to the instant cap, if it is charged at all. -/
def capValue (rt : Runtime Pubkey Hash) (chain : Chain) (decimals : UInt8) :
    Instruction Pubkey Hash → Option UInt64
  | .bridgeAssetTargetChain a _ _ _ _ receiveAmount _ _ =>
      if chain = .solana then
        getWhitelistedTokenPrice rt a.mint receiveAmount decimals
      else none
  | .bridgeAssetTargetChainSol _ _ _ _ receiveAmount _ =>
      if chain = .solana then some (rt.solDollarValue receiveAmount) else none
  | _ => none

variable {rt : Runtime Pubkey Hash} {clock : Clock} {decimals : UInt8}
  {createdAt : UInt64} {h h' : BridgeHandler Pubkey} {ix : Instruction Pubkey Hash}

theorem isSome_tokenPrice (rt : Runtime Pubkey Hash) (mint : Pubkey) (amount : UInt64)
    (decimals : UInt8) :
    (getWhitelistedTokenPrice rt mint amount decimals).isSome =
      isTokenWhitelisted (rt.pubkeyBytes mint) := by
  rw [getWhitelistedTokenPrice, isTokenWhitelisted, Option.isSome_map, List.isSome_find?]

theorem chargeStep_eq_ok : chargeStep rt clock decimals createdAt h ix = .ok h' ↔
    match capValue rt h.chain decimals ix with
    | none => h' = h
    | some value => chargeInstantCap clock createdAt value h = .ok h' := by
  have hpure : (pure h : Except ProgramError (BridgeHandler Pubkey)) = .ok h' ↔ h' = h :=
    pure_eq_ok.trans eq_comm
  cases ix with
  | bridgeAssetTargetChain a msgHash sourceTxId sender sourceMint amount nonce gas =>
      have hlisted := isSome_tokenPrice rt a.mint amount decimals
      simp only [chargeStep, chargeTokenPayout, capValue]
      cases hprice : getWhitelistedTokenPrice rt a.mint amount decimals with
      | none =>
          rw [hprice] at hlisted
          simpa [← hlisted] using hpure
      | some value =>
          rw [hprice] at hlisted
          by_cases hchain : h.chain = .solana
          · simp [← hlisted, hchain]
          · simpa [hchain] using hpure
  | bridgeAssetTargetChainSol =>
      simp only [chargeStep, chargeSolPayout, capValue]
      by_cases hchain : h.chain = .solana
      · simp [hchain]
      · simpa [hchain] using hpure
  | _ => exact hpure

theorem chargeInstantCap_of_le {value : UInt64}
    (fits : value ≤ (resetInstantCap clock h).instantBridgeCapRemainedDollar) :
    chargeInstantCap clock createdAt value h = .ok { resetInstantCap clock h with
      instantBridgeCapRemainedDollar :=
        (resetInstantCap clock h).instantBridgeCapRemainedDollar - value } := by
  rw [chargeInstantCap]
  exact if_neg (UInt64.not_lt.mpr fits)

theorem resetInstantCap_epoch (clock : Clock) (h : BridgeHandler Pubkey) :
    (resetInstantCap clock h).instantBridgeCapEpoch = clock.epoch := by
  unfold resetInstantCap
  split
  · rfl
  next hsame => exact not_not.mp hsame

theorem chargeInstantCap_of_epoch {value : UInt64}
    (epoch : h.instantBridgeCapEpoch = clock.epoch)
    (fits : value ≤ h.instantBridgeCapRemainedDollar) :
    chargeInstantCap clock createdAt value h = .ok { h with
      instantBridgeCapRemainedDollar := h.instantBridgeCapRemainedDollar - value } := by
  have hsame : resetInstantCap clock h = h := if_neg (not_not.mpr epoch)
  rw [chargeInstantCap_of_le (by rw [hsame]; exact fits), hsame]

theorem chargeInstantCap_again {v₁ v₂ : UInt64}
    (fits : v₁.toNat + v₂.toNat ≤
      (resetInstantCap clock h).instantBridgeCapRemainedDollar.toNat) :
    chargeInstantCap clock createdAt v₂ { resetInstantCap clock h with
        instantBridgeCapRemainedDollar :=
          (resetInstantCap clock h).instantBridgeCapRemainedDollar - v₁ } =
      .ok { resetInstantCap clock h with
        instantBridgeCapRemainedDollar :=
          (resetInstantCap clock h).instantBridgeCapRemainedDollar - (v₁ + v₂) } := by
  have hfirst : v₁ ≤ (resetInstantCap clock h).instantBridgeCapRemainedDollar :=
    UInt64.le_iff_toNat_le.mpr (by omega)
  have hsecond : v₂ ≤ (resetInstantCap clock h).instantBridgeCapRemainedDollar - v₁ := by
    rw [UInt64.le_iff_toNat_le, UInt64.toNat_sub_of_le _ _ hfirst]
    omega
  have hsub : (resetInstantCap clock h).instantBridgeCapRemainedDollar - v₁ - v₂ =
      (resetInstantCap clock h).instantBridgeCapRemainedDollar - (v₁ + v₂) := by grind
  rw [← hsub]
  exact chargeInstantCap_of_epoch (resetInstantCap_epoch _ _) hsecond

/-- Two charges that fit together can be made in either order. -/
theorem chargeStep_both {decimals₁ decimals₂ : UInt8} {createdAt₁ createdAt₂ : UInt64}
    {ix₁ ix₂ : Instruction Pubkey Hash} {h₁ h₂ : BridgeHandler Pubkey}
    (charged₁ : chargeStep rt clock decimals₁ createdAt₁ h ix₁ = .ok h₁)
    (charged₂ : chargeStep rt clock decimals₂ createdAt₂ h ix₂ = .ok h₂)
    (fits : ∀ v₁ v₂, capValue rt h.chain decimals₁ ix₁ = some v₁ →
      capValue rt h.chain decimals₂ ix₂ = some v₂ →
      v₁.toNat + v₂.toNat ≤ (resetInstantCap clock h).instantBridgeCapRemainedDollar.toNat) :
    ∃ h', chargeStep rt clock decimals₂ createdAt₂ h₁ ix₂ = .ok h' ∧
      chargeStep rt clock decimals₁ createdAt₁ h₂ ix₁ = .ok h' := by
  have hchain₁ := (chargeStep_sameButCap charged₁).chain
  have hchain₂ := (chargeStep_sameButCap charged₂).chain
  rw [chargeStep_eq_ok] at charged₁ charged₂
  simp only [chargeStep_eq_ok, hchain₁, hchain₂]
  cases hvalue₁ : capValue rt h.chain decimals₁ ix₁ with
  | none =>
      rw [hvalue₁] at charged₁
      subst charged₁
      exact ⟨h₂, charged₂, rfl⟩
  | some v₁ =>
      cases hvalue₂ : capValue rt h.chain decimals₂ ix₂ with
      | none =>
          rw [hvalue₁] at charged₁
          rw [hvalue₂] at charged₂
          subst charged₂
          exact ⟨h₁, rfl, charged₁⟩
      | some v₂ =>
          rw [hvalue₁] at charged₁
          rw [hvalue₂] at charged₂
          have hsum := fits v₁ v₂ hvalue₁ hvalue₂
          have hfirst : v₁ ≤ (resetInstantCap clock h).instantBridgeCapRemainedDollar :=
            UInt64.le_iff_toNat_le.mpr (by omega)
          have hsecond : v₂ ≤ (resetInstantCap clock h).instantBridgeCapRemainedDollar :=
            UInt64.le_iff_toNat_le.mpr (by omega)
          obtain rfl := Except.ok.inj ((chargeInstantCap_of_le hfirst).symm.trans charged₁)
          obtain rfl := Except.ok.inj ((chargeInstantCap_of_le hsecond).symm.trans charged₂)
          refine ⟨_, chargeInstantCap_again hsum, ?_⟩
          rw [UInt64.add_comm v₁ v₂]
          exact chargeInstantCap_again (by omega)

end BridgeProgram.InstantCapCharges
