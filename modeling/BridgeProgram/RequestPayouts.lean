import BridgeProgram.ApprovalAvailability
import BridgeProgram.CrossChainNetwork
import BridgeProgram.InstantCapCharges

namespace BridgeProgram.RequestPayouts

open BridgeProgram.AccountEffects
open BridgeProgram.ApprovalAvailability
open BridgeProgram.ApprovalBatches
open BridgeProgram.BalanceEffects
open BridgeProgram.BalanceShifts
open BridgeProgram.BridgeProgramEntry
open BridgeProgram.CheckedResult
open BridgeProgram.CrossChainNetwork
open BridgeProgram.InstantCapCharges
open BridgeProgram.PayoutAvailability
open BridgeProgram.PayoutMessages
open BridgeProgram.PayoutSteps
open BridgeProgram.ProgramStates
open BridgeProgram.RegistryModel
open BridgeProgram.SolanaRuntime
open BridgeProgram.TargetInstructions

variable {Pubkey Hash : Type}

def PayoutFields.recipient {Key : Type} : PayoutFields Key → Key
  | .token _ recipient .. => recipient
  | .sol _ recipient .. => recipient

/-- The additional SOL of a request is no more than a payout may pay. -/
def GasAllowed {Key : Type} : PayoutFields Key → Prop
  | .token _ _ _ _ _ _ _ additionalSolGas => additionalSolGas ≤ maxAdditionalSolGas
  | .sol .. => True

/-- The accounts with which an operator serves a handler. -/
structure Desk (Pubkey : Type) where
  operator : Pubkey
  bridgeHandler : Pubkey
  guardianInfo : Pubkey
  tokenInfo : Pubkey
  tokenProgram : Pubkey

/-- Where the approvals of a request are collected. -/
def Desk.target (desk : Desk Pubkey) (rt : Runtime Pubkey Hash) (request : PayoutFields Pubkey) :
    ApprovalTarget Pubkey Hash where
  bridgeHandler := desk.bridgeHandler
  guardianInfo := desk.guardianInfo
  verifiedSignatures := (rt.findProgramAddress
    (.verifiedSignatures desk.bridgeHandler (requestHash rt request))).1
  msgHash := requestHash rt request

/-- Address and bump of the proof that a request has been paid. -/
def Desk.proof (desk : Desk Pubkey) (rt : Runtime Pubkey Hash) (request : PayoutFields Pubkey) :
    Pubkey × UInt8 :=
  rt.findProgramAddress (.bridgeProofTarget desk.bridgeHandler
    (rt.hash (PayoutFields.sourceTxId request).toList))

def Desk.payout (desk : Desk Pubkey) (rt : Runtime Pubkey Hash) (request : PayoutFields Pubkey) :
    PayoutCall Pubkey Hash where
  operator := desk.operator
  recipient := PayoutFields.recipient request
  bridgeHandler := desk.bridgeHandler
  bridgeProof := (desk.proof rt request).1
  guardianInfo := desk.guardianInfo
  verifiedSignatures := (desk.target rt request).verifiedSignatures
  msgHash := requestHash rt request
  sourceTxId := PayoutFields.sourceTxId request

/-- The accounts of a token payout, with associated token accounts on both sides. -/
def Desk.tokenAccounts (desk : Desk Pubkey) (rt : Runtime Pubkey Hash)
    (request : PayoutFields Pubkey) (mint : Pubkey) : BridgeAssetTargetChain Pubkey where
  operator := desk.operator
  mint := mint
  recipient := PayoutFields.recipient request
  recipientVault :=
    rt.associatedTokenAddress (PayoutFields.recipient request) mint desk.tokenProgram
  bridgeHandler := desk.bridgeHandler
  bridgeHandlerVault := rt.associatedTokenAddress desk.bridgeHandler mint desk.tokenProgram
  bridgeProof := (desk.proof rt request).1
  guardianInfo := desk.guardianInfo
  verifiedSignatures := (desk.target rt request).verifiedSignatures
  tokenInfo := desk.tokenInfo
  tokenProgram := desk.tokenProgram

/-- The payout instruction for a request. -/
def Desk.ix (desk : Desk Pubkey) (rt : Runtime Pubkey Hash) (request : PayoutFields Pubkey) :
    Instruction Pubkey Hash :=
  match request with
  | .token sender _ sourceMint mint amount nonce sourceTxId additionalSolGas =>
      .bridgeAssetTargetChain (desk.tokenAccounts rt request mint) (requestHash rt request)
        sourceTxId sender sourceMint amount nonce additionalSolGas
  | .sol sender recipient amount nonce sourceTxId =>
      .bridgeAssetTargetChainSol
        { operator := desk.operator
          recipient := recipient
          bridgeHandler := desk.bridgeHandler
          bridgeProof := (desk.proof rt request).1
          guardianInfo := desk.guardianInfo
          verifiedSignatures := (desk.target rt request).verifiedSignatures }
        (requestHash rt request) sourceTxId sender amount nonce

def Desk.call (desk : Desk Pubkey) (rt : Runtime Pubkey Hash) (request : PayoutFields Pubkey) :
    Call Pubkey Hash where
  signers := [desk.operator]
  ixSysvar := { instructions := [], currentIndex := 0 }
  ix := desk.ix rt request

variable {rt : Runtime Pubkey Hash} {desk : Desk Pubkey} {request : PayoutFields Pubkey}

theorem Desk.payout_ix : payout? (desk.ix rt request) = some (desk.payout rt request) := by
  cases request <;> rfl

theorem Desk.messageMatches_ix (allowed : GasAllowed request) :
    MessageMatches rt (desk.ix rt request) := by
  cases request with
  | token => exact ⟨allowed, rfl⟩
  | sol => rfl

theorem Desk.tokenPayment_ix {a : BridgeAssetTargetChain Pubkey} {amount : UInt64}
    (token : tokenPayment? (desk.ix rt request) = some (a, amount)) :
    ∃ mint, a = desk.tokenAccounts rt request mint := by
  cases request with
  | token _ _ _ mint =>
      obtain ⟨rfl, -⟩ := Prod.mk.inj (Option.some.inj token)
      exact ⟨mint, rfl⟩
  | sol => cases token

/-- What a delivery reads of a ledger, and the positions whose guardians sign. -/
structure DeliveryTerms (Pubkey : Type) where
  handler : BridgeHandler Pubkey
  guardians : GuardianInfo Pubkey
  stored : List UInt8
  willing : List UInt8
  token : TokenInfo Pubkey
  decimals : UInt8
  vaultAmount : ℕ

/-- Approvals that a payout needs; with a threshold of zero it needs one as well. -/
def DeliveryTerms.needed (T : DeliveryTerms Pubkey) : ℕ :=
  max 1 T.handler.guardianThreshold.toNat

variable [DecidableEq Pubkey]

/-- What the delivery of a request needs of the ledger: the bridge runs and can pay, nothing
has been paid for this request, and enough guardians will sign. -/
structure CanDeliver (rt : Runtime Pubkey Hash) (s : State Pubkey Hash) (desk : Desk Pubkey)
    (request : PayoutFields Pubkey) (T : DeliveryTerms Pubkey) : Prop where
  handler : HandlerAt rt s.programData desk.bridgeHandler T.handler
  operator : T.handler.operator = desk.operator
  unpaused : T.handler.pause = false
  guardians : GuardiansAt rt s.programData desk.bridgeHandler desk.guardianInfo T.guardians
  positions : StoredPositions rt s (desk.target rt request) T.stored
  members : max T.stored.length T.needed ≤ T.guardians.guardians.length
  limit : max T.stored.length T.needed ≤ maxGuardianSignatures
  distinct : T.willing.Nodup
  willing : ∀ i ∈ T.willing, i.toNat < T.guardians.guardians.length
  enough : T.needed ≤ T.stored.length + (T.willing.filter fun i => i ∉ T.stored).length
  wallet : s.data desk.operator = .system
  key : HasKey rt desk.operator
  unpaid : s.data (desk.proof rt request).1 = .system
  tokens : ∀ a amount, tokenPayment? (desk.ix rt request) = some (a, amount) →
    TokensReady rt s a amount T.handler.chain T.token T.decimals T.vaultAmount
  funds : PayoutFunds rt s (desk.payout rt request) (desk.ix rt request) T.handler.chain
    (approvalsCost rt s (desk.target rt request))
  time : s.clock.unixTimestamp.toNat + solanaPostInstantCapAwaitingTimeSeconds.toNat < 2 ^ 64

variable {s t x : State Pubkey Hash} {T : DeliveryTerms Pubkey} {v : VerifiedSignatures}

omit [DecidableEq Pubkey] in
theorem find_ne_of_hasKey {a : Pubkey} (key : HasKey rt a) (seeds : Seeds Pubkey Hash) :
    (rt.findProgramAddress seeds).1 ≠ a := by
  intro heq
  exact key.not_program seeds _ (heq ▸ rt.create_find seeds)

omit [DecidableEq Pubkey] in
theorem find_ne_associated (associated : AssociatedAddresses rt)
    (owner mint tokenProgram : Pubkey) (seeds : Seeds Pubkey Hash) :
    rt.associatedTokenAddress owner mint tokenProgram ≠ (rt.findProgramAddress seeds).1 := by
  intro heq
  exact associated.not_program owner mint tokenProgram seeds _ (heq ▸ rt.create_find seeds)

omit [DecidableEq Pubkey] in
theorem Desk.proof_ne_approvals (collisionFree : CollisionFree rt) :
    (desk.proof rt request).1 ≠ (desk.target rt request).verifiedSignatures := by
  intro heq
  have hproof := rt.create_find (.bridgeProofTarget desk.bridgeHandler
    (rt.hash (PayoutFields.sourceTxId request).toList))
  have happrovals : rt.createProgramAddress
      (.verifiedSignatures desk.bridgeHandler (requestHash rt request)) _ =
        some (desk.target rt request).verifiedSignatures := rt.create_find _
  rw [← heq] at happrovals
  obtain ⟨hseeds, -⟩ := collisionFree _ _ _ _ _ hproof happrovals
  cases hseeds

theorem CanDeliver.canApprove (can : CanDeliver rt s desk request T) :
    CanApprove rt s desk.operator (desk.target rt request) T.guardians T.stored where
  handler := ⟨_, can.handler⟩
  guardians := can.guardians
  address := rfl
  positions := can.positions
  wallet := can.wallet
  apart := (find_ne_of_hasKey can.key _).symm
  rent := (Nat.le_add_right _ _).trans can.funds.rent
  room := by
    have hrent := can.funds.rent
    have hroom := can.funds.refundRoom
    have happrovals : (desk.payout rt request).verifiedSignatures =
        (desk.target rt request).verifiedSignatures := rfl
    rw [happrovals] at hroom
    omega

theorem CanDeliver.kept (can : CanDeliver rt s desk request T)
    (approved : Approved rt s t desk.operator (desk.target rt request) v)
    (data : x.data = t.data) {b : Pubkey} (opened : s.data b ≠ .system)
    (other : ∀ v, s.data b ≠ .program (.verifiedSignatures v)) : x.data b = s.data b := by
  rw [data]
  exact approved.kept b (can.positions.ne_of_data opened other)

theorem CanDeliver.kept_program (can : CanDeliver rt s desk request T)
    (approved : Approved rt s t desk.operator (desk.target rt request) v)
    (data : x.data = t.data) {b : Pubkey} {d : ProgramData Pubkey Hash}
    (stored : s.programData b = some d) (other : ∀ v, d ≠ .verifiedSignatures v) :
    x.programData b = some d := by
  have hdata := programData_eq_some.mp stored
  rw [programData_eq_some, can.kept approved data (by simp [hdata]) (by simp [hdata, other])]
  exact hdata

theorem CanDeliver.tokens_kept (associated : AssociatedAddresses rt)
    (can : CanDeliver rt s desk request T)
    (approved : Approved rt s t desk.operator (desk.target rt request) v)
    (data : x.data = t.data) {a : BridgeAssetTargetChain Pubkey} {amount : UInt64}
    (token : tokenPayment? (desk.ix rt request) = some (a, amount)) :
    TokensReady rt x a amount T.handler.chain T.token T.decimals T.vaultAmount := by
  have ready := can.tokens a amount token
  obtain ⟨m, hm, -⟩ := ready.terms.mint
  obtain ⟨w, hw, -⟩ := ready.terms.vault
  have hinfo := programData_eq_some.mp ready.terms.token.stored
  refine ready.of_data ?_
  rintro b (rfl | rfl | rfl | rfl)
  · exact can.kept approved data (by simp [hm]) (by simp [hm])
  · exact can.kept approved data (by simp [hw]) (by simp [hw])
  · obtain ⟨mint, rfl⟩ := Desk.tokenPayment_ix token
    rw [data]
    exact approved.kept _ (find_ne_associated associated _ _ _ _)
  · exact can.kept approved data (by simp [hinfo]) (by simp [hinfo])

theorem Approved.lamports_kept
    (approved : Approved rt s t desk.operator (desk.target rt request) v)
    (lamports : x.lamports = t.lamports) {b : Pubkey} (operator : b ≠ desk.operator)
    (approvals : b ≠ (desk.target rt request).verifiedSignatures) :
    x.lamports b = s.lamports b := by
  have hshift := approved.moves.lamports b
  rw [moved_apply_of_ne _ approvals operator] at hshift
  rw [lamports]
  omega

theorem CanDeliver.rentCost_kept (collisionFree : CollisionFree rt)
    (associated : AssociatedAddresses rt) (can : CanDeliver rt s desk request T)
    (approved : Approved rt s t desk.operator (desk.target rt request) v)
    (lamports : x.lamports = t.lamports) (data : x.data = t.data) :
    rentCost rt x (desk.payout rt request) (desk.ix rt request) =
      rentCost rt s (desk.payout rt request) (desk.ix rt request) := by
  have hproof : x.lamports (desk.proof rt request).1 = s.lamports (desk.proof rt request).1 :=
    Approved.lamports_kept approved lamports (find_ne_of_hasKey can.key _)
      (Desk.proof_ne_approvals collisionFree)
  have hcost : proofCost rt x (desk.payout rt request) =
      proofCost rt s (desk.payout rt request) := by
    change topUp rt x (desk.proof rt request).1 _ = topUp rt s (desk.proof rt request).1 _
    rw [topUp, topUp, hproof]
  have hassociated : ∀ owner mint tokenProgram, rt.associatedTokenAddress owner mint tokenProgram ≠
      (desk.target rt request).verifiedSignatures :=
    fun _ _ _ => find_ne_associated associated _ _ _ _
  unfold rentCost
  rw [hcost]
  cases request with
  | sol => rfl
  | token _ recipient _ mint =>
      have hne := hassociated recipient mint desk.tokenProgram
      have hlamports := Approved.lamports_kept approved lamports
        (can.key.not_associated recipient mint desk.tokenProgram) hne
      have hdata := approved.kept _ hne
      rw [← data] at hdata
      simp only [Desk.ix, openCost, vaultRent, Desk.tokenAccounts, PayoutFields.recipient, topUp,
        hlamports, hdata]

theorem CanDeliver.funds_kept (collisionFree : CollisionFree rt)
    (associated : AssociatedAddresses rt) (can : CanDeliver rt s desk request T)
    (approved : Approved rt s t desk.operator (desk.target rt request) v)
    (lamports : x.lamports = t.lamports) (data : x.data = t.data) :
    PayoutFunds rt x (desk.payout rt request) (desk.ix rt request) T.handler.chain 0 := by
  have hcost := can.rentCost_kept collisionFree associated approved lamports data
  have funds := can.funds
  have happrovals : (desk.payout rt request).verifiedSignatures =
      (desk.target rt request).verifiedSignatures := rfl
  have hoperator : (desk.payout rt request).operator = desk.operator := rfl
  have hapart := can.canApprove.apart
  have hshift : ∀ a, (x.lamports a : ℤ) = s.lamports a + moved desk.operator
      (desk.target rt request).verifiedSignatures
      (approvalsCost rt s (desk.target rt request)) a := by
    rw [lamports]
    exact approved.moves.lamports
  simp only [moved_apply] at hshift
  have hpays := hshift desk.operator
  have hgets := hshift (desk.target rt request).verifiedSignatures
  rw [if_neg hapart, if_pos rfl] at hpays
  rw [if_pos rfl, if_neg hapart.symm] at hgets
  refine ⟨funds.native, ?_, ?_, ?_, ?_⟩
  · have hrent := funds.rent
    rw [hoperator] at hrent ⊢
    rw [hcost]
    omega
  · intro hchain
    have hdata := programData_eq_some.mp can.handler.stored
    have hne : desk.bridgeHandler ≠ desk.operator := ne_of_contents hdata can.wallet (by simp)
    have hkept := Approved.lamports_kept approved lamports hne
      (can.positions.ne_of_data (by simp [hdata]) (by simp [hdata]))
    obtain ⟨hsum, hfloor⟩ := funds.handlerFunds hchain
    refine ⟨hsum, hfloor.trans_eq ?_⟩
    exact hkept.symm
  · intro a ha
    have hroom := funds.lamportRoom a ha
    have hmoved := hshift a
    rw [hcost]
    split_ifs at hmoved <;> omega
  · have hroom := funds.refundRoom
    rw [hoperator, happrovals] at hroom ⊢
    omega

omit [DecidableEq Pubkey] in
theorem exists_charged {clock : Clock} {createdAt : UInt64} {h : BridgeHandler Pubkey}
    {decimals : UInt8} {ix : Instruction Pubkey Hash}
    (waited : createdAt.toNat + solanaPostInstantCapAwaitingTimeSeconds.toNat ≤
      clock.unixTimestamp.toNat) :
    ∃ h', chargeStep rt clock decimals createdAt h ix = .ok h' := by
  simp only [chargeStep_eq_ok]
  cases capValue rt h.chain decimals ix with
  | none => exact ⟨h, rfl⟩
  | some value =>
      by_cases hless : (resetInstantCap clock h).instantBridgeCapRemainedDollar < value
      · simp only [chargeInstantCap, if_pos hless, bind_eq_ok, require_eq_ok, checkedSub_eq_ok,
          pure_eq_ok]
        exact ⟨_, _, ⟨by omega, rfl⟩, (), by omega, rfl⟩
      · exact ⟨_, chargeInstantCap_of_le (UInt64.not_lt.mp hless)⟩

theorem CanDeliver.pays (collisionFree : CollisionFree rt) (associated : AssociatedAddresses rt)
    (can : CanDeliver rt s desk request T) (allowed : GasAllowed request)
    (approved : Approved rt s t desk.operator (desk.target rt request) v)
    (complete : v.pubkeyIndex.length = max T.stored.length T.needed)
    (lamports : x.lamports = t.lamports) (data : x.data = t.data)
    (waited : v.createdAt.toNat + solanaPostInstantCapAwaitingTimeSeconds.toNat ≤
      x.clock.unixTimestamp.toNat) :
    ∃ q z, PaysWith rt x (desk.call rt request) (desk.payout rt request) q z ∧
      q.handler = T.handler ∧ q.token = T.token := by
  obtain ⟨charged, hcharged⟩ : ∃ h', chargeStep rt x.clock T.decimals v.createdAt T.handler
      (desk.ix rt request) = .ok h' := exists_charged waited
  have hprograms : x.programData = t.programData := by
    funext b
    rw [State.programData, State.programData, data]
  have hproof : x.data (desk.proof rt request).1 = .system := by
    rw [data, approved.kept _ (Desk.proof_ne_approvals collisionFree)]
    exact can.unpaid
  have hneeded : T.needed ≤ v.pubkeyIndex.length := by
    rw [complete]
    exact le_max_right _ _
  have hpositive : 0 < v.pubkeyIndex.length := (le_max_left _ _).trans hneeded
  have hthreshold : T.handler.guardianThreshold.toNat ≤ v.pubkeyIndex.length :=
    (le_max_right _ _).trans hneeded
  have hcan : CanPay rt x (desk.call rt request) (desk.payout rt request)
      { handler := T.handler, charged := charged, guardians := T.guardians, approvals := v
        bump := (desk.proof rt request).2, token := T.token, decimals := T.decimals
        vaultAmount := T.vaultAmount } :=
    { payout :=
        { signed := List.mem_singleton_self _
          handler := ⟨can.kept_program approved data can.handler.stored (by simp),
            can.handler.address⟩
          operator := can.operator
          guardians := ⟨can.kept_program approved data can.guardians.stored (by simp),
            can.guardians.address⟩
          approvals := hprograms ▸ approved.approvals
          proofAddress := rfl
          proofFresh := by
            change x.programData (desk.proof rt request).1 = none
            rw [State.programData, hproof]
            rfl
          unpaused := can.unpaused
          counted := ⟨List.ne_nil_of_length_pos hpositive, complete ▸ can.members,
            complete ▸ can.limit⟩
          approved := hthreshold }
      message := Desk.messageMatches_ix allowed
      charged := hcharged
      operator := by
        rw [data]
        exact (approved.kept _ can.canApprove.apart).trans can.wallet
      proof := hproof
      operator_ne_proof := (find_ne_of_hasKey can.key _).symm
      tokens := fun a amount token => can.tokens_kept associated approved data token
      funds := can.funds_kept collisionFree associated approved lamports data }
  obtain ⟨z, hpays⟩ := hcan.pays Desk.payout_ix
  exact ⟨_, z, hpays, rfl, rfl⟩

end BridgeProgram.RequestPayouts
