import BridgeProgram.ApprovalBatches
import BridgeProgram.InstantBudget

namespace BridgeProgram.LaterApprovals

open BridgeProgram.AccountEffects
open BridgeProgram.AnchorAccounts
open BridgeProgram.ApprovalBatches
open BridgeProgram.BridgeProgramEntry
open BridgeProgram.CheckedResult
open BridgeProgram.InstantBudget
open BridgeProgram.InstantCapCharges
open BridgeProgram.LedgerInvariants
open BridgeProgram.PayoutSteps
open BridgeProgram.ProgramStates
open BridgeProgram.RegistryCells
open BridgeProgram.RegistryModel
open BridgeProgram.RegistryRefinement
open BridgeProgram.SignatureInstructions
open BridgeProgram.SolanaRuntime
open BridgeProgram.SymbolicRuntime
open BridgeProgram.TargetInstructions
open BridgeProgram.TokenInstructions
open BridgeProgram.TokenPrograms
open BridgeProgram.TransitionRuns

variable {Pubkey Hash : Type} [DecidableEq Pubkey] {rt : Runtime Pubkey Hash}
  {s s' t t' : State Pubkey Hash} {a b : Pubkey} {w : VerifiedSignatures}

/-- The account `a` has approvals, and `t` is the ledger in which they are `w`. -/
structure OtherApprovals (a : Pubkey) (w : VerifiedSignatures) (s t : State Pubkey Hash) :
    Prop where
  stored : ∃ v, s.data a = .program (.verifiedSignatures v)
  other : t = s.setData a (.program (.verifiedSignatures w))

namespace OtherApprovals

theorem lamports (other : OtherApprovals a w s t) : t.lamports = s.lamports := by
  rw [other.other, setData_lamports]

theorem clock (other : OtherApprovals a w s t) : t.clock = s.clock := by
  rw [other.other, setData_clock]

theorem ne (other : OtherApprovals a w s t) {d : AccountData Pubkey Hash} (hdata : s.data b = d)
    (hd : ∀ v, d ≠ .program (.verifiedSignatures v)) : b ≠ a := by
  rintro rfl
  obtain ⟨v, hv⟩ := other.stored
  exact hd v (hdata.symm.trans hv)

theorem data_eq (other : OtherApprovals a w s t) {d : AccountData Pubkey Hash}
    (hdata : s.data b = d) (hd : ∀ v, d ≠ .program (.verifiedSignatures v)) : t.data b = d := by
  rw [other.other, setData_data, Function.update_of_ne (other.ne hdata hd), hdata]

theorem programData_eq (other : OtherApprovals a w s t) {d : ProgramData Pubkey Hash}
    (hdata : s.programData b = some d) (hd : ∀ v, d ≠ .verifiedSignatures v) :
    t.programData b = some d := by
  rw [programData_eq_some] at hdata ⊢
  exact other.data_eq hdata fun v heq => hd v (AccountData.program.inj heq)

theorem isSystem_eq (other : OtherApprovals a w s t) :
    (t.data b).isSystem = (s.data b).isSystem := by
  obtain ⟨v, hv⟩ := other.stored
  rw [other.other, setData_data]
  by_cases hb : b = a
  · rw [hb, Function.update_self, hv]
    rfl
  · rw [Function.update_of_ne hb]

theorem setLamports (other : OtherApprovals a w s t) (b : Pubkey) (n : ℕ) :
    OtherApprovals a w (s.setLamports b n) (t.setLamports b n) :=
  ⟨other.stored, by rw [other.other]; rfl⟩

theorem setData (other : OtherApprovals a w s t) (hb : b ≠ a) (d : AccountData Pubkey Hash) :
    OtherApprovals a w (s.setData b d) (t.setData b d) := by
  obtain ⟨v, hv⟩ := other.stored
  refine ⟨⟨v, by rw [setData_data, Function.update_of_ne hb.symm, hv]⟩, ?_⟩
  rw [other.other]
  simp only [State.setData, Function.update_comm hb]

end OtherApprovals

/-- When the first computation succeeds, so does the second, with a result that
differs as the states before did. -/
def Mirrors (a : Pubkey) (w : VerifiedSignatures)
    (x y : Except ProgramError (State Pubkey Hash)) : Prop :=
  ∀ s', x = .ok s' → ∃ t', y = .ok t' ∧ OtherApprovals a w s' t'

theorem systemTransfer_mirrors (other : OtherApprovals a w s t) (source target : Pubkey)
    (n : ℕ) :
    Mirrors a w (systemTransfer s source target n) (systemTransfer t source target n) := by
  intro s' h
  simp only [systemTransfer, bind_eq_ok, require_eq_ok, checkedSub_eq_ok, checkedAdd_eq_ok,
    pure_eq_ok, other.isSystem_eq, other.lamports] at h ⊢
  obtain ⟨-, hsystem, left, hleft, total, htotal, rfl⟩ := h
  simp only [setLamports_lamports, other.lamports] at htotal ⊢
  exact ⟨_, ⟨(), hsystem, left, hleft, total, htotal, rfl⟩,
    (other.setLamports source left).setLamports target total⟩

theorem createAccount_mirrors (other : OtherApprovals a w s t) (payer : Pubkey) (len : ℕ)
    (d : AccountData Pubkey Hash) :
    Mirrors a w (createAccount rt s payer b len d) (createAccount rt t payer b len d) := by
  intro s' h
  simp only [createAccount, bind_eq_ok, require_eq_ok, pure_eq_ok, other.isSystem_eq,
    other.lamports] at h ⊢
  obtain ⟨-, hsystem, -, hne, u, htransfer, rfl⟩ := h
  obtain ⟨u', htransfer', hother⟩ := systemTransfer_mirrors other _ _ _ u htransfer
  refine ⟨_, ⟨(), hsystem, (), hne, u', htransfer', rfl⟩, hother.setData ?_ d⟩
  exact other.ne (AccountData.isSystem_iff.mp hsystem) (by simp)

theorem createAssociatedToken_mirrors (other : OtherApprovals a w s t)
    (payer authority mint tokenProgram : Pubkey) :
    Mirrors a w (createAssociatedToken rt s payer b authority mint tokenProgram)
      (createAssociatedToken rt t payer b authority mint tokenProgram) := by
  intro s' h
  simp only [createAssociatedToken, bind_eq_ok, require_eq_ok, mintOf_eq_ok] at h ⊢
  obtain ⟨-, haddress, m, hm, hcreate⟩ := h
  obtain ⟨t', hcreate', hother⟩ := createAccount_mirrors other _ _ _ s' hcreate
  exact ⟨t', ⟨(), haddress, m, other.data_eq hm (by simp), hcreate'⟩, hother⟩

theorem initRecipientVaultIfNeeded_mirrors (other : OtherApprovals a w s t)
    (x : BridgeAssetTargetChain Pubkey) :
    Mirrors a w (initRecipientVaultIfNeeded rt s x) (initRecipientVaultIfNeeded rt t x) := by
  intro s' h
  simp only [initRecipientVaultIfNeeded, bind_eq_ok, require_eq_ok, pure_eq_ok, Prod.exists,
    readTokenAccount_eq_ok, other.isSystem_eq] at h ⊢
  obtain ⟨u, hcreate, owner, v, hv, -, howner, -, hmint, -, hrecipient, -, hprogram, -, haddress,
    rfl⟩ := h
  have hopen : ∃ u', (if (s.data x.recipientVault).isSystem = true then
      createAssociatedToken rt t x.operator x.recipientVault x.recipient x.mint x.tokenProgram
    else pure t) = .ok u' ∧ OtherApprovals a w u u' := by
    split at hcreate
    next hsystem =>
        rw [if_pos hsystem]
        exact createAssociatedToken_mirrors other _ _ _ _ u hcreate
    next hsystem =>
        rw [if_neg hsystem]
        obtain rfl := pure_eq_ok.mp hcreate
        exact ⟨t, rfl, other⟩
  obtain ⟨u', hcreate', hother⟩ := hopen
  exact ⟨u', ⟨u', hcreate', owner, v, hother.data_eq hv (by simp), (), howner, (), hmint, (),
    hrecipient, (), hprogram, (), haddress, rfl⟩, hother⟩

theorem transferChecked_mirrors (other : OtherApprovals a w s t)
    (tokenProgram source target mint authority : Pubkey) (amount : ℕ) (decimals : UInt8) :
    Mirrors a w (transferChecked rt s tokenProgram source target mint authority amount decimals)
      (transferChecked rt t tokenProgram source target mint authority amount decimals) := by
  intro s' h
  simp only [transferChecked, bind_eq_ok, tokenAccountOf_eq_ok, mintOf_eq_ok, require_eq_ok,
    checkedSub_eq_ok] at h ⊢
  obtain ⟨src, hsrc, dst, hdst, m, hm, -, hmints, -, hdecimals, -, howner, left, hleft, h⟩ := h
  have hread := fun {b} {x : TokenAccount Pubkey}
    (hx : s.data b = .tokenAccount tokenProgram x) => other.data_eq hx (by simp)
  have hwrite := fun {b} {x : TokenAccount Pubkey}
    (hx : s.data b = .tokenAccount tokenProgram x) => other.ne hx (by simp)
  split at h
  next hsame =>
      obtain rfl := pure_eq_ok.mp h
      exact ⟨t, ⟨src, hread hsrc, dst, hread hdst, m, other.data_eq hm (by simp), (), hmints, (),
        hdecimals, (), howner, left, hleft, by rw [if_pos hsame]; rfl⟩, other⟩
  next hsame =>
      simp only [bind_eq_ok, checkedAdd_eq_ok, pure_eq_ok] at h
      obtain ⟨total, htotal, rfl⟩ := h
      refine ⟨_, ⟨src, hread hsrc, dst, hread hdst, m, other.data_eq hm (by simp), (), hmints, (),
        hdecimals, (), howner, left, hleft, ?_⟩,
        (other.setData (hwrite hsrc) _).setData (hwrite hdst) _⟩
      rw [if_neg hsame]
      simp only [bind_eq_ok, checkedAdd_eq_ok, pure_eq_ok]
      exact ⟨total, htotal, rfl⟩

theorem mintTo_mirrors (other : OtherApprovals a w s t)
    (tokenProgram mint target authority : Pubkey) (amount : ℕ) :
    Mirrors a w (mintTo s tokenProgram mint target authority amount)
      (mintTo t tokenProgram mint target authority amount) := by
  intro s' h
  simp only [mintTo, bind_eq_ok, tokenAccountOf_eq_ok, mintOf_eq_ok, require_eq_ok,
    checkedAdd_eq_ok, pure_eq_ok] at h ⊢
  obtain ⟨m, hm, dst, hdst, -, hmint, -, hauthority, supply, hsupply, total, htotal, rfl⟩ := h
  exact ⟨_, ⟨m, other.data_eq hm (by simp), dst, other.data_eq hdst (by simp), (), hmint, (),
    hauthority, supply, hsupply, total, htotal, rfl⟩,
    (other.setData (other.ne hm (by simp)) _).setData (other.ne hdst (by simp)) _⟩

theorem paySol_mirrors (other : OtherApprovals a w s t) (chain : Chain)
    (bridgeHandler recipient : Pubkey) (dataLen : ℕ) (lamports accountIdx : UInt64) :
    Mirrors a w (paySol rt s chain bridgeHandler recipient dataLen lamports accountIdx)
      (paySol rt t chain bridgeHandler recipient dataLen lamports accountIdx) := by
  intro s' h
  cases chain with
  | solayer =>
      simp only [paySol, mintSolToRecipient, bind_eq_ok, require_eq_ok, checkedAdd_eq_ok,
        pure_eq_ok, other.lamports] at h ⊢
      obtain ⟨-, hsolayer, -, hminted, total, htotal, rfl⟩ := h
      exact ⟨_, ⟨(), hsolayer, (), hminted, total, htotal, rfl⟩, other.setLamports _ _⟩
  | solana =>
      simp only [paySol, transferSolToRecipient, bind_eq_ok, require_eq_ok, checkedAdd_eq_ok,
        checkedSub_eq_ok, pure_eq_ok, other.lamports, setLamports_lamports] at h ⊢
      obtain ⟨floor, hfloor, -, hfunds, left, hleft, total, htotal, rfl⟩ := h
      exact ⟨_, ⟨floor, hfloor, (), hfunds, left, hleft, total, htotal, rfl⟩,
        (other.setLamports _ _).setLamports _ _⟩

variable {call : Call Pubkey Hash} {p : PayoutCall Pubkey Hash} {q : PayoutQuote Pubkey}
  {ix : Instruction Pubkey Hash} {chain : Chain}

theorem openStep_mirrors (other : OtherApprovals a w s t) (ix : Instruction Pubkey Hash) :
    Mirrors a w (openStep rt s ix) (openStep rt t ix) := by
  cases ix with
  | bridgeAssetTargetChain x => exact initRecipientVaultIfNeeded_mirrors other x
  | _ =>
      intro s' h
      obtain rfl := pure_eq_ok.mp h
      exact ⟨t, rfl, other⟩

theorem initAccount_mirrors (other : OtherApprovals a w s t) {payer : Pubkey}
    {seeds : Seeds Pubkey Hash} {fresh : ProgramData Pubkey Hash} {bump : UInt8}
    (h : initAccount rt s payer seeds b fresh = .ok (s', bump)) :
    ∃ t', initAccount rt t payer seeds b fresh = .ok (t', bump) ∧ OtherApprovals a w s' t' := by
  simp only [initAccount, bind_eq_ok, require_eq_ok, pure_eq_ok, Prod.mk.injEq] at h ⊢
  obtain ⟨-, haddress, u, hcreate, rfl, rfl⟩ := h
  obtain ⟨u', hcreate', hother⟩ := createAccount_mirrors other _ _ _ u hcreate
  exact ⟨u', ⟨(), haddress, u', hcreate', rfl, rfl⟩, hother⟩

theorem tokenStep_mirrors (other : OtherApprovals a w s t) (chain : Chain)
    (token : TokenInfo Pubkey) (vaultAmount : ℕ) (decimals : UInt8)
    (ix : Instruction Pubkey Hash) :
    Mirrors a w (tokenStep rt s chain token vaultAmount decimals ix)
      (tokenStep rt t chain token vaultAmount decimals ix) := by
  intro s' h
  cases ix with
  | bridgeAssetTargetChain =>
      simp only [tokenStep, payTokens] at h ⊢
      split at h
      next hnative =>
          rw [if_pos hnative]
          simp only [bind_eq_ok, require_eq_ok] at h ⊢
          obtain ⟨-, hfunds, htransfer⟩ := h
          obtain ⟨t', htransfer', hother⟩ :=
            transferChecked_mirrors other _ _ _ _ _ _ _ s' htransfer
          exact ⟨t', ⟨(), hfunds, htransfer'⟩, hother⟩
      next hnative =>
          rw [if_neg hnative]
          split at h
          next hwrapped =>
              rw [if_pos hwrapped]
              exact mintTo_mirrors other _ _ _ _ _ s' h
          next => cases h
  | _ =>
      obtain rfl := pure_eq_ok.mp h
      exact ⟨t, rfl, other⟩

theorem solStep_mirrors (other : OtherApprovals a w s t) (chain : Chain)
    (ix : Instruction Pubkey Hash) :
    Mirrors a w (solStep rt s chain ix) (solStep rt t chain ix) := by
  intro s' h
  cases ix with
  | bridgeAssetTargetChain x msgHash sourceTxId sender sourceMint amount nonce gas =>
      simp only [solStep] at h ⊢
      split at h
      next hgas =>
          rw [if_pos hgas]
          exact paySol_mirrors other _ _ _ _ _ _ s' h
      next hgas =>
          rw [if_neg hgas]
          obtain rfl := pure_eq_ok.mp h
          exact ⟨t, rfl, other⟩
  | bridgeAssetTargetChainSol => exact paySol_mirrors other _ _ _ _ _ _ s' h
  | _ =>
      obtain rfl := pure_eq_ok.mp h
      exact ⟨t, rfl, other⟩

theorem finishStep_ok_of_other (other : OtherApprovals a w s t) {h h' : BridgeHandler Pubkey}
    {proof proof' : BridgeProof Pubkey Hash} (finished : finishStep s p h proof = .ok s') :
    ∃ t', finishStep t p h' proof' = .ok t' := by
  simp only [finishStep, bind_eq_ok, exitAccount_eq_ok, closeAccount_eq_ok] at finished ⊢
  obtain ⟨_, ⟨-, rfl⟩, _, ⟨-, rfl⟩, hroom, -⟩ := finished
  simp only [setData_lamports] at hroom
  exact ⟨_, _, ⟨Nat.le_refl _, rfl⟩, _, ⟨Nat.le_refl _, rfl⟩,
    by simpa only [setData_lamports, other.lamports] using hroom, rfl⟩

/-- A payout is possible with other approvals that pass its checks. -/
theorem payoutRun_of_other {s₁ s₂ s₃ s₄ : State Pubkey Hash} {charged : BridgeHandler Pubkey}
    (kind : payout? call.ix = some p) (run : PayoutRun rt s call p q s₁ s₂ s₃ s₄ s')
    (other : OtherApprovals p.verifiedSignatures w s t)
    (address : rt.createProgramAddress (.verifiedSignatures p.bridgeHandler p.msgHash) w.bump =
      some p.verifiedSignatures)
    (counted : w.pubkeyIndex ≠ [] ∧ w.pubkeyIndex.length ≤ q.guardians.guardians.length ∧
      w.pubkeyIndex.length ≤ maxGuardianSignatures)
    (approved : q.handler.guardianThreshold.toNat ≤ w.pubkeyIndex.length)
    (charge : chargeStep rt t.clock q.decimals w.createdAt q.handler call.ix = .ok charged) :
    ∃ t₁ t₂ t₃ t₄ t', PayoutRun rt t call p { q with approvals := w, charged } t₁ t₂ t₃ t₄ t' := by
  obtain ⟨t₁, hopened, hother₁⟩ := openStep_mirrors other call.ix s₁ run.opened
  obtain ⟨t₂, hcreated, hother₂⟩ := initAccount_mirrors hother₁ run.created
  obtain ⟨t₃, htokens, hother₃⟩ := tokenStep_mirrors hother₂ _ _ _ _ call.ix s₃ run.tokens
  obtain ⟨t₄, hsol, hother₄⟩ := solStep_mirrors hother₃ _ call.ix s₄ run.sol
  obtain ⟨t', hfinished⟩ : ∃ t', finishStep t₄ p charged
      (payoutProof t.clock q.bump p.msgHash p.sourceTxId p.recipient) = .ok t' :=
    finishStep_ok_of_other hother₄ run.finished
  have payout := run.payout
  refine ⟨t₁, t₂, t₃, t₄, t',
    { payout :=
        { signed := payout.signed
          handler := ⟨other.programData_eq payout.handler.stored (by simp),
            payout.handler.address⟩
          operator := payout.operator
          guardians := ⟨other.programData_eq payout.guardians.stored (by simp),
            payout.guardians.address⟩
          approvals := ⟨?_, address⟩
          proofAddress := payout.proofAddress
          proofFresh := ?_
          unpaused := payout.unpaused
          counted
          approved }
      message := run.message
      apart := run.apart
      terms := fun x amount htoken => ?_
      charged := charge
      opened := hopened
      created := hcreated
      tokens := htokens
      sol := hsol
      finished := hfinished }⟩
  · rw [programData_eq_some, other.other, setData_data, Function.update_self]
  · have accounts := run.accounts kind
    exact programData_eq_none_of_system (other.data_eq accounts.proof (by simp))
  · obtain ⟨hprogram, ⟨m, hm, hdecimals⟩, ⟨v, hv, hvault⟩, haddress, htoken⟩ :=
      run.terms x amount htoken
    exact ⟨hprogram, ⟨m, other.data_eq hm (by simp), hdecimals⟩,
      ⟨v, other.data_eq hv (by simp), hvault⟩, haddress,
      ⟨other.programData_eq htoken.stored (by simp), htoken.address⟩⟩

variable [DecidableEq Hash] {vcall : Call Pubkey Hash} {x : VerifySignature Pubkey}
  {signerIndexes : List UInt8} {returned returned' : Option UInt64}
  {h : BridgeHandler Pubkey} {s₁ : State Pubkey Hash}

/-- The approvals of the payout, after the call. -/
structure ApprovedAgain (rt : Runtime Pubkey Hash) (s s' : State Pubkey Hash)
    (p : PayoutCall Pubkey Hash) (q : PayoutQuote Pubkey) (w : VerifiedSignatures) : Prop where
  other : OtherApprovals p.verifiedSignatures w s s'
  address : rt.createProgramAddress (.verifiedSignatures p.bridgeHandler p.msgHash) w.bump =
    some p.verifiedSignatures
  more : q.approvals.pubkeyIndex.length ≤ w.pubkeyIndex.length
  counted : w.pubkeyIndex ≠ [] ∧ w.pubkeyIndex.length ≤ q.guardians.guardians.length ∧
    w.pubkeyIndex.length ≤ maxGuardianSignatures
  createdAt : w.createdAt = s.clock.unixTimestamp

theorem exists_approvedAgain (collisionFree : CollisionFree rt) (reachable : LedgerReachable rt s)
    (pays : PaysWith rt s call p q s₁)
    (ix : vcall.ix = .verifySignature x p.msgHash signerIndexes)
    (handler : x.bridgeHandler = p.bridgeHandler)
    (verified : execute rt s vcall = .ok (s', returned)) :
    ∃ w, ApprovedAgain rt s s' p q w := by
  have canonical := canonical_of_reachable reachable
  have payout := pays.payout
  obtain ⟨-, -, -, bump, -, -, -, found, -⟩ :=
    (execute_refines verified).1.of_verifySignature ix
  rw [handler] at found
  -- the call and the payout mean the same accounts
  obtain ⟨owner, hash, hfind⟩ := canonical.approvals _ _ payout.approvals.stored
  have hseeds := seeds_eq_of_canonical collisionFree hfind payout.approvals.address
  rw [hseeds, found] at hfind
  obtain ⟨haccount, hbump⟩ := Prod.mk.inj hfind
  let target : ApprovalTarget Pubkey Hash :=
    { bridgeHandler := x.bridgeHandler, guardianInfo := x.guardianInfo
      verifiedSignatures := x.verifiedSignatures, msgHash := p.msgHash }
  let b : Submission Pubkey :=
    { signers := vcall.signers, operator := x.operator, ixSysvar := vcall.ixSysvar
      signerIndexes }
  have hcall : vcall = b.call target := by
    obtain ⟨signers, ixSysvar, vix⟩ := vcall
    simp only at ix
    rw [ix]
    rfl
  have hstored : s.data target.verifiedSignatures =
      .program (.verifiedSignatures q.approvals) := by
    rw [show target.verifiedSignatures = p.verifiedSignatures from haccount]
    exact programData_eq_some.mp payout.approvals.stored
  rw [hcall, execute_submission_iff hstored] at verified
  obtain ⟨g', submittable, accepted, rfl, -⟩ := verified
  obtain ⟨keys, selected⟩ := accepted.selected
  -- both calls read the same guardian list
  obtain ⟨hstored', haddress'⟩ := loadGuardianInfo_eq_ok.mp submittable.guardians
  have hguardians : GuardiansAt rt s.programData p.bridgeHandler x.guardianInfo g' :=
    ⟨programData_eq_some.mpr hstored', by rw [← handler]; exact haddress'⟩
  obtain ⟨-, rfl⟩ := guardiansAt_unique collisionFree canonical hguardians payout.guardians
  have htarget : target.verifiedSignatures = p.verifiedSignatures := haccount
  have hcreate := rt.create_of_find found
  refine ⟨appended rt target s.clock q.approvals signerIndexes, ⟨⟨q.approvals, ?_⟩, ?_⟩, ?_, ?_,
    ⟨?_, ?_, ?_⟩, rfl⟩
  · rw [← htarget, hstored]
  · rw [← htarget]
    rfl
  · have hfound : rt.findProgramAddress (.verifiedSignatures target.bridgeHandler
        target.msgHash) = (x.verifiedSignatures, bump) := by
      rw [← found, ← handler]
    rw [appended, hfound, ← haccount]
    exact hcreate
  · simp [appended]
  · exact fun hnil => selected.nonempty (List.append_eq_nil_iff.mp hnil).2
  · simpa [appended] using selected.total
  · simpa [appended] using selected.limit

omit [DecidableEq Hash] in
theorem dollarValue_of_other (pays : PaysWith rt s call p q s₁) (other : OtherApprovals a w s t) :
    dollarValue? rt t call.ix = dollarValue? rt s call.ix := by
  cases hix : call.ix with
  | bridgeAssetTargetChain x =>
      obtain ⟨m, hm, -⟩ := (pays.terms (a := x) (by rw [hix]; rfl)).mint
      simp only [dollarValue?, hm, other.data_eq hm (by simp)]
  | _ => rfl

omit [DecidableEq Pubkey] [DecidableEq Hash] in
theorem solana_of_capValue {decimals : UInt8} {ix : Instruction Pubkey Hash} {value : UInt64}
    (charged : capValue rt chain decimals ix = some value) : chain = .solana := by
  by_cases hchain : chain = .solana
  · exact hchain
  · cases ix <;> simp [capValue, hchain] at charged

/-- A payout that is possible is still possible after one more `verify_signature`
for its message hash at the same time, exactly when it does not have to wait: it is
not charged to the instant cap, or its value fits into what is left of the cap. -/
theorem payout_after_approval_iff (collisionFree : CollisionFree rt)
    (reachable : LedgerReachable rt s) (kind : payout? call.ix = some p)
    (possible : execute rt s call = .ok (s₁, returned))
    (ix : vcall.ix = .verifySignature x p.msgHash signerIndexes)
    (handler : x.bridgeHandler = p.bridgeHandler)
    (verified : execute rt s vcall = .ok (s', returned')) :
    (∃ s₂ returned₂, execute rt s' call = .ok (s₂, returned₂)) ↔
      ∀ h, HandlerAt rt s.programData p.bridgeHandler h → h.chain = .solana →
        ∀ value, dollarValue? rt s call.ix = some value →
          value ≤ budgetLeft s.clock.epoch h := by
  obtain ⟨q, pays⟩ := paysWith_of_executed kind possible
  obtain ⟨w, again⟩ := exists_approvedAgain collisionFree reachable pays ix handler verified
  have other := again.other
  constructor
  · rintro ⟨s₂, returned₂, possible'⟩ h hhandler chain value hvalue
    obtain ⟨q', pays'⟩ := paysWith_of_executed kind possible'
    have hstored := other.programData_eq hhandler.stored (by simp)
    obtain rfl : q'.handler = h := by
      simpa using pays'.payout.handler.stored.symm.trans hstored
    have happrovals : q'.approvals = w := by
      have hnew : s'.programData p.verifiedSignatures = some (.verifiedSignatures w) := by
        rw [programData_eq_some, other.other, setData_data, Function.update_self]
      simpa using pays'.payout.approvals.stored.symm.trans hnew
    have hcharge := chargeStep_eq_ok.mp pays'.charged
    rw [capValue_of_pays pays' chain, dollarValue_of_other pays other, hvalue] at hcharge
    -- the approvals have just been stored, so the payout has not waited
    obtain ⟨charge, -⟩ := chargedOrWaited_of_charge hcharge
    rw [other.clock] at charge
    cases charge with
    | charged fits => exact fits
    | waited _ wait =>
        rw [happrovals, again.createdAt] at wait
        have hlong : 0 < solanaPostInstantCapAwaitingTimeSeconds.toNat := by decide
        omega
  · intro fits
    have hcharge : ∃ charged,
        chargeStep rt s'.clock q.decimals w.createdAt q.handler call.ix = .ok charged := by
      simp only [chargeStep_eq_ok, other.clock]
      cases hvalue : capValue rt q.handler.chain q.decimals call.ix with
      | none => exact ⟨q.handler, rfl⟩
      | some value =>
          have hchain := solana_of_capValue hvalue
          rw [capValue_of_pays pays hchain] at hvalue
          have hfits := fits _ pays.payout.handler hchain value hvalue
          rw [← resetInstantCap_left] at hfits
          exact ⟨_, chargeInstantCap_of_le hfits⟩
    obtain ⟨charged, hcharge⟩ := hcharge
    obtain ⟨_, s₁', s₂', s₃', s₄', run⟩ := pays
    obtain ⟨t₁, t₂, t₃, t₄, t', run'⟩ := payoutRun_of_other kind run other again.address
      again.counted (run.payout.approved.trans again.more) hcharge
    exact ⟨t', none, (execute_payout_iff kind).mpr ⟨_, t₁, t₂, t₃, t₄, run'⟩⟩

/-- A Solana handler with two guardians, one of whom has approved the sample transfer. -/
def halfApproved : List (Call Key Digest) :=
  fundedApproval ++ [addGuardianBy (.atom 5) (handlerKey 7) (.atom 12)]

/-- The approval of the second guardian. -/
def secondApproval : Call Key Digest :=
  verifyBy (.atom 6) (handlerKey 7) sampleTransfer.msgHash [1] [.atom 12]

theorem payout_after_approval_sample :
    let rt := symbolicRuntime false
    let s := stateAfter rt sampleLedger halfApproved
    ∃ s' returned', execute rt s secondApproval = .ok (s', returned') ∧
      ∃ s₂ returned₂, execute rt s' samplePayment = .ok (s₂, returned₂) := by
  intro rt s
  have hreachable : LedgerReachable rt s :=
    ⟨sampleLedger, _, genesis_ledgerOf _, run_callTrace (by decide +kernel)⟩
  obtain ⟨returned, hpaid⟩ := exists_step_of_executeAll rt s samplePayment (by decide +kernel)
  obtain ⟨returned', hverified⟩ :=
    exists_step_of_executeAll rt s secondApproval (by decide +kernel)
  obtain ⟨h, handler, hbudget⟩ := exists_handlerAt false s (handlerKey 7)
    (fun h => dollarValue? rt s samplePayment.ix = some 1 ∧ 1 ≤ budgetLeft s.clock.epoch h)
    (by decide +kernel)
  obtain ⟨hvalue, hbudget⟩ := of_decide_eq_true hbudget
  generalize stateAfter rt s [samplePayment] = s₁ at hpaid
  generalize stateAfter rt s [secondApproval] = s' at hverified
  clear_value s
  cases hpaid with
  | call possible =>
      cases hverified with
      | call verified =>
          refine ⟨s', returned', verified,
            (payout_after_approval_iff (symbolicRuntime_collisionFree false) hreachable rfl possible
              rfl rfl verified).mpr fun x hx _ value hsome => ?_⟩
          obtain rfl : x = h := hx.unique handler
          obtain rfl : value = 1 := Option.some.inj (hsome.symm.trans hvalue)
          exact hbudget

/-- Time passes within an epoch. -/
def atTime (s : State Key Digest) (unixTimestamp : UInt64) : State Key Digest :=
  { s with clock := { s.clock with unixTimestamp } }

theorem otherChange_atTime (s : State Key Digest) (unixTimestamp : UInt64) :
    OtherChange s (atTime s unixTimestamp) :=
  ⟨rfl, fun _ _ => Nat.le_refl _⟩

/-- The cap is exhausted and the payout has waited for six hours; after the second
approval it has to wait again. -/
theorem approval_undoes_payout :
    ¬ ∀ s, LedgerReachable (symbolicRuntime false) s →
      ∀ call p s₁ returned, payout? call.ix = some p →
        execute (symbolicRuntime false) s call = .ok (s₁, returned) →
        ∀ vcall x signerIndexes s' returned',
          vcall.ix = .verifySignature x p.msgHash signerIndexes →
          x.bridgeHandler = p.bridgeHandler →
          execute (symbolicRuntime false) s vcall = .ok (s', returned') →
          ∃ s₂ returned₂, execute (symbolicRuntime false) s' call = .ok (s₂, returned₂) := by
  intro kept
  let rt := symbolicRuntime false
  let s := atTime (stateAfter rt sampleLedger
    (halfApproved ++ [updateCapBy (.atom 5) (handlerKey 7) 0]))
    solanaPostInstantCapAwaitingTimeSeconds
  have hreachable : LedgerReachable rt s :=
    Reachable.next ⟨sampleLedger, _, genesis_ledgerOf _, run_callTrace (by decide +kernel)⟩
      (.other (otherChange_atTime _ _))
  obtain ⟨returned, hpaid⟩ := exists_step_of_executeAll rt s samplePayment (by decide +kernel)
  obtain ⟨returned', hverified⟩ :=
    exists_step_of_executeAll rt s secondApproval (by decide +kernel)
  have hfails : (execute rt (stateAfter rt s [secondApproval]) samplePayment).isOk = false := by
    decide +kernel
  generalize stateAfter rt s [samplePayment] = s₁ at hpaid
  generalize stateAfter rt s [secondApproval] = s' at hverified hfails
  clear_value s
  cases hpaid with
  | call possible =>
      cases hverified with
      | call verified =>
          obtain ⟨s₂, returned₂, hagain⟩ := kept s hreachable samplePayment _ s₁ returned rfl
            possible secondApproval _ _ s' returned' rfl rfl verified
          rw [hagain] at hfails
          cases hfails

end BridgeProgram.LaterApprovals
