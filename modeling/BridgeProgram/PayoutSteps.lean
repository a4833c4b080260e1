import BridgeProgram.BalanceEffects
import BridgeProgram.RegistryRefinement

/-!
Both payouts as one sequence of steps: open the recipient's token account, create
the proof, pay tokens, pay lamports, store the handler and the proof, and close
the approvals. A successful payout is such a sequence, and its effect is a change
of balances and of a few shapes.
-/

namespace BridgeProgram.PayoutSteps

open BridgeProgram.AccountEffects
open BridgeProgram.AnchorAccounts
open BridgeProgram.BalanceEffects
open BridgeProgram.BalanceShifts
open BridgeProgram.BridgeProgramEntry
open BridgeProgram.CheckedResult
open BridgeProgram.MessageFormats
open BridgeProgram.ProgramStates
open BridgeProgram.RegistryModel
open BridgeProgram.RegistryRefinement
open BridgeProgram.SolanaRuntime
open BridgeProgram.TargetInstructions
open BridgeProgram.TokenInstructions
open BridgeProgram.TokenPrograms

variable {Pubkey Hash : Type}

/-- Lamports that a payout pays to its recipient. -/
def solAmount : Instruction Pubkey Hash → ℕ
  | .bridgeAssetTargetChain _ _ _ _ _ _ _ additionalSolGas => additionalSolGas.toNat
  | .bridgeAssetTargetChainSol _ _ _ _ receiveAmount _ => receiveAmount.toNat
  | _ => 0

/-- The accounts and the amount of a token payout. -/
def tokenPayment? :
    Instruction Pubkey Hash → Option (BridgeAssetTargetChain Pubkey × UInt64)
  | .bridgeAssetTargetChain a _ _ _ _ receiveAmount _ _ => some (a, receiveAmount)
  | _ => none

/-- The message of a payout has the hash that the payout names. -/
def MessageMatches (rt : Runtime Pubkey Hash) : Instruction Pubkey Hash → Prop
  | .bridgeAssetTargetChain a msgHash sourceTxId sender sourceMint amount nonce gas =>
      gas ≤ maxAdditionalSolGas ∧
      rt.hash (bridgeAssetTargetChainMessageData (rt.pubkeyBytes sender)
        (rt.pubkeyBytes a.recipient) (rt.pubkeyBytes sourceMint) (rt.pubkeyBytes a.mint)
        amount nonce sourceTxId gas) = msgHash
  | .bridgeAssetTargetChainSol a msgHash sourceTxId sender amount nonce =>
      rt.hash (bridgeAssetTargetChainSolMessageData (rt.pubkeyBytes sender)
        (rt.pubkeyBytes a.recipient) amount nonce sourceTxId) = msgHash
  | _ => False

/-- The charge of a payout to the instant cap. -/
def chargeStep (rt : Runtime Pubkey Hash) (clock : Clock) (decimals : UInt8)
    (createdAt : UInt64) (h : BridgeHandler Pubkey) :
    Instruction Pubkey Hash → Except ProgramError (BridgeHandler Pubkey)
  | .bridgeAssetTargetChain a _ _ _ _ receiveAmount _ _ =>
      chargeTokenPayout rt clock a.mint receiveAmount decimals createdAt h
  | .bridgeAssetTargetChainSol _ _ _ _ receiveAmount _ =>
      chargeSolPayout rt clock receiveAmount createdAt h
  | _ => pure h

theorem chargeStep_sameButCap {rt : Runtime Pubkey Hash} {clock : Clock} {decimals : UInt8}
    {createdAt : UInt64} {h h' : BridgeHandler Pubkey} {ix : Instruction Pubkey Hash}
    (charged : chargeStep rt clock decimals createdAt h ix = .ok h') : SameButCap h h' := by
  cases ix with
  | bridgeAssetTargetChain => exact chargeTokenPayout_sameButCap charged
  | bridgeAssetTargetChainSol => exact chargeSolPayout_sameButCap charged
  | _ =>
      obtain rfl := pure_eq_ok.mp charged
      exact .refl h

variable [DecidableEq Pubkey]

def openStep (rt : Runtime Pubkey Hash) (s : State Pubkey Hash) :
    Instruction Pubkey Hash → Except ProgramError (State Pubkey Hash)
  | .bridgeAssetTargetChain a .. => initRecipientVaultIfNeeded rt s a
  | _ => pure s

def tokenStep (rt : Runtime Pubkey Hash) (s : State Pubkey Hash) (chain : Chain)
    (t : TokenInfo Pubkey) (vaultAmount : ℕ) (decimals : UInt8) :
    Instruction Pubkey Hash → Except ProgramError (State Pubkey Hash)
  | .bridgeAssetTargetChain a _ _ _ _ receiveAmount _ _ =>
      payTokens rt s a chain t vaultAmount decimals receiveAmount
  | _ => pure s

/-- Size of a handler account. -/
def handlerLen : ℕ := 8 + 188

def solStep (rt : Runtime Pubkey Hash) (s : State Pubkey Hash) (chain : Chain) :
    Instruction Pubkey Hash → Except ProgramError (State Pubkey Hash)
  | .bridgeAssetTargetChain a _ _ _ _ _ _ additionalSolGas =>
      if 0 < additionalSolGas then
        paySol rt s chain a.bridgeHandler a.recipient handlerLen additionalSolGas 2
      else pure s
  | .bridgeAssetTargetChainSol a _ _ _ receiveAmount _ =>
      paySol rt s chain a.bridgeHandler a.recipient handlerLen receiveAmount 1
  | _ => pure s

/-- The end of a payout. -/
def finishStep (s : State Pubkey Hash) (p : PayoutCall Pubkey Hash)
    (h : BridgeHandler Pubkey) (proof : BridgeProof Pubkey Hash) :
    Except ProgramError (State Pubkey Hash) := do
  let s ← exitAccount .mutable s p.bridgeHandler (.bridgeHandler h)
  let s ← exitAccount .mutable s p.bridgeProof (.bridgeProof proof)
  closeAccount s p.verifiedSignatures p.operator

omit [DecidableEq Pubkey] in
/-- The token accounts that a token payout loads. -/
structure TokenTerms (rt : Runtime Pubkey Hash) (s : State Pubkey Hash)
    (a : BridgeAssetTargetChain Pubkey) (t : TokenInfo Pubkey) (decimals : UInt8)
    (vaultAmount : ℕ) : Prop where
  program : a.tokenProgram ∈ rt.tokenPrograms
  mint : ∃ m, s.data a.mint = .mint a.tokenProgram m ∧ m.decimals = decimals
  vault : ∃ w, s.data a.bridgeHandlerVault = .tokenAccount a.tokenProgram w ∧
    w.owner = a.bridgeHandler ∧ w.amount = vaultAmount
  vaultAddress : rt.associatedTokenAddress a.bridgeHandler a.mint a.tokenProgram =
    a.bridgeHandlerVault
  token : TokenInfoAt rt s.programData a.bridgeHandler a.mint a.tokenInfo t

/-- What a payout reads before it changes anything, and the charged handler. -/
structure PayoutQuote (Pubkey : Type) where
  handler : BridgeHandler Pubkey
  charged : BridgeHandler Pubkey
  guardians : GuardianInfo Pubkey
  approvals : VerifiedSignatures
  bump : UInt8
  token : TokenInfo Pubkey
  decimals : UInt8
  vaultAmount : ℕ

/-- A successful payout with the states between its steps. -/
structure PayoutRun (rt : Runtime Pubkey Hash) (s : State Pubkey Hash)
    (call : Call Pubkey Hash) (p : PayoutCall Pubkey Hash) (q : PayoutQuote Pubkey)
    (s₁ s₂ s₃ s₄ s' : State Pubkey Hash) : Prop where
  payout : Payout rt s.programData call.signers p q.handler q.guardians q.approvals q.bump
  message : MessageMatches rt call.ix
  apart : p.verifiedSignatures ≠ p.operator
  terms : ∀ a amount, tokenPayment? call.ix = some (a, amount) →
    TokenTerms rt s a q.token q.decimals q.vaultAmount
  charged : chargeStep rt s.clock q.decimals q.approvals.createdAt q.handler call.ix =
    .ok q.charged
  opened : openStep rt s call.ix = .ok s₁
  created : initAccount rt s₁ p.operator
    (.bridgeProofTarget p.bridgeHandler (rt.hash p.sourceTxId.toList)) p.bridgeProof
    (.bridgeProof (zeroBridgeProof rt)) = .ok (s₂, q.bump)
  tokens : tokenStep rt s₂ q.handler.chain q.token q.vaultAmount q.decimals call.ix = .ok s₃
  sol : solStep rt s₃ q.handler.chain call.ix = .ok s₄
  finished : finishStep s₄ p q.charged
    (payoutProof s.clock q.bump p.msgHash p.sourceTxId p.recipient) = .ok s'

variable {rt : Runtime Pubkey Hash} {s s' s₁ s₂ s₃ s₄ : State Pubkey Hash}
  {call : Call Pubkey Hash} {p : PayoutCall Pubkey Hash} {q : PayoutQuote Pubkey}

theorem load_of_handlerAt {a : Pubkey} {h : BridgeHandler Pubkey}
    (handler : HandlerAt rt s.programData a h) : loadBridgeHandler rt s a = .ok h :=
  loadBridgeHandler_eq_ok.mpr ⟨programData_eq_some.mp handler.stored, handler.address⟩

theorem load_of_guardiansAt {bridgeHandler a : Pubkey} {g : GuardianInfo Pubkey}
    (guardians : GuardiansAt rt s.programData bridgeHandler a g) :
    loadGuardianInfo rt s bridgeHandler a = .ok g :=
  loadGuardianInfo_eq_ok.mpr ⟨programData_eq_some.mp guardians.stored, guardians.address⟩

theorem load_of_tokenInfoAt {bridgeHandler mint a : Pubkey} {t : TokenInfo Pubkey}
    (token : TokenInfoAt rt s.programData bridgeHandler mint a t) :
    loadTokenInfo rt s bridgeHandler mint a = .ok t :=
  loadTokenInfo_eq_ok.mpr ⟨programData_eq_some.mp token.stored, token.address⟩

theorem load_of_approvalsAt {bridgeHandler a : Pubkey} {msgHash : Hash}
    {v : VerifiedSignatures}
    (approvals : ApprovalsAt rt s.programData bridgeHandler msgHash a v) :
    loadVerifiedSignatures rt s bridgeHandler msgHash a = .ok v :=
  loadVerifiedSignatures_eq_ok.mpr ⟨programData_eq_some.mp approvals.stored, approvals.address⟩

theorem loadBridgeHandlerVault_eq_ok {a : BridgeAssetTargetChain Pubkey}
    {w : TokenAccount Pubkey} (hprogram : a.tokenProgram ∈ rt.tokenPrograms) :
    loadBridgeHandlerVault rt s a = .ok w ↔
      s.data a.bridgeHandlerVault = .tokenAccount a.tokenProgram w ∧
        w.owner = a.bridgeHandler ∧
        rt.associatedTokenAddress a.bridgeHandler a.mint a.tokenProgram =
          a.bridgeHandlerVault := by
  simp only [loadBridgeHandlerVault, bind_eq_ok, require_eq_ok, pure_eq_ok, Prod.exists,
    readTokenAccount_eq_ok]
  constructor
  · rintro ⟨owner, t, hdata, -, -, -, howner, -, haddress, -, rfl, rfl⟩
    exact ⟨hdata, howner, haddress⟩
  · rintro ⟨hdata, howner, haddress⟩
    exact ⟨_, w, hdata, (), hprogram, (), howner, (), haddress, (), rfl, rfl⟩

theorem solPayout_run {signers : List Pubkey} {ixSysvar : InstructionsSysvar Pubkey}
    [DecidableEq Hash] {a : BridgeAssetTargetChainSol Pubkey} {msgHash : Hash}
    {sourceTxId : Vector UInt8 64} {sender : Pubkey} {receiveAmount nonce : UInt64} :
    bridgeAssetTargetChainSol rt signers s a msgHash sourceTxId sender receiveAmount nonce =
        .ok s' ↔
      ∃ q s₁ s₂ s₃ s₄, PayoutRun rt s ⟨signers, ixSysvar, .bridgeAssetTargetChainSol a msgHash
        sourceTxId sender receiveAmount nonce⟩
        (BridgeAssetTargetChainSol.payout a msgHash sourceTxId) q s₁ s₂ s₃ s₄ s' := by
  simp only [bridgeAssetTargetChainSol, bind_eq_ok, checkSigner_eq_ok, require_eq_ok,
    Prod.exists, checkApprovals_eq_ok]
  constructor
  · rintro ⟨-, signed, h, hload, -, hoperator, g, gload, v, vload, -, hapart, s₁, bump, hinit, -,
      hunpaused, h', hcharge, -, ⟨hcounted, happroved⟩, -, hmessage, s₂, hsol, s₃, hexit₁, s₄,
      hexit₂, hclose⟩
    obtain ⟨haddress, hfresh, -, hclock⟩ := initAccount_effect hinit
    have hcap := chargeSolPayout_sameButCap hcharge
    rw [hclock] at hcharge
    rw [hclock, hmessage] at hexit₂
    rw [hcap.guardianThreshold] at happroved
    rw [hcap.chain] at hsol
    exact ⟨⟨h, h', g, v, bump, zeroTokenInfo rt, 0, 0⟩, s, s₁, s₁, s₂,
      { payout := ⟨signed, handlerAt_of_load hload, hoperator, guardiansAt_of_load gload,
          approvalsAt_of_load vload, haddress, hfresh, hunpaused, hcounted, happroved⟩
        message := hmessage
        apart := hapart
        terms := by simp [tokenPayment?]
        charged := hcharge
        opened := rfl
        created := hinit
        tokens := rfl
        sol := hsol
        finished := by
          simp only [finishStep, bind_eq_ok]
          exact ⟨s₃, hexit₁, s₄, hexit₂, hclose⟩ }⟩
  · rintro ⟨⟨h, h', g, v, bump, t, decimals, vaultAmount⟩, s₁, s₂, s₃, s₄,
      payout, message, apart, -, charged, opened, created, tokens, sol, finished⟩
    obtain rfl := pure_eq_ok.mp opened
    obtain rfl := pure_eq_ok.mp tokens
    obtain ⟨-, -, -, hclock⟩ := initAccount_effect created
    have hcap := chargeStep_sameButCap charged
    simp only [finishStep, bind_eq_ok] at finished
    obtain ⟨s₅, hexit₁, s₆, hexit₂, hclose⟩ := finished
    refine ⟨(), payout.signed, h, load_of_handlerAt payout.handler, (), payout.operator, g,
      load_of_guardiansAt payout.guardians, v, load_of_approvalsAt payout.approvals, (), apart,
      s₂, bump, created, (), payout.unpaused, h', by rw [hclock]; exact charged, (),
      ⟨payout.counted, by rw [hcap.guardianThreshold]; exact payout.approved⟩, (), message,
      s₄, by rw [hcap.chain]; exact sol, s₅, hexit₁, s₆, ?_, hclose⟩
    rw [hclock, show rt.hash _ = msgHash from message]
    exact hexit₂

theorem tokenPayout_run {signers : List Pubkey} {ixSysvar : InstructionsSysvar Pubkey}
    [DecidableEq Hash] {a : BridgeAssetTargetChain Pubkey} {msgHash : Hash}
    {sourceTxId : Vector UInt8 64} {sender sourceMint : Pubkey}
    {receiveAmount nonce gas : UInt64} :
    bridgeAssetTargetChain rt signers s a msgHash sourceTxId sender sourceMint receiveAmount
        nonce gas = .ok s' ↔
      ∃ q s₁ s₂ s₃ s₄, PayoutRun rt s ⟨signers, ixSysvar, .bridgeAssetTargetChain a msgHash
        sourceTxId sender sourceMint receiveAmount nonce gas⟩
        (BridgeAssetTargetChain.payout a msgHash sourceTxId) q s₁ s₂ s₃ s₄ s' := by
  simp only [bridgeAssetTargetChain, checkTokenProgram, bind_eq_ok, checkSigner_eq_ok,
    require_eq_ok, Prod.exists, checkApprovals_eq_ok, loadMint_eq_ok]
  constructor
  · rintro ⟨-, signed, -, hprogram, m, ⟨hmint, -⟩, h, hload, -, hoperator, w, hvault, g, gload, v,
      vload, -, hapart, t, tload, s₁, hopen, s₂, bump, hinit, -, hunpaused, h', hcharge, -,
      ⟨hcounted, happroved⟩, -, hgas, -, hmessage, s₃, htokens, s₄, hsol, s₅, hexit₁, s₆,
      hexit₂, hclose⟩
    have hsame₁ := initRecipientVaultIfNeeded_sameProgram hopen
    obtain ⟨haddress, hfresh, -, hclock⟩ := initAccount_effect hinit
    obtain ⟨-, hsame₃⟩ := payTokens_sameProgram htokens
    have hcap := chargeTokenPayout_sameButCap hcharge
    have hclock₂ : s₂.clock = s.clock := hclock.trans hsame₁.2
    rw [hclock₂] at hcharge
    rw [hsame₃.2, hclock₂, hmessage] at hexit₂
    rw [hcap.guardianThreshold] at happroved
    rw [hcap.chain] at hsol htokens
    rw [hsame₁.1] at hfresh
    obtain ⟨hw, howner, hwAddress⟩ := (loadBridgeHandlerVault_eq_ok hprogram).mp hvault
    exact ⟨⟨h, h', g, v, bump, t, m.decimals, w.amount⟩, s₁, s₂, s₃, s₄,
      { payout := ⟨signed, handlerAt_of_load hload, hoperator, guardiansAt_of_load gload,
          approvalsAt_of_load vload, haddress, hfresh, hunpaused, hcounted, happroved⟩
        message := ⟨hgas, hmessage⟩
        apart := hapart
        terms := by
          rintro a' amount heq
          obtain ⟨rfl, -⟩ := Prod.mk.inj (Option.some.inj heq)
          exact ⟨hprogram, ⟨m, hmint, rfl⟩, ⟨w, hw, howner, rfl⟩, hwAddress,
            tokenInfoAt_of_load tload⟩
        charged := hcharge
        opened := hopen
        created := hinit
        tokens := htokens
        sol := hsol
        finished := by
          simp only [finishStep, bind_eq_ok]
          exact ⟨s₅, hexit₁, s₆, hexit₂, hclose⟩ }⟩
  · rintro ⟨⟨h, h', g, v, bump, t, decimals, vaultAmount⟩, s₁, s₂, s₃, s₄,
      payout, message, apart, terms, charged, opened, created, tokens, sol, finished⟩
    obtain ⟨hprogram, ⟨m, hmint, rfl⟩, ⟨w, hw, howner, rfl⟩, hwAddress, token⟩ :=
      terms a receiveAmount rfl
    have hsame₁ := initRecipientVaultIfNeeded_sameProgram opened
    obtain ⟨-, -, -, hclock⟩ := initAccount_effect created
    obtain ⟨-, hsame₃⟩ := payTokens_sameProgram tokens
    have hcap := chargeStep_sameButCap charged
    have hclock₂ : s₂.clock = s.clock := hclock.trans hsame₁.2
    simp only [finishStep, bind_eq_ok] at finished
    obtain ⟨s₅, hexit₁, s₆, hexit₂, hclose⟩ := finished
    refine ⟨(), payout.signed, (), hprogram, m, ⟨hmint, hprogram⟩, h,
      load_of_handlerAt payout.handler, (), payout.operator, w,
      (loadBridgeHandlerVault_eq_ok hprogram).mpr ⟨hw, howner, hwAddress⟩, g,
      load_of_guardiansAt payout.guardians, v, load_of_approvalsAt payout.approvals, (), apart,
      t, load_of_tokenInfoAt token, s₁, opened, s₂, bump, created, (), payout.unpaused, h',
      by rw [hclock₂]; exact charged, (),
      ⟨payout.counted, by rw [hcap.guardianThreshold]; exact payout.approved⟩, (), message.1,
      (), message.2, s₃, by rw [hcap.chain]; exact tokens, s₄, by rw [hcap.chain]; exact sol,
      s₅, hexit₁, s₆, ?_, hclose⟩
    rw [hsame₃.2, hclock₂, show rt.hash _ = msgHash from message.2]
    exact hexit₂

theorem execute_payout_iff [DecidableEq Hash] (kind : payout? call.ix = some p) :
    execute rt s call = .ok (s', none) ↔
      ∃ q s₁ s₂ s₃ s₄, PayoutRun rt s call p q s₁ s₂ s₃ s₄ s' := by
  obtain ⟨signers, ixSysvar, ix⟩ := call
  cases ix with
  | bridgeAssetTargetChain a msgHash sourceTxId sender sourceMint amount nonce gas =>
      obtain rfl := Option.some.inj kind
      rw [← tokenPayout_run]
      simp [execute]
  | bridgeAssetTargetChainSol a msgHash sourceTxId sender amount nonce =>
      obtain rfl := Option.some.inj kind
      rw [← solPayout_run]
      simp [execute]
  | _ => simp [payout?] at kind

/-- What the operator pays for opening accounts of a recipient. -/
def openCost (rt : Runtime Pubkey Hash) (s : State Pubkey Hash) :
    Instruction Pubkey Hash → ℕ
  | .bridgeAssetTargetChain a .. => vaultRent rt s a
  | _ => 0

/-- The account that a token payout opens; a SOL payout opens none. -/
def vaultOf (p : PayoutCall Pubkey Hash) : Instruction Pubkey Hash → Pubkey
  | .bridgeAssetTargetChain a .. => a.recipientVault
  | _ => p.recipient

def openShape (f : Pubkey → AccountData Pubkey Hash) :
    Instruction Pubkey Hash → Pubkey → AccountData Pubkey Hash
  | .bridgeAssetTargetChain a .. => openVault a f
  | _ => f

/-- What the operator pays for the proof account. -/
def proofCost (rt : Runtime Pubkey Hash) (s : State Pubkey Hash) (p : PayoutCall Pubkey Hash) :
    ℕ :=
  topUp rt s p.bridgeProof (8 + 137)

/-- What the operator gets back from the approvals. -/
def refund (s : State Pubkey Hash) (p : PayoutCall Pubkey Hash)
    (ix : Instruction Pubkey Hash) : ℕ :=
  s.lamports p.verifiedSignatures + if p.verifiedSignatures = p.recipient then solAmount ix else 0

/-- How a payout changes lamports. -/
def payoutShift (rt : Runtime Pubkey Hash) (s : State Pubkey Hash) (chain : Chain)
    (p : PayoutCall Pubkey Hash) (ix : Instruction Pubkey Hash) : Pubkey → ℤ :=
  moved p.operator (vaultOf p ix) (openCost rt s ix) +
    moved p.operator p.bridgeProof (proofCost rt s p) +
    solShift chain p.bridgeHandler p.recipient (solAmount ix) +
    moved p.verifiedSignatures p.operator (refund s p ix)

/-- How a payout changes token amounts. -/
def amountShift (rt : Runtime Pubkey Hash) (chain : Chain) (t : TokenInfo Pubkey) :
    Instruction Pubkey Hash → Pubkey → ℤ
  | .bridgeAssetTargetChain a _ _ _ _ amount _ _ => tokenShift rt a chain t amount.toNat
  | _ => 0

/-- The shapes after a payout. -/
def payoutShape (clock : Clock) (p : PayoutCall Pubkey Hash) (h : BridgeHandler Pubkey)
    (bump : UInt8) (ix : Instruction Pubkey Hash) (f : Pubkey → AccountData Pubkey Hash) :
    Pubkey → AccountData Pubkey Hash :=
  Function.update (Function.update (Function.update (openShape f ix) p.bridgeHandler
    (.program (.bridgeHandler h))) p.bridgeProof
    (.program (.bridgeProof (payoutProof clock bump p.msgHash p.sourceTxId p.recipient))))
    p.verifiedSignatures .system

theorem openShape_of_ne_system {f : Pubkey → AccountData Pubkey Hash}
    {ix : Instruction Pubkey Hash} {a : Pubkey} (h : f a ≠ .system) :
    openShape f ix a = f a := by
  cases ix with
  | bridgeAssetTargetChain x =>
      unfold openShape openVault
      dsimp only
      split
      next hsystem =>
          have hne : a ≠ x.recipientVault := by
            rintro rfl
            exact h (AccountData.isSystem_iff.mp hsystem)
          rw [Function.update_of_ne hne]
      next => rfl
  | _ => rfl

theorem openShape_eq_system {f : Pubkey → AccountData Pubkey Hash}
    {ix : Instruction Pubkey Hash} {a : Pubkey} (h : openShape f ix a = .system) :
    f a = .system := by
  by_contra hne
  exact hne ((openShape_of_ne_system hne).symm.trans h)

theorem openStep_moves (kind : payout? call.ix = some p) (h : openStep rt s call.ix = .ok s₁) :
    Moves s s₁ (moved p.operator (vaultOf p call.ix) (openCost rt s call.ix)) 0 ∧
      shape s₁ = openShape (shape s) call.ix := by
  cases hix : call.ix with
  | bridgeAssetTargetChain =>
      rw [hix] at kind h
      obtain rfl := Option.some.inj kind
      obtain ⟨hmoves, hshape, -⟩ := initRecipientVaultIfNeeded_moves h
      exact ⟨hmoves, hshape⟩
  | bridgeAssetTargetChainSol =>
      rw [hix] at h
      obtain rfl := pure_eq_ok.mp h
      simp only [openCost, moved_zero]
      exact ⟨.refl s, rfl⟩
  | _ => simp [hix, payout?] at kind

theorem openCost_eq_zero {ix : Instruction Pubkey Hash} (h : openStep rt s ix = .ok s₁)
    (hdata : s.data (vaultOf p ix) ≠ .system ∨ s₁.data (vaultOf p ix) = .system) :
    openCost rt s ix = 0 := by
  cases ix with
  | bridgeAssetTargetChain x =>
      obtain ⟨-, -, -, -, -, -, t, htoken, -⟩ := initRecipientVaultIfNeeded_moves h
      rcases hdata with hopen | hclosed
      · exact if_neg fun hsystem => hopen (AccountData.isSystem_iff.mp hsystem)
      · exact absurd (hclosed.symm.trans htoken) (by simp)
  | _ => rfl

theorem openCost_moved {ix : Instruction Pubkey Hash} {a : Pubkey}
    (opened : openStep rt s ix = .ok s₁) (hdata : s.data a ≠ .system ∨ s₁.data a = .system)
    (operator : a ≠ p.operator) :
    moved p.operator (vaultOf p ix) (openCost rt s ix) a = 0 := by
  by_cases hvault : a = vaultOf p ix
  · subst hvault
    rw [openCost_eq_zero opened hdata, moved_zero, Pi.zero_apply]
  · exact moved_apply_of_ne _ hvault operator

theorem tokenStep_moves {ix : Instruction Pubkey Hash} {chain : Chain} {t : TokenInfo Pubkey}
    {vaultAmount : ℕ} {decimals : UInt8}
    (h : tokenStep rt s chain t vaultAmount decimals ix = .ok s') :
    Moves s s' 0 (amountShift rt chain t ix) ∧ shape s' = shape s := by
  cases ix with
  | bridgeAssetTargetChain => exact payTokens_moves h
  | _ =>
      obtain rfl := pure_eq_ok.mp h
      exact ⟨.refl s, rfl⟩

@[simp] theorem solShift_zero (chain : Chain) (bridgeHandler recipient : Pubkey) :
    solShift chain bridgeHandler recipient 0 = 0 := by
  cases chain <;> simp [solShift]

theorem solStep_moves {chain : Chain} (kind : payout? call.ix = some p)
    (h : solStep rt s chain call.ix = .ok s') :
    Moves s s' (solShift chain p.bridgeHandler p.recipient (solAmount call.ix)) 0 ∧
      shape s' = shape s := by
  cases hix : call.ix with
  | bridgeAssetTargetChain a msgHash sourceTxId sender sourceMint amount nonce gas =>
      rw [hix] at kind h
      obtain rfl := Option.some.inj kind
      simp only [solStep] at h
      split at h
      · exact paySol_moves h
      next hgas =>
          obtain rfl := pure_eq_ok.mp h
          have hzero : gas.toNat = 0 := by
            have := UInt64.lt_iff_toNat_lt.not.mp hgas
            simpa using this
          rw [solAmount, hzero, solShift_zero]
          exact ⟨.refl s, rfl⟩
  | bridgeAssetTargetChainSol =>
      rw [hix] at kind h
      obtain rfl := Option.some.inj kind
      exact paySol_moves h
  | _ => simp [hix, payout?] at kind

theorem solShift_apply (chain : Chain) (bridgeHandler recipient : Pubkey) (n : ℕ) (a : Pubkey) :
    solShift chain bridgeHandler recipient n a =
      (if a = recipient then (n : ℤ) else 0) -
        (if chain = .solana ∧ a = bridgeHandler then (n : ℤ) else 0) := by
  cases chain with
  | solayer => simp [solShift, Pi.single_apply]
  | solana => simp [solShift, moved_apply]

/-- The accounts of a payout in the state where it starts. -/
structure PayoutAccounts (s : State Pubkey Hash) (p : PayoutCall Pubkey Hash)
    (h : BridgeHandler Pubkey) (v : VerifiedSignatures) : Prop where
  operator : s.data p.operator = .system
  proof : s.data p.bridgeProof = .system
  handler : s.data p.bridgeHandler = .program (.bridgeHandler h)
  approvals : s.data p.verifiedSignatures = .program (.verifiedSignatures v)
  operator_ne_proof : p.operator ≠ p.bridgeProof

theorem PayoutRun.accounts (kind : payout? call.ix = some p)
    (run : PayoutRun rt s call p q s₁ s₂ s₃ s₄ s') :
    PayoutAccounts s p q.handler q.approvals := by
  obtain ⟨-, hshape⟩ := openStep_moves kind run.opened
  obtain ⟨hproof, hne, hoperator, -⟩ := initAccount_moves run.created
  rw [← data_eq_system, hshape] at hproof hoperator
  exact ⟨data_eq_system.mp (openShape_eq_system hoperator),
    data_eq_system.mp (openShape_eq_system hproof),
    programData_eq_some.mp run.payout.handler.stored,
    programData_eq_some.mp run.payout.approvals.stored, hne⟩

omit [DecidableEq Pubkey] in
theorem PayoutAccounts.proof_ne_handler {h : BridgeHandler Pubkey} {v : VerifiedSignatures}
    (accounts : PayoutAccounts s p h v) : p.bridgeProof ≠ p.bridgeHandler :=
  ne_of_contents accounts.proof accounts.handler (by simp)

omit [DecidableEq Pubkey] in
theorem PayoutAccounts.approvals_ne_proof {h : BridgeHandler Pubkey} {v : VerifiedSignatures}
    (accounts : PayoutAccounts s p h v) : p.verifiedSignatures ≠ p.bridgeProof :=
  ne_of_contents accounts.approvals accounts.proof (by simp)

omit [DecidableEq Pubkey] in
theorem PayoutAccounts.approvals_ne_handler {h : BridgeHandler Pubkey}
    {v : VerifiedSignatures} (accounts : PayoutAccounts s p h v) :
    p.verifiedSignatures ≠ p.bridgeHandler :=
  ne_of_contents accounts.approvals accounts.handler (by simp)

omit [DecidableEq Pubkey] in
theorem PayoutAccounts.handler_ne_operator {h : BridgeHandler Pubkey}
    {v : VerifiedSignatures} (accounts : PayoutAccounts s p h v) :
    p.bridgeHandler ≠ p.operator :=
  ne_of_contents accounts.handler accounts.operator (by simp)

theorem topUp_proof (kind : payout? call.ix = some p) (opened : openStep rt s call.ix = .ok s₁)
    (fresh : s₁.data p.bridgeProof = .system) (hne : p.operator ≠ p.bridgeProof) :
    topUp rt s₁ p.bridgeProof (8 + 137) = proofCost rt s p := by
  obtain ⟨hmoves, -⟩ := openStep_moves kind opened
  have hshift := hmoves.lamports p.bridgeProof
  have hzero := openCost_moved (p := p) opened (.inr fresh) hne.symm
  have hlamports : s₁.lamports p.bridgeProof = s.lamports p.bridgeProof := by omega
  rw [proofCost, topUp, topUp, hlamports]

theorem PayoutRun.shape_paid (kind : payout? call.ix = some p)
    (run : PayoutRun rt s call p q s₁ s₂ s₃ s₄ s') :
    shape s₄ = Function.update (openShape (shape s) call.ix) p.bridgeProof
      (.program (.bridgeProof (zeroBridgeProof rt))) := by
  obtain ⟨-, hshape₁⟩ := openStep_moves kind run.opened
  obtain ⟨-, -, -, -, -, hshape₂⟩ := initAccount_moves run.created
  obtain ⟨-, hshape₃⟩ := tokenStep_moves run.tokens
  obtain ⟨-, hshape₄⟩ := solStep_moves kind run.sol
  rw [hshape₄, hshape₃, hshape₂, hshape₁]

theorem PayoutRun.moves_paid (kind : payout? call.ix = some p)
    (run : PayoutRun rt s call p q s₁ s₂ s₃ s₄ s') :
    Moves s s₄ (moved p.operator (vaultOf p call.ix) (openCost rt s call.ix) +
      moved p.operator p.bridgeProof (proofCost rt s p) +
      solShift q.handler.chain p.bridgeHandler p.recipient (solAmount call.ix))
      (amountShift rt q.handler.chain q.token call.ix) := by
  obtain ⟨hmoves₁, -⟩ := openStep_moves kind run.opened
  obtain ⟨hfresh, hne, -, -, hmoves₂, -⟩ := initAccount_moves run.created
  obtain ⟨hmoves₃, -⟩ := tokenStep_moves run.tokens
  obtain ⟨hmoves₄, -⟩ := solStep_moves kind run.sol
  have hall := ((hmoves₁.trans hmoves₂).trans hmoves₃).trans hmoves₄
  have hcost : topUp rt s₁ p.bridgeProof
      (ProgramData.bridgeProof (zeroBridgeProof rt)).space = proofCost rt s p :=
    topUp_proof kind run.opened hfresh hne
  rw [hcost] at hall
  simpa only [add_zero, zero_add] using hall

theorem PayoutRun.refund_eq (kind : payout? call.ix = some p)
    (run : PayoutRun rt s call p q s₁ s₂ s₃ s₄ s') :
    s₄.lamports p.verifiedSignatures = refund s p call.ix := by
  have accounts := run.accounts kind
  have hshift := (run.moves_paid kind).lamports p.verifiedSignatures
  have hdata : s.data p.verifiedSignatures ≠ .system := by
    rw [accounts.approvals]
    rintro ⟨⟩
  have hopen := openCost_moved run.opened (.inl hdata) run.apart
  have hproof : moved p.operator p.bridgeProof (proofCost rt s p) p.verifiedSignatures = 0 :=
    moved_apply_of_ne _ accounts.approvals_ne_proof run.apart
  simp only [Pi.add_apply, hopen, hproof, solShift_apply, accounts.approvals_ne_handler,
    and_false, if_false] at hshift
  unfold refund
  split at hshift
  next hsame => rw [if_pos hsame]; omega
  next hsame => rw [if_neg hsame]; omega

/-- Every payout changes balances and shapes in this way. -/
theorem PayoutRun.moves (kind : payout? call.ix = some p)
    (run : PayoutRun rt s call p q s₁ s₂ s₃ s₄ s') :
    Moves s s' (payoutShift rt s q.handler.chain p call.ix)
        (amountShift rt q.handler.chain q.token call.ix) ∧
      shape s' = payoutShape s.clock p q.charged q.bump call.ix (shape s) := by
  have accounts := run.accounts kind
  have hmoves₄ := run.moves_paid kind
  have hshape₄ := run.shape_paid kind
  have hfinished := run.finished
  simp only [finishStep, bind_eq_ok] at hfinished
  obtain ⟨s₅, hexit₁, s₆, hexit₂, hclose⟩ := hfinished
  -- what is stored at the handler, the proof and the approvals
  have hkept : ∀ {a d}, s.data a = .program d → a ≠ p.bridgeProof →
      shape s₄ a = .program d := by
    intro a d hdata hne
    have hshape := data_eq_program.mpr hdata
    rw [hshape₄, Function.update_of_ne hne, openShape_of_ne_system (by rw [hshape]; simp),
      hshape]
  obtain ⟨hmoves₅, hshape₅⟩ := exitAccount_moves
    (data_eq_program.mp (hkept accounts.handler accounts.proof_ne_handler.symm)) hexit₁
  have hproof : shape s₅ p.bridgeProof =
      .program (.bridgeProof (zeroBridgeProof rt)) := by
    rw [hshape₅, Function.update_of_ne accounts.proof_ne_handler, hshape₄,
      Function.update_self]
  obtain ⟨hmoves₆, hshape₆⟩ := exitAccount_moves (data_eq_program.mp hproof) hexit₂
  have happrovals : shape s₆ p.verifiedSignatures =
      .program (.verifiedSignatures q.approvals) := by
    rw [hshape₆, Function.update_of_ne accounts.approvals_ne_proof, hshape₅,
      Function.update_of_ne accounts.approvals_ne_handler,
      hkept accounts.approvals accounts.approvals_ne_proof]
  obtain ⟨hmoves₇, hshape₇⟩ :=
    closeAccount_moves (data_eq_program.mp happrovals) run.apart hclose
  have hlamports : s₆.lamports = s₄.lamports :=
    (hmoves₅.trans hmoves₆).lamports.unique (by rw [add_zero]; exact .refl _)
  rw [hlamports, run.refund_eq kind] at hmoves₇
  constructor
  · have hall := ((hmoves₄.trans hmoves₅).trans hmoves₆).trans hmoves₇
    simpa only [payoutShift, add_zero] using hall
  · rw [hshape₇, hshape₆, hshape₅, hshape₄, payoutShape,
      Function.update_comm accounts.proof_ne_handler, Function.update_idem]

/-- The payout `p` reads `q` and leads from `s` to `s'`. -/
def PaysWith (rt : Runtime Pubkey Hash) (s : State Pubkey Hash) (call : Call Pubkey Hash)
    (p : PayoutCall Pubkey Hash) (q : PayoutQuote Pubkey) (s' : State Pubkey Hash) : Prop :=
  payout? call.ix = some p ∧ ∃ s₁ s₂ s₃ s₄, PayoutRun rt s call p q s₁ s₂ s₃ s₄ s'

theorem exists_paysWith [DecidableEq Hash] (kind : payout? call.ix = some p) :
    execute rt s call = .ok (s', none) ↔ ∃ q, PaysWith rt s call p q s' := by
  rw [execute_payout_iff kind]
  exact exists_congr fun q => ⟨fun run => ⟨kind, run⟩, And.right⟩

theorem paysWith_of_executed [DecidableEq Hash] {returned : Option UInt64}
    (kind : payout? call.ix = some p) (executed : execute rt s call = .ok (s', returned)) :
    ∃ q, PaysWith rt s call p q s' := by
  have hreturned : returned = none := by
    have step := (execute_refines executed).1
    generalize s'.programData = r' at step
    cases step with
    | bridgeAssetSourceChain => cases kind
    | bridgeAssetSourceChainSol => cases kind
    | _ => rfl
  subst hreturned
  exact (exists_paysWith kind).mp executed

theorem PaysWith.payout (pays : PaysWith rt s call p q s') :
    Payout rt s.programData call.signers p q.handler q.guardians q.approvals q.bump := by
  obtain ⟨-, s₁, s₂, s₃, s₄, run⟩ := pays
  exact run.payout

theorem PaysWith.apart (pays : PaysWith rt s call p q s') :
    p.verifiedSignatures ≠ p.operator := by
  obtain ⟨-, s₁, s₂, s₃, s₄, run⟩ := pays
  exact run.apart

theorem PaysWith.terms (pays : PaysWith rt s call p q s')
    {a : BridgeAssetTargetChain Pubkey} {amount : UInt64}
    (token : tokenPayment? call.ix = some (a, amount)) :
    TokenTerms rt s a q.token q.decimals q.vaultAmount := by
  obtain ⟨-, s₁, s₂, s₃, s₄, run⟩ := pays
  exact run.terms a amount token

theorem PaysWith.charged (pays : PaysWith rt s call p q s') :
    chargeStep rt s.clock q.decimals q.approvals.createdAt q.handler call.ix =
      .ok q.charged := by
  obtain ⟨-, s₁, s₂, s₃, s₄, run⟩ := pays
  exact run.charged

theorem PaysWith.accounts (pays : PaysWith rt s call p q s') :
    PayoutAccounts s p q.handler q.approvals := by
  obtain ⟨kind, s₁, s₂, s₃, s₄, run⟩ := pays
  exact run.accounts kind

theorem PaysWith.proof_address (pays : PaysWith rt s call p q s') :
    rt.createProgramAddress (.bridgeProofTarget p.bridgeHandler (rt.hash p.sourceTxId.toList))
      q.bump = some p.bridgeProof :=
  rt.create_of_find pays.payout.proofAddress

theorem PaysWith.vault_address (pays : PaysWith rt s call p q s')
    {x : BridgeAssetTargetChain Pubkey} {amount : UInt64}
    (token : tokenPayment? call.ix = some (x, amount)) :
    rt.associatedTokenAddress p.recipient x.mint x.tokenProgram = x.recipientVault := by
  obtain ⟨kind, s₁, s₂, s₃, s₄, run⟩ := pays
  have hopened := run.opened
  cases hix : call.ix with
  | bridgeAssetTargetChain =>
      rw [hix] at kind token hopened
      obtain rfl := Option.some.inj kind
      obtain ⟨rfl, -⟩ := Prod.mk.inj (Option.some.inj token)
      obtain ⟨-, -, -, -, haddress, -⟩ := initRecipientVaultIfNeeded_moves hopened
      exact haddress
  | _ => simp [hix, tokenPayment?] at token

theorem PaysWith.moves (pays : PaysWith rt s call p q s') :
    Moves s s' (payoutShift rt s q.handler.chain p call.ix)
        (amountShift rt q.handler.chain q.token call.ix) ∧
      shape s' = payoutShape s.clock p q.charged q.bump call.ix (shape s) := by
  obtain ⟨kind, s₁, s₂, s₃, s₄, run⟩ := pays
  exact run.moves kind

theorem PaysWith.shape_of_ne_system (pays : PaysWith rt s call p q s') {a : Pubkey}
    (hdata : s.data a ≠ .system) (hhandler : a ≠ p.bridgeHandler)
    (happrovals : a ≠ p.verifiedSignatures) :
    shape s' a = shape s a := by
  have hproof : a ≠ p.bridgeProof := by
    rintro rfl
    exact hdata pays.accounts.proof
  rw [pays.moves.2, payoutShape, Function.update_of_ne happrovals,
    Function.update_of_ne hproof, Function.update_of_ne hhandler,
    openShape_of_ne_system (mt data_eq_system.mp hdata)]

theorem PaysWith.shape_of_system (pays : PaysWith rt s call p q s') {a : Pubkey}
    (hdata : s.data a = .system) (hproof : a ≠ p.bridgeProof) :
    shape s' a = openShape (shape s) call.ix a := by
  have accounts := pays.accounts
  have hhandler : a ≠ p.bridgeHandler := ne_of_contents hdata accounts.handler (by simp)
  have happrovals : a ≠ p.verifiedSignatures := ne_of_contents hdata accounts.approvals (by simp)
  rw [pays.moves.2, payoutShape, Function.update_of_ne happrovals,
    Function.update_of_ne hproof, Function.update_of_ne hhandler]

theorem PaysWith.handler_after (pays : PaysWith rt s call p q s') :
    s'.data p.bridgeHandler = .program (.bridgeHandler q.charged) := by
  have accounts := pays.accounts
  rw [← data_eq_program, pays.moves.2, payoutShape,
    Function.update_of_ne accounts.approvals_ne_handler.symm,
    Function.update_of_ne accounts.proof_ne_handler.symm, Function.update_self]

/-- Lamports that the operator must have for the rent of new accounts. -/
def rentCost (rt : Runtime Pubkey Hash) (s : State Pubkey Hash) (p : PayoutCall Pubkey Hash)
    (ix : Instruction Pubkey Hash) : ℕ :=
  openCost rt s ix + proofCost rt s p

/-- All lamports that a payout moves. -/
def movedLamports (rt : Runtime Pubkey Hash) (s : State Pubkey Hash)
    (p : PayoutCall Pubkey Hash) (ix : Instruction Pubkey Hash) : ℕ :=
  rentCost rt s p ix + solAmount ix + refund s p ix

theorem payoutShift_apply (chain : Chain) (ix : Instruction Pubkey Hash) (a : Pubkey) :
    payoutShift rt s chain p ix a =
      ((if a = vaultOf p ix then (openCost rt s ix : ℤ) else 0) -
        (if a = p.operator then (openCost rt s ix : ℤ) else 0)) +
      ((if a = p.bridgeProof then (proofCost rt s p : ℤ) else 0) -
        (if a = p.operator then (proofCost rt s p : ℤ) else 0)) +
      ((if a = p.recipient then (solAmount ix : ℤ) else 0) -
        (if chain = .solana ∧ a = p.bridgeHandler then (solAmount ix : ℤ) else 0)) +
      ((if a = p.operator then (refund s p ix : ℤ) else 0) -
        (if a = p.verifiedSignatures then (refund s p ix : ℤ) else 0)) := by
  simp only [payoutShift, Pi.add_apply, moved_apply, solShift_apply]

theorem PaysWith.lamports_ge (pays : PaysWith rt s call p q s') {a : Pubkey}
    (hoperator : a ≠ p.operator) (hhandler : a ≠ p.bridgeHandler)
    (happrovals : a ≠ p.verifiedSignatures) :
    s.lamports a ≤ s'.lamports a := by
  have hshift := pays.moves.1.lamports a
  simp only [payoutShift_apply, hoperator, hhandler, happrovals, and_false, if_false] at hshift
  split_ifs at hshift <;> omega

theorem PaysWith.operator_ge (pays : PaysWith rt s call p q s') :
    s.lamports p.operator ≤ s'.lamports p.operator + rentCost rt s p call.ix := by
  have hshift := pays.moves.1.lamports p.operator
  simp only [payoutShift_apply, pays.accounts.handler_ne_operator.symm, pays.apart.symm,
    and_false, if_true, if_false] at hshift
  unfold rentCost
  split_ifs at hshift <;> omega

theorem PaysWith.handler_ge (pays : PaysWith rt s call p q s') :
    s.lamports p.bridgeHandler ≤ s'.lamports p.bridgeHandler + solAmount call.ix := by
  have hshift := pays.moves.1.lamports p.bridgeHandler
  simp only [payoutShift_apply, pays.accounts.handler_ne_operator,
    pays.accounts.approvals_ne_handler.symm, if_false] at hshift
  split_ifs at hshift <;> omega

theorem PayoutRun.rent_handler (kind : payout? call.ix = some p)
    (run : PayoutRun rt s call p q s₁ s₂ s₃ s₄ s') :
    moved p.operator (vaultOf p call.ix) (openCost rt s call.ix) p.bridgeHandler +
      moved p.operator p.bridgeProof (proofCost rt s p) p.bridgeHandler = 0 := by
  have accounts := run.accounts kind
  have hoperator := accounts.handler_ne_operator
  have hdata : s.data p.bridgeHandler ≠ .system := by
    rw [accounts.handler]
    rintro ⟨⟩
  have hopen := openCost_moved run.opened (.inl hdata) hoperator
  rw [hopen, zero_add]
  exact moved_apply_of_ne _ accounts.proof_ne_handler.symm hoperator

theorem PaysWith.handler_eq (pays : PaysWith rt s call p q s')
    (chain : q.handler.chain = .solana) :
    s'.lamports p.bridgeHandler + solAmount call.ix =
      s.lamports p.bridgeHandler +
        if p.recipient = p.bridgeHandler then solAmount call.ix else 0 := by
  have hshift := pays.moves.1.lamports p.bridgeHandler
  have happrovals := pays.accounts.approvals_ne_handler.symm
  obtain ⟨kind, s₁, s₂, s₃, s₄, run⟩ := id pays
  simp only [payoutShift, Pi.add_apply, run.rent_handler kind, solShift_apply, chain,
    moved_apply_of_ne _ pays.accounts.handler_ne_operator happrovals, true_and, if_true] at hshift
  simp only [eq_comm (a := p.bridgeHandler)] at hshift
  split_ifs at hshift ⊢ <;> omega

theorem PaysWith.floor (pays : PaysWith rt s call p q s') (chain : q.handler.chain = .solana) :
    solAmount call.ix = 0 ∨
      rt.minimumBalance handlerLen + solAmount call.ix ≤ s.lamports p.bridgeHandler := by
  obtain ⟨kind, s₁, s₂, s₃, s₄, run⟩ := pays
  obtain ⟨hmoves₁, -⟩ := openStep_moves kind run.opened
  obtain ⟨hfresh, hne, -, -, hmoves₂, -⟩ := initAccount_moves run.created
  obtain ⟨hmoves₃, -⟩ := tokenStep_moves run.tokens
  have hcost : topUp rt s₁ p.bridgeProof
      (ProgramData.bridgeProof (zeroBridgeProof rt)).space = proofCost rt s p :=
    topUp_proof kind run.opened hfresh hne
  have hshift := ((hmoves₁.trans hmoves₂).trans hmoves₃).lamports p.bridgeHandler
  have hrent := run.rent_handler kind
  rw [hcost, add_zero, Pi.add_apply, hrent, add_zero] at hshift
  have hsame : s₃.lamports p.bridgeHandler = s.lamports p.bridgeHandler := by omega
  have hsol := run.sol
  rw [← hsame]
  cases hix : call.ix with
  | bridgeAssetTargetChain x msgHash sourceTxId sender sourceMint amount nonce gas =>
      rw [hix] at kind hsol
      obtain rfl := Option.some.inj kind
      rw [chain] at hsol
      simp only [solStep, paySol, transferSolToRecipient] at hsol
      split at hsol
      · simp only [bind_eq_ok, require_eq_ok, checkedAdd_eq_ok] at hsol
        obtain ⟨_, ⟨-, rfl⟩, -, hfloor, -⟩ := hsol
        exact .inr hfloor
      next hgas =>
          have hzero := UInt64.lt_iff_toNat_lt.not.mp hgas
          exact .inl (by simpa [solAmount] using hzero)
  | bridgeAssetTargetChainSol =>
      rw [hix] at kind hsol
      obtain rfl := Option.some.inj kind
      rw [chain] at hsol
      simp only [solStep, paySol, transferSolToRecipient, bind_eq_ok, require_eq_ok,
        checkedAdd_eq_ok] at hsol
      obtain ⟨_, ⟨-, rfl⟩, -, hfloor, -⟩ := hsol
      exact .inr hfloor
  | _ => simp [hix, payout?] at kind

end BridgeProgram.PayoutSteps
