import BridgeProgram.AccountKeeping
import BridgeProgram.PayoutSteps
import BridgeProgram.SourceSteps
import BridgeProgram.SymbolicRuntime

namespace BridgeProgram.VaultChecks

open BridgeProgram.AccountEffects
open BridgeProgram.AccountKeeping
open BridgeProgram.BridgeProgramEntry
open BridgeProgram.CheckedResult
open BridgeProgram.PayoutSteps
open BridgeProgram.ProgramStates
open BridgeProgram.SolanaRuntime
open BridgeProgram.SourceInstructions
open BridgeProgram.SourceSteps
open BridgeProgram.SymbolicRuntime
open BridgeProgram.TargetInstructions
open BridgeProgram.TokenInstructions
open BridgeProgram.TokenPrograms

/-- An account as a program sees it. -/
structure AccountInfo (Pubkey Data : Type) where
  owner : Pubkey
  lamports : Nat
  data : Data

/-- How the data of an account is read. -/
structure TokenAccountFormat (Pubkey Data : Type) where
  tryDeserialize : Data → Except ProgramError (TokenAccount Pubkey)
  dataLen : Data → Nat

/-- The keys with which a vault is checked. The token program is one that
`Interface<TokenInterface>` has admitted, in each of the three instructions. -/
structure VaultKeys (Pubkey : Type) where
  bridgeHandler : Pubkey
  mint : Pubkey
  tokenProgram : Pubkey
  bridgeHandlerVault : Pubkey
  deriving DecidableEq

section Accounts

variable {Pubkey Hash Data : Type} [DecidableEq Pubkey]

/-- The checks of `init_if_needed_and_check_bridge_handler_vault`. -/
def checkVault (rt : Runtime Pubkey Hash) (format : TokenAccountFormat Pubkey Data)
    (keys : VaultKeys Pubkey) (info : AccountInfo Pubkey Data) : Except ProgramError Unit := do
  let tokenAccount ← format.tryDeserialize info.data
  require (tokenAccount.mint = keys.mint) (.anchor .constraintTokenMint)
  require (tokenAccount.owner = keys.bridgeHandler) (.anchor .constraintTokenOwner)
  -- `owner_program` is a reference: it was taken before the account was created, and
  -- shows the owner that the account has now
  require (info.owner = keys.tokenProgram) (.anchor .constraintAssociatedTokenTokenProgram)
  require (keys.bridgeHandlerVault =
      rt.associatedTokenAddress keys.bridgeHandler keys.mint keys.tokenProgram)
    (.anchor .accountNotAssociatedTokenAccount)
  require (rt.minimumBalance (format.dataLen info.data) ≤ info.lamports)
    (.anchor .constraintRentExempt)

/-- `init_if_needed_and_check_bridge_handler_vault`, where `create` is what the call
of the associated-token program makes of the account. -/
def initIfNeededAndCheckVault (rt : Runtime Pubkey Hash)
    (format : TokenAccountFormat Pubkey Data)
    (create : Except ProgramError (AccountInfo Pubkey Data)) (keys : VaultKeys Pubkey)
    (info : AccountInfo Pubkey Data) : Except ProgramError (AccountInfo Pubkey Data) := do
  let info ← (if info.owner = rt.systemProgram then create else pure info)
  checkVault rt format keys info
  pure info

/-- `InterfaceAccount<TokenAccount>` with `associated_token::authority`,
`associated_token::mint` and `associated_token::token_program`. -/
def associatedTokenConstraint (rt : Runtime Pubkey Hash)
    (format : TokenAccountFormat Pubkey Data) (keys : VaultKeys Pubkey)
    (info : AccountInfo Pubkey Data) : Except ProgramError (TokenAccount Pubkey) := do
  require (¬ (info.owner = rt.systemProgram ∧ info.lamports = 0))
    (.anchor .accountNotInitialized)
  require (info.owner ∈ rt.tokenPrograms) (.anchor .accountOwnedByWrongProgram)
  let tokenAccount ← format.tryDeserialize info.data
  require (tokenAccount.owner = keys.bridgeHandler) (.anchor .constraintTokenOwner)
  require (rt.associatedTokenAddress keys.bridgeHandler keys.mint keys.tokenProgram =
    keys.bridgeHandlerVault) (.anchor .constraintAssociated)
  require (info.owner = keys.tokenProgram) (.anchor .constraintAssociatedTokenTokenProgram)
  pure tokenAccount

/-- What both checks ask of a vault. -/
structure IsVault (rt : Runtime Pubkey Hash) (format : TokenAccountFormat Pubkey Data)
    (keys : VaultKeys Pubkey) (info : AccountInfo Pubkey Data) (t : TokenAccount Pubkey) :
    Prop where
  initialized : format.tryDeserialize info.data = .ok t
  owner : t.owner = keys.bridgeHandler
  program : info.owner = keys.tokenProgram
  address : rt.associatedTokenAddress keys.bridgeHandler keys.mint keys.tokenProgram =
    keys.bridgeHandlerVault

variable {rt : Runtime Pubkey Hash} {format : TokenAccountFormat Pubkey Data}
  {create : Except ProgramError (AccountInfo Pubkey Data)} {keys : VaultKeys Pubkey}
  {info info' : AccountInfo Pubkey Data} {t : TokenAccount Pubkey}

theorem checkVault_eq_ok :
    checkVault rt format keys info = .ok () ↔ ∃ t, IsVault rt format keys info t ∧
      t.mint = keys.mint ∧ rt.minimumBalance (format.dataLen info.data) ≤ info.lamports := by
  simp only [checkVault, bind_eq_ok, require_eq_ok]
  constructor
  · rintro ⟨t, hdata, -, hmint, -, howner, -, hprogram, -, haddress, hrent⟩
    exact ⟨t, ⟨hdata, howner, hprogram, haddress.symm⟩, hmint, hrent⟩
  · rintro ⟨t, hvault, hmint, hrent⟩
    exact ⟨t, hvault.initialized, (), hmint, (), hvault.owner, (), hvault.program, (),
      hvault.address.symm, hrent⟩

theorem associatedTokenConstraint_eq_ok (hsystem : rt.systemProgram ∉ rt.tokenPrograms)
    (hprogram : keys.tokenProgram ∈ rt.tokenPrograms) :
    associatedTokenConstraint rt format keys info = .ok t ↔ IsVault rt format keys info t := by
  simp only [associatedTokenConstraint, bind_eq_ok, require_eq_ok, pure_eq_ok]
  constructor
  · rintro ⟨-, -, -, -, t, hdata, -, howner, -, haddress, -, hsame, rfl⟩
    exact ⟨hdata, howner, hsame, haddress⟩
  · intro hvault
    have hmem : info.owner ∈ rt.tokenPrograms := by
      rw [hvault.program]
      exact hprogram
    have hexists : ¬ (info.owner = rt.systemProgram ∧ info.lamports = 0) := by
      rintro ⟨howner, -⟩
      exact hsystem (howner ▸ hmem)
    exact ⟨(), hexists, (), hmem, t, hvault.initialized, (), hvault.owner, (), hvault.address,
      (), hvault.program, rfl⟩

theorem initIfNeededAndCheckVault_eq_ok :
    initIfNeededAndCheckVault rt format create keys info = .ok info' ↔
      (if info.owner = rt.systemProgram then create else pure info) = .ok info' ∧
        checkVault rt format keys info' = .ok () := by
  simp only [initIfNeededAndCheckVault, bind_eq_ok, pure_eq_ok]
  constructor
  · rintro ⟨opened, hopen, ⟨⟩, hcheck, rfl⟩
    exact ⟨hopen, hcheck⟩
  · rintro ⟨hopen, hcheck⟩
    exact ⟨info', hopen, (), hcheck, rfl⟩

/-- The hand-written check and the declared one differ by the mint of the token account
and by its rent. -/
theorem checkVault_iff (hsystem : rt.systemProgram ∉ rt.tokenPrograms)
    (hprogram : keys.tokenProgram ∈ rt.tokenPrograms) :
    checkVault rt format keys info = .ok () ↔
      ∃ t, associatedTokenConstraint rt format keys info = .ok t ∧ t.mint = keys.mint ∧
        rt.minimumBalance (format.dataLen info.data) ≤ info.lamports := by
  simp only [checkVault_eq_ok, associatedTokenConstraint_eq_ok hsystem hprogram]

theorem accepted_of_checked (hsystem : rt.systemProgram ∉ rt.tokenPrograms)
    (hprogram : keys.tokenProgram ∈ rt.tokenPrograms)
    (checked : initIfNeededAndCheckVault rt format create keys info = .ok info') :
    ∃ t, associatedTokenConstraint rt format keys info' = .ok t ∧ t.mint = keys.mint := by
  have hcheck := (initIfNeededAndCheckVault_eq_ok.mp checked).2
  obtain ⟨t, haccepted, hmint, -⟩ := (checkVault_iff hsystem hprogram).mp hcheck
  exact ⟨t, haccepted, hmint⟩

theorem ne_systemProgram_of_accepted (hsystem : rt.systemProgram ∉ rt.tokenPrograms)
    (hprogram : keys.tokenProgram ∈ rt.tokenPrograms)
    (accepted : associatedTokenConstraint rt format keys info = .ok t) :
    info.owner ≠ rt.systemProgram := by
  intro howner
  have hvault := (associatedTokenConstraint_eq_ok hsystem hprogram).mp accepted
  rw [← howner, hvault.program] at hsystem
  exact hsystem hprogram

theorem checked_of_accepted (hsystem : rt.systemProgram ∉ rt.tokenPrograms)
    (hprogram : keys.tokenProgram ∈ rt.tokenPrograms)
    (accepted : associatedTokenConstraint rt format keys info = .ok t)
    (hmint : t.mint = keys.mint)
    (hrent : rt.minimumBalance (format.dataLen info.data) ≤ info.lamports) :
    initIfNeededAndCheckVault rt format create keys info = .ok info := by
  have hopen := ne_systemProgram_of_accepted hsystem hprogram accepted
  rw [initIfNeededAndCheckVault_eq_ok]
  constructor
  · exact if_neg hopen
  · exact (checkVault_iff hsystem hprogram).mpr ⟨t, accepted, hmint, hrent⟩

end Accounts

section Ledger

variable {Pubkey Hash : Type}

/-- The vault of a payout. -/
def payoutVault (y : BridgeAssetTargetChain Pubkey) : VaultKeys Pubkey where
  bridgeHandler := y.bridgeHandler
  mint := y.mint
  tokenProgram := y.tokenProgram
  bridgeHandlerVault := y.bridgeHandlerVault

def accountInfo (rt : Runtime Pubkey Hash) (s : State Pubkey Hash) (a : Pubkey) :
    AccountInfo Pubkey (AccountData Pubkey Hash) where
  owner := (s.data a).owner rt
  lamports := s.lamports a
  data := s.data a

/-- The contents of an account of a ledger, read as `readTokenAccount` reads them. -/
def ledgerFormat (rt : Runtime Pubkey Hash) :
    TokenAccountFormat Pubkey (AccountData Pubkey Hash) where
  tryDeserialize
    | .tokenAccount _ t => .ok t
    | .system => .error (.anchor .accountNotInitialized)
    | _ => .error (.anchor .accountOwnedByWrongProgram)
  dataLen
    | .tokenAccount _ t => rt.tokenAccountLen t.mint
    | _ => 0

variable {rt : Runtime Pubkey Hash} {s s' : State Pubkey Hash} {payer : Pubkey}
  {keys : VaultKeys Pubkey} {t : TokenAccount Pubkey}

theorem isVault_ledger :
    IsVault rt (ledgerFormat rt) keys (accountInfo rt s keys.bridgeHandlerVault) t ↔
      s.data keys.bridgeHandlerVault = .tokenAccount keys.tokenProgram t ∧
        t.owner = keys.bridgeHandler ∧
        rt.associatedTokenAddress keys.bridgeHandler keys.mint keys.tokenProgram =
          keys.bridgeHandlerVault := by
  constructor
  · rintro ⟨hdata, howner, hprogram, haddress⟩
    refine ⟨?_, howner, haddress⟩
    simp only [accountInfo] at hdata hprogram
    generalize s.data keys.bridgeHandlerVault = contents at hdata hprogram
    cases contents with
    | tokenAccount tokenProgram t' =>
        obtain rfl := Except.ok.inj hdata
        obtain rfl : tokenProgram = keys.tokenProgram := hprogram
        rfl
    | _ => cases hdata
  · rintro ⟨hdata, howner, haddress⟩
    refine ⟨?_, howner, ?_, haddress⟩ <;> simp only [accountInfo, hdata] <;> rfl

variable [DecidableEq Pubkey]

theorem initIfNeededAndCheckBridgeHandlerVault_eq :
    initIfNeededAndCheckBridgeHandlerVault rt s payer keys.bridgeHandlerVault
        keys.bridgeHandler keys.mint keys.tokenProgram = (do
      let u ← (if (accountInfo rt s keys.bridgeHandlerVault).owner = rt.systemProgram then
          createAssociatedToken rt s payer keys.bridgeHandlerVault keys.bridgeHandler
            keys.mint keys.tokenProgram
        else pure s)
      checkVault rt (ledgerFormat rt) keys (accountInfo rt u keys.bridgeHandlerVault)
      pure u) := by
  apply bind_congr
  intro u
  cases hdata : u.data keys.bridgeHandlerVault with
  | tokenAccount tokenProgram t =>
      have hread : readTokenAccount u keys.bridgeHandlerVault = .ok (tokenProgram, t) :=
        readTokenAccount_eq_ok.mpr hdata
      rw [hread]
      simp only [checkVault, accountInfo, hdata, ledgerFormat, AccountData.owner, bind_assoc]
      by_cases hmint : t.mint = keys.mint
      · simp only [hmint]
        rfl
      · have hstop : ∀ e : ProgramError, require (t.mint = keys.mint) e = .error e :=
          fun e => if_neg hmint
        change (require (t.mint = keys.mint) _ >>= _) = (require (t.mint = keys.mint) _ >>= _)
        rw [hstop]
        rfl
  | _ =>
      simp only [checkVault, readTokenAccount, accountInfo, hdata, ledgerFormat]
      rfl

theorem initIfNeededAndCheckBridgeHandlerVault_refines :
    (fun u => accountInfo rt u keys.bridgeHandlerVault) <$>
        initIfNeededAndCheckBridgeHandlerVault rt s payer keys.bridgeHandlerVault
          keys.bridgeHandler keys.mint keys.tokenProgram =
      initIfNeededAndCheckVault rt (ledgerFormat rt)
        ((fun u => accountInfo rt u keys.bridgeHandlerVault) <$>
          createAssociatedToken rt s payer keys.bridgeHandlerVault keys.bridgeHandler
            keys.mint keys.tokenProgram)
        keys (accountInfo rt s keys.bridgeHandlerVault) := by
  rw [initIfNeededAndCheckBridgeHandlerVault_eq, initIfNeededAndCheckVault]
  split
  · simp only [map_bind, map_pure, bind_map_left]
  · simp only [map_bind, map_pure, pure_bind]

theorem loadBridgeHandlerVault_refines (hsystem : rt.systemProgram ∉ rt.tokenPrograms)
    {y : BridgeAssetTargetChain Pubkey} (hprogram : y.tokenProgram ∈ rt.tokenPrograms) :
    loadBridgeHandlerVault rt s y = .ok t ↔
      associatedTokenConstraint rt (ledgerFormat rt) (payoutVault y)
        (accountInfo rt s y.bridgeHandlerVault) = .ok t := by
  have hvault := @isVault_ledger _ _ rt s (payoutVault y) t
  have haccepted : associatedTokenConstraint rt (ledgerFormat rt) (payoutVault y)
      (accountInfo rt s y.bridgeHandlerVault) = .ok t ↔
        IsVault rt (ledgerFormat rt) (payoutVault y) (accountInfo rt s y.bridgeHandlerVault) t :=
    associatedTokenConstraint_eq_ok hsystem hprogram
  rw [loadBridgeHandlerVault_eq_ok hprogram, haccepted]
  exact hvault.symm

theorem load_of_checked (hsystem : rt.systemProgram ∉ rt.tokenPrograms)
    {y : BridgeAssetTargetChain Pubkey} (hprogram : y.tokenProgram ∈ rt.tokenPrograms)
    (checked : initIfNeededAndCheckBridgeHandlerVault rt s payer y.bridgeHandlerVault
      y.bridgeHandler y.mint y.tokenProgram = .ok s') :
    ∃ t, loadBridgeHandlerVault rt s' y = .ok t ∧ t.mint = y.mint := by
  have hrefines := @initIfNeededAndCheckBridgeHandlerVault_refines _ _ rt s payer (payoutVault y) _
  have hinfo := hrefines.symm.trans (map_eq_ok.mpr ⟨s', checked, rfl⟩)
  obtain ⟨t, haccepted, hmint⟩ := accepted_of_checked hsystem hprogram hinfo
  exact ⟨t, (loadBridgeHandlerVault_refines hsystem hprogram).mpr haccepted, hmint⟩

theorem checked_of_load (hsystem : rt.systemProgram ∉ rt.tokenPrograms)
    {y : BridgeAssetTargetChain Pubkey} (hprogram : y.tokenProgram ∈ rt.tokenPrograms)
    (load : loadBridgeHandlerVault rt s y = .ok t) (hmint : t.mint = y.mint)
    (hrent : rt.minimumBalance (rt.tokenAccountLen y.mint) ≤ s.lamports y.bridgeHandlerVault) :
    initIfNeededAndCheckBridgeHandlerVault rt s payer y.bridgeHandlerVault y.bridgeHandler
      y.mint y.tokenProgram = .ok s := by
  have haccepted := (loadBridgeHandlerVault_refines hsystem hprogram).mp load
  have hopen := ne_systemProgram_of_accepted hsystem hprogram haccepted
  have hlen : (ledgerFormat rt).dataLen (s.data y.bridgeHandlerVault) =
      rt.tokenAccountLen y.mint := by
    rw [((loadBridgeHandlerVault_eq_ok hprogram).mp load).1, ← hmint]
    rfl
  have hcheck : checkVault rt (ledgerFormat rt) (payoutVault y)
      (accountInfo rt s y.bridgeHandlerVault) = .ok () := by
    apply (checkVault_iff hsystem hprogram).mpr
    refine ⟨t, haccepted, hmint, ?_⟩
    rw [accountInfo, hlen]
    exact hrent
  have heq := @initIfNeededAndCheckBridgeHandlerVault_eq _ _ rt s payer (payoutVault y) _
  refine heq.trans ?_
  simp only [bind_eq_ok, pure_eq_ok]
  exact ⟨s, if_neg hopen, (), hcheck, rfl⟩

/-- The vault that an instruction creates when needed and checks by hand. -/
def checkedVault? : Instruction Pubkey Hash → Option (VaultKeys Pubkey)
  | .bridgeAssetSourceChain x .. =>
      some ⟨x.bridgeHandler, x.mint, x.tokenProgram, x.bridgeHandlerVault⟩
  | .addToken x .. => some ⟨x.bridgeHandler, x.mint, x.tokenProgram, x.bridgeHandlerVault⟩
  | _ => none

/-- The vault that an instruction creates, fills or empties. -/
def usedVault? (ix : Instruction Pubkey Hash) : Option (VaultKeys Pubkey) :=
  match tokenPayment? ix with
  | some (y, _) => some (payoutVault y)
  | none => checkedVault? ix

/-- Some successful call uses the vault. -/
def UsesVault [DecidableEq Hash] (rt : Runtime Pubkey Hash) (keys : VaultKeys Pubkey) : Prop :=
  ∃ s call s' returned, execute rt s call = .ok (s', returned) ∧ usedVault? call.ix = some keys

/-- The vault exists and is the handler's token account for the mint. -/
structure VaultStored (rt : Runtime Pubkey Hash) (s : State Pubkey Hash)
    (keys : VaultKeys Pubkey) : Prop where
  program : keys.tokenProgram ∈ rt.tokenPrograms
  address : keys.bridgeHandlerVault =
    rt.associatedTokenAddress keys.bridgeHandler keys.mint keys.tokenProgram
  stored : ∃ t, s.data keys.bridgeHandlerVault = .tokenAccount keys.tokenProgram t ∧
    t.mint = keys.mint ∧ t.owner = keys.bridgeHandler

theorem addToken_vault {signers : List Pubkey} {x : AddToken Pubkey} {decimal : UInt8}
    {name symbol uri : Option String}
    (h : addToken rt signers s x decimal name symbol uri = .ok s') :
    VaultStored rt s' ⟨x.bridgeHandler, x.mint, x.tokenProgram, x.bridgeHandlerVault⟩ := by
  obtain ⟨s₁, s₂, s₃, hprogram, -, -, hvault, hlast⟩ := addToken_steps h
  obtain ⟨-, -, -, haddress, w, hw, hmint, howner⟩ :=
    initIfNeededAndCheckBridgeHandlerVault_moves hvault
  refine ⟨hprogram, haddress, w, ?_, hmint, howner⟩
  rw [hlast.data _ (by rw [hw]; simp) (programData_eq_none_of_tokenAccount hw), hw]

variable [DecidableEq Hash] {call : Call Pubkey Hash} {returned : Option UInt64}

theorem vaultStored_of_checked (executed : execute rt s call = .ok (s', returned))
    (checked : checkedVault? call.ix = some keys) : VaultStored rt s' keys := by
  obtain ⟨signers, ixSysvar, ix⟩ := call
  cases ix with
  | bridgeAssetSourceChain x n amount recipient targetMint gas =>
      obtain rfl := Option.some.inj checked
      obtain ⟨c, h, t, -, -, taken⟩ := request_effect rfl executed
      exact ⟨taken.program, taken.vaultAddress, taken.vault⟩
  | addToken x decimal name symbol uri =>
      obtain rfl := Option.some.inj checked
      exact addToken_vault (addToken_of_executed executed rfl)
  | _ => cases checked

omit [DecidableEq Hash] in
theorem load_of_vaultStored {y : BridgeAssetTargetChain Pubkey}
    (vault : VaultStored rt s (payoutVault y)) :
    ∃ t, loadBridgeHandlerVault rt s y = .ok t ∧ t.mint = y.mint := by
  obtain ⟨hprogram, haddress, t, hdata, hmint, howner⟩ := vault
  exact ⟨t, (loadBridgeHandlerVault_eq_ok hprogram).mpr ⟨hdata, howner, haddress.symm⟩, hmint⟩

theorem address_of_used (used : UsesVault rt keys) :
    keys.bridgeHandlerVault =
      rt.associatedTokenAddress keys.bridgeHandler keys.mint keys.tokenProgram := by
  obtain ⟨s, ⟨signers, ixSysvar, ix⟩, s', returned, executed, hkeys⟩ := used
  cases ix with
  | bridgeAssetTargetChain y msgHash sourceTxId sender sourceMint amount nonce gas =>
      obtain rfl := Option.some.inj hkeys
      obtain ⟨q, pays⟩ := paysWith_of_executed rfl executed
      exact (pays.terms rfl).vaultAddress.symm
  | _ => exact (vaultStored_of_checked executed hkeys).address

/-- The hand-written check of the vault agrees with the declared one: what passes the
first is accepted by the second, and what the second accepts passes the first, if it is
a token account of the mint and exempt from rent. So deposits and payouts use the same
account. -/
theorem vault_checks_agree (hsystem : rt.systemProgram ∉ rt.tokenPrograms) :
    (∀ (Data : Type) (format : TokenAccountFormat Pubkey Data) keys,
      keys.tokenProgram ∈ rt.tokenPrograms →
      (∀ create info info', initIfNeededAndCheckVault rt format create keys info = .ok info' →
        ∃ t, associatedTokenConstraint rt format keys info' = .ok t ∧ t.mint = keys.mint) ∧
      ∀ info t, associatedTokenConstraint rt format keys info = .ok t → t.mint = keys.mint →
        rt.minimumBalance (format.dataLen info.data) ≤ info.lamports →
        ∀ create, initIfNeededAndCheckVault rt format create keys info = .ok info) ∧
    (∀ y : BridgeAssetTargetChain Pubkey, y.tokenProgram ∈ rt.tokenPrograms →
      (∀ s s' payer, initIfNeededAndCheckBridgeHandlerVault rt s payer y.bridgeHandlerVault
          y.bridgeHandler y.mint y.tokenProgram = .ok s' →
        ∃ t, loadBridgeHandlerVault rt s' y = .ok t ∧ t.mint = y.mint) ∧
      ∀ s t, loadBridgeHandlerVault rt s y = .ok t → t.mint = y.mint →
        rt.minimumBalance (rt.tokenAccountLen y.mint) ≤ s.lamports y.bridgeHandlerVault →
        ∀ payer, initIfNeededAndCheckBridgeHandlerVault rt s payer y.bridgeHandlerVault
          y.bridgeHandler y.mint y.tokenProgram = .ok s) ∧
    (∀ s call s' returned y, execute rt s call = .ok (s', returned) →
      checkedVault? call.ix = some (payoutVault y) →
      ∃ t, loadBridgeHandlerVault rt s' y = .ok t ∧ t.mint = y.mint) ∧
    ∀ keys keys', UsesVault rt keys → UsesVault rt keys' →
      keys.bridgeHandler = keys'.bridgeHandler → keys.mint = keys'.mint →
      keys.tokenProgram = keys'.tokenProgram →
      keys.bridgeHandlerVault = keys'.bridgeHandlerVault := by
  refine ⟨?_, ?_, ?_, ?_⟩
  · intro Data format keys hprogram
    constructor
    · intro create info info' checked
      exact accepted_of_checked hsystem hprogram checked
    · intro info t accepted hmint hrent create
      exact checked_of_accepted hsystem hprogram accepted hmint hrent
  · intro y hprogram
    constructor
    · intro s s' payer checked
      exact load_of_checked hsystem hprogram checked
    · intro s t load hmint hrent payer
      exact checked_of_load hsystem hprogram load hmint hrent
  · intro s call s' returned y executed checked
    exact load_of_vaultStored (vaultStored_of_checked executed checked)
  · intro keys keys' used used' hhandler hmint hprogram
    rw [address_of_used used, address_of_used used', hhandler, hmint, hprogram]

end Ledger

/-- The accounts with which a payout of the sample token is made. -/
def samplePayoutAccounts : BridgeAssetTargetChain Key where
  operator := .atom 6
  mint := sampleMint
  recipient := .atom 5
  recipientVault := vaultKey (.atom 5) sampleMint
  bridgeHandler := handlerKey 7
  bridgeHandlerVault := vaultKey (handlerKey 7) sampleMint
  bridgeProof := proofKey (handlerKey 7) (Vector.replicate 64 10)
  guardianInfo := guardiansKey (handlerKey 7)
  verifiedSignatures :=
    approvalsKey (handlerKey 7) (tokenTransferNaming (.atom 30)).msgHash
  tokenInfo := tokenInfoKey (handlerKey 7) sampleMint
  tokenProgram := .atom 1004

/-- The vault of the sample token as it is created. -/
def sampleVaultInfo : AccountInfo Key (AccountData Key Digest) where
  owner := .atom 1004
  lamports := 2039280
  data := .tokenAccount (.atom 1004) { mint := sampleMint, owner := handlerKey 7, amount := 0 }

/-- A Solayer handler without tokens. -/
def sampleHandler : List (Call Key Digest) :=
  [initializeBy (.atom 5) 7 2 (.atom 5) (.atom 6)]

theorem sampleToken_isOk :
    (executeAll (symbolicRuntime true) sampleLedger sampleHandler).isOk = true ∧
      (executeAll (symbolicRuntime true)
        (stateAfter (symbolicRuntime true) sampleLedger sampleHandler)
        [addTokenBy (.atom 6) (handlerKey 7) (.atom 30)]).isOk = true := by
  decide +kernel

theorem vault_checks_agree_sample :
    let rt := symbolicRuntime true
    let keys := payoutVault samplePayoutAccounts
    (initIfNeededAndCheckVault rt (ledgerFormat rt) (.ok sampleVaultInfo) keys
        ⟨rt.systemProgram, 0, .system⟩ = .ok sampleVaultInfo ∧
      ∃ t, associatedTokenConstraint rt (ledgerFormat rt) keys sampleVaultInfo = .ok t ∧
        t.mint = sampleMint) ∧
    (∀ create,
      initIfNeededAndCheckVault rt (ledgerFormat rt) create keys sampleVaultInfo =
        .ok sampleVaultInfo) ∧
    let s := stateAfter rt sampleLedger sampleHandler
    let s' := stateAfter rt s [addTokenBy (.atom 6) (handlerKey 7) (.atom 30)]
    (∃ t, loadBridgeHandlerVault rt s' samplePayoutAccounts = .ok t ∧ t.mint = sampleMint) ∧
    (∀ payer, initIfNeededAndCheckBridgeHandlerVault rt s' payer keys.bridgeHandlerVault
      keys.bridgeHandler keys.mint keys.tokenProgram = .ok s') ∧
    ∀ used, UsesVault rt used → keys.bridgeHandler = used.bridgeHandler →
      keys.mint = used.mint → keys.tokenProgram = used.tokenProgram →
      keys.bridgeHandlerVault = used.bridgeHandlerVault := by
  intro rt keys
  obtain ⟨hinfo, hledger, hcalls, hsame⟩ := vault_checks_agree
    (show rt.systemProgram ∉ rt.tokenPrograms by decide)
  obtain ⟨haccepted, hchecked⟩ := hinfo _ (ledgerFormat rt) keys (by decide)
  obtain ⟨hload, hcheck⟩ := hledger samplePayoutAccounts (by decide)
  have hcreated : initIfNeededAndCheckVault rt (ledgerFormat rt) (.ok sampleVaultInfo) keys
      ⟨rt.systemProgram, 0, .system⟩ = .ok sampleVaultInfo := by
    have hvault : IsVault rt (ledgerFormat rt) keys sampleVaultInfo
        { mint := sampleMint, owner := handlerKey 7, amount := 0 } := ⟨rfl, rfl, rfl, rfl⟩
    have hpasses : checkVault rt (ledgerFormat rt) keys sampleVaultInfo = .ok () :=
      checkVault_eq_ok.mpr ⟨_, hvault, rfl, by decide⟩
    exact initIfNeededAndCheckVault_eq_ok.mpr ⟨if_pos rfl, hpasses⟩
  obtain ⟨t, haccept, hmint⟩ := haccepted _ _ _ hcreated
  refine ⟨⟨hcreated, t, haccept, hmint⟩, ?_, ?_⟩
  · exact hchecked _ t haccept hmint (by decide)
  intro s s'
  obtain ⟨returned, hstep⟩ := exists_step_of_executeAll rt s _ sampleToken_isOk.2
  cases hstep with
  | call executed =>
      obtain ⟨t, ht, hmint⟩ := hcalls _ _ _ _ samplePayoutAccounts executed rfl
      have hused : UsesVault rt keys := ⟨_, _, _, _, executed, rfl⟩
      refine ⟨⟨t, ht, hmint⟩, ?_, fun used => hsame keys used hused⟩
      exact hcheck _ t ht hmint (by decide +kernel)

end BridgeProgram.VaultChecks
