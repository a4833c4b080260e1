import BridgeProgram.DerivedAccounts
import BridgeProgram.TokenMapping

namespace BridgeProgram.DerivedMints

open BridgeProgram.AccountKeeping
open BridgeProgram.BridgeProgramEntry
open BridgeProgram.CallEffects
open BridgeProgram.CheckedResult
open BridgeProgram.DerivedAccounts
open BridgeProgram.LedgerInvariants
open BridgeProgram.ProgramStates
open BridgeProgram.RegistryCells
open BridgeProgram.RegistryModel
open BridgeProgram.RegistryRefinement
open BridgeProgram.SeedStrings
open BridgeProgram.SolanaRuntime
open BridgeProgram.SourceInstructions
open BridgeProgram.SourceSteps
open BridgeProgram.SymbolicRuntime
open BridgeProgram.TokenEffects
open BridgeProgram.TokenInstructions
open BridgeProgram.TokenMapping
open BridgeProgram.TokenRegistry
open BridgeProgram.TransitionRuns

variable {Pubkey Hash : Type}

/-- The mint that a handler creates for a source mint. -/
def mintAddress (rt : Runtime Pubkey Hash) (bridgeHandler sourceMint : Pubkey) : Pubkey :=
  (rt.findProgramAddress (.mint bridgeHandler sourceMint)).1

/-- A ledger has no mint at a derived address. -/
def NoDerivedMints (rt : Runtime Pubkey Hash) (s : State Pubkey Hash) : Prop :=
  ∀ a tokenProgram m, IsDerived rt a → s.data a ≠ .mint tokenProgram m

/-- The handler registered its mint for the source mint as a token of the other chain. -/
def AddedToken (rt : Runtime Pubkey Hash) (s : State Pubkey Hash)
    (bridgeHandler sourceMint : Pubkey) : Prop :=
  ∃ h a bump, HandlerAt rt s.programData bridgeHandler h ∧
    rt.findProgramAddress (.tokenInfo bridgeHandler (mintAddress rt bridgeHandler sourceMint)) =
      (a, bump) ∧
    s.programData a = some (.tokenInfo
      (addedTokenInfo h.chain bump (mintAddress rt bridgeHandler sourceMint) sourceMint))

/-- A mint at a derived address belongs to its handler and is registered, and what is
registered exists. -/
structure MintsAdded (rt : Runtime Pubkey Hash) (s : State Pubkey Hash) : Prop where
  added : ∀ bridgeHandler sourceMint tokenProgram m,
    s.data (mintAddress rt bridgeHandler sourceMint) = .mint tokenProgram m →
    m.mintAuthority = some bridgeHandler ∧ AddedToken rt s bridgeHandler sourceMint
  exist : ∀ bridgeHandler sourceMint a bump t,
    rt.findProgramAddress (.tokenInfo bridgeHandler (mintAddress rt bridgeHandler sourceMint)) =
      (a, bump) →
    s.programData a = some (.tokenInfo t) →
    ∃ tokenProgram m, s.data (mintAddress rt bridgeHandler sourceMint) = .mint tokenProgram m

theorem isDerived_mintAddress (rt : Runtime Pubkey Hash) (bridgeHandler sourceMint : Pubkey) :
    IsDerived rt (mintAddress rt bridgeHandler sourceMint) :=
  ⟨_, _, rt.create_find _⟩

theorem mintAddress_inj {rt : Runtime Pubkey Hash} (collisionFree : CollisionFree rt)
    {bridgeHandler sourceMint bridgeHandler' sourceMint' : Pubkey}
    (h : mintAddress rt bridgeHandler sourceMint = mintAddress rt bridgeHandler' sourceMint') :
    bridgeHandler = bridgeHandler' ∧ sourceMint = sourceMint' := by
  have hcreate := rt.create_find (.mint bridgeHandler' sourceMint')
  rw [show (rt.findProgramAddress (.mint bridgeHandler' sourceMint')).1 = _ from h.symm] at hcreate
  exact Seeds.mint.inj (collisionFree _ _ _ _ _ (rt.create_find _) hcreate).1

variable [DecidableEq Pubkey] [DecidableEq Hash] {rt : Runtime Pubkey Hash}
  {s s' : State Pubkey Hash} {event : Event Pubkey Hash} {call : Call Pubkey Hash}
  {returned : Option UInt64} {bridgeHandler sourceMint : Pubkey}

theorem mint_of_addToken (executed : execute rt s call = .ok (s', returned))
    {x : AddToken Pubkey} {decimal : UInt8} {name symbol uri : Option String}
    (ix : call.ix = .addToken x decimal name symbol uri) :
    ∃ m, s'.data x.mint = .mint x.tokenProgram m ∧ m.mintAuthority = some x.bridgeHandler :=
  (addToken_keeps (addToken_of_executed executed ix)).2

theorem mint_of_source (executed : execute rt s call = .ok (s', returned))
    {x : BridgeAssetSourceChain Pubkey} {amount : UInt64}
    (token : tokenRequest? call.ix = some (x, amount)) :
    ∃ m, s.data x.mint = .mint x.tokenProgram m := by
  obtain ⟨c, h, t, -, -, taken⟩ := request_effect token executed
  exact taken.mint

theorem programData_mintAddress (collisionFree : CollisionFree rt)
    (reachable : LedgerReachable rt s) :
    s.programData (mintAddress rt bridgeHandler sourceMint) = none := by
  by_contra hsome
  obtain ⟨d, hstored⟩ := Option.ne_none_iff_exists'.mp hsome
  obtain ⟨seeds, bump, address, hrole⟩ := seeds_of_reachable reachable hstored
  obtain rfl := (collisionFree _ _ _ _ _ address
    (rt.create_find (.mint bridgeHandler sourceMint))).1
  exact storedRole_ne_mint d hrole.symm

theorem addedToken_kept (reachable : LedgerReachable rt s) (step : LedgerStep rt s event s')
    (added : AddedToken rt s bridgeHandler sourceMint) :
    AddedToken rt s' bridgeHandler sourceMint := by
  obtain ⟨h, a, bump, handler, address, stored⟩ := added
  obtain ⟨h', handler', hidentity⟩ := handlerAt_kept step handler
  refine ⟨h', a, bump, handler', address, ?_⟩
  rw [hidentity.chain]
  exact tokenInfo_kept reachable step stored

/-- A mint that a call creates at a derived address is created by `add_token`. -/
theorem addToken_of_created (collisionFree : CollisionFree rt) (reachable : LedgerReachable rt s)
    (executed : execute rt s call = .ok (s', returned))
    (absent : ∀ tokenProgram m,
      s.data (mintAddress rt bridgeHandler sourceMint) ≠ .mint tokenProgram m)
    {tokenProgram : Pubkey} {m : Mint Pubkey}
    (created : s'.data (mintAddress rt bridgeHandler sourceMint) = .mint tokenProgram m) :
    m.supply = 0 ∧ ∃ x decimal name symbol uri,
      call.ix = .addToken x decimal name symbol uri ∧
      x.mint = mintAddress rt bridgeHandler sourceMint := by
  have effect := callEffect executed
  by_cases hsystem : s.data (mintAddress rt bridgeHandler sourceMint) = .system
  · obtain ⟨hnew, hempty⟩ := effect.mint_created hsystem created
    refine ⟨hempty, ?_⟩
    cases hix : call.ix with
    | addToken x decimal name symbol uri =>
        rw [hix] at hnew
        exact ⟨x, decimal, name, symbol, uri, rfl, hnew.symm⟩
    | _ => simp [hix, newMints] at hnew
  · have hkept := effect.shape_kept hsystem (programData_mintAddress collisionFree reachable)
    rw [BalanceEffects.shape, created, eq_comm] at hkept
    exact absurd (BalanceEffects.data_eq_mint hkept) (absent _ _)

theorem added_of_addToken (collisionFree : CollisionFree rt)
    (executed : execute rt s call = .ok (s', returned)) (minted : MintsAdded rt s)
    {x : AddToken Pubkey} {decimal : UInt8} {name symbol uri : Option String}
    (ix : call.ix = .addToken x decimal name symbol uri)
    (account : x.mint = mintAddress rt bridgeHandler sourceMint)
    (absent : ∀ tokenProgram m, s.data x.mint ≠ .mint tokenProgram m) :
    x.bridgeHandler = bridgeHandler ∧ AddedToken rt s' bridgeHandler sourceMint := by
  have step := (execute_refines executed).1
  generalize hr : s'.programData = r' at step
  obtain ⟨signers, ixSysvar, ix'⟩ := call
  subst ix
  cases step with
  | @addToken _ _ _ _ _ _ _ h t bump signed handler operator_eq hmint tokenAddress found
      unregistered =>
      obtain ⟨rfl, rfl⟩ := mintAddress_inj collisionFree (hmint.trans account)
      have hne : x.tokenInfo ≠ x.bridgeHandler := by
        intro heq
        rcases found with hstored | ⟨hnone, -⟩
        · rw [heq, handler.stored] at hstored
          cases hstored
        · rw [heq, handler.stored] at hnone
          cases hnone
      refine ⟨rfl, h, x.tokenInfo, bump, ⟨?_, handler.address⟩,
        by rw [← account]; exact tokenAddress, ?_⟩
      · rw [hr, Function.update_of_ne hne.symm, handler.stored]
      · rw [hr, Function.update_self, ← account]
  | addTokenAgain signed handler operator_eq hmint tokenAddress stored registered =>
      obtain ⟨rfl, rfl⟩ := mintAddress_inj collisionFree (hmint.trans account)
      rw [account] at tokenAddress absent
      obtain ⟨tokenProgram, m, hdata⟩ := minted.exist _ _ _ _ _ tokenAddress stored
      exact absurd hdata (absent _ _)
  | managed kind => simp [managerUpdate?] at kind
  | tokenPause kind => simp [tokenPause?] at kind
  | payout kind => simp [payout?] at kind

theorem mint_stays (step : LedgerStep rt s event s')
    (respects : event = .other → RespectsDerived rt s s') (minted : MintsAdded rt s)
    {tokenProgram : Pubkey} {m : Mint Pubkey}
    (hdata : s.data (mintAddress rt bridgeHandler sourceMint) = .mint tokenProgram m) :
    ∃ m', s'.data (mintAddress rt bridgeHandler sourceMint) = .mint tokenProgram m' ∧
      m'.mintAuthority = some bridgeHandler := by
  obtain ⟨hauthority, h, a, bump, handler, -⟩ := minted.added _ _ _ _ hdata
  exact mint_persists step respects hdata hauthority (isDerived_of_handler handler)

theorem mintsAdded_step (collisionFree : CollisionFree rt) (reachable : LedgerReachable rt s)
    (step : LedgerStep rt s event s') (respects : event = .other → RespectsDerived rt s s')
    (minted : MintsAdded rt s) : MintsAdded rt s' := by
  constructor
  · intro bridgeHandler sourceMint tokenProgram m hdata
    by_cases hexists : ∃ tokenProgram m,
        s.data (mintAddress rt bridgeHandler sourceMint) = .mint tokenProgram m
    · obtain ⟨tokenProgram₀, m₀, hbefore⟩ := hexists
      obtain ⟨m₁, hafter, hauthority⟩ := mint_stays step respects minted hbefore
      obtain ⟨-, rfl⟩ := AccountData.mint.inj (hafter.symm.trans hdata)
      exact ⟨hauthority, addedToken_kept reachable step (minted.added _ _ _ _ hbefore).2⟩
    · have habsent : ∀ tokenProgram m,
          s.data (mintAddress rt bridgeHandler sourceMint) ≠ .mint tokenProgram m :=
        fun tokenProgram m hbefore => hexists ⟨tokenProgram, m, hbefore⟩
      cases step with
      | other change =>
          obtain ⟨m₀, hbefore⟩ := (respects rfl).created _ _ _ (isDerived_mintAddress ..) hdata
          exact absurd hbefore (habsent _ _)
      | call executed =>
          obtain ⟨-, x, decimal, name, symbol, uri, ix, account⟩ :=
            addToken_of_created collisionFree reachable executed habsent hdata
          obtain ⟨rfl, hadded⟩ := added_of_addToken collisionFree executed minted ix account
            (by rw [account]; exact habsent)
          obtain ⟨m₁, hafter, hauthority⟩ := mint_of_addToken executed ix
          rw [account] at hafter
          obtain ⟨-, rfl⟩ := AccountData.mint.inj (hafter.symm.trans hdata)
          exact ⟨hauthority, hadded⟩
  · intro bridgeHandler sourceMint a bump t address stored
    by_cases hsame : s'.programData a = s.programData a
    · obtain ⟨tokenProgram, m, hdata⟩ := minted.exist _ _ _ _ _ address (hsame ▸ stored)
      obtain ⟨m', hdata', -⟩ := mint_stays step respects minted hdata
      exact ⟨tokenProgram, m', hdata'⟩
    · cases step with
      | other change => exact absurd (congrFun change.programData a) hsame
      | call executed =>
          have hcreate := rt.create_of_find address
          obtain ⟨bridgeHandler', mint, counterpart, registers⟩ :=
            registers_of_changed (execute_refines executed).1 stored hsame
          cases registers with
          | added ix accounts signed handler hmint address' =>
              obtain ⟨-, hsame'⟩ := Seeds.tokenInfo.inj
                (seeds_eq_of_canonical collisionFree address' hcreate)
              obtain ⟨m, hdata, -⟩ := mint_of_addToken executed ix
              rw [accounts.2.1, hsame'] at hdata
              exact ⟨_, m, hdata⟩
          | @bridged x _ amount _ _ _ _ ix accounts handler address' =>
              obtain ⟨-, hsame'⟩ := Seeds.tokenInfo.inj
                (seeds_eq_of_canonical collisionFree address' hcreate)
              obtain ⟨m, hdata⟩ := mint_of_source executed (by rw [ix]; rfl)
              have hafter := mint_kept (callEffect executed) hdata
              rw [accounts.2, hsame'] at hafter
              exact ⟨_, _, hafter⟩

omit [DecidableEq Pubkey] [DecidableEq Hash] in
theorem mintsAdded_genesis (genesis : Genesis s) (unminted : NoDerivedMints rt s) :
    MintsAdded rt s where
  added _ _ _ _ hdata := absurd hdata (unminted _ _ _ (isDerived_mintAddress ..))
  exist _ _ a _ _ _ stored := by
    cases (genesis a).symm.trans stored

theorem mintsAdded_of_run (collisionFree : CollisionFree rt) {s₀ : State Pubkey Hash}
    {trace : List (LedgerTransition Pubkey Hash)} (genesis : Genesis s₀)
    (unminted : NoDerivedMints rt s₀) (run : LedgerRun rt s₀ trace s)
    (respectful : Respectful rt trace) : MintsAdded rt s := by
  induction run with
  | nil => exact mintsAdded_genesis genesis unminted
  | @snoc t t' trace event run next ih =>
      exact mintsAdded_step collisionFree ⟨_, _, genesis, run⟩ next
        (respectful _ (List.mem_append_right _ (List.mem_singleton_self _)))
        (ih fun u hu => respectful u (List.mem_append_left _ hu))

theorem noDerivedMints_ledgerOf (solayer : Bool) (wallets : List (Key × Nat)) :
    NoDerivedMints (symbolicRuntime solayer) (ledgerOf wallets) :=
  fun _ _ _ _ hdata => by cases hdata

end BridgeProgram.DerivedMints
