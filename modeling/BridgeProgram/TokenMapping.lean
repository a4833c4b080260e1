import BridgeProgram.SymbolicRuntime
import BridgeProgram.TokenRegistry

namespace BridgeProgram.TokenMapping

open BridgeProgram.BridgeProgramEntry
open BridgeProgram.LedgerInvariants
open BridgeProgram.ProgramStates
open BridgeProgram.RegistryModel
open BridgeProgram.RegistryRefinement
open BridgeProgram.SolanaRuntime
open BridgeProgram.SourceInstructions
open BridgeProgram.SymbolicRuntime
open BridgeProgram.TokenInstructions
open BridgeProgram.TokenRegistry
open BridgeProgram.TransitionRuns

variable {Pubkey Hash : Type}

/-- A token info has neither flag set, or there is none. -/
def Unregistered (r : Registry Pubkey Hash) (a : Pubkey) : Prop :=
  r a = none ∨ ∃ t, r a = some (.tokenInfo t) ∧ t.isSolanaNativeToken = false ∧
    t.isSolayerNativeToken = false

theorem unregistered_of_storedOrNew {rt : Runtime Pubkey Hash} {r : Registry Pubkey Hash}
    {a : Pubkey} {t : TokenInfo Pubkey}
    (found : StoredOrNew r a (.tokenInfo t) (.tokenInfo (zeroTokenInfo rt)))
    (flags : t.isSolanaNativeToken = false ∧ t.isSolayerNativeToken = false) :
    Unregistered r a := by
  rcases found with hstored | ⟨hnone, -⟩
  · exact .inr ⟨t, hstored, flags⟩
  · exact .inl hnone

/-- The call registers a mint of a handler with this counterpart, and stores `t` at `a`. -/
inductive Registers (rt : Runtime Pubkey Hash) (r : Registry Pubkey Hash)
    (call : Call Pubkey Hash) (bridgeHandler mint counterpart a : Pubkey) :
    TokenInfo Pubkey → Prop
  | added {x : AddToken Pubkey} {decimal : UInt8} {name symbol uri : Option String}
      {h : BridgeHandler Pubkey} {bump : UInt8}
      (ix : call.ix = .addToken x decimal name symbol uri)
      (accounts : x.bridgeHandler = bridgeHandler ∧ x.mint = mint ∧ x.sourceMint = counterpart)
      (signed : h.operator ∈ call.signers)
      (handler : HandlerAt rt r bridgeHandler h)
      (mintAddress : (rt.findProgramAddress (.mint bridgeHandler counterpart)).1 = mint)
      (address : rt.findProgramAddress (.tokenInfo bridgeHandler mint) = (a, bump))
      (unregistered : Unregistered r a) :
      Registers rt r call bridgeHandler mint counterpart a
        (addedTokenInfo h.chain bump mint counterpart)
  | bridged {x : BridgeAssetSourceChain Pubkey} {bridgeProofNonce amount : UInt64}
      {recipient : Pubkey} {gas : UInt64} {h : BridgeHandler Pubkey} {bump : UInt8}
      (ix : call.ix = .bridgeAssetSourceChain x bridgeProofNonce amount recipient counterpart gas)
      (accounts : x.bridgeHandler = bridgeHandler ∧ x.mint = mint)
      (handler : HandlerAt rt r bridgeHandler h)
      (address : rt.findProgramAddress (.tokenInfo bridgeHandler mint) = (a, bump))
      (unregistered : Unregistered r a) :
      Registers rt r call bridgeHandler mint counterpart a
        (registeredTokenInfo h.chain bump mint counterpart)

variable [DecidableEq Pubkey]

theorem registers_of_changed {rt : Runtime Pubkey Hash} {clock : Clock}
    {r r' : Registry Pubkey Hash} {call : Call Pubkey Hash} {returned : Option UInt64}
    {a : Pubkey} {t : TokenInfo Pubkey} (step : RegistryStep rt clock r call returned r')
    (stored : r' a = some (.tokenInfo t)) (changed : r' a ≠ r a) :
    ∃ bridgeHandler mint counterpart,
      Registers rt r call bridgeHandler mint counterpart a t := by
  cases step with
  | @addToken signers ixSysvar x decimal name symbol uri h t₀ bump signed handler operator_eq
      mintAddress tokenAddress found unregistered =>
      obtain rfl : a = x.tokenInfo := by
        by_contra hne
        exact changed (Function.update_of_ne hne _ _)
      rw [Function.update_self] at stored
      obtain rfl := ProgramData.tokenInfo.inj (Option.some.inj stored)
      exact ⟨_, _, _, .added rfl ⟨rfl, rfl, rfl⟩ (operator_eq ▸ signed) handler mintAddress
        tokenAddress (unregistered_of_storedOrNew found unregistered)⟩
  | @bridgeAssetSourceChain signers ixSysvar x bridgeProofNonce amount recipient targetMint gas
      h t₀ t₁ proofBump tokenBump request tokenAddress distinct found token =>
      obtain rfl : a = x.tokenInfo := by
        by_contra hne
        rw [Function.update_of_ne hne] at stored changed
        simp only [Function.update_apply] at stored changed
        split_ifs at stored changed
        · cases stored
        · cases stored
        · exact changed rfl
      rw [Function.update_self] at stored changed
      obtain rfl := ProgramData.tokenInfo.inj (Option.some.inj stored)
      rcases token with ⟨hsolana, hsolayer, rfl⟩ | ⟨hregistered, -, rfl⟩
      · exact ⟨_, _, _, .bridged rfl ⟨rfl, rfl⟩ request.handler tokenAddress
          (unregistered_of_storedOrNew found ⟨hsolana, hsolayer⟩)⟩
      · rcases found with hstored | ⟨-, hfresh⟩
        · exact absurd hstored.symm changed
        · cases hfresh
          simp [zeroTokenInfo] at hregistered
  | addTokenAgain => exact absurd rfl changed
  | tokenPause => exact absurd rfl changed
  | _ =>
      simp only [afterPayout, Function.update_apply] at stored changed
      split_ifs at stored changed <;> first | cases stored | exact absurd rfl changed

variable [DecidableEq Hash] {rt : Runtime Pubkey Hash}

/-- A transition in which a token info is registered. -/
def RegisteredIn (rt : Runtime Pubkey Hash) (u : LedgerTransition Pubkey Hash)
    (bridgeHandler mint counterpart a : Pubkey) (t : TokenInfo Pubkey) : Prop :=
  ∃ call returned, u.label = .call call returned ∧
    Registers rt u.pre.programData call bridgeHandler mint counterpart a t

theorem exists_registration {s₀ s : State Pubkey Hash}
    {trace : List (LedgerTransition Pubkey Hash)} (genesis : Genesis s₀)
    (run : LedgerRun rt s₀ trace s) {a : Pubkey} {t : TokenInfo Pubkey}
    (stored : s.programData a = some (.tokenInfo t)) :
    ∃ u ∈ trace, ∃ bridgeHandler mint counterpart,
      RegisteredIn rt u bridgeHandler mint counterpart a t := by
  induction run with
  | nil => simp [genesis a] at stored
  | @snoc s₁ s₂ trace event run next ih =>
      by_cases hsame : s₂.programData a = s₁.programData a
      · obtain ⟨u, hu, hregistered⟩ := ih (hsame ▸ stored)
        exact ⟨u, List.mem_append_left _ hu, hregistered⟩
      · rcases ledgerStep_registry next with hall | ⟨call, returned, rfl, step⟩
        · exact absurd (congrFun hall a) hsame
        · obtain ⟨bridgeHandler, mint, counterpart, registers⟩ :=
            registers_of_changed step stored hsame
          exact ⟨_, List.mem_append_right _ (List.mem_singleton_self _), bridgeHandler, mint,
            counterpart, call, returned, rfl, registers⟩

/-- In the transition a source call of the mint names this counterpart, and the
mint was not registered before. -/
def SuppliedByCaller (trace : List (LedgerTransition Pubkey Hash))
    (bridgeHandler mint counterpart a : Pubkey) : Prop :=
  ∃ u ∈ trace, ∃ call returned x bridgeProofNonce amount recipient gas,
    u.label = .call call returned ∧
    call.ix = .bridgeAssetSourceChain x bridgeProofNonce amount recipient counterpart gas ∧
    x.bridgeHandler = bridgeHandler ∧ x.mint = mint ∧ Unregistered u.pre.programData a

/-- The two ways in which a token info of a mint can come about. -/
inductive Origin (rt : Runtime Pubkey Hash) (trace : List (LedgerTransition Pubkey Hash))
    (chain : Chain) (bridgeHandler mint a : Pubkey) (t : TokenInfo Pubkey) : Prop
  | added (native : isNativeOn chain t = false)
      (mintAddress : (rt.findProgramAddress
        (.mint bridgeHandler (counterpartMint chain t))).1 = mint)
  | supplied (native : isNativeOn chain t = true)
      (supplied : SuppliedByCaller trace bridgeHandler mint (counterpartMint chain t) a)

theorem origin_of_tokenInfoAt (collisionFree : CollisionFree rt) {s₀ s : State Pubkey Hash}
    {trace : List (LedgerTransition Pubkey Hash)} (genesis : Genesis s₀)
    (run : LedgerRun rt s₀ trace s) {bridgeHandler mint a : Pubkey} {h : BridgeHandler Pubkey}
    {t : TokenInfo Pubkey} (handler : HandlerAt rt s.programData bridgeHandler h)
    (token : TokenInfoAt rt s.programData bridgeHandler mint a t) :
    Origin rt trace h.chain bridgeHandler mint a t := by
  obtain ⟨u, hu, bridgeHandler', mint', counterpart, call, returned, hlabel, registers⟩ :=
    exists_registration genesis run token.stored
  obtain ⟨before, after, rfl⟩ := List.append_of_mem hu
  obtain ⟨-, hstep, hafter⟩ := run.split_at
  have hchain : ∀ {x}, HandlerAt rt u.pre.programData bridgeHandler x → h.chain = x.chain :=
    fun hx => (handlerAt_of_later (.cons hstep hafter) hx.stored handler).2.chain
  cases registers with
  | added ix accounts signed handler' mintAddress address unregistered =>
      obtain ⟨rfl, rfl⟩ := Seeds.tokenInfo.inj (seeds_eq_of_canonical collisionFree address
        token.address)
      rw [hchain handler']
      cases hx : BridgeHandler.chain _ with
      | solana => exact .added rfl mintAddress
      | solayer => exact .added rfl mintAddress
  | bridged ix accounts handler' address unregistered =>
      obtain ⟨rfl, rfl⟩ := Seeds.tokenInfo.inj (seeds_eq_of_canonical collisionFree address
        token.address)
      rw [hchain handler']
      have hsupplied : ∀ c, c = counterpart → SuppliedByCaller (before ++ u :: after)
          bridgeHandler' mint' c a := by
        rintro c rfl
        exact ⟨u, hu, call, returned, _, _, _, _, _, hlabel, ix, accounts.1, accounts.2,
          unregistered⟩
      cases hx : BridgeHandler.chain _ with
      | solana => exact .supplied rfl (hsupplied _ rfl)
      | solayer => exact .supplied rfl (hsupplied _ rfl)

/-- Two mints of a handler share a counterpart only if a caller supplied it for one
of them, which is then a token of the handler's own chain. -/
theorem shared_counterpart_supplied (collisionFree : CollisionFree rt)
    {s₀ s : State Pubkey Hash} {trace : List (LedgerTransition Pubkey Hash)}
    (genesis : Genesis s₀) (run : LedgerRun rt s₀ trace s)
    {bridgeHandler mint mint' a a' : Pubkey} {h : BridgeHandler Pubkey}
    {t t' : TokenInfo Pubkey} (handler : HandlerAt rt s.programData bridgeHandler h)
    (token : TokenInfoAt rt s.programData bridgeHandler mint a t)
    (token' : TokenInfoAt rt s.programData bridgeHandler mint' a' t') (distinct : mint ≠ mint')
    (shared : counterpartMint h.chain t = counterpartMint h.chain t') :
    isNativeOn h.chain t = true ∧
        SuppliedByCaller trace bridgeHandler mint (counterpartMint h.chain t) a ∨
      isNativeOn h.chain t' = true ∧
        SuppliedByCaller trace bridgeHandler mint' (counterpartMint h.chain t') a' := by
  cases origin_of_tokenInfoAt collisionFree genesis run handler token with
  | supplied native supplied => exact .inl ⟨native, supplied⟩
  | added native mintAddress =>
      cases origin_of_tokenInfoAt collisionFree genesis run handler token' with
      | supplied native' supplied' => exact .inr ⟨native', supplied'⟩
      | added native' mintAddress' =>
          rw [shared] at mintAddress
          exact absurd (mintAddress.symm.trans mintAddress') distinct

/-- The sample ledger, on which key 50 has made a token 40 of its own. -/
def worthlessLedger : State Key Digest where
  lamports := (ledgerOf [(.atom 5, 1000000000), (.atom 6, 1000000000),
    (.atom 50, 1000000000)]).lamports
  data a :=
    if a = .atom 40 then
      .mint (.atom 1004) { supply := 1000, decimals := 6, mintAuthority := some (.atom 50) }
    else if a = vaultKey (.atom 50) (.atom 40) then
      .tokenAccount (.atom 1004) { mint := .atom 40, owner := .atom 50, amount := 1000 }
    else .system
  clock := { epoch := 0, unixTimestamp := 0 }

theorem genesis_worthlessLedger : Genesis worthlessLedger := by
  intro a
  unfold State.programData worthlessLedger
  dsimp only
  split_ifs <;> rfl

/-- The operator adds token 30 of the other chain, and key 50 names the same token as
the counterpart of its own. -/
def worthlessToken : List (Call Key Digest) :=
  let bridgeHandler := handlerKey 7
  [ initializeBy (.atom 5) 7 2 (.atom 5) (.atom 6),
    addTokenBy (.atom 6) bridgeHandler (.atom 30),
    bridgeTokenBy (.atom 50) bridgeHandler (.atom 40) (.atom 5) 0 1 (.atom 20) (.atom 30) ]

theorem worthlessToken_registered :
    let rt := symbolicRuntime true
    let s := stateAfter rt worthlessLedger worthlessToken
    LedgerRun rt worthlessLedger (callTrace rt worthlessLedger worthlessToken) s ∧
      ∃ h t t', HandlerAt rt s.programData (handlerKey 7) h ∧
        TokenInfoAt rt s.programData (handlerKey 7) sampleMint
          (tokenInfoKey (handlerKey 7) sampleMint) t ∧
        TokenInfoAt rt s.programData (handlerKey 7) (.atom 40)
          (tokenInfoKey (handlerKey 7) (.atom 40)) t' ∧
        counterpartMint h.chain t = counterpartMint h.chain t' := by
  intro rt s
  have hok : (executeAll rt worthlessLedger worthlessToken).isOk = true := by decide +kernel
  obtain ⟨h, handler, hchain⟩ := exists_handlerAt true s (handlerKey 7)
    (fun h => h.chain = .solayer) (by decide +kernel)
  obtain ⟨t, token, ht⟩ := exists_tokenInfoAt true s (handlerKey 7) sampleMint
    (fun t => t.solanaMint = .atom 30) (by decide +kernel)
  obtain ⟨t', token', ht'⟩ := exists_tokenInfoAt true s (handlerKey 7) (.atom 40)
    (fun t => t.solanaMint = .atom 30) (by decide +kernel)
  refine ⟨run_callTrace hok, h, t, t', handler, token, token', ?_⟩
  rw [of_decide_eq_true hchain]
  exact (of_decide_eq_true ht).trans (of_decide_eq_true ht').symm

theorem sampleMint_ne_worthless : sampleMint ≠ .atom 40 := by
  decide

theorem shared_counterpart_supplied_sample :
    let rt := symbolicRuntime true
    let trace := callTrace rt worthlessLedger worthlessToken
    let s := stateAfter rt worthlessLedger worthlessToken
    ∃ h t t', HandlerAt rt s.programData (handlerKey 7) h ∧
      TokenInfoAt rt s.programData (handlerKey 7) sampleMint
        (tokenInfoKey (handlerKey 7) sampleMint) t ∧
      TokenInfoAt rt s.programData (handlerKey 7) (.atom 40)
        (tokenInfoKey (handlerKey 7) (.atom 40)) t' ∧
      (isNativeOn h.chain t = true ∧ SuppliedByCaller trace (handlerKey 7) sampleMint
          (counterpartMint h.chain t) (tokenInfoKey (handlerKey 7) sampleMint) ∨
        isNativeOn h.chain t' = true ∧ SuppliedByCaller trace (handlerKey 7) (.atom 40)
          (counterpartMint h.chain t') (tokenInfoKey (handlerKey 7) (.atom 40))) := by
  obtain ⟨run, h, t, t', handler, token, token', shared⟩ := worthlessToken_registered
  exact ⟨h, t, t', handler, token, token',
    shared_counterpart_supplied (symbolicRuntime_collisionFree true) genesis_worthlessLedger run
      handler token token' sampleMint_ne_worthless shared⟩

/-- A user registers its token as the counterpart of a mint that another token has. -/
theorem worthless_token_shares_counterpart :
    ¬ ∀ s, LedgerReachable (symbolicRuntime true) s →
      ∀ bridgeHandler mint mint' a a' h t t',
        HandlerAt (symbolicRuntime true) s.programData bridgeHandler h →
        TokenInfoAt (symbolicRuntime true) s.programData bridgeHandler mint a t →
        TokenInfoAt (symbolicRuntime true) s.programData bridgeHandler mint' a' t' →
        mint ≠ mint' → counterpartMint h.chain t ≠ counterpartMint h.chain t' := by
  intro oneToOne
  obtain ⟨run, h, t, t', handler, token, token', shared⟩ := worthlessToken_registered
  exact oneToOne _ ⟨worthlessLedger, _, genesis_worthlessLedger, run⟩ _ _ _ _ _ h t t' handler
    token token' sampleMint_ne_worthless shared

end BridgeProgram.TokenMapping
