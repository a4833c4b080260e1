import BridgeProgram.SolLedger
import BridgeProgram.TokenRegistrations

/-!
The tokens of a handler. Its vault of a mint of its own chain covers what source
calls locked less what payouts released, and the supply of a mint of the other
chain is at most what payouts minted less what source calls burned.
-/

namespace BridgeProgram.TokenLedger

open BridgeProgram.AccountEffects
open BridgeProgram.AccountKeeping
open BridgeProgram.BalanceEffects
open BridgeProgram.BridgeProgramEntry
open BridgeProgram.CallEffects
open BridgeProgram.DerivedAccounts
open BridgeProgram.DerivedMints
open BridgeProgram.LedgerInvariants
open BridgeProgram.PayoutSteps
open BridgeProgram.ProgramStates
open BridgeProgram.RegistryModel
open BridgeProgram.RegistryRefinement
open BridgeProgram.SolLedger
open BridgeProgram.SolanaRuntime
open BridgeProgram.SourceInstructions
open BridgeProgram.SourceSteps
open BridgeProgram.SymbolicRuntime
open BridgeProgram.TargetInstructions
open BridgeProgram.TokenEffects
open BridgeProgram.TokenInstructions
open BridgeProgram.TokenMapping
open BridgeProgram.TokenPrograms
open BridgeProgram.TokenRegistrations
open BridgeProgram.TokenRegistry
open BridgeProgram.TransitionRuns

variable {Pubkey Hash : Type}

/-- The handler that an instruction bridges tokens for. -/
def tokenHandler? : Instruction Pubkey Hash → Option Pubkey
  | .bridgeAssetSourceChain x .. => some x.bridgeHandler
  | .bridgeAssetTargetChain x .. => some x.bridgeHandler
  | _ => none

variable [DecidableEq Pubkey]

/-- Tokens of a mint that a successful source call takes for a handler. -/
def bridgedTokens (bridgeHandler mint tokenProgram : Pubkey) : Event Pubkey Hash → ℕ
  | .call call _ =>
      match tokenRequest? call.ix with
      | some (x, amount) =>
          if x.bridgeHandler = bridgeHandler ∧ x.mint = mint ∧ x.tokenProgram = tokenProgram
          then amount.toNat else 0
      | none => 0
  | .other => 0

/-- Tokens of a mint that a successful payout of a handler pays. -/
def receivedTokens (bridgeHandler mint tokenProgram : Pubkey) : Event Pubkey Hash → ℕ
  | .call call _ =>
      match tokenPayment? call.ix with
      | some (x, amount) =>
          if x.bridgeHandler = bridgeHandler ∧ x.mint = mint ∧ x.tokenProgram = tokenProgram
          then amount.toNat else 0
      | none => 0
  | .other => 0

/-- The tokens in the vault of a handler. -/
def vaultBalance (rt : Runtime Pubkey Hash) (bridgeHandler mint tokenProgram : Pubkey)
    (s : State Pubkey Hash) : ℕ :=
  match s.data (rt.associatedTokenAddress bridgeHandler mint tokenProgram) with
  | .tokenAccount program w =>
      if program = tokenProgram ∧ w.mint = mint ∧ w.owner = bridgeHandler then w.amount else 0
  | _ => 0

/-- The supply of a mint of a token program. -/
def supplyUnder (mint tokenProgram : Pubkey) (s : State Pubkey Hash) : ℕ :=
  match s.data mint with
  | .mint program m => if program = tokenProgram then m.supply else 0
  | _ => 0

/-- The tokens of a registered mint after a run of a handler on `chain`, and what the
calls of the run did to them. -/
structure TokensBacked (rt : Runtime Pubkey Hash)
    (trace : List (LedgerTransition Pubkey Hash)) (s' : State Pubkey Hash) (chain : Chain)
    (t : TokenInfo Pubkey) (bridgeHandler mint tokenProgram : Pubkey) : Prop where
  unissued : isNativeOn chain t = true → ∀ u ∈ trace, ∀ call returned m,
    u.label = .call call returned → u.pre.data mint = .mint tokenProgram m →
    u.post.data mint = .mint tokenProgram m ∨
      ∃ b sourceMint, tokenHandler? call.ix = some b ∧ b ≠ bridgeHandler ∧
        mint = mintAddress rt b sourceMint ∧ AddedToken rt u.pre b sourceMint
  locked : isNativeOn chain t = true →
    (trace.map fun u => bridgedTokens bridgeHandler mint tokenProgram u.label).sum ≤
      vaultBalance rt bridgeHandler mint tokenProgram s' +
        (trace.map fun u => receivedTokens bridgeHandler mint tokenProgram u.label).sum
  undebited : isNativeOn chain t = false → ∀ u ∈ trace, ∀ call returned a w,
    u.label = .call call returned → IsHandler u.pre bridgeHandler →
    u.pre.data a = .tokenAccount tokenProgram w → w.mint = mint → w.owner = bridgeHandler →
    ∃ w', u.post.data a = .tokenAccount tokenProgram w' ∧ w.amount ≤ w'.amount
  issued : isNativeOn chain t = false →
    supplyUnder mint tokenProgram s' +
        (trace.map fun u => bridgedTokens bridgeHandler mint tokenProgram u.label).sum ≤
      (trace.map fun u => receivedTokens bridgeHandler mint tokenProgram u.label).sum

/-- As far as they exist, the handler is on its chain and the token info of the mint
is what it will stay. -/
structure Settled (rt : Runtime Pubkey Hash) (s : State Pubkey Hash) (chain : Chain)
    (t : TokenInfo Pubkey) (bridgeHandler mint : Pubkey) : Prop where
  chain : ∀ h, s.programData bridgeHandler = some (.bridgeHandler h) → h.chain = chain
  token : ∀ a bump t', rt.findProgramAddress (.tokenInfo bridgeHandler mint) = (a, bump) →
    s.programData a = some (.tokenInfo t') → t' = t

variable {rt : Runtime Pubkey Hash} {s s' : State Pubkey Hash} {event : Event Pubkey Hash}
  {call : Call Pubkey Hash} {returned : Option UInt64} {chain : Chain} {t : TokenInfo Pubkey}
  {bridgeHandler mint tokenProgram a : Pubkey}

theorem bridgedTokens_of_token {x : BridgeAssetSourceChain Pubkey} {amount : UInt64}
    (token : tokenRequest? call.ix = some (x, amount)) :
    bridgedTokens bridgeHandler mint tokenProgram (.call call returned) =
      if x.bridgeHandler = bridgeHandler ∧ x.mint = mint ∧ x.tokenProgram = tokenProgram
      then amount.toNat else 0 := by
  simp only [bridgedTokens, token]

theorem bridgedTokens_of_none (noToken : tokenRequest? call.ix = none) :
    bridgedTokens bridgeHandler mint tokenProgram (.call call returned) = 0 := by
  simp only [bridgedTokens, noToken]

theorem receivedTokens_of_token {x : BridgeAssetTargetChain Pubkey} {amount : UInt64}
    (token : tokenPayment? call.ix = some (x, amount)) :
    receivedTokens bridgeHandler mint tokenProgram (.call call returned) =
      if x.bridgeHandler = bridgeHandler ∧ x.mint = mint ∧ x.tokenProgram = tokenProgram
      then amount.toNat else 0 := by
  simp only [receivedTokens, token]

omit [DecidableEq Pubkey] in
theorem tokenRequest?_of_noSource {ix : Instruction Pubkey Hash} (noSource : source? ix = none) :
    tokenRequest? ix = none := by
  cases ix with
  | bridgeAssetSourceChain => simp [source?] at noSource
  | _ => rfl

omit [DecidableEq Pubkey] in
theorem tokenHandler?_of_request {ix : Instruction Pubkey Hash}
    {x : BridgeAssetSourceChain Pubkey} {amount : UInt64}
    (token : tokenRequest? ix = some (x, amount)) : tokenHandler? ix = some x.bridgeHandler := by
  cases ix with
  | bridgeAssetSourceChain =>
      obtain ⟨rfl, -⟩ := Prod.mk.inj (Option.some.inj token)
      rfl
  | _ => simp [tokenRequest?] at token

omit [DecidableEq Pubkey] in
theorem tokenHandler?_of_payment {ix : Instruction Pubkey Hash}
    {x : BridgeAssetTargetChain Pubkey} {amount : UInt64}
    (token : tokenPayment? ix = some (x, amount)) : tokenHandler? ix = some x.bridgeHandler := by
  cases ix with
  | bridgeAssetTargetChain =>
      obtain ⟨rfl, -⟩ := Prod.mk.inj (Option.some.inj token)
      rfl
  | _ => simp [tokenPayment?] at token

omit [DecidableEq Pubkey] in
theorem data_ne_system_of_handler (handler : IsHandler s a) : s.data a ≠ .system := by
  obtain ⟨h, stored⟩ := handler
  rw [programData_eq_some.mp stored]
  simp

theorem vaultBalance_of_vault {w : TokenAccount Pubkey}
    (hdata : s.data (rt.associatedTokenAddress bridgeHandler mint tokenProgram) =
      .tokenAccount tokenProgram w)
    (hmint : w.mint = mint) (howner : w.owner = bridgeHandler) :
    vaultBalance rt bridgeHandler mint tokenProgram s =
      amounts s (rt.associatedTokenAddress bridgeHandler mint tokenProgram) := by
  simp only [vaultBalance, amounts, hdata, hmint, howner, and_self, if_true]
  rfl

theorem vault_of_balance (h : vaultBalance rt bridgeHandler mint tokenProgram s ≠ 0) :
    ∃ w, s.data (rt.associatedTokenAddress bridgeHandler mint tokenProgram) =
      .tokenAccount tokenProgram w ∧ w.mint = mint ∧ w.owner = bridgeHandler := by
  unfold vaultBalance at h
  split at h
  next program w hdata =>
      split_ifs at h with hvault
      · obtain ⟨rfl, hmint, howner⟩ := hvault
        exact ⟨w, hdata, hmint, howner⟩
      · exact absurd rfl h
  next => exact absurd rfl h

theorem vaultBalance_le (rt : Runtime Pubkey Hash) (s : State Pubkey Hash)
    (bridgeHandler mint tokenProgram : Pubkey) :
    vaultBalance rt bridgeHandler mint tokenProgram s ≤
      amounts s (rt.associatedTokenAddress bridgeHandler mint tokenProgram) := by
  by_cases hzero : vaultBalance rt bridgeHandler mint tokenProgram s = 0
  · omega
  · obtain ⟨w, hdata, hmint, howner⟩ := vault_of_balance hzero
    exact (vaultBalance_of_vault hdata hmint howner).le

theorem supplyUnder_of_mint {m : Mint Pubkey} (hdata : s.data mint = .mint tokenProgram m) :
    supplyUnder mint tokenProgram s = amounts s mint := by
  simp only [supplyUnder, amounts, hdata, if_true]
  rfl

theorem mint_of_supply (h : supplyUnder mint tokenProgram s ≠ 0) :
    ∃ m, s.data mint = .mint tokenProgram m := by
  unfold supplyUnder at h
  split at h
  next program m hdata =>
      split_ifs at h with hprogram
      · subst hprogram
        exact ⟨m, hdata⟩
      · exact absurd rfl h
  next => exact absurd rfl h

variable [DecidableEq Hash]

theorem settled_of_run (collisionFree : CollisionFree rt) (reachable : LedgerReachable rt s)
    {trace : List (LedgerTransition Pubkey Hash)} (run : LedgerRun rt s trace s')
    {h : BridgeHandler Pubkey} (handler : HandlerAt rt s'.programData bridgeHandler h)
    (token : TokenInfoAt rt s'.programData bridgeHandler mint a t) :
    Settled rt s h.chain t bridgeHandler mint where
  chain h' stored := (handlerAt_of_later run stored handler).2.chain.symm
  token b bump t' address stored := by
    have registered := registeredToken_of_tokenInfoAt collisionFree (reachable.run run) token
    obtain ⟨rfl, -⟩ := Prod.mk.inj (registered.address.symm.trans address)
    have hlater := (tokenInfo_kept_run reachable run stored).symm.trans token.stored
    exact ProgramData.tokenInfo.inj (Option.some.inj hlater)

theorem Settled.of_source (settled : Settled rt s chain t bridgeHandler mint)
    (executed : execute rt s call = .ok (s', returned)) {x : BridgeAssetSourceChain Pubkey}
    {amount : UInt64} (token : tokenRequest? call.ix = some (x, amount))
    (hhandler : x.bridgeHandler = bridgeHandler) (hmint : x.mint = mint) {c : SourceCall Pubkey}
    {h : BridgeHandler Pubkey} {t' : TokenInfo Pubkey} (kind : source? call.ix = some c)
    (effect : SourceEffect rt s s' call c h t') :
    h.chain = chain ∧ (isUnregistered t' = true ∨ t' = t) := by
  obtain ⟨⟨bump, address⟩, -⟩ := tokenInfo_of_source (execute_refines executed).1 token
  subst hhandler hmint
  constructor
  · refine settled.chain h ?_
    rw [(tokenRequest_accounts kind token).2]
    exact effect.handler.stored
  · rcases (effect.tokens x amount token).found with hstored | ⟨-, hzero⟩
    · exact .inr (settled.token _ _ _ address hstored)
    · obtain rfl := ProgramData.tokenInfo.inj hzero
      exact .inl rfl

theorem Settled.of_pays (settled : Settled rt s chain t bridgeHandler mint)
    (collisionFree : CollisionFree rt) (reachable : LedgerReachable rt s)
    {p : PayoutCall Pubkey Hash} {q : PayoutQuote Pubkey} (pays : PaysWith rt s call p q s')
    {x : BridgeAssetTargetChain Pubkey} {amount : UInt64}
    (token : tokenPayment? call.ix = some (x, amount))
    (hhandler : x.bridgeHandler = bridgeHandler) (hmint : x.mint = mint) :
    q.handler.chain = chain ∧ q.token = t := by
  subst hhandler hmint
  constructor
  · refine settled.chain _ ?_
    rw [tokenPayment_handler pays.1 token]
    exact pays.payout.handler.stored
  · have haccepted := (pays.terms token).token
    exact settled.token _ _ _
      (registeredToken_of_tokenInfoAt collisionFree reachable haccepted).address haccepted.stored

theorem bridgedTokens_of_absent (step : LedgerStep rt s event s')
    (absent : ¬ ∃ m, s.data mint = .mint tokenProgram m) :
    bridgedTokens bridgeHandler mint tokenProgram event = 0 := by
  cases step with
  | other => rfl
  | @call _ call returned executed =>
      cases htoken : tokenRequest? call.ix with
      | none => exact bridgedTokens_of_none htoken
      | some token =>
          obtain ⟨x, amount⟩ := token
          rw [bridgedTokens_of_token htoken, if_neg]
          rintro ⟨-, rfl, rfl⟩
          exact absent (mint_of_source executed htoken)

theorem mint_eq_of_wrapped (collisionFree : CollisionFree rt) {s₀ : State Pubkey Hash}
    {trace : List (LedgerTransition Pubkey Hash)} (genesis : Genesis s₀)
    (run : LedgerRun rt s₀ trace s) {h : BridgeHandler Pubkey}
    (handler : HandlerAt rt s.programData bridgeHandler h)
    (token : TokenInfoAt rt s.programData bridgeHandler mint a t)
    (wrapped : isNativeOn h.chain t = false) :
    mint = mintAddress rt bridgeHandler (counterpartMint h.chain t) := by
  cases origin_of_tokenInfoAt collisionFree genesis run handler token with
  | added native mintAddress => exact mintAddress.symm
  | supplied native => simp [wrapped] at native

/-- Only source calls and payouts of a handler that a mint is derived from mint or
burn its tokens. -/
theorem issuer_of_changed (collisionFree : CollisionFree rt) {s₀ : State Pubkey Hash}
    {trace : List (LedgerTransition Pubkey Hash)} (genesis : Genesis s₀)
    (run : LedgerRun rt s₀ trace s) (executed : execute rt s call = .ok (s', returned))
    {m : Mint Pubkey} (hdata : s.data mint = .mint tokenProgram m) :
    s'.data mint = .mint tokenProgram m ∨
      ∃ b sourceMint, tokenHandler? call.ix = some b ∧ mint = mintAddress rt b sourceMint := by
  have reachable : LedgerReachable rt s := ⟨s₀, trace, genesis, run⟩
  have effect := callEffect executed
  have hsame (hsupply : amounts s' mint = amounts s mint) :
      s'.data mint = .mint tokenProgram m := by
    have hkept := mint_kept effect hdata
    rw [hsupply, amounts, hdata] at hkept
    exact hkept
  cases effect with
  | quiet noSource noPayout keeps =>
      refine .inl (hsame ?_)
      rw [amounts, amounts,
        keeps.data mint (by rw [hdata]; simp) (programData_eq_none_of_mint hdata)]
  | @requested c h t' kind effect stored =>
      rcases supply_of_source effect hdata with
        hsupply | ⟨x, amount, token, rfl, hknown, hwrapped, -⟩
      · exact .inl (hsame hsupply)
      · obtain ⟨⟨bump, address⟩, -⟩ := tokenInfo_of_source (execute_refines executed).1 token
        have hstored : s.programData x.tokenInfo = some (.tokenInfo t') := by
          rcases (effect.tokens x amount token).found with hstored | ⟨-, hzero⟩
          · exact hstored
          · obtain rfl := ProgramData.tokenInfo.inj hzero
            cases hknown
        have handler := effect.handler
        rw [← (tokenRequest_accounts kind token).2] at handler
        exact .inr ⟨_, _, tokenHandler?_of_request token,
          mint_eq_of_wrapped collisionFree genesis run handler
            (tokenInfoAt_of_found collisionFree reachable address hstored) hwrapped⟩
  | @paid p q pays =>
      rcases supply_of_pays pays hdata with hsupply | ⟨x, amount, token, rfl, -, hwrapped, -⟩
      · exact .inl (hsame hsupply)
      · have handler := pays.payout.handler
        rw [← tokenPayment_handler pays.1 token] at handler
        exact .inr ⟨_, _, tokenHandler?_of_payment token,
          mint_eq_of_wrapped collisionFree genesis run handler (pays.terms token).token hwrapped⟩

omit [DecidableEq Pubkey] [DecidableEq Hash] in
theorem wrapped_of_added (settled : Settled rt s chain t bridgeHandler mint) {sourceMint : Pubkey}
    (mint_eq : mint = mintAddress rt bridgeHandler sourceMint)
    (added : AddedToken rt s bridgeHandler sourceMint) : isNativeOn chain t = false := by
  subst mint_eq
  obtain ⟨h, a, bump, handler, address, stored⟩ := added
  rw [← settled.token _ _ _ address stored, ← settled.chain h handler.stored]
  cases hchain : h.chain <;> rfl

theorem mint_unissued (settled : Settled rt s chain t bridgeHandler mint)
    (minted : MintsAdded rt s) (native : isNativeOn chain t = true)
    (collisionFree : CollisionFree rt) {s₀ : State Pubkey Hash}
    {trace : List (LedgerTransition Pubkey Hash)} (genesis : Genesis s₀)
    (run : LedgerRun rt s₀ trace s) (executed : execute rt s call = .ok (s', returned))
    {m : Mint Pubkey} (hdata : s.data mint = .mint tokenProgram m) :
    s'.data mint = .mint tokenProgram m ∨
      ∃ b sourceMint, tokenHandler? call.ix = some b ∧ b ≠ bridgeHandler ∧
        mint = mintAddress rt b sourceMint ∧ AddedToken rt s b sourceMint := by
  rcases issuer_of_changed collisionFree genesis run executed hdata with
    hsame | ⟨b, sourceMint, hissuer, mint_eq⟩
  · exact .inl hsame
  · have added : AddedToken rt s b sourceMint := (minted.added _ _ _ _ (mint_eq ▸ hdata)).2
    refine .inr ⟨b, sourceMint, hissuer, ?_, mint_eq, added⟩
    rintro rfl
    simp [wrapped_of_added settled mint_eq added] at native

theorem balance_kept (executed : execute rt s call = .ok (s', returned)) {w : TokenAccount Pubkey}
    (hdata : s.data a = .tokenAccount tokenProgram w) (hmint : w.mint = mint)
    (howner : w.owner = bridgeHandler) (handler : IsHandler s bridgeHandler) :
    amounts s a ≤ amounts s' a +
      receivedTokens bridgeHandler mint tokenProgram (.call call returned) := by
  subst hmint howner
  by_cases hdebited : amounts s' a < amounts s a
  · obtain ⟨p, q, x, amount, pays, token, hhandler, hmint, hprogram, -⟩ :=
      payout_of_debited (callEffect executed) hdata (data_ne_system_of_handler handler) hdebited
    rw [receivedTokens_of_token token, if_pos ⟨hhandler, hmint, hprogram⟩]
    exact vault_ge_of_pays pays token
  · omega

theorem vault_undebited (settled : Settled rt s chain t bridgeHandler mint)
    (collisionFree : CollisionFree rt) (reachable : LedgerReachable rt s)
    (executed : execute rt s call = .ok (s', returned)) (wrapped : isNativeOn chain t = false)
    {w : TokenAccount Pubkey} (hdata : s.data a = .tokenAccount tokenProgram w)
    (hmint : w.mint = mint) (howner : w.owner = bridgeHandler)
    (handler : IsHandler s bridgeHandler) : amounts s a ≤ amounts s' a := by
  subst hmint howner
  by_contra hdebited
  obtain ⟨p, q, x, amount, pays, token, hhandler, hmint, -, native⟩ :=
    payout_of_debited (callEffect executed) hdata (data_ne_system_of_handler handler) (by omega)
  obtain ⟨hchain, htoken⟩ := settled.of_pays collisionFree reachable pays token hhandler hmint
  rw [hchain, htoken, wrapped] at native
  cases native

theorem vault_of_request (settled : Settled rt s chain t bridgeHandler mint)
    (exact : ∀ n, rt.transferFee mint n = 0)
    (executed : execute rt s call = .ok (s', returned)) (native : isNativeOn chain t = true)
    {x : BridgeAssetSourceChain Pubkey} {amount : UInt64}
    (token : tokenRequest? call.ix = some (x, amount)) (hhandler : x.bridgeHandler = bridgeHandler)
    (hmint : x.mint = mint) (hprogram : x.tokenProgram = tokenProgram) :
    vaultBalance rt bridgeHandler mint tokenProgram s + amount.toNat ≤
      vaultBalance rt bridgeHandler mint tokenProgram s' := by
  obtain ⟨c, h, t', kind, effect, taken⟩ := request_effect token executed
  obtain ⟨hchain, hfound⟩ := settled.of_source executed token hhandler hmint kind effect
  have hlocked := vault_of_source effect token (hfound.imp_right fun hsame => by
    rw [hsame, hchain, native])
  rw [hmint, exact, Nat.sub_zero] at hlocked
  subst hhandler hmint hprogram
  obtain ⟨w, hdata, hmint, howner⟩ := taken.vault
  rw [taken.vaultAddress] at hdata hlocked
  have hbefore := vaultBalance_le rt s x.bridgeHandler x.mint x.tokenProgram
  rw [vaultBalance_of_vault hdata hmint howner]
  omega

theorem locked_step (settled : Settled rt s chain t bridgeHandler mint)
    (exact : ∀ n, rt.transferFee mint n = 0) (step : LedgerStep rt s event s')
    (respects : event = .other → RespectsDerived rt s s') (derived : IsDerived rt bridgeHandler)
    (native : isNativeOn chain t = true) (handler : IsHandler s bridgeHandler) :
    vaultBalance rt bridgeHandler mint tokenProgram s +
        bridgedTokens bridgeHandler mint tokenProgram event ≤
      vaultBalance rt bridgeHandler mint tokenProgram s' +
        receivedTokens bridgeHandler mint tokenProgram event := by
  cases step with
  | other change =>
      by_cases hzero : vaultBalance rt bridgeHandler mint tokenProgram s = 0
      · simp only [hzero, bridgedTokens]
        omega
      · obtain ⟨w, hdata, hmint, howner⟩ := vault_of_balance hzero
        obtain ⟨w', hdata', hmint', howner', hle⟩ :=
          (respects rfl).taken _ _ w hdata (howner ▸ derived)
        rw [vaultBalance_of_vault hdata hmint howner,
          vaultBalance_of_vault hdata' (hmint'.trans hmint) (howner'.trans howner), amounts,
          amounts, hdata, hdata']
        exact Nat.add_le_add_right hle _
  | @call _ call returned executed =>
      have hkept : vaultBalance rt bridgeHandler mint tokenProgram s ≤
          vaultBalance rt bridgeHandler mint tokenProgram s' +
            receivedTokens bridgeHandler mint tokenProgram (.call call returned) := by
        by_cases hzero : vaultBalance rt bridgeHandler mint tokenProgram s = 0
        · omega
        · obtain ⟨w, hdata, hmint, howner⟩ := vault_of_balance hzero
          have hdata' := tokenAccount_kept (callEffect executed) hdata
          rw [vaultBalance_of_vault hdata hmint howner, vaultBalance_of_vault hdata' hmint howner]
          exact balance_kept executed hdata hmint howner handler
      cases htoken : tokenRequest? call.ix with
      | none => rwa [bridgedTokens_of_none htoken]
      | some token =>
          obtain ⟨x, amount⟩ := token
          rw [bridgedTokens_of_token htoken]
          split_ifs with hcounted
          · obtain ⟨hhandler, hmint, hprogram⟩ := hcounted
            have hlocked := vault_of_request settled exact executed native htoken hhandler hmint
              hprogram
            omega
          · exact hkept

variable {sourceMint : Pubkey}

theorem burned_of_request (reachable : LedgerReachable rt s) (minted : MintsAdded rt s)
    (settled : Settled rt s chain t bridgeHandler (mintAddress rt bridgeHandler sourceMint))
    (executed : execute rt s call = .ok (s', returned)) (wrapped : isNativeOn chain t = false)
    {x : BridgeAssetSourceChain Pubkey} {amount : UInt64}
    (token : tokenRequest? call.ix = some (x, amount)) (hhandler : x.bridgeHandler = bridgeHandler)
    (hmint : x.mint = mintAddress rt bridgeHandler sourceMint) :
    amounts s' x.mint + amount.toNat = amounts s x.mint := by
  obtain ⟨c, h, t', kind, effect, taken⟩ := request_effect token executed
  obtain ⟨hchain, hfound⟩ := settled.of_source executed token hhandler hmint kind effect
  obtain ⟨m, hdata⟩ := taken.mint
  rw [hmint] at hdata
  obtain ⟨-, _, a, bump, -, address, added⟩ := minted.added _ _ _ _ hdata
  obtain ⟨⟨bump', address'⟩, -⟩ := tokenInfo_of_source (execute_refines executed).1 token
  rw [hhandler, hmint, address] at address'
  obtain ⟨rfl, rfl⟩ := Prod.mk.inj address'
  have hregistered : isUnregistered t' = false := by
    simpa [isRegistered_of_stored reachable added] using isRegistered_of_found taken.found
  refine burned_of_source effect token hregistered ?_
  rcases hfound with hunknown | rfl
  · simp [hunknown] at hregistered
  · rwa [hchain]

theorem supply_of_call (reachable : LedgerReachable rt s) (minted : MintsAdded rt s)
    (settled : Settled rt s chain t bridgeHandler (mintAddress rt bridgeHandler sourceMint))
    (executed : execute rt s call = .ok (s', returned)) (wrapped : isNativeOn chain t = false)
    (mint_eq : mint = mintAddress rt bridgeHandler sourceMint) {m : Mint Pubkey}
    (hdata : s.data mint = .mint tokenProgram m) :
    amounts s' mint + bridgedTokens bridgeHandler mint tokenProgram (.call call returned) ≤
      amounts s mint + receivedTokens bridgeHandler mint tokenProgram (.call call returned) := by
  subst mint_eq
  have effect := callEffect executed
  cases hpayout : payout? call.ix with
  | none =>
      have hle := supply_kept effect hdata (by simp [hpayout])
      cases htoken : tokenRequest? call.ix with
      | none =>
          rw [bridgedTokens_of_none htoken]
          omega
      | some token =>
          obtain ⟨x, amount⟩ := token
          rw [bridgedTokens_of_token htoken]
          split_ifs with hcounted
          · obtain ⟨hhandler, hmint, -⟩ := hcounted
            have hburned := burned_of_request reachable minted settled executed wrapped htoken
              hhandler hmint
            rw [hmint] at hburned
            omega
          · omega
  | some p =>
      obtain ⟨q, pays⟩ := paysWith_of_executed hpayout executed
      rw [bridgedTokens_of_none (tokenRequest?_of_noSource (source?_of_payout hpayout))]
      rcases supply_of_pays pays hdata with
        hsame | ⟨x, amount, token, hmint, hauthority, -, hminted⟩
      · omega
      · obtain ⟨-, m', hm', -⟩ := tokens_of_pays pays token
        rw [← hmint, hdata] at hm'
        have hhandler : p.bridgeHandler = bridgeHandler :=
          Option.some.inj (hauthority.symm.trans (minted.added _ _ _ _ hdata).1)
        rw [receivedTokens_of_token token,
          if_pos ⟨(tokenPayment_handler hpayout token).trans hhandler, hmint.symm,
            (AccountData.mint.inj hm').1.symm⟩]
        omega

theorem issued_step (collisionFree : CollisionFree rt) (reachable : LedgerReachable rt s)
    (minted : MintsAdded rt s)
    (settled : Settled rt s chain t bridgeHandler (mintAddress rt bridgeHandler sourceMint))
    (step : LedgerStep rt s event s') (respects : event = .other → RespectsDerived rt s s')
    (derived : IsDerived rt bridgeHandler) (wrapped : isNativeOn chain t = false)
    (mint_eq : mint = mintAddress rt bridgeHandler sourceMint) :
    supplyUnder mint tokenProgram s' + bridgedTokens bridgeHandler mint tokenProgram event ≤
      supplyUnder mint tokenProgram s + receivedTokens bridgeHandler mint tokenProgram event := by
  by_cases hmint : ∃ m, s.data mint = .mint tokenProgram m
  · obtain ⟨m, hdata⟩ := hmint
    have hsupply : supplyUnder mint tokenProgram s = amounts s mint := supplyUnder_of_mint hdata
    cases step with
    | other change =>
        obtain ⟨m', hdata', -, hle⟩ := (respects rfl).issued mint tokenProgram m bridgeHandler hdata
          (minted.added _ _ _ _ (mint_eq ▸ hdata)).1 derived
        rw [supplyUnder_of_mint hdata, supplyUnder_of_mint hdata', amounts, amounts, hdata, hdata']
        exact Nat.add_le_add_right hle _
    | call executed =>
        rw [supplyUnder_of_mint hdata,
          supplyUnder_of_mint (mint_kept (callEffect executed) hdata)]
        exact supply_of_call reachable minted settled executed wrapped mint_eq hdata
  · rw [bridgedTokens_of_absent step hmint]
    suffices hzero : supplyUnder mint tokenProgram s' = 0 by omega
    by_contra hsupply
    obtain ⟨m', hdata'⟩ := mint_of_supply hsupply
    cases step with
    | other change =>
        exact hmint ((respects rfl).created _ _ _ (mint_eq ▸ isDerived_mintAddress ..) hdata')
    | call executed =>
        have habsent : ∀ program m, s.data mint ≠ .mint program m := by
          intro program m hdata
          obtain ⟨rfl, -⟩ :=
            AccountData.mint.inj ((mint_kept (callEffect executed) hdata).symm.trans hdata')
          exact hmint ⟨m, hdata⟩
        subst mint_eq
        rw [supplyUnder_of_mint hdata', amounts, hdata'] at hsupply
        exact hsupply (addToken_of_created collisionFree reachable executed habsent hdata').1

theorem bridgedTokens_of_no_handler (step : LedgerStep rt s event s')
    (absent : ¬ IsHandler s bridgeHandler) :
    bridgedTokens bridgeHandler mint tokenProgram event = 0 := by
  cases step with
  | other => rfl
  | @call _ call returned executed =>
      cases callEffect executed with
      | quiet noSource noPayout keeps =>
          exact bridgedTokens_of_none (tokenRequest?_of_noSource noSource)
      | paid pays =>
          exact bridgedTokens_of_none (tokenRequest?_of_noSource (source?_of_payout pays.1))
      | @requested c h t' kind effect stored =>
          cases htoken : tokenRequest? call.ix with
          | none => exact bridgedTokens_of_none htoken
          | some token =>
              obtain ⟨x, amount⟩ := token
              rw [bridgedTokens_of_token htoken, if_neg]
              rintro ⟨rfl, -, -⟩
              rw [(tokenRequest_accounts kind htoken).2] at absent
              exact absent ⟨h, effect.handler.stored⟩

omit [DecidableEq Hash] in
/-- The tokens in the vault of a handler that exists. -/
def heldTokens (rt : Runtime Pubkey Hash) (bridgeHandler mint tokenProgram : Pubkey)
    (s : State Pubkey Hash) : ℕ :=
  match s.programData bridgeHandler with
  | some (.bridgeHandler _) => vaultBalance rt bridgeHandler mint tokenProgram s
  | _ => 0

omit [DecidableEq Hash] in
theorem heldTokens_of_handler (handler : IsHandler s bridgeHandler) :
    heldTokens rt bridgeHandler mint tokenProgram s =
      vaultBalance rt bridgeHandler mint tokenProgram s := by
  obtain ⟨h, stored⟩ := handler
  rw [heldTokens, stored]

omit [DecidableEq Hash] in
theorem heldTokens_of_absent (absent : ¬ IsHandler s bridgeHandler) :
    heldTokens rt bridgeHandler mint tokenProgram s = 0 := by
  unfold heldTokens
  split
  next h stored => exact absurd ⟨h, stored⟩ absent
  next => rfl

/-- In every run the vault of a handler covers what was locked of a mint of its chain
and not released, and of a mint of the other chain no more is in circulation than was
minted and not burned. -/
theorem token_ledger_conserved (collisionFree : CollisionFree rt)
    (exact : ∀ n, rt.transferFee mint n = 0) {s₀ : State Pubkey Hash}
    {trace : List (LedgerTransition Pubkey Hash)} (genesis : Genesis s₀)
    (unminted : NoDerivedMints rt s₀) (run : LedgerRun rt s₀ trace s)
    (respectful : Respectful rt trace) {h : BridgeHandler Pubkey}
    (handler : HandlerAt rt s.programData bridgeHandler h)
    (token : TokenInfoAt rt s.programData bridgeHandler mint a t) (tokenProgram : Pubkey) :
    TokensBacked rt trace s h.chain t bridgeHandler mint tokenProgram := by
  have hpre : ∀ u ∈ trace, LedgerReachable rt u.pre ∧ MintsAdded rt u.pre ∧
      Settled rt u.pre h.chain t bridgeHandler mint := by
    intro u hu
    obtain ⟨before, after, rfl⟩ := List.append_of_mem hu
    obtain ⟨hbefore, next, hafter⟩ := run.split_at
    have hreachable : LedgerReachable rt u.pre := ⟨s₀, before, genesis, hbefore⟩
    exact ⟨hreachable, mintsAdded_of_run collisionFree genesis unminted hbefore
      fun w hw => respectful w (List.mem_append_left _ hw),
      settled_of_run collisionFree hreachable (.cons next hafter) handler token⟩
  have hderived := isDerived_of_handler handler
  constructor
  · intro native u hu call returned m hlabel hdata
    obtain ⟨⟨s₁, before, hgenesis, hbefore⟩, minted, settled⟩ := hpre u hu
    have next := run.step_of_mem hu
    rw [hlabel] at next
    cases next with
    | call executed =>
        exact mint_unissued settled minted native collisionFree hgenesis hbefore executed hdata
  · intro native
    have hbalance : heldTokens rt bridgeHandler mint tokenProgram s₀ +
          (trace.map fun u => bridgedTokens bridgeHandler mint tokenProgram u.label).sum ≤
        heldTokens rt bridgeHandler mint tokenProgram s +
          (trace.map fun u => receivedTokens bridgeHandler mint tokenProgram u.label).sum :=
      run.sum_credit_le _ _ _ (by
        intro u hu next
        obtain ⟨-, -, settled⟩ := hpre u hu
        by_cases hexists : IsHandler u.pre bridgeHandler
        · obtain ⟨x, stored⟩ := id hexists
          obtain ⟨x', stored', -⟩ := identity_kept next stored
          rw [heldTokens_of_handler hexists, heldTokens_of_handler ⟨x', stored'⟩]
          exact locked_step settled exact next (respectful u hu) hderived native hexists
        · rw [heldTokens_of_absent hexists, bridgedTokens_of_no_handler next hexists]
          exact Nat.zero_le _)
    rw [heldTokens_of_handler ⟨h, handler.stored⟩] at hbalance
    omega
  · intro wrapped u hu call returned a w hlabel hexists hdata hmint howner
    obtain ⟨hreachable, -, settled⟩ := hpre u hu
    have next := run.step_of_mem hu
    rw [hlabel] at next
    cases next with
    | call executed =>
        refine ⟨_, tokenAccount_kept (callEffect executed) hdata, ?_⟩
        have hle := vault_undebited settled collisionFree hreachable executed wrapped hdata hmint
          howner hexists
        rwa [amounts, hdata] at hle
  · intro wrapped
    have hmint := mint_eq_of_wrapped collisionFree genesis run handler token wrapped
    have hbalance : supplyUnder mint tokenProgram s +
          (trace.map fun u => bridgedTokens bridgeHandler mint tokenProgram u.label).sum ≤
        supplyUnder mint tokenProgram s₀ +
          (trace.map fun u => receivedTokens bridgeHandler mint tokenProgram u.label).sum :=
      run.le_sum_credit _ _ _ (by
        intro u hu next
        obtain ⟨hreachable, minted, settled⟩ := hpre u hu
        exact issued_step collisionFree hreachable minted (hmint ▸ settled) next (respectful u hu)
          hderived wrapped hmint)
    have hfirst : supplyUnder mint tokenProgram s₀ = 0 := by
      by_contra hsupply
      obtain ⟨m, hdata⟩ := mint_of_supply hsupply
      exact unminted _ _ _ (hmint ▸ isDerived_mintAddress ..) hdata
    omega

theorem token_ledger_conserved_sample :
    let rt := symbolicRuntime true
    let trace := callTrace rt sampleLedger sharedToken
    let s := stateAfter rt sampleLedger sharedToken
    ∃ chain t chain' t', isNativeOn chain t = true ∧ isNativeOn chain' t' = false ∧
      TokensBacked rt trace s chain t (handlerKey 8) sampleMint (.atom 1004) ∧
      TokensBacked rt trace s chain' t' (handlerKey 7) sampleMint (.atom 1004) := by
  intro rt trace s
  obtain ⟨h, handler, hchain⟩ := exists_handlerAt true s (handlerKey 8)
    (fun h => h.chain = .solayer) (by decide +kernel)
  obtain ⟨h', handler', hchain'⟩ := exists_handlerAt true s (handlerKey 7)
    (fun h => h.chain = .solayer) (by decide +kernel)
  obtain ⟨t, token, ht⟩ := exists_tokenInfoAt true s (handlerKey 8) sampleMint
    (fun t => isNativeOn .solayer t) (by decide +kernel)
  obtain ⟨t', token', ht'⟩ := exists_tokenInfoAt true s (handlerKey 7) sampleMint
    (fun t => !isNativeOn .solayer t) (by decide +kernel)
  have run := run_callTrace sharedToken_isOk
  have respectful := respectful_callTrace sharedToken_isOk
  refine ⟨h.chain, t, h'.chain, t', ?_, ?_, ?_, ?_⟩
  · rw [of_decide_eq_true hchain, ht]
  · rw [of_decide_eq_true hchain']
    simpa using ht'
  · exact token_ledger_conserved (symbolicRuntime_collisionFree true) (fun _ => rfl)
      (genesis_ledgerOf _) (noDerivedMints_ledgerOf true _) run respectful handler token _
  · exact token_ledger_conserved (symbolicRuntime_collisionFree true) (fun _ => rfl)
      (genesis_ledgerOf _) (noDerivedMints_ledgerOf true _) run respectful handler' token' _

/-- A mint that is native to the chain of one handler is burned by another, which
created it. -/
theorem native_mint_issued_elsewhere :
    ¬ ∀ (s₀ s : State Key Digest) trace, Genesis s₀ → NoDerivedMints (symbolicRuntime true) s₀ →
      LedgerRun (symbolicRuntime true) s₀ trace s → Respectful (symbolicRuntime true) trace →
      ∀ bridgeHandler mint a h t, HandlerAt (symbolicRuntime true) s.programData bridgeHandler h →
        TokenInfoAt (symbolicRuntime true) s.programData bridgeHandler mint a t →
        isNativeOn h.chain t = true →
        ∀ u ∈ trace, ∀ call returned tokenProgram m, u.label = .call call returned →
          u.pre.data mint = .mint tokenProgram m → u.post.data mint = .mint tokenProgram m := by
  intro unissued
  let rt := symbolicRuntime true
  let first := sharedToken.dropLast
  let s := stateAfter rt sampleLedger first
  let s' := stateAfter rt s [sampleSourceCall 0]
  have hfirst : (executeAll rt sampleLedger first).isOk = true := by decide +kernel
  obtain ⟨returned, next⟩ : ∃ returned, LedgerStep rt s (.call (sampleSourceCall 0) returned) s' :=
    exists_step_of_executeAll rt s (sampleSourceCall 0) (by decide +kernel)
  obtain ⟨h, handler, hchain⟩ := exists_handlerAt true s' (handlerKey 8)
    (fun h => h.chain = .solayer) (by decide +kernel)
  obtain ⟨t, token, ht⟩ := exists_tokenInfoAt true s' (handlerKey 8) sampleMint
    (fun t => isNativeOn .solayer t) (by decide +kernel)
  have hbefore : supplyUnder sampleMint (.atom 1004) s = 1000 := by decide +kernel
  have hafter : supplyUnder sampleMint (.atom 1004) s' = 900 := by decide +kernel
  have hrun : LedgerRun rt sampleLedger (callTrace rt sampleLedger first) s := run_callTrace hfirst
  have respectful := respectful_callTrace hfirst
  generalize callTrace rt sampleLedger first = trace at hrun respectful
  clear_value s s'
  have run := hrun.snoc next
  have respectful' : Respectful rt (trace ++ [⟨s, .call (sampleSourceCall 0) returned, s'⟩]) := by
    intro u hu hlabel
    rcases List.mem_append.mp hu with hu | hu
    · exact respectful u hu hlabel
    · obtain rfl := List.mem_singleton.mp hu
      cases hlabel
  obtain ⟨m, hdata⟩ := mint_of_supply (s := s) (by rw [hbefore]; decide)
  have hsame := unissued sampleLedger s' _ (genesis_ledgerOf _) (noDerivedMints_ledgerOf true _)
    run respectful' _ _ _ h t handler token (by rw [of_decide_eq_true hchain, ht]) _
    (List.mem_append_right _ (List.mem_singleton_self _)) _ _ _ m rfl hdata
  rw [supplyUnder_of_mint hdata, amounts, hdata] at hbefore
  rw [supplyUnder_of_mint hsame, amounts, hsame, hbefore] at hafter
  cases hafter

end BridgeProgram.TokenLedger
