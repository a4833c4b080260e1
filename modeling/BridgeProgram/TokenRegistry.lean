import BridgeProgram.LedgerInvariants

namespace BridgeProgram.TokenRegistry

open BridgeProgram.BridgeProgramEntry
open BridgeProgram.LedgerInvariants
open BridgeProgram.ProgramStates
open BridgeProgram.RegistryCells
open BridgeProgram.RegistryModel
open BridgeProgram.RegistryRefinement
open BridgeProgram.SolanaRuntime
open BridgeProgram.SourceInstructions
open BridgeProgram.TokenInstructions
open BridgeProgram.TransitionRuns

variable {Pubkey Hash : Type}

/-- The mint that a token info records for the handler's own chain. -/
def ownMint (chain : Chain) (t : TokenInfo Pubkey) : Pubkey :=
  match chain with
  | .solana => t.solanaMint
  | .solayer => t.solayerMint

/-- The mint that a token info records for the other chain. -/
def counterpartMint (chain : Chain) (t : TokenInfo Pubkey) : Pubkey :=
  match chain with
  | .solana => t.solayerMint
  | .solayer => t.solanaMint

/-- A token info as the program records it for a mint of a handler. -/
structure RegisteredToken (rt : Runtime Pubkey Hash) (r : Registry Pubkey Hash)
    (bridgeHandler mint a : Pubkey) (t : TokenInfo Pubkey) : Prop where
  address : rt.findProgramAddress (.tokenInfo bridgeHandler mint) = (a, t.bump)
  recorded : ∃ h, HandlerAt rt r bridgeHandler h ∧ ownMint h.chain t = mint
  native : t.isSolayerNativeToken = !t.isSolanaNativeToken
  unpaused : t.pause = false

/-- Every stored token info was recorded for some mint of some handler. -/
def TokensRegistered (rt : Runtime Pubkey Hash) (r : Registry Pubkey Hash) : Prop :=
  ∀ a t, r a = some (.tokenInfo t) →
    ∃ bridgeHandler mint, RegisteredToken rt r bridgeHandler mint a t

theorem registeredToken_of_recorded {rt : Runtime Pubkey Hash} {r : Registry Pubkey Hash}
    {bridgeHandler mint counterpart a : Pubkey} {h : BridgeHandler Pubkey} {bump : UInt8}
    {t : TokenInfo Pubkey}
    (address : rt.findProgramAddress (.tokenInfo bridgeHandler mint) = (a, bump))
    (recorded : t = addedTokenInfo h.chain bump mint counterpart ∨
      t = registeredTokenInfo h.chain bump mint counterpart)
    (handler : HandlerAt rt r bridgeHandler h) :
    RegisteredToken rt r bridgeHandler mint a t := by
  rcases recorded with rfl | rfl
  · cases hchain : h.chain <;> exact ⟨address, ⟨h, handler, by rw [hchain]; rfl⟩, rfl, rfl⟩
  · cases hchain : h.chain <;> exact ⟨address, ⟨h, handler, by rw [hchain]; rfl⟩, rfl, rfl⟩

variable [DecidableEq Pubkey] [DecidableEq Hash] {rt : Runtime Pubkey Hash}
  {s s' : State Pubkey Hash} {event : Event Pubkey Hash} {a : Pubkey} {t : TokenInfo Pubkey}

theorem registeredToken_kept (step : LedgerStep rt s event s') {bridgeHandler mint : Pubkey}
    (registered : RegisteredToken rt s.programData bridgeHandler mint a t) :
    RegisteredToken rt s'.programData bridgeHandler mint a t := by
  obtain ⟨h, handler, hown⟩ := registered.recorded
  obtain ⟨h', handler', hidentity⟩ := handlerAt_kept step handler
  exact { registered with recorded := ⟨h', handler', by rw [hidentity.chain, hown]⟩ }

theorem tokensRegistered_step (step : LedgerStep rt s event s')
    (registered : TokensRegistered rt s.programData) :
    TokensRegistered rt s'.programData := by
  intro a t stored
  rcases ledger_cell step a with hsame | ⟨call, returned, -, hwrite⟩
  · obtain ⟨bridgeHandler, mint, htoken⟩ := registered a t (hsame.symm.trans stored)
    exact ⟨bridgeHandler, mint, registeredToken_kept step htoken⟩
  · rw [stored] at hwrite
    generalize s.programData a = old at hwrite
    cases hwrite with
    | tokenRegistered handler address _ recorded =>
        obtain ⟨h', handler', hidentity⟩ := handlerAt_kept step handler
        rw [← hidentity.chain] at recorded
        exact ⟨_, _, registeredToken_of_recorded address recorded handler'⟩

theorem tokensRegistered_of_reachable (reachable : LedgerReachable rt s) :
    TokensRegistered rt s.programData :=
  reachable.invariant (fun s => TokensRegistered rt s.programData)
    (fun _ genesis a t stored => by simp [genesis a] at stored)
    fun _ _ _ => tokensRegistered_step

theorem registeredToken_of_tokenInfoAt (collisionFree : CollisionFree rt)
    (reachable : LedgerReachable rt s) {bridgeHandler mint : Pubkey}
    (token : TokenInfoAt rt s.programData bridgeHandler mint a t) :
    RegisteredToken rt s.programData bridgeHandler mint a t := by
  obtain ⟨bridgeHandler', mint', registered⟩ :=
    tokensRegistered_of_reachable reachable a t token.stored
  have hseeds := seeds_eq_of_canonical collisionFree registered.address token.address
  obtain ⟨rfl, rfl⟩ := Seeds.tokenInfo.inj hseeds
  exact registered

theorem tokenInfoAt_of_found (collisionFree : CollisionFree rt) (reachable : LedgerReachable rt s)
    {bridgeHandler mint : Pubkey} {bump : UInt8}
    (address : rt.findProgramAddress (.tokenInfo bridgeHandler mint) = (a, bump))
    (stored : s.programData a = some (.tokenInfo t)) :
    TokenInfoAt rt s.programData bridgeHandler mint a t := by
  obtain ⟨bridgeHandler', mint', registered⟩ := tokensRegistered_of_reachable reachable a t stored
  have hcreate := rt.create_of_find registered.address
  obtain ⟨rfl, rfl⟩ := Seeds.tokenInfo.inj (seeds_eq_of_canonical collisionFree address hcreate)
  exact ⟨stored, hcreate⟩

theorem tokenInfo_kept (reachable : LedgerReachable rt s) (step : LedgerStep rt s event s')
    (stored : s.programData a = some (.tokenInfo t)) :
    s'.programData a = some (.tokenInfo t) := by
  rcases ledger_cell step a with hsame | ⟨call, returned, -, hwrite⟩
  · rw [hsame, stored]
  · obtain ⟨_, _, registered⟩ := tokensRegistered_of_reachable reachable a t stored
    rw [stored] at hwrite
    generalize s'.programData a = new at hwrite
    cases hwrite with
    | tokenRegistered _ _ unregistered =>
        have hnative := registered.native
        simp_all
    | approvalsAdded _ _ _ _ found => simp at found

theorem tokenInfo_kept_run {trace : List (LedgerTransition Pubkey Hash)}
    (reachable : LedgerReachable rt s) (run : LedgerRun rt s trace s')
    (stored : s.programData a = some (.tokenInfo t)) :
    s'.programData a = some (.tokenInfo t) := by
  induction run with
  | nil => exact stored
  | snoc run next ih => exact tokenInfo_kept (reachable.run run) next ih

end BridgeProgram.TokenRegistry
