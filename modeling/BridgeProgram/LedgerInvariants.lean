import Mathlib.Data.Set.Finite.List
import BridgeProgram.RegistryCells
import BridgeProgram.RegistryRefinement
import BridgeProgram.SeedStrings

namespace BridgeProgram.LedgerInvariants

open BridgeProgram.BridgeProgramEntry
open BridgeProgram.CheckedResult
open BridgeProgram.HandlerInstructions
open BridgeProgram.ProgramStates
open BridgeProgram.RegistryCells
open BridgeProgram.RegistryModel
open BridgeProgram.RegistryRefinement
open BridgeProgram.SeedStrings
open BridgeProgram.SolanaRuntime
open BridgeProgram.TokenInstructions
open BridgeProgram.TransitionRuns

variable {Pubkey Hash : Type} [DecidableEq Pubkey]
  {rt : Runtime Pubkey Hash} {s s' : State Pubkey Hash} {event : Event Pubkey Hash}
  {a : Pubkey}

/-- What no instruction changes in a handler. -/
structure SameIdentity (h h' : BridgeHandler Pubkey) : Prop where
  bump : h'.bump = h.bump
  initNonce : h'.initNonce = h.initNonce
  chain : h'.chain = h.chain

omit [DecidableEq Pubkey] in
theorem SameIdentity.refl (h : BridgeHandler Pubkey) : SameIdentity h h :=
  ⟨rfl, rfl, rfl⟩

omit [DecidableEq Pubkey] in
theorem SameIdentity.trans {h h' h'' : BridgeHandler Pubkey} (h₁ : SameIdentity h h')
    (h₂ : SameIdentity h' h'') : SameIdentity h h'' :=
  ⟨h₂.bump.trans h₁.bump, h₂.initNonce.trans h₁.initNonce, h₂.chain.trans h₁.chain⟩

theorem managerUpdate_frame {ix : Instruction Pubkey Hash} {manager : Pubkey}
    {f : BridgeHandler Pubkey → Except ProgramError (BridgeHandler Pubkey)}
    {h h' : BridgeHandler Pubkey} (kind : managerUpdate? ix = some (manager, a, f))
    (updated : f h = .ok h') :
    SameIdentity h h' ∧ h'.nonce = h.nonce ∧ h'.guardianThreshold = h.guardianThreshold := by
  cases ix with
  | updateFeeVault x =>
      obtain ⟨-, -, rfl⟩ := by simpa [managerUpdate?] using kind
      simp only [updateFeeVault, bind_eq_ok, pure_eq_ok] at updated
      obtain ⟨-, -, rfl⟩ := updated
      exact ⟨⟨rfl, rfl, rfl⟩, rfl, rfl⟩
  | pauseBridge | unpauseBridge | updateFeeInfo | updateInstantBridgeCap | updateOperator
  | updateManager =>
      obtain ⟨-, -, rfl⟩ := by simpa [managerUpdate?] using kind
      obtain rfl := pure_eq_ok.mp updated
      exact ⟨⟨rfl, rfl, rfl⟩, rfl, rfl⟩
  | _ => simp [managerUpdate?] at kind

theorem handlerChange_sameIdentity {call : Call Pubkey Hash} {returned : Option UInt64}
    {r : Registry Pubkey Hash} {h h' : BridgeHandler Pubkey}
    (change : HandlerChange rt r call returned a h h') : SameIdentity h h' := by
  cases change with
  | managed kind signed updated => exact (managerUpdate_frame kind updated).1
  | numbered => exact ⟨rfl, rfl, rfl⟩
  | charged kind handler same =>
      obtain ⟨remained, epoch, rfl⟩ := same
      exact ⟨rfl, rfl, rfl⟩
  | threshold => exact ⟨rfl, rfl, rfl⟩

variable [DecidableEq Hash]

/-- A ledger step leaves an account of the program alone, or is a call that
writes it. -/
theorem ledger_cell (step : LedgerStep rt s event s') (a : Pubkey) :
    s'.programData a = s.programData a ∨
      ∃ call returned, event = .call call returned ∧
        CellWrite rt s.clock s.programData call returned a (s.programData a)
          (s'.programData a) := by
  rcases ledgerStep_registry step with hsame | ⟨call, returned, rfl, hstep⟩
  · exact .inl (congrFun hsame a)
  · rcases cell hstep a with hsame | hwrite
    · exact .inl hsame
    · exact .inr ⟨call, returned, rfl, hwrite⟩

theorem proof_kept (step : LedgerStep rt s event s') {d : ProgramData Pubkey Hash}
    (proof : storedRole d = .bridgeProofSource ∨ storedRole d = .bridgeProofTarget)
    (stored : s.programData a = some d) : s'.programData a = some d := by
  rcases ledger_cell step a with hsame | ⟨call, returned, -, hwrite⟩
  · rw [hsame, stored]
  · rw [stored] at hwrite
    generalize s'.programData a = new at hwrite
    cases hwrite with
    | handlerChanged | guardiansChanged | approvalsClosed => simp [storedRole] at proof
    | tokenRegistered _ _ unregistered =>
        rcases unregistered with hnone | ⟨t, hsome, -⟩
        · cases hnone
        · obtain rfl := Option.some.inj hsome
          simp [storedRole] at proof
    | approvalsAdded _ _ _ _ found =>
        rcases found with hsome | ⟨hnone, -⟩
        · obtain rfl := Option.some.inj hsome
          simp [storedRole] at proof
        · cases hnone

theorem bridgeProof_kept (step : LedgerStep rt s event s') {p : BridgeProof Pubkey Hash}
    (stored : s.programData a = some (.bridgeProof p)) :
    s'.programData a = some (.bridgeProof p) :=
  proof_kept step (.inr rfl) stored

theorem sourceProof_kept (step : LedgerStep rt s event s')
    {p : BridgeProofSourceChain Pubkey Hash}
    (stored : s.programData a = some (.bridgeProofSourceChain p)) :
    s'.programData a = some (.bridgeProofSourceChain p) :=
  proof_kept step (.inl rfl) stored

theorem handler_kept (step : LedgerStep rt s event s') {h : BridgeHandler Pubkey}
    (stored : s.programData a = some (.bridgeHandler h)) :
    ∃ h', s'.programData a = some (.bridgeHandler h') ∧
      (h' = h ∨ ∃ call returned, event = .call call returned ∧
        HandlerChange rt s.programData call returned a h h') := by
  rcases ledger_cell step a with hsame | ⟨call, returned, rfl, hwrite⟩
  · exact ⟨h, hsame.trans stored, .inl rfl⟩
  · rw [stored] at hwrite
    generalize hnew : s'.programData a = new at hwrite
    cases hwrite with
    | handlerChanged handler change =>
        exact ⟨_, rfl, .inr ⟨call, returned, rfl, change⟩⟩
    | tokenRegistered _ _ unregistered => simp at unregistered
    | approvalsAdded _ _ _ _ found => simp at found

theorem identity_kept (step : LedgerStep rt s event s') {h : BridgeHandler Pubkey}
    (stored : s.programData a = some (.bridgeHandler h)) :
    ∃ h', s'.programData a = some (.bridgeHandler h') ∧ SameIdentity h h' := by
  obtain ⟨h', hstored, hchange⟩ := handler_kept step stored
  rcases hchange with rfl | ⟨call, returned, -, change⟩
  · exact ⟨h', hstored, .refl h'⟩
  · exact ⟨h', hstored, handlerChange_sameIdentity change⟩

theorem handlerAt_kept (step : LedgerStep rt s event s') {h : BridgeHandler Pubkey}
    (handler : HandlerAt rt s.programData a h) :
    ∃ h', HandlerAt rt s'.programData a h' ∧ SameIdentity h h' := by
  obtain ⟨h', hstored, hidentity⟩ := identity_kept step handler.stored
  refine ⟨h', ⟨hstored, ?_⟩, hidentity⟩
  rw [hidentity.initNonce, hidentity.bump]
  exact handler.address

theorem identity_kept_run {trace : List (LedgerTransition Pubkey Hash)}
    (run : LedgerRun rt s trace s') {h : BridgeHandler Pubkey}
    (stored : s.programData a = some (.bridgeHandler h)) :
    ∃ h', s'.programData a = some (.bridgeHandler h') ∧ SameIdentity h h' :=
  run.invariant (fun s => ∃ h', s.programData a = some (.bridgeHandler h') ∧ SameIdentity h h')
    (fun _ _ next ⟨_, hstored, hbefore⟩ =>
      let ⟨h'', hstored', hkept⟩ := identity_kept next hstored
      ⟨h'', hstored', hbefore.trans hkept⟩)
    ⟨h, stored, .refl h⟩

theorem handlerAt_of_later {trace : List (LedgerTransition Pubkey Hash)}
    (run : LedgerRun rt s trace s') {h h' : BridgeHandler Pubkey}
    (stored : s.programData a = some (.bridgeHandler h))
    (later : HandlerAt rt s'.programData a h') :
    HandlerAt rt s.programData a h ∧ SameIdentity h h' := by
  obtain ⟨x, hstored, hidentity⟩ := identity_kept_run run stored
  obtain rfl : x = h' := by simpa using hstored.symm.trans later.stored
  refine ⟨⟨stored, ?_⟩, hidentity⟩
  rw [← hidentity.initNonce, ← hidentity.bump]
  exact later.address

theorem guardians_kept (step : LedgerStep rt s event s') {g : GuardianInfo Pubkey}
    (stored : s.programData a = some (.guardianInfo g)) :
    ∃ g', s'.programData a = some (.guardianInfo g') ∧
      (g' = g ∨ ∃ call returned, event = .call call returned ∧
        GuardiansChange rt s.programData call a g g') := by
  rcases ledger_cell step a with hsame | ⟨call, returned, rfl, hwrite⟩
  · exact ⟨g, hsame.trans stored, .inl rfl⟩
  · rw [stored] at hwrite
    generalize hnew : s'.programData a = new at hwrite
    cases hwrite with
    | guardiansChanged change => exact ⟨_, rfl, .inr ⟨call, returned, rfl, change⟩⟩
    | tokenRegistered _ _ unregistered => simp at unregistered
    | approvalsAdded _ _ _ _ found => simp at found

/-- Every account of the program is at the canonical address of its seeds, under
its stored bump. -/
structure Canonical (rt : Runtime Pubkey Hash) (r : Registry Pubkey Hash) : Prop where
  guardians : ∀ a g, r a = some (.guardianInfo g) →
    ∃ bridgeHandler, rt.findProgramAddress (.guardianInfo bridgeHandler) = (a, g.bump)
  tokens : ∀ a t, r a = some (.tokenInfo t) →
    ∃ bridgeHandler mint, rt.findProgramAddress (.tokenInfo bridgeHandler mint) = (a, t.bump)
  approvals : ∀ a v, r a = some (.verifiedSignatures v) →
    ∃ bridgeHandler msgHash,
      rt.findProgramAddress (.verifiedSignatures bridgeHandler msgHash) = (a, v.bump)

theorem canonical_step (step : LedgerStep rt s event s')
    (canonical : Canonical rt s.programData) : Canonical rt s'.programData := by
  constructor
  · intro a g stored
    rcases ledger_cell step a with hsame | ⟨call, returned, -, hwrite⟩
    · exact canonical.guardians a g (hsame.symm.trans stored)
    · rw [stored] at hwrite
      generalize hold : s.programData a = old at hwrite
      cases hwrite with
      | guardiansCreated ix address fresh => exact ⟨_, address⟩
      | guardiansChanged change =>
          obtain ⟨bridgeHandler, hfind⟩ := canonical.guardians a _ hold
          refine ⟨bridgeHandler, ?_⟩
          cases change <;> exact hfind
  · intro a t stored
    rcases ledger_cell step a with hsame | ⟨call, returned, -, hwrite⟩
    · exact canonical.tokens a t (hsame.symm.trans stored)
    · rw [stored] at hwrite
      generalize hold : s.programData a = old at hwrite
      cases hwrite with
      | @tokenRegistered bridgeHandler mint counterpart h _ bump _ handler address unregistered
          written =>
          refine ⟨bridgeHandler, mint, ?_⟩
          rw [address]
          rcases written with rfl | rfl <;> cases h.chain <;> rfl
  · intro a v stored
    rcases ledger_cell step a with hsame | ⟨call, returned, -, hwrite⟩
    · exact canonical.approvals a v (hsame.symm.trans stored)
    · rw [stored] at hwrite
      generalize hold : s.programData a = old at hwrite
      cases hwrite with
      | approvalsAdded ix account guardians address found selected => exact ⟨_, _, address⟩

omit [DecidableEq Pubkey] [DecidableEq Hash] in
theorem canonical_genesis (genesis : Genesis s) : Canonical rt s.programData := by
  constructor <;> simp [genesis _]

theorem canonical_of_reachable (reachable : LedgerReachable rt s) :
    Canonical rt s.programData :=
  reachable.invariant (fun s => Canonical rt s.programData) (fun _ => canonical_genesis)
    fun _ _ _ => canonical_step

omit [DecidableEq Pubkey] [DecidableEq Hash] in
theorem seeds_eq_of_canonical (collisionFree : CollisionFree rt)
    {seeds seeds' : Seeds Pubkey Hash} {bump bump' : UInt8}
    (found : rt.findProgramAddress seeds = (a, bump))
    (address : rt.createProgramAddress seeds' bump' = some a) : seeds = seeds' := by
  exact (collisionFree _ _ _ _ _ (rt.create_of_find found) address).1

omit [DecidableEq Pubkey] [DecidableEq Hash] in
theorem guardiansAt_owner (collisionFree : CollisionFree rt) {r : Registry Pubkey Hash}
    {bridgeHandler bridgeHandler' : Pubkey} {g g' : GuardianInfo Pubkey}
    (h : GuardiansAt rt r bridgeHandler a g) (h' : GuardiansAt rt r bridgeHandler' a g') :
    bridgeHandler = bridgeHandler' :=
  Seeds.guardianInfo.inj (collisionFree _ _ _ _ _ h.address h'.address).1

theorem reachable_of_mem {s₀ : State Pubkey Hash} {trace : List (LedgerTransition Pubkey Hash)}
    (genesis : Genesis s₀) (run : LedgerRun rt s₀ trace s) {t : LedgerTransition Pubkey Hash}
    (mem : t ∈ trace) : LedgerReachable rt t.pre := by
  obtain ⟨before, after, rfl⟩ := List.append_of_mem mem
  exact ⟨s₀, before, genesis, run.split_at.1⟩

omit [DecidableEq Pubkey] [DecidableEq Hash] in
theorem guardiansAt_address (collisionFree : CollisionFree rt) {r : Registry Pubkey Hash}
    (canonical : Canonical rt r) {bridgeHandler : Pubkey} {g : GuardianInfo Pubkey}
    (guardians : GuardiansAt rt r bridgeHandler a g) :
    (rt.findProgramAddress (.guardianInfo bridgeHandler)).1 = a := by
  obtain ⟨owner, hfind⟩ := canonical.guardians a g guardians.stored
  have hseeds := seeds_eq_of_canonical collisionFree hfind guardians.address
  rw [← hseeds, hfind]

omit [DecidableEq Pubkey] [DecidableEq Hash] in
theorem approvalsAt_address (collisionFree : CollisionFree rt) {r : Registry Pubkey Hash}
    (canonical : Canonical rt r) {bridgeHandler : Pubkey} {msgHash : Hash}
    {v : VerifiedSignatures} (approvals : ApprovalsAt rt r bridgeHandler msgHash a v) :
    (rt.findProgramAddress (.verifiedSignatures bridgeHandler msgHash)).1 = a := by
  obtain ⟨owner, hash, hfind⟩ := canonical.approvals a v approvals.stored
  have hseeds := seeds_eq_of_canonical collisionFree hfind approvals.address
  rw [← hseeds, hfind]

omit [DecidableEq Pubkey] [DecidableEq Hash] in
theorem guardiansAt_unique (collisionFree : CollisionFree rt) {r : Registry Pubkey Hash}
    (canonical : Canonical rt r) {bridgeHandler b : Pubkey} {g g' : GuardianInfo Pubkey}
    (h : GuardiansAt rt r bridgeHandler a g) (h' : GuardiansAt rt r bridgeHandler b g') :
    a = b ∧ g = g' := by
  obtain rfl : a = b := (guardiansAt_address collisionFree canonical h).symm.trans
    (guardiansAt_address collisionFree canonical h')
  have hstored := h.stored.symm.trans h'.stored
  exact ⟨rfl, by simpa using hstored⟩

omit [DecidableEq Pubkey] [DecidableEq Hash] in
theorem approvalsAt_of_stored (collisionFree : CollisionFree rt) {r : Registry Pubkey Hash}
    (canonical : Canonical rt r) {bridgeHandler : Pubkey} {msgHash : Hash} {bump : UInt8}
    {v : VerifiedSignatures}
    (address : rt.findProgramAddress (.verifiedSignatures bridgeHandler msgHash) = (a, bump))
    (stored : r a = some (.verifiedSignatures v)) :
    ApprovalsAt rt r bridgeHandler msgHash a v := by
  obtain ⟨owner, hash, hfind⟩ := canonical.approvals a v stored
  have hseeds := seeds_eq_of_canonical collisionFree hfind (rt.create_of_find address)
  have hcreate := rt.create_of_find hfind
  rw [hseeds] at hcreate
  exact ⟨stored, hcreate⟩

theorem guardiansAt_before (collisionFree : CollisionFree rt)
    (step : LedgerStep rt s event s') {bridgeHandler : Pubkey} {h : BridgeHandler Pubkey}
    (handler : HandlerAt rt s.programData bridgeHandler h) {g' : GuardianInfo Pubkey}
    (guardians : GuardiansAt rt s'.programData bridgeHandler a g') :
    ∃ g, GuardiansAt rt s.programData bridgeHandler a g ∧
      (g' = g ∨ ∃ call returned, event = .call call returned ∧
        GuardiansChange rt s.programData call a g g') := by
  have hstored := guardians.stored
  have haddress := guardians.address
  rcases ledger_cell step a with hsame | ⟨call, returned, rfl, hwrite⟩
  · exact ⟨g', ⟨hsame.symm.trans hstored, haddress⟩, .inl rfl⟩
  · rw [hstored] at hwrite
    generalize hold : s.programData a = old at hwrite
    cases hwrite with
    | guardiansCreated ix address fresh =>
        have hseeds := seeds_eq_of_canonical collisionFree address haddress
        obtain rfl := Seeds.guardianInfo.inj hseeds
        rw [handler.stored] at fresh
        cases fresh
    | @guardiansChanged g _ change =>
        refine ⟨g, ⟨hold, ?_⟩, .inr ⟨call, returned, rfl, change⟩⟩
        cases change <;> exact haddress

/-- Guardian lists have no duplicates and fit their account. -/
def GuardianListsValid (r : Registry Pubkey Hash) : Prop :=
  ∀ a g, r a = some (.guardianInfo g) →
    g.guardians.Nodup ∧ g.guardians.length ≤ maxGuardianCount

theorem guardianListsValid_step (step : LedgerStep rt s event s')
    (valid : GuardianListsValid s.programData) : GuardianListsValid s'.programData := by
  intro a g stored
  rcases ledger_cell step a with hsame | ⟨call, returned, -, hwrite⟩
  · exact valid a g (hsame.symm.trans stored)
  · rw [stored] at hwrite
    generalize hold : s.programData a = old at hwrite
    cases hwrite with
    | guardiansCreated ix address fresh => exact ⟨List.nodup_nil, Nat.zero_le _⟩
    | guardiansChanged change =>
        obtain ⟨hnodup, hlength⟩ := valid a _ hold
        cases change with
        | @added x h _ ix account managed absent fits =>
            refine ⟨?_, ?_⟩
            · rw [List.nodup_append]
              refine ⟨hnodup, by simp, ?_⟩
              rintro k hk k' hk' rfl
              exact absent (List.mem_singleton.mp hk' ▸ hk)
            · rw [List.length_append, List.length_singleton]
              exact fits
        | removed ix account managed present enough =>
            exact ⟨hnodup.filter _, (List.length_filter_le _ _).trans hlength⟩

theorem guardianListsValid_of_reachable (reachable : LedgerReachable rt s) :
    GuardianListsValid s.programData :=
  reachable.invariant (fun s => GuardianListsValid s.programData)
    (fun _ genesis a g stored => by simp [genesis a] at stored)
    fun _ _ _ => guardianListsValid_step

/-- The program stores data at its own derived addresses only, and at each of them the
data of its role. -/
theorem seeds_of_reachable (reachable : LedgerReachable rt s) {d : ProgramData Pubkey Hash}
    (stored : s.programData a = some d) :
    ∃ seeds bump, rt.createProgramAddress seeds bump = some a ∧ role seeds = storedRole d := by
  refine reachable.invariant (fun s => ∀ d, s.programData a = some d →
    ∃ seeds bump, rt.createProgramAddress seeds bump = some a ∧ role seeds = storedRole d)
    (fun s genesis d hstored => ?_) ?_ d stored
  · rw [genesis a] at hstored
    cases hstored
  intro s event s' step hbefore d hstored
  rcases ledger_cell step a with hsame | ⟨call, returned, -, hwrite⟩
  · exact hbefore d (hsame ▸ hstored)
  · rw [hstored] at hwrite
    generalize s.programData a = old at hwrite hbefore
    cases hwrite with
    | handlerCreated _ _ _ address => exact ⟨_, _, rt.create_of_find address, rfl⟩
    | guardiansCreated _ address => exact ⟨_, _, rt.create_of_find address, rfl⟩
    | tokenRegistered _ address => exact ⟨_, _, rt.create_of_find address, rfl⟩
    | sourceProofCreated _ address => exact ⟨_, _, rt.create_of_find address, rfl⟩
    | proofCreated _ _ address => exact ⟨_, _, rt.create_of_find address, rfl⟩
    | approvalsAdded _ _ _ address => exact ⟨_, _, rt.create_of_find address, rfl⟩
    | @handlerChanged h => exact hbefore (.bridgeHandler h) rfl
    | @guardiansChanged g => exact hbefore (.guardianInfo g) rfl

theorem derived_of_reachable (reachable : LedgerReachable rt s)
    (stored : s.programData a ≠ none) :
    ∃ seeds bump, rt.createProgramAddress seeds bump = some a := by
  obtain ⟨d, hstored⟩ := Option.ne_none_iff_exists'.mp stored
  obtain ⟨seeds, bump, address, -⟩ := seeds_of_reachable reachable hstored
  exact ⟨seeds, bump, address⟩

theorem finite_accounts_of_reachable (reachable : LedgerReachable rt s) :
    {a | s.programData a ≠ none}.Finite := by
  refine reachable.invariant (fun s => {a | s.programData a ≠ none}.Finite) ?_ ?_
  · intro s genesis
    simp [genesis _]
  · intro s event s' step hfinite
    cases step with
    | @call _ call returned executed =>
        refine (hfinite.union (writtenAccounts call.ix).finite_toSet).subset ?_
        intro a hstored
        by_cases hmem : a ∈ writtenAccounts call.ix
        · exact .inr hmem
        · rw [Set.mem_ofPred_eq, frame (execute_refines executed).1 hmem] at hstored
          exact .inl hstored
    | other change =>
        rw [change.programData]
        exact hfinite

theorem mem_writtenAccounts_of_stored {calls : List (Call Pubkey Hash)} (genesis : Genesis s)
    (succeed : (executeAll rt s calls).isOk = true) {d : ProgramData Pubkey Hash}
    (stored : (stateAfter rt s calls).programData a = some d) :
    a ∈ calls.flatMap fun call => writtenAccounts call.ix := by
  by_contra habsent
  have hnone : (stateAfter rt s calls).programData a = none := by
    refine (run_callTrace succeed).invariant (fun s => s.programData a = none) ?_ (genesis a)
    intro t ht step hpre
    obtain ⟨call, hcall, returned, hlabel⟩ := exists_call_of_mem succeed ht
    rw [hlabel] at step
    cases step with
    | call executed =>
        have hframe : a ∉ writtenAccounts call.ix :=
          fun hmem => habsent (List.mem_flatMap.mpr ⟨call, hcall, hmem⟩)
        rw [frame (execute_refines executed).1 hframe, hpre]
  rw [hnone] at stored
  cases stored

end BridgeProgram.LedgerInvariants
