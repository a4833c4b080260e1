import Mathlib.Data.List.Perm.Subperm
import BridgeProgram.LedgerInvariants
import BridgeProgram.ListPositions
import BridgeProgram.SymbolicRuntime

namespace BridgeProgram.ApprovalSoundness

open BridgeProgram.BridgeProgramEntry
open BridgeProgram.CheckedResult
open BridgeProgram.Ed25519Instruction
open BridgeProgram.LedgerInvariants
open BridgeProgram.ListPositions
open BridgeProgram.ProgramStates
open BridgeProgram.RegistryCells
open BridgeProgram.RegistryModel
open BridgeProgram.RegistryRefinement
open BridgeProgram.SignatureInstructions
open BridgeProgram.SolanaRuntime
open BridgeProgram.SymbolicRuntime
open BridgeProgram.TransitionRuns

variable {Pubkey Hash : Type} [DecidableEq Pubkey]

variable [DecidableEq Hash]

/-- The keys whose signatures over a message hash are accepted by a
`verify_signature` of a handler: the guardians at the positions of the call. -/
def acceptedKeys (bridgeHandler : Pubkey) (msgHash : Hash)
    (t : LedgerTransition Pubkey Hash) : List Pubkey :=
  match t.label with
  | .call call _ =>
      match call.ix with
      | .verifySignature a h signerIndexes =>
          if a.bridgeHandler = bridgeHandler ∧ h = msgHash then
            match t.pre.programData a.guardianInfo with
            | some (.guardianInfo g) => signerIndexes.filterMap fun i => g.guardians[i.toNat]?
            | _ => []
          else []
      | _ => []
  | .other => []

variable {rt : Runtime Pubkey Hash} {s s' : State Pubkey Hash} {event : Event Pubkey Hash}
  {bridgeHandler : Pubkey} {msgHash : Hash}

omit [DecidableEq Pubkey] [DecidableEq Hash] in
theorem filterMap_of_forall₂ {f : UInt8 → Option Pubkey} {indexes : List UInt8}
    {keys : List Pubkey} (h : List.Forall₂ (fun i k => f i = some k) indexes keys) :
    indexes.filterMap f = keys := by
  induction h with
  | nil => rfl
  | cons hk _ ih => rw [List.filterMap_cons_some hk, ih]

theorem acceptedKeys_verifySignature {call : Call Pubkey Hash} {returned : Option UInt64}
    {a : VerifySignature Pubkey} {signerIndexes : List UInt8} {g : GuardianInfo Pubkey}
    (ix : call.ix = .verifySignature a msgHash signerIndexes)
    (stored : s.programData a.guardianInfo = some (.guardianInfo g)) :
    acceptedKeys a.bridgeHandler msgHash ⟨s, .call call returned, s'⟩ =
      signerIndexes.filterMap fun i => g.guardians[i.toNat]? := by
  simp only [acceptedKeys, ix, stored, and_self, if_true]

theorem verified_of_acceptedKeys (step : LedgerStep rt s event s') {k : Pubkey}
    (accepted : k ∈ acceptedKeys bridgeHandler msgHash ⟨s, event, s'⟩) :
    ∃ call returned, event = .call call returned ∧
      verifyEd25519Ix rt call.ixSysvar (acceptedKeys bridgeHandler msgHash ⟨s, event, s'⟩)
        (rt.hashBytes msgHash) = .ok () := by
  cases step with
  | other => simp [acceptedKeys] at accepted
  | @call _ call returned executed =>
      refine ⟨call, returned, rfl, ?_⟩
      cases hix : call.ix with
      | verifySignature a h signerIndexes =>
          by_cases hcall : a.bridgeHandler = bridgeHandler ∧ h = msgHash
          · obtain ⟨rfl, rfl⟩ := hcall
            obtain ⟨-, g, v, bump, guardianSigners, -, guardians, -, -, selected, verified, -⟩ :=
              (execute_refines executed).1.of_verifySignature hix
            rw [acceptedKeys_verifySignature hix guardians.stored,
              filterMap_of_forall₂ (selectSigners_eq_ok.mp selected).keys]
            exact verified
          · simp [acceptedKeys, hix, hcall] at accepted
      | _ => simp [acceptedKeys, hix] at accepted

/-- Every removal of a guardian of the handler takes one that stands behind all
positions stored for the message hash. -/
def RemovesBehindApprovals (rt : Runtime Pubkey Hash) (bridgeHandler : Pubkey)
    (msgHash : Hash) (t : LedgerTransition Pubkey Hash) : Prop :=
  ∀ call returned x, t.label = .call call returned → call.ix = .removeGuardian x →
    x.bridgeHandler = bridgeHandler →
    ∀ a g b v, GuardiansAt rt t.pre.programData bridgeHandler a g →
      ApprovalsAt rt t.pre.programData bridgeHandler msgHash b v →
      ∀ i ∈ v.pubkeyIndex, i.toNat < g.guardians.idxOf x.guardian

/-- The stored positions are distinct and name current guardians with an accepted
signature. -/
def ApprovalsBacked (rt : Runtime Pubkey Hash) (bridgeHandler : Pubkey) (msgHash : Hash)
    (before : List (LedgerTransition Pubkey Hash)) (s : State Pubkey Hash) : Prop :=
  ∀ b v, ApprovalsAt rt s.programData bridgeHandler msgHash b v →
    (∃ h, HandlerAt rt s.programData bridgeHandler h) ∧ v.pubkeyIndex.Nodup ∧
    ∀ a g, GuardiansAt rt s.programData bridgeHandler a g → ∀ i ∈ v.pubkeyIndex,
      ∃ k, g.guardians[i.toNat]? = some k ∧
        ∃ t ∈ before, k ∈ acceptedKeys bridgeHandler msgHash t

/-- A list of at least `guardian_threshold` distinct current guardians, each with
a signature over the message hash accepted before. -/
def EnoughApprovals (rt : Runtime Pubkey Hash) (bridgeHandler : Pubkey) (msgHash : Hash)
    (before : List (LedgerTransition Pubkey Hash)) (s : State Pubkey Hash) : Prop :=
  ∀ h a g, HandlerAt rt s.programData bridgeHandler h →
    GuardiansAt rt s.programData bridgeHandler a g →
    ∃ keys : List Pubkey, keys.Nodup ∧ h.guardianThreshold.toNat ≤ keys.length ∧
      ∀ k ∈ keys, k ∈ g.guardians ∧
        ∃ t ∈ before, k ∈ acceptedKeys bridgeHandler msgHash t

theorem guardian_kept (collisionFree : CollisionFree rt) (step : LedgerStep rt s event s')
    {h : BridgeHandler Pubkey} (handler : HandlerAt rt s.programData bridgeHandler h)
    {b : Pubkey} {v : VerifiedSignatures}
    (approvals : ApprovalsAt rt s.programData bridgeHandler msgHash b v)
    (removes : RemovesBehindApprovals rt bridgeHandler msgHash ⟨s, event, s'⟩)
    {a : Pubkey} {g' : GuardianInfo Pubkey}
    (guardians : GuardiansAt rt s'.programData bridgeHandler a g') :
    ∃ g, GuardiansAt rt s.programData bridgeHandler a g ∧
      ∀ i ∈ v.pubkeyIndex, ∀ k, g.guardians[i.toNat]? = some k →
        g'.guardians[i.toNat]? = some k := by
  obtain ⟨g, hg, hchange⟩ := guardiansAt_before collisionFree step handler guardians
  refine ⟨g, hg, fun i hi k hk => ?_⟩
  rcases hchange with rfl | ⟨call, returned, rfl, change⟩
  · exact hk
  · cases change with
    | added ix account managed absent fits =>
        have hlt : i.toNat < g.guardians.length := (List.getElem?_eq_some_iff.mp hk).1
        rw [List.getElem?_append_left hlt]
        exact hk
    | @removed x _ _ ix account managed present enough =>
        have howner := guardiansAt_owner collisionFree managed.guardians hg
        have hbehind := removes call returned x rfl ix howner a g b v hg approvals i hi
        rw [getElem?_filter_ne hbehind]
        exact hk

theorem approvals_extended (collisionFree : CollisionFree rt)
    (reachable : LedgerReachable rt s) {call : Call Pubkey Hash} {returned : Option UInt64}
    (step : LedgerStep rt s (.call call returned) s') {x : VerifySignature Pubkey}
    {signerIndexes : List UInt8} (ix : call.ix = .verifySignature x msgHash signerIndexes)
    {g : GuardianInfo Pubkey} {guardianSigners : List Pubkey}
    (guardians : GuardiansAt rt s.programData x.bridgeHandler x.guardianInfo g)
    (keys : List.Forall₂ (fun i k => g.guardians[i.toNat]? = some k) signerIndexes
      guardianSigners) :
    (∃ h, HandlerAt rt s'.programData x.bridgeHandler h) ∧
      ∀ a g', GuardiansAt rt s'.programData x.bridgeHandler a g' → a = x.guardianInfo ∧ g' = g ∧
        ∀ i ∈ signerIndexes, ∃ k, g'.guardians[i.toNat]? = some k ∧
          k ∈ acceptedKeys x.bridgeHandler msgHash ⟨s, .call call returned, s'⟩ := by
  have hregistry : RegistryStep rt s.clock s.programData call returned s'.programData := by
    cases step with
    | call executed => exact (execute_refines executed).1
  obtain ⟨h, -, -, -, -, handler, -⟩ := hregistry.of_verifySignature ix
  obtain ⟨h', handler', -⟩ := handlerAt_kept step handler
  refine ⟨⟨h', handler'⟩, fun a g' guardians' => ?_⟩
  obtain ⟨g₁, hg₁, hchange⟩ := guardiansAt_before collisionFree step handler guardians'
  obtain ⟨rfl, rfl⟩ := guardiansAt_unique collisionFree (canonical_of_reachable reachable)
    guardians hg₁
  have hsame : g' = g := by
    rcases hchange with hsame | ⟨call', returned', hcall, change⟩
    · exact hsame
    · obtain ⟨rfl, rfl⟩ := Event.call.inj hcall
      cases change with
      | added ix' => simp [ix] at ix'
      | removed ix' => simp [ix] at ix'
  subst hsame
  refine ⟨rfl, rfl, fun i hi => ?_⟩
  rw [acceptedKeys_verifySignature ix guardians.stored]
  obtain ⟨k, hk⟩ : ∃ k, g'.guardians[i.toNat]? = some k := by
    obtain ⟨n, hn, rfl⟩ := List.mem_iff_getElem.mp hi
    exact ⟨_, keys.get hn (keys.length_eq ▸ hn)⟩
  exact ⟨k, hk, List.mem_filterMap.mpr ⟨i, hi, hk⟩⟩

theorem approvalsBacked_step (collisionFree : CollisionFree rt)
    (reachable : LedgerReachable rt s) (step : LedgerStep rt s event s')
    (removes : RemovesBehindApprovals rt bridgeHandler msgHash ⟨s, event, s'⟩)
    {before : List (LedgerTransition Pubkey Hash)}
    (backed : ApprovalsBacked rt bridgeHandler msgHash before s) :
    ApprovalsBacked rt bridgeHandler msgHash (before ++ [⟨s, event, s'⟩]) s' := by
  -- positions that were stored before the step
  have hkept : ∀ b v, ApprovalsAt rt s.programData bridgeHandler msgHash b v →
      (∃ h, HandlerAt rt s'.programData bridgeHandler h) ∧ v.pubkeyIndex.Nodup ∧
      ∀ a g', GuardiansAt rt s'.programData bridgeHandler a g' → ∀ i ∈ v.pubkeyIndex,
        ∃ k, g'.guardians[i.toNat]? = some k ∧
          ∃ t ∈ before ++ [⟨s, event, s'⟩], k ∈ acceptedKeys bridgeHandler msgHash t := by
    intro b v approvals
    obtain ⟨⟨h, handler⟩, hnodup, hentries⟩ := backed b v approvals
    obtain ⟨h', handler', -⟩ := handlerAt_kept step handler
    refine ⟨⟨h', handler'⟩, hnodup, fun a g' guardians' i hi => ?_⟩
    obtain ⟨g, guardians, hposition⟩ :=
      guardian_kept collisionFree step handler approvals removes guardians'
    obtain ⟨k, hk, t, ht, haccepted⟩ := hentries a g guardians i hi
    exact ⟨k, hposition i hi k hk, t, List.mem_append_left _ ht, haccepted⟩
  intro b v' approvals'
  have hstored := approvals'.stored
  have haddress := approvals'.address
  rcases ledger_cell step b with hsame | ⟨call, returned, rfl, hwrite⟩
  · exact hkept b v' ⟨hsame.symm.trans hstored, haddress⟩
  · rw [hstored] at hwrite
    generalize hold : s.programData b = old at hwrite
    cases hwrite with
    | @approvalsAdded x hash signerIndexes g v bump guardianSigners _ ix account guardians
        address found selected =>
        have hseeds := seeds_eq_of_canonical collisionFree address haddress
        obtain ⟨rfl, rfl⟩ := Seeds.verifiedSignatures.inj hseeds
        obtain ⟨-, -, hnew, hdistinct, -, -, hkeys⟩ := selectSigners_eq_ok.mp selected
        obtain ⟨handler', hadded⟩ :=
          approvals_extended collisionFree reachable step ix guardians hkeys
        have holdPositions : v.pubkeyIndex.Nodup ∧
            ∀ a g', GuardiansAt rt s'.programData x.bridgeHandler a g' →
              ∀ i ∈ v.pubkeyIndex, ∃ k, g'.guardians[i.toNat]? = some k ∧
                ∃ t ∈ before ++ [⟨s, .call call returned, s'⟩],
                  k ∈ acceptedKeys x.bridgeHandler hash t := by
          rcases found with hfound | ⟨-, hempty⟩
          · exact (hkept b v (approvalsAt_of_stored collisionFree
              (canonical_of_reachable reachable) address (hold.trans hfound))).2
          · simp [hempty]
        refine ⟨handler', ?_, fun a g' guardians' i hi => ?_⟩
        · exact List.nodup_append.mpr ⟨holdPositions.1, hdistinct,
            fun i hi j hj hij => hnew j hj (hij ▸ hi)⟩
        · rcases List.mem_append.mp hi with hi | hi
          · exact holdPositions.2 a g' guardians' i hi
          · obtain ⟨-, -, hentries⟩ := hadded a g' guardians'
            obtain ⟨k, hk, haccepted⟩ := hentries i hi
            exact ⟨k, hk, _, List.mem_append_right _ (List.mem_singleton_self _), haccepted⟩

theorem enoughApprovals_of_backed (collisionFree : CollisionFree rt)
    (reachable : LedgerReachable rt s) (step : LedgerStep rt s event s')
    {p : PayoutCall Pubkey Hash} (pays : Pays p event)
    {before : List (LedgerTransition Pubkey Hash)}
    (backed : ApprovalsBacked rt p.bridgeHandler p.msgHash before s) :
    EnoughApprovals rt p.bridgeHandler p.msgHash before s := by
  obtain ⟨call, returned, h, h', g, v, bump, rfl, payout, -, -⟩ := payout_of_pays step pays
  intro h₁ a g₁ handler₁ guardians₁
  obtain rfl : h₁ = h := handler₁.unique payout.handler
  obtain ⟨rfl, rfl⟩ := guardiansAt_unique collisionFree (canonical_of_reachable reachable)
    payout.guardians guardians₁
  obtain ⟨-, hnodup, hentries⟩ := backed _ v payout.approvals
  have hdistinct : (v.pubkeyIndex.map UInt8.toNat).Nodup :=
    hnodup.map fun i j hij => UInt8.toNat_inj.mp hij
  obtain ⟨keys, hkeys, hlength, hkey⟩ := exists_entries
    (guardianListsValid_of_reachable reachable _ g guardians₁.stored).1 hdistinct
    (P := fun k => ∃ t ∈ before, k ∈ acceptedKeys p.bridgeHandler p.msgHash t) (by
      intro n hn
      obtain ⟨i, hi, rfl⟩ := List.mem_map.mp hn
      exact hentries _ g guardians₁ i hi)
  refine ⟨keys, hkeys, ?_, fun k hk => ?_⟩
  · rw [hlength, List.length_map]
    exact payout.approved
  · obtain ⟨haccepted, n, -, hn⟩ := hkey k hk
    exact ⟨List.mem_of_getElem? hn, haccepted⟩

theorem approvalsBacked_of_none
    (fresh : ∀ b v, ¬ ApprovalsAt rt s.programData bridgeHandler msgHash b v) :
    ApprovalsBacked rt bridgeHandler msgHash [] s :=
  fun b v approvals => (fresh b v approvals).elim

/-- A run whose removals of guardians all stand behind the stored positions keeps
them backed. -/
theorem approvalsBacked_run (collisionFree : CollisionFree rt) {s₀ : State Pubkey Hash}
    (reachable : LedgerReachable rt s₀) (backed : ApprovalsBacked rt bridgeHandler msgHash [] s₀)
    {trace : List (LedgerTransition Pubkey Hash)} (run : LedgerRun rt s₀ trace s)
    (removes : ∀ t ∈ trace, RemovesBehindApprovals rt bridgeHandler msgHash t) :
    ApprovalsBacked rt bridgeHandler msgHash trace s := by
  induction run with
  | nil => exact backed
  | @snoc t t' before label run next ih =>
      exact approvalsBacked_step collisionFree (reachable.run run) next
        (removes _ (List.mem_append_right _ (List.mem_singleton_self _)))
        (ih fun u hu => removes u (List.mem_append_left _ hu))

/-- In every run from a genesis ledger whose removals of guardians of a handler
all stand behind the positions stored for a message hash, every payout of the
handler under that hash is approved by enough distinct current guardians. -/
theorem payouts_approved_by_threshold (collisionFree : CollisionFree rt)
    {s₀ : State Pubkey Hash} (genesis : Genesis s₀)
    {trace : List (LedgerTransition Pubkey Hash)} (run : LedgerRun rt s₀ trace s)
    (removes : ∀ t ∈ trace, RemovesBehindApprovals rt bridgeHandler msgHash t) :
    ∀ before t after, trace = before ++ t :: after → ∀ p, Pays p t.label →
      p.bridgeHandler = bridgeHandler → p.msgHash = msgHash →
      EnoughApprovals rt bridgeHandler msgHash before t.pre := by
  rintro before t after rfl p pays rfl rfl
  obtain ⟨hbefore, hstep, -⟩ := run.split_at
  have hreachable₀ : LedgerReachable rt s₀ := ⟨s₀, [], genesis, .nil s₀⟩
  have hfresh : ∀ b v,
      ¬ ApprovalsAt rt s₀.programData p.bridgeHandler p.msgHash b v := by
    intro b v approvals
    have hstored := approvals.stored
    rw [genesis b] at hstored
    cases hstored
  have hbacked := approvalsBacked_run collisionFree hreachable₀
    (approvalsBacked_of_none hfresh) hbefore
    fun u hu => removes u (List.mem_append_left _ hu)
  exact enoughApprovals_of_backed collisionFree (hreachable₀.run hbefore) hstep pays hbacked

/-- A removal takes a guardian behind the positions stored for a message hash. -/
def removesBehind (bridgeHandler : Key) (msgHash : Digest) (t : LedgerTransition Key Digest) :
    Bool :=
  match t.label with
  | .call call _ =>
      match call.ix with
      | .removeGuardian x =>
          match t.pre.programData (guardiansKey bridgeHandler),
              t.pre.programData (approvalsKey bridgeHandler msgHash) with
          | some (.guardianInfo g), some (.verifiedSignatures v) =>
              v.pubkeyIndex.all fun i => i.toNat < g.guardians.idxOf x.guardian
          | _, _ => true
      | _ => true
  | .other => true

theorem removesBehindApprovals_of_check {solayer : Bool} {bridgeHandler : Key} {msgHash : Digest}
    {t : LedgerTransition Key Digest}
    (reachable : LedgerReachable (symbolicRuntime solayer) t.pre)
    (h : removesBehind bridgeHandler msgHash t = true) :
    RemovesBehindApprovals (symbolicRuntime solayer) bridgeHandler msgHash t := by
  intro call returned x hlabel hix _ a g b v guardians approvals i hi
  have canonical := canonical_of_reachable reachable
  have ha : guardiansKey bridgeHandler = a :=
    guardiansAt_address (symbolicRuntime_collisionFree solayer) canonical guardians
  have hb : approvalsKey bridgeHandler msgHash = b :=
    approvalsAt_address (symbolicRuntime_collisionFree solayer) canonical approvals
  simp only [removesBehind, hlabel, hix, ha, hb, guardians.stored, approvals.stored] at h
  exact of_decide_eq_true (List.all_eq_true.mp h i hi)

/-- Three guardians with threshold 2. The first two approve, and the third is removed. -/
def approvalByTwo : List (Call Key Digest) :=
  let bridgeHandler := handlerKey 7
  [ initializeBy (.atom 5) 7 2 (.atom 5) (.atom 6),
    addGuardianBy (.atom 5) bridgeHandler (.atom 11),
    addGuardianBy (.atom 5) bridgeHandler (.atom 12),
    addGuardianBy (.atom 5) bridgeHandler (.atom 13),
    updateThresholdBy (.atom 5) bridgeHandler 2,
    verifyBy (.atom 6) bridgeHandler sampleTransfer.msgHash [0, 1] [.atom 11, .atom 12],
    removeGuardianBy (.atom 5) bridgeHandler (.atom 13) ]

theorem payouts_approved_by_threshold_sample :
    let before := callTrace (symbolicRuntime true) sampleLedger approvalByTwo
    let s := stateAfter (symbolicRuntime true) sampleLedger approvalByTwo
    EnoughApprovals (symbolicRuntime true) (handlerKey 7) sampleTransfer.msgHash before s := by
  intro before s
  have hok : (executeAll (symbolicRuntime true) sampleLedger approvalByTwo).isOk = true := by
    decide +kernel
  have hrun : LedgerRun (symbolicRuntime true) sampleLedger before s := run_callTrace hok
  have hchecked : ∀ t ∈ before,
      removesBehind (handlerKey 7) sampleTransfer.msgHash t = true := by
    decide +kernel
  obtain ⟨returned, hstep⟩ := exists_step_of_executeAll (symbolicRuntime true) s
    (paySolBy (.atom 6) (handlerKey 7) sampleTransfer) (by decide +kernel)
  clear_value before s
  have hpaid := hrun.snoc hstep
  refine payouts_approved_by_threshold (symbolicRuntime_collisionFree true)
    (genesis_ledgerOf _) hpaid ?_ before _ [] rfl _ ⟨_, returned, rfl, rfl⟩ rfl rfl
  intro t ht
  refine removesBehindApprovals_of_check (reachable_of_mem (genesis_ledgerOf _) hpaid ht) ?_
  rcases List.mem_append.mp ht with ht | ht
  · exact hchecked t ht
  · obtain rfl := List.mem_singleton.mp ht
    rfl

/-- Three guardians with threshold 2. The first one approves and is removed; then
the third one approves at its new position. -/
def staleApproval : List (Call Key Digest) :=
  let bridgeHandler := handlerKey 7
  [ initializeBy (.atom 5) 7 2 (.atom 5) (.atom 6),
    addGuardianBy (.atom 5) bridgeHandler (.atom 11),
    addGuardianBy (.atom 5) bridgeHandler (.atom 12),
    addGuardianBy (.atom 5) bridgeHandler (.atom 13),
    updateThresholdBy (.atom 5) bridgeHandler 2,
    verifyBy (.atom 6) bridgeHandler sampleTransfer.msgHash [0] [.atom 11],
    removeGuardianBy (.atom 5) bridgeHandler (.atom 11),
    verifyBy (.atom 6) bridgeHandler sampleTransfer.msgHash [1] [.atom 13] ]

/-- The payout after that succeeds, with a signature of one current guardian only. -/
theorem removed_guardian_still_counts :
    ¬ ∀ trace s, LedgerRun (symbolicRuntime true) sampleLedger trace s →
      ∀ before t after, trace = before ++ t :: after → ∀ p, Pays p t.label →
        EnoughApprovals (symbolicRuntime true) p.bridgeHandler p.msgHash before t.pre := by
  intro h
  let rt := symbolicRuntime true
  let before := callTrace rt sampleLedger staleApproval
  let s := stateAfter rt sampleLedger staleApproval
  have hrun : LedgerRun rt sampleLedger before s := run_callTrace (by decide +kernel)
  obtain ⟨returned, hstep⟩ := exists_step_of_executeAll rt s
    (paySolBy (.atom 6) (handlerKey 7) sampleTransfer) (by decide +kernel)
  obtain ⟨x, hhandler, hx⟩ := exists_handlerAt true s (handlerKey 7)
    (fun x => x.guardianThreshold = 2) (by decide +kernel)
  obtain ⟨g, hguardians, hg⟩ := exists_guardiansAt true s (handlerKey 7)
    (fun g => g.guardians = [.atom 12, .atom 13]) (by decide +kernel)
  have hnone : ∀ t ∈ before,
      Key.atom 12 ∉ acceptedKeys (handlerKey 7) sampleTransfer.msgHash t := by
    decide +kernel
  clear_value before s
  have henough : EnoughApprovals rt (handlerKey 7) sampleTransfer.msgHash before s :=
    h _ _ (hrun.snoc hstep) before _ [] rfl _ ⟨_, returned, rfl, rfl⟩
  obtain ⟨keys, hnodup, hlength, hkeys⟩ := henough x _ g hhandler hguardians
  have hsubset : keys ⊆ [Key.atom 13] := by
    intro k hk
    obtain ⟨hmem, t, ht, haccepted⟩ := hkeys k hk
    rw [of_decide_eq_true hg] at hmem
    rcases List.mem_cons.mp hmem with rfl | hmem
    · exact absurd haccepted (hnone t ht)
    · exact hmem
  have hle := (List.subperm_of_subset hnodup hsubset).length_le
  rw [of_decide_eq_true hx] at hlength
  exact absurd (hlength.trans hle) (by decide)

end BridgeProgram.ApprovalSoundness
