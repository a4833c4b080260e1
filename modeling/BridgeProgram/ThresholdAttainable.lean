import BridgeProgram.BalanceEffects
import BridgeProgram.ClientRoundTrip
import BridgeProgram.GuardianMajority
import BridgeProgram.SignatureSoundness
import BridgeProgram.SourceAvailability

namespace BridgeProgram.ThresholdAttainable

open BridgeProgram.AccountEffects
open BridgeProgram.AnchorAccounts
open BridgeProgram.BalanceEffects
open BridgeProgram.BalanceShifts
open BridgeProgram.BridgeProgramEntry
open BridgeProgram.ByteStrings
open BridgeProgram.CheckedResult
open BridgeProgram.ClientEncoding
open BridgeProgram.ClientRoundTrip
open BridgeProgram.Ed25519Instruction
open BridgeProgram.GuardianMajority
open BridgeProgram.HandlerInstructions
open BridgeProgram.LedgerInvariants
open BridgeProgram.ProgramStates
open BridgeProgram.RegistryCells
open BridgeProgram.RegistryModel
open BridgeProgram.RegistryRefinement
open BridgeProgram.SignatureInstructions
open BridgeProgram.SignatureSoundness
open BridgeProgram.SolanaRuntime
open BridgeProgram.SourceAvailability
open BridgeProgram.SymbolicRuntime
open BridgeProgram.TargetInstructions
open BridgeProgram.TransitionRuns

/-- The count and the offset record of an instruction with one signature. -/
def singleHeader : List UInt8 :=
  [1, 0, 80, 0, 255, 255, 48, 0, 255, 255, 16, 0, 32, 0, 255, 255]

/-- The data of an instruction with one signature. -/
def singleData (sig : Ed25519Signature) : List UInt8 :=
  singleHeader ++ sig.msg.toList ++ sig.pubkey.toList ++ sig.signature.toList

theorem packed_single (sig : Ed25519Signature) :
    makeEd25519InstDataPacked [sig] u16Max = some (singleData sig) := by
  have hoffsets : encodeOffsets ⟨80, 65535, 48, 65535, 16, 32, 65535⟩ =
      some (singleHeader.drop 2) := by decide
  simp [makeEd25519InstDataPacked, signatureOffsetsSerializedSize, signatureOffsetsStart,
    pubkeySerializedSize, Vector.size, writeUInt8, u16Max, hoffsets, singleHeader, singleData]

theorem singleData_eq (sig : Ed25519Signature) :
    singleData sig = packedData [sig] sig.msg u16Max :=
  Option.some.inj ((packed_single sig).symm.trans
    (makeEd25519InstDataPacked_eq rfl (by simp) (by decide) (by simp)))

theorem located_single (sig : Ed25519Signature) :
    List.Forall₂ (Located (packedData [sig] sig.msg u16Max)) (packedRecords [sig] u16Max)
      [sig] :=
  located_packed (by simp) (by decide) (by simp)

theorem loadSignatures_single (sig : Ed25519Signature) :
    loadSignatures (singleData sig) = .ok [sig] := by
  rw [singleData_eq]
  exact loadSignatures_of_located (by simp [packedRecords]) (located_single sig)

variable {Pubkey Hash : Type}

theorem readRecords_single (instructions : List (TxInstruction Pubkey))
    (sig : Ed25519Signature) :
    readRecords instructions (singleData sig) = some [checkedOf sig] := by
  rw [singleData_eq]
  exact readRecords_of_located instructions (by simp) ownIndexes_recordsAt
    (located_single sig)

/-- Size of an approvals account. -/
def approvalsLen : ℕ := 8 + (1 + (4 + maxGuardianSignatures) + 8)

/-- A transaction with the ed25519 instruction for one signature, and the call of
the program. -/
def singleTransaction (rt : Runtime Pubkey Hash) (sig : Ed25519Signature) :
    InstructionsSysvar Pubkey where
  instructions := [{ programId := rt.ed25519Program, accounts := [], data := singleData sig },
    { programId := rt.programId, accounts := [], data := [] }]
  currentIndex := 1

theorem precompileAccepts_single {rt : Runtime Pubkey Hash} {verify : CheckedSignature → Bool}
    {sig : Ed25519Signature} [DecidableEq Pubkey] (distinct : rt.programId ≠ rt.ed25519Program)
    (signed : verify (checkedOf sig) = true) :
    PrecompileAccepts rt verify (singleTransaction rt sig).instructions := by
  intro ix hix hprogram
  simp only [singleTransaction, List.mem_cons, List.not_mem_nil, or_false] at hix
  rcases hix with rfl | rfl
  · exact ⟨_, readRecords_single _ sig, by simpa using signed⟩
  · exact absurd hprogram distinct

variable [DecidableEq Pubkey] {rt : Runtime Pubkey Hash} {s s' x : State Pubkey Hash}

/-- The positions of the first `k` guardians. -/
def firstIndexes (k : ℕ) : List UInt8 :=
  (List.range k).map UInt8.ofNat

@[simp] theorem length_firstIndexes (k : ℕ) : (firstIndexes k).length = k := by
  simp [firstIndexes]

theorem firstIndexes_succ (k : ℕ) :
    firstIndexes (k + 1) = firstIndexes k ++ [UInt8.ofNat k] := by
  simp [firstIndexes, List.range_succ]

theorem ofNat_notMem_firstIndexes {k : ℕ} (h : k < 256) : UInt8.ofNat k ∉ firstIndexes k := by
  simp only [firstIndexes, List.mem_map, List.mem_range, not_exists, not_and]
  intro j hj heq
  have hvalue := congrArg UInt8.toNat heq
  rw [UInt8.toNat_ofNat_of_lt' (hj.trans h), UInt8.toNat_ofNat_of_lt' h] at hvalue
  omega

omit [DecidableEq Pubkey] in
theorem selectSigners_next {guardians : List Pubkey} {k : ℕ} {key : Pubkey}
    (hkey : guardians[k]? = some key) (hlimit : k < maxGuardianSignatures) :
    selectSigners guardians (firstIndexes k) [UInt8.ofNat k] = .ok [key] := by
  obtain ⟨hlength, -⟩ := List.getElem?_eq_some_iff.mp hkey
  have hsmall : k < 256 := hlimit.trans (by decide)
  have hvalue : (UInt8.ofNat k).toNat = k := UInt8.toNat_ofNat_of_lt' hsmall
  rw [selectSigners_eq_ok]
  exact
    { nonempty := List.cons_ne_nil _ _
      count := by
        rw [List.length_singleton]
        omega
      fresh := fun i hi => by
        rw [List.mem_singleton.mp hi]
        exact ofNat_notMem_firstIndexes hsmall
      nodup := List.nodup_singleton _
      total := by
        rw [length_firstIndexes, List.length_singleton]
        omega
      limit := by
        rw [length_firstIndexes, List.length_singleton]
        omega
      keys := .cons (by rw [hvalue, hkey]) .nil }

/-- The signature of guardian number `k` can be submitted: those before it have
been collected. -/
structure ReadyToVerify (rt : Runtime Pubkey Hash) (x : State Pubkey Hash)
    (v : VerifySignature Pubkey) (msgHash : Hash) (h : BridgeHandler Pubkey)
    (g : GuardianInfo Pubkey) (k : ℕ) : Prop where
  payer : x.data v.operator = .system ∧ v.operator ≠ v.verifiedSignatures
  handler : HandlerAt rt x.programData v.bridgeHandler h
  guardians : GuardiansAt rt x.programData v.bridgeHandler v.guardianInfo g
  address : (rt.findProgramAddress (.verifiedSignatures v.bridgeHandler msgHash)).1 =
    v.verifiedSignatures
  collected : k = 0 ∧ x.data v.verifiedSignatures = .system ∨
    ∃ w, x.data v.verifiedSignatures = .program (.verifiedSignatures w) ∧
      w.pubkeyIndex = firstIndexes k
  rent : rt.minimumBalance approvalsLen ≤ x.lamports v.verifiedSignatures
  newRent : x.data v.verifiedSignatures = .system →
    x.lamports v.verifiedSignatures = accountRent rt approvalsLen

variable {v : VerifySignature Pubkey} {msgHash : Hash}
  {h : BridgeHandler Pubkey} {g : GuardianInfo Pubkey} {k : ℕ}

theorem ReadyToVerify.opened (ready : ReadyToVerify rt x v msgHash h g k)
    (rentFits : accountRent rt approvalsLen < 2 ^ 64) :
    ∃ x₁ w bump d, initIfNeeded rt x v.operator (.verifiedSignatures v.bridgeHandler msgHash)
        v.verifiedSignatures ProgramData.verifiedSignatures?
        (.verifiedSignatures { bump := 0, pubkeyIndex := [], createdAt := 0 }) =
        .ok (x₁, w, bump) ∧ w.pubkeyIndex = firstIndexes k ∧ x₁.lamports = x.lamports ∧
      x₁.data = Function.update x.data v.verifiedSignatures (.program d) := by
  simp only [initIfNeeded, bind_eq_ok, require_eq_ok, pure_eq_ok, loadAccount_eq_ok,
    Prod.mk.injEq]
  rcases ready.collected with ⟨rfl, hsystem⟩ | ⟨w, hstored, hindexes⟩
  · have hrent := ready.newRent hsystem
    have htopUp : topUp rt x v.verifiedSignatures approvalsLen = 0 := by
      rw [topUp, hrent]
      exact Nat.sub_self _
    obtain ⟨x₁, hcreate⟩ := createAccount_ok rt approvalsLen
      (.program (.verifiedSignatures { bump := 0, pubkeyIndex := [], createdAt := 0 })) hsystem
      ready.payer.2 ready.payer.1 (by rw [htopUp]; exact Nat.zero_le _)
      (by rw [htopUp, hrent]; exact rentFits)
    obtain ⟨-, hdata, -⟩ := createAccount_data hcreate
    obtain ⟨-, -, -, -, hmoves, -⟩ := createAccount_moves rfl hcreate
    rw [htopUp, moved_zero] at hmoves
    have hlamports : x₁.lamports = x.lamports := hmoves.lamports.unique (.refl _)
    refine ⟨x₁, _, _, _, ⟨(), ready.address, x₁, ?_, _, ⟨_, by rw [hdata, Function.update_self],
      rfl⟩, (), by rw [hlamports]; exact ready.rent, rfl, rfl, rfl⟩, rfl, hlamports, hdata⟩
    rw [if_pos (AccountData.isSystem_iff.mpr hsystem)]
    exact hcreate
  · refine ⟨x, w, _, _, ⟨(), ready.address, x, ?_, w, ⟨_, hstored, rfl⟩, (), ready.rent, rfl, rfl,
      rfl⟩, hindexes, rfl, by rw [← hstored, Function.update_eq_self]⟩
    rw [if_neg (by rw [hstored]; simp [AccountData.isSystem])]
    rfl

/-- A call that submits the signature of one guardian. -/
def verifyOne (rt : Runtime Pubkey Hash) (v : VerifySignature Pubkey) (msgHash : Hash) (k : ℕ)
    (sig : Ed25519Signature) : Call Pubkey Hash where
  signers := [v.operator]
  ixSysvar := singleTransaction rt sig
  ix := .verifySignature v msgHash [UInt8.ofNat k]

theorem verifyEd25519Ix_single {key : Pubkey} {message : Vector UInt8 32}
    {sig : Ed25519Signature} (hpubkey : sig.pubkey = rt.pubkeyBytes key)
    (hmsg : sig.msg = message) :
    verifyEd25519Ix rt (singleTransaction rt sig) [key] message = .ok () := by
  have hprevious : getPreviousInstruction (singleTransaction rt sig) =
      .ok { programId := rt.ed25519Program, accounts := [], data := singleData sig } := by
    simp only [getPreviousInstruction, bind_eq_ok, require_eq_ok, okOr_eq_ok]
    exact ⟨(), Nat.zero_lt_one, rfl⟩
  exact verifyEd25519Ix_iff.mpr
    ⟨_, [sig], hprevious, loadSignatures_single sig, .cons ⟨hpubkey, hmsg⟩ .nil⟩

variable [DecidableEq Hash]

theorem ReadyToVerify.verify_ok (ready : ReadyToVerify rt x v msgHash h g k)
    (rentFits : accountRent rt approvalsLen < 2 ^ 64) {key : Pubkey}
    (hkey : g.guardians[k]? = some key) (hlimit : k < maxGuardianSignatures)
    {sig : Ed25519Signature} (hpubkey : sig.pubkey = rt.pubkeyBytes key)
    (hmsg : sig.msg = rt.hashBytes msgHash) :
    ∃ x', execute rt x (verifyOne rt v msgHash k sig) = .ok (x', none) ∧
      ReadyToVerify rt x' v msgHash h g (k + 1) := by
  obtain ⟨x₁, w, bump, d, hopened, hindexes, hlamports, hdata⟩ := ready.opened rentFits
  let new : VerifiedSignatures :=
    { bump, pubkeyIndex := w.pubkeyIndex ++ [UInt8.ofNat k], createdAt := x₁.clock.unixTimestamp }
  let x' := x₁.setData v.verifiedSignatures (.program (.verifiedSignatures new))
  have hdata' : x'.data = Function.update x.data v.verifiedSignatures
      (.program (.verifiedSignatures new)) := by
    rw [setData_data, hdata, Function.update_idem]
  have hne : ∀ b d₀, x.programData b = some d₀ → (∀ w, d₀ ≠ .verifiedSignatures w) →
      x'.programData b = some d₀ := by
    intro b d₀ hb hother
    have hb' := programData_eq_some.mp hb
    have hsame : b ≠ v.verifiedSignatures := by
      rintro rfl
      rcases ready.collected with ⟨-, hsystem⟩ | ⟨w, hstored, -⟩
      · rw [hb'] at hsystem
        cases hsystem
      · rw [hb'] at hstored
        exact hother w (AccountData.program.inj hstored)
    rw [programData_eq_some, hdata', Function.update_of_ne hsame, hb']
  refine ⟨x', ?_,
    { payer := ⟨by rw [hdata', Function.update_of_ne ready.payer.2, ready.payer.1], ready.payer.2⟩
      handler := ⟨hne _ _ ready.handler.stored (by simp), ready.handler.address⟩
      guardians := ⟨hne _ _ ready.guardians.stored (by simp), ready.guardians.address⟩
      address := ready.address
      collected := .inr ⟨new, by rw [hdata', Function.update_self], by
        rw [firstIndexes_succ, ← hindexes]⟩
      rent := by
        rw [setData_lamports, hlamports]
        exact ready.rent
      newRent := by
        rw [hdata', Function.update_self]
        intro hsystem
        cases hsystem }⟩
  have hverify : verifySignature rt [v.operator] (singleTransaction rt sig) x v msgHash
      [UInt8.ofNat k] = .ok x' := by
    simp only [verifySignature, bind_eq_ok, checkSigner_eq_ok, Prod.exists, exitAccount_eq_ok]
    refine ⟨(), List.mem_singleton_self _, h, ?_, g, ?_, x₁, w, bump,
      hopened, [key], ?_, (), verifyEd25519Ix_single hpubkey hmsg, ?_, rfl⟩
    · exact loadBridgeHandler_eq_ok.mpr
        ⟨programData_eq_some.mp ready.handler.stored, ready.handler.address⟩
    · exact loadGuardianInfo_eq_ok.mpr
        ⟨programData_eq_some.mp ready.guardians.stored, ready.guardians.address⟩
    · rw [hindexes]
      exact selectSigners_next hkey hlimit
    · simp only [ProgramData.serializedLen, ProgramData.space, hindexes, List.length_append,
        length_firstIndexes, List.length_singleton]
      omega
  simp only [execute, verifyOne]
  rw [hverify]
  rfl

omit [DecidableEq Pubkey] [DecidableEq Hash] in
/-- Every guardian signs a message hash. -/
def GuardiansSign (rt : Runtime Pubkey Hash) (verify : CheckedSignature → Bool)
    (msgHash : Hash) (g : GuardianInfo Pubkey) : Prop :=
  ∀ key ∈ g.guardians, ∃ sig : Ed25519Signature, sig.pubkey = rt.pubkeyBytes key ∧
    sig.msg = rt.hashBytes msgHash ∧ verify (checkedOf sig) = true

omit [DecidableEq Pubkey] [DecidableEq Hash] in
/-- A `verify_signature` for a message hash, in a transaction that the precompile
accepts, or an event outside the program. -/
def Submits (rt : Runtime Pubkey Hash) (verify : CheckedSignature → Bool)
    (bridgeHandler : Pubkey) (msgHash : Hash) : Event Pubkey Hash → Prop
  | .call call _ => ∃ v signerIndexes, call.ix = .verifySignature v msgHash signerIndexes ∧
      v.bridgeHandler = bridgeHandler ∧ PrecompileAccepts rt verify call.ixSysvar.instructions
  | .other => True

theorem ReadyToVerify.collect {verify : CheckedSignature → Bool}
    (ready : ReadyToVerify rt x v msgHash h g 0) (distinct : rt.programId ≠ rt.ed25519Program)
    (rentFits : accountRent rt approvalsLen < 2 ^ 64)
    (signs : GuardiansSign rt verify msgHash g) (hlimit : k ≤ maxGuardianSignatures)
    (hlength : k ≤ g.guardians.length) :
    ∃ trace x', LedgerRun rt x trace x' ∧
      (∀ t ∈ trace, Submits rt verify v.bridgeHandler msgHash t.label) ∧
      ReadyToVerify rt x' v msgHash h g k := by
  induction k with
  | zero => exact ⟨[], x, .nil x, by simp, ready⟩
  | succ k ih =>
      obtain ⟨trace, x', run, hsubmits, hready⟩ :=
        ih ((Nat.le_succ k).trans hlimit) ((Nat.le_succ k).trans hlength)
      obtain ⟨sig, hpubkey, hmsg, hsigned⟩ := signs _ (List.getElem_mem hlength)
      obtain ⟨x'', hcall, hready'⟩ :=
        hready.verify_ok rentFits (List.getElem?_eq_getElem hlength) hlimit hpubkey hmsg
      refine ⟨_, x'', run.snoc (.call hcall), ?_, hready'⟩
      intro t ht
      rcases List.mem_append.mp ht with hold | hnew
      · exact hsubmits t hold
      · rw [List.mem_singleton.mp hnew]
        exact ⟨v, _, rfl, rfl, precompileAccepts_single distinct hsigned⟩

omit [DecidableEq Hash] in
/-- Nobody has approved a message hash: its account is unused, or it has no
positions. -/
def EmptyApprovals (s : State Pubkey Hash) (a : Pubkey) : Prop :=
  s.data a = .system ∨
    ∃ w, s.data a = .program (.verifiedSignatures w) ∧ w.pubkeyIndex = []

/-- Lamports of the approvals account when its rent has been paid. -/
def rentPaid (rt : Runtime Pubkey Hash) (s : State Pubkey Hash) (a : Pubkey) : ℕ :=
  if (s.data a).isSystem then accountRent rt approvalsLen
  else max (s.lamports a) (accountRent rt approvalsLen)

/-- The ledger on which the operator is a wallet and that rent has been paid. -/
def withRentPaid (rt : Runtime Pubkey Hash) (s : State Pubkey Hash)
    (v : VerifySignature Pubkey) : State Pubkey Hash :=
  (s.setData v.operator .system).setLamports v.verifiedSignatures
    (rentPaid rt s v.verifiedSignatures)

omit [DecidableEq Hash] in
theorem lamports_withRentPaid (rt : Runtime Pubkey Hash) (s : State Pubkey Hash)
    (v : VerifySignature Pubkey) :
    (withRentPaid rt s v).lamports =
      Function.update s.lamports v.verifiedSignatures (rentPaid rt s v.verifiedSignatures) :=
  rfl

omit [DecidableEq Hash] in
theorem otherChange_withRentPaid (rt : Runtime Pubkey Hash)
    (unused : s.programData v.operator = none) : OtherChange s (withRentPaid rt s v) := by
  constructor
  · exact (sameProgram_setData unused rfl).1
  · intro b hb
    rw [lamports_withRentPaid]
    by_cases hsame : b = v.verifiedSignatures
    · subst hsame
      have hsystem : ¬ (s.data v.verifiedSignatures).isSystem = true := by
        intro hsystem
        exact hb (programData_eq_none_of_system (AccountData.isSystem_iff.mp hsystem))
      rw [Function.update_self, rentPaid, if_neg hsystem]
      exact Nat.le_max_left _ _
    · rw [Function.update_of_ne hsame]

omit [DecidableEq Hash] in
theorem readyToVerify_withRentPaid
    (handler : HandlerAt rt s.programData v.bridgeHandler h)
    (guardians : GuardiansAt rt s.programData v.bridgeHandler v.guardianInfo g)
    (address : (rt.findProgramAddress (.verifiedSignatures v.bridgeHandler msgHash)).1 =
      v.verifiedSignatures)
    (empty : EmptyApprovals s v.verifiedSignatures)
    (unused : s.programData v.operator = none) (hne : v.operator ≠ v.verifiedSignatures) :
    ReadyToVerify rt (withRentPaid rt s v) v msgHash h g 0 := by
  have hdata : (withRentPaid rt s v).data v.verifiedSignatures = s.data v.verifiedSignatures :=
    Function.update_of_ne hne.symm _ _
  have hprogram := (otherChange_withRentPaid rt unused).programData
  have hlamports : accountRent rt approvalsLen ≤
      (withRentPaid rt s v).lamports v.verifiedSignatures := by
    rw [lamports_withRentPaid, Function.update_self, rentPaid]
    split
    · exact Nat.le_refl _
    · exact Nat.le_max_right _ _
  exact
    { payer := ⟨Function.update_self _ _ _, hne⟩
      handler := by rwa [hprogram]
      guardians := by rwa [hprogram]
      address
      collected := by
        rw [hdata]
        exact empty.imp (fun hsystem => ⟨rfl, hsystem⟩) fun hstored => hstored
      rent := (Nat.le_max_left _ _).trans hlamports
      newRent := by
        rw [hdata]
        intro hsystem
        rw [lamports_withRentPaid, Function.update_self, rentPaid,
          if_pos (AccountData.isSystem_iff.mpr hsystem)] }

omit [DecidableEq Pubkey] [DecidableEq Hash] in
/-- The signer count and threshold checks of both payouts pass for a message hash. -/
def ChecksPass (rt : Runtime Pubkey Hash) (s : State Pubkey Hash) (bridgeHandler : Pubkey)
    (msgHash : Hash) : Prop :=
  ∃ h a g b v, HandlerAt rt s.programData bridgeHandler h ∧
    GuardiansAt rt s.programData bridgeHandler a g ∧
    ApprovalsAt rt s.programData bridgeHandler msgHash b v ∧ checkApprovals h g v = .ok ()

/-- Submitting signatures can make the checks of the payouts pass. -/
def Attainable (rt : Runtime Pubkey Hash) (verify : CheckedSignature → Bool)
    (s : State Pubkey Hash) (bridgeHandler : Pubkey) (msgHash : Hash) : Prop :=
  ∃ trace s', LedgerRun rt s trace s' ∧
    (∀ t ∈ trace, Submits rt verify bridgeHandler msgHash t.label) ∧
    ChecksPass rt s' bridgeHandler msgHash

theorem handlerAt_of_submits {verify : CheckedSignature → Bool} {event : Event Pubkey Hash}
    {bridgeHandler a : Pubkey} (step : LedgerStep rt s event s')
    (submits : Submits rt verify bridgeHandler msgHash event)
    (handler : HandlerAt rt s.programData a h) : HandlerAt rt s'.programData a h := by
  obtain ⟨h', hstored, hchange⟩ := handler_kept step handler.stored
  rcases hchange with rfl | ⟨call, returned, rfl, change⟩
  · exact ⟨hstored, handler.address⟩
  · obtain ⟨v, signerIndexes, ix, -⟩ := submits
    cases change with
    | managed kind => simp [managerUpdate?, ix] at kind
    | numbered kind => simp [sourceHandler?, ix] at kind
    | charged kind => simp [payout?, ix] at kind
    | threshold ix' => simp [ix] at ix'

theorem limit_of_attainable {verify : CheckedSignature → Bool} {bridgeHandler : Pubkey}
    (handler : HandlerAt rt s.programData bridgeHandler h)
    (attainable : Attainable rt verify s bridgeHandler msgHash) :
    h.guardianThreshold.toNat ≤ maxGuardianSignatures := by
  obtain ⟨trace, s', run, hsubmits, h', a, g, b, v, handler', -, -, hchecks⟩ := attainable
  have hkept : HandlerAt rt s'.programData bridgeHandler h :=
    run.invariant (fun s => HandlerAt rt s.programData bridgeHandler h)
      (fun t ht step => handlerAt_of_submits step (hsubmits t ht)) handler
  obtain rfl : h' = h := handler'.unique hkept
  obtain ⟨⟨-, -, hlimit⟩, hthreshold⟩ := checkApprovals_eq_ok.mp hchecks
  exact hthreshold.trans hlimit

theorem attainable_of_limit {verify : CheckedSignature → Bool} {bridgeHandler a : Pubkey}
    (collisionFree : CollisionFree rt) (distinct : rt.programId ≠ rt.ed25519Program)
    (rentFits : accountRent rt approvalsLen < 2 ^ 64) (reachable : LedgerReachable rt s)
    (handler : HandlerAt rt s.programData bridgeHandler h)
    (guardians : GuardiansAt rt s.programData bridgeHandler a g)
    (positive : 0 < h.guardianThreshold)
    (enough : h.guardianThreshold.toNat ≤ g.guardians.length)
    (empty : EmptyApprovals s (rt.findProgramAddress
      (.verifiedSignatures bridgeHandler msgHash)).1)
    (signs : GuardiansSign rt verify msgHash g)
    (hlimit : h.guardianThreshold.toNat ≤ maxGuardianSignatures) :
    Attainable rt verify s bridgeHandler msgHash := by
  have := infinite_pubkey collisionFree bridgeHandler
  obtain ⟨payer, hpayer⟩ := ((finite_accounts_of_reachable reachable).union
    (Set.finite_singleton (rt.findProgramAddress
      (.verifiedSignatures bridgeHandler msgHash)).1)).exists_notMem
  simp only [Set.mem_union, Set.mem_ofPred_eq, Set.mem_singleton_iff, not_or, not_not] at hpayer
  obtain ⟨hunused, hne⟩ := hpayer
  let v : VerifySignature Pubkey :=
    { operator := payer, bridgeHandler, guardianInfo := a
      verifiedSignatures :=
        (rt.findProgramAddress (.verifiedSignatures bridgeHandler msgHash)).1 }
  have hready : ReadyToVerify rt (withRentPaid rt s v) v msgHash h g 0 :=
    readyToVerify_withRentPaid handler guardians rfl empty hunused hne
  obtain ⟨trace, s', run, hsubmits, hready'⟩ :=
    hready.collect distinct rentFits signs hlimit enough
  have hrun : LedgerRun rt s _ s' := .cons (.other (otherChange_withRentPaid rt hunused)) run
  have hpositive : 0 < h.guardianThreshold.toNat := UInt8.lt_iff_toNat_lt.mp positive
  rcases hready'.collected with ⟨hzero, -⟩ | ⟨w, hstored, hindexes⟩
  · omega
  · refine ⟨_, s', hrun, ?_, h, a, g, v.verifiedSignatures, w, hready'.handler,
      hready'.guardians, ?_, ?_⟩
    · intro t ht
      rcases List.mem_cons.mp ht with rfl | hlater
      · trivial
      · exact hsubmits t hlater
    · exact approvalsAt_of_stored collisionFree
        (canonical_of_reachable (reachable.run hrun)) (Prod.ext rfl rfl)
        (programData_eq_some.mpr hstored)
    · rw [checkApprovals_eq_ok, hindexes, length_firstIndexes]
      refine ⟨⟨?_, enough, hlimit⟩, Nat.le_refl _⟩
      intro hnil
      have hlength := congrArg List.length hnil
      rw [length_firstIndexes, List.length_nil] at hlength
      omega

/-- A threshold that `update_guardian_threshold` has accepted can be reached by
signatures of all guardians exactly when it is at most the number of signatures
that `verify_signature` collects for a message hash. -/
theorem accepted_threshold_attainable_iff {verify : CheckedSignature → Bool}
    (collisionFree : CollisionFree rt) (distinct : rt.programId ≠ rt.ed25519Program)
    (rentFits : accountRent rt approvalsLen < 2 ^ 64) (reachable : LedgerReachable rt s)
    {call : Call Pubkey Hash} {returned : Option UInt64} {u : UpdateGuardianThreshold Pubkey}
    {threshold : UInt8} (ix : call.ix = .updateGuardianThreshold u threshold)
    (step : LedgerStep rt s (.call call returned) s')
    (empty : EmptyApprovals s' (rt.findProgramAddress
      (.verifiedSignatures u.bridgeHandler msgHash)).1)
    (signs : ∀ a g, GuardiansAt rt s'.programData u.bridgeHandler a g →
      GuardiansSign rt verify msgHash g) :
    Attainable rt verify s' u.bridgeHandler msgHash ↔
      threshold.toNat ≤ maxGuardianSignatures := by
  have hregistry : RegistryStep rt s.clock s.programData call returned s'.programData := by
    cases step with
    | call executed => exact (execute_refines executed).1
  obtain ⟨h, g, managed, checked, hpost⟩ := hregistry.of_updateGuardianThreshold ix
  have handler : HandlerAt rt s'.programData u.bridgeHandler
      { h with guardianThreshold := threshold } :=
    ⟨by rw [hpost, Function.update_self], managed.handler.address⟩
  have hne : u.guardianInfo ≠ u.bridgeHandler :=
    ne_of_contents managed.guardians.stored managed.handler.stored (by simp)
  have guardians : GuardiansAt rt s'.programData u.bridgeHandler u.guardianInfo g :=
    ⟨by rw [hpost, Function.update_of_ne hne, managed.guardians.stored],
      managed.guardians.address⟩
  exact ⟨limit_of_attainable handler, attainable_of_limit collisionFree distinct rentFits
    (reachable.next step) handler guardians checked.range.1 checked.attainable empty
    (signs _ g guardians)⟩

/-- The sample signatures consist of zeros. -/
def zeroSigned (signature : CheckedSignature) : Bool :=
  signature.signature = List.replicate 64 0

theorem guardiansSign_zero (msgHash : Digest) (g : GuardianInfo Key) :
    GuardiansSign (symbolicRuntime false) zeroSigned msgHash g := by
  intro key _
  refine ⟨{ pubkey := (symbolicRuntime false).pubkeyBytes key
            signature := Vector.replicate 64 0
            msg := (symbolicRuntime false).hashBytes msgHash }, rfl, rfl, ?_⟩
  simp [zeroSigned, checkedOf]

/-- A handler with eleven guardians. -/
def elevenGuardians : List (Call Key Digest) :=
  initializeBy (.atom 5) 7 1 (.atom 5) (.atom 6) ::
    (List.range 11).map fun n => addGuardianBy (.atom 5) (handlerKey 7) (.atom (20 + n))

theorem accepted_threshold_attainable_iff_sample :
    let rt := symbolicRuntime false
    let s := stateAfter rt sampleLedger elevenGuardians
    let s' := stateAfter rt s [updateThresholdBy (.atom 5) (handlerKey 7) 10]
    Attainable rt zeroSigned s' (handlerKey 7) sampleTransfer.msgHash ↔
      (10 : UInt8).toNat ≤ maxGuardianSignatures := by
  intro rt s s'
  have hreachable : LedgerReachable rt s :=
    ⟨sampleLedger, _, genesis_ledgerOf _, run_callTrace (by decide +kernel)⟩
  obtain ⟨returned, hstep⟩ := exists_step_of_executeAll rt s
    (updateThresholdBy (.atom 5) (handlerKey 7) 10) (by decide +kernel)
  have hstep' : LedgerStep rt s (.call _ returned) s' := hstep
  let u : UpdateGuardianThreshold Key :=
    { manager := .atom 5, bridgeHandler := handlerKey 7
      guardianInfo := guardiansKey (handlerKey 7) }
  have hix : (updateThresholdBy (.atom 5) (handlerKey 7) 10).ix =
      .updateGuardianThreshold u 10 := rfl
  have hempty : EmptyApprovals s' (rt.findProgramAddress
      (.verifiedSignatures u.bridgeHandler sampleTransfer.msgHash)).1 :=
    .inl (AccountData.isSystem_iff.mp (by decide +kernel))
  clear_value s'
  exact accepted_threshold_attainable_iff (symbolicRuntime_collisionFree false)
    (by decide) (by decide) hreachable hix hstep' hempty fun _ g _ => guardiansSign_zero _ g

/-- With eleven guardians threshold 11 is accepted, but no eleventh signature. -/
theorem threshold_eleven_unattainable :
    ¬ ∀ (s s' : State Key Digest) (call : Call Key Digest) (returned : Option UInt64)
        (u : UpdateGuardianThreshold Key) (threshold : UInt8)
        (verify : CheckedSignature → Bool) (msgHash : Digest),
      LedgerReachable (symbolicRuntime false) s →
      call.ix = .updateGuardianThreshold u threshold →
      LedgerStep (symbolicRuntime false) s (.call call returned) s' →
      EmptyApprovals s' (approvalsKey u.bridgeHandler msgHash) →
      (∀ g, GuardiansSign (symbolicRuntime false) verify msgHash g) →
      Attainable (symbolicRuntime false) verify s' u.bridgeHandler msgHash := by
  intro h
  let rt := symbolicRuntime false
  let s := stateAfter rt sampleLedger elevenGuardians
  let call := updateThresholdBy (.atom 5) (handlerKey 7) 11
  have hreachable : LedgerReachable rt s :=
    ⟨sampleLedger, _, genesis_ledgerOf _, run_callTrace (by decide +kernel)⟩
  obtain ⟨returned, hstep⟩ := exists_step_of_executeAll rt s call (by decide +kernel)
  have hempty : EmptyApprovals (stateAfter rt s [call])
      (approvalsKey (handlerKey 7) sampleTransfer.msgHash) :=
    .inl (AccountData.isSystem_iff.mp (by decide +kernel))
  obtain ⟨x, hhandler, hx⟩ := exists_handlerAt false (stateAfter rt s [call]) (handlerKey 7)
    (fun x => x.guardianThreshold = 11) (by decide +kernel)
  generalize stateAfter rt s [call] = s' at hstep hempty hhandler
  have hlimit := limit_of_attainable hhandler
    (h s s' call returned _ 11 zeroSigned _ hreachable rfl hstep hempty (guardiansSign_zero _))
  rw [of_decide_eq_true hx] at hlimit
  exact absurd hlimit (by decide)

end BridgeProgram.ThresholdAttainable
