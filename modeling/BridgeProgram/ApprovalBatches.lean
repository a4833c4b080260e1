import BridgeProgram.ThresholdAttainable

namespace BridgeProgram.ApprovalBatches

open BridgeProgram.AccountEffects
open BridgeProgram.AnchorAccounts
open BridgeProgram.BridgeProgramEntry
open BridgeProgram.ByteStrings
open BridgeProgram.CheckedResult
open BridgeProgram.Ed25519Instruction
open BridgeProgram.ProgramStates
open BridgeProgram.SignatureInstructions
open BridgeProgram.SignatureParser
open BridgeProgram.SignatureSoundness
open BridgeProgram.SolanaRuntime
open BridgeProgram.SymbolicRuntime
open BridgeProgram.ThresholdAttainable

variable {Pubkey Hash : Type}

/-- A `verify_signature` transaction without the accounts that all submissions for
a message hash share. -/
structure Submission (Pubkey : Type) where
  signers : List Pubkey
  operator : Pubkey
  ixSysvar : InstructionsSysvar Pubkey
  signerIndexes : List UInt8

/-- The accounts that all submissions share, and the message hash. -/
structure ApprovalTarget (Pubkey Hash : Type) where
  bridgeHandler : Pubkey
  guardianInfo : Pubkey
  verifiedSignatures : Pubkey
  msgHash : Hash

/-- The call that submits a batch. -/
def Submission.call (b : Submission Pubkey) (target : ApprovalTarget Pubkey Hash) :
    Call Pubkey Hash where
  signers := b.signers
  ixSysvar := b.ixSysvar
  ix := .verifySignature
    { operator := b.operator
      bridgeHandler := target.bridgeHandler
      guardianInfo := target.guardianInfo
      verifiedSignatures := target.verifiedSignatures } target.msgHash b.signerIndexes

/-- All positions of some submissions, in their order. -/
def allIndexes (batches : List (Submission Pubkey)) : List UInt8 :=
  batches.flatMap Submission.signerIndexes

/-- The `i`-th record names the bytes of a public key and of a message. -/
structure RecordNames (data : List UInt8) (i : ℕ) (pubkey msg : Vector UInt8 32) : Prop where
  pubkey : slice data (pubkeyStart data i) (pubkeyStart data i + pubkeySerializedSize) =
    some pubkey.toList
  msg : slice data (messageStart data i) (messageStart data i + messageDataSize) =
    some msg.toList

/-- The instruction before the call is an ed25519 instruction with as many records as
the batch has positions, and each record names the key of the guardian at its position
and the message hash. -/
def Submission.Matches (rt : Runtime Pubkey Hash) (g : GuardianInfo Pubkey) (msgHash : Hash)
    (b : Submission Pubkey) : Prop :=
  ∃ data, 0 < b.ixSysvar.currentIndex ∧
    b.ixSysvar.instructions[b.ixSysvar.currentIndex - 1]? =
      some { programId := rt.ed25519Program, accounts := [], data } ∧
    WellFormed data b.signerIndexes.length ∧
    ∀ i (h : i < b.signerIndexes.length), ∃ key,
      g.guardians[b.signerIndexes[i].toNat]? = some key ∧
        RecordNames data i (rt.pubkeyBytes key) (rt.hashBytes msgHash)

variable [DecidableEq Pubkey]

variable [DecidableEq Hash]

/-- Submissions one after the other, each at its own time. -/
def submitAll (rt : Runtime Pubkey Hash) (target : ApprovalTarget Pubkey Hash)
    (s : State Pubkey Hash) :
    List (Clock × Submission Pubkey) → Except ProgramError (State Pubkey Hash)
  | [] => .ok s
  | (clock, b) :: batches => do
      let (t, _) ← execute rt { s with clock } (b.call target)
      submitAll rt target t batches

omit [DecidableEq Hash] in
/-- The accounts that a submission reads are as they should be. -/
structure Submittable (rt : Runtime Pubkey Hash) (s : State Pubkey Hash)
    (target : ApprovalTarget Pubkey Hash) (g : GuardianInfo Pubkey) : Prop where
  handler : ∃ h, loadBridgeHandler rt s target.bridgeHandler = .ok h
  guardians : loadGuardianInfo rt s target.bridgeHandler target.guardianInfo = .ok g
  address : (rt.findProgramAddress
    (.verifiedSignatures target.bridgeHandler target.msgHash)).1 = target.verifiedSignatures
  rent : rt.minimumBalance approvalsLen ≤ s.lamports target.verifiedSignatures

/-- What the program checks of a batch when some positions are approved already. -/
structure BatchAccepted (rt : Runtime Pubkey Hash) (g : GuardianInfo Pubkey) (msgHash : Hash)
    (pubkeyIndex : List UInt8) (b : Submission Pubkey) : Prop where
  signed : b.operator ∈ b.signers
  selected : ∃ keys, SignersSelected g.guardians pubkeyIndex b.signerIndexes keys
  matching : b.Matches rt g msgHash

variable {rt : Runtime Pubkey Hash} {s s' : State Pubkey Hash}
  {target : ApprovalTarget Pubkey Hash} {g : GuardianInfo Pubkey} {v : VerifiedSignatures}
  {b : Submission Pubkey} {returned : Option UInt64}

/-- The approvals after a batch. -/
def appended (rt : Runtime Pubkey Hash) (target : ApprovalTarget Pubkey Hash) (clock : Clock)
    (v : VerifiedSignatures) (signerIndexes : List UInt8) : VerifiedSignatures where
  bump := (rt.findProgramAddress
    (.verifiedSignatures target.bridgeHandler target.msgHash)).2
  pubkeyIndex := v.pubkeyIndex ++ signerIndexes
  createdAt := clock.unixTimestamp

/-- The ledger with other approvals. -/
def withApprovals (s : State Pubkey Hash) (target : ApprovalTarget Pubkey Hash)
    (v : VerifiedSignatures) : State Pubkey Hash :=
  s.setData target.verifiedSignatures (.program (.verifiedSignatures v))

omit [DecidableEq Hash] in
theorem initIfNeeded_stored {payer a : Pubkey} {seeds : Seeds Pubkey Hash}
    {t : State Pubkey Hash} {w : VerifiedSignatures} {bump : UInt8}
    (stored : s.data a = .program (.verifiedSignatures v)) :
    initIfNeeded rt s payer seeds a ProgramData.verifiedSignatures?
        (.verifiedSignatures { bump := 0, pubkeyIndex := [], createdAt := 0 }) =
        .ok (t, w, bump) ↔
      (rt.findProgramAddress seeds).1 = a ∧ rt.minimumBalance approvalsLen ≤ s.lamports a ∧
        t = s ∧ w = v ∧ bump = (rt.findProgramAddress seeds).2 := by
  have hsystem : ¬ (s.data a).isSystem = true := by
    rw [stored]
    exact Bool.false_ne_true
  simp only [initIfNeeded, if_neg hsystem, bind_eq_ok, require_eq_ok, pure_eq_ok,
    loadAccount_eq_ok, Prod.mk.injEq]
  constructor
  · rintro ⟨-, haddress, _, rfl, _, ⟨d, hd, hread⟩, -, hrent, rfl, rfl, rfl⟩
    rw [stored] at hd
    obtain rfl := AccountData.program.inj hd
    exact ⟨haddress, hrent, rfl, (Option.some.inj hread).symm, rfl⟩
  · rintro ⟨haddress, hrent, rfl, rfl, rfl⟩
    exact ⟨(), haddress, t, rfl, w, ⟨_, stored, rfl⟩, (), hrent, rfl, rfl, rfl⟩

omit [DecidableEq Pubkey] in
theorem keys_unique {guardians keys keys' : List Pubkey} {signerIndexes : List UInt8}
    (h : List.Forall₂ (fun i k => guardians[i.toNat]? = some k) signerIndexes keys)
    (h' : List.Forall₂ (fun i k => guardians[i.toNat]? = some k) signerIndexes keys') :
    keys = keys' := by
  induction h generalizing keys' with
  | nil =>
      cases h'
      rfl
  | cons hi _ ih =>
      cases h' with
      | cons hi' hrest => rw [Option.some.inj (hi.symm.trans hi'), ih hrest]

omit [DecidableEq Hash] in
/-- The comparison of signers with signatures accepts exactly the instructions whose
bytes match the batch. -/
theorem matches_iff {msgHash : Hash} :
    b.Matches rt g msgHash ↔
      ∃ keys, List.Forall₂ (fun i k => g.guardians[i.toNat]? = some k) b.signerIndexes keys ∧
        verifyEd25519Ix rt b.ixSysvar keys (rt.hashBytes msgHash) = .ok () := by
  simp only [verifyEd25519Ix_iff, getPreviousInstruction, bind_eq_ok, require_eq_ok, okOr_eq_ok]
  constructor
  · rintro ⟨data, hindex, hprevious, wellFormed, names⟩
    obtain ⟨sigs, hload, hcount, hread⟩ := accepts_of_wellFormed wellFormed
    choose key hkey hnames using names
    refine ⟨List.ofFn fun i : Fin b.signerIndexes.length => key i i.isLt, ?_, data, sigs,
      ⟨(), hindex, hprevious⟩, hload, ?_⟩
    · refine List.forall₂_iff_get.mpr ⟨List.length_ofFn.symm, fun i h _ => ?_⟩
      simpa using hkey i h
    · refine List.forall₂_iff_get.mpr ⟨hcount.trans List.length_ofFn.symm, fun i h _ => ?_⟩
      have hread := hread i h
      have hnames := hnames i (hcount ▸ h)
      simp only [List.get_eq_getElem, List.getElem_ofFn]
      exact ⟨Vector.toList_inj.mp (Option.some.inj (hread.pubkey.symm.trans hnames.pubkey)),
        Vector.toList_inj.mp (Option.some.inj (hread.msg.symm.trans hnames.msg))⟩
  · rintro ⟨keys, hkeys, data, sigs, ⟨-, hindex, hprevious⟩, hload, hsigners⟩
    obtain ⟨wellFormed, hread⟩ := loadSignatures_eq_ok.mp hload
    obtain ⟨hlength, hkeys⟩ := List.forall₂_iff_get.mp hkeys
    obtain ⟨hcount, hsigners⟩ := List.forall₂_iff_get.mp hsigners
    refine ⟨data, hindex, hprevious, hlength ▸ hcount ▸ wellFormed, fun i h => ?_⟩
    obtain ⟨hpubkey, hmsg⟩ := hsigners i (by omega) (by omega)
    have hread := hread i (by omega)
    exact ⟨keys[i], hkeys i h (by omega), hpubkey ▸ hread.pubkey, hmsg ▸ hread.msg⟩

theorem execute_submission_iff
    (stored : s.data target.verifiedSignatures = .program (.verifiedSignatures v)) :
    execute rt s (b.call target) = .ok (s', returned) ↔
      ∃ g, Submittable rt s target g ∧ BatchAccepted rt g target.msgHash v.pubkeyIndex b ∧
        s' = withApprovals s target (appended rt target s.clock v b.signerIndexes) ∧
        returned = none := by
  simp only [execute, Submission.call, verifySignature, bind_eq_ok, pure_eq_ok, Prod.exists,
    Prod.mk.injEq, checkSigner_eq_ok, exitAccount_eq_ok, initIfNeeded_stored stored,
    selectSigners_eq_ok]
  constructor
  · rintro ⟨_, ⟨-, signed, h, handler, g, guardians, t, w, bump,
      ⟨address, rent, rfl, rfl, rfl⟩, keys, selected, _, hverify, -, rfl⟩, rfl, rfl⟩
    exact ⟨g, ⟨⟨h, handler⟩, guardians, address, rent⟩,
      ⟨signed, ⟨keys, selected⟩, matches_iff.mpr ⟨keys, selected.keys, hverify⟩⟩, rfl, rfl⟩
  · rintro ⟨g, ⟨⟨h, handler⟩, guardians, address, rent⟩,
      ⟨signed, ⟨keys, selected⟩, matching⟩, rfl, rfl⟩
    obtain ⟨keys', hkeys, hverify⟩ := matches_iff.mp matching
    obtain rfl := keys_unique selected.keys hkeys
    refine ⟨_, ⟨(), signed, h, handler, g, guardians, s, v, _, ⟨address, rent, rfl, rfl, rfl⟩,
      keys, selected, (), hverify, ?_, rfl⟩, rfl, rfl⟩
    have hlimit := selected.limit
    simp only [ProgramData.serializedLen, ProgramData.space, List.length_append]
    omega

omit [DecidableEq Hash] in
theorem Submittable.withApprovals (submittable : Submittable rt s target g)
    (stored : s.data target.verifiedSignatures = .program (.verifiedSignatures v))
    (w : VerifiedSignatures) :
    Submittable rt (withApprovals s target w) target g := by
  obtain ⟨h, hhandler⟩ := submittable.handler
  obtain ⟨hstored, haddress⟩ := loadBridgeHandler_eq_ok.mp hhandler
  obtain ⟨gstored, gaddress⟩ := loadGuardianInfo_eq_ok.mp submittable.guardians
  have hne : target.bridgeHandler ≠ target.verifiedSignatures :=
    ne_of_contents hstored stored (by simp)
  have gne : target.guardianInfo ≠ target.verifiedSignatures :=
    ne_of_contents gstored stored (by simp)
  exact
    { handler := ⟨h, loadBridgeHandler_eq_ok.mpr
        ⟨(Function.update_of_ne hne _ _).trans hstored, haddress⟩⟩
      guardians := loadGuardianInfo_eq_ok.mpr
        ⟨(Function.update_of_ne gne _ _).trans gstored, gaddress⟩
      address := submittable.address
      rent := submittable.rent }

omit [DecidableEq Hash] in
theorem Submittable.at_clock (submittable : Submittable rt s target g) (clock : Clock) :
    Submittable rt { s with clock } target g :=
  ⟨submittable.handler, submittable.guardians, submittable.address, submittable.rent⟩

/-- What the program checks of some batches, taken together. -/
structure AllAccepted (rt : Runtime Pubkey Hash) (g : GuardianInfo Pubkey) (msgHash : Hash)
    (pubkeyIndex : List UInt8) (batches : List (Submission Pubkey)) : Prop where
  each : ∀ b ∈ batches, b.operator ∈ b.signers ∧ b.signerIndexes ≠ [] ∧ b.Matches rt g msgHash
  fresh : ∀ i ∈ allIndexes batches, i ∉ pubkeyIndex
  nodup : (allIndexes batches).Nodup
  total : batches ≠ [] →
    pubkeyIndex.length + (allIndexes batches).length ≤ g.guardians.length
  limit : batches ≠ [] →
    pubkeyIndex.length + (allIndexes batches).length ≤ maxGuardianSignatures

omit [DecidableEq Hash] in
theorem allAccepted_cons {msgHash : Hash} {pubkeyIndex : List UInt8}
    {batches : List (Submission Pubkey)} :
    AllAccepted rt g msgHash pubkeyIndex (b :: batches) ↔
      BatchAccepted rt g msgHash pubkeyIndex b ∧
        AllAccepted rt g msgHash (pubkeyIndex ++ b.signerIndexes) batches := by
  have hall : allIndexes (b :: batches) = b.signerIndexes ++ allIndexes batches :=
    List.flatMap_cons
  constructor
  · rintro ⟨each, fresh, nodup, total, limit⟩
    rw [hall] at fresh nodup total limit
    obtain ⟨⟨signed, nonempty, matching⟩, heach⟩ := List.forall_mem_cons.mp each
    obtain ⟨keys, hkeys, -⟩ := matches_iff.mp matching
    obtain ⟨hnodup, hnodups, hdisjoint⟩ := List.nodup_append.mp nodup
    have htotal := total (List.cons_ne_nil _ _)
    have hlimit := limit (List.cons_ne_nil _ _)
    rw [List.length_append] at htotal hlimit
    refine ⟨⟨signed, ⟨keys, ?_⟩, matching⟩, heach, ?_, hnodups, ?_, ?_⟩
    · exact
        { nonempty
          count := by omega
          fresh := fun i hi => fresh i (List.mem_append_left _ hi)
          nodup := hnodup
          total := by omega
          limit := by omega
          keys := hkeys }
    · intro i hi hmem
      rcases List.mem_append.mp hmem with hold | hnew
      · exact fresh i (List.mem_append_right _ hi) hold
      · exact hdisjoint i hnew i hi rfl
    · intro _
      rw [List.length_append]
      omega
    · intro _
      rw [List.length_append]
      omega
  · rintro ⟨⟨signed, ⟨keys, selected⟩, matching⟩, ⟨each, fresh, nodup, total, limit⟩⟩
    have hlengths : pubkeyIndex.length + (b.signerIndexes ++ allIndexes batches).length ≤
          g.guardians.length ∧
        pubkeyIndex.length + (b.signerIndexes ++ allIndexes batches).length ≤
          maxGuardianSignatures := by
      by_cases hnil : batches = []
      · subst hnil
        rw [show allIndexes ([] : List (Submission Pubkey)) = [] from rfl, List.append_nil]
        exact ⟨selected.total, selected.limit⟩
      · have htotal := total hnil
        have hlimit := limit hnil
        simp only [List.length_append] at htotal hlimit ⊢
        omega
    refine ⟨List.forall_mem_cons.mpr ⟨⟨signed, selected.nonempty, matching⟩, each⟩, ?_, ?_, ?_,
      ?_⟩
    · rw [hall]
      intro i hi
      rcases List.mem_append.mp hi with hfirst | hrest
      · exact selected.fresh i hfirst
      · exact fun hold => fresh i hrest (List.mem_append_left _ hold)
    · rw [hall, List.nodup_append]
      refine ⟨selected.nodup, nodup, ?_⟩
      rintro i hi _ hj rfl
      exact fresh i hj (List.mem_append_right _ hi)
    · exact fun _ => by rw [hall]; exact hlengths.1
    · exact fun _ => by rw [hall]; exact hlengths.2

omit [DecidableEq Pubkey] [DecidableEq Hash] in
theorem AllAccepted.perm {msgHash : Hash} {pubkeyIndex : List UInt8}
    {batches batches' : List (Submission Pubkey)}
    (accepted : AllAccepted rt g msgHash pubkeyIndex batches) (perm : batches'.Perm batches) :
    AllAccepted rt g msgHash pubkeyIndex batches' := by
  have hindexes : (allIndexes batches').Perm (allIndexes batches) := perm.flatMap_right _
  have hnil : batches' ≠ [] → batches ≠ [] := by
    rintro hne rfl
    exact hne perm.eq_nil
  exact
    { each := fun b hb => accepted.each b (perm.mem_iff.mp hb)
      fresh := fun i hi => accepted.fresh i (hindexes.mem_iff.mp hi)
      nodup := hindexes.nodup_iff.mpr accepted.nodup
      total := fun hne => by
        rw [hindexes.length_eq]
        exact accepted.total (hnil hne)
      limit := fun hne => by
        rw [hindexes.length_eq]
        exact accepted.limit (hnil hne) }

/-- Batches are accepted one after the other exactly when they are together, and
all positions are appended. -/
theorem submitAll_iff (batches : List (Clock × Submission Pubkey))
    (submittable : Submittable rt s target g)
    (stored : s.data target.verifiedSignatures = .program (.verifiedSignatures v)) :
    (AllAccepted rt g target.msgHash v.pubkeyIndex (batches.map Prod.snd) ↔
      ∃ s', submitAll rt target s batches = .ok s') ∧
    ∀ s', submitAll rt target s batches = .ok s' → ∃ v',
      s'.data target.verifiedSignatures = .program (.verifiedSignatures v') ∧
      v'.pubkeyIndex = v.pubkeyIndex ++ allIndexes (batches.map Prod.snd) := by
  induction batches generalizing s v with
  | nil =>
      refine ⟨⟨fun _ => ⟨s, rfl⟩, fun _ => ⟨by simp, by simp [allIndexes], by simp [allIndexes],
        by simp, by simp⟩⟩, ?_⟩
      intro s' h
      obtain rfl := Except.ok.inj h
      exact ⟨v, stored, (List.append_nil _).symm⟩
  | cons entry batches ih =>
      obtain ⟨clock, b⟩ := entry
      obtain ⟨haccept, hcollect⟩ :=
        ih ((submittable.at_clock clock).withApprovals stored
          (appended rt target clock v b.signerIndexes)) (Function.update_self ..)
      have hstep : ∀ s' : State Pubkey Hash, submitAll rt target s ((clock, b) :: batches) =
          .ok s' ↔ BatchAccepted rt g target.msgHash v.pubkeyIndex b ∧
            submitAll rt target (withApprovals { s with clock } target
              (appended rt target clock v b.signerIndexes)) batches = .ok s' := by
        intro s'
        simp only [submitAll, bind_eq_ok, Prod.exists]
        constructor
        · rintro ⟨t, returned, hexecute, hrest⟩
          obtain ⟨g', hg', haccepted, rfl, -⟩ :=
            (execute_submission_iff (s := { s with clock }) stored).mp hexecute
          obtain rfl := Except.ok.inj (hg'.guardians.symm.trans submittable.guardians)
          exact ⟨haccepted, hrest⟩
        · rintro ⟨haccepted, hrest⟩
          exact ⟨_, none, (execute_submission_iff (s := { s with clock }) stored).mpr
            ⟨g, submittable.at_clock clock, haccepted, rfl, rfl⟩, hrest⟩
      constructor
      · rw [List.map_cons, allAccepted_cons]
        simp only [hstep, exists_and_left]
        exact and_congr_right fun _ => haccept
      · intro s' h
        obtain ⟨v', hstored, hindexes⟩ := hcollect s' ((hstep s').mp h).2
        refine ⟨v', hstored, ?_⟩
        rw [hindexes, appended, List.append_assoc, List.map_cons, allIndexes, allIndexes,
          List.flatMap_cons]

/-- The approvals are the given positions, without duplicates and no more than can
count. -/
def EndsWith (s : State Pubkey Hash) (target : ApprovalTarget Pubkey Hash)
    (g : GuardianInfo Pubkey) (indexes : List UInt8) : Prop :=
  ∃ v, s.data target.verifiedSignatures = .program (.verifiedSignatures v) ∧
    v.pubkeyIndex.Nodup ∧
    v.pubkeyIndex.length ≤ min g.guardians.length maxGuardianSignatures ∧
    ∀ i, i ∈ v.pubkeyIndex ↔ i ∈ indexes

theorem endsWith_of_submitAll {batches : List (Clock × Submission Pubkey)}
    (submittable : Submittable rt s target g)
    (stored : s.data target.verifiedSignatures = .program (.verifiedSignatures v))
    (nodup : v.pubkeyIndex.Nodup) (nonempty : batches ≠ [])
    (succeeded : submitAll rt target s batches = .ok s') :
    EndsWith s' target g (v.pubkeyIndex ++ allIndexes (batches.map Prod.snd)) := by
  obtain ⟨haccept, hcollect⟩ := submitAll_iff batches submittable stored
  obtain ⟨-, fresh, hnodup, total, limit⟩ := haccept.mpr ⟨s', succeeded⟩
  obtain ⟨v', hstored, hindexes⟩ := hcollect s' succeeded
  have hne : batches.map Prod.snd ≠ [] := by simpa using nonempty
  refine ⟨v', hstored, ?_, ?_, fun i => by rw [hindexes]⟩
  · rw [hindexes, List.nodup_append]
    refine ⟨nodup, hnodup, ?_⟩
    rintro i hold _ hnew rfl
    exact fresh i hnew hold
  · rw [hindexes, List.length_append]
    exact le_min (total hne) (limit hne)

theorem submittable_of_submitAll (stored : s.data target.verifiedSignatures =
      .program (.verifiedSignatures v)) {batches : List (Clock × Submission Pubkey)}
    (nonempty : batches ≠ []) (succeeded : submitAll rt target s batches = .ok s') :
    ∃ g, Submittable rt s target g := by
  obtain ⟨⟨clock, b⟩, rest, rfl⟩ := List.exists_cons_of_ne_nil nonempty
  simp only [submitAll, bind_eq_ok, Prod.exists] at succeeded
  obtain ⟨t, returned, hexecute, -⟩ := succeeded
  obtain ⟨g, submittable, -⟩ := (execute_submission_iff (s := { s with clock }) stored).mp hexecute
  exact ⟨g, submittable.at_clock s.clock⟩

/-- When some batches are accepted one after the other, so are they in every other
order and all in one call, at whatever times, with the same positions approved. -/
theorem batches_commute (stored : s.data target.verifiedSignatures =
      .program (.verifiedSignatures v)) (nodup : v.pubkeyIndex.Nodup)
    {batches : List (Clock × Submission Pubkey)} (nonempty : batches ≠ [])
    (succeeded : submitAll rt target s batches = .ok s') :
    ∃ g, loadGuardianInfo rt s target.bridgeHandler target.guardianInfo = .ok g ∧
      EndsWith s' target g (v.pubkeyIndex ++ allIndexes (batches.map Prod.snd)) ∧
      (∀ batches' : List (Clock × Submission Pubkey),
        (batches'.map Prod.snd).Perm (batches.map Prod.snd) →
          ∃ s'', submitAll rt target s batches' = .ok s'' ∧
            EndsWith s'' target g (v.pubkeyIndex ++ allIndexes (batches.map Prod.snd))) ∧
      ∀ (clock : Clock) (whole : Submission Pubkey), whole.operator ∈ whole.signers →
        whole.signerIndexes = allIndexes (batches.map Prod.snd) →
        whole.Matches rt g target.msgHash →
          ∃ s'', execute rt { s with clock } (whole.call target) = .ok (s'', none) ∧
            EndsWith s'' target g (v.pubkeyIndex ++ allIndexes (batches.map Prod.snd)) := by
  obtain ⟨g, submittable⟩ := submittable_of_submitAll stored nonempty succeeded
  have haccepted := (submitAll_iff batches submittable stored).1.mpr ⟨s', succeeded⟩
  refine ⟨g, submittable.guardians,
    endsWith_of_submitAll submittable stored nodup nonempty succeeded, ?_, ?_⟩
  · intro batches' perm
    have hne : batches' ≠ [] := by
      rintro rfl
      exact nonempty (by simpa using perm.symm.eq_nil)
    obtain ⟨s'', hsucceeded⟩ :=
      (submitAll_iff batches' submittable stored).1.mp (haccepted.perm perm)
    obtain ⟨w, hstored, hnodup, hlength, hmem⟩ :=
      endsWith_of_submitAll submittable stored nodup hne hsucceeded
    refine ⟨s'', hsucceeded, w, hstored, hnodup, hlength, fun i => ?_⟩
    rw [hmem, List.mem_append, List.mem_append, allIndexes, allIndexes,
      (perm.flatMap_right _).mem_iff]
  · intro clock whole signed hindexes matching
    obtain ⟨b, hb⟩ := List.exists_mem_of_ne_nil _ nonempty
    have hwhole : AllAccepted rt g target.msgHash v.pubkeyIndex [whole] := by
      have hall : allIndexes [whole] = allIndexes (batches.map Prod.snd) := by
        rw [allIndexes, List.flatMap_singleton, hindexes]
      have hne : batches.map Prod.snd ≠ [] := by simpa using nonempty
      refine ⟨?_, by rw [hall]; exact haccepted.fresh, by rw [hall]; exact haccepted.nodup,
        fun _ => by rw [hall]; exact haccepted.total hne,
        fun _ => by rw [hall]; exact haccepted.limit hne⟩
      intro x hx
      rw [List.mem_singleton.mp hx]
      refine ⟨signed, ?_, matching⟩
      -- every batch has a position, so the concatenation has one
      obtain ⟨-, hnonempty, -⟩ := haccepted.each b.2 (List.mem_map_of_mem hb)
      obtain ⟨i, hi⟩ := List.exists_mem_of_ne_nil _ hnonempty
      rw [hindexes]
      exact List.ne_nil_of_mem (List.mem_flatMap.mpr ⟨b.2, List.mem_map_of_mem hb, hi⟩)
    obtain ⟨haccept, -⟩ := allAccepted_cons.mp hwhole
    obtain ⟨s'', hexecute⟩ : ∃ s'', execute rt { s with clock } (whole.call target) =
        .ok (s'', none) :=
      ⟨_, (execute_submission_iff (s := { s with clock }) stored).mpr
        ⟨g, submittable.at_clock clock, haccept, rfl, rfl⟩⟩
    have hsubmit : submitAll rt target s [(clock, whole)] = .ok s'' := by
      simp only [submitAll, bind_eq_ok, Prod.exists]
      exact ⟨s'', none, hexecute, rfl⟩
    obtain ⟨w, hstored, hnodup, hlength, hmem⟩ :=
      endsWith_of_submitAll submittable stored nodup (List.cons_ne_nil _ _) hsubmit
    refine ⟨s'', hexecute, w, hstored, hnodup, hlength, fun i => ?_⟩
    rw [hmem, List.map_singleton, allIndexes, List.flatMap_singleton, hindexes]

/-- A handler with three guardians, one of whom has approved the sample transfer. -/
def threeGuardians : List (Call Key Digest) :=
  [ initializeBy (.atom 5) 7 2 (.atom 5) (.atom 6),
    addGuardianBy (.atom 5) (handlerKey 7) (.atom 11),
    addGuardianBy (.atom 5) (handlerKey 7) (.atom 12),
    addGuardianBy (.atom 5) (handlerKey 7) (.atom 13),
    verifyBy (.atom 6) (handlerKey 7) sampleTransfer.msgHash [0] [.atom 11] ]

def sampleTarget : ApprovalTarget Key Digest where
  bridgeHandler := handlerKey 7
  guardianInfo := guardiansKey (handlerKey 7)
  verifiedSignatures := approvalsKey (handlerKey 7) sampleTransfer.msgHash
  msgHash := sampleTransfer.msgHash

/-- Signatures of further guardians. -/
def sampleSubmission (operator : Key) (signerIndexes : List UInt8) (keys : List Key) :
    Clock × Submission Key :=
  ({ epoch := 0, unixTimestamp := 100 },
    { signers := [operator]
      operator
      ixSysvar :=
        (verifyBy operator (handlerKey 7) sampleTransfer.msgHash signerIndexes keys).ixSysvar
      signerIndexes })

theorem batches_commute_sample :
    let rt := symbolicRuntime false
    let s := stateAfter rt sampleLedger threeGuardians
    let whole := sampleSubmission (.atom 6) [1, 2] [.atom 12, .atom 13]
    ∃ g s'' u, submitAll rt sampleTarget s [sampleSubmission (.atom 5) [2] [.atom 13],
        sampleSubmission (.atom 6) [1] [.atom 12]] = .ok s'' ∧
      EndsWith s'' sampleTarget g [0, 1, 2] ∧ whole.2.Matches rt g sampleTarget.msgHash ∧
      execute rt { s with clock := whole.1 } (whole.2.call sampleTarget) = .ok (u, none) ∧
      EndsWith u sampleTarget g [0, 1, 2] := by
  intro rt s whole
  have hstored : s.data sampleTarget.verifiedSignatures = .program
      (.verifiedSignatures { bump := 255, pubkeyIndex := [0], createdAt := 0 }) := by
    decide +kernel
  have hguardians : s.data sampleTarget.guardianInfo = .program
      (.guardianInfo { bump := 255, guardians := [.atom 11, .atom 12, .atom 13] }) := by
    decide +kernel
  have hok : (submitAll rt sampleTarget s [sampleSubmission (.atom 6) [1] [.atom 12],
      sampleSubmission (.atom 5) [2] [.atom 13]]).isOk = true := by
    decide +kernel
  have hverify : verifyEd25519Ix rt whole.2.ixSysvar [.atom 12, .atom 13]
      (rt.hashBytes sampleTarget.msgHash) = .ok () := by
    decide +kernel
  obtain ⟨s', hsucceeded⟩ := exists_of_isOk hok
  clear_value s
  obtain ⟨g, hload, -, hperm, hwhole⟩ := batches_commute hstored (List.nodup_singleton _)
    (List.cons_ne_nil _ _) hsucceeded
  obtain rfl := ProgramData.guardianInfo.inj (AccountData.program.inj
    ((loadGuardianInfo_eq_ok.mp hload).1.symm.trans hguardians))
  have matching : whole.2.Matches rt { bump := 255, guardians := [.atom 11, .atom 12, .atom 13] }
      sampleTarget.msgHash :=
    matches_iff.mpr ⟨_, .cons rfl (.cons rfl .nil), hverify⟩
  obtain ⟨s'', hsucceeded', hends⟩ := hperm
    [sampleSubmission (.atom 5) [2] [.atom 13], sampleSubmission (.atom 6) [1] [.atom 12]]
    (List.Perm.swap _ _ _)
  obtain ⟨u, hexecuted, hends'⟩ :=
    hwhole whole.1 whole.2 (List.mem_singleton_self _) rfl matching
  exact ⟨_, s'', u, hsucceeded', hends, matching, hexecuted, hends'⟩

end BridgeProgram.ApprovalBatches
