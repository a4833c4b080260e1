import BridgeProgram.ApprovalSoundness
import BridgeProgram.PayoutMessages
import BridgeProgram.Transactions

namespace BridgeProgram.SignedPayouts

open BridgeProgram.ApprovalSoundness
open BridgeProgram.BridgeProgramEntry
open BridgeProgram.CheckedResult
open BridgeProgram.Ed25519Instruction
open BridgeProgram.LedgerInvariants
open BridgeProgram.ListPositions
open BridgeProgram.PayoutMessages
open BridgeProgram.ProgramStates
open BridgeProgram.RegistryModel
open BridgeProgram.RegistryRefinement
open BridgeProgram.SignatureSoundness
open BridgeProgram.SolanaRuntime
open BridgeProgram.SymbolicRuntime
open BridgeProgram.Transactions
open BridgeProgram.TransitionRuns

variable {Pubkey Hash : Type}

/-- The records of the ed25519 instructions name the data of their own instructions. -/
def OwnRecords (rt : Runtime Pubkey Hash) (instructions : List (TxInstruction Pubkey)) : Prop :=
  ∀ ix ∈ instructions, ix.programId = rt.ed25519Program →
    ∀ records, offsetRecords ix.data = some records → ∀ offsets ∈ records,
      instructionData instructions ix.data offsets.publicKeyInstructionIndex = some ix.data ∧
      instructionData instructions ix.data offsets.messageInstructionIndex = some ix.data

/-- A transaction carries a valid signature of a key over a message. -/
def CarriesSignature (rt : Runtime Pubkey Hash) (C : Surroundings Pubkey Hash)
    (tx : Transaction Pubkey) (message : Vector UInt8 32) (k : Pubkey) : Prop :=
  ∃ signature, PrecompileChecked rt tx.instructions signature ∧ C.verify signature = true ∧
    signature.pubkey = (rt.pubkeyBytes k).toList ∧ signature.msg = message.toList

/-- One of the calls made so far belongs to a transaction with such a signature. -/
def SignedBefore (rt : Runtime Pubkey Hash) (entry : Entry Pubkey Hash)
    (C : Surroundings Pubkey Hash) (txs : List (Transaction Pubkey))
    (before : List (LedgerTransition Pubkey Hash)) (message : Vector UInt8 32) (k : Pubkey) :
    Prop :=
  ∃ tx ∈ txs, CarriesSignature rt C tx message k ∧ ∃ t ∈ before, ∃ call returned,
    t.label = .call call returned ∧ CarriedBy rt entry tx call

variable [DecidableEq Pubkey] {rt : Runtime Pubkey Hash} {entry : Entry Pubkey Hash}
  {C : Surroundings Pubkey Hash} {txs : List (Transaction Pubkey)}
  {message : Vector UInt8 32} {k : Pubkey}

theorem previous_of_verified {ixSysvar : InstructionsSysvar Pubkey} {signers : List Pubkey}
    (verified : verifyEd25519Ix rt ixSysvar signers message = .ok ()) :
    ∃ ix, getPreviousInstruction ixSysvar = .ok ix := by
  simp only [verifyEd25519Ix, bind_eq_ok] at verified
  obtain ⟨ix, hix, -⟩ := verified
  exact ⟨ix, hix⟩

theorem carriesSignature_of_verified {tx : Transaction Pubkey}
    (accepts : PrecompileAccepts rt C.verify tx.instructions)
    (own : OwnRecords rt tx.instructions) {ixSysvar : InstructionsSysvar Pubkey}
    (current : ixSysvar.instructions = tx.instructions) {signers : List Pubkey}
    (verified : verifyEd25519Ix rt ixSysvar signers message = .ok ()) (signer : k ∈ signers) :
    CarriesSignature rt C tx message k := by
  obtain ⟨ix, previous⟩ := previous_of_verified verified
  obtain ⟨hix, hprogram, sigs, hsigs, hsigners⟩ := verifyEd25519Ix_eq_ok verified previous
  obtain ⟨records, hrecords, hown⟩ := records_of_loadSignatures hsigs
  have haccepts : PrecompileAccepts rt C.verify ixSysvar.instructions := by rwa [current]
  have hconfirmed : RecordsConfirmed rt ixSysvar.instructions ix.data := by
    refine recordsConfirmed_of_own haccepts hix hprogram ?_
    rw [current] at hix ⊢
    exact own ix hix hprogram
  obtain ⟨sig, hsig, hpubkey, hmsg⟩ := exists_left_of_mem hsigners signer
  obtain ⟨offsets, hoffsets, hslices⟩ := exists_left_of_mem hown hsig
  obtain ⟨signature, hchecked, hkey, hmessage⟩ :=
    hconfirmed records hrecords offsets hoffsets _ _ hslices
  refine ⟨signature, current ▸ hchecked, verified_of_precompileChecked haccepts hchecked,
    ?_, ?_⟩
  · rw [hkey, hpubkey]
  · rw [hmessage, hmsg]

variable [DecidableEq Hash]

theorem signedBefore_of_acceptedKeys (apart : rt.programId ≠ rt.ed25519Program)
    (own : ∀ tx ∈ txs, OwnRecords rt tx.instructions) {s₀ : State Pubkey Hash}
    {before after : List (LedgerTransition Pubkey Hash)}
    (split : (process rt entry C s₀ txs).1 = before ++ after)
    {t : LedgerTransition Pubkey Hash} (mem : t ∈ before) {bridgeHandler : Pubkey}
    {msgHash : Hash} (accepted : k ∈ acceptedKeys bridgeHandler msgHash t) :
    SignedBefore rt entry C txs before (rt.hashBytes msgHash) k := by
  obtain ⟨hrun, hcalls⟩ := histories_are_ledger_runs entry C apart s₀ txs
  rw [split] at hrun hcalls
  have hmem : t ∈ before ++ after := List.mem_append_left _ mem
  obtain ⟨call, returned, hlabel, hverified⟩ :=
    verified_of_acceptedKeys (hrun.step_of_mem hmem) accepted
  obtain ⟨tx, htx, haccepts, hcarried⟩ := hcalls t hmem call returned hlabel
  exact ⟨tx, htx, carriesSignature_of_verified haccepts (own tx htx) hcarried.instructions
    hverified accepted, t, mem, call, returned, hlabel, hcarried⟩

/-- In a history of transactions whose ed25519 instructions name their own data, and whose
removals of guardians stand behind the positions stored for a message hash, each payout of
the handler under that hash rests on earlier calls, whose transactions carry valid signatures
of enough distinct current guardians, all over the digest of exactly the transfer that is
paid. -/
theorem payouts_are_signed (collisionFree : CollisionFree rt)
    (apart : rt.programId ≠ rt.ed25519Program) {s₀ : State Pubkey Hash} (genesis : Genesis s₀)
    (own : ∀ tx ∈ txs, OwnRecords rt tx.instructions) {bridgeHandler : Pubkey} {msgHash : Hash}
    (removes : ∀ t ∈ (process rt entry C s₀ txs).1,
      RemovesBehindApprovals rt bridgeHandler msgHash t) :
    ∀ before t after, (process rt entry C s₀ txs).1 = before ++ t :: after →
      ∀ call returned p f, t.label = .call call returned → payout? call.ix = some p →
        payoutFields? call.ix = some f → p.bridgeHandler = bridgeHandler →
        p.msgHash = msgHash →
        ∀ h a g, HandlerAt rt t.pre.programData bridgeHandler h →
          GuardiansAt rt t.pre.programData bridgeHandler a g →
          ∃ keys : List Pubkey, keys.Nodup ∧ h.guardianThreshold.toNat ≤ keys.length ∧
            ∀ k ∈ keys, k ∈ g.guardians ∧
              SignedBefore rt entry C txs before
                (rt.hashBytes (rt.hash (f.map rt.pubkeyBytes).messageData)) k := by
  rintro before t after htrace call returned p f hlabel kind fields rfl rfl h a g handler
    guardians
  have hrun := (histories_are_ledger_runs entry C apart s₀ txs).1
  rw [htrace] at hrun removes
  obtain ⟨hbefore, hstep, -⟩ := hrun.split_at
  have hreachable₀ : LedgerReachable rt s₀ := ⟨s₀, [], genesis, .nil s₀⟩
  have hfresh : ∀ b v, ¬ ApprovalsAt rt s₀.programData p.bridgeHandler p.msgHash b v := by
    intro b v approvals
    have hstored := approvals.stored
    rw [genesis b] at hstored
    cases hstored
  have hbacked := approvalsBacked_run collisionFree hreachable₀
    (approvalsBacked_of_none hfresh) hbefore
    fun u hu => removes u (List.mem_append_left _ hu)
  have hpays : Pays p t.label := ⟨call, returned, hlabel, kind⟩
  obtain ⟨keys, hnodup, hlength, hkeys⟩ := enoughApprovals_of_backed collisionFree
    (hreachable₀.run hbefore) hstep hpays hbacked h a g handler guardians
  -- the digest that was signed is that of the fields that are paid
  have hmessage : rt.hash (f.map rt.pubkeyBytes).messageData = p.msgHash := by
    rw [hlabel] at hstep
    cases hstep with
    | call executed =>
        exact hash_of_messageMatches kind fields (messageMatches_of_executed kind executed)
  refine ⟨keys, hnodup, hlength, fun k hk => ?_⟩
  obtain ⟨hmem, u, hu, haccepted⟩ := hkeys k hk
  refine ⟨hmem, ?_⟩
  rw [hmessage]
  exact signedBefore_of_acceptedKeys apart own htrace hu haccepted

/-- An entry for the sample runs: the data is the position of an instruction in a list. -/
def tableEntry (calls : List (Call Key Digest)) : Entry Key Digest := fun _ data =>
  okOr (data.head?.bind fun i => calls[i.toNat]?.map Call.ix) .instructionMissing

/-- The transaction of a call in a list. -/
def tableTransaction (i : ℕ) (call : Call Key Digest) : Transaction Key where
  signers := call.signers
  instructions := call.ixSysvar.instructions.map fun ix =>
    if ix.programId = .atom 1001 then { ix with data := [UInt8.ofNat i] } else ix

/-- Two guardians approve, the third is removed, and the payout is made. -/
def payoutByTwo : List (Call Key Digest) :=
  approvalByTwo ++ [paySolBy (.atom 6) (handlerKey 7) sampleTransfer]

def payoutHistory : List (Transaction Key) :=
  payoutByTwo.zipIdx.map fun x => tableTransaction x.2 x.1

/-- The signatures of the two guardians. -/
def guardianSurroundings : Surroundings Key Digest :=
  quietSurroundings Key Digest fun signature => madeBy 11 signature || madeBy 12 signature

def sampleFields : PayoutFields Key :=
  .sol (.atom 20) (.atom 21) 5000000 0 (Vector.replicate 64 9)

/-- The transitions that pay out the sample transfer. -/
def paysSample (t : LedgerTransition Key Digest) : Bool :=
  match t.label with
  | .call call _ => payoutFields? call.ix = some sampleFields && (payout? call.ix).any fun p =>
      p.bridgeHandler = handlerKey 7 ∧ p.msgHash = sampleTransfer.msgHash
  | .other => false

theorem ownRecords_of_all {instructions : List (TxInstruction Key)}
    (h : instructions.all (fun ix => (offsetRecords ix.data).all fun records =>
      records.all fun offsets =>
        instructionData instructions ix.data offsets.publicKeyInstructionIndex = some ix.data ∧
        instructionData instructions ix.data offsets.messageInstructionIndex = some ix.data) =
      true) : OwnRecords (symbolicRuntime true) instructions := by
  intro ix hix _ records hrecords offsets hoffsets
  have hall := List.all_eq_true.mp h ix hix
  rw [hrecords, Option.all_some] at hall
  exact of_decide_eq_true (List.all_eq_true.mp hall offsets hoffsets)

theorem payouts_are_signed_sample :
    let history := process (symbolicRuntime true) (tableEntry payoutByTwo)
      guardianSurroundings sampleLedger payoutHistory
    ∃ before t after, history.1 = before ++ t :: after ∧ paysSample t = true ∧
      ∀ h a g, HandlerAt (symbolicRuntime true) t.pre.programData (handlerKey 7) h →
        GuardiansAt (symbolicRuntime true) t.pre.programData (handlerKey 7) a g →
        ∃ keys : List Key, keys.Nodup ∧ h.guardianThreshold.toNat ≤ keys.length ∧
          ∀ k ∈ keys, k ∈ g.guardians ∧
            SignedBefore (symbolicRuntime true) (tableEntry payoutByTwo) guardianSurroundings
              payoutHistory before ((symbolicRuntime true).hashBytes sampleTransfer.msgHash) k := by
  intro history
  have hpaid : history.1.any paysSample = true := by decide +kernel
  have hchecked : ∀ t ∈ history.1,
      removesBehind (handlerKey 7) sampleTransfer.msgHash t = true := by
    decide +kernel
  have hown : ∀ tx ∈ payoutHistory, OwnRecords (symbolicRuntime true) tx.instructions := by
    intro tx htx
    apply ownRecords_of_all
    revert tx
    decide +kernel
  have hrun : LedgerRun (symbolicRuntime true) sampleLedger history.1 history.2 :=
    (histories_are_ledger_runs _ _ (by decide) sampleLedger payoutHistory).1
  obtain ⟨t, ht, hpays⟩ := List.any_eq_true.mp hpaid
  obtain ⟨before, after, htrace⟩ := List.append_of_mem ht
  refine ⟨before, t, after, htrace, hpays, ?_⟩
  unfold paysSample at hpays
  split at hpays
  next call returned hlabel =>
    obtain ⟨hfields, hcall⟩ := Bool.and_eq_true_iff.mp hpays
    obtain ⟨p, hp, hmatch⟩ := (Option.any_eq_true _ _).mp hcall
    obtain ⟨hhandler, hhash⟩ := of_decide_eq_true hmatch
    refine payouts_are_signed (symbolicRuntime_collisionFree true) (by decide)
      (genesis_ledgerOf _) hown ?_ before t after htrace call returned p sampleFields hlabel
      hp (of_decide_eq_true hfields) hhandler hhash
    intro u hu
    exact removesBehindApprovals_of_check (reachable_of_mem (genesis_ledgerOf _) hrun hu)
      (hchecked u hu)
  next => cases hpays

end BridgeProgram.SignedPayouts
