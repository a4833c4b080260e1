import BridgeProgram.AccountBytes
import BridgeProgram.LedgerInvariants
import BridgeProgram.RunProjections

/-!
The ledger as the chain keeps it, with the accounts of the program as memory. A call
reads the accounts from their bytes and writes them back in place, into memory that was
zeroed when the account was created. Over any run this is the ledger of values.
-/

namespace BridgeProgram.RawLedger

open BridgeProgram.AccountBytes
open BridgeProgram.AccountNamespaces
open BridgeProgram.BorshCodecs
open BridgeProgram.BorshCodecs.Codec
open BridgeProgram.BridgeProgramEntry
open BridgeProgram.LedgerInvariants
open BridgeProgram.ProgramStates
open BridgeProgram.RegistryCells
open BridgeProgram.RegistryModel
open BridgeProgram.RunProjections
open BridgeProgram.SignatureInstructions
open BridgeProgram.SolanaRuntime
open BridgeProgram.TransitionRuns

/-- An account of the program, or any other one. -/
inductive RawData (Pubkey Hash : Type)
  | owned (memory : List UInt8)
  | other (d : {d : AccountData Pubkey Hash // d.program? = none})

structure RawState (Pubkey Hash : Type) where
  lamports : Pubkey → Nat
  data : Pubkey → RawData Pubkey Hash
  clock : Clock

variable {Pubkey Hash : Type} {rt : Runtime Pubkey Hash}

/-- What the bytes of an account say. -/
def RawData.view (F : KeyFormat rt) : RawData Pubkey Hash → AccountData Pubkey Hash
  | .owned memory =>
      match (account F).decode memory with
      | some (d, _) => .program d
      | none => .foreign rt.programId
  | .other d => d.val

def RawState.view (F : KeyFormat rt) (s : RawState Pubkey Hash) : State Pubkey Hash where
  lamports := s.lamports
  data a := (s.data a).view F
  clock := s.clock

/-- The memory that an account has when contents `d` are stored in it. -/
def RawData.memory (d : ProgramData Pubkey Hash) : RawData Pubkey Hash → List UInt8
  | .owned memory => memory
  | .other _ => zeroed (kindOf d)

/-- An account after an instruction that leaves it with the given data. -/
def RawData.store (F : KeyFormat rt) (old : RawData Pubkey Hash)
    (d : AccountData Pubkey Hash) : Option (RawData Pubkey Hash) :=
  match h : d.program? with
  | some contents => (trySerialize F (old.memory contents) contents).map .owned
  | none => some (.other ⟨d, h⟩)

variable [DecidableEq Pubkey] [DecidableEq Hash]

inductive RawStep (F : KeyFormat rt) :
    RawState Pubkey Hash → Event Pubkey Hash → RawState Pubkey Hash → Prop
  | call {s s' : RawState Pubkey Hash} {call : Call Pubkey Hash} {returned : Option UInt64}
      {t : State Pubkey Hash} (executed : execute rt (s.view F) call = .ok (t, returned))
      (stored : ∀ a, (s.data a).store F (t.data a) = some (s'.data a))
      (lamports : s'.lamports = t.lamports) (clock : s'.clock = t.clock) :
      RawStep F s (.call call returned) s'
  | other {s s' : RawState Pubkey Hash}
      (owned : ∀ a memory, s'.data a = .owned memory ↔ s.data a = .owned memory)
      (lamports : ∀ a memory, s.data a = .owned memory → s.lamports a ≤ s'.lamports a) :
      RawStep F s .other s'

abbrev RawRun (F : KeyFormat rt) :=
  Run (RawStep F)

omit [DecidableEq Pubkey] [DecidableEq Hash] in
/-- An account of the program has the size of its type and can be read. -/
def RawData.WellFormed (F : KeyFormat rt) : RawData Pubkey Hash → Prop
  | .owned memory =>
      ∃ d stale, (account F).decode memory = some (d, stale) ∧ memory.length = d.space
  | .other _ => True

omit [DecidableEq Pubkey] [DecidableEq Hash] in
def RawState.WellFormed (F : KeyFormat rt) (s : RawState Pubkey Hash) : Prop :=
  ∀ a, (s.data a).WellFormed F

omit [DecidableEq Pubkey] [DecidableEq Hash] in
/-- A ledger on which the program has not run. -/
def RawGenesis (s : RawState Pubkey Hash) : Prop :=
  ∀ a memory, s.data a ≠ .owned memory

theorem cell_fits {s s' : State Pubkey Hash} {event : Event Pubkey Hash}
    (step : LedgerStep rt s event s') {a : Pubkey} {d : ProgramData Pubkey Hash}
    (stored : s'.programData a = some d)
    (fits : ∀ old, s.programData a = some old → old.serializedLen ≤ old.space) :
    d.serializedLen ≤ d.space ∧ ∀ old, s.programData a = some old → kindOf old = kindOf d := by
  rcases ledger_cell step a with hsame | ⟨call, returned, -, hwrite⟩
  · rw [hsame] at stored
    refine ⟨fits d stored, fun old hold => ?_⟩
    rw [Option.some.inj (hold.symm.trans stored)]
  · rw [stored] at hwrite
    generalize s.programData a = before at hwrite fits
    cases hwrite with
    | handlerCreated | sourceProofCreated | proofCreated =>
        exact ⟨Nat.le_refl _, fun _ h => nomatch h⟩
    | guardiansCreated =>
        exact ⟨Nat.le_of_ble_eq_true rfl, fun _ h => nomatch h⟩
    | handlerChanged =>
        refine ⟨Nat.le_refl _, fun old h => ?_⟩
        obtain rfl := Option.some.inj h
        rfl
    | @guardiansChanged g g' change =>
        constructor
        · have hfits := fits _ rfl
          simp only [ProgramData.serializedLen, ProgramData.space] at hfits ⊢
          cases change with
          | added ix account managed absent room =>
              rw [List.length_append, List.length_singleton]
              omega
          | @removed x =>
              have hle := List.length_filter_le (fun y => decide (y ≠ x.guardian)) g.guardians
              show 8 + (1 + (4 + (g.guardians.filter fun y => decide (y ≠ x.guardian)).length *
                32)) ≤ _
              omega
        · intro old h
          obtain rfl := Option.some.inj h
          rfl
    | tokenRegistered handler address unregistered =>
        refine ⟨Nat.le_refl _, fun old h => ?_⟩
        rcases unregistered with hnone | ⟨t, hsome, -⟩
        · rw [hnone] at h
          cases h
        · rw [hsome] at h
          obtain rfl := Option.some.inj h
          rfl
    | approvalsAdded ix account guardians address found selected =>
        have hlimit := (selectSigners_eq_ok.mp selected).limit
        constructor
        · simp only [ProgramData.serializedLen, ProgramData.space, List.length_append]
          omega
        · intro old h
          rcases found with hsome | ⟨hnone, -⟩
          · rw [hsome] at h
            obtain rfl := Option.some.inj h
            rfl
          · rw [hnone] at h
            cases h

variable {F : KeyFormat rt} {s s' : RawState Pubkey Hash} {event : Event Pubkey Hash}

omit [DecidableEq Pubkey] [DecidableEq Hash] in
theorem serializedLen_of_decode {memory stale : List UInt8} {d : ProgramData Pubkey Hash}
    (h : (account F).decode memory = some (d, stale)) : d.serializedLen ≤ memory.length := by
  obtain ⟨-, rfl⟩ := ((account F).decode_iff _ _ _).mp h
  rw [List.length_append, length_encode_account]
  exact Nat.le_add_right _ _

omit [DecidableEq Pubkey] [DecidableEq Hash] in
theorem fits_of_view {c : RawData Pubkey Hash} (well : c.WellFormed F)
    {d : ProgramData Pubkey Hash} (h : c.view F = .program d) :
    d.serializedLen ≤ d.space ∧ (c.memory d).length = d.space := by
  cases c with
  | owned memory =>
      obtain ⟨d', stale, hdecode, hlength⟩ := well
      simp only [RawData.view, hdecode, AccountData.program.injEq] at h
      subst h
      exact ⟨hlength ▸ serializedLen_of_decode hdecode, hlength⟩
  | other d' =>
      have hforeign := d'.property
      rw [show d'.val = .program d from h] at hforeign
      cases hforeign

omit [DecidableEq Pubkey] [DecidableEq Hash] in
/-- There is room for the given data in an account. -/
def RawData.HasRoom (c : RawData Pubkey Hash) (d : AccountData Pubkey Hash) : Prop :=
  ∀ contents, d = .program contents →
    contents.serializedLen ≤ contents.space ∧ (c.memory contents).length = contents.space

omit [DecidableEq Pubkey] [DecidableEq Hash] in
theorem exists_store {c : RawData Pubkey Hash} {d : AccountData Pubkey Hash}
    (room : c.HasRoom d) : ∃ c', c.store F d = some c' := by
  cases d with
  | program contents =>
      obtain ⟨hfits, hlength⟩ := room contents rfl
      obtain ⟨-, -, hserialize, -⟩ := account_bytes_exact F _ contents hlength
      obtain ⟨memory, hmemory⟩ := Option.ne_none_iff_exists'.mp (hserialize.mpr hfits)
      exact ⟨.owned memory, Option.map_eq_some_iff.mpr ⟨memory, hmemory, rfl⟩⟩
  | _ => exact ⟨_, rfl⟩

omit [DecidableEq Pubkey] [DecidableEq Hash] in
theorem view_of_store {c c' : RawData Pubkey Hash} {d : AccountData Pubkey Hash}
    (room : c.HasRoom d) (h : c.store F d = some c') : c'.view F = d ∧ c'.WellFormed F := by
  cases d with
  | program contents =>
      obtain ⟨hfits, hlength⟩ := room contents rfl
      obtain ⟨memory, hmemory, rfl⟩ := Option.map_eq_some_iff.mp h
      have hdecode := decode_overwrite (account F) (fits_account F hfits) hmemory
      refine ⟨?_, contents, _, hdecode, (length_overwrite hmemory).trans hlength⟩
      show (match (account F).decode memory with
        | some (d, _) => AccountData.program d
        | none => .foreign rt.programId) = _
      rw [hdecode]
  | _ =>
      obtain rfl := Option.some.inj h
      exact ⟨rfl, trivial⟩

omit [DecidableEq Pubkey] [DecidableEq Hash] in
theorem owned_of_store {c c' : RawData Pubkey Hash} {d : AccountData Pubkey Hash}
    (well : c.WellFormed F) (same : d.program? = (c.view F).program?)
    (h : c.store F d = some c') (memory : List UInt8) :
    c' = .owned memory ↔ c = .owned memory := by
  cases c with
  | owned old =>
      obtain ⟨contents, stale, hdecode, -⟩ := well
      rw [RawData.view, hdecode] at same
      obtain rfl := AccountData.program?_eq_some.mp same
      obtain ⟨new, hnew, rfl⟩ := Option.map_eq_some_iff.mp h
      obtain rfl := Option.some.inj ((overwrite_of_decode _ hdecode).symm.trans hnew)
      rfl
  | other foreign =>
      have hnone : d.program? = none := same.trans foreign.property
      cases d with
      | program contents => cases hnone
      | _ =>
          obtain rfl := Option.some.inj h
          simp

theorem hasRoom_of_step (well : s.WellFormed F) {t : State Pubkey Hash}
    (step : LedgerStep rt (s.view F) event t) (a : Pubkey) : (s.data a).HasRoom (t.data a) := by
  intro contents hdata
  have hold : ∀ old, (s.view F).programData a = some old →
      old.serializedLen ≤ old.space ∧ ((s.data a).memory old).length = old.space :=
    fun old h => fits_of_view (well a) (programData_eq_some.mp h)
  obtain ⟨hfits, hkind⟩ :=
    cell_fits step (programData_eq_some.mpr hdata) fun old h => (hold old h).1
  refine ⟨hfits, ?_⟩
  cases hcell : s.data a with
  | owned memory =>
      obtain ⟨old, stale, hdecode, hlength⟩ := hcell ▸ well a
      have hview : (s.view F).programData a = some old := by
        rw [programData_eq_some]
        show (s.data a).view F = _
        rw [hcell, RawData.view, hdecode]
      show memory.length = _
      rw [hlength, ← space_kindOf, hkind old hview, space_kindOf]
  | other d =>
      show (List.replicate _ _).length = _
      rw [List.length_replicate, space_kindOf]

theorem rawStep_view (well : s.WellFormed F) (step : RawStep F s event s') :
    LedgerStep rt (s.view F) event (s'.view F) ∧ s'.WellFormed F := by
  cases step with
  | @call _ call returned t executed stored lamports clock =>
      have hstored := fun a =>
        view_of_store (hasRoom_of_step well (.call executed) a) (stored a)
      have hview : s'.view F = t := by
        obtain ⟨l, d, c⟩ := t
        simp only at lamports clock
        rw [RawState.view, lamports, clock]
        congr 1
        funext a
        exact (hstored a).1
      rw [hview]
      exact ⟨.call executed, fun a => (hstored a).2⟩
  | other owned lamports =>
      have hsame : ∀ a, (s'.view F).programData a = (s.view F).programData a ∧
          (s'.data a).WellFormed F := by
        intro a
        cases hcell : s.data a with
        | owned memory =>
            have hcell' := (owned a memory).mpr hcell
            refine ⟨?_, hcell' ▸ hcell ▸ well a⟩
            show ((s'.data a).view F).program? = ((s.data a).view F).program?
            rw [hcell, hcell']
        | other d =>
            cases hcell' : s'.data a with
            | owned memory =>
                rw [(owned a memory).mp hcell'] at hcell
                cases hcell
            | other d' =>
                refine ⟨?_, trivial⟩
                show ((s'.data a).view F).program? = ((s.data a).view F).program?
                rw [hcell, hcell']
                exact d'.property.trans d.property.symm
      refine ⟨.other ⟨funext fun a => (hsame a).1, fun a hstored => ?_⟩, fun a => (hsame a).2⟩
      cases hcell : s.data a with
      | owned memory => exact lamports a memory hcell
      | other d =>
          apply absurd _ hstored
          show ((s.data a).view F).program? = none
          rw [hcell]
          exact d.property

/-- The chain can follow every step of the ledger of values. -/
theorem exists_rawStep (well : s.WellFormed F) {t : State Pubkey Hash}
    (step : LedgerStep rt (s.view F) event t) :
    ∃ s', RawStep F s event s' ∧ s'.WellFormed F ∧ s'.view F = t := by
  have hroom := hasRoom_of_step well step
  choose cell hcell using fun a => exists_store (hroom a)
  have hview : RawState.view F ⟨t.lamports, cell, t.clock⟩ = t := by
    obtain ⟨l, d, c⟩ := t
    rw [RawState.view]
    congr 1
    funext a
    exact (view_of_store (hroom a) (hcell a)).1
  refine ⟨⟨t.lamports, cell, t.clock⟩, ?_, fun a => (view_of_store (hroom a) (hcell a)).2, hview⟩
  cases step with
  | call executed => exact .call executed hcell rfl rfl
  | other change =>
      have hsame : ∀ a, (t.data a).program? = ((s.data a).view F).program? :=
        congrFun change.programData
      apply RawStep.other
      · intro a memory
        exact owned_of_store (well a) (hsame a) (hcell a) memory
      · intro a memory howned
        apply change.lamports a
        obtain ⟨d, stale, hdecode, -⟩ := howned ▸ well a
        show ((s.data a).view F).program? ≠ none
        rw [howned, RawData.view, hdecode]
        exact Option.some_ne_none d

/-- From a ledger that the program has not run on, the runs of the chain are the runs of
the ledger of values: what the program reads is always what it has stored, in memory of
the account's size, and no contents are ever too long for it. -/
theorem raw_runs_are_ledger_runs (F : KeyFormat rt) {s₀ : RawState Pubkey Hash}
    (genesis : RawGenesis s₀) :
    (∀ trace s, RawRun F s₀ trace s →
      LedgerRun rt (s₀.view F) (project (RawState.view F) some trace) (s.view F) ∧
        s.WellFormed F) ∧
    ∀ trace t, LedgerRun rt (s₀.view F) trace t →
      ∃ rawTrace s, RawRun F s₀ rawTrace s ∧ s.view F = t ∧
        project (RawState.view F) some rawTrace = trace := by
  have hstart : s₀.WellFormed F := by
    intro a
    cases hcell : s₀.data a with
    | owned memory => exact absurd hcell (genesis a memory)
    | other d => trivial
  constructor
  · intro trace s run
    have hkeep : ∀ t ∈ trace, RawStep F t.pre t.label t.post → t.pre.WellFormed F →
        t.post.WellFormed F := fun _ _ next well => (rawStep_view well next).2
    refine ⟨RunProjections.Run.project run fun t ht next => ?_, run.invariant _ hkeep hstart⟩
    exact (rawStep_view (run.invariant_of_mem _ hkeep hstart ht).1 next).1
  · intro trace t run
    have hlift : ∃ rawTrace s, RawRun F s₀ rawTrace s ∧ s.WellFormed F ∧ s.view F = t ∧
        project (RawState.view F) some rawTrace = trace :=
      RunProjections.Run.lift run (fun _ _ _ well step => exists_rawStep well step) hstart
    obtain ⟨rawTrace, s, hrun, -, hview, htrace⟩ := hlift
    exact ⟨rawTrace, s, hrun, hview, htrace⟩

section Sample

def rawRichLedger : RawState (Vector UInt8 32) (Vector UInt8 32) where
  lamports _ := 1000000000
  data _ := .other ⟨.system, rfl⟩
  clock := { epoch := 0, unixTimestamp := 0 }

/-- Guardians of the handler come and go. -/
def guardianCalls : List (Call (Vector UInt8 32) (Vector UInt8 32)) :=
  let guardianInfo := (stringRuntime.findProgramAddress (.guardianInfo stringHandlerKey)).1
  let manager := Vector.replicate 32 9
  let call (ix : Instruction (Vector UInt8 32) (Vector UInt8 32)) :
      Call (Vector UInt8 32) (Vector UInt8 32) :=
    { signers := [manager], ixSysvar := { instructions := [], currentIndex := 0 }, ix }
  let add (n : UInt8) := call (.addGuardian
    { manager, bridgeHandler := stringHandlerKey, guardianInfo, guardian := Vector.replicate 32 n })
  [initializeStringHandler, add 21, add 22, add 23,
    call (.updateGuardianThreshold
      { manager, bridgeHandler := stringHandlerKey, guardianInfo } 2),
    call (.removeGuardian
      { manager, bridgeHandler := stringHandlerKey, guardianInfo,
        guardian := Vector.replicate 32 21 })]

theorem guardianCalls_isOk : (executeAll stringRuntime richLedger guardianCalls).isOk = true := by
  decide +kernel

theorem raw_runs_are_ledger_runs_sample :
    ∃ rawTrace s, RawRun stringFormat rawRichLedger rawTrace s ∧ s.WellFormed stringFormat ∧
      s.view stringFormat = stateAfter stringRuntime richLedger guardianCalls := by
  obtain ⟨hsound, hcomplete⟩ := raw_runs_are_ledger_runs stringFormat
    (fun a memory h => nomatch h : RawGenesis rawRichLedger)
  obtain ⟨rawTrace, s, hrun, hview, -⟩ := hcomplete _ _ (run_callTrace guardianCalls_isOk)
  exact ⟨rawTrace, s, hrun, (hsound _ _ hrun).2, hview⟩

end Sample

end BridgeProgram.RawLedger
