import BridgeProgram.InstructionData
import BridgeProgram.SignatureSoundness

/-!
Transactions as the chain runs them: the ed25519 precompile first, then the top-level
instructions in their order, and all of it or nothing. Other programs may call the bridge
program in between. What comes out is a run of the ledger, with the transaction's own
instructions in the sysvar of every call.
-/

namespace BridgeProgram.Transactions

open BridgeProgram.BridgeProgramEntry
open BridgeProgram.CheckedResult
open BridgeProgram.Ed25519Instruction
open BridgeProgram.InstructionData
open BridgeProgram.ProgramStates
open BridgeProgram.SignatureSoundness
open BridgeProgram.SolanaRuntime
open BridgeProgram.TransitionRuns

variable {Pubkey Hash : Type}

structure Transaction (Pubkey : Type) where
  signers : List Pubkey
  instructions : List (TxInstruction Pubkey)

/-- What is done in the course of an instruction: something outside the bridge program, or
a call of it. -/
inductive Action (Pubkey Hash : Type)
  | change (update : State Pubkey Hash → State Pubkey Hash)
  | invoke (signers accounts : List Pubkey) (data : List UInt8)

/-- The chain around the bridge program. -/
structure Surroundings (Pubkey Hash : Type) where
  /-- The signature check of the ed25519 precompile. -/
  verify : CheckedSignature → Bool
  /-- What another program makes of an instruction, unless it fails. -/
  actions : List Pubkey → InstructionsSysvar Pubkey → TxInstruction Pubkey →
    State Pubkey Hash → Option (List (Action Pubkey Hash))
  /-- The fee of a transaction and the time that passes before it. -/
  meanwhile : Transaction Pubkey → State Pubkey Hash → State Pubkey Hash
  actions_other : ∀ {signers sysvar ix s done update},
    actions signers sysvar ix s = some done → .change update ∈ done →
    ∀ t, OtherChange t (update t)
  meanwhile_other : ∀ tx s, OtherChange s (meanwhile tx s)

inductive TransactionError
  | precompile
  | entry (e : EntryError)
  | program (e : ProgramError)
  | otherProgram
  deriving DecidableEq

/-- How the bridge program reads its accounts and its data. -/
abbrev Entry (Pubkey Hash : Type) :=
  List Pubkey → List UInt8 → Except EntryError (Instruction Pubkey Hash)

/-- Transitions made, and the state reached. -/
abbrev Progress (Pubkey Hash : Type) :=
  List (LedgerTransition Pubkey Hash) × State Pubkey Hash

section Execution

variable [DecidableEq Pubkey] [DecidableEq Hash] (rt : Runtime Pubkey Hash)
  (entry : Entry Pubkey Hash) (C : Surroundings Pubkey Hash)

def perform (sysvar : InstructionsSysvar Pubkey) (s : State Pubkey Hash) :
    Action Pubkey Hash → Except TransactionError (LedgerTransition Pubkey Hash)
  | .change update => .ok ⟨s, .other, update s⟩
  | .invoke signers accounts data => do
      let ix ← (entry accounts data).mapError .entry
      let call : Call Pubkey Hash := { signers, ixSysvar := sysvar, ix }
      let (s', returned) ← (execute rt s call).mapError .program
      pure ⟨s, .call call returned, s'⟩

def performAll (sysvar : InstructionsSysvar Pubkey) (s : State Pubkey Hash) :
    List (Action Pubkey Hash) → Except TransactionError (Progress Pubkey Hash)
  | [] => .ok ([], s)
  | action :: actions => do
      let t ← perform rt entry sysvar s action
      let (trace, s') ← performAll sysvar t.post actions
      pure (t :: trace, s')

/-- What an instruction of a transaction does. The precompile has run before. -/
def actionsOf (tx : Transaction Pubkey) (sysvar : InstructionsSysvar Pubkey)
    (ix : TxInstruction Pubkey) (s : State Pubkey Hash) : Option (List (Action Pubkey Hash)) :=
  if ix.programId = rt.programId then some [.invoke tx.signers ix.accounts ix.data]
  else if ix.programId = rt.ed25519Program then some []
  else C.actions tx.signers sysvar ix s

/-- Instructions of a transaction, each with its index. -/
def runInstructions (tx : Transaction Pubkey) (s : State Pubkey Hash) :
    List (TxInstruction Pubkey × ℕ) → Except TransactionError (Progress Pubkey Hash)
  | [] => .ok ([], s)
  | (ix, i) :: rest => do
      let sysvar := { instructions := tx.instructions, currentIndex := i }
      let actions ← okOr (actionsOf rt C tx sysvar ix s) .otherProgram
      let (first, t) ← performAll rt entry sysvar s actions
      let (second, s') ← runInstructions tx t rest
      pure (first ++ second, s')

/-- The precompile lets the ed25519 instructions pass. -/
def precompilePasses (instructions : List (TxInstruction Pubkey)) : Bool :=
  instructions.all fun ix => ix.programId ≠ rt.ed25519Program ||
    (readRecords instructions ix.data).any fun checked => checked.all C.verify

def runTransaction (s : State Pubkey Hash) (tx : Transaction Pubkey) :
    Except TransactionError (Progress Pubkey Hash) :=
  if precompilePasses rt C tx.instructions then
    runInstructions rt entry C tx s tx.instructions.zipIdx
  else .error .precompile

/-- The transactions of a history one after the other. One that fails has no effect but
its fee. -/
def process (s : State Pubkey Hash) : List (Transaction Pubkey) → Progress Pubkey Hash
  | [] => ([], s)
  | tx :: txs =>
      let t := C.meanwhile tx s
      match runTransaction rt entry C t tx with
      | .error _ =>
          let (trace, s') := process t txs
          (⟨s, .other, t⟩ :: trace, s')
      | .ok (first, u) =>
          let (trace, s') := process u txs
          (⟨s, .other, t⟩ :: (first ++ trace), s')

end Execution

variable {rt : Runtime Pubkey Hash} {entry : Entry Pubkey Hash} {C : Surroundings Pubkey Hash}
  {tx : Transaction Pubkey} {txs : List (Transaction Pubkey)} {s s' : State Pubkey Hash}
  {trace : List (LedgerTransition Pubkey Hash)}

/-- A call belongs to a transaction. If its instruction is one of the bridge program, the
call is that instruction, signed as the transaction is. -/
structure CarriedBy (rt : Runtime Pubkey Hash) (entry : Entry Pubkey Hash)
    (tx : Transaction Pubkey) (call : Call Pubkey Hash) : Prop where
  instructions : call.ixSysvar.instructions = tx.instructions
  current : ∃ ix, tx.instructions[call.ixSysvar.currentIndex]? = some ix ∧
    ix.programId ≠ rt.ed25519Program ∧
    (ix.programId = rt.programId →
      call.signers = tx.signers ∧ entry ix.accounts ix.data = .ok call.ix)
  read : ∃ accounts data, entry accounts data = .ok call.ix

/-- The calls among some transitions are those that a transaction makes. -/
def AllCarriedBy (rt : Runtime Pubkey Hash) (entry : Entry Pubkey Hash)
    (tx : Transaction Pubkey) (trace : List (LedgerTransition Pubkey Hash)) : Prop :=
  ∀ t ∈ trace, ∀ call returned, t.label = .call call returned → CarriedBy rt entry tx call

/-- A call that carries out one of some actions. -/
def Invoked (entry : Entry Pubkey Hash) (sysvar : InstructionsSysvar Pubkey)
    (actions : List (Action Pubkey Hash)) (call : Call Pubkey Hash) : Prop :=
  call.ixSysvar = sysvar ∧ ∃ accounts data, .invoke call.signers accounts data ∈ actions ∧
    entry accounts data = .ok call.ix

/-- Changes outside the bridge program touch nothing of it. -/
def ChangeOther (actions : List (Action Pubkey Hash)) : Prop :=
  ∀ update, .change update ∈ actions → ∀ t : State Pubkey Hash, OtherChange t (update t)

theorem Invoked.mono {sysvar : InstructionsSysvar Pubkey}
    {actions actions' : List (Action Pubkey Hash)} {call : Call Pubkey Hash}
    (h : Invoked entry sysvar actions call) (subset : actions ⊆ actions') :
    Invoked entry sysvar actions' call := by
  obtain ⟨hsysvar, accounts, data, hmem, hread⟩ := h
  exact ⟨hsysvar, accounts, data, subset hmem, hread⟩

variable [DecidableEq Pubkey] [DecidableEq Hash]

theorem perform_step {sysvar : InstructionsSysvar Pubkey} {action : Action Pubkey Hash}
    {t : LedgerTransition Pubkey Hash} (h : perform rt entry sysvar s action = .ok t)
    (other : ChangeOther [action]) :
    t.pre = s ∧ LedgerStep rt s t.label t.post ∧
      ∀ call returned, t.label = .call call returned → Invoked entry sysvar [action] call := by
  cases action with
  | change update =>
      obtain rfl := Except.ok.inj h
      refine ⟨rfl, .other (other update (List.mem_singleton_self _) s), ?_⟩
      intro call returned hlabel
      cases hlabel
  | invoke signers accounts data =>
      simp only [perform, bind_eq_ok, mapError_eq_ok, Prod.exists, pure_eq_ok] at h
      obtain ⟨ix, hread, u, returned, hexecuted, rfl⟩ := h
      refine ⟨rfl, .call hexecuted, ?_⟩
      intro call returned' hlabel
      obtain ⟨rfl, -⟩ := Event.call.inj hlabel
      exact ⟨rfl, accounts, data, List.mem_singleton_self _, hread⟩

theorem performAll_run {sysvar : InstructionsSysvar Pubkey} {actions : List (Action Pubkey Hash)}
    (h : performAll rt entry sysvar s actions = .ok (trace, s')) (other : ChangeOther actions) :
    LedgerRun rt s trace s' ∧ ∀ t ∈ trace, ∀ call returned,
      t.label = .call call returned → Invoked entry sysvar actions call := by
  induction actions generalizing s trace with
  | nil =>
      obtain ⟨rfl, rfl⟩ := Prod.mk.inj (Except.ok.inj h)
      exact ⟨.nil s, fun t ht => nomatch ht⟩
  | cons action actions ih =>
      simp only [performAll, bind_eq_ok, Prod.exists, pure_eq_ok, Prod.mk.injEq] at h
      obtain ⟨t, hfirst, rest, u, hrest, rfl, rfl⟩ := h
      have hother : ChangeOther [action] := fun update hupdate =>
        other update (List.mem_singleton.mp hupdate ▸ List.mem_cons_self)
      obtain ⟨rfl, hstep, hcall⟩ := perform_step hfirst hother
      obtain ⟨hrun, hcalls⟩ := ih hrest fun update hupdate =>
        other update (List.mem_cons_of_mem _ hupdate)
      refine ⟨.cons hstep hrun, ?_⟩
      intro t' ht' call returned hlabel
      rcases List.mem_cons.mp ht' with rfl | ht'
      · exact (hcall call returned hlabel).mono (by simp)
      · exact (hcalls t' ht' call returned hlabel).mono (List.subset_cons_self _ _)

omit [DecidableEq Hash] in
theorem changeOther_actionsOf {sysvar : InstructionsSysvar Pubkey} {ix : TxInstruction Pubkey}
    {actions : List (Action Pubkey Hash)}
    (h : actionsOf rt C tx sysvar ix s = some actions) : ChangeOther actions := by
  intro update hupdate
  unfold actionsOf at h
  split_ifs at h
  · obtain rfl := Option.some.inj h
    simp at hupdate
  · obtain rfl := Option.some.inj h
    cases hupdate
  · exact C.actions_other h hupdate

omit [DecidableEq Hash] in
theorem carriedBy_of_invoked {ix : TxInstruction Pubkey} {i : ℕ}
    (apart : rt.programId ≠ rt.ed25519Program) (at_index : tx.instructions[i]? = some ix)
    {actions : List (Action Pubkey Hash)}
    (h : actionsOf rt C tx { instructions := tx.instructions, currentIndex := i } ix s =
      some actions)
    {call : Call Pubkey Hash}
    (invoked : Invoked entry { instructions := tx.instructions, currentIndex := i } actions
      call) : CarriedBy rt entry tx call := by
  obtain ⟨hsysvar, accounts, data, hmem, hread⟩ := invoked
  refine ⟨by rw [hsysvar], ⟨ix, by rw [hsysvar]; exact at_index, ?_, ?_⟩, accounts, data, hread⟩
  · intro hed25519
    unfold actionsOf at h
    rw [if_neg (hed25519 ▸ apart.symm), if_pos hed25519] at h
    obtain rfl := Option.some.inj h
    cases hmem
  · intro hprogram
    unfold actionsOf at h
    rw [if_pos hprogram] at h
    obtain rfl := Option.some.inj h
    obtain ⟨hsigners, rfl, rfl⟩ := Action.invoke.inj (List.mem_singleton.mp hmem)
    exact ⟨hsigners, hread⟩

theorem runInstructions_run (apart : rt.programId ≠ rt.ed25519Program)
    {rest : List (TxInstruction Pubkey × ℕ)}
    (indexed : ∀ x ∈ rest, tx.instructions[x.2]? = some x.1)
    (h : runInstructions rt entry C tx s rest = .ok (trace, s')) :
    LedgerRun rt s trace s' ∧ AllCarriedBy rt entry tx trace := by
  induction rest generalizing s trace with
  | nil =>
      obtain ⟨rfl, rfl⟩ := Prod.mk.inj (Except.ok.inj h)
      exact ⟨.nil s, fun t ht => nomatch ht⟩
  | cons x rest ih =>
      obtain ⟨ix, i⟩ := x
      simp only [runInstructions, bind_eq_ok, okOr_eq_ok, Prod.exists, pure_eq_ok,
        Prod.mk.injEq] at h
      obtain ⟨actions, hactions, first, t, hfirst, second, u, hsecond, rfl, rfl⟩ := h
      obtain ⟨hindex, hindexed⟩ := List.forall_mem_cons.mp indexed
      obtain ⟨hrun₁, hcalls₁⟩ := performAll_run hfirst (changeOther_actionsOf hactions)
      obtain ⟨hrun₂, hcalls₂⟩ := ih hindexed hsecond
      refine ⟨hrun₁.append hrun₂, ?_⟩
      intro t' ht' call returned hlabel
      rcases List.mem_append.mp ht' with ht' | ht'
      · exact carriedBy_of_invoked apart hindex hactions (hcalls₁ t' ht' call returned hlabel)
      · exact hcalls₂ t' ht' call returned hlabel

omit [DecidableEq Hash] in
theorem actionsOf_other {sysvar : InstructionsSysvar Pubkey} {ix : TxInstruction Pubkey}
    (not_program : ix.programId ≠ rt.programId) (not_ed25519 : ix.programId ≠ rt.ed25519Program) :
    actionsOf rt C tx sysvar ix s = C.actions tx.signers sysvar ix s := by
  rw [actionsOf, if_neg not_program, if_neg not_ed25519]

omit [DecidableEq Hash] in
theorem actionsOf_ed25519 (apart : rt.programId ≠ rt.ed25519Program)
    {sysvar : InstructionsSysvar Pubkey} {ix : TxInstruction Pubkey}
    (program : ix.programId = rt.ed25519Program) :
    actionsOf rt C tx sysvar ix s = some [] := by
  rw [actionsOf, if_neg (program ▸ apart.symm), if_pos program]

theorem runInstructions_silent {ix : TxInstruction Pubkey} {i : ℕ}
    {rest : List (TxInstruction Pubkey × ℕ)}
    (silent : actionsOf rt C tx { instructions := tx.instructions, currentIndex := i } ix s =
      some []) :
    runInstructions rt entry C tx s ((ix, i) :: rest) = runInstructions rt entry C tx s rest := by
  rw [runInstructions, silent]
  cases hrest : runInstructions rt entry C tx s rest with
  | error e => simp [okOr, performAll, hrest, bind, Except.bind]
  | ok progress => simp [okOr, performAll, hrest, bind, Except.bind, pure, Except.pure]

theorem performAll_invoke {sysvar : InstructionsSysvar Pubkey} {signers accounts : List Pubkey}
    {data : List UInt8} {ix : Instruction Pubkey Hash} (read : entry accounts data = .ok ix) :
    let call : Call Pubkey Hash := { signers, ixSysvar := sysvar, ix }
    performAll rt entry sysvar s [.invoke signers accounts data] = .ok (trace, s') ↔
      ∃ returned, execute rt s call = .ok (s', returned) ∧
        trace = [⟨s, .call call returned, s'⟩] := by
  intro call
  simp only [performAll, perform, bind_eq_ok, mapError_eq_ok, Prod.exists, pure_eq_ok,
    Except.ok.injEq, Prod.mk.injEq]
  constructor
  · rintro ⟨_, ⟨ix', hread, u, returned, hexecuted, rfl⟩, _, _, ⟨rfl, rfl⟩, rfl, rfl⟩
    obtain rfl := Except.ok.inj (read.symm.trans hread)
    exact ⟨returned, hexecuted, rfl⟩
  · rintro ⟨returned, hexecuted, rfl⟩
    exact ⟨_, ⟨ix, read, s', returned, hexecuted, rfl⟩, [], s', ⟨rfl, rfl⟩, rfl, rfl⟩

theorem runInstructions_call {ix : TxInstruction Pubkey} {i : ℕ}
    (program : ix.programId = rt.programId) {instruction : Instruction Pubkey Hash}
    (read : entry ix.accounts ix.data = .ok instruction) :
    let call : Call Pubkey Hash :=
      { signers := tx.signers
        ixSysvar := { instructions := tx.instructions, currentIndex := i }
        ix := instruction }
    runInstructions rt entry C tx s [(ix, i)] = .ok (trace, s') ↔
      ∃ returned, execute rt s call = .ok (s', returned) ∧
        trace = [⟨s, .call call returned, s'⟩] := by
  intro call
  have hactions : actionsOf rt C tx call.ixSysvar ix s =
      some [.invoke tx.signers ix.accounts ix.data] := if_pos program
  simp only [runInstructions, bind_eq_ok, okOr_eq_ok, Prod.exists, pure_eq_ok,
    Except.ok.injEq, Prod.mk.injEq]
  constructor
  · rintro ⟨_, hdone, _, _, hperformed, _, _, ⟨rfl, rfl⟩, rfl, rfl⟩
    obtain rfl := Option.some.inj (hactions.symm.trans hdone)
    rw [List.append_nil]
    exact (performAll_invoke read).mp hperformed
  · intro h
    exact ⟨_, hactions, trace, s', (performAll_invoke read).mpr h, [], s', ⟨rfl, rfl⟩,
      List.append_nil _, rfl⟩

omit [DecidableEq Hash] in
theorem precompilePasses_iff {instructions : List (TxInstruction Pubkey)} :
    precompilePasses rt C instructions = true ↔
      PrecompileAccepts rt C.verify instructions := by
  simp only [precompilePasses, List.all_eq_true, Bool.or_eq_true, decide_eq_true_eq,
    PrecompileAccepts, ed25519Accepts_iff, ne_eq, ← imp_iff_not_or]

theorem runTransaction_run (apart : rt.programId ≠ rt.ed25519Program)
    (h : runTransaction rt entry C s tx = .ok (trace, s')) :
    PrecompileAccepts rt C.verify tx.instructions ∧ LedgerRun rt s trace s' ∧
      AllCarriedBy rt entry tx trace := by
  unfold runTransaction at h
  split_ifs at h with haccepts
  refine ⟨precompilePasses_iff.mp haccepts, runInstructions_run apart ?_ h⟩
  intro x hx
  exact List.mem_zipIdx_iff_getElem?.mp hx

variable (entry C) in
/-- Every history of transactions is a run of the ledger. Each call in it belongs to a
transaction that the precompile has let pass. -/
theorem histories_are_ledger_runs (apart : rt.programId ≠ rt.ed25519Program)
    (s : State Pubkey Hash) (txs : List (Transaction Pubkey)) :
    LedgerRun rt s (process rt entry C s txs).1 (process rt entry C s txs).2 ∧
      ∀ t ∈ (process rt entry C s txs).1, ∀ call returned, t.label = .call call returned →
        ∃ tx ∈ txs, PrecompileAccepts rt C.verify tx.instructions ∧
          CarriedBy rt entry tx call := by
  induction txs generalizing s with
  | nil => exact ⟨.nil s, fun t ht => nomatch ht⟩
  | cons tx txs ih =>
      have hpass : LedgerStep rt s .other (C.meanwhile tx s) :=
        .other (C.meanwhile_other tx s)
      have hlater : ∀ u, ∀ t ∈ (process rt entry C u txs).1, ∀ call returned,
          t.label = .call call returned → ∃ tx' ∈ tx :: txs,
            PrecompileAccepts rt C.verify tx'.instructions ∧ CarriedBy rt entry tx' call := by
        intro u t ht call returned hlabel
        obtain ⟨tx', htx', hcarried⟩ := (ih u).2 t ht call returned hlabel
        exact ⟨tx', List.mem_cons_of_mem _ htx', hcarried⟩
      unfold process
      dsimp only
      split
      · refine ⟨.cons hpass (ih _).1, ?_⟩
        intro t ht call returned hlabel
        rcases List.mem_cons.mp ht with rfl | ht
        · cases hlabel
        · exact hlater _ t ht call returned hlabel
      · rename_i first u hrun
        obtain ⟨haccepts, hfirst, hcarried⟩ := runTransaction_run apart hrun
        refine ⟨.cons hpass (hfirst.append (ih u).1), ?_⟩
        intro t ht call returned hlabel
        rcases List.mem_cons.mp ht with rfl | ht
        · cases hlabel
        rcases List.mem_append.mp ht with ht | ht
        · exact ⟨tx, List.mem_cons_self, haccepts, hcarried t ht call returned hlabel⟩
        · exact hlater u t ht call returned hlabel

/-- Nothing but time passes besides the bridge program. -/
def quietSurroundings (Pubkey Hash : Type) (verify : CheckedSignature → Bool) :
    Surroundings Pubkey Hash where
  verify := verify
  actions _ _ _ _ := some []
  meanwhile _ s := { s with clock :=
    { s.clock with unixTimestamp := s.clock.unixTimestamp + 1 } }
  actions_other h hmem := by
    obtain rfl := Option.some.inj h
    cases hmem
  meanwhile_other _ _ := { programData := rfl, lamports := fun _ _ => le_rfl }

end BridgeProgram.Transactions
