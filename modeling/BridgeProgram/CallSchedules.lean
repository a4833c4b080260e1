import BridgeProgram.CallFootprints
import BridgeProgram.SymbolicRuntime

namespace BridgeProgram.CallSchedules

open BridgeProgram.AccountFootprints
open BridgeProgram.BridgeProgramEntry
open BridgeProgram.CallFootprints
open BridgeProgram.InstructionData
open BridgeProgram.LocalComputations
open BridgeProgram.ProgramStates
open BridgeProgram.SolanaRuntime
open BridgeProgram.SymbolicRuntime
open BridgeProgram.TransitionRuns

variable {Pubkey Hash τ : Type}

/-- The accounts that a call of a batch may write. -/
def written (batch : τ → Call Pubkey Hash) (i : τ) : Set Pubkey :=
  {a | a ∈ writableAccounts (batch i).ix}

variable [DecidableEq Pubkey]

/-- The accounts that a call of a batch lists. -/
def listed (rt : Runtime Pubkey Hash) (P : FixedAccounts Pubkey) (batch : τ → Call Pubkey Hash)
    (i : τ) : Set Pubkey :=
  {a | a ∈ instructionAccounts rt P (batch i).ix}

theorem conflict_iff {rt : Runtime Pubkey Hash} {P : FixedAccounts Pubkey}
    {batch : τ → Call Pubkey Hash} {i j : τ} :
    Conflict (listed rt P batch) (written batch) i j ↔
      (∃ a ∈ writableAccounts (batch i).ix, a ∈ instructionAccounts rt P (batch j).ix) ∨
        ∃ a ∈ instructionAccounts rt P (batch i).ix, a ∈ writableAccounts (batch j).ix :=
  exists_or

variable [DecidableEq Hash]

/-- A call of a batch on a ledger. -/
def runCall (rt : Runtime Pubkey Hash) (batch : τ → Call Pubkey Hash) (i : τ)
    (s : State Pubkey Hash) : Except ProgramError (State Pubkey Hash × Option UInt64) :=
  execute rt s (batch i)

theorem footprints (rt : Runtime Pubkey Hash) (P : FixedAccounts Pubkey)
    (batch : τ → Call Pubkey Hash) :
    Footprints (ledgerView Pubkey Hash) (runCall rt batch) (listed rt P batch) (written batch) where
  subset i a ha := CallFootprints.listed P _ a (List.mem_append_left _ ha)
  alike i s t h := by
    have hsub : written batch i ⊆ listed rt P batch i :=
      fun a ha => CallFootprints.listed P _ a (List.mem_append_left _ ha)
    exact execute_twins (h.twins hsub)
      (fun a ha => CallFootprints.listed P _ a (List.mem_append_right _ ha)) fun a ha => ha

def keyFixedAccounts : FixedAccounts Key where
  associatedTokenProgram := .atom 1004
  rent := .atom 1005
  instructions := .atom 1006

/-- New guardians for two handlers of one manager. -/
def guardianBatch : Fin 3 → Call Key Digest
  | 0 => addGuardianBy (.atom 1) (handlerKey 7) (.atom 11)
  | 1 => addGuardianBy (.atom 1) (handlerKey 8) (.atom 11)
  | 2 => addGuardianBy (.atom 1) (handlerKey 7) (.atom 12)

def twoHandlers : State Key Digest :=
  stateAfter (symbolicRuntime false) sampleLedger
    [initializeBy (.atom 5) 7 1 (.atom 1) (.atom 2), initializeBy (.atom 5) 8 1 (.atom 1) (.atom 2)]

theorem guardianBatch_apart (i j : Fin 3)
    (h : Conflict (listed (symbolicRuntime false) keyFixedAccounts guardianBatch)
      (written guardianBatch) i j) : i = j ∨ (i ≠ 1 ∧ j ≠ 1) := by
  rw [conflict_iff] at h
  revert i j
  decide +kernel

/-- What a call returns, or the error with which it fails, depends only on the accounts that
it lists and on the clock, and so does what becomes of these accounts. It changes only those
that its account list declares writable. -/
theorem call_is_local (rt : Runtime Pubkey Hash) (P : FixedAccounts Pubkey)
    (call : Call Pubkey Hash) (s t : State Pubkey Hash)
    (same : (ledgerView Pubkey Hash).Agree {a | a ∈ instructionAccounts rt P call.ix} s t) :
    outcome (runCall rt id) call s = outcome (runCall rt id) call t ∧
      (ledgerView Pubkey Hash).Agree {a | a ∈ instructionAccounts rt P call.ix}
        (next (runCall rt id) call s) (next (runCall rt id) call t) ∧
      (ledgerView Pubkey Hash).Agree {a | a ∉ writableAccounts call.ix} s
        (next (runCall rt id) call s) := by
  have fp := footprints rt P (id : Call Pubkey Hash → _)
  exact ⟨fp.outcome_congr same, fp.next_agree same, fp.next_kept call s⟩

theorem call_is_local_sample :
    let call := addGuardianBy (.atom 1) (handlerKey 7) (.atom 11)
    outcome (runCall (symbolicRuntime false) id) call twoHandlers =
      outcome (runCall (symbolicRuntime false) id) call (twoHandlers.setLamports (.atom 99) 1) := by
  intro call
  have hlisted :
      .atom 99 ∉ instructionAccounts (symbolicRuntime false) keyFixedAccounts call.ix := by
    decide +kernel
  refine (call_is_local (symbolicRuntime false) keyFixedAccounts call twoHandlers _
    ((agree_setLamports twoHandlers (.atom 99) 1).mono ?_)).1
  rintro a ha rfl
  exact hlisted ha

/-- Two orders of the same calls in which those that meet come in the same order lead to the
same ledger, and every call returns the same or fails with the same error. -/
theorem order_does_not_matter [DecidableEq τ] (rt : Runtime Pubkey Hash)
    (P : FixedAccounts Pubkey) (batch : τ → Call Pubkey Hash) {l l' : List τ}
    (order : SameOrder (listed rt P batch) (written batch) l l') (s : State Pubkey Hash) :
    runAll (runCall rt batch) l s = runAll (runCall rt batch) l' s ∧
      (log (runCall rt batch) l s).Perm (log (runCall rt batch) l' s) :=
  (footprints rt P batch).schedules_agree order s

theorem order_does_not_matter_sample :
    runAll (runCall (symbolicRuntime false) guardianBatch) [0, 1, 2] twoHandlers =
      runAll (runCall (symbolicRuntime false) guardianBatch) [1, 0, 2] twoHandlers := by
  refine (order_does_not_matter (symbolicRuntime false) keyFixedAccounts guardianBatch
    ⟨.swap 1 0 [2], fun i j hconflict => ?_⟩ twoHandlers).1
  have happart := guardianBatch_apart i j hconflict
  clear hconflict
  revert i j
  decide

/-- The ledger `s'` has, in the accounts that a call of the batch may write, what this call
makes of the ledger `s`, and elsewhere what `s` has. -/
structure Merged (rt : Runtime Pubkey Hash) (batch : τ → Call Pubkey Hash) (l : List τ)
    (s s' : State Pubkey Hash) : Prop where
  clock : s'.clock = s.clock
  written : ∀ i ∈ l, ∀ a ∈ writableAccounts (batch i).ix,
    (ledgerView Pubkey Hash).cell s' a =
      (ledgerView Pubkey Hash).cell (next (runCall rt batch) i s) a
  kept : ∀ a, (∀ i ∈ l, a ∉ writableAccounts (batch i).ix) →
    (ledgerView Pubkey Hash).cell s' a = (ledgerView Pubkey Hash).cell s a

/-- The calls of a schedule that succeed. -/
def succeeded (rt : Runtime Pubkey Hash) (batch : τ → Call Pubkey Hash) :
    List τ → State Pubkey Hash → List (Event Pubkey Hash)
  | [], _ => []
  | i :: l, s =>
      (match outcome (runCall rt batch) i s with
        | .ok returned => [.call (batch i) returned]
        | .error _ => []) ++ succeeded rt batch l (next (runCall rt batch) i s)

theorem run_of_schedule (rt : Runtime Pubkey Hash) (batch : τ → Call Pubkey Hash) (l : List τ)
    (s : State Pubkey Hash) :
    ∃ trace, LedgerRun rt s trace (runAll (runCall rt batch) l s) ∧
      trace.map Transition.label = succeeded rt batch l s := by
  induction l generalizing s with
  | nil => exact ⟨[], .nil s, rfl⟩
  | cons i l ih =>
      obtain ⟨trace, run, hlabels⟩ := ih (next (runCall rt batch) i s)
      unfold succeeded
      rw [← hlabels]
      show ∃ trace, LedgerRun rt s trace (runAll _ l (next (runCall rt batch) i s)) ∧ _
      unfold next outcome at *
      cases hexecute : runCall rt batch i s with
      | ok x =>
          rw [hexecute] at run
          exact ⟨_, .cons (.call hexecute) run, rfl⟩
      | error e =>
          rw [hexecute] at run
          exact ⟨trace, run, rfl⟩

/-- A batch in which no two calls meet can be executed side by side: what comes of
merging the accounts that each has made of the first ledger is the ledger that any order of
the batch leads to, by the same calls with the same results. -/
theorem side_by_side (rt : Runtime Pubkey Hash) (P : FixedAccounts Pubkey)
    (batch : τ → Call Pubkey Hash) {l l' : List τ} {s s' : State Pubkey Hash}
    (apart : l.Pairwise fun i j => ¬ Conflict (listed rt P batch) (written batch) i j)
    (merged : Merged rt batch l s s') (perm : l.Perm l') :
    log (runCall rt batch) l' s = l'.map (fun i => (i, outcome (runCall rt batch) i s)) ∧
      ∃ trace, LedgerRun rt s trace s' ∧
        trace.map Transition.label = succeeded rt batch l' s := by
  have fp := footprints rt P batch
  have apart' := (perm.pairwise_iff fun h hconflict => h (Conflict.symm hconflict)).mp apart
  obtain ⟨hlog, hagree⟩ := fp.snapshot apart' s
  refine ⟨hlog, ?_⟩
  have heq : s' = runAll (runCall rt batch) l' s := by
    have hkept := fp.runAll_kept l' s
    apply (ledgerView Pubkey Hash).ext
    · exact merged.clock.trans hkept.env
    · funext a
      by_cases ha : ∃ i ∈ l, a ∈ writableAccounts (batch i).ix
      · obtain ⟨i, hi, ha⟩ := ha
        rw [merged.written i hi a ha, (hagree i (perm.subset hi)).cell a (fp.subset i ha)]
      · simp only [not_exists, not_and] at ha
        rw [merged.kept a ha, hkept.cell a fun i hi => ha i (perm.symm.subset hi)]
  rw [heq]
  exact run_of_schedule rt batch l' s

theorem side_by_side_sample :
    let run := runCall (symbolicRuntime false) guardianBatch
    ∃ trace, LedgerRun (symbolicRuntime false) twoHandlers trace
      (runAll run [0, 1] twoHandlers) ∧
        trace.map Transition.label =
          succeeded (symbolicRuntime false) guardianBatch [1, 0] twoHandlers := by
  intro run
  have fp := footprints (symbolicRuntime false) keyFixedAccounts guardianBatch
  have apart : [(0 : Fin 3), 1].Pairwise fun i j => ¬ Conflict
      (listed (symbolicRuntime false) keyFixedAccounts guardianBatch)
      (written guardianBatch) i j := by
    refine .cons ?_ (List.pairwise_singleton _ _)
    rintro j hj hconflict
    obtain rfl := List.mem_singleton.mp hj
    exact absurd (guardianBatch_apart 0 1 hconflict) (by decide)
  have hkept := fp.runAll_kept [0, 1] twoHandlers
  have hagree := (fp.snapshot apart twoHandlers).2
  have merged : Merged (symbolicRuntime false) guardianBatch [0, 1] twoHandlers
      (runAll run [0, 1] twoHandlers) :=
    { clock := hkept.env.symm
      written := fun i hi a ha => (hagree i hi).cell a (fp.subset i ha)
      kept := fun a ha => (hkept.cell a ha).symm }
  exact (side_by_side (symbolicRuntime false) keyFixedAccounts guardianBatch apart merged
    (.swap 1 0 [])).2

end BridgeProgram.CallSchedules
