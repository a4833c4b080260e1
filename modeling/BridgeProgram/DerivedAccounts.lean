import BridgeProgram.LedgerInvariants
import BridgeProgram.TokenEffects

namespace BridgeProgram.DerivedAccounts

open BridgeProgram.BridgeProgramEntry
open BridgeProgram.CallEffects
open BridgeProgram.ProgramStates
open BridgeProgram.RegistryModel
open BridgeProgram.SolanaRuntime
open BridgeProgram.TokenEffects
open BridgeProgram.TransitionRuns

variable {Pubkey Hash : Type}

def IsDerived (rt : Runtime Pubkey Hash) (a : Pubkey) : Prop :=
  ∃ seeds bump, rt.createProgramAddress seeds bump = some a

/-- What the system and the token programs do without a signature of a derived
address: no mint is created there, and mints and token accounts that a derived
address controls stay, without new supply and with all their tokens. -/
structure RespectsDerived (rt : Runtime Pubkey Hash) (s s' : State Pubkey Hash) : Prop where
  created : ∀ a tokenProgram m, IsDerived rt a → s'.data a = .mint tokenProgram m →
    ∃ m', s.data a = .mint tokenProgram m'
  issued : ∀ a tokenProgram m b, s.data a = .mint tokenProgram m → m.mintAuthority = some b →
    IsDerived rt b →
    ∃ m', s'.data a = .mint tokenProgram m' ∧ m'.mintAuthority = some b ∧ m'.supply ≤ m.supply
  taken : ∀ a tokenProgram w, s.data a = .tokenAccount tokenProgram w → IsDerived rt w.owner →
    ∃ w', s'.data a = .tokenAccount tokenProgram w' ∧ w'.mint = w.mint ∧ w'.owner = w.owner ∧
      w.amount ≤ w'.amount

/-- Everything but the calls of the program respects derived addresses. -/
def Respectful (rt : Runtime Pubkey Hash) (trace : List (LedgerTransition Pubkey Hash)) :
    Prop :=
  ∀ u ∈ trace, u.label = .other → RespectsDerived rt u.pre u.post

variable [DecidableEq Pubkey] [DecidableEq Hash] {rt : Runtime Pubkey Hash}
  {s s' : State Pubkey Hash} {event : Event Pubkey Hash} {a b tokenProgram : Pubkey}

omit [DecidableEq Pubkey] [DecidableEq Hash] in
theorem isDerived_of_handler {h : BridgeHandler Pubkey}
    (handler : HandlerAt rt s.programData a h) : IsDerived rt a :=
  ⟨_, _, handler.address⟩

theorem respectful_callTrace {calls : List (Call Pubkey Hash)}
    (h : (executeAll rt s calls).isOk = true) : Respectful rt (callTrace rt s calls) := by
  intro u hu hlabel
  obtain ⟨call, -, returned, hcall⟩ := exists_call_of_mem h hu
  cases hcall.symm.trans hlabel

theorem mint_persists (step : LedgerStep rt s event s')
    (respects : event = .other → RespectsDerived rt s s') {m : Mint Pubkey}
    (hdata : s.data a = .mint tokenProgram m) (authority : m.mintAuthority = some b)
    (derived : IsDerived rt b) :
    ∃ m', s'.data a = .mint tokenProgram m' ∧ m'.mintAuthority = some b := by
  cases step with
  | call executed => exact ⟨_, mint_kept (callEffect executed) hdata, authority⟩
  | other change =>
      obtain ⟨m', hdata', hauthority, -⟩ :=
        (respects rfl).issued a tokenProgram m b hdata authority derived
      exact ⟨m', hdata', hauthority⟩

end BridgeProgram.DerivedAccounts
