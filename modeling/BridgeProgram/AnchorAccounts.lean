import BridgeProgram.SolanaRuntime

namespace BridgeProgram.AnchorAccounts

open BridgeProgram.CheckedResult
open BridgeProgram.ProgramStates
open BridgeProgram.SolanaRuntime

variable {Pubkey Hash α : Type} [DecidableEq Pubkey]

/-- `Signer`. -/
def checkSigner (signers : List Pubkey) (key : Pubkey) : Except ProgramError Unit :=
  require (key ∈ signers) (.anchor .accountNotSigner)

omit [DecidableEq Pubkey] in
/-- `Account<T>`: the owner and the discriminator must fit. -/
def loadAccount (s : State Pubkey Hash) (read : ProgramData Pubkey Hash → Option α)
    (a : Pubkey) : Except ProgramError α :=
  match s.data a with
  | .program d => okOr (read d) (.anchor .accountDiscriminatorMismatch)
  | .system => .error (.anchor .accountNotInitialized)
  | _ => .error (.anchor .accountOwnedByWrongProgram)

omit [DecidableEq Pubkey] in
@[simp] theorem loadAccount_eq_ok {s : State Pubkey Hash}
    {read : ProgramData Pubkey Hash → Option α} {a : Pubkey} {x : α} :
    loadAccount s read a = .ok x ↔ ∃ d, s.data a = .program d ∧ read d = some x := by
  unfold loadAccount
  split <;> simp_all

/-- `Account<T>` with `seeds` and the stored `bump`. -/
def loadSeeded (rt : Runtime Pubkey Hash) (s : State Pubkey Hash)
    (read : ProgramData Pubkey Hash → Option α) (seeds : α → Seeds Pubkey Hash)
    (bump : α → UInt8) (a : Pubkey) : Except ProgramError α := do
  let x ← loadAccount s read a
  require (rt.createProgramAddress (seeds x) (bump x) = some a) (.anchor .constraintSeeds)
  pure x

theorem loadSeeded_eq_ok {rt : Runtime Pubkey Hash} {s : State Pubkey Hash}
    {read : ProgramData Pubkey Hash → Option α} {seeds : α → Seeds Pubkey Hash}
    {bump : α → UInt8} {a : Pubkey} {x : α} :
    loadSeeded rt s read seeds bump a = .ok x ↔
      (∃ d, s.data a = .program d ∧ read d = some x) ∧
        rt.createProgramAddress (seeds x) (bump x) = some a := by
  simp only [loadSeeded, bind_eq_ok, loadAccount_eq_ok, require_eq_ok, pure_eq_ok]
  constructor
  · rintro ⟨_, hload, _, hseeds, rfl⟩
    exact ⟨hload, hseeds⟩
  · rintro ⟨hload, hseeds⟩
    exact ⟨x, hload, (), hseeds, rfl⟩

def loadBridgeHandler (rt : Runtime Pubkey Hash) (s : State Pubkey Hash) (a : Pubkey) :
    Except ProgramError (BridgeHandler Pubkey) :=
  loadSeeded rt s ProgramData.bridgeHandler? (fun h => .bridgeHandler h.initNonce)
    BridgeHandler.bump a

def loadGuardianInfo (rt : Runtime Pubkey Hash) (s : State Pubkey Hash)
    (bridgeHandler a : Pubkey) : Except ProgramError (GuardianInfo Pubkey) :=
  loadSeeded rt s ProgramData.guardianInfo? (fun _ => .guardianInfo bridgeHandler)
    GuardianInfo.bump a

def loadTokenInfo (rt : Runtime Pubkey Hash) (s : State Pubkey Hash)
    (bridgeHandler mint a : Pubkey) : Except ProgramError (TokenInfo Pubkey) :=
  loadSeeded rt s ProgramData.tokenInfo? (fun _ => .tokenInfo bridgeHandler mint)
    TokenInfo.bump a

def loadVerifiedSignatures (rt : Runtime Pubkey Hash) (s : State Pubkey Hash)
    (bridgeHandler : Pubkey) (msgHash : Hash) (a : Pubkey) :
    Except ProgramError VerifiedSignatures :=
  loadSeeded rt s ProgramData.verifiedSignatures?
    (fun _ => .verifiedSignatures bridgeHandler msgHash) VerifiedSignatures.bump a

@[simp] theorem loadBridgeHandler_eq_ok {rt : Runtime Pubkey Hash} {s : State Pubkey Hash}
    {a : Pubkey} {h : BridgeHandler Pubkey} :
    loadBridgeHandler rt s a = .ok h ↔ s.data a = .program (.bridgeHandler h) ∧
      rt.createProgramAddress (.bridgeHandler h.initNonce) h.bump = some a := by
  simp [loadBridgeHandler, loadSeeded_eq_ok]

@[simp] theorem loadGuardianInfo_eq_ok {rt : Runtime Pubkey Hash} {s : State Pubkey Hash}
    {bridgeHandler a : Pubkey} {g : GuardianInfo Pubkey} :
    loadGuardianInfo rt s bridgeHandler a = .ok g ↔
      s.data a = .program (.guardianInfo g) ∧
        rt.createProgramAddress (.guardianInfo bridgeHandler) g.bump = some a := by
  simp [loadGuardianInfo, loadSeeded_eq_ok]

@[simp] theorem loadTokenInfo_eq_ok {rt : Runtime Pubkey Hash} {s : State Pubkey Hash}
    {bridgeHandler mint a : Pubkey} {t : TokenInfo Pubkey} :
    loadTokenInfo rt s bridgeHandler mint a = .ok t ↔
      s.data a = .program (.tokenInfo t) ∧
        rt.createProgramAddress (.tokenInfo bridgeHandler mint) t.bump = some a := by
  simp [loadTokenInfo, loadSeeded_eq_ok]

@[simp] theorem loadVerifiedSignatures_eq_ok {rt : Runtime Pubkey Hash}
    {s : State Pubkey Hash} {bridgeHandler a : Pubkey} {msgHash : Hash}
    {v : VerifiedSignatures} :
    loadVerifiedSignatures rt s bridgeHandler msgHash a = .ok v ↔
      s.data a = .program (.verifiedSignatures v) ∧
        rt.createProgramAddress (.verifiedSignatures bridgeHandler msgHash) v.bump =
          some a := by
  simp [loadVerifiedSignatures, loadSeeded_eq_ok]

/-- `init` with `seeds` and `bump`: create the account with contents `fresh` and
return the canonical bump. -/
def initAccount (rt : Runtime Pubkey Hash) (s : State Pubkey Hash) (payer : Pubkey)
    (seeds : Seeds Pubkey Hash) (a : Pubkey) (fresh : ProgramData Pubkey Hash) :
    Except ProgramError (State Pubkey Hash × UInt8) := do
  require ((rt.findProgramAddress seeds).1 = a) (.anchor .constraintSeeds)
  let s ← createAccount rt s payer a fresh.space (.program fresh)
  pure (s, (rt.findProgramAddress seeds).2)

/-- `init_if_needed` with `seeds` and `bump`: create the account unless it
exists, and load it. -/
def initIfNeeded (rt : Runtime Pubkey Hash) (s : State Pubkey Hash) (payer : Pubkey)
    (seeds : Seeds Pubkey Hash) (a : Pubkey) (read : ProgramData Pubkey Hash → Option α)
    (fresh : ProgramData Pubkey Hash) :
    Except ProgramError (State Pubkey Hash × α × UInt8) := do
  require ((rt.findProgramAddress seeds).1 = a) (.anchor .constraintSeeds)
  let s ← (if (s.data a).isSystem then
      createAccount rt s payer a fresh.space (.program fresh)
    else pure s)
  let x ← loadAccount s read a
  require (rt.minimumBalance fresh.space ≤ s.lamports a) (.anchor .constraintRentExempt)
  pure (s, x, (rt.findProgramAddress seeds).2)

/-- Whether an account is declared `mut` (or `init`) in the account list. -/
inductive Writability
  | mutable
  | readonly
  deriving DecidableEq

/-- The end of an instruction: an account's contents are stored only when the
account is declared `mut`, and only when they fit. -/
def exitAccount (w : Writability) (s : State Pubkey Hash) (a : Pubkey)
    (d : ProgramData Pubkey Hash) : Except ProgramError (State Pubkey Hash) :=
  match w with
  | .readonly => pure s
  | .mutable => do
      require (d.serializedLen ≤ d.space) (.anchor .accountDidNotSerialize)
      pure (s.setData a (.program d))

/-- `close = target`: the account's lamports go to `target` and the account to
the system program. -/
def closeAccount (s : State Pubkey Hash) (a target : Pubkey) :
    Except ProgramError (State Pubkey Hash) := do
  let total ← checkedAdd (s.lamports target) (s.lamports a) .panic
  pure (((s.setLamports target total).setLamports a 0).setData a .system)

end BridgeProgram.AnchorAccounts
