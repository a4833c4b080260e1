import BridgeProgram.SolanaRuntime

namespace BridgeProgram.TokenPrograms

open BridgeProgram.CheckedResult
open BridgeProgram.ProgramStates
open BridgeProgram.SolanaRuntime

variable {Pubkey Hash : Type} [DecidableEq Pubkey]

/-- `Interface<TokenInterface>`. -/
def checkTokenProgram (rt : Runtime Pubkey Hash) (tokenProgram : Pubkey) :
    Except ProgramError Unit :=
  require (tokenProgram ∈ rt.tokenPrograms) (.anchor .invalidProgramId)

omit [DecidableEq Pubkey] in
/-- The mint at an address, with the program that owns it. -/
def readMint (s : State Pubkey Hash) (a : Pubkey) :
    Except ProgramError (Pubkey × Mint Pubkey) :=
  match s.data a with
  | .mint tokenProgram m => .ok (tokenProgram, m)
  | .system => .error (.anchor .accountNotInitialized)
  | _ => .error (.anchor .accountOwnedByWrongProgram)

omit [DecidableEq Pubkey] in
/-- The token account at an address, with the program that owns it. -/
def readTokenAccount (s : State Pubkey Hash) (a : Pubkey) :
    Except ProgramError (Pubkey × TokenAccount Pubkey) :=
  match s.data a with
  | .tokenAccount tokenProgram t => .ok (tokenProgram, t)
  | .system => .error (.anchor .accountNotInitialized)
  | _ => .error (.anchor .accountOwnedByWrongProgram)

omit [DecidableEq Pubkey] in
@[simp] theorem readMint_eq_ok {s : State Pubkey Hash} {a tokenProgram : Pubkey}
    {m : Mint Pubkey} :
    readMint s a = .ok (tokenProgram, m) ↔ s.data a = .mint tokenProgram m := by
  unfold readMint
  split <;> simp_all

omit [DecidableEq Pubkey] in
@[simp] theorem readTokenAccount_eq_ok {s : State Pubkey Hash} {a tokenProgram : Pubkey}
    {t : TokenAccount Pubkey} :
    readTokenAccount s a = .ok (tokenProgram, t) ↔
      s.data a = .tokenAccount tokenProgram t := by
  unfold readTokenAccount
  split <;> simp_all

/-- `InterfaceAccount<Mint>` with `mint::token_program`. -/
def loadMint (rt : Runtime Pubkey Hash) (s : State Pubkey Hash) (tokenProgram a : Pubkey) :
    Except ProgramError (Mint Pubkey) := do
  let (owner, m) ← readMint s a
  require (owner ∈ rt.tokenPrograms) (.anchor .accountOwnedByWrongProgram)
  require (owner = tokenProgram) (.anchor .constraintMintTokenProgram)
  pure m

/-- The mint as the token program `tokenProgram` sees it. -/
def mintOf (s : State Pubkey Hash) (tokenProgram a : Pubkey) :
    Except ProgramError (Mint Pubkey) := do
  let (owner, m) ← readMint s a
  require (owner = tokenProgram) (.cpi .invalidAccountData)
  pure m

/-- The token account as the token program `tokenProgram` sees it. -/
def tokenAccountOf (s : State Pubkey Hash) (tokenProgram a : Pubkey) :
    Except ProgramError (TokenAccount Pubkey) := do
  let (owner, t) ← readTokenAccount s a
  require (owner = tokenProgram) (.cpi .invalidAccountData)
  pure t

/-- `transfer_checked`, signed by `authority`. -/
def transferChecked (rt : Runtime Pubkey Hash) (s : State Pubkey Hash)
    (tokenProgram source target mint authority : Pubkey) (amount : Nat)
    (decimals : UInt8) : Except ProgramError (State Pubkey Hash) := do
  let src ← tokenAccountOf s tokenProgram source
  let dst ← tokenAccountOf s tokenProgram target
  let m ← mintOf s tokenProgram mint
  require (src.mint = mint ∧ dst.mint = mint) (.cpi .mintMismatch)
  require (m.decimals = decimals) (.cpi .mintDecimalsMismatch)
  require (src.owner = authority) (.cpi .ownerMismatch)
  let left ← checkedSub src.amount amount (.cpi .insufficientTokens)
  if source = target then pure s
  else
    let total ← checkedAdd dst.amount (amount - rt.transferFee mint amount) (.cpi .overflow)
    let s := s.setData source (.tokenAccount tokenProgram { src with amount := left })
    pure (s.setData target (.tokenAccount tokenProgram { dst with amount := total }))

/-- `mint_to`, signed by `authority`. -/
def mintTo (s : State Pubkey Hash) (tokenProgram mint target authority : Pubkey)
    (amount : Nat) : Except ProgramError (State Pubkey Hash) := do
  let m ← mintOf s tokenProgram mint
  let dst ← tokenAccountOf s tokenProgram target
  require (dst.mint = mint) (.cpi .mintMismatch)
  require (m.mintAuthority = some authority) (.cpi .ownerMismatch)
  let supply ← checkedAdd m.supply amount (.cpi .overflow)
  let total ← checkedAdd dst.amount amount (.cpi .overflow)
  let s := s.setData mint (.mint tokenProgram { m with supply := supply })
  pure (s.setData target (.tokenAccount tokenProgram { dst with amount := total }))

/-- `burn`, signed by `authority`. -/
def burn (s : State Pubkey Hash) (tokenProgram mint source authority : Pubkey)
    (amount : Nat) : Except ProgramError (State Pubkey Hash) := do
  let m ← mintOf s tokenProgram mint
  let src ← tokenAccountOf s tokenProgram source
  require (src.mint = mint) (.cpi .mintMismatch)
  require (src.owner = authority) (.cpi .ownerMismatch)
  let left ← checkedSub src.amount amount (.cpi .insufficientTokens)
  let supply ← checkedSub m.supply amount (.cpi .overflow)
  let s := s.setData mint (.mint tokenProgram { m with supply := supply })
  pure (s.setData source (.tokenAccount tokenProgram { src with amount := left }))

/-- `associated_token::create`. -/
def createAssociatedToken (rt : Runtime Pubkey Hash) (s : State Pubkey Hash)
    (payer a authority mint tokenProgram : Pubkey) :
    Except ProgramError (State Pubkey Hash) := do
  require (rt.associatedTokenAddress authority mint tokenProgram = a) (.cpi .invalidSeeds)
  let _ ← mintOf s tokenProgram mint
  createAccount rt s payer a (rt.tokenAccountLen mint)
    (.tokenAccount tokenProgram { mint, owner := authority, amount := 0 })

end BridgeProgram.TokenPrograms
