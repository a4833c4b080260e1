import BridgeProgram.CrossChainNetwork
import BridgeProgram.TokenLedger

namespace BridgeProgram.TokenSolvency

open BridgeProgram.BridgeProgramEntry
open BridgeProgram.CallEffects
open BridgeProgram.CrossChainNetwork
open BridgeProgram.DeliveryChannels
open BridgeProgram.DerivedAccounts
open BridgeProgram.DerivedMints
open BridgeProgram.LedgerInvariants
open BridgeProgram.PayoutMessages
open BridgeProgram.PayoutSteps
open BridgeProgram.RegistryModel
open BridgeProgram.ProgramStates
open BridgeProgram.RunProjections
open BridgeProgram.SolLedger
open BridgeProgram.SolanaRuntime
open BridgeProgram.SourceSteps
open BridgeProgram.SymbolicRuntime
open BridgeProgram.TokenEffects
open BridgeProgram.TokenInstructions
open BridgeProgram.TokenLedger
open BridgeProgram.TokenMapping
open BridgeProgram.TokenRegistry
open BridgeProgram.TransitionRuns

variable {Pubkey Hash : Type} [DecidableEq Pubkey]

/-- Tokens of a mint of the target chain that are paid. -/
def paidTokens (mint : Pubkey) : PayoutFields Pubkey → ℕ
  | .token _ _ _ targetMint amount _ _ _ => if targetMint = mint then amount.toNat else 0
  | .sol .. => 0

/-- The requests of a source chain that have not been paid out. -/
def unpaid (source : Chain) (net : Network Pubkey Hash) : List (PayoutFields Pubkey) :=
  pending PayoutFields.sourceTxId PayoutFields.sourceTxId (channel source net)

variable [DecidableEq Hash] {D : Deployment Pubkey Hash} {net net' net₀ : Network Pubkey Hash}
  {trace : List (NetworkTransition Pubkey Hash)} {chain home source : Chain}
  {label : NetworkEvent Pubkey Hash}
  {rt : Runtime Pubkey Hash} {s s' : State Pubkey Hash} {event : Event Pubkey Hash}
  {bridgeHandler mint tokenProgram native wrapped : Pubkey}

end BridgeProgram.TokenSolvency
