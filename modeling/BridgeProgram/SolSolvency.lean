import BridgeProgram.CrossChainNetwork
import BridgeProgram.SolLedger

namespace BridgeProgram.SolSolvency

open BridgeProgram.BridgeProgramEntry
open BridgeProgram.CrossChainNetwork
open BridgeProgram.DeliveryChannels
open BridgeProgram.InstantCapRuns
open BridgeProgram.LedgerInvariants
open BridgeProgram.PayoutMessages
open BridgeProgram.PayoutSteps
open BridgeProgram.ProgramStates
open BridgeProgram.RegistryCells
open BridgeProgram.RegistryModel
open BridgeProgram.RunProjections
open BridgeProgram.SolLedger
open BridgeProgram.SolanaRuntime
open BridgeProgram.SourceSteps
open BridgeProgram.SymbolicRuntime
open BridgeProgram.TransitionRuns

variable {Pubkey Hash : Type}

variable [DecidableEq Pubkey]

variable {D : Deployment Pubkey Hash} {net net' net₀ : Network Pubkey Hash}
  {trace : List (NetworkTransition Pubkey Hash)} {chain source : Chain}
  {label : NetworkEvent Pubkey Hash} {rt : Runtime Pubkey Hash} {s s' : State Pubkey Hash}

omit [DecidableEq Pubkey] in
/-- The handler of a chain, if there is one, has its rent. -/
def RentPaid (D : Deployment Pubkey Hash) (chain : Chain) (net : Network Pubkey Hash) : Prop :=
  IsHandler (net.ledger chain) (D.bridgeHandler chain) →
    (D.runtime chain).minimumBalance handlerLen ≤
      (net.ledger chain).lamports (D.bridgeHandler chain)

variable [DecidableEq Hash] {event : Event Pubkey Hash} {bridgeHandler : Pubkey}

end BridgeProgram.SolSolvency
