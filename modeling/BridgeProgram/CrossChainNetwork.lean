import BridgeProgram.ApprovalSoundness
import BridgeProgram.DeliveryChannels
import BridgeProgram.PayoutMessages
import BridgeProgram.ReplayProtection
import BridgeProgram.RunProjections

/-!
The program deployed on both chains, with the guardians between them. The ledgers and
the guardians take their steps in any order; a guardian that keeps to the workflow signs
for a payout only what has been requested on the other chain. Each direction is then a
channel: whatever is paid out was requested, and it is paid out once.
-/

namespace BridgeProgram.CrossChainNetwork

open BridgeProgram.ApprovalSoundness
open BridgeProgram.BridgeProgramEntry
open BridgeProgram.DeliveryChannels
open BridgeProgram.LedgerInvariants
open BridgeProgram.PayoutMessages
open BridgeProgram.PayoutSteps
open BridgeProgram.ProgramStates
open BridgeProgram.RegistryModel
open BridgeProgram.RegistryRefinement
open BridgeProgram.ReplayProtection
open BridgeProgram.RunProjections
open BridgeProgram.SolanaRuntime
open BridgeProgram.SymbolicRuntime
open BridgeProgram.TransitionRuns

/-- The chain at the other end. -/
def oppositeChain : Chain → Chain
  | .solana => .solayer
  | .solayer => .solana

/-- The source transaction that a message names. -/
def PayoutFields.sourceTxId {Key : Type} : PayoutFields Key → Vector UInt8 64
  | .token _ _ _ _ _ _ sourceTxId _ => sourceTxId
  | .sol _ _ _ _ sourceTxId => sourceTxId

/-- The bridge on both chains. -/
structure Deployment (Pubkey Hash : Type) where
  runtime : Chain → Runtime Pubkey Hash
  bridgeHandler : Chain → Pubkey
  /-- The keys of those guardians of a chain that keep to the workflow. -/
  honest : Chain → Pubkey → Prop
  /-- The mints of the other chain that guardians accept for a mint of a source chain. -/
  paired : Chain → Pubkey → Pubkey → Prop

/-- The ledgers of both chains, what has been requested and paid out on each of them,
and the signatures that the guardians have made. -/
structure Network (Pubkey Hash : Type) where
  ledger : Chain → State Pubkey Hash
  requests : Chain → List (PayoutFields Pubkey)
  payouts : Chain → List (PayoutFields Pubkey)
  signed : List (Pubkey × Hash)

inductive NetworkEvent (Pubkey Hash : Type)
  /-- An event of a ledger, in the transaction of the given id. -/
  | transact (chain : Chain) (txId : Vector UInt8 64) (event : Event Pubkey Hash)
  | sign (guardian : Pubkey) (msgHash : Hash)

abbrev NetworkTransition (Pubkey Hash : Type) :=
  Transition (Network Pubkey Hash) (NetworkEvent Pubkey Hash)

variable {Pubkey Hash : Type} [DecidableEq Pubkey]

/-- What a successful source call of a handler asks for on the other chain. -/
def request? (bridgeHandler : Pubkey) (txId : Vector UInt8 64) :
    Event Pubkey Hash → Option (PayoutFields Pubkey)
  | .call call (some nonce) =>
      match call.ix with
      | .bridgeAssetSourceChain a _ amount recipient targetMint additionalSolGas =>
          if a.bridgeHandler = bridgeHandler then
            some (.token a.signer recipient a.mint targetMint amount nonce txId additionalSolGas)
          else none
      | .bridgeAssetSourceChainSol a _ amount recipient =>
          if a.bridgeHandler = bridgeHandler then
            some (.sol a.signer recipient amount nonce txId)
          else none
      | _ => none
  | _ => none

/-- What a successful payout of a handler pays. -/
def payment? (bridgeHandler : Pubkey) : Event Pubkey Hash → Option (PayoutFields Pubkey)
  | .call call _ =>
      match payout? call.ix with
      | some p => if p.bridgeHandler = bridgeHandler then payoutFields? call.ix else none
      | none => none
  | .other => none

/-- The network after an event of one of its ledgers. -/
def Network.record (D : Deployment Pubkey Hash) (net : Network Pubkey Hash) (chain : Chain)
    (txId : Vector UInt8 64) (event : Event Pubkey Hash) (s : State Pubkey Hash) :
    Network Pubkey Hash where
  ledger := Function.update net.ledger chain s
  requests := Function.update net.requests chain
    (net.requests chain ++ (request? (D.bridgeHandler chain) txId event).toList)
  payouts := Function.update net.payouts chain
    (net.payouts chain ++ (payment? (D.bridgeHandler chain) event).toList)
  signed := net.signed

variable [DecidableEq Hash]

/-- The signatures that a `verify_signature` of a handler accepts. -/
def acceptedSignatures (bridgeHandler : Pubkey) (t : LedgerTransition Pubkey Hash) :
    List (Pubkey × Hash) :=
  match t.label with
  | .call call _ =>
      match call.ix with
      | .verifySignature _ msgHash _ =>
          (acceptedKeys bridgeHandler msgHash t).map fun key => (key, msgHash)
      | _ => []
  | .other => []

/-- The hash that the guardians of a chain sign for a request. -/
def requestHash (rt : Runtime Pubkey Hash) (request : PayoutFields Pubkey) : Hash :=
  rt.hash (request.map rt.pubkeyBytes).messageData

/-- The guardians know the mints of a request from a source chain. -/
def Listed (D : Deployment Pubkey Hash) (source : Chain) : PayoutFields Pubkey → Prop
  | .token _ _ sourceMint mint _ _ _ _ => D.paired source sourceMint mint
  | .sol .. => True

/-- A valid request for a payout on `target` has been seen. -/
def Vouched (D : Deployment Pubkey Hash) (net : Network Pubkey Hash) (target : Chain)
    (msgHash : Hash) : Prop :=
  ∃ request ∈ net.requests (oppositeChain target), Listed D (oppositeChain target) request ∧
    requestHash (D.runtime target) request = msgHash

/-- A guardian that keeps to the workflow signs after it has seen a request for a chain that
it guards. -/
def Workflow (D : Deployment Pubkey Hash) (net : Network Pubkey Hash) (guardian : Pubkey)
    (msgHash : Hash) : Prop :=
  (∃ target, D.honest target guardian) →
    ∃ target, D.honest target guardian ∧ Vouched D net target msgHash

/-- One step of the network: a ledger moves, where `verify_signature` is given signatures
that have been made, or the owner of a key signs. -/
inductive NetworkStep (D : Deployment Pubkey Hash) :
    Network Pubkey Hash → NetworkEvent Pubkey Hash → Network Pubkey Hash → Prop
  | transact {net : Network Pubkey Hash} {chain : Chain} (txId : Vector UInt8 64)
      {event : Event Pubkey Hash} {s : State Pubkey Hash}
      (step : LedgerStep (D.runtime chain) (net.ledger chain) event s)
      (authentic : ∀ signature ∈ acceptedSignatures (D.bridgeHandler chain)
        ⟨net.ledger chain, event, s⟩, signature ∈ net.signed) :
      NetworkStep D net (.transact chain txId event) (net.record D chain txId event s)
  | sign {net : Network Pubkey Hash} {guardian : Pubkey} {msgHash : Hash}
      (workflow : Workflow D net guardian msgHash) :
      NetworkStep D net (.sign guardian msgHash)
        { net with signed := net.signed ++ [(guardian, msgHash)] }

omit [DecidableEq Pubkey] [DecidableEq Hash] in
/-- Neither ledger has seen the program, and nobody has signed. -/
structure Launched (net : Network Pubkey Hash) : Prop where
  genesis : ∀ chain, Genesis (net.ledger chain)
  unrequested : ∀ chain, net.requests chain = []
  unpaid : ∀ chain, net.payouts chain = []
  unsigned : net.signed = []

/-- Fewer guardians of a handler stray from the workflow than a payout needs. -/
def Quorum (D : Deployment Pubkey Hash) (chain : Chain) (s : State Pubkey Hash) : Prop :=
  ∀ h a g, HandlerAt (D.runtime chain) s.programData (D.bridgeHandler chain) h →
    GuardiansAt (D.runtime chain) s.programData (D.bridgeHandler chain) a g →
    ∀ keys : List Pubkey, keys.Nodup → (∀ k ∈ keys, k ∈ g.guardians ∧ ¬ D.honest chain k) →
      keys.length < h.guardianThreshold.toNat

/-- What is asked of a transition: guardians are removed behind the stored positions, and
payouts find a quorum. -/
structure Guarded (D : Deployment Pubkey Hash) (t : NetworkTransition Pubkey Hash) : Prop where
  removes : ∀ chain txId event, t.label = .transact chain txId event → ∀ msgHash,
    RemovesBehindApprovals (D.runtime chain) (D.bridgeHandler chain) msgHash
      ⟨t.pre.ledger chain, event, t.post.ledger chain⟩
  quorum : ∀ chain txId event paid, t.label = .transact chain txId event →
    payment? (D.bridgeHandler chain) event = some paid → Quorum D chain (t.pre.ledger chain)

omit [DecidableEq Pubkey] [DecidableEq Hash] in
/-- The events of one of the ledgers. -/
def onChain (chain : Chain) : NetworkEvent Pubkey Hash → Option (Event Pubkey Hash)
  | .transact chain' _ event => if chain' = chain then some event else none
  | .sign .. => none

omit [DecidableEq Pubkey] [DecidableEq Hash] in
/-- The transitions of one of the ledgers. -/
abbrev chainTrace (chain : Chain) (trace : List (NetworkTransition Pubkey Hash)) :
    List (LedgerTransition Pubkey Hash) :=
  project (fun net => net.ledger chain) (onChain chain) trace

omit [DecidableEq Pubkey] [DecidableEq Hash] in
/-- The channel from a source chain to the other one. -/
def channel (source : Chain) (net : Network Pubkey Hash) :
    Channel (PayoutFields Pubkey) (PayoutFields Pubkey) where
  requested := net.requests source
  delivered := net.payouts (oppositeChain source)

omit [DecidableEq Pubkey] [DecidableEq Hash] in
/-- A payout answers a request: the same message, for mints that belong together. -/
def Answers (D : Deployment Pubkey Hash) (source : Chain) (paid request : PayoutFields Pubkey) :
    Prop :=
  let rt := D.runtime (oppositeChain source)
  paid.map rt.pubkeyBytes = request.map rt.pubkeyBytes ∧ Listed D source request

variable {D : Deployment Pubkey Hash} {net net' net₀ : Network Pubkey Hash}
  {event : NetworkEvent Pubkey Hash} {trace : List (NetworkTransition Pubkey Hash)}
  {chain source target : Chain} {s : State Pubkey Hash}

theorem ledger_follows (step : NetworkStep D net event net') :
    Follows (LedgerStep (D.runtime chain)) (fun net => net.ledger chain) (onChain chain)
      ⟨net, event, net'⟩ := by
  cases step with
  | sign workflow => rfl
  | @transact chain' txId event s step authentic =>
      unfold Follows
      by_cases hchain : chain' = chain
      · subst hchain
        simpa [onChain, Network.record] using step
      · simp [onChain, hchain, Network.record, Function.update_of_ne (Ne.symm hchain)]

theorem ledgerRun_of_run (run : Run (NetworkStep D) net₀ trace net) :
    LedgerRun (D.runtime chain) (net₀.ledger chain) (chainTrace chain trace)
      (net.ledger chain) :=
  Run.project run fun _ _ next => ledger_follows next

theorem requests_kept (step : NetworkStep D net event net') {request : PayoutFields Pubkey}
    (h : request ∈ net.requests chain) : request ∈ net'.requests chain := by
  cases step with
  | sign workflow => exact h
  | @transact chain' txId event s step authentic =>
      by_cases hchain : chain = chain'
      · subst hchain
        simp [Network.record, h]
      · simpa [Network.record, Function.update_of_ne hchain] using h

theorem Vouched.kept {msgHash : Hash} (vouched : Vouched D net target msgHash)
    (step : NetworkStep D net event net') : Vouched D net' target msgHash := by
  obtain ⟨request, hrequest, hlisted, hhash⟩ := vouched
  exact ⟨request, requests_kept step hrequest, hlisted, hhash⟩

theorem Workflow.kept {key : Pubkey} {msgHash : Hash} (workflow : Workflow D net key msgHash)
    (step : NetworkStep D net event net') : Workflow D net' key msgHash := by
  intro hhonest
  obtain ⟨target, honest, vouched⟩ := workflow hhonest
  exact ⟨target, honest, vouched.kept step⟩

omit [DecidableEq Pubkey] [DecidableEq Hash] in
/-- Addresses of accounts and hashes of messages do not collide. -/
structure Reliable (D : Deployment Pubkey Hash) : Prop where
  addresses : ∀ chain, CollisionFree (D.runtime chain)
  hashes : ∀ chain, Function.Injective (D.runtime chain).hash

/-- The network after transitions of one of its ledgers. -/
def Network.recordAll (D : Deployment Pubkey Hash) (chain : Chain) (txId : Vector UInt8 64) :
    Network Pubkey Hash → List (LedgerTransition Pubkey Hash) → Network Pubkey Hash
  | net, [] => net
  | net, t :: ts => recordAll D chain txId (net.record D chain txId t.label t.post) ts

/-- The transitions of the network that transitions of one of its ledgers are. -/
def networkTrace (D : Deployment Pubkey Hash) (chain : Chain) (txId : Vector UInt8 64) :
    Network Pubkey Hash → List (LedgerTransition Pubkey Hash) →
      List (NetworkTransition Pubkey Hash)
  | _, [] => []
  | net, t :: ts =>
      ⟨net, .transact chain txId t.label, net.record D chain txId t.label t.post⟩ ::
        networkTrace D chain txId (net.record D chain txId t.label t.post) ts

theorem run_of_ledgerRun {txId : Vector UInt8 64}
    {ts : List (LedgerTransition Pubkey Hash)}
    (run : LedgerRun (D.runtime chain) (net.ledger chain) ts s)
    (authentic : ∀ t ∈ ts, ∀ signature ∈ acceptedSignatures (D.bridgeHandler chain) t,
      signature ∈ net.signed) :
    Run (NetworkStep D) net (networkTrace D chain txId net ts) (net.recordAll D chain txId ts) ∧
      (net.recordAll D chain txId ts).ledger chain = s := by
  induction ts generalizing net with
  | nil =>
      obtain rfl := run.eq_of_nil
      exact ⟨.nil _, rfl⟩
  | cons t ts ih =>
      obtain ⟨pre, label, post⟩ := t
      obtain ⟨rfl, hstep, hrest⟩ := run.uncons
      have hledger : (net.record D chain txId label post).ledger chain = post :=
        Function.update_self ..
      have htail : LedgerRun (D.runtime chain) ((net.record D chain txId label post).ledger chain)
          ts s := by
        rw [hledger]
        exact hrest
      obtain ⟨hrun, hlast⟩ := ih htail fun t ht => authentic t (List.mem_cons_of_mem _ ht)
      exact ⟨.cons (.transact txId hstep (authentic _ List.mem_cons_self)) hrun, hlast⟩

theorem exists_of_mem_networkTrace {txId : Vector UInt8 64}
    {ts : List (LedgerTransition Pubkey Hash)}
    (run : LedgerRun (D.runtime chain) (net.ledger chain) ts s)
    {u : NetworkTransition Pubkey Hash} (hu : u ∈ networkTrace D chain txId net ts) :
    ∃ t ∈ ts, u.label = .transact chain txId t.label ∧ u.pre.ledger chain = t.pre := by
  induction ts generalizing net with
  | nil => cases hu
  | cons t ts ih =>
      obtain ⟨hpre, -, hrest⟩ := run.uncons
      rcases List.mem_cons.mp hu with rfl | hu
      · exact ⟨t, List.mem_cons_self, rfl, hpre.symm⟩
      · have htail : LedgerRun (D.runtime chain)
            ((net.record D chain txId t.label t.post).ledger chain) ts s := by
          simpa [Network.record] using hrest
        obtain ⟨t', ht', hlabel⟩ := ih htail hu
        exact ⟨t', List.mem_cons_of_mem _ ht', hlabel⟩

omit [DecidableEq Pubkey] [DecidableEq Hash] in
def removesGuardian : Event Pubkey Hash → Bool
  | .call call _ =>
      match call.ix with
      | .removeGuardian .. => true
      | _ => false
  | .other => false

/-- A guarded run in which nothing but calls of the program and signatures happens. -/
structure OwnRun (D : Deployment Pubkey Hash) (net : Network Pubkey Hash)
    (trace : List (NetworkTransition Pubkey Hash)) (net' : Network Pubkey Hash) : Prop where
  run : Run (NetworkStep D) net trace net'
  guarded : ∀ t ∈ trace, Guarded D t
  own : ∀ t ∈ trace, ∀ chain txId, t.label ≠ .transact chain txId .other

theorem OwnRun.append {net'' : Network Pubkey Hash}
    {first second : List (NetworkTransition Pubkey Hash)} (h₁ : OwnRun D net first net')
    (h₂ : OwnRun D net' second net'') : OwnRun D net (first ++ second) net'' where
  run := h₁.run.append h₂.run
  guarded t ht := (List.mem_append.mp ht).elim (h₁.guarded t) (h₂.guarded t)
  own t ht := (List.mem_append.mp ht).elim (h₁.own t) (h₂.own t)

theorem ownRun_of_calls {calls : List (Call Pubkey Hash)} (txId : Vector UInt8 64)
    (hok : (executeAll (D.runtime chain) (net.ledger chain) calls).isOk = true)
    (authentic : ∀ t ∈ callTrace (D.runtime chain) (net.ledger chain) calls,
      ∀ signature ∈ acceptedSignatures (D.bridgeHandler chain) t, signature ∈ net.signed)
    (kept : ∀ t ∈ callTrace (D.runtime chain) (net.ledger chain) calls,
      removesGuardian t.label = false)
    (quorum : ∀ t ∈ callTrace (D.runtime chain) (net.ledger chain) calls,
      payment? (D.bridgeHandler chain) t.label ≠ none → Quorum D chain t.pre) :
    OwnRun D net
      (networkTrace D chain txId net (callTrace (D.runtime chain) (net.ledger chain) calls))
      (net.recordAll D chain txId (callTrace (D.runtime chain) (net.ledger chain) calls)) where
  run := (run_of_ledgerRun (run_callTrace hok) authentic).1
  guarded u hu := by
    obtain ⟨t, ht, hlabel, hpre⟩ := exists_of_mem_networkTrace (run_callTrace hok) hu
    constructor
    · intro chain' txId' event hlabel' msgHash call returned x hcall hix
      obtain ⟨-, -, rfl⟩ := NetworkEvent.transact.inj (hlabel.symm.trans hlabel')
      have hkept := kept t ht
      simp only at hcall
      simp [hcall, removesGuardian, hix] at hkept
    · intro chain' txId' event paid hlabel' hpaid
      obtain ⟨rfl, -, rfl⟩ := NetworkEvent.transact.inj (hlabel.symm.trans hlabel')
      rw [hpre]
      exact quorum t ht (by rw [hpaid]; exact Option.some_ne_none _)
  own u hu chain' txId' hother := by
    obtain ⟨t, ht, hlabel, -⟩ := exists_of_mem_networkTrace (run_callTrace hok) hu
    obtain ⟨call, -, returned, hcall⟩ := exists_call_of_mem hok ht
    obtain ⟨-, -, hevent⟩ := NetworkEvent.transact.inj (hlabel.symm.trans hother)
    cases hcall.symm.trans hevent

theorem pre_of_mem_callTrace {rt : Runtime Pubkey Hash} {call : Call Pubkey Hash}
    (hok : (executeAll rt s [call]).isOk = true) {t : LedgerTransition Pubkey Hash}
    (ht : t ∈ callTrace rt s [call]) : t.pre = s := by
  have hrun := run_callTrace hok
  have hlabels := labels_callTrace hok
  generalize callTrace rt s [call] = trace at ht hrun hlabels
  cases hlabels with
  | cons _ hrest =>
      cases hrest
      obtain rfl := List.mem_singleton.mp ht
      exact hrun.uncons.1

theorem ownRun_of_signatures (signatures : List (Pubkey × Hash))
    (workflow : ∀ x ∈ signatures, Workflow D net x.1 x.2) :
    ∃ trace, OwnRun D net trace { net with signed := net.signed ++ signatures } := by
  induction signatures using List.reverseRecOn with
  | nil =>
      rw [List.append_nil]
      exact ⟨[], .nil _, fun _ ht => (by cases ht), fun _ ht => (by cases ht)⟩
  | append_singleton signatures last ih =>
      obtain ⟨trace, hrun⟩ := ih fun x hx => workflow x (List.mem_append_left _ hx)
      have hlast : NetworkStep D { net with signed := net.signed ++ signatures }
          (.sign last.1 last.2) { net with signed := net.signed ++ (signatures ++ [last]) } := by
        rw [← List.append_assoc]
        exact .sign (workflow last (List.mem_append_right _ (List.mem_singleton_self _)))
      refine ⟨_, hrun.append ⟨.single hlast, fun t ht => ?_, fun t ht chain txId hlabel => ?_⟩⟩
      · obtain rfl := List.mem_singleton.mp ht
        exact ⟨fun _ _ _ h => (by cases h), fun _ _ _ _ h => (by cases h)⟩
      · obtain rfl := List.mem_singleton.mp ht
        cases hlabel

/-- The mint that the Solayer handler of the sample creates for token 40 of Solana. -/
def wrappedMint : Key :=
  mintKey (handlerKey 8) (.atom 40)

/-- A handler on each chain. The Solayer handler has three guardians, one of which signs
whatever it likes. -/
def sampleDeployment : Deployment Key Digest where
  runtime
    | .solana => symbolicRuntime false
    | .solayer => symbolicRuntime true
  bridgeHandler
    | .solana => handlerKey 7
    | .solayer => handlerKey 8
  honest target key := target = .solayer ∧ (key = .atom 11 ∨ key = .atom 12)
  paired
    | .solana, mint, target => mint = .atom 40 ∧ target = wrappedMint
    | .solayer, mint, target => mint = wrappedMint ∧ target = .atom 40

theorem sampleDeployment_reliable : Reliable sampleDeployment where
  addresses
    | .solana => symbolicRuntime_collisionFree false
    | .solayer => symbolicRuntime_collisionFree true
  hashes
    | .solana => fun _ _ h => h
    | .solayer => fun _ _ h => h

/-- On Solana key 5 owns a thousand units of token 40. -/
def sampleNetwork : Network Key Digest where
  ledger
    | .solana =>
        { sampleLedger with
          data := fun a =>
            if a = .atom 40 then
              .mint (.atom 1004) { supply := 1000, decimals := 6, mintAuthority := none }
            else if a = vaultKey (.atom 5) (.atom 40) then
              .tokenAccount (.atom 1004) { mint := .atom 40, owner := .atom 5, amount := 1000 }
            else .system }
    | .solayer => sampleLedger
  requests _ := []
  payouts _ := []
  signed := []

theorem launched_sampleNetwork : Launched sampleNetwork where
  genesis
    | .solana => by
        intro a
        simp only [sampleNetwork, State.programData]
        split_ifs <;> rfl
    | .solayer => genesis_ledgerOf _
  unrequested _ := rfl
  unpaid _ := rfl
  unsigned := rfl

/-- The network after a transaction on one of the chains. -/
def afterCalls (D : Deployment Key Digest) (net : Network Key Digest) (chain : Chain)
    (txId : Vector UInt8 64) (calls : List (Call Key Digest)) : Network Key Digest :=
  net.recordAll D chain txId (callTrace (D.runtime chain) (net.ledger chain) calls)

/-- Calls that succeed with signatures that have been made, without the removal of a
guardian, and without a payout unless it is allowed. -/
def checkCalls (D : Deployment Key Digest) (net : Network Key Digest) (chain : Chain)
    (mayPay : Bool) (calls : List (Call Key Digest)) : Bool :=
  match executeAll (D.runtime chain) (net.ledger chain) calls with
  | .ok (trace, _) => trace.all fun t =>
      (acceptedSignatures (D.bridgeHandler chain) t).all (fun x => x ∈ net.signed) &&
        !removesGuardian t.label &&
        (mayPay || (payment? (D.bridgeHandler chain) t.label).isNone)
  | .error _ => false

theorem ownRun_of_check {D : Deployment Key Digest} {net : Network Key Digest} {chain : Chain}
    {mayPay : Bool} {calls : List (Call Key Digest)} (txId : Vector UInt8 64)
    (check : checkCalls D net chain mayPay calls = true)
    (quorum : mayPay = true → ∀ t ∈ callTrace (D.runtime chain) (net.ledger chain) calls,
      Quorum D chain t.pre) :
    ∃ trace, OwnRun D net trace (afterCalls D net chain txId calls) := by
  have hok : (executeAll (D.runtime chain) (net.ledger chain) calls).isOk = true := by
    unfold checkCalls at check
    split at check
    next hexecuted => rw [hexecuted]; rfl
    next => cases check
  have hall : ∀ t ∈ callTrace (D.runtime chain) (net.ledger chain) calls,
      ((∀ x ∈ acceptedSignatures (D.bridgeHandler chain) t, x ∈ net.signed) ∧
        removesGuardian t.label = false) ∧
        (mayPay = true ∨ payment? (D.bridgeHandler chain) t.label = none) := by
    unfold checkCalls at check
    unfold callTrace
    split at check
    next hexecuted =>
      rw [hexecuted]
      simpa using check
    next => cases check
  refine ⟨_, ownRun_of_calls txId hok (fun t ht => (hall t ht).1.1)
    (fun t ht => (hall t ht).1.2) fun t ht hpaid => ?_⟩
  rcases (hall t ht).2 with hmay | hnone
  · exact quorum hmay t ht
  · exact absurd hnone hpaid

theorem ownRun_afterCalls {D : Deployment Key Digest} {net : Network Key Digest} {chain : Chain}
    {calls : List (Call Key Digest)} (txId : Vector UInt8 64)
    (check : checkCalls D net chain false calls = true) :
    ∃ trace, OwnRun D net trace (afterCalls D net chain txId calls) :=
  ownRun_of_check txId check fun h => nomatch h

theorem ownRun_of_payout {D : Deployment Key Digest} {net : Network Key Digest} {chain : Chain}
    {call : Call Key Digest} (txId : Vector UInt8 64)
    (check : checkCalls D net chain true [call] = true)
    (quorum : Quorum D chain (net.ledger chain)) :
    ∃ trace, OwnRun D net trace (afterCalls D net chain txId [call]) := by
  refine ownRun_of_check txId check fun _ t ht => ?_
  unfold checkCalls at check
  split at check
  next hexecuted => rwa [pre_of_mem_callTrace (by rw [hexecuted]; rfl) ht]
  next => cases check

theorem reachable_of_ownRun {D : Deployment Key Digest} {net₀ net : Network Key Digest}
    {trace : List (NetworkTransition Key Digest)} (launched : Launched net₀)
    (own : OwnRun D net₀ trace net) (chain : Chain) :
    LedgerReachable (D.runtime chain) (net.ledger chain) :=
  ⟨net₀.ledger chain, chainTrace chain trace, launched.genesis chain, ledgerRun_of_run own.run⟩

theorem quorum_of_check (solayer : Bool) (strays : List Key) {D : Deployment Key Digest}
    {chain : Chain} {s : State Key Digest} (runtime : D.runtime chain = symbolicRuntime solayer)
    (reachable : LedgerReachable (D.runtime chain) s) {threshold : UInt8}
    {members : List Key}
    (handler : checkHandler s (D.bridgeHandler chain) (fun x => x.guardianThreshold = threshold) =
      true)
    (guardians : checkGuardians s (D.bridgeHandler chain) (fun g => g.guardians = members) = true)
    (honest : ∀ k ∈ members, D.honest chain k ∨ k ∈ strays)
    (few : strays.length < threshold.toNat) : Quorum D chain s := by
  obtain ⟨x, hhandler, hx⟩ := exists_handlerAt solayer s _ _ handler
  obtain ⟨g, hguardians, hg⟩ := exists_guardiansAt solayer s _ _ guardians
  rw [← runtime] at hhandler hguardians
  have collisionFree : CollisionFree (D.runtime chain) :=
    runtime ▸ symbolicRuntime_collisionFree solayer
  intro h a g' handler' guardians' keys hnodup hkeys
  obtain rfl := hhandler.unique handler'
  obtain ⟨-, rfl⟩ := guardiansAt_unique collisionFree (canonical_of_reachable reachable)
    hguardians guardians'
  have hsubset : keys ⊆ strays := by
    intro k hk
    obtain ⟨hmem, hstray⟩ := hkeys k hk
    rw [of_decide_eq_true hg] at hmem
    exact (honest k hmem).resolve_left hstray
  rw [of_decide_eq_true hx]
  exact Nat.lt_of_le_of_lt (List.subperm_of_subset hnodup hsubset).length_le few

/-- The guardians of the sample guard both chains with the same keys. -/
def sharedDeployment : Deployment Key Digest :=
  { sampleDeployment with honest := fun _ key => key = .atom 11 ∨ key = .atom 12 }

/-- Key 5 bridges SOL from Solana. -/
def sharedRequest : List (Call Key Digest) :=
  let bridgeHandler := handlerKey 7
  [ initializeBy (.atom 5) 7 1 (.atom 5) (.atom 6),
    addGuardianBy (.atom 5) bridgeHandler (.atom 11),
    addGuardianBy (.atom 5) bridgeHandler (.atom 12),
    updateThresholdBy (.atom 5) bridgeHandler 2,
    bridgeSolBy (.atom 5) bridgeHandler (.atom 5) 0 10000000 (.atom 20) ]

def sharedTransfer : SolTransfer where
  sender := .atom 5
  recipient := .atom 20
  amount := 10000000
  nonce := 0
  sourceTxId := Vector.replicate 64 9

def sharedVerification : List (Call Key Digest) :=
  [ verifyBy (.atom 6) (handlerKey 7) sharedTransfer.msgHash [0, 1] [.atom 11, .atom 12] ]

def sharedRequested : Network Key Digest :=
  afterCalls sharedDeployment sampleNetwork .solana sharedTransfer.sourceTxId sharedRequest

def sharedSigned : Network Key Digest :=
  { sharedRequested with
    signed := sharedRequested.signed ++
      [(.atom 11, sharedTransfer.msgHash), (.atom 12, sharedTransfer.msgHash)] }

/-- The signatures are submitted on Solana, where the request came from. -/
def sharedApproved : Network Key Digest :=
  afterCalls sharedDeployment sharedSigned .solana (Vector.replicate 64 3) sharedVerification

def sharedPaid : Network Key Digest :=
  afterCalls sharedDeployment sharedApproved .solana (Vector.replicate 64 4)
    [paySolBy (.atom 6) (handlerKey 7) sharedTransfer]

theorem shared_checked :
    checkCalls sharedDeployment sampleNetwork .solana false sharedRequest = true ∧
      PayoutFields.sol (.atom 5) (.atom 20) 10000000 0 sharedTransfer.sourceTxId ∈
        sharedRequested.requests .solana ∧
      requestHash (sharedDeployment.runtime .solayer)
        (.sol (.atom 5) (.atom 20) 10000000 0 sharedTransfer.sourceTxId) =
          sharedTransfer.msgHash ∧
      checkCalls sharedDeployment sharedSigned .solana false sharedVerification = true ∧
      checkHandler (sharedApproved.ledger .solana) (handlerKey 7)
        (fun x => x.guardianThreshold = 2) = true ∧
      checkGuardians (sharedApproved.ledger .solana) (handlerKey 7)
        (fun g => g.guardians = [.atom 11, .atom 12]) = true ∧
      checkCalls sharedDeployment sharedApproved .solana true
        [paySolBy (.atom 6) (handlerKey 7) sharedTransfer] = true ∧
      sharedPaid.requests .solayer = [] ∧
      (sharedPaid.payouts (oppositeChain .solayer)).length = 1 := by
  decide +kernel

theorem sharedPaid_ownRun : ∃ trace, OwnRun sharedDeployment sampleNetwork trace sharedPaid := by
  obtain ⟨request, asked, hash, verification, handler, guardians, payment, -⟩ := shared_checked
  have hworkflow (key : Key) :
      Workflow sharedDeployment sharedRequested key sharedTransfer.msgHash := by
    rintro ⟨_, hkey⟩
    exact ⟨.solayer, hkey, _, asked, trivial, hash⟩
  obtain ⟨_, hrequested⟩ : ∃ trace, OwnRun sharedDeployment sampleNetwork trace sharedRequested :=
    ownRun_afterCalls sharedTransfer.sourceTxId request
  obtain ⟨_, hsigned⟩ : ∃ trace, OwnRun sharedDeployment sharedRequested trace sharedSigned := by
    apply ownRun_of_signatures
    intro x hx
    simp only [List.mem_cons, List.not_mem_nil, or_false] at hx
    rcases hx with rfl | rfl <;> exact hworkflow _
  obtain ⟨_, hverified⟩ : ∃ trace, OwnRun sharedDeployment sharedSigned trace sharedApproved :=
    ownRun_afterCalls (Vector.replicate 64 3) verification
  have happroved := (hrequested.append hsigned).append hverified
  have hquorum : Quorum sharedDeployment .solana (sharedApproved.ledger .solana) := by
    refine quorum_of_check false [] rfl
      (reachable_of_ownRun launched_sampleNetwork happroved .solana) handler guardians ?_
      (by decide)
    intro k hk
    simp only [List.mem_cons, List.not_mem_nil, or_false] at hk
    exact .inl hk
  obtain ⟨_, hpaid⟩ : ∃ trace, OwnRun sharedDeployment sharedApproved trace sharedPaid :=
    ownRun_of_payout (Vector.replicate 64 4) payment hquorum
  exact ⟨_, happroved.append hpaid⟩

theorem not_faithful_of_unrequested {D : Deployment Key Digest} {net : Network Key Digest}
    {source : Chain} (unrequested : net.requests source = [])
    (paid : 0 < (net.payouts (oppositeChain source)).length) :
    ¬ Faithful (Answers D source) PayoutFields.sourceTxId (channel source net) := by
  intro faithful
  obtain ⟨payout, hmem⟩ := List.exists_mem_of_length_pos paid
  obtain ⟨request, hrequest, -⟩ := faithful.requested payout hmem
  rw [channel, unrequested] at hrequest
  cases hrequest

/-- With keys that guard both chains the channels fail: the signatures for a payout on
Solayer pay out on Solana too, where nobody asked for it. -/
theorem shared_keys_pay_unrequested :
    ∃ (D : Deployment Key Digest) (net₀ net : Network Key Digest)
      (trace : List (NetworkTransition Key Digest)), Reliable D ∧ Launched net₀ ∧
      Run (NetworkStep D) net₀ trace net ∧ (∀ t ∈ trace, Guarded D t) ∧
      ¬ Faithful (Answers D .solayer) PayoutFields.sourceTxId (channel .solayer net) := by
  obtain ⟨trace, hrun⟩ := sharedPaid_ownRun
  obtain ⟨-, -, -, -, -, -, -, hunrequested, hpaid⟩ := shared_checked
  exact ⟨sharedDeployment, sampleNetwork, sharedPaid, _,
    ⟨sampleDeployment_reliable.addresses, sampleDeployment_reliable.hashes⟩,
    launched_sampleNetwork, hrun.run, hrun.guarded,
    not_faithful_of_unrequested hunrequested (hpaid ▸ Nat.one_pos)⟩

end BridgeProgram.CrossChainNetwork
