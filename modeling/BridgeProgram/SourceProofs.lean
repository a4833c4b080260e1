import BridgeProgram.RegistryRefinement
import BridgeProgram.SymbolicRuntime

namespace BridgeProgram.SourceProofs

open BridgeProgram.BridgeProgramEntry
open BridgeProgram.ByteStrings
open BridgeProgram.MessageFormats
open BridgeProgram.ProgramStates
open BridgeProgram.RegistryModel
open BridgeProgram.RegistryRefinement
open BridgeProgram.SolanaRuntime
open BridgeProgram.SourceInstructions
open BridgeProgram.SymbolicRuntime
open BridgeProgram.TransitionRuns

variable {Pubkey Hash : Type}

/-- What a source call asks for. The mint is given by its bytes, since the SOL
instruction has a constant for it. -/
structure SourceFields (Pubkey : Type) where
  signer : Pubkey
  recipient : Pubkey
  mint : Vector UInt8 32
  amount : UInt64
  additionalSolGas : UInt64
  bridgeProofNonce : UInt64
  bridgeHandler : Pubkey
  bridgeProof : Pubkey

/-- The request of a source call. -/
def sourceFields? (rt : Runtime Pubkey Hash) :
    Instruction Pubkey Hash → Option (SourceFields Pubkey)
  | .bridgeAssetSourceChain a bridgeProofNonce amount recipient _ additionalSolGas =>
      some { signer := a.signer, recipient, mint := rt.pubkeyBytes a.mint, amount
             additionalSolGas, bridgeProofNonce, bridgeHandler := a.bridgeHandler
             bridgeProof := a.bridgeProof }
  | .bridgeAssetSourceChainSol a bridgeProofNonce amount recipient =>
      some { signer := a.signer, recipient, mint := solMintPubkey, amount
             additionalSolGas := 0, bridgeProofNonce, bridgeHandler := a.bridgeHandler
             bridgeProof := a.bridgeProof }
  | _ => none

theorem fields_of_messageData {signer recipient mint signer' recipient' mint' : Vector UInt8 32}
    {amount bridgeProofNonce amount' bridgeProofNonce' : UInt64}
    (h : issueBridgeProofMessageData signer recipient mint amount bridgeProofNonce =
      issueBridgeProofMessageData signer' recipient' mint' amount' bridgeProofNonce') :
    signer = signer' ∧ recipient = recipient' ∧ mint = mint' ∧ amount = amount' ∧
      bridgeProofNonce = bridgeProofNonce' := by
  simp only [issueBridgeProofMessageData, List.append_assoc] at h
  obtain ⟨hsigner, h⟩ := List.append_inj h (by simp)
  obtain ⟨hrecipient, h⟩ := List.append_inj h (by simp)
  obtain ⟨hmint, h⟩ := List.append_inj h (by simp)
  obtain ⟨hamount, hnonce⟩ := List.append_inj h (by simp)
  exact ⟨Vector.toList_inj.mp hsigner, Vector.toList_inj.mp hrecipient,
    Vector.toList_inj.mp hmint, toBeBytes_inj.mp hamount, toBeBytes_inj.mp hnonce⟩

variable [DecidableEq Pubkey] [DecidableEq Hash] {rt : Runtime Pubkey Hash}
  {s s' : State Pubkey Hash} {call : Call Pubkey Hash} {returned : Option UInt64}
  {f : SourceFields Pubkey}

theorem source_effect (kind : sourceFields? rt call.ix = some f)
    (executed : execute rt s call = .ok (s', returned)) :
    ∃ h bump, HandlerAt rt s.programData f.bridgeHandler h ∧ returned = some h.nonce ∧
      s'.programData f.bridgeProof = some (.bridgeProofSourceChain (issueBridgeProof rt s.clock
        bump f.signer f.recipient f.mint f.amount f.bridgeProofNonce)) := by
  have step := (execute_refines executed).1
  generalize s'.programData = r' at step
  cases step with
  | @bridgeAssetSourceChain _ _ a bridgeProofNonce amount recipient targetMint gas h t t' bump
      tokenBump request tokenAddress distinct =>
      obtain rfl := Option.some.inj kind
      refine ⟨h, bump, request.handler, rfl, ?_⟩
      rw [Function.update_of_ne distinct.symm, Function.update_self]
  | bridgeAssetSourceChainSol request =>
      obtain rfl := Option.some.inj kind
      exact ⟨_, _, request.handler, rfl, Function.update_self ..⟩
  | managed kind' => cases hix : call.ix <;> simp_all [managerUpdate?, sourceFields?]
  | tokenPause kind' => cases hix : call.ix <;> simp_all [tokenPause?, sourceFields?]
  | payout kind' => cases hix : call.ix <;> simp_all [payout?, sourceFields?]
  | _ => cases kind

/-- What the target chain pays out or checks is the same in two requests. Keys are
compared as their 32 bytes. -/
structure SameRequest (rt : Runtime Pubkey Hash) (f f' : SourceFields Pubkey)
    (returned returned' : Option UInt64) : Prop where
  signer : f.signer = f'.signer
  recipient : rt.pubkeyBytes f.recipient = rt.pubkeyBytes f'.recipient
  mint : f.mint = f'.mint
  amount : f.amount = f'.amount
  additionalSolGas : f.additionalSolGas = f'.additionalSolGas
  nonce : returned = returned'

/-- Two source calls leave proofs with the same hash and user at one address. -/
structure SameProof (s s' : State Pubkey Hash) (f f' : SourceFields Pubkey) : Prop where
  address : f.bridgeProof = f'.bridgeProof
  proofs : ∃ p p', s.programData f.bridgeProof = some (.bridgeProofSourceChain p) ∧
    s'.programData f'.bridgeProof = some (.bridgeProofSourceChain p') ∧
    p.msgHash = p'.msgHash ∧ p.userAccount = p'.userAccount

theorem sameProof_of_executed {s₁ s₁' s₂ s₂' : State Pubkey Hash}
    {call₁ call₂ : Call Pubkey Hash} {returned₁ returned₂ : Option UInt64}
    (additionalSolGas : UInt64) (kind₁ : sourceFields? rt call₁.ix = some f)
    (kind₂ : sourceFields? rt call₂.ix = some { f with additionalSolGas })
    (executed₁ : execute rt s₁ call₁ = .ok (s₁', returned₁))
    (executed₂ : execute rt s₂ call₂ = .ok (s₂', returned₂)) :
    SameProof s₁' s₂' f { f with additionalSolGas } := by
  obtain ⟨-, bump₁, -, -, hproof₁⟩ := source_effect kind₁ executed₁
  obtain ⟨-, bump₂, -, -, hproof₂⟩ := source_effect kind₂ executed₂
  exact ⟨rfl, _, _, hproof₁, hproof₂, rfl, rfl⟩

/-- The request of the sample source call. -/
def sampleSourceFields (additionalSolGas : UInt64) : SourceFields Key where
  signer := .atom 5
  recipient := .atom 20
  mint := (symbolicRuntime true).pubkeyBytes sampleMint
  amount := 100
  additionalSolGas := additionalSolGas
  bridgeProofNonce := 0
  bridgeHandler := handlerKey 7
  bridgeProof := symbolicAddress (.bridgeProofSource (handlerKey 7) (.atom 5) 0) 255

theorem sampleSourceCall_fields (additionalSolGas : UInt64) :
    sourceFields? (symbolicRuntime true) (sampleSourceCall additionalSolGas).ix =
      some (sampleSourceFields additionalSolGas) := rfl

theorem sampleSourceCall_executed (additionalSolGas : UInt64)
    (hgas : additionalSolGas ∈ [(0 : UInt64), 5000000]) :
    let s := stateAfter (symbolicRuntime true) sampleLedger paidTokens
    LedgerReachable (symbolicRuntime true) s ∧
      ∃ s' returned, execute (symbolicRuntime true) s (sampleSourceCall additionalSolGas) =
        .ok (s', returned) := by
  intro s
  have hok : (executeAll (symbolicRuntime true) (stateAfter (symbolicRuntime true) sampleLedger
      paidTokens) [sampleSourceCall additionalSolGas]).isOk = true := by
    simp only [List.mem_cons, List.not_mem_nil, or_false] at hgas
    rcases hgas with rfl | rfl <;> decide +kernel
  refine ⟨⟨sampleLedger, _, genesis_ledgerOf _, run_callTrace paidTokens_isOk⟩, ?_⟩
  obtain ⟨returned, hstep⟩ := exists_step_of_executeAll (symbolicRuntime true) s
    (sampleSourceCall additionalSolGas) hok
  generalize stateAfter (symbolicRuntime true) s [sampleSourceCall additionalSolGas] = s' at hstep
  cases hstep with
  | call executed => exact ⟨s', returned, executed⟩

/-- Two source calls of a handler that leave the same proof are the same request
exactly when they take the same additional SOL and find the same nonce in the
handler. -/
theorem same_request_iff_gas_and_nonce (injective : Function.Injective rt.hash)
    {s₁ s₁' s₂ s₂' : State Pubkey Hash} {call₁ call₂ : Call Pubkey Hash}
    {returned₁ returned₂ : Option UInt64} {f₁ f₂ : SourceFields Pubkey}
    {h₁ h₂ : BridgeHandler Pubkey}
    (kind₁ : sourceFields? rt call₁.ix = some f₁) (kind₂ : sourceFields? rt call₂.ix = some f₂)
    (executed₁ : execute rt s₁ call₁ = .ok (s₁', returned₁))
    (executed₂ : execute rt s₂ call₂ = .ok (s₂', returned₂))
    (handler₁ : HandlerAt rt s₁.programData f₁.bridgeHandler h₁)
    (handler₂ : HandlerAt rt s₂.programData f₂.bridgeHandler h₂)
    (proof : SameProof s₁' s₂' f₁ f₂) :
    SameRequest rt f₁ f₂ returned₁ returned₂ ↔
      f₁.additionalSolGas = f₂.additionalSolGas ∧ h₁.nonce = h₂.nonce := by
  obtain ⟨x₁, bump₁, stored₁, rfl, hproof₁⟩ := source_effect kind₁ executed₁
  obtain ⟨x₂, bump₂, stored₂, rfl, hproof₂⟩ := source_effect kind₂ executed₂
  obtain rfl : x₁ = h₁ := stored₁.unique handler₁
  obtain rfl : x₂ = h₂ := stored₂.unique handler₂
  obtain ⟨p₁, p₂, hstored₁, hstored₂, hhash, huser⟩ := proof.proofs
  rw [hproof₁] at hstored₁
  rw [hproof₂] at hstored₂
  obtain rfl := ProgramData.bridgeProofSourceChain.inj (Option.some.inj hstored₁)
  obtain rfl := ProgramData.bridgeProofSourceChain.inj (Option.some.inj hstored₂)
  obtain ⟨-, hrecipient, hmint, hamount, -⟩ := fields_of_messageData (injective hhash)
  constructor
  · intro same
    exact ⟨same.additionalSolGas, Option.some.inj same.nonce⟩
  · rintro ⟨hgas, hnonce⟩
    exact ⟨huser, hrecipient, hmint, hamount, hgas, by rw [hnonce]⟩

theorem same_request_iff_gas_and_nonce_sample :
    let rt := symbolicRuntime true
    let s := stateAfter rt sampleLedger paidTokens
    ∃ s₁ s₂ f₁ f₂ returned₁ returned₂ h,
      sourceFields? rt (sampleSourceCall 0).ix = some f₁ ∧
      sourceFields? rt (sampleSourceCall 5000000).ix = some f₂ ∧
      execute rt s (sampleSourceCall 0) = .ok (s₁, returned₁) ∧
      execute rt s (sampleSourceCall 5000000) = .ok (s₂, returned₂) ∧
      HandlerAt rt s.programData f₁.bridgeHandler h ∧ SameProof s₁ s₂ f₁ f₂ ∧
      (SameRequest rt f₁ f₂ returned₁ returned₂ ↔
        f₁.additionalSolGas = f₂.additionalSolGas ∧ h.nonce = h.nonce) := by
  intro rt s
  obtain ⟨-, s₁, returned₁, executed₁⟩ := sampleSourceCall_executed 0 (by simp)
  obtain ⟨-, s₂, returned₂, executed₂⟩ := sampleSourceCall_executed 5000000 (by simp)
  have kind₁ := sampleSourceCall_fields 0
  have kind₂ := sampleSourceCall_fields 5000000
  have proof := sameProof_of_executed 5000000 kind₁ kind₂ executed₁ executed₂
  obtain ⟨h, -, handler, -⟩ := source_effect kind₁ executed₁
  exact ⟨s₁, s₂, _, _, returned₁, returned₂, h, kind₁, kind₂, executed₁, executed₂, handler, proof,
    same_request_iff_gas_and_nonce (fun _ _ heq => heq) kind₁ kind₂ executed₁ executed₂ handler
      handler proof⟩

/-- The same request with other additional SOL leaves the same proof. -/
theorem gas_not_in_proof :
    ¬ ∀ s₁ s₂, LedgerReachable (symbolicRuntime true) s₁ →
      LedgerReachable (symbolicRuntime true) s₂ →
      ∀ call₁ call₂ s₁' s₂' returned₁ returned₂ f₁ f₂,
        sourceFields? (symbolicRuntime true) call₁.ix = some f₁ →
        sourceFields? (symbolicRuntime true) call₂.ix = some f₂ →
        f₁.bridgeHandler = f₂.bridgeHandler →
        execute (symbolicRuntime true) s₁ call₁ = .ok (s₁', returned₁) →
        execute (symbolicRuntime true) s₂ call₂ = .ok (s₂', returned₂) →
        SameProof s₁' s₂' f₁ f₂ →
        SameRequest (symbolicRuntime true) f₁ f₂ returned₁ returned₂ := by
  intro determined
  obtain ⟨reachable, s₁', returned₁, executed₁⟩ := sampleSourceCall_executed 0 (by simp)
  obtain ⟨-, s₂', returned₂, executed₂⟩ := sampleSourceCall_executed 5000000 (by simp)
  have kind₁ := sampleSourceCall_fields 0
  have kind₂ := sampleSourceCall_fields 5000000
  have same := determined _ _ reachable reachable _ _ s₁' s₂' returned₁ returned₂ _ _ kind₁ kind₂
    rfl executed₁ executed₂ (sameProof_of_executed 5000000 kind₁ kind₂ executed₁ executed₂)
  have hgas : (0 : UInt64) = 5000000 := same.additionalSolGas
  cases hgas

end BridgeProgram.SourceProofs
