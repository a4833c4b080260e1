import BridgeProgram.AccountBytes

namespace BridgeProgram.InstructionData

open BridgeProgram.AccountBytes
open BridgeProgram.AccountNamespaces
open BridgeProgram.BorshCodecs
open BridgeProgram.BorshCodecs.Codec
open BridgeProgram.BridgeProgramEntry
open BridgeProgram.CheckedResult
open BridgeProgram.HandlerInstructions
open BridgeProgram.LedgerInvariants
open BridgeProgram.ProgramStates
open BridgeProgram.RegistryCells
open BridgeProgram.RegistryModel
open BridgeProgram.SignatureInstructions
open BridgeProgram.SolanaRuntime
open BridgeProgram.SourceInstructions
open BridgeProgram.TargetInstructions
open BridgeProgram.TokenInstructions

/-- The functions of `bridge_program`. -/
inductive Method
  | initializeHandler
  | addToken
  | pauseToken
  | unpauseToken
  | pauseBridge
  | unpauseBridge
  | bridgeAssetSourceChain
  | bridgeAssetSourceChainSol
  | bridgeAssetTargetChain
  | bridgeAssetTargetChainSol
  | addGuardian
  | removeGuardian
  | updateGuardianThreshold
  | verifySignature
  | updateFeeVault
  | updateFeeInfo
  | updateInstantBridgeCap
  | updateOperator
  | updateManager
  deriving DecidableEq, Repr

namespace Method

/-- The first eight bytes of the SHA-256 digest of `global:` and the function's name. -/
def discriminator : Method → Vector UInt8 8
  | initializeHandler => #v[175, 175, 109, 31, 13, 152, 155, 237]
  | addToken => #v[237, 255, 26, 54, 56, 48, 68, 52]
  | pauseToken => #v[226, 150, 72, 211, 159, 51, 226, 39]
  | unpauseToken => #v[108, 117, 62, 30, 200, 92, 255, 202]
  | pauseBridge => #v[162, 103, 59, 230, 104, 233, 25, 246]
  | unpauseBridge => #v[38, 76, 229, 108, 125, 173, 75, 116]
  | bridgeAssetSourceChain => #v[67, 254, 115, 87, 112, 196, 189, 191]
  | bridgeAssetSourceChainSol => #v[47, 158, 217, 31, 206, 121, 125, 204]
  | bridgeAssetTargetChain => #v[152, 251, 110, 231, 76, 111, 218, 216]
  | bridgeAssetTargetChainSol => #v[31, 12, 104, 163, 127, 152, 156, 159]
  | addGuardian => #v[167, 189, 170, 27, 74, 240, 201, 241]
  | removeGuardian => #v[72, 117, 160, 244, 155, 185, 71, 18]
  | updateGuardianThreshold => #v[186, 247, 63, 151, 181, 129, 82, 255]
  | verifySignature => #v[91, 139, 24, 69, 251, 162, 245, 112]
  | updateFeeVault => #v[186, 252, 216, 197, 126, 152, 213, 9]
  | updateFeeInfo => #v[183, 17, 40, 30, 62, 103, 99, 36]
  | updateInstantBridgeCap => #v[33, 36, 191, 83, 28, 17, 5, 232]
  | updateOperator => #v[183, 158, 123, 149, 124, 150, 45, 226]
  | updateManager => #v[122, 100, 48, 96, 37, 167, 205, 59]

def all : List Method :=
  [initializeHandler, addToken, pauseToken, unpauseToken, pauseBridge, unpauseBridge,
    bridgeAssetSourceChain, bridgeAssetSourceChainSol, bridgeAssetTargetChain,
    bridgeAssetTargetChainSol, addGuardian, removeGuardian, updateGuardianThreshold,
    verifySignature, updateFeeVault, updateFeeInfo, updateInstantBridgeCap, updateOperator,
    updateManager]

/-- The account list of a function. -/
abbrev Accounts (Pubkey : Type) : Method → Type
  | initializeHandler => Initialize Pubkey
  | addToken => AddToken Pubkey
  | pauseToken | unpauseToken => PauseToken Pubkey
  | pauseBridge | unpauseBridge => PauseBridge Pubkey
  | bridgeAssetSourceChain => BridgeAssetSourceChain Pubkey
  | bridgeAssetSourceChainSol => BridgeAssetSourceChainSol Pubkey
  | bridgeAssetTargetChain => BridgeAssetTargetChain Pubkey
  | bridgeAssetTargetChainSol => BridgeAssetTargetChainSol Pubkey
  | addGuardian => AddGuardian Pubkey
  | removeGuardian => RemoveGuardian Pubkey
  | updateGuardianThreshold => UpdateGuardianThreshold Pubkey
  | verifySignature => VerifySignature Pubkey
  | updateFeeVault => UpdateFeeVault Pubkey
  | updateFeeInfo => UpdateFeeInfo Pubkey
  | updateInstantBridgeCap => UpdateInstantBridgeCap Pubkey
  | updateOperator => UpdateOperator Pubkey
  | updateManager => UpdateManager Pubkey

/-- The arguments of a function, in order. -/
abbrev Arguments (Pubkey Hash : Type) : Method → Type
  | initializeHandler => UInt64 × UInt8
  | addToken => UInt8 × Option String × Option String × Option String
  | bridgeAssetSourceChain => UInt64 × UInt64 × Pubkey × Pubkey × UInt64
  | bridgeAssetSourceChainSol => UInt64 × UInt64 × Pubkey
  | bridgeAssetTargetChain =>
      Hash × Vector UInt8 64 × Pubkey × Pubkey × UInt64 × UInt64 × UInt64
  | bridgeAssetTargetChainSol => Hash × Vector UInt8 64 × Pubkey × UInt64 × UInt64
  | updateGuardianThreshold => UInt8
  | verifySignature => Hash × List UInt8
  | updateFeeInfo => FixedFeeInfo
  | updateInstantBridgeCap => UInt64
  | pauseToken | unpauseToken | pauseBridge | unpauseBridge | addGuardian | removeGuardian
  | updateFeeVault | updateOperator | updateManager => Unit

end Method

/-- A discriminator and the function that it stands for. -/
def methodDiscriminator : Vector UInt8 8 ≃. Method where
  toFun v := Method.all.find? fun m => m.discriminator = v
  invFun m := some m.discriminator
  inv v m := by
    rw [Option.some.injEq]
    constructor
    · rintro rfl
      cases m <;> decide
    · intro h
      simpa using List.find?_some h

variable {Pubkey Hash : Type} {rt : Runtime Pubkey Hash}

def arguments (F : KeyFormat rt) : (m : Method) → Codec UInt8 (m.Arguments Pubkey Hash)
  | .initializeHandler => u64.pair byte
  | .addToken => byte.pair (string.option.pair (string.option.pair string.option))
  | .bridgeAssetSourceChain => u64.pair (u64.pair ((pubkey F).pair ((pubkey F).pair u64)))
  | .bridgeAssetSourceChainSol => u64.pair (u64.pair (pubkey F))
  | .bridgeAssetTargetChain => (digest F).pair ((fixed 64).pair ((pubkey F).pair
      ((pubkey F).pair (u64.pair (u64.pair u64)))))
  | .bridgeAssetTargetChainSol => (digest F).pair ((fixed 64).pair ((pubkey F).pair
      (u64.pair u64)))
  | .updateGuardianThreshold => byte
  | .verifySignature => (digest F).pair byte.vec
  | .updateFeeInfo => fixedFeeInfo
  | .updateInstantBridgeCap => u64
  | .pauseToken | .unpauseToken | .pauseBridge | .unpauseBridge | .addGuardian
  | .removeGuardian | .updateFeeVault | .updateOperator | .updateManager => unit

/-- The `#[instruction(..)]` attribute of the account list: the arguments named there are
read once more, from the beginning. The lists of `update_operator` and `update_manager`
name an `init_nonce` that these functions do not have. -/
def rereads (F : KeyFormat rt) (m : Method) (ixData : List UInt8) : Bool :=
  match m with
  | .initializeHandler => (u64.decode ixData).isSome
  | .addToken => (byte.decode ixData).isSome
  | .bridgeAssetSourceChain | .bridgeAssetSourceChainSol => (u64.decode ixData).isSome
  | .bridgeAssetTargetChain | .bridgeAssetTargetChainSol =>
      (((digest F).pair (fixed 64)).decode ixData).isSome
  | .verifySignature => ((digest F).decode ixData).isSome
  | .updateOperator | .updateManager => (u64.decode ixData).isSome
  | _ => true

/-- The programs and sysvars that account lists name besides those of the runtime. -/
structure FixedAccounts (Pubkey : Type) where
  associatedTokenProgram : Pubkey
  rent : Pubkey
  instructions : Pubkey

section Lists

variable [DecidableEq Pubkey] (rt : Runtime Pubkey Hash) (P : FixedAccounts Pubkey)

def initializeAccounts : Codec Pubkey (Initialize Pubkey) :=
  (symbol.pair (symbol.pair (symbol.pair (symbol.pair (symbol.pair (symbol.pair
    (literal rt.systemProgram))))))).map
    { toFun := fun (signer, bridgeHandler, guardianInfo, feeVault, manager, operator, _) =>
        { signer, bridgeHandler, guardianInfo, feeVault, manager, operator }
      invFun := fun a =>
        (a.signer, a.bridgeHandler, a.guardianInfo, a.feeVault, a.manager, a.operator, ())
      left_inv := fun _ => rfl
      right_inv := fun _ => rfl }

def addTokenAccounts : Codec Pubkey (AddToken Pubkey) :=
  (symbol.pair (symbol.pair (symbol.pair (symbol.pair (symbol.pair (symbol.pair (symbol.pair
    ((literal rt.tokenMetadataProgram).pair ((literal P.associatedTokenProgram).pair
      (symbol.pair ((literal rt.systemProgram).pair (literal P.rent)))))))))))).map
    { toFun := fun (operator, bridgeHandler, mint, sourceMint, bridgeHandlerVault, metadata,
        tokenInfo, _, _, tokenProgram, _) =>
        { operator, bridgeHandler, mint, sourceMint, bridgeHandlerVault, metadata, tokenInfo,
          tokenProgram }
      invFun := fun a => (a.operator, a.bridgeHandler, a.mint, a.sourceMint,
        a.bridgeHandlerVault, a.metadata, a.tokenInfo, (), (), a.tokenProgram, (), ())
      left_inv := fun _ => rfl
      right_inv := fun _ => rfl }

omit [DecidableEq Pubkey] in
def pauseTokenAccounts : Codec Pubkey (PauseToken Pubkey) :=
  (symbol.pair (symbol.pair (symbol.pair (symbol.pair symbol)))).map
    { toFun := fun (manager, bridgeHandler, mint, tokenInfo, tokenProgram) =>
        { manager, bridgeHandler, mint, tokenInfo, tokenProgram }
      invFun := fun a => (a.manager, a.bridgeHandler, a.mint, a.tokenInfo, a.tokenProgram)
      left_inv := fun _ => rfl
      right_inv := fun _ => rfl }

def bridgeAssetSourceChainAccounts : Codec Pubkey (BridgeAssetSourceChain Pubkey) :=
  (symbol.pair (symbol.pair (symbol.pair (symbol.pair (symbol.pair (symbol.pair (symbol.pair
    (symbol.pair (symbol.pair ((literal P.associatedTokenProgram).pair
      (literal rt.systemProgram))))))))))).map
    { toFun := fun (signer, mint, signerVault, bridgeHandler, bridgeHandlerVault, bridgeProof,
        tokenInfo, feeVault, tokenProgram, _) =>
        { signer, mint, signerVault, bridgeHandler, bridgeHandlerVault, bridgeProof, tokenInfo,
          feeVault, tokenProgram }
      invFun := fun a => (a.signer, a.mint, a.signerVault, a.bridgeHandler,
        a.bridgeHandlerVault, a.bridgeProof, a.tokenInfo, a.feeVault, a.tokenProgram, (), ())
      left_inv := fun _ => rfl
      right_inv := fun _ => rfl }

def bridgeAssetSourceChainSolAccounts : Codec Pubkey (BridgeAssetSourceChainSol Pubkey) :=
  (symbol.pair (symbol.pair (symbol.pair (symbol.pair (literal rt.systemProgram))))).map
    { toFun := fun (signer, bridgeHandler, bridgeProof, feeVault, _) =>
        { signer, bridgeHandler, bridgeProof, feeVault }
      invFun := fun a => (a.signer, a.bridgeHandler, a.bridgeProof, a.feeVault, ())
      left_inv := fun _ => rfl
      right_inv := fun _ => rfl }

def bridgeAssetTargetChainAccounts : Codec Pubkey (BridgeAssetTargetChain Pubkey) :=
  (symbol.pair (symbol.pair (symbol.pair (symbol.pair (symbol.pair (symbol.pair (symbol.pair
    (symbol.pair (symbol.pair (symbol.pair (symbol.pair
      ((literal P.associatedTokenProgram).pair (literal rt.systemProgram))))))))))))).map
    { toFun := fun (operator, mint, recipient, recipientVault, bridgeHandler,
        bridgeHandlerVault, bridgeProof, guardianInfo, verifiedSignatures, tokenInfo,
        tokenProgram, _) =>
        { operator, mint, recipient, recipientVault, bridgeHandler, bridgeHandlerVault,
          bridgeProof, guardianInfo, verifiedSignatures, tokenInfo, tokenProgram }
      invFun := fun a => (a.operator, a.mint, a.recipient, a.recipientVault, a.bridgeHandler,
        a.bridgeHandlerVault, a.bridgeProof, a.guardianInfo, a.verifiedSignatures, a.tokenInfo,
        a.tokenProgram, (), ())
      left_inv := fun _ => rfl
      right_inv := fun _ => rfl }

def bridgeAssetTargetChainSolAccounts : Codec Pubkey (BridgeAssetTargetChainSol Pubkey) :=
  (symbol.pair (symbol.pair (symbol.pair (symbol.pair (symbol.pair (symbol.pair
    (literal rt.systemProgram))))))).map
    { toFun := fun (operator, recipient, bridgeHandler, bridgeProof, guardianInfo,
        verifiedSignatures, _) =>
        { operator, recipient, bridgeHandler, bridgeProof, guardianInfo, verifiedSignatures }
      invFun := fun a => (a.operator, a.recipient, a.bridgeHandler, a.bridgeProof,
        a.guardianInfo, a.verifiedSignatures, ())
      left_inv := fun _ => rfl
      right_inv := fun _ => rfl }

def verifySignatureAccounts : Codec Pubkey (VerifySignature Pubkey) :=
  (symbol.pair (symbol.pair (symbol.pair (symbol.pair ((literal rt.systemProgram).pair
    (literal P.instructions)))))).map
    { toFun := fun (operator, bridgeHandler, guardianInfo, verifiedSignatures, _) =>
        { operator, bridgeHandler, guardianInfo, verifiedSignatures }
      invFun := fun a =>
        (a.operator, a.bridgeHandler, a.guardianInfo, a.verifiedSignatures, (), ())
      left_inv := fun _ => rfl
      right_inv := fun _ => rfl }

/-- The accounts of a function, in the order of its list. -/
def accountList : (m : Method) → Codec Pubkey (m.Accounts Pubkey)
  | .initializeHandler => initializeAccounts rt
  | .addToken => addTokenAccounts rt P
  | .pauseToken | .unpauseToken => pauseTokenAccounts
  | .pauseBridge | .unpauseBridge => (symbol.pair symbol).map
      { toFun := fun x => { manager := x.1, bridgeHandler := x.2 }
        invFun := fun a => (a.manager, a.bridgeHandler)
        left_inv := fun _ => rfl
        right_inv := fun _ => rfl }
  | .bridgeAssetSourceChain => bridgeAssetSourceChainAccounts rt P
  | .bridgeAssetSourceChainSol => bridgeAssetSourceChainSolAccounts rt
  | .bridgeAssetTargetChain => bridgeAssetTargetChainAccounts rt P
  | .bridgeAssetTargetChainSol => bridgeAssetTargetChainSolAccounts rt
  | .addGuardian => (symbol.pair (symbol.pair (symbol.pair symbol))).map
      { toFun := fun x => { manager := x.1, bridgeHandler := x.2.1, guardianInfo := x.2.2.1,
                            guardian := x.2.2.2 }
        invFun := fun a => (a.manager, a.bridgeHandler, a.guardianInfo, a.guardian)
        left_inv := fun _ => rfl
        right_inv := fun _ => rfl }
  | .removeGuardian => (symbol.pair (symbol.pair (symbol.pair symbol))).map
      { toFun := fun x => { manager := x.1, bridgeHandler := x.2.1, guardianInfo := x.2.2.1,
                            guardian := x.2.2.2 }
        invFun := fun a => (a.manager, a.bridgeHandler, a.guardianInfo, a.guardian)
        left_inv := fun _ => rfl
        right_inv := fun _ => rfl }
  | .updateGuardianThreshold => (symbol.pair (symbol.pair symbol)).map
      { toFun := fun x => { manager := x.1, bridgeHandler := x.2.1, guardianInfo := x.2.2 }
        invFun := fun a => (a.manager, a.bridgeHandler, a.guardianInfo)
        left_inv := fun _ => rfl
        right_inv := fun _ => rfl }
  | .verifySignature => verifySignatureAccounts rt P
  | .updateFeeVault => (symbol.pair (symbol.pair symbol)).map
      { toFun := fun x => { manager := x.1, bridgeHandler := x.2.1, newFeeVault := x.2.2 }
        invFun := fun a => (a.manager, a.bridgeHandler, a.newFeeVault)
        left_inv := fun _ => rfl
        right_inv := fun _ => rfl }
  | .updateFeeInfo => (symbol.pair symbol).map
      { toFun := fun x => { manager := x.1, bridgeHandler := x.2 }
        invFun := fun a => (a.manager, a.bridgeHandler)
        left_inv := fun _ => rfl
        right_inv := fun _ => rfl }
  | .updateInstantBridgeCap => (symbol.pair symbol).map
      { toFun := fun x => { manager := x.1, bridgeHandler := x.2 }
        invFun := fun a => (a.manager, a.bridgeHandler)
        left_inv := fun _ => rfl
        right_inv := fun _ => rfl }
  | .updateOperator => (symbol.pair (symbol.pair symbol)).map
      { toFun := fun x => { manager := x.1, bridgeHandler := x.2.1, newOperator := x.2.2 }
        invFun := fun a => (a.manager, a.bridgeHandler, a.newOperator)
        left_inv := fun _ => rfl
        right_inv := fun _ => rfl }
  | .updateManager => (symbol.pair (symbol.pair symbol)).map
      { toFun := fun x => { manager := x.1, bridgeHandler := x.2.1, newManager := x.2.2 }
        invFun := fun a => (a.manager, a.bridgeHandler, a.newManager)
        left_inv := fun _ => rfl
        right_inv := fun _ => rfl }

end Lists

/-- A function with its accounts and arguments. -/
abbrev Parts (Pubkey Hash : Type) :=
  Σ m : Method, m.Accounts Pubkey × m.Arguments Pubkey Hash

def partsOf : Instruction Pubkey Hash → Parts Pubkey Hash
  | .initializeHandler a initNonce chain => ⟨.initializeHandler, a, initNonce, chain⟩
  | .addToken a decimal name symbol uri => ⟨.addToken, a, decimal, name, symbol, uri⟩
  | .pauseToken a => ⟨.pauseToken, a, ()⟩
  | .unpauseToken a => ⟨.unpauseToken, a, ()⟩
  | .pauseBridge a => ⟨.pauseBridge, a, ()⟩
  | .unpauseBridge a => ⟨.unpauseBridge, a, ()⟩
  | .bridgeAssetSourceChain a bridgeProofNonce amount recipient targetMint gas =>
      ⟨.bridgeAssetSourceChain, a, bridgeProofNonce, amount, recipient, targetMint, gas⟩
  | .bridgeAssetSourceChainSol a bridgeProofNonce amount recipient =>
      ⟨.bridgeAssetSourceChainSol, a, bridgeProofNonce, amount, recipient⟩
  | .bridgeAssetTargetChain a msgHash sourceTxId sender sourceMint amount nonce gas =>
      ⟨.bridgeAssetTargetChain, a, msgHash, sourceTxId, sender, sourceMint, amount, nonce, gas⟩
  | .bridgeAssetTargetChainSol a msgHash sourceTxId sender amount nonce =>
      ⟨.bridgeAssetTargetChainSol, a, msgHash, sourceTxId, sender, amount, nonce⟩
  | .addGuardian a => ⟨.addGuardian, a, ()⟩
  | .removeGuardian a => ⟨.removeGuardian, a, ()⟩
  | .updateGuardianThreshold a guardianThreshold =>
      ⟨.updateGuardianThreshold, a, guardianThreshold⟩
  | .verifySignature a msgHash signerIndexes => ⟨.verifySignature, a, msgHash, signerIndexes⟩
  | .updateFeeVault a => ⟨.updateFeeVault, a, ()⟩
  | .updateFeeInfo a feeInfo => ⟨.updateFeeInfo, a, feeInfo⟩
  | .updateInstantBridgeCap a instantBridgeCap =>
      ⟨.updateInstantBridgeCap, a, instantBridgeCap⟩
  | .updateOperator a => ⟨.updateOperator, a, ()⟩
  | .updateManager a => ⟨.updateManager, a, ()⟩

/-- The instruction of a function, its accounts and its arguments. -/
def instructionOf : (m : Method) → m.Accounts Pubkey → m.Arguments Pubkey Hash →
    Instruction Pubkey Hash
  | .initializeHandler, a, x => .initializeHandler a x.1 x.2
  | .addToken, a, x => .addToken a x.1 x.2.1 x.2.2.1 x.2.2.2
  | .pauseToken, a, _ => .pauseToken a
  | .unpauseToken, a, _ => .unpauseToken a
  | .pauseBridge, a, _ => .pauseBridge a
  | .unpauseBridge, a, _ => .unpauseBridge a
  | .bridgeAssetSourceChain, a, x =>
      .bridgeAssetSourceChain a x.1 x.2.1 x.2.2.1 x.2.2.2.1 x.2.2.2.2
  | .bridgeAssetSourceChainSol, a, x => .bridgeAssetSourceChainSol a x.1 x.2.1 x.2.2
  | .bridgeAssetTargetChain, a, x =>
      .bridgeAssetTargetChain a x.1 x.2.1 x.2.2.1 x.2.2.2.1 x.2.2.2.2.1 x.2.2.2.2.2.1
        x.2.2.2.2.2.2
  | .bridgeAssetTargetChainSol, a, x =>
      .bridgeAssetTargetChainSol a x.1 x.2.1 x.2.2.1 x.2.2.2.1 x.2.2.2.2
  | .addGuardian, a, _ => .addGuardian a
  | .removeGuardian, a, _ => .removeGuardian a
  | .updateGuardianThreshold, a, x => .updateGuardianThreshold a x
  | .verifySignature, a, x => .verifySignature a x.1 x.2
  | .updateFeeVault, a, _ => .updateFeeVault a
  | .updateFeeInfo, a, x => .updateFeeInfo a x
  | .updateInstantBridgeCap, a, x => .updateInstantBridgeCap a x
  | .updateOperator, a, _ => .updateOperator a
  | .updateManager, a, _ => .updateManager a

theorem instructionOf_eq_iff {m : Method} {a : m.Accounts Pubkey}
    {x : m.Arguments Pubkey Hash} {ix : Instruction Pubkey Hash} :
    instructionOf m a x = ix ↔ partsOf ix = ⟨m, a, x⟩ := by
  constructor
  · rintro rfl
    cases m <;> rfl
  · intro h
    cases ix <;> cases h <;> rfl

def methodOf (ix : Instruction Pubkey Hash) : Method :=
  (partsOf ix).1

/-- The accounts that a call of an instruction lists. -/
def instructionAccounts [DecidableEq Pubkey] (rt : Runtime Pubkey Hash)
    (P : FixedAccounts Pubkey) (ix : Instruction Pubkey Hash) : List Pubkey :=
  (accountList rt P (partsOf ix).1).encode (partsOf ix).2.1

/-- The data that a call of an instruction carries. -/
def instructionData (F : KeyFormat rt) (ix : Instruction Pubkey Hash) : List UInt8 :=
  (methodOf ix).discriminator.toList ++ (arguments F (partsOf ix).1).encode (partsOf ix).2.2

/-- The strings and lists among the arguments are shorter than 2^32 bytes. -/
def ArgumentsFit (F : KeyFormat rt) (ix : Instruction Pubkey Hash) : Prop :=
  (arguments F (partsOf ix).1).Fits (partsOf ix).2.2

inductive EntryError
  | instructionMissing
  | instructionFallbackNotFound
  | instructionDidNotDeserialize
  /-- Too few accounts, or not the programs and sysvars that are expected. -/
  | accounts
  deriving DecidableEq

/-- `entry` and `dispatch`: the instruction that is executed. -/
def dispatch [DecidableEq Pubkey] (F : KeyFormat rt) (P : FixedAccounts Pubkey)
    (accounts : List Pubkey) (data : List UInt8) :
    Except EntryError (Instruction Pubkey Hash) :=
  if data.length < 8 then .error .instructionMissing
  else
    match ((fixed 8).through methodDiscriminator).decode data with
    | none => .error .instructionFallbackNotFound
    | some (m, ixData) =>
        match (arguments F m).decode ixData with
        | none => .error .instructionDidNotDeserialize
        | some (x, _) =>
            if rereads F m ixData then
              match (accountList rt P m).decode accounts with
              | none => .error .accounts
              | some (a, _) => .ok (instructionOf m a x)
            else .error .instructionDidNotDeserialize

/-- The functions whose account lists name an argument that they do not have. -/
def Method.namesNonce : Method → Bool
  | .updateOperator | .updateManager => true
  | _ => false

theorem isSome_of_pair {σ α β : Type} {c : Codec σ α} {d : Codec σ β} {text rest : List σ}
    {x : α × β} (h : (c.pair d).decode text = some (x, rest)) : (c.decode text).isSome := by
  obtain ⟨⟨hfits, -⟩, rfl⟩ := ((c.pair d).decode_iff _ _ _).mp h
  show (c.decode ((c.encode x.1 ++ d.encode x.2) ++ rest)).isSome
  rw [List.append_assoc, c.decode_encode hfits]
  rfl

theorem isSome_of_pair_pair {σ α β γ : Type} {c : Codec σ α} {d : Codec σ β} {e : Codec σ γ}
    {text rest : List σ} {x : α × β × γ}
    (h : (c.pair (d.pair e)).decode text = some (x, rest)) :
    ((c.pair d).decode text).isSome := by
  obtain ⟨⟨hc, hd, -⟩, rfl⟩ := ((c.pair (d.pair e)).decode_iff _ _ _).mp h
  have hdecode := (c.pair d).decode_encode (x := (x.1, x.2.1)) ⟨hc, hd⟩ (e.encode x.2.2 ++ rest)
  have htext : (c.pair (d.pair e)).encode x ++ rest =
      (c.pair d).encode (x.1, x.2.1) ++ (e.encode x.2.2 ++ rest) := by
    simp [pair, List.append_assoc]
  rw [htext, hdecode]
  rfl

theorem isSome_u64_iff {bytes : List UInt8} : (u64.decode bytes).isSome ↔ 8 ≤ bytes.length := by
  rw [Option.isSome_iff_exists]
  constructor
  · rintro ⟨⟨x, rest⟩, h⟩
    obtain ⟨-, rfl⟩ := (u64.decode_iff _ _ _).mp h
    simp
  · intro h
    obtain ⟨v, hv⟩ := ByteStrings.exists_toList_eq (List.length_take_of_le h)
    refine ⟨(u64Bytes v, bytes.drop 8), (u64.decode_iff _ _ _).mpr ⟨fits_u64 _, ?_⟩⟩
    show bytes = (u64Bytes.symm (u64Bytes v)).toList ++ bytes.drop 8
    rw [Equiv.symm_apply_apply, hv, List.take_append_drop]

/-- Arguments that have been read can be read once more, except where there are none. -/
theorem rereads_iff {F : KeyFormat rt} {m : Method} {x : m.Arguments Pubkey Hash}
    {ixData rest : List UInt8} (h : (arguments F m).decode ixData = some (x, rest)) :
    rereads F m ixData = true ↔ (m.namesNonce = true → 8 ≤ rest.length) := by
  have hnonce : (arguments F m).decode ixData = some (x, rest) → m.namesNonce = true →
      rest = ixData ∧ rereads F m ixData = (u64.decode ixData).isSome := by
    intro h hnamed
    cases m with
    | updateOperator | updateManager =>
        obtain ⟨-, hrest⟩ := Prod.mk.inj (Option.some.inj h)
        exact ⟨hrest.symm, rfl⟩
    | _ => cases hnamed
  by_cases hnamed : m.namesNonce = true
  · obtain ⟨rfl, hrereads⟩ := hnonce h hnamed
    rw [hrereads, isSome_u64_iff]
    exact ⟨fun hle _ => hle, fun hle => hle hnamed⟩
  · refine ⟨fun _ hnamed' => absurd hnamed' hnamed, fun _ => ?_⟩
    cases m with
    | initializeHandler => exact isSome_of_pair h
    | addToken => exact isSome_of_pair h
    | bridgeAssetSourceChain => exact isSome_of_pair h
    | bridgeAssetSourceChainSol => exact isSome_of_pair h
    | verifySignature => exact isSome_of_pair h
    | bridgeAssetTargetChain => exact isSome_of_pair_pair h
    | bridgeAssetTargetChainSol => exact isSome_of_pair_pair h
    | updateOperator | updateManager => exact absurd rfl hnamed
    | _ => rfl

theorem fits_accountList [DecidableEq Pubkey] (P : FixedAccounts Pubkey) (m : Method)
    (a : m.Accounts Pubkey) : (accountList rt P m).Fits a := by
  cases m <;> simp [accountList, initializeAccounts, addTokenAccounts, pauseTokenAccounts,
    bridgeAssetSourceChainAccounts, bridgeAssetSourceChainSolAccounts,
    bridgeAssetTargetChainAccounts, bridgeAssetTargetChainSolAccounts, verifySignatureAccounts]

theorem decode_method (m : Method) (rest : List UInt8) :
    ((fixed 8).through methodDiscriminator).decode (m.discriminator.toList ++ rest) =
      some (m, rest) :=
  (Codec.decode_iff _ _ _ _).mpr ⟨⟨_, rfl, trivial⟩, rfl⟩

section Dispatch

variable [DecidableEq Pubkey] {F : KeyFormat rt} {P : FixedAccounts Pubkey}
  {ix : Instruction Pubkey Hash}

theorem dispatch_instructionData (fits : ArgumentsFit F ix) (further : List Pubkey)
    (trailing : List UInt8) :
    dispatch F P (instructionAccounts rt P ix ++ further) (instructionData F ix ++ trailing) =
      if (methodOf ix).namesNonce = true ∧ trailing.length < 8 then
        .error .instructionDidNotDeserialize
      else .ok ix := by
  unfold ArgumentsFit at fits
  unfold instructionAccounts instructionData methodOf
  generalize hparts : partsOf ix = parts at fits ⊢
  obtain ⟨m, a, x⟩ := parts
  have harguments := (arguments F m).decode_encode fits trailing
  have hrereads := rereads_iff harguments
  unfold dispatch
  rw [if_neg (by simp), List.append_assoc, decode_method]
  simp only [harguments, (accountList rt P m).decode_encode (fits_accountList P m a)]
  rw [instructionOf_eq_iff.mpr hparts]
  split_ifs with hread hnamed hnamed
  · exact absurd (hrereads.mp hread hnamed.1) (Nat.not_le.mpr hnamed.2)
  · rfl
  · rfl
  · exact absurd (hrereads.mpr fun h => Nat.not_lt.mp fun hlt => hnamed ⟨h, hlt⟩) hread

theorem dispatch_eq_ok {accounts : List Pubkey} {data : List UInt8} :
    dispatch F P accounts data = .ok ix ↔
      ArgumentsFit F ix ∧ (∃ further, accounts = instructionAccounts rt P ix ++ further) ∧
      ∃ trailing, data = instructionData F ix ++ trailing ∧
        ((methodOf ix).namesNonce = true → 8 ≤ trailing.length) := by
  constructor
  · intro h
    unfold dispatch at h
    split_ifs at h with hshort
    split at h
    · cases h
    rename_i m ixData hmethod
    split at h
    · cases h
    rename_i x trailing harguments
    split_ifs at h with hrereads
    split at h
    · cases h
    rename_i a further haccounts
    have hparts := instructionOf_eq_iff.mp (Except.ok.inj h)
    have hnonce := (rereads_iff harguments).mp hrereads
    obtain ⟨-, rfl⟩ := (Codec.decode_iff _ _ _ _).mp haccounts
    obtain ⟨hfits, rfl⟩ := (Codec.decode_iff _ _ _ _).mp harguments
    obtain ⟨-, rfl⟩ := (Codec.decode_iff _ _ _ _).mp hmethod
    unfold ArgumentsFit instructionAccounts instructionData methodOf
    rw [hparts]
    exact ⟨hfits, ⟨further, rfl⟩, trailing, (List.append_assoc ..).symm, hnonce⟩
  · rintro ⟨hfits, ⟨further, rfl⟩, trailing, rfl, hnonce⟩
    rw [dispatch_instructionData hfits, if_neg]
    rintro ⟨hnamed, hlt⟩
    exact Nat.not_le.mpr hlt (hnonce hnamed)

/-- The entry accepts exactly what an instruction is written as, with anything after it.
The data of `update_operator` and `update_manager` needs eight bytes after it, so these
two are refused when they are called with nothing but what they are written as. -/
theorem instruction_data_exact (F : KeyFormat rt) (P : FixedAccounts Pubkey)
    (ix : Instruction Pubkey Hash) :
    (∀ accounts data, dispatch F P accounts data = .ok ix ↔
      ArgumentsFit F ix ∧ (∃ further, accounts = instructionAccounts rt P ix ++ further) ∧
      ∃ trailing, data = instructionData F ix ++ trailing ∧
        ((methodOf ix).namesNonce = true → 8 ≤ trailing.length)) ∧
    (ArgumentsFit F ix →
      dispatch F P (instructionAccounts rt P ix) (instructionData F ix) =
        if (methodOf ix).namesNonce then .error .instructionDidNotDeserialize else .ok ix) := by
  refine ⟨fun accounts data => dispatch_eq_ok, fun fits => ?_⟩
  have h := dispatch_instructionData (P := P) fits [] []
  simpa using h

def sampleFixedAccounts : FixedAccounts (Vector UInt8 32) where
  associatedTokenProgram := Vector.replicate 32 11
  rent := Vector.replicate 32 12
  instructions := Vector.replicate 32 13

theorem instruction_data_exact_sample :
    let ix : Instruction (Vector UInt8 32) (Vector UInt8 32) := .updateManager
      { manager := Vector.replicate 32 9, bridgeHandler := stringHandlerKey,
        newManager := Vector.replicate 32 10 }
    let accounts := instructionAccounts stringRuntime sampleFixedAccounts ix
    let data := instructionData stringFormat ix
    dispatch stringFormat sampleFixedAccounts accounts data =
        .error .instructionDidNotDeserialize ∧
      dispatch stringFormat sampleFixedAccounts accounts (data ++ List.replicate 8 0) =
        .ok ix := by
  intro ix accounts data
  obtain ⟨hiff, hplain⟩ := instruction_data_exact stringFormat sampleFixedAccounts ix
  exact ⟨hplain trivial, (hiff _ _).mpr ⟨trivial, ⟨[], (List.append_nil _).symm⟩,
    List.replicate 8 0, rfl, fun _ => by simp⟩⟩

variable [DecidableEq Hash]

/-- A call whose data is what its instruction is written as, and nothing else. -/
def PlainCall (F : KeyFormat rt) (P : FixedAccounts Pubkey) (call : Call Pubkey Hash) : Prop :=
  ∃ accounts, dispatch F P accounts (instructionData F call.ix) = .ok call.ix

omit [DecidableEq Hash] in
theorem not_namesNonce_of_plain {call : Call Pubkey Hash} (plain : PlainCall F P call) :
    (methodOf call.ix).namesNonce = false := by
  obtain ⟨accounts, h⟩ := plain
  obtain ⟨-, -, trailing, hdata, hnonce⟩ := dispatch_eq_ok.mp h
  obtain rfl := List.append_right_eq_self.mp hdata.symm
  rw [← Bool.not_eq_true]
  intro hnamed
  exact absurd (hnonce hnamed) (by simp)

omit [DecidableEq Hash] in
theorem roles_of_managerUpdate {call : Call Pubkey Hash} {manager a : Pubkey}
    {f : BridgeHandler Pubkey → Except ProgramError (BridgeHandler Pubkey)}
    {h h' : BridgeHandler Pubkey} (kind : managerUpdate? call.ix = some (manager, a, f))
    (updated : f h = .ok h') (other : (methodOf call.ix).namesNonce = false) :
    h'.manager = h.manager ∧ h'.operator = h.operator := by
  cases hix : call.ix with
  | updateFeeVault x =>
      rw [hix] at kind
      obtain ⟨-, -, rfl⟩ := by simpa [managerUpdate?] using kind
      simp only [updateFeeVault, bind_eq_ok, pure_eq_ok] at updated
      obtain ⟨-, -, rfl⟩ := updated
      exact ⟨rfl, rfl⟩
  | pauseBridge | unpauseBridge | updateFeeInfo | updateInstantBridgeCap =>
      rw [hix] at kind
      obtain ⟨-, -, rfl⟩ := by simpa [managerUpdate?] using kind
      obtain rfl := pure_eq_ok.mp updated
      exact ⟨rfl, rfl⟩
  | updateOperator | updateManager =>
      rw [hix] at other
      cases other
  | _ => simp [hix, managerUpdate?] at kind

/-- The handler at an address has the given roles. -/
def RolesAt (bridgeHandler manager operator : Pubkey) (s : State Pubkey Hash) : Prop :=
  ∃ h, s.programData bridgeHandler = some (.bridgeHandler h) ∧ h.manager = manager ∧
    h.operator = operator

theorem rolesAt_step {s s' : State Pubkey Hash} {event : Event Pubkey Hash}
    (step : LedgerStep rt s event s')
    (plain : ∀ call returned, event = .call call returned → PlainCall F P call)
    {bridgeHandler manager operator : Pubkey} (roles : RolesAt bridgeHandler manager operator s) :
    RolesAt bridgeHandler manager operator s' := by
  obtain ⟨h, stored, rfl, rfl⟩ := roles
  obtain ⟨h', stored', rfl | ⟨call, returned, rfl, change⟩⟩ := handler_kept step stored
  · exact ⟨h', stored', rfl, rfl⟩
  refine ⟨h', stored', ?_⟩
  cases change with
  | managed kind signed updated =>
      exact roles_of_managerUpdate kind updated
        (not_namesNonce_of_plain (plain call returned rfl))
  | numbered => exact ⟨rfl, rfl⟩
  | charged kind handler same =>
      obtain ⟨remained, epoch, rfl⟩ := same
      exact ⟨rfl, rfl⟩
  | threshold => exact ⟨rfl, rfl⟩

/-- Whatever is called with the data that its instruction is written as, a handler keeps
the manager and the operator that it has. -/
theorem plain_calls_keep_roles {s s' : State Pubkey Hash}
    {trace : List (LedgerTransition Pubkey Hash)} (run : LedgerRun rt s trace s')
    (plain : ∀ t ∈ trace, ∀ call returned, t.label = .call call returned → PlainCall F P call)
    {bridgeHandler : Pubkey} {h : BridgeHandler Pubkey}
    (stored : s.programData bridgeHandler = some (.bridgeHandler h)) :
    RolesAt bridgeHandler h.manager h.operator s' := by
  apply run.invariant (RolesAt bridgeHandler h.manager h.operator)
  · intro t ht next roles
    exact rolesAt_step next (plain t ht) roles
  · exact ⟨h, stored, rfl, rfl⟩

end Dispatch

section Sample

def pauseStringBridge : Call (Vector UInt8 32) (Vector UInt8 32) where
  signers := [Vector.replicate 32 9]
  ixSysvar := { instructions := [], currentIndex := 0 }
  ix := .pauseBridge { manager := Vector.replicate 32 9, bridgeHandler := stringHandlerKey }

theorem plain_calls_keep_roles_sample :
    let s := stateAfter stringRuntime richLedger [initializeStringHandler]
    ∃ h, s.programData stringHandlerKey = some (.bridgeHandler h) ∧
      RolesAt stringHandlerKey h.manager h.operator
        (stateAfter stringRuntime s [pauseStringBridge]) := by
  intro s
  have hisSome : ((s.programData stringHandlerKey).bind ProgramData.bridgeHandler?).isSome := by
    decide +kernel
  obtain ⟨h, hh⟩ := Option.isSome_iff_exists.mp hisSome
  obtain ⟨d, hd, hdata⟩ := Option.bind_eq_some_iff.mp hh
  obtain rfl := ProgramData.bridgeHandler?_eq_some.mp hdata
  have hok : (executeAll stringRuntime s [pauseStringBridge]).isOk = true := by decide +kernel
  refine ⟨h, hd, plain_calls_keep_roles (F := stringFormat) (P := sampleFixedAccounts)
    (run_callTrace hok) ?_ hd⟩
  intro t ht call returned hlabel
  obtain ⟨call', hcall', returned', hlabel'⟩ := exists_call_of_mem hok ht
  obtain ⟨rfl, -⟩ := Event.call.inj (hlabel.symm.trans hlabel')
  obtain rfl := List.mem_singleton.mp hcall'
  exact ⟨_, dispatch_eq_ok.mpr ⟨trivial, ⟨[], rfl⟩, [], (List.append_nil _).symm,
    fun hnamed => nomatch hnamed⟩⟩

end Sample

end BridgeProgram.InstructionData
