import BridgeProgram.AccountNamespaces
import BridgeProgram.BorshCodecs

/-!
The accounts of the program as bytes: a discriminator, then the fields in order, in
memory whose size is fixed when the account is created. Nothing is lost between the
values that the instructions work with and the bytes that the ledger keeps.
-/

namespace BridgeProgram.AccountBytes

open BridgeProgram.AccountNamespaces
open BridgeProgram.BorshCodecs
open BridgeProgram.BorshCodecs.Codec
open BridgeProgram.HandlerInstructions
open BridgeProgram.ProgramStates
open BridgeProgram.SolanaRuntime
open BridgeProgram.SourceInstructions
open BridgeProgram.TargetInstructions
open BridgeProgram.TokenInstructions

/-- Keys and digests are 32 bytes each, and the default ones are zeros. -/
structure KeyFormat {Pubkey Hash : Type} (rt : Runtime Pubkey Hash) where
  key : Vector UInt8 32 ≃ Pubkey
  digest : Vector UInt8 32 ≃ Hash
  key_bytes : ∀ k, key.symm k = rt.pubkeyBytes k
  digest_bytes : ∀ d, digest.symm d = rt.hashBytes d
  default_key : rt.pubkeyBytes rt.defaultPubkey = Vector.replicate 32 0
  default_digest : rt.hashBytes rt.defaultHash = Vector.replicate 32 0

/-- The types of the program's accounts. -/
inductive Kind
  | bridgeHandler
  | bridgeProof
  | bridgeProofSourceChain
  | guardianInfo
  | tokenInfo
  | verifiedSignatures
  deriving DecidableEq, Repr

/-- The first eight bytes of the SHA-256 digest of `account:` and the type's name. -/
def Kind.discriminator : Kind → Vector UInt8 8
  | .bridgeHandler => #v[0xf0, 0xff, 0x01, 0x8e, 0xba, 0x0c, 0x01, 0xf6]
  | .bridgeProof => #v[0xda, 0xd6, 0x83, 0xc8, 0xb0, 0x97, 0x22, 0x46]
  | .bridgeProofSourceChain => #v[0x39, 0xa2, 0x42, 0x56, 0x14, 0x37, 0x3a, 0xe8]
  | .guardianInfo => #v[0x8a, 0x1d, 0x35, 0x92, 0x1f, 0x15, 0xc3, 0xa4]
  | .tokenInfo => #v[0x6d, 0xa2, 0x34, 0x7d, 0x4d, 0xa6, 0x25, 0xca]
  | .verifiedSignatures => #v[0x7e, 0x46, 0xad, 0x91, 0xcd, 0xe3, 0x99, 0x01]

def Kind.all : List Kind :=
  [.bridgeHandler, .bridgeProof, .bridgeProofSourceChain, .guardianInfo, .tokenInfo,
    .verifiedSignatures]

theorem Kind.discriminator_inj {k k' : Kind} :
    k.discriminator = k'.discriminator ↔ k = k' := by
  cases k <;> cases k' <;> decide

variable {Pubkey Hash : Type}

def kindOf : ProgramData Pubkey Hash → Kind
  | .bridgeHandler _ => .bridgeHandler
  | .bridgeProof _ => .bridgeProof
  | .bridgeProofSourceChain _ => .bridgeProofSourceChain
  | .guardianInfo _ => .guardianInfo
  | .tokenInfo _ => .tokenInfo
  | .verifiedSignatures _ => .verifiedSignatures

/-- The space of an account depends on its type alone. -/
def Kind.space : Kind → Nat
  | .bridgeHandler => 8 + 188
  | .bridgeProof => 8 + 137
  | .bridgeProofSourceChain => 8 + 73
  | .guardianInfo => 8 + (1 + (4 + maxGuardianCount * 32))
  | .tokenInfo => 8 + 68
  | .verifiedSignatures => 8 + (1 + (4 + maxGuardianSignatures) + 8)

theorem space_kindOf (d : ProgramData Pubkey Hash) : (kindOf d).space = d.space := by
  cases d <;> rfl

/-- A discriminator and the type that it stands for. -/
def discriminator : Vector UInt8 8 ≃. Kind where
  toFun v := Kind.all.find? fun k => k.discriminator = v
  invFun k := some k.discriminator
  inv v k := by
    rw [Option.some.injEq]
    constructor
    · rintro rfl
      cases k <;> decide
    · intro h
      simpa using List.find?_some h

def bridgeHandlerData : BridgeHandler Pubkey ≃. ProgramData Pubkey Hash where
  toFun h := some (.bridgeHandler h)
  invFun := ProgramData.bridgeHandler?
  inv h d := by rw [ProgramData.bridgeHandler?_eq_some, Option.some.injEq, eq_comm]

def bridgeProofData : BridgeProof Pubkey Hash ≃. ProgramData Pubkey Hash where
  toFun p := some (.bridgeProof p)
  invFun
    | .bridgeProof p => some p
    | _ => none
  inv p d := by cases d <;> simp [eq_comm]

def bridgeProofSourceChainData :
    BridgeProofSourceChain Pubkey Hash ≃. ProgramData Pubkey Hash where
  toFun p := some (.bridgeProofSourceChain p)
  invFun
    | .bridgeProofSourceChain p => some p
    | _ => none
  inv p d := by cases d <;> simp [eq_comm]

def guardianInfoData : GuardianInfo Pubkey ≃. ProgramData Pubkey Hash where
  toFun g := some (.guardianInfo g)
  invFun := ProgramData.guardianInfo?
  inv g d := by rw [ProgramData.guardianInfo?_eq_some, Option.some.injEq, eq_comm]

def tokenInfoData : TokenInfo Pubkey ≃. ProgramData Pubkey Hash where
  toFun t := some (.tokenInfo t)
  invFun := ProgramData.tokenInfo?
  inv t d := by rw [ProgramData.tokenInfo?_eq_some, Option.some.injEq, eq_comm]

def verifiedSignaturesData : VerifiedSignatures ≃. ProgramData Pubkey Hash where
  toFun v := some (.verifiedSignatures v)
  invFun := ProgramData.verifiedSignatures?
  inv v d := by rw [ProgramData.verifiedSignatures?_eq_some, Option.some.injEq, eq_comm]

/-- Borsh writes the position of an enum variant. -/
def chainIndex : UInt8 ≃. Chain where
  toFun b := if b = 0 then some .solana else if b = 1 then some .solayer else none
  invFun
    | .solana => some 0
    | .solayer => some 1
  inv b chain := by
    split_ifs with h0 h1 <;> cases chain <;> simp_all [eq_comm]

def chain : Codec UInt8 Chain :=
  byte.through chainIndex

def fixedFeeInfo : Codec UInt8 FixedFeeInfo :=
  (u64.pair (u64.pair u64)).map
    { toFun := fun x => ⟨x.1, x.2.1, x.2.2⟩
      invFun := fun f => (f.bridgeAssetFee, f.bridgeMessageFee, f.crossChainCallFee)
      left_inv := fun _ => rfl
      right_inv := fun _ => rfl }

variable {rt : Runtime Pubkey Hash}

def pubkey (F : KeyFormat rt) : Codec UInt8 Pubkey :=
  (fixed 32).map F.key

def digest (F : KeyFormat rt) : Codec UInt8 Hash :=
  (fixed 32).map F.digest

def bridgeHandler (F : KeyFormat rt) : Codec UInt8 (BridgeHandler Pubkey) :=
  (byte.pair (u64.pair (bool.pair (u64.pair (chain.pair ((pubkey F).pair ((pubkey F).pair
    ((pubkey F).pair ((pubkey F).pair (byte.pair (u64.pair (u64.pair
      fixedFeeInfo)))))))))))).map
    { toFun := fun (bump, initNonce, pause, nonce, chain, feeVault, manager, operator,
        guardianInfo, guardianThreshold, remained, epoch, feeInfo) =>
        { bump, initNonce, pause, nonce, chain, feeVault, manager, operator, guardianInfo,
          guardianThreshold, instantBridgeCapRemainedDollar := remained,
          instantBridgeCapEpoch := epoch, feeInfo }
      invFun := fun h => (h.bump, h.initNonce, h.pause, h.nonce, h.chain, h.feeVault, h.manager,
        h.operator, h.guardianInfo, h.guardianThreshold, h.instantBridgeCapRemainedDollar,
        h.instantBridgeCapEpoch, h.feeInfo)
      left_inv := fun _ => rfl
      right_inv := fun _ => rfl }

def bridgeProof (F : KeyFormat rt) : Codec UInt8 (BridgeProof Pubkey Hash) :=
  (byte.pair ((digest F).pair ((fixed 64).pair ((pubkey F).pair u64)))).map
    { toFun := fun (bump, msgHash, txId, userAccount, createdAt) =>
        { bump, msgHash, txId, userAccount, createdAt }
      invFun := fun p => (p.bump, p.msgHash, p.txId, p.userAccount, p.createdAt)
      left_inv := fun _ => rfl
      right_inv := fun _ => rfl }

def bridgeProofSourceChain (F : KeyFormat rt) :
    Codec UInt8 (BridgeProofSourceChain Pubkey Hash) :=
  (byte.pair ((digest F).pair ((pubkey F).pair u64))).map
    { toFun := fun (bump, msgHash, userAccount, createdAt) =>
        { bump, msgHash, userAccount, createdAt }
      invFun := fun p => (p.bump, p.msgHash, p.userAccount, p.createdAt)
      left_inv := fun _ => rfl
      right_inv := fun _ => rfl }

def guardianInfo (F : KeyFormat rt) : Codec UInt8 (GuardianInfo Pubkey) :=
  (byte.pair (pubkey F).vec).map
    { toFun := fun (bump, guardians) => { bump, guardians }
      invFun := fun g => (g.bump, g.guardians)
      left_inv := fun _ => rfl
      right_inv := fun _ => rfl }

def tokenInfo (F : KeyFormat rt) : Codec UInt8 (TokenInfo Pubkey) :=
  (byte.pair ((pubkey F).pair ((pubkey F).pair (bool.pair (bool.pair bool))))).map
    { toFun := fun (bump, solanaMint, solayerMint, isSolanaNativeToken, isSolayerNativeToken,
        pause) =>
        { bump, solanaMint, solayerMint, isSolanaNativeToken, isSolayerNativeToken, pause }
      invFun := fun t => (t.bump, t.solanaMint, t.solayerMint, t.isSolanaNativeToken,
        t.isSolayerNativeToken, t.pause)
      left_inv := fun _ => rfl
      right_inv := fun _ => rfl }

def verifiedSignatures : Codec UInt8 VerifiedSignatures :=
  (byte.pair (byte.vec.pair u64)).map
    { toFun := fun (bump, pubkeyIndex, createdAt) => { bump, pubkeyIndex, createdAt }
      invFun := fun v => (v.bump, v.pubkeyIndex, v.createdAt)
      left_inv := fun _ => rfl
      right_inv := fun _ => rfl }

/-- What follows the discriminator of an account of a type. -/
def fields (F : KeyFormat rt) : Kind → Codec UInt8 (ProgramData Pubkey Hash)
  | .bridgeHandler => (bridgeHandler F).through bridgeHandlerData
  | .bridgeProof => (bridgeProof F).through bridgeProofData
  | .bridgeProofSourceChain => (bridgeProofSourceChain F).through bridgeProofSourceChainData
  | .guardianInfo => (guardianInfo F).through guardianInfoData
  | .tokenInfo => (tokenInfo F).through tokenInfoData
  | .verifiedSignatures => verifiedSignatures.through verifiedSignaturesData

theorem kindOf_of_fits {F : KeyFormat rt} {k : Kind} {d : ProgramData Pubkey Hash}
    (fits : (fields F k).Fits d) : kindOf d = k := by
  cases k <;> obtain ⟨x, hx, -⟩ := fits <;>
    exact congrArg kindOf (Option.some.inj ((PEquiv.eq_some_iff _).mp hx)).symm

/-- `AnchorSerialize` for an account, its discriminator first. -/
def account (F : KeyFormat rt) : Codec UInt8 (ProgramData Pubkey Hash) :=
  ((fixed 8).through discriminator).tagged kindOf (fields F) fun _ _ => kindOf_of_fits

theorem encode_account (F : KeyFormat rt) (d : ProgramData Pubkey Hash) :
    (account F).encode d =
      (kindOf d).discriminator.toList ++ (fields F (kindOf d)).encode d := rfl

@[simp] theorem length_encode_pubkey (F : KeyFormat rt) (k : Pubkey) :
    ((pubkey F).encode k).length = 32 := by
  simp [pubkey]

@[simp] theorem length_encode_digest (F : KeyFormat rt) (d : Hash) :
    ((digest F).encode d).length = 32 := by
  simp [digest]

@[simp] theorem length_encode_chain (c : Chain) : (chain.encode c).length = 1 := by
  cases c <;> rfl

@[simp] theorem length_encode_fixedFeeInfo (f : FixedFeeInfo) :
    (fixedFeeInfo.encode f).length = 24 := by
  simp [fixedFeeInfo]

@[simp] theorem fits_pubkey (F : KeyFormat rt) (k : Pubkey) : (pubkey F).Fits k := by
  simp [pubkey]

@[simp] theorem fits_digest (F : KeyFormat rt) (d : Hash) : (digest F).Fits d := by
  simp [digest]

@[simp] theorem fits_chain (c : Chain) : chain.Fits c := by
  cases c <;> exact ⟨_, rfl, trivial⟩

@[simp] theorem fits_fixedFeeInfo (f : FixedFeeInfo) : fixedFeeInfo.Fits f := by
  simp [fixedFeeInfo]

theorem length_encode_account (F : KeyFormat rt) (d : ProgramData Pubkey Hash) :
    ((account F).encode d).length = d.serializedLen := by
  rw [encode_account, List.length_append, Vector.length_toList]
  cases d with
  | bridgeHandler h =>
      show 8 + ((bridgeHandler F).encode h).length = _
      simp [bridgeHandler, ProgramData.serializedLen, ProgramData.space]
  | bridgeProof p =>
      show 8 + ((bridgeProof F).encode p).length = _
      simp [bridgeProof, ProgramData.serializedLen, ProgramData.space]
  | bridgeProofSourceChain p =>
      show 8 + ((bridgeProofSourceChain F).encode p).length = _
      simp [bridgeProofSourceChain, ProgramData.serializedLen, ProgramData.space]
  | guardianInfo g =>
      show 8 + ((guardianInfo F).encode g).length = _
      simp only [guardianInfo, encode_map, length_encode_pair, length_encode_symbol,
        length_encode_vec (length_encode_pubkey F)]
      show 8 + (1 + (4 + 32 * g.guardians.length)) = 8 + (1 + (4 + g.guardians.length * 32))
      omega
  | tokenInfo t =>
      show 8 + ((tokenInfo F).encode t).length = _
      simp [tokenInfo, ProgramData.serializedLen, ProgramData.space]
  | verifiedSignatures v =>
      show 8 + (verifiedSignatures.encode v).length = _
      simp only [verifiedSignatures, encode_map, length_encode_pair, length_encode_symbol,
        length_encode_vec length_encode_symbol, length_encode_u64]
      show 8 + (1 + (4 + 1 * v.pubkeyIndex.length + 8)) =
        8 + (1 + (4 + v.pubkeyIndex.length) + 8)
      omega

theorem fits_account (F : KeyFormat rt) {d : ProgramData Pubkey Hash}
    (h : d.serializedLen ≤ d.space) : (account F).Fits d := by
  refine ⟨⟨_, rfl, trivial⟩, ?_⟩
  cases d with
  | bridgeHandler x => exact ⟨x, rfl, by simp [bridgeHandler]⟩
  | bridgeProof x => exact ⟨x, rfl, by simp [bridgeProof]⟩
  | bridgeProofSourceChain x => exact ⟨x, rfl, by simp [bridgeProofSourceChain]⟩
  | guardianInfo x =>
      simp only [ProgramData.serializedLen, ProgramData.space, maxGuardianCount] at h
      have hlength : x.guardians.length < 2 ^ 32 := by omega
      exact ⟨x, rfl, by simpa [guardianInfo] using hlength⟩
  | tokenInfo x => exact ⟨x, rfl, by simp [tokenInfo]⟩
  | verifiedSignatures x =>
      simp only [ProgramData.serializedLen, ProgramData.space, maxGuardianSignatures] at h
      have hlength : x.pubkeyIndex.length < 2 ^ 32 := by omega
      exact ⟨x, rfl, by simpa [verifiedSignatures] using hlength⟩

inductive ReadError
  | accountDiscriminatorNotFound
  | accountDiscriminatorMismatch
  | accountDidNotDeserialize
  deriving DecidableEq

/-- `AccountDeserialize::try_deserialize` for an account of a type; bytes after the last
field are not looked at. -/
def tryDeserialize (F : KeyFormat rt) (k : Kind) (bytes : List UInt8) :
    Except ReadError (ProgramData Pubkey Hash) :=
  if bytes.length < 8 then .error .accountDiscriminatorNotFound
  else if bytes.take 8 ≠ k.discriminator.toList then .error .accountDiscriminatorMismatch
  else
    match (fields F k).decode (bytes.drop 8) with
    | some (d, _) => .ok d
    | none => .error .accountDidNotDeserialize

/-- `AccountSerialize::try_serialize` into the memory of an account. -/
def trySerialize (F : KeyFormat rt) (memory : List UInt8) (d : ProgramData Pubkey Hash) :
    Option (List UInt8) :=
  overwrite memory ((account F).encode d)

/-- The memory of a new account. -/
def zeroed (k : Kind) : List UInt8 :=
  List.replicate k.space 0

/-- The contents that `init` hands to an instruction. -/
def freshData (rt : Runtime Pubkey Hash) : Kind → ProgramData Pubkey Hash
  | .bridgeHandler => .bridgeHandler (zeroBridgeHandler rt)
  | .bridgeProof => .bridgeProof (zeroBridgeProof rt)
  | .bridgeProofSourceChain => .bridgeProofSourceChain (zeroBridgeProofSourceChain rt)
  | .guardianInfo => .guardianInfo { bump := 0, guardians := [] }
  | .tokenInfo => .tokenInfo (zeroTokenInfo rt)
  | .verifiedSignatures =>
      .verifiedSignatures { bump := 0, pubkeyIndex := [], createdAt := 0 }

theorem tryDeserialize_eq_ok {F : KeyFormat rt} {k : Kind} {bytes : List UInt8}
    {d : ProgramData Pubkey Hash} :
    tryDeserialize F k bytes = .ok d ↔
      kindOf d = k ∧ ∃ rest, (account F).decode bytes = some (d, rest) := by
  simp only [(account F).decode_iff, encode_account]
  unfold tryDeserialize
  constructor
  · intro h
    split_ifs at h with hshort htag
    split at h
    · rename_i d' rest hdecode
      obtain rfl := Except.ok.inj h
      obtain ⟨fits, hbytes⟩ := ((fields F k).decode_iff _ _ _).mp hdecode
      obtain rfl := kindOf_of_fits fits
      refine ⟨rfl, rest, ⟨⟨_, rfl, trivial⟩, fits⟩, ?_⟩
      rw [List.append_assoc, ← hbytes, ← not_not.mp htag, List.take_append_drop]
    · cases h
  · rintro ⟨rfl, rest, ⟨-, fits⟩, rfl⟩
    have hlength : (kindOf d).discriminator.toList.length = 8 := Vector.length_toList ..
    rw [if_neg (by simp), if_neg (by rw [List.append_assoc, List.take_left' hlength]; simp),
      List.append_assoc, List.drop_left' hlength, (fields F _).decode_encode fits]

theorem tryDeserialize_of_other {F : KeyFormat rt} {k : Kind} {bytes rest : List UInt8}
    {d : ProgramData Pubkey Hash} (h : (account F).decode bytes = some (d, rest))
    (other : kindOf d ≠ k) :
    tryDeserialize F k bytes = .error .accountDiscriminatorMismatch := by
  obtain ⟨-, rfl⟩ := ((account F).decode_iff _ _ _).mp h
  have hlength : (kindOf d).discriminator.toList.length = 8 := Vector.length_toList ..
  rw [tryDeserialize, encode_account, if_neg (by simp), if_pos]
  rw [List.append_assoc, List.take_left' hlength]
  intro heq
  exact other (Kind.discriminator_inj.mp (Vector.toList_inj.mp heq))

theorem encode_defaultPubkey (F : KeyFormat rt) :
    (pubkey F).encode rt.defaultPubkey = List.replicate 32 0 := by
  show (F.key.symm rt.defaultPubkey).toList = _
  rw [F.key_bytes, F.default_key, Vector.toList_replicate]

theorem encode_defaultHash (F : KeyFormat rt) :
    (digest F).encode rt.defaultHash = List.replicate 32 0 := by
  show (F.digest.symm rt.defaultHash).toList = _
  rw [F.digest_bytes, F.default_digest, Vector.toList_replicate]

theorem encode_freshData (F : KeyFormat rt) (k : Kind) :
    (fields F k).encode (freshData rt k) =
      List.replicate ((freshData rt k).serializedLen - 8) 0 := by
  have hkey := encode_defaultPubkey F
  have hdigest := encode_defaultHash F
  have hbyte : byte.encode 0 = List.replicate 1 0 := rfl
  have hu64 : u64.encode 0 = List.replicate 8 0 := rfl
  have hbool : bool.encode false = List.replicate 1 0 := rfl
  cases k with
  | bridgeHandler =>
      have hchain : chain.encode .solana = List.replicate 1 0 := rfl
      have hfee : fixedFeeInfo.encode ⟨0, 0, 0⟩ = List.replicate 24 0 := rfl
      have hencode : (fields F .bridgeHandler).encode (freshData rt .bridgeHandler) =
          byte.encode 0 ++ (u64.encode 0 ++ (bool.encode false ++ (u64.encode 0 ++
            (chain.encode .solana ++ ((pubkey F).encode rt.defaultPubkey ++
              ((pubkey F).encode rt.defaultPubkey ++ ((pubkey F).encode rt.defaultPubkey ++
                ((pubkey F).encode rt.defaultPubkey ++ (byte.encode 0 ++ (u64.encode 0 ++
                  (u64.encode 0 ++ fixedFeeInfo.encode ⟨0, 0, 0⟩))))))))))) := rfl
      rw [hencode, hkey, hbyte, hu64, hbool, hchain, hfee]
      simp only [List.replicate_append_replicate]
      rfl
  | bridgeProof =>
      have htx : (fixed 64).encode (Vector.replicate 64 (0 : UInt8)) = List.replicate 64 0 :=
        Vector.toList_replicate ..
      have hencode : (fields F .bridgeProof).encode (freshData rt .bridgeProof) =
          byte.encode 0 ++ ((digest F).encode rt.defaultHash ++
            ((fixed 64).encode (Vector.replicate 64 0) ++
              ((pubkey F).encode rt.defaultPubkey ++ u64.encode 0))) := rfl
      rw [hencode, hkey, hdigest, hbyte, hu64, htx]
      simp only [List.replicate_append_replicate]
      rfl
  | bridgeProofSourceChain =>
      have hencode : (fields F .bridgeProofSourceChain).encode
          (freshData rt .bridgeProofSourceChain) =
          byte.encode 0 ++ ((digest F).encode rt.defaultHash ++
            ((pubkey F).encode rt.defaultPubkey ++ u64.encode 0)) := rfl
      rw [hencode, hkey, hdigest, hbyte, hu64]
      simp only [List.replicate_append_replicate]
      rfl
  | tokenInfo =>
      have hencode : (fields F .tokenInfo).encode (freshData rt .tokenInfo) =
          byte.encode 0 ++ ((pubkey F).encode rt.defaultPubkey ++
            ((pubkey F).encode rt.defaultPubkey ++ (bool.encode false ++ (bool.encode false ++
              bool.encode false)))) := rfl
      rw [hencode, hkey, hbyte, hbool]
      simp only [List.replicate_append_replicate]
      rfl
  | guardianInfo =>
      show byte.encode 0 ++ (u32.encode 0 ++ []) = _
      rfl
  | verifiedSignatures => rfl

theorem freshData_fits (rt : Runtime Pubkey Hash) (k : Kind) :
    (freshData rt k).serializedLen ≤ (freshData rt k).space := by
  cases k <;> exact Nat.le_of_ble_eq_true rfl

theorem kindOf_freshData (rt : Runtime Pubkey Hash) (k : Kind) :
    kindOf (freshData rt k) = k := by
  cases k <;> rfl

theorem decode_zeroed (F : KeyFormat rt) (k : Kind) :
    ∃ rest, (fields F k).decode ((zeroed k).drop 8) = some (freshData rt k, rest) := by
  have hfits := (fits_account F (freshData_fits rt k)).2
  rw [kindOf_freshData] at hfits
  have hspace := freshData_fits rt k
  rw [← space_kindOf, kindOf_freshData] at hspace
  have hsplit : (zeroed k).drop 8 = (fields F k).encode (freshData rt k) ++
      List.replicate (k.space - (freshData rt k).serializedLen) 0 := by
    have hlen : 8 ≤ (freshData rt k).serializedLen := by
      cases k <;> exact Nat.le_of_ble_eq_true rfl
    rw [encode_freshData, List.replicate_append_replicate, zeroed, List.drop_replicate]
    congr 1
    omega
  rw [hsplit]
  exact ⟨_, (fields F k).decode_encode hfits _⟩

/-- An account of the right size takes what fits, and gives it back to those who ask for
its type; nothing else reads as it, and writing it back changes nothing. -/
theorem account_bytes_exact (F : KeyFormat rt) (memory : List UInt8)
    (d : ProgramData Pubkey Hash) (sized : memory.length = d.space) :
    (∀ k, tryDeserialize F k memory = .ok d ↔
      kindOf d = k ∧ ∃ stale, memory = (account F).encode d ++ stale) ∧
    (tryDeserialize F (kindOf d) memory = .ok d → trySerialize F memory d = some memory) ∧
    (trySerialize F memory d ≠ none ↔ d.serializedLen ≤ d.space) ∧
    ∀ memory', trySerialize F memory d = some memory' → memory'.length = d.space ∧
      ∀ k, tryDeserialize F k memory' =
        if kindOf d = k then .ok d else .error .accountDiscriminatorMismatch := by
  have hlength := length_encode_account F d
  have hfits : trySerialize F memory d ≠ none ↔ d.serializedLen ≤ d.space := by
    simp [trySerialize, overwrite, hlength, sized]
  refine ⟨?_, ?_, hfits, ?_⟩
  · intro k
    rw [tryDeserialize_eq_ok]
    refine and_congr_right fun _ => exists_congr fun rest => ?_
    rw [(account F).decode_iff]
    constructor
    · exact And.right
    · intro h
      refine ⟨fits_account F ?_, h⟩
      have hle := congrArg List.length h
      rw [List.length_append, hlength, sized] at hle
      omega
  · intro h
    obtain ⟨-, rest, hdecode⟩ := tryDeserialize_eq_ok.mp h
    exact overwrite_of_decode (account F) hdecode
  · intro memory' h
    have hspace := hfits.mp (by rw [h]; exact Option.some_ne_none _)
    have hdecode := decode_overwrite (account F) (fits_account F hspace) h
    refine ⟨(length_overwrite h).trans sized, fun k => ?_⟩
    split_ifs with hk
    · exact tryDeserialize_eq_ok.mpr ⟨hk, _, hdecode⟩
    · exact tryDeserialize_of_other hdecode hk

def stringFormat : KeyFormat stringRuntime where
  key := Equiv.refl _
  digest := Equiv.refl _
  key_bytes _ := rfl
  digest_bytes _ := rfl
  default_key := rfl
  default_digest := rfl

theorem account_bytes_exact_sample :
    let g : GuardianInfo (Vector UInt8 32) := { bump := 255, guardians := [Vector.replicate 32 7] }
    ∃ memory, trySerialize stringFormat (List.replicate 493 1) (.guardianInfo g) = some memory ∧
      tryDeserialize stringFormat .guardianInfo memory = .ok (.guardianInfo g) := by
  intro g
  obtain ⟨-, -, hserialize, hread⟩ := account_bytes_exact stringFormat (List.replicate 493 1)
    (.guardianInfo g) List.length_replicate
  have hfits : (ProgramData.guardianInfo g : ProgramData _ (Vector UInt8 32)).serializedLen ≤
      (ProgramData.guardianInfo g : ProgramData _ (Vector UInt8 32)).space :=
    Nat.le_of_ble_eq_true rfl
  obtain ⟨memory, hmemory⟩ := Option.ne_none_iff_exists'.mp (hserialize.mpr hfits)
  exact ⟨memory, hmemory, (hread memory hmemory).2 .guardianInfo⟩

end BridgeProgram.AccountBytes
