import BridgeProgram.InstantCapCharges
import BridgeProgram.QuotientSums
import BridgeProgram.SymbolicRuntime
import Mathlib.Algebra.BigOperators.Ring.List
import Mathlib.Algebra.Order.Floor.Semifield
import Mathlib.Data.Rat.Floor
import Mathlib.Tactic.FieldSimp

namespace BridgeProgram.SplitPayouts

open BridgeProgram.BridgeProgramEntry
open BridgeProgram.InstantCapCharges
open BridgeProgram.ProgramStates
open BridgeProgram.QuotientSums
open BridgeProgram.SolanaRuntime
open BridgeProgram.SymbolicRuntime
open BridgeProgram.TargetInstructions

variable {Pubkey Hash : Type} {rt : Runtime Pubkey Hash}

/-- `as u64`: truncated, and cut off at the ends of the range. -/
def castU64 (x : ℚ) : UInt64 :=
  UInt64.ofNat (min ⌊x⌋₊ (2 ^ 64 - 1))

/-- The value of an amount of a token, of which at least one unit is priced. -/
def tokenDollars (price : ℚ) (amount : UInt64) (decimals : UInt8) : ℚ :=
  let amountWithDecimal : ℚ := amount.toNat / 10 ^ decimals.toNat
  price * if amountWithDecimal < 1 then 1 else amountWithDecimal

def solDollars (receiveAmount : UInt64) : ℚ :=
  receiveAmount.toNat / lamportsPerSol.toNat * solanaDollarValue.toNat

/-- A runtime with exact arithmetic in place of `f64`. -/
def exactRuntime (rt : Runtime Pubkey Hash) : Runtime Pubkey Hash :=
  { rt with
    tokenDollarValue := fun price amount decimals => castU64 (tokenDollars price amount decimals)
    solDollarValue := fun receiveAmount => castU64 (solDollars receiveAmount) }

/-- What a payout pays in. -/
inductive Asset (Pubkey : Type)
  | sol
  | token (mint : Pubkey) (decimals : UInt8)

/-- The dollar charge of a payout. -/
def dollarCharge (rt : Runtime Pubkey Hash) : Asset Pubkey → UInt64 → Option UInt64
  | .sol, receiveAmount => some (rt.solDollarValue receiveAmount)
  | .token mint decimals, receiveAmount =>
      getWhitelistedTokenPrice rt mint receiveAmount decimals

def paidAsset? (decimals : UInt8) : Instruction Pubkey Hash → Option (Asset Pubkey × UInt64)
  | .bridgeAssetTargetChain a _ _ _ _ receiveAmount _ _ =>
      some (.token a.mint decimals, receiveAmount)
  | .bridgeAssetTargetChainSol _ _ _ _ receiveAmount _ => some (.sol, receiveAmount)
  | _ => none

theorem capValue_eq_dollarCharge (decimals : UInt8) (ix : Instruction Pubkey Hash) :
    capValue rt .solana decimals ix =
      (paidAsset? decimals ix).bind fun paid => dollarCharge rt paid.1 paid.2 := by
  cases ix <;> rfl

/-- How an asset is priced: a dollar has `unit` parts, of which a base unit is worth
`num`, and at least `floor` base units are priced. -/
structure Rate where
  num : ℕ
  unit : ℕ
  floor : ℕ
  unit_pos : 0 < unit
  deriving DecidableEq

def Rate.parts (rate : Rate) (amount : UInt64) : ℕ :=
  rate.num * max amount.toNat rate.floor

def solRate : Rate where
  num := solanaDollarValue.toNat
  unit := lamportsPerSol.toNat
  floor := 0
  unit_pos := by decide

def tokenRate (price : ℚ) (decimals : UInt8) : Rate where
  num := price.num.toNat
  unit := price.den * 10 ^ decimals.toNat
  floor := 10 ^ decimals.toNat
  unit_pos := Nat.mul_pos price.den_pos (Nat.pow_pos (by decide))

/-- The rate of SOL or of a listed mint. -/
def rate? (rt : Runtime Pubkey Hash) : Asset Pubkey → Option Rate
  | .sol => some solRate
  | .token mint decimals =>
      (solanaWhitelistedTokens.find? fun entry => entry.1 == rt.pubkeyBytes mint).map
        fun entry => tokenRate entry.2 decimals

theorem castU64_div (n unit : ℕ) :
    (castU64 ((n : ℚ) / unit)).toNat = cappedDiv (2 ^ 64 - 1) unit n := by
  rw [castU64, Nat.floor_div_eq_div, UInt64.toNat_ofNat_of_lt']
  · rfl
  · exact Nat.lt_of_le_of_lt (Nat.min_le_right ..) (by decide)

theorem solDollars_eq (amount : UInt64) :
    solDollars amount = (solRate.parts amount : ℚ) / solRate.unit := by
  rw [solDollars, Rate.parts, solRate, Nat.max_zero, Nat.cast_mul]
  ring

theorem tokenDollars_eq {price : ℚ} (nonneg : 0 ≤ price) (amount : UInt64) (decimals : UInt8) :
    tokenDollars price amount decimals =
      ((tokenRate price decimals).parts amount : ℚ) / (tokenRate price decimals).unit := by
  have hpow : (0 : ℚ) < 10 ^ decimals.toNat := by positivity
  have hprice : (price.num.toNat : ℚ) / price.den = price := by
    have hnum : ((price.num.toNat : ℤ) : ℚ) = price.num := by
      rw [Int.toNat_of_nonneg (Rat.num_nonneg.mpr nonneg)]
    rw [← Int.cast_natCast, hnum, Rat.num_div_den]
  have hmax : (if (amount.toNat : ℚ) / 10 ^ decimals.toNat < 1 then 1
      else (amount.toNat : ℚ) / 10 ^ decimals.toNat) =
      (max amount.toNat (10 ^ decimals.toNat) : ℕ) / 10 ^ decimals.toNat := by
    by_cases hless : amount.toNat < 10 ^ decimals.toNat
    · have hlessQ : (amount.toNat : ℚ) / 10 ^ decimals.toNat < 1 := by
        rw [div_lt_one hpow]
        exact_mod_cast hless
      rw [if_pos hlessQ, Nat.max_eq_right (Nat.le_of_lt hless), Nat.cast_pow, Nat.cast_ofNat,
        div_self hpow.ne']
    · have hlessQ : ¬ (amount.toNat : ℚ) / 10 ^ decimals.toNat < 1 := by
        rw [div_lt_one hpow]
        exact_mod_cast hless
      rw [if_neg hlessQ, Nat.max_eq_left (Nat.not_lt.mp hless)]
  simp only [tokenDollars, Rate.parts, tokenRate]
  rw [hmax, Nat.cast_mul, Nat.cast_mul, Nat.cast_pow, Nat.cast_ofNat, mul_div_mul_comm, hprice]

theorem listed_nonneg : ∀ entry ∈ solanaWhitelistedTokens, (0 : ℚ) ≤ entry.2 := by
  decide +kernel

/-- The dollar charge at a rate. -/
def Rate.charge (rate : Rate) (amount : UInt64) : ℕ :=
  cappedDiv (2 ^ 64 - 1) rate.unit (rate.parts amount)

theorem exists_charge {asset : Asset Pubkey} {rate : Rate} (listed : rate? rt asset = some rate)
    (amount : UInt64) : ∃ charge, dollarCharge (exactRuntime rt) asset amount = some charge ∧
      charge.toNat = rate.charge amount := by
  cases asset with
  | sol =>
      obtain rfl := Option.some.inj listed
      refine ⟨castU64 (solDollars amount), rfl, ?_⟩
      rw [solDollars_eq, castU64_div]
      rfl
  | token mint decimals =>
      simp only [rate?, Option.map_eq_some_iff] at listed
      obtain ⟨entry, hentry, rfl⟩ := listed
      refine ⟨castU64 (tokenDollars entry.2 amount decimals), ?_, ?_⟩
      · rw [dollarCharge, getWhitelistedTokenPrice]
        simp only [exactRuntime]
        rw [hentry]
        rfl
      · rw [tokenDollars_eq (listed_nonneg _ (List.mem_of_find?_eq_some hentry)), castU64_div]
        rfl

variable {rate : Rate} {amounts : List UInt64} {total : UInt64}

/-- The parts of a dollar that the single payouts drop, together with what the payout
of the sum is worth, are less than what the single payouts are worth and a dollar; or
the single payouts are worth the largest `u64` without the dropped parts. -/
def Rate.SplitsEvenly (rate : Rate) (amounts : List UInt64) (total : UInt64) : Prop :=
  rate.parts total + remainders rate.unit (amounts.map rate.parts) <
      rate.unit + (amounts.map rate.parts).sum ∨
    rate.unit * (2 ^ 64 - 1) + remainders rate.unit (amounts.map rate.parts) ≤
      (amounts.map rate.parts).sum

instance : Decidable (rate.SplitsEvenly amounts total) :=
  inferInstanceAs (Decidable (_ ∨ _))

theorem map_charge (rate : Rate) (amounts : List UInt64) : amounts.map rate.charge =
    (amounts.map rate.parts).map (cappedDiv (2 ^ 64 - 1) rate.unit) := by
  rw [List.map_map]
  rfl

theorem sol_splitsEvenly_iff (sum : total.toNat = (amounts.map UInt64.toNat).sum) :
    solRate.SplitsEvenly amounts total ↔
      (amounts.map fun amount => amount.toNat % 5000000).sum < 5000000 := by
  have hparts : ∀ amount : UInt64, solRate.parts amount = 200 * amount.toNat := fun amount => by
    rw [Rate.parts, solRate, Nat.max_zero]
    rfl
  have hmap : amounts.map solRate.parts = (amounts.map UInt64.toNat).map (200 * ·) := by
    rw [List.map_map]
    exact List.map_congr_left fun amount _ => hparts amount
  have hsum : (amounts.map solRate.parts).sum = 200 * total.toNat := by
    rw [hmap, List.sum_map_mul_left, List.map_id', sum]
  have hunit : solRate.unit = 200 * 5000000 := rfl
  have hdropped : remainders solRate.unit (amounts.map solRate.parts) =
      200 * (amounts.map fun amount => amount.toNat % 5000000).sum := by
    rw [remainders, hmap, hunit, List.map_map, List.map_map, ← List.sum_map_mul_left]
    exact congrArg List.sum (List.map_congr_left fun amount _ => Nat.mul_mod_mul_left ..)
  have hbound := total.toNat_lt
  rw [Rate.SplitsEvenly, hdropped, hsum, hparts, hunit]
  omega

/-- The charges of single payouts reach the charge of one payout of their sum exactly
when the payouts split evenly; for SOL, when the amounts above whole dollars sum to
less than a dollar. -/
theorem splitting_pays_iff {asset : Asset Pubkey} (listed : rate? rt asset = some rate)
    (sum : total.toNat = (amounts.map UInt64.toNat).sum) :
    ∃ charge : UInt64 → UInt64,
      (∀ amount, dollarCharge (exactRuntime rt) asset amount = some (charge amount)) ∧
      ((charge total).toNat ≤ (amounts.map fun amount => (charge amount).toNat).sum ↔
        rate.SplitsEvenly amounts total) ∧
      (asset = .sol → (rate.SplitsEvenly amounts total ↔
        (amounts.map fun amount => amount.toNat % 5000000).sum < 5000000)) := by
  choose charge hcharge hrate using exists_charge listed
  refine ⟨charge, hcharge, ?_, ?_⟩
  · rw [List.map_congr_left (fun amount _ => hrate amount), hrate, map_charge, Rate.charge,
      cappedDiv_le_sum_iff rate.unit_pos]
    rfl
  · rintro rfl
    obtain rfl := Option.some.inj listed
    exact sol_splitsEvenly_iff sum

theorem parts_le_sum (rate : Rate) (sum : total.toNat = (amounts.map UInt64.toNat).sum)
    (nonempty : amounts ≠ []) : rate.parts total ≤ (amounts.map rate.parts).sum := by
  have hfactor : (amounts.map rate.parts).sum =
      rate.num * (amounts.map fun amount => max amount.toNat rate.floor).sum :=
    List.sum_map_mul_left ..
  rw [hfactor, Rate.parts]
  refine Nat.mul_le_mul_left _ (Nat.max_le.mpr ⟨?_, ?_⟩)
  · rw [sum]
    exact List.sum_le_sum fun amount _ => Nat.le_max_left ..
  · obtain ⟨amount, hamount⟩ := List.exists_mem_of_ne_nil _ nonempty
    exact (Nat.le_max_right ..).trans (List.single_le_sum (fun _ _ => Nat.zero_le _) _
      (List.mem_map_of_mem (f := fun amount : UInt64 => max amount.toNat rate.floor) hamount))

theorem splitting_saves_less {asset : Asset Pubkey} (listed : rate? rt asset = some rate)
    (sum : total.toNat = (amounts.map UInt64.toNat).sum) (nonempty : amounts ≠ [])
    {charge : UInt64 → UInt64}
    (hcharge : ∀ amount, dollarCharge (exactRuntime rt) asset amount = some (charge amount)) :
    (charge total).toNat <
      (amounts.map fun amount => (charge amount).toNat).sum + amounts.length := by
  have hrate : ∀ amount, (charge amount).toNat = rate.charge amount := fun amount => by
    obtain ⟨x, hx, hxrate⟩ := exists_charge listed amount
    rw [Option.some.inj ((hcharge amount).symm.trans hx), hxrate]
  rw [List.map_congr_left (fun amount _ => hrate amount), hrate, map_charge, Rate.charge,
    ← List.length_map rate.parts]
  exact cappedDiv_lt_sum_add_length rate.unit_pos (by simpa using nonempty)
    (parts_le_sum rate sum nonempty)

/-- The key whose bytes are those of the mint of PENGU, at 4 cents. -/
def penguMint : Key :=
  .ofBytes [29, 140, 207, 135, 172, 1, 71, 186, 231, 86, 235, 150, 58, 46, 246, 36,
    76, 150, 145, 86, 154, 142, 192, 143, 0, 32, 162, 235, 143, 189, 181, 161]

theorem splitting_pays_sample : ∃ charge : UInt64 → UInt64,
    (∀ amount, dollarCharge (exactRuntime (symbolicRuntime false)) (.token penguMint 6) amount =
      some (charge amount)) ∧
    (charge 75000000).toNat ≤ (charge 25000000).toNat + (charge 50000000).toNat := by
  have heven : (tokenRate (4 / 100) 6).SplitsEvenly [25000000, 50000000] 75000000 := by
    decide +kernel
  have hlisted : rate? (symbolicRuntime false) (.token penguMint 6) =
      some (tokenRate (4 / 100) 6) := by
    decide +kernel
  obtain ⟨charge, hcharge, hiff, -⟩ := splitting_pays_iff hlisted
    (show (75000000 : UInt64).toNat = ([25000000, 50000000].map UInt64.toNat).sum by decide)
  exact ⟨charge, hcharge, by simpa using hiff.mpr heven⟩

/-- Two payouts of 9999999 lamports are charged a dollar each, one payout of their sum
is charged three. -/
theorem split_saves_a_dollar :
    ¬ ∀ (asset : Asset Key) (amounts : List UInt64) (total : UInt64) (charge : UInt64 → UInt64),
      (∀ amount, dollarCharge (exactRuntime (symbolicRuntime false)) asset amount =
        some (charge amount)) →
      (asset = .sol → ∀ amount ∈ amounts, minSolBridgeAmount ≤ amount) →
      total.toNat = (amounts.map UInt64.toNat).sum →
      (charge total).toNat ≤ (amounts.map fun amount => (charge amount).toNat).sum := by
  intro covered
  have hleast : ∀ amount ∈ [(9999999 : UInt64), 9999999], minSolBridgeAmount ≤ amount := by
    intro amount hmem
    obtain rfl : amount = 9999999 := by simpa using hmem
    decide
  have hcharge := covered .sol [9999999, 9999999] 19999998
    (fun amount => castU64 (solDollars amount)) (fun _ => rfl) (fun _ => hleast) (by decide)
  exact absurd hcharge (by decide +kernel)

end BridgeProgram.SplitPayouts
