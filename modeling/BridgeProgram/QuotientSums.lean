import Mathlib.Algebra.Order.BigOperators.Group.List
import Mathlib.Tactic.Ring

namespace BridgeProgram.QuotientSums

/-- A quotient that is cut off at a maximum. -/
def cappedDiv (maximum unit n : ℕ) : ℕ :=
  min (n / unit) maximum

/-- The remainders of a list. -/
def remainders (unit : ℕ) (ns : List ℕ) : ℕ :=
  (ns.map (· % unit)).sum

variable {maximum unit n : ℕ} {ns : List ℕ}

theorem remainders_cons (unit n : ℕ) (ns : List ℕ) :
    remainders unit (n :: ns) = n % unit + remainders unit ns := by
  rw [remainders, List.map_cons, List.sum_cons, ← remainders]

theorem sum_div_add_remainders (unit : ℕ) (ns : List ℕ) :
    unit * (ns.map (· / unit)).sum + remainders unit ns = ns.sum := by
  induction ns with
  | nil => rfl
  | cons n ns ih =>
      rw [remainders_cons, List.map_cons, List.sum_cons, List.sum_cons, Nat.mul_add]
      have hdiv := Nat.div_add_mod n unit
      omega

theorem remainders_add_length_le (pos : 0 < unit) (ns : List ℕ) :
    remainders unit ns + ns.length ≤ unit * ns.length := by
  induction ns with
  | nil => rfl
  | cons n ns ih =>
      rw [remainders_cons, List.length_cons, Nat.mul_succ]
      have hmod := Nat.mod_lt n pos
      omega

/-- The sum reaches a quotient when the remainders do not lose a unit. -/
theorem div_le_sum_div_iff (pos : 0 < unit) :
    n / unit ≤ (ns.map (· / unit)).sum ↔ n + remainders unit ns < unit + ns.sum := by
  have hsum := sum_div_add_remainders unit ns
  rw [← Nat.lt_succ_iff, Nat.div_lt_iff_lt_mul pos, Nat.succ_mul, Nat.mul_comm _ unit]
  omega

theorem min_sum_min (maximum : ℕ) (ns : List ℕ) :
    min (ns.map (min · maximum)).sum maximum = min ns.sum maximum := by
  induction ns with
  | nil => rfl
  | cons n ns ih =>
      rw [List.map_cons, List.sum_cons, List.sum_cons]
      omega

theorem min_le_sum_min_iff : min n maximum ≤ (ns.map (min · maximum)).sum ↔
    n ≤ ns.sum ∨ maximum ≤ ns.sum := by
  have hmin := min_sum_min maximum ns
  omega

theorem cappedDiv_le_sum_iff (pos : 0 < unit) :
    cappedDiv maximum unit n ≤ (ns.map (cappedDiv maximum unit)).sum ↔
      n + remainders unit ns < unit + ns.sum ∨
        unit * maximum + remainders unit ns ≤ ns.sum := by
  have hmap : ns.map (cappedDiv maximum unit) = (ns.map (· / unit)).map (min · maximum) := by
    rw [List.map_map]
    rfl
  rw [hmap, cappedDiv, min_le_sum_min_iff, div_le_sum_div_iff pos]
  refine or_congr_right ?_
  have hsum := sum_div_add_remainders unit ns
  rw [← Nat.mul_le_mul_left_iff pos]
  omega

theorem cappedDiv_lt_sum_add_length (pos : 0 < unit) (nonempty : ns ≠ []) (le : n ≤ ns.sum) :
    cappedDiv maximum unit n < (ns.map (cappedDiv maximum unit)).sum + ns.length := by
  have hmap : ns.map (cappedDiv maximum unit) = (ns.map (· / unit)).map (min · maximum) := by
    rw [List.map_map]
    rfl
  have hmin := min_sum_min maximum (ns.map (· / unit))
  have hsum := sum_div_add_remainders unit ns
  have hremainders := remainders_add_length_le pos ns
  have hlength := List.length_pos_iff.mpr nonempty
  have hquotient : n / unit < (ns.map (· / unit)).sum + ns.length := by
    rw [Nat.div_lt_iff_lt_mul pos, Nat.add_mul, Nat.mul_comm _ unit, Nat.mul_comm _ unit]
    omega
  rw [hmap, cappedDiv]
  omega

end BridgeProgram.QuotientSums
