import Mathlib.Algebra.Order.Ring.Int
import Mathlib.Tactic.Abel

namespace BridgeProgram.BalanceShifts

universe u

variable {α : Type u}

/-- The balances `L'` are the balances `L`, changed by `δ`. -/
def Shifted (L L' : α → ℕ) (δ : α → ℤ) : Prop :=
  ∀ a, (L' a : ℤ) = L a + δ a

theorem Shifted.refl (L : α → ℕ) : Shifted L L 0 :=
  fun a => by simp

theorem Shifted.trans {L M N : α → ℕ} {δ ε : α → ℤ} (h₁ : Shifted L M δ)
    (h₂ : Shifted M N ε) : Shifted L N (δ + ε) := by
  intro a
  rw [h₂ a, h₁ a, Pi.add_apply, add_assoc]

theorem Shifted.unique {L M M' : α → ℕ} {δ : α → ℤ} (h : Shifted L M δ)
    (h' : Shifted L M' δ) : M = M' := by
  funext a
  have heq : (M a : ℤ) = M' a := by rw [h a, h' a]
  exact_mod_cast heq

theorem Shifted.comm {L M N M' N' : α → ℕ} {δ ε : α → ℤ} (h₁ : Shifted L M δ)
    (h₂ : Shifted M N ε) (h₁' : Shifted L M' ε) (h₂' : Shifted M' N' δ) : N = N' := by
  have h := h₁'.trans h₂'
  rw [add_comm] at h
  exact (h₁.trans h₂).unique h

variable [DecidableEq α]

/-- The change made by moving `n` from `source` to `target`. -/
def moved (source target : α) (n : ℕ) : α → ℤ :=
  Pi.single target (n : ℤ) - Pi.single source (n : ℤ)

@[simp] theorem moved_zero (source target : α) : moved source target 0 = 0 := by
  simp [moved]

theorem moved_apply (source target : α) (n : ℕ) (a : α) :
    moved source target n a =
      (if a = target then (n : ℤ) else 0) - (if a = source then (n : ℤ) else 0) := by
  simp [moved, Pi.single_apply]

theorem moved_apply_of_ne {source target a : α} (n : ℕ) (htarget : a ≠ target)
    (hsource : a ≠ source) : moved source target n a = 0 := by
  rw [moved_apply, if_neg htarget, if_neg hsource, sub_self]

theorem moved_nonneg {source target a : α} (n : ℕ) (h : a ≠ source) :
    0 ≤ moved source target n a := by
  rw [moved_apply, if_neg h]
  split_ifs <;> omega

theorem shifted_credit (L : α → ℕ) (a : α) (n : ℕ) :
    Shifted L (Function.update L a (L a + n)) (Pi.single a (n : ℤ)) := by
  intro b
  by_cases hb : b = a
  · subst hb
    simp
  · simp [hb]

theorem shifted_move (L : α → ℕ) (source target : α) {n : ℕ} (h : n ≤ L source) :
    Shifted L
      (Function.update (Function.update L source (L source - n)) target
        (Function.update L source (L source - n) target + n))
      (moved source target n) := by
  intro b
  rw [moved_apply]
  by_cases ht : b = target
  · subst ht
    by_cases hs : b = source
    · subst hs
      simp only [Function.update_self, if_true]
      omega
    · simp [hs]
  · by_cases hs : b = source
    · subst hs
      simp only [Function.update_of_ne ht, Function.update_self, if_neg ht, if_true]
      omega
    · simp [ht, hs]

theorem shifted_empty (L : α → ℕ) {source target : α} (h : source ≠ target) :
    Shifted L (Function.update (Function.update L target (L target + L source)) source 0)
      (moved source target (L source)) := by
  intro b
  rw [moved_apply]
  by_cases hs : b = source
  · subst hs
    simp [h]
  · by_cases ht : b = target
    · subst ht
      simp [hs]
    · simp [hs, ht]

theorem shifted_update₂ (L : α → ℕ) {a b : α} (h : a ≠ b) {x y : ℕ} {m n : ℤ}
    (hx : (x : ℤ) = L a + m) (hy : (y : ℤ) = L b + n) :
    Shifted L (Function.update (Function.update L a x) b y) (Pi.single a m + Pi.single b n) := by
  intro c
  rw [Pi.add_apply, Pi.single_apply, Pi.single_apply]
  by_cases hb : c = b
  · subst hb
    simp [hy, h.symm]
  · by_cases ha : c = a
    · subst ha
      simp [hx, hb]
    · simp [ha, hb]

end BridgeProgram.BalanceShifts
