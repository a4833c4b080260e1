import Mathlib.Algebra.BigOperators.Finprod
import BridgeProgram.BalanceShifts

namespace BridgeProgram.BalanceTotals

open BridgeProgram.BalanceShifts

universe u

variable {α : Type u} {L M N : α → ℕ} {δ ε : α → ℤ} {d e : ℤ}

/-- A change of finitely many balances, by `d` in all. -/
structure HasTotal (δ : α → ℤ) (d : ℤ) : Prop where
  finite : (Function.support δ).Finite
  total : ∑ᶠ a, δ a = d

namespace HasTotal

theorem zero : HasTotal (0 : α → ℤ) 0 where
  finite := by simp
  total := by simp

theorem add (h₁ : HasTotal δ d) (h₂ : HasTotal ε e) : HasTotal (δ + ε) (d + e) where
  finite := (h₁.finite.union h₂.finite).subset (Function.support_add δ ε)
  total := by
    rw [← h₁.total, ← h₂.total]
    exact finsum_add_distrib h₁.finite h₂.finite

theorem single [DecidableEq α] (a : α) (n : ℤ) : HasTotal (Pi.single a n) n where
  finite := (Set.finite_singleton a).subset Pi.support_single_subset
  total := by
    have hzero : ∀ b, b ≠ a → (Pi.single a n : α → ℤ) b = 0 := fun b hb => by simp [hb]
    rw [finsum_eq_single _ a hzero, Pi.single_eq_same]

theorem neg (h : HasTotal δ d) : HasTotal (-δ) (-d) where
  finite := by
    rw [Function.support_neg]
    exact h.finite
  total := by
    rw [← h.total]
    exact finsum_neg_distrib δ

theorem moved [DecidableEq α] (source target : α) (n : ℕ) :
    HasTotal (moved source target n) 0 := by
  have h := (single target (n : ℤ)).add (single source (n : ℤ)).neg
  rwa [← sub_eq_add_neg, add_neg_cancel] at h

theorem sum_eq (h : HasTotal δ d) {S : Finset α} (outside : ∀ a ∉ S, δ a = 0) :
    ∑ a ∈ S, δ a = d := by
  rw [← h.total, finsum_eq_sum_of_support_subset]
  intro a ha
  by_contra hmem
  exact ha (outside a hmem)

end HasTotal

/-- From `L` to `L'` finitely many balances change, by `d` in all. -/
def Rebalanced (L L' : α → ℕ) (d : ℤ) : Prop :=
  ∃ δ, Shifted L L' δ ∧ HasTotal δ d

namespace Rebalanced

theorem refl (L : α → ℕ) : Rebalanced L L 0 :=
  ⟨0, .refl L, .zero⟩

theorem trans (h₁ : Rebalanced L M d) (h₂ : Rebalanced M N e) : Rebalanced L N (d + e) := by
  obtain ⟨δ, hδ, hd⟩ := h₁
  obtain ⟨ε, hε, he⟩ := h₂
  exact ⟨δ + ε, hδ.trans hε, hd.add he⟩

theorem sum_eq (h : Rebalanced L M d) {S : Finset α} (outside : ∀ a ∉ S, M a = L a) :
    ∑ a ∈ S, (M a : ℤ) = ∑ a ∈ S, (L a : ℤ) + d := by
  obtain ⟨δ, hδ, hd⟩ := h
  have hzero : ∀ a ∉ S, δ a = 0 := by
    intro a ha
    have hshift := hδ a
    rw [outside a ha] at hshift
    omega
  rw [← hd.sum_eq hzero, ← Finset.sum_add_distrib]
  exact Finset.sum_congr rfl fun a _ => hδ a

end Rebalanced

end BridgeProgram.BalanceTotals
