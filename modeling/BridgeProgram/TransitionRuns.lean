import Mathlib.Algebra.BigOperators.Group.List.Basic
import Mathlib.Algebra.Order.Monoid.Defs
import Mathlib.Data.List.Induction

/-!
Finite runs of a labelled transition relation, with the transitions they took
recorded in order. Everything here is about an arbitrary relation on arbitrary
states and labels.
-/

namespace BridgeProgram.TransitionRuns

universe u v

variable {σ : Type u} {ℓ : Type v} {step : σ → ℓ → σ → Prop}

/-- One transition, with the states before and after it. -/
structure Transition (σ : Type u) (ℓ : Type v) where
  pre : σ
  label : ℓ
  post : σ

/-- `Run step s trace s'`: the relation `step` leads from `s` to `s'` by the
transitions of `trace`, oldest first. -/
inductive Run (step : σ → ℓ → σ → Prop) : σ → List (Transition σ ℓ) → σ → Prop
  | nil (s : σ) : Run step s [] s
  | snoc {s t t' : σ} {trace : List (Transition σ ℓ)} {label : ℓ}
      (run : Run step s trace t) (next : step t label t') :
      Run step s (trace ++ [⟨t, label, t'⟩]) t'

theorem Run.single {s s' : σ} {label : ℓ} (h : step s label s') :
    Run step s [⟨s, label, s'⟩] s' :=
  .snoc (.nil s) h

theorem Run.append {s t t' : σ} {first second : List (Transition σ ℓ)}
    (h₁ : Run step s first t) (h₂ : Run step t second t') :
    Run step s (first ++ second) t' := by
  induction h₂ with
  | nil => simpa using h₁
  | snoc _ next ih =>
      rw [← List.append_assoc]
      exact .snoc ih next

theorem Run.cons {s t t' : σ} {label : ℓ} {trace : List (Transition σ ℓ)}
    (h : step s label t) (run : Run step t trace t') :
    Run step s (⟨s, label, t⟩ :: trace) t' :=
  (Run.single h).append run

theorem Run.split {s s' : σ} {first second : List (Transition σ ℓ)}
    (h : Run step s (first ++ second) s') :
    ∃ t, Run step s first t ∧ Run step t second s' := by
  induction second using List.reverseRecOn generalizing s' with
  | nil => exact ⟨s', by simpa using h, .nil s'⟩
  | append_singleton second last ih =>
      rw [← List.append_assoc] at h
      generalize htrace : first ++ second ++ [last] = trace at h
      cases h with
      | nil => simp at htrace
      | snoc run next =>
          obtain ⟨hinit, hlast⟩ := List.append_inj' htrace rfl
          obtain rfl := List.singleton_inj.mp hlast
          obtain ⟨t, hfirst, hsecond⟩ := ih (hinit ▸ run)
          exact ⟨t, hfirst, .snoc hsecond next⟩

theorem Run.eq_of_nil {s s' : σ} (h : Run step s [] s') : s' = s := by
  generalize htrace : ([] : List (Transition σ ℓ)) = trace at h
  cases h with
  | nil => rfl
  | snoc run next => simp at htrace

theorem Run.uncons {s s' : σ} {head : Transition σ ℓ} {tail : List (Transition σ ℓ)}
    (h : Run step s (head :: tail) s') :
    head.pre = s ∧ step s head.label head.post ∧ Run step head.post tail s' := by
  have hsplit : Run step s ([head] ++ tail) s' := h
  obtain ⟨t, hhead, htail⟩ := hsplit.split
  generalize htrace : [head] = trace at hhead
  cases hhead with
  | nil => simp at htrace
  | snoc run next =>
      have happend : [] ++ [head] = _ := htrace
      obtain ⟨hinit, hlast⟩ := List.append_inj' happend rfl
      obtain rfl := List.singleton_inj.mp hlast
      subst hinit
      obtain rfl := run.eq_of_nil
      exact ⟨rfl, next, htail⟩

theorem Run.split_at {s s' : σ} {before after : List (Transition σ ℓ)}
    {t : Transition σ ℓ} (h : Run step s (before ++ t :: after) s') :
    Run step s before t.pre ∧ step t.pre t.label t.post ∧ Run step t.post after s' := by
  obtain ⟨m, hbefore, hafter⟩ := h.split
  obtain ⟨rfl, hstep, hrest⟩ := hafter.uncons
  exact ⟨hbefore, hstep, hrest⟩

theorem Run.step_of_mem {s s' : σ} {trace : List (Transition σ ℓ)}
    (h : Run step s trace s') {t : Transition σ ℓ} (ht : t ∈ trace) :
    step t.pre t.label t.post := by
  obtain ⟨before, after, rfl⟩ := List.append_of_mem ht
  exact h.split_at.2.1

/-- What holds at the start and is kept by every step holds at the end. -/
theorem Run.invariant {s s' : σ} {trace : List (Transition σ ℓ)}
    (h : Run step s trace s') (inv : σ → Prop)
    (hkeep : ∀ t ∈ trace, step t.pre t.label t.post → inv t.pre → inv t.post)
    (hs : inv s) : inv s' := by
  induction h with
  | nil => exact hs
  | snoc run next ih =>
      have hpre := ih fun t ht => hkeep t (List.mem_append_left _ ht)
      exact hkeep _ (List.mem_append_right _ (List.mem_singleton_self _)) next hpre

theorem Run.invariant_of_mem {s s' : σ} {trace : List (Transition σ ℓ)}
    (h : Run step s trace s') (inv : σ → Prop)
    (hkeep : ∀ t ∈ trace, step t.pre t.label t.post → inv t.pre → inv t.post)
    (hs : inv s) {t : Transition σ ℓ} (ht : t ∈ trace) : inv t.pre ∧ inv t.post := by
  obtain ⟨before, after, rfl⟩ := List.append_of_mem ht
  obtain ⟨hbefore, hstep, -⟩ := h.split_at
  have hpre : inv t.pre := hbefore.invariant inv
    (fun u hu => hkeep u (List.mem_append_left _ hu)) hs
  exact ⟨hpre, hkeep t ht hstep hpre⟩

section Sums

variable {M : Type*} [AddCommMonoid M] [PartialOrder M] [IsOrderedAddMonoid M]

/-- If every transition lowers `f` by its cost at least, a run lowers it by the sum
of its costs. -/
theorem Run.sum_cost_le {s s' : σ} {trace : List (Transition σ ℓ)} (h : Run step s trace s')
    (f : σ → M) (cost : Transition σ ℓ → M)
    (hcost : ∀ t ∈ trace, step t.pre t.label t.post → cost t + f t.post ≤ f t.pre) :
    (trace.map cost).sum + f s' ≤ f s := by
  induction h with
  | nil => simp
  | @snoc t t' trace label run next ih =>
      have hlast := hcost _ (List.mem_append_right _ (List.mem_singleton_self _)) next
      have hfirst := ih fun t ht => hcost t (List.mem_append_left _ ht)
      rw [List.map_append, List.sum_append, List.map_singleton, List.sum_singleton, add_assoc]
      exact (add_le_add_right hlast _).trans hfirst

theorem Run.sum_credit_le {s s' : σ} {trace : List (Transition σ ℓ)} (h : Run step s trace s')
    (f : σ → M) (credit debit : Transition σ ℓ → M)
    (hbalance : ∀ t ∈ trace, step t.pre t.label t.post →
      f t.pre + credit t ≤ f t.post + debit t) :
    f s + (trace.map credit).sum ≤ f s' + (trace.map debit).sum := by
  induction h with
  | nil => simp
  | @snoc t t' trace label run next ih =>
      have hlast := hbalance _ (List.mem_append_right _ (List.mem_singleton_self _)) next
      have hfirst := ih fun t ht => hbalance t (List.mem_append_left _ ht)
      simp only [List.map_append, List.sum_append, List.map_singleton, List.sum_singleton]
      rw [← add_assoc, ← add_assoc, add_right_comm (f t')]
      refine (add_le_add_left hfirst _).trans ?_
      rw [add_right_comm]
      exact add_le_add_left hlast _

theorem Run.le_sum_credit {s s' : σ} {trace : List (Transition σ ℓ)} (h : Run step s trace s')
    (f : σ → M) (credit debit : Transition σ ℓ → M)
    (hbalance : ∀ t ∈ trace, step t.pre t.label t.post →
      f t.post + debit t ≤ f t.pre + credit t) :
    f s' + (trace.map debit).sum ≤ f s + (trace.map credit).sum := by
  induction h with
  | nil => simp
  | @snoc t t' trace label run next ih =>
      have hlast := hbalance _ (List.mem_append_right _ (List.mem_singleton_self _)) next
      have hfirst := ih fun t ht => hbalance t (List.mem_append_left _ ht)
      simp only [List.map_append, List.sum_append, List.map_singleton, List.sum_singleton]
      rw [← add_assoc, ← add_assoc, add_right_comm]
      refine (add_le_add_left hlast _).trans ?_
      rw [add_right_comm]
      exact add_le_add_left hfirst _

end Sums

/-- States reachable from an initial state. -/
def Reachable (step : σ → ℓ → σ → Prop) (init : σ → Prop) (s : σ) : Prop :=
  ∃ s₀ trace, init s₀ ∧ Run step s₀ trace s

theorem Reachable.invariant {init : σ → Prop} {s : σ} (h : Reachable step init s)
    (inv : σ → Prop) (hinit : ∀ s, init s → inv s)
    (hkeep : ∀ a l b, step a l b → inv a → inv b) : inv s := by
  obtain ⟨s₀, trace, h₀, run⟩ := h
  exact run.invariant inv (fun _ _ => hkeep _ _ _) (hinit s₀ h₀)

theorem Reachable.next {init : σ → Prop} {s s' : σ} {label : ℓ}
    (h : Reachable step init s) (next : step s label s') : Reachable step init s' := by
  obtain ⟨s₀, trace, h₀, run⟩ := h
  exact ⟨s₀, _, h₀, .snoc run next⟩

theorem Reachable.run {init : σ → Prop} {s s' : σ} {trace : List (Transition σ ℓ)}
    (h : Reachable step init s) (run : Run step s trace s') :
    Reachable step init s' := by
  obtain ⟨s₀, first, h₀, run₀⟩ := h
  exact ⟨s₀, first ++ trace, h₀, run₀.append run⟩

end BridgeProgram.TransitionRuns
