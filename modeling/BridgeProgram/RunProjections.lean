import BridgeProgram.TransitionRuns

namespace BridgeProgram.RunProjections

open BridgeProgram.TransitionRuns

universe u v u' v'

variable {σ : Type u} {ℓ : Type v} {τ : Type u'} {κ : Type v'}
  {step : σ → ℓ → σ → Prop} {part : τ → κ → τ → Prop} {view : σ → τ} {act : ℓ → Option κ}

/-- A transition as the part sees it, unless it is hidden from the part. -/
def seen (view : σ → τ) (act : ℓ → Option κ) (t : Transition σ ℓ) : Option (Transition τ κ) :=
  (act t.label).map fun label => ⟨view t.pre, label, view t.post⟩

/-- The transitions of a trace that the part sees. -/
def project (view : σ → τ) (act : ℓ → Option κ) (trace : List (Transition σ ℓ)) :
    List (Transition τ κ) :=
  trace.filterMap (seen view act)

/-- A transition of the whole is one of the part, or the part does not notice it. -/
def Follows (part : τ → κ → τ → Prop) (view : σ → τ) (act : ℓ → Option κ)
    (t : Transition σ ℓ) : Prop :=
  match act t.label with
  | some label => part (view t.pre) label (view t.post)
  | none => view t.post = view t.pre

@[simp] theorem project_nil :
    project view act ([] : List (Transition σ ℓ)) = ([] : List (Transition τ κ)) := rfl

theorem project_append (first second : List (Transition σ ℓ)) :
    project view act (first ++ second) = project view act first ++ project view act second :=
  List.filterMap_append

/-- The run of the part inside a run of the whole. -/
theorem Run.project {s s' : σ} {trace : List (Transition σ ℓ)} (run : Run step s trace s')
    (follows : ∀ t ∈ trace, step t.pre t.label t.post → Follows part view act t) :
    Run part (view s) (project view act trace) (view s') := by
  induction run with
  | nil => exact .nil _
  | @snoc t t' trace label run next ih =>
      have hfirst := ih fun u hu => follows u (List.mem_append_left _ hu)
      have hlast := follows _ (List.mem_append_right _ (List.mem_singleton_self _)) next
      rw [project_append]
      unfold Follows at hlast
      cases hlabel : act label with
      | none =>
          rw [hlabel] at hlast
          have hhidden : RunProjections.project view act [⟨t, label, t'⟩] = [] :=
            List.filterMap_eq_nil_iff.mpr (by simp [seen, hlabel])
          rw [hhidden, List.append_nil, hlast]
          exact hfirst
      | some visible =>
          rw [hlabel] at hlast
          have hseen : RunProjections.project view act [⟨t, label, t'⟩] =
              [⟨view t, visible, view t'⟩] := by
            simp [RunProjections.project, seen, hlabel]
          rw [hseen]
          exact .snoc hfirst hlast

theorem Run.lift {step : σ → ℓ → σ → Prop} {part : τ → ℓ → τ → Prop} {inv : σ → Prop}
    {s : σ} {t : τ} {trace : List (Transition τ ℓ)} (run : Run part (view s) trace t)
    (lifts : ∀ s label t, inv s → part (view s) label t →
      ∃ s', step s label s' ∧ inv s' ∧ view s' = t)
    (start : inv s) :
    ∃ whole s', Run step s whole s' ∧ inv s' ∧ view s' = t ∧
      RunProjections.project view some whole = trace := by
  generalize hview : view s = t₀ at run
  induction run with
  | nil => exact ⟨[], s, .nil s, start, hview, rfl⟩
  | @snoc t t' trace label run next ih =>
      obtain ⟨whole, m, hrun, hinv, rfl, htrace⟩ := ih
      obtain ⟨s', hstep, hinv', rfl⟩ := lifts m label t' hinv next
      refine ⟨_, s', .snoc hrun hstep, hinv', rfl, ?_⟩
      rw [project_append, htrace]
      rfl

end BridgeProgram.RunProjections
