import Mathlib.Algebra.GroupWithZero.Nat
import Mathlib.Algebra.Order.BigOperators.Group.List
import Mathlib.Algebra.Order.Group.Nat
import BridgeProgram.TransitionRuns

/-!
A channel between two parties: requests come in at one end and are fulfilled at the
other, each in answer to an earlier request and none twice under one key.
-/

namespace BridgeProgram.DeliveryChannels

open BridgeProgram.TransitionRuns

universe u

variable {ρ δ κ : Type u}

/-- What has been requested and what has been delivered, oldest first. -/
structure Channel (ρ δ : Type u) where
  requested : List ρ
  delivered : List δ

inductive ChannelEvent (ρ δ : Type u)
  | request (r : ρ)
  | deliver (d : δ)

/-- One step of a channel. A delivery fulfils some request, and its key is new. -/
inductive ChannelStep (fulfils : δ → ρ → Prop) (key : δ → κ) :
    Channel ρ δ → ChannelEvent ρ δ → Channel ρ δ → Prop
  | request (c : Channel ρ δ) (r : ρ) :
      ChannelStep fulfils key c (.request r) { c with requested := c.requested ++ [r] }
  | deliver (c : Channel ρ δ) {d : δ} {r : ρ} (requested : r ∈ c.requested)
      (fulfilled : fulfils d r) (fresh : key d ∉ c.delivered.map key) :
      ChannelStep fulfils key c (.deliver d) { c with delivered := c.delivered ++ [d] }

/-- Nothing is delivered that was not requested, and nothing twice. -/
structure Faithful (fulfils : δ → ρ → Prop) (key : δ → κ) (c : Channel ρ δ) : Prop where
  distinct : (c.delivered.map key).Nodup
  requested : ∀ d ∈ c.delivered, ∃ r ∈ c.requested, fulfils d r

variable {fulfils : δ → ρ → Prop} {key : δ → κ} {c c' : Channel ρ δ}

theorem Faithful.step {event : ChannelEvent ρ δ} (faithful : Faithful fulfils key c)
    (step : ChannelStep fulfils key c event c') : Faithful fulfils key c' := by
  cases step with
  | request r =>
      refine ⟨faithful.distinct, fun d hd => ?_⟩
      obtain ⟨r', hr', hfulfils⟩ := faithful.requested d hd
      exact ⟨r', List.mem_append_left _ hr', hfulfils⟩
  | @deliver d r requested fulfilled fresh =>
      constructor
      · rw [List.map_append, List.map_singleton]
        refine List.nodup_append.mpr ⟨faithful.distinct, by simp, ?_⟩
        intro a ha b hb heq
        rw [heq, List.mem_singleton.mp hb] at ha
        exact fresh ha
      · intro d' hd'
        rcases List.mem_append.mp hd' with hd' | hd'
        · exact faithful.requested d' hd'
        · obtain rfl := List.mem_singleton.mp hd'
          exact ⟨r, requested, fulfilled⟩

theorem Faithful.run {trace : List (Transition (Channel ρ δ) (ChannelEvent ρ δ))}
    (run : Run (ChannelStep fulfils key) c trace c') (faithful : Faithful fulfils key c) :
    Faithful fulfils key c' :=
  run.invariant (Faithful fulfils key) (fun _ _ next hpre => hpre.step next) faithful

variable [DecidableEq κ]

/-- The requests whose key has not been delivered. -/
def pending (key : δ → κ) (requestKey : ρ → κ) (c : Channel ρ δ) : List ρ :=
  c.requested.filter fun r => requestKey r ∉ c.delivered.map key

end BridgeProgram.DeliveryChannels
