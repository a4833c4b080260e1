import BridgeProgram.CheckedResult
import Mathlib.Data.List.Perm.Basic
import Mathlib.Data.Set.Basic

/-!
Computations that read some cells of a state, write some of these and leave the others
alone. Two of them that do not meet can be exchanged, so schedules that differ only in the
order of such computations have the same results. Everything here is about an arbitrary
state with cells at arbitrary locations, and about computations that may fail; one that
fails has no effect.
-/

namespace BridgeProgram.LocalComputations

universe u v

section Alike

variable {ε : Type u} {α α' β β' : Type v} {R : α → α' → Prop} {Q : β → β' → Prop}

/-- The same error, or values that `R` relates. -/
inductive Alike (R : α → α' → Prop) : Except ε α → Except ε α' → Prop
  | ok {a : α} {a' : α'} (h : R a a') : Alike R (.ok a) (.ok a')
  | error (e : ε) : Alike R (.error e) (.error e)

theorem Alike.pure {a : α} {a' : α'} (h : R a a') :
    Alike R (Pure.pure a : Except ε α) (Pure.pure a') :=
  .ok h

@[simp] theorem alike_ok {a : α} {a' : α'} :
    Alike R (.ok a : Except ε α) (.ok a') ↔ R a a' := by
  constructor
  · rintro ⟨h⟩
    exact h
  · exact .ok

theorem Alike.bind {x : Except ε α} {x' : Except ε α'} {f : α → Except ε β}
    {f' : α' → Except ε β'} (hx : Alike R x x')
    (hf : ∀ a a', R a a' → Alike Q (f a) (f' a')) : Alike Q (x >>= f) (x' >>= f') := by
  cases hx with
  | ok h => exact hf _ _ h
  | error e => exact .error e

theorem Alike.bind_same {x : Except ε α} {f : α → Except ε β} {f' : α → Except ε β'}
    (hf : ∀ a, Alike Q (f a) (f' a)) : Alike Q (x >>= f) (x >>= f') := by
  cases x with
  | ok a => exact hf a
  | error e => exact .error e

theorem Alike.ite {p : Prop} [Decidable p] {x y : Except ε α} {x' y' : Except ε α'}
    (hx : p → Alike R x x') (hy : ¬ p → Alike R y y') :
    Alike R (if p then x else y) (if p then x' else y') := by
  split
  next hp => exact hx hp
  next hp => exact hy hp

end Alike

/-- How a state is read: a cell at each location, and an environment. -/
structure View (σ : Type*) (ι : Type*) (ν : Type*) (κ : Type*) where
  cell : σ → ι → ν
  env : σ → κ
  ext : ∀ {s t : σ}, env s = env t → cell s = cell t → s = t

namespace View

variable {σ : Type v} {ι ν κ : Type*} (V : View σ ι ν κ)

/-- The same environment and the same cells on `A`. -/
structure Agree (A : Set ι) (s t : σ) : Prop where
  env : V.env s = V.env t
  cell : ∀ i ∈ A, V.cell s i = V.cell t i

/-- From `s₀` and `t₀`, two computations have come to states that agree on `A`, and have
written on a part `W` of it only. -/
structure Twins (A W : Set ι) (s₀ t₀ s t : σ) : Prop where
  subset : W ⊆ A
  agree : V.Agree A s t
  left : V.Agree Wᶜ s₀ s
  right : V.Agree Wᶜ t₀ t

variable {V} {A B W : Set ι} {s t u s₀ t₀ : σ}

theorem Agree.refl (A : Set ι) (s : σ) : V.Agree A s s :=
  ⟨rfl, fun _ _ => rfl⟩

theorem Agree.symm (h : V.Agree A s t) : V.Agree A t s :=
  ⟨h.env.symm, fun i hi => (h.cell i hi).symm⟩

theorem Agree.trans (h : V.Agree A s t) (h' : V.Agree A t u) : V.Agree A s u :=
  ⟨h.env.trans h'.env, fun i hi => (h.cell i hi).trans (h'.cell i hi)⟩

theorem Agree.mono (h : V.Agree B s t) (hsub : A ⊆ B) : V.Agree A s t :=
  ⟨h.env, fun i hi => h.cell i (hsub hi)⟩

theorem Agree.twins (h : V.Agree A s t) (hsub : W ⊆ A) : V.Twins A W s t s t :=
  ⟨hsub, h, .refl _ s, .refl _ t⟩

theorem Twins.write {s' t' : σ} (h : V.Twins A W s₀ t₀ s t) {i : ι} (hi : i ∈ W)
    (hs : V.Agree {i}ᶜ s s') (ht : V.Agree {i}ᶜ t t') (hcell : V.cell s' i = V.cell t' i) :
    V.Twins A W s₀ t₀ s' t' := by
  have hsub : Wᶜ ⊆ ({i}ᶜ : Set ι) := by
    rintro j hj rfl
    exact hj hi
  refine ⟨h.subset, ⟨?_, fun j hj => ?_⟩, h.left.trans (hs.mono hsub),
    h.right.trans (ht.mono hsub)⟩
  · rw [← hs.env, ← ht.env, h.agree.env]
  · by_cases hji : j = i
    · rw [hji, hcell]
    · rw [← hs.cell j hji, ← ht.cell j hji, h.agree.cell j hj]

end View

section Transactions

variable {σ β : Type v} {ε : Type u} {ι ν κ τ : Type*}

/-- The state after a computation, which is the state before it when it fails. -/
def next (run : τ → σ → Except ε (σ × β)) (a : τ) (s : σ) : σ :=
  match run a s with
  | .ok (s', _) => s'
  | .error _ => s

/-- What a computation returns. -/
def outcome (run : τ → σ → Except ε (σ × β)) (a : τ) (s : σ) : Except ε β :=
  Prod.snd <$> run a s

/-- The state after a schedule. -/
def runAll (run : τ → σ → Except ε (σ × β)) (l : List τ) (s : σ) : σ :=
  l.foldl (fun s a => next run a s) s

/-- What the computations of a schedule return. -/
def log (run : τ → σ → Except ε (σ × β)) : List τ → σ → List (τ × Except ε β)
  | [], _ => []
  | a :: l, s => (a, outcome run a s) :: log run l (next run a s)

/-- The computations read `reads` and write `writes` only. -/
structure Footprints (V : View σ ι ν κ) (run : τ → σ → Except ε (σ × β))
    (reads writes : τ → Set ι) : Prop where
  subset : ∀ a, writes a ⊆ reads a
  alike : ∀ a s t, V.Agree (reads a) s t →
    Alike (fun x y => x.2 = y.2 ∧ V.Twins (reads a) (writes a) s t x.1 y.1) (run a s) (run a t)

/-- One of the two writes what the other reads. -/
def Conflict (reads writes : τ → Set ι) (a b : τ) : Prop :=
  ∃ i, (i ∈ writes a ∧ i ∈ reads b) ∨ (i ∈ reads a ∧ i ∈ writes b)

theorem Conflict.symm {reads writes : τ → Set ι} {a b : τ} (h : Conflict reads writes a b) :
    Conflict reads writes b a := by
  obtain ⟨i, ⟨ha, hb⟩ | ⟨ha, hb⟩⟩ := h
  · exact ⟨i, .inr ⟨hb, ha⟩⟩
  · exact ⟨i, .inl ⟨hb, ha⟩⟩

namespace Footprints

variable {V : View σ ι ν κ} {run : τ → σ → Except ε (σ × β)} {reads writes : τ → Set ι}
  (fp : Footprints V run reads writes) {a b : τ} {s t : σ}
include fp

theorem outcome_congr (h : V.Agree (reads a) s t) : outcome run a s = outcome run a t := by
  have halike := fp.alike a s t h
  unfold outcome
  generalize run a s = x at halike ⊢
  generalize run a t = y at halike ⊢
  cases halike with
  | ok hxy => exact congrArg Except.ok hxy.1
  | error e => rfl

theorem next_agree (h : V.Agree (reads a) s t) :
    V.Agree (reads a) (next run a s) (next run a t) := by
  have halike := fp.alike a s t h
  unfold next
  generalize run a s = x at halike ⊢
  generalize run a t = y at halike ⊢
  cases halike with
  | ok hxy => exact hxy.2.agree
  | error e => exact h

theorem next_kept (a : τ) (s : σ) : V.Agree (writes a)ᶜ s (next run a s) := by
  have halike := fp.alike a s s (.refl _ s)
  unfold next
  generalize run a s = x at halike ⊢
  cases x with
  | ok x =>
      obtain ⟨-, htwins⟩ := alike_ok.mp halike
      exact htwins.left
  | error e => exact .refl _ s

theorem agree_after (h : ¬ Conflict reads writes a b) (s : σ) :
    V.Agree (reads a) s (next run b s) :=
  (fp.next_kept b s).mono fun i ha hb => h ⟨i, .inr ⟨ha, hb⟩⟩

theorem outcome_after (h : ¬ Conflict reads writes a b) (s : σ) :
    outcome run a (next run b s) = outcome run a s :=
  (fp.outcome_congr (fp.agree_after h s)).symm

theorem next_comm (h : ¬ Conflict reads writes a b) (s : σ) :
    next run a (next run b s) = next run b (next run a s) := by
  have hba : ¬ Conflict reads writes b a := fun hconflict => h hconflict.symm
  have hread : ∀ {a b}, ¬ Conflict reads writes a b → ∀ i ∈ reads a,
      V.cell (next run a (next run b s)) i = V.cell (next run b (next run a s)) i := by
    intro a b h i hi
    have hfirst := (fp.next_agree (fp.agree_after h s)).cell i hi
    have hsecond := (fp.next_kept b (next run a s)).cell i fun hw => h ⟨i, .inr ⟨hi, hw⟩⟩
    rw [← hfirst, hsecond]
  apply V.ext
  · rw [← (fp.next_kept a _).env, ← (fp.next_kept b _).env, ← (fp.next_kept b _).env,
      ← (fp.next_kept a _).env]
  · funext i
    by_cases ha : i ∈ reads a
    · exact hread h i ha
    by_cases hb : i ∈ reads b
    · exact (hread hba i hb).symm
    have haw : i ∉ writes a := fun hw => ha (fp.subset a hw)
    have hbw : i ∉ writes b := fun hw => hb (fp.subset b hw)
    rw [← (fp.next_kept a _).cell i haw, ← (fp.next_kept b _).cell i hbw,
      ← (fp.next_kept b _).cell i hbw, ← (fp.next_kept a _).cell i haw]

theorem move_front {p q : List τ} (h : ∀ b ∈ p, ¬ Conflict reads writes a b) (s : σ) :
    runAll run (p ++ a :: q) s = runAll run (a :: (p ++ q)) s ∧
      (log run (p ++ a :: q) s).Perm (log run (a :: (p ++ q)) s) := by
  induction p generalizing s with
  | nil => exact ⟨rfl, .refl _⟩
  | cons b p ih =>
      have hab := h b List.mem_cons_self
      have hba : ¬ Conflict reads writes b a := fun hconflict => hab hconflict.symm
      obtain ⟨hrun, hlog⟩ := ih (fun c hc => h c (List.mem_cons_of_mem b hc)) (next run b s)
      constructor
      · show runAll run (p ++ a :: q) (next run b s) =
          runAll run (p ++ q) (next run b (next run a s))
        rw [hrun, ← fp.next_comm hab s]
        rfl
      · show ((b, outcome run b s) :: log run (p ++ a :: q) (next run b s)).Perm
          ((a, outcome run a s) :: (b, outcome run b (next run a s)) ::
            log run (p ++ q) (next run b (next run a s)))
        refine (hlog.cons _).trans ?_
        show ((b, outcome run b s) :: (a, outcome run a (next run b s)) ::
            log run (p ++ q) (next run a (next run b s))).Perm _
        rw [fp.outcome_after hab, fp.outcome_after hba, fp.next_comm hab]
        exact .swap _ _ _

end Footprints

/-- Two schedules have the same computations, and those that meet in the same order. -/
structure SameOrder [DecidableEq τ] (reads writes : τ → Set ι) (l l' : List τ) : Prop where
  perm : l.Perm l'
  order : ∀ a b, Conflict reads writes a b →
    l.filter (fun c => c = a ∨ c = b) = l'.filter (fun c => c = a ∨ c = b)

namespace SameOrder

variable [DecidableEq τ] {reads writes : τ → Set ι} {a : τ} {l p q : List τ}

theorem not_conflict (h : SameOrder reads writes (a :: l) (p ++ a :: q)) (ha : a ∉ p) :
    ∀ b ∈ p, ¬ Conflict reads writes a b := by
  intro b hb hconflict
  have horder := h.order a b hconflict
  rw [List.filter_cons_of_pos (by simp), List.filter_append] at horder
  cases hfilter : p.filter (fun c => decide (c = a ∨ c = b)) with
  | nil =>
      exact List.filter_eq_nil_iff.mp hfilter b hb (by simp)
  | cons c rest =>
      rw [hfilter] at horder
      obtain ⟨rfl, -⟩ := List.cons.inj horder
      have hmem : a ∈ p.filter (fun c => decide (c = a ∨ c = b)) := by
        rw [hfilter]
        exact List.mem_cons_self
      exact ha (List.mem_filter.mp hmem).1

theorem tail (h : SameOrder reads writes (a :: l) (p ++ a :: q)) (ha : a ∉ p) :
    SameOrder reads writes l (p ++ q) := by
  refine ⟨(h.perm.trans List.perm_middle).cons_inv, fun b c hconflict => ?_⟩
  have horder := h.order b c hconflict
  rw [List.filter_append] at horder ⊢
  by_cases hbc : a = b ∨ a = c
  · have hnil : p.filter (fun d => decide (d = b ∨ d = c)) = [] := by
      apply List.filter_eq_nil_iff.mpr
      intro d hd hdec
      have hnot := h.not_conflict ha d hd
      have hne : d ≠ a := fun heq => ha (heq ▸ hd)
      rcases of_decide_eq_true hdec with rfl | rfl
      · rcases hbc with rfl | rfl
        · exact hne rfl
        · exact hnot hconflict.symm
      · rcases hbc with rfl | rfl
        · exact hnot hconflict
        · exact hne rfl
    rw [hnil, List.nil_append, List.filter_cons_of_pos (by simpa using hbc),
      List.filter_cons_of_pos (by simpa using hbc)] at horder
    rw [hnil, List.nil_append]
    exact (List.cons.inj horder).2
  · rwa [List.filter_cons_of_neg (by simpa using hbc),
      List.filter_cons_of_neg (by simpa using hbc)] at horder

end SameOrder

namespace Footprints

variable {V : View σ ι ν κ} {run : τ → σ → Except ε (σ × β)} {reads writes : τ → Set ι}
  (fp : Footprints V run reads writes) {l l' : List τ}
include fp

/-- Schedules that make the computations that meet in the same order end in the same
state, and each computation returns the same. -/
theorem schedules_agree [DecidableEq τ] (h : SameOrder reads writes l l') (s : σ) :
    runAll run l s = runAll run l' s ∧ (log run l s).Perm (log run l' s) := by
  induction l generalizing l' s with
  | nil =>
      obtain rfl := h.perm.nil_eq
      exact ⟨rfl, .refl _⟩
  | cons a l ih =>
      obtain ⟨p, q, rfl, ha⟩ :=
        List.eq_append_cons_of_mem (h.perm.subset List.mem_cons_self)
      obtain ⟨hrun, hlog⟩ := fp.move_front (q := q) (h.not_conflict ha) s
      obtain ⟨hrun', hlog'⟩ := ih (h.tail ha) (next run a s)
      exact ⟨hrun'.trans hrun.symm, (hlog'.cons _).trans hlog.symm⟩

theorem runAll_kept (l : List τ) (s : σ) :
    V.Agree {i | ∀ a ∈ l, i ∉ writes a} s (runAll run l s) := by
  induction l generalizing s with
  | nil => exact .refl _ s
  | cons a l ih =>
      apply (fp.next_kept a s |>.mono _).trans ((ih (next run a s)).mono _)
      · exact fun i hi => hi a List.mem_cons_self
      · exact fun i hi b hb => hi b (List.mem_cons_of_mem a hb)

/-- Transactions of which no two meet return in every schedule what they return at the
start, and each leaves behind what it makes of the start. -/
theorem snapshot (h : l.Pairwise fun a b => ¬ Conflict reads writes a b) (s : σ) :
    log run l s = l.map (fun a => (a, outcome run a s)) ∧
      ∀ a ∈ l, V.Agree (reads a) (runAll run l s) (next run a s) := by
  induction l generalizing s with
  | nil => exact ⟨rfl, fun a ha => nomatch ha⟩
  | cons a l ih =>
      obtain ⟨hhead, htail⟩ := List.pairwise_cons.mp h
      obtain ⟨hlog, hagree⟩ := ih htail (next run a s)
      have hba : ∀ b ∈ l, ¬ Conflict reads writes b a :=
        fun b hb hconflict => hhead b hb hconflict.symm
      constructor
      · rw [log, hlog, List.map_cons]
        refine congrArg _ (List.map_congr_left fun b hb => ?_)
        rw [fp.outcome_after (hba b hb)]
      · rintro b hb
        rcases List.mem_cons.mp hb with rfl | hb
        · refine ((fp.runAll_kept l (next run b s)).mono fun i hi c hc hw => ?_).symm
          exact hhead c hc ⟨i, .inr ⟨hi, hw⟩⟩
        · exact (hagree b hb).trans (fp.next_agree (fp.agree_after (hba b hb) s)).symm

end Footprints

end Transactions

end BridgeProgram.LocalComputations
