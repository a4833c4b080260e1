import Mathlib.Data.List.Forall2
import Mathlib.Tactic.Ring

namespace BridgeProgram.CheckedResult

universe u v

variable {ε : Type u} {α β : Type v}

/-- Stop with `e` unless `p` holds. -/
def require (p : Prop) [Decidable p] (e : ε) : Except ε Unit :=
  if p then .ok () else .error e

/-- The value of an option, or the error `e`. -/
def okOr (o : Option α) (e : ε) : Except ε α :=
  match o with
  | some a => .ok a
  | none => .error e

/-- Addition of machine words of 64 bits that stops on overflow. -/
def checkedAdd (a b : Nat) (e : ε) : Except ε Nat :=
  if a + b < 2 ^ 64 then .ok (a + b) else .error e

/-- Subtraction of machine words that stops on underflow. -/
def checkedSub (a b : Nat) (e : ε) : Except ε Nat :=
  if b ≤ a then .ok (a - b) else .error e

@[simp] theorem require_eq_ok {p : Prop} [Decidable p] {e : ε} {u : Unit} :
    require p e = .ok u ↔ p := by
  by_cases hp : p <;> simp [require, hp]

@[simp] theorem okOr_eq_ok {o : Option α} {e : ε} {a : α} :
    okOr o e = .ok a ↔ o = some a := by
  cases o <;> simp [okOr]

@[simp] theorem mapError_eq_ok {ε' : Type u} {f : ε → ε'} {r : Except ε α} {a : α} :
    r.mapError f = .ok a ↔ r = .ok a := by
  cases r <;> simp [Except.mapError]

@[simp] theorem checkedAdd_eq_ok {a b c : Nat} {e : ε} :
    checkedAdd a b e = .ok c ↔ a + b < 2 ^ 64 ∧ c = a + b := by
  unfold checkedAdd
  split
  next h => rw [Except.ok.injEq, and_iff_right h, eq_comm]
  next h => simp only [h, false_and, reduceCtorEq]

@[simp] theorem checkedSub_eq_ok {a b c : Nat} {e : ε} :
    checkedSub a b e = .ok c ↔ b ≤ a ∧ c = a - b := by
  unfold checkedSub
  split
  next h => rw [Except.ok.injEq, and_iff_right h, eq_comm]
  next h => simp only [h, false_and, reduceCtorEq]

theorem exists_of_isOk {x : Except ε α} (h : x.isOk = true) : ∃ a, x = .ok a := by
  cases x with
  | error e => cases h
  | ok a => exact ⟨a, rfl⟩

@[simp] theorem bind_eq_ok {x : Except ε α} {f : α → Except ε β} {b : β} :
    x >>= f = .ok b ↔ ∃ a, x = .ok a ∧ f a = .ok b := by
  cases x with
  | error e => simp [bind, Except.bind]
  | ok a => simp [bind, Except.bind]

@[simp] theorem pure_eq_ok {a b : α} :
    (pure a : Except ε α) = .ok b ↔ a = b := by
  simp [pure, Except.pure]

@[simp] theorem map_eq_ok {x : Except ε α} {f : α → β} {b : β} :
    f <$> x = .ok b ↔ ∃ a, x = .ok a ∧ f a = b := by
  cases x with
  | error e => simp [Functor.map, Except.map]
  | ok a => simp [Functor.map, Except.map]

theorem mapM_eq_ok {f : α → Except ε β} {xs : List α} {ys : List β} :
    xs.mapM f = .ok ys ↔ List.Forall₂ (fun x y => f x = .ok y) xs ys := by
  induction xs generalizing ys with
  | nil => cases ys <;> simp [pure, Except.pure]
  | cons x xs ih =>
      simp only [List.mapM_cons, bind_eq_ok, pure_eq_ok, ih]
      constructor
      · rintro ⟨y, hy, ys', hys, rfl⟩
        exact .cons hy hys
      · rintro (_ | ⟨hy, hys⟩)
        exact ⟨_, hy, _, hys, rfl⟩

theorem exists_mapM_eq_ok {ι : Type} {f : ι → Except ε β} {xs : List ι}
    (h : ∀ x ∈ xs, ∃ y, f x = .ok y) : ∃ ys, xs.mapM f = .ok ys := by
  induction xs with
  | nil => exact ⟨[], rfl⟩
  | cons x xs ih =>
      obtain ⟨⟨y, hy⟩, hrest⟩ := List.forall_mem_cons.mp h
      obtain ⟨ys, hys⟩ := ih hrest
      refine ⟨y :: ys, ?_⟩
      simp only [List.mapM_cons, bind_eq_ok, pure_eq_ok]
      exact ⟨y, hy, ys, hys, rfl⟩

theorem mapM_range_eq_error {f : Nat → Except ε β} {n i : Nat} {e : ε} (hi : i < n)
    (before : ∀ j < i, ∃ b, f j = .ok b) (failure : f i = .error e) :
    (List.range n).mapM f = .error e := by
  induction n with
  | zero => exact absurd hi (Nat.not_lt_zero i)
  | succ n ih =>
      rw [List.range_succ, List.mapM_append, List.mapM_cons]
      rcases Nat.lt_succ_iff_lt_or_eq.mp hi with hlt | rfl
      · rw [ih hlt]
        rfl
      · obtain ⟨ys, hys⟩ : ∃ ys, (List.range i).mapM f = .ok ys :=
          exists_mapM_eq_ok fun j hj => before j (List.mem_range.mp hj)
        rw [hys, failure]
        rfl

theorem forM_eq_ok {f : α → Except ε PUnit} {xs : List α} {u : PUnit} :
    forM xs f = .ok u ↔ ∀ x ∈ xs, f x = .ok ⟨⟩ := by
  induction xs with
  | nil => simp [pure, Except.pure]
  | cons x xs ih =>
      simp only [List.forM_cons, bind_eq_ok, ih, List.forall_mem_cons]
      constructor
      · rintro ⟨_, hx, hxs⟩
        exact ⟨hx, hxs⟩
      · rintro ⟨hx, hxs⟩
        exact ⟨_, hx, hxs⟩

/-- The computation does not stop with `e`. -/
def Avoids (e : ε) (x : Except ε α) : Prop :=
  x ≠ .error e

section Avoids

variable {e e' : ε}

@[simp] theorem avoids_ok (a : α) : Avoids e (.ok a : Except ε α) := by
  simp [Avoids]

@[simp] theorem avoids_pure (a : α) : Avoids e (pure a : Except ε α) :=
  avoids_ok a

@[simp] theorem avoids_error (h : e' ≠ e) : Avoids e (.error e' : Except ε α) := by
  simpa [Avoids] using h

@[simp] theorem avoids_bind {x : Except ε α} {f : α → Except ε β} :
    Avoids e (x >>= f) ↔ Avoids e x ∧ ∀ a, x = .ok a → Avoids e (f a) := by
  cases x <;> simp [Avoids, bind, Except.bind]

@[simp] theorem avoids_map {x : Except ε α} {f : α → β} (hx : Avoids e x) :
    Avoids e (f <$> x) := by
  cases x with
  | error e' => exact fun h => hx (congrArg _ (Except.error.inj h))
  | ok a => exact avoids_ok (f a)

@[simp] theorem avoids_ite {p : Prop} [Decidable p] {x y : Except ε α} :
    Avoids e (if p then x else y) ↔ (p → Avoids e x) ∧ (¬ p → Avoids e y) := by
  split <;> simp [*]

@[simp] theorem avoids_require {p : Prop} [Decidable p] (h : e' ≠ e) :
    Avoids e (require p e') :=
  avoids_ite.mpr ⟨fun _ => avoids_ok (), fun _ => avoids_error h⟩

@[simp] theorem avoids_checkedAdd {a b : Nat} (h : e' ≠ e) : Avoids e (checkedAdd a b e') :=
  avoids_ite.mpr ⟨fun _ => avoids_ok _, fun _ => avoids_error h⟩

@[simp] theorem avoids_checkedSub {a b : Nat} (h : e' ≠ e) : Avoids e (checkedSub a b e') :=
  avoids_ite.mpr ⟨fun _ => avoids_ok _, fun _ => avoids_error h⟩

@[simp] theorem avoids_okOr {o : Option α} (h : e' ≠ e) : Avoids e (okOr o e') := by
  cases o with
  | none => exact avoids_error h
  | some a => exact avoids_ok a

end Avoids

end BridgeProgram.CheckedResult
