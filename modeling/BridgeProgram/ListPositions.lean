import Mathlib.Data.List.Forall2
import Mathlib.Data.List.Nodup

namespace BridgeProgram.ListPositions

universe u

variable {α : Type u}

theorem getElem?_filter_ne [DecidableEq α] {l : List α} {x : α} {i : Nat}
    (h : i < l.idxOf x) : (l.filter (· ≠ x))[i]? = l[i]? := by
  induction l generalizing i with
  | nil => simp at h
  | cons y l ih =>
      by_cases hy : y = x
      · subst hy
        simp at h
      · rw [List.idxOf_cons_ne _ hy] at h
        rw [List.filter_cons_of_pos (by simpa using hy)]
        cases i with
        | zero => rfl
        | succ i => simpa using ih (Nat.lt_of_succ_lt_succ h)

theorem exists_entries {l : List α} (hl : l.Nodup) {positions : List Nat}
    (hpositions : positions.Nodup) {P : α → Prop}
    (h : ∀ i ∈ positions, ∃ k, l[i]? = some k ∧ P k) :
    ∃ entries : List α, entries.Nodup ∧ entries.length = positions.length ∧
      ∀ k ∈ entries, P k ∧ ∃ i ∈ positions, l[i]? = some k := by
  induction positions with
  | nil => exact ⟨[], by simp⟩
  | cons i positions ih =>
      obtain ⟨hi, hrest⟩ := List.nodup_cons.mp hpositions
      obtain ⟨entries, hnodup, hlength, hentries⟩ :=
        ih hrest fun j hj => h j (List.mem_cons_of_mem _ hj)
      obtain ⟨k, hk, hPk⟩ := h i List.mem_cons_self
      have hnew : k ∉ entries := by
        intro hmem
        obtain ⟨-, j, hj, hjk⟩ := hentries k hmem
        have hlt : i < l.length := (List.getElem?_eq_some_iff.mp hk).1
        have hij : i = j := (List.getElem?_inj hlt hl).mp (hk.trans hjk.symm)
        exact hi (hij ▸ hj)
      refine ⟨k :: entries, List.nodup_cons.mpr ⟨hnew, hnodup⟩, by simp [hlength], ?_⟩
      intro k' hk'
      rcases List.mem_cons.mp hk' with rfl | hmem
      · exact ⟨hPk, i, List.mem_cons_self, hk⟩
      · obtain ⟨hP, j, hj, hjk⟩ := hentries k' hmem
        exact ⟨hP, j, List.mem_cons_of_mem _ hj, hjk⟩

theorem exists_right_of_mem {β : Type u} {R : α → β → Prop} {xs : List α} {ys : List β}
    (h : List.Forall₂ R xs ys) {x : α} (hx : x ∈ xs) : ∃ y ∈ ys, R x y := by
  induction h with
  | nil => cases hx
  | cons hxy _ ih =>
      rcases List.mem_cons.mp hx with rfl | hx
      · exact ⟨_, List.mem_cons_self, hxy⟩
      · obtain ⟨y, hy, hR⟩ := ih hx
        exact ⟨y, List.mem_cons_of_mem _ hy, hR⟩

theorem exists_left_of_mem {β : Type u} {R : α → β → Prop} {xs : List α} {ys : List β}
    (h : List.Forall₂ R xs ys) {y : β} (hy : y ∈ ys) : ∃ x ∈ xs, R x y :=
  exists_right_of_mem h.flip hy

end BridgeProgram.ListPositions
