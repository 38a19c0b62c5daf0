/-
# Sums over a list with one entry replaced

The threads of a pool are a list, a step replaces one of them, and what is counted about the
pool is a sum of a weight over the list.
-/
import Mathlib

namespace Tally

variable {α : Type*}

/-- The sum of a weight over a list. -/
def tally (f : α → ℕ) (l : List α) : ℕ := (l.map f).sum

@[simp] lemma tally_nil (f : α → ℕ) : tally f [] = 0 := rfl

@[simp] lemma tally_cons (f : α → ℕ) (a : α) (l : List α) :
    tally f (a :: l) = f a + tally f l := by
  simp [tally]

@[simp] lemma tally_append (f : α → ℕ) (l l' : List α) :
    tally f (l ++ l') = tally f l + tally f l' := by
  simp [tally]

/-- Replacing an entry trades its weight for the weight of the new one. -/
lemma tally_set (f : α → ℕ) {l : List α} {i : ℕ} {a : α} (h : l[i]? = some a) (b : α) :
    tally f (l.set i b) + f a = tally f l + f b := by
  induction l generalizing i with
  | nil => cases h
  | cons c l ih =>
    cases i with
    | zero =>
      obtain rfl : c = a := Option.some.inj h
      simp only [List.set_cons_zero, tally_cons]
      omega
    | succ i =>
      have := ih h
      simp only [List.set_cons_succ, tally_cons]
      omega

lemma le_tally (f : α → ℕ) {l : List α} {a : α} (h : a ∈ l) : f a ≤ tally f l := by
  induction h with
  | head l => simp
  | tail b _ ih =>
    rw [tally_cons]
    omega

lemma tally_eq_zero_iff {f : α → ℕ} {l : List α} : tally f l = 0 ↔ ∀ a ∈ l, f a = 0 := by
  induction l with
  | nil => simp
  | cons a l ih => simp [ih]

lemma exists_of_tally_ne_zero {f : α → ℕ} {l : List α} (h : tally f l ≠ 0) :
    ∃ (i : ℕ) (a : α), l[i]? = some a ∧ f a ≠ 0 := by
  rw [Ne, tally_eq_zero_iff, not_forall] at h
  obtain ⟨a, h⟩ := h
  obtain ⟨ha, hne⟩ := Classical.not_imp.1 h
  obtain ⟨i, hi⟩ := List.mem_iff_getElem?.1 ha
  exact ⟨i, a, hi, hne⟩

lemma tally_le_tally {f g : α → ℕ} {l : List α} (h : ∀ a ∈ l, f a ≤ g a) :
    tally f l ≤ tally g l := by
  induction l with
  | nil => exact le_rfl
  | cons a l ih =>
    have ha := h a List.mem_cons_self
    have hl := ih fun b hb => h b (List.mem_cons_of_mem _ hb)
    simp only [tally_cons]
    omega

/-- Weights that are ordered and have the same sum are the same. -/
lemma eq_of_tally_le {f g : α → ℕ} {l : List α} (h : ∀ a ∈ l, f a ≤ g a)
    (hsum : tally g l ≤ tally f l) : ∀ a ∈ l, f a = g a := by
  induction l with
  | nil => simp
  | cons a l ih =>
    have ha := h a List.mem_cons_self
    have hle := fun b hb => h b (List.mem_cons_of_mem a hb)
    have hl := tally_le_tally hle
    simp only [tally_cons] at hsum
    rw [List.forall_mem_cons]
    exact ⟨by omega, ih hle (by omega)⟩

/-- What holds of every entry, and of the new one, holds of every entry afterwards. -/
lemma forall_mem_set {P : α → Prop} {l : List α} (h : ∀ a ∈ l, P a) {b : α} (hb : P b) (i : ℕ) :
    ∀ a ∈ l.set i b, P a := by
  intro a ha
  rcases List.mem_or_eq_of_mem_set ha with ha | rfl
  · exact h a ha
  · exact hb

end Tally
