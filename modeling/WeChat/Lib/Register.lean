/-
# The value of a register after a history

An entry of a history writes a value to a register, clears it, or does not touch it.  The value
after the history is that of the last write, unless something has cleared the register since,
and the entries that do not touch the register may be left out.
-/
import Mathlib.Data.List.Induction

namespace Register

variable {E β : Type*}

/-- The value after a history.  The effect of an entry is `none` when it does not touch the
register, `some none` when it clears it, and `some (some b)` when it writes `b`. -/
def latest (effect : E → Option (Option β)) (h : List E) : Option β :=
  h.foldl (fun value e => (effect e).getD value) none

/-- An entry of a longer history is the last one, or an entry of the history before it. -/
lemma split_concat {h h₁ h₂ : List E} {e e₁ : E} (heq : h ++ [e] = h₁ ++ e₁ :: h₂) :
    (h = h₁ ∧ e = e₁ ∧ h₂ = []) ∨ ∃ h₂', h₂ = h₂' ++ [e] ∧ h = h₁ ++ e₁ :: h₂' := by
  rcases List.eq_nil_or_concat h₂ with rfl | ⟨h₂', e', rfl⟩
  · obtain ⟨rfl, heq'⟩ := List.append_inj' heq rfl
    exact .inl ⟨rfl, List.singleton_inj.1 heq', rfl⟩
  · rw [List.concat_eq_append, ← List.cons_append, ← List.append_assoc] at heq
    obtain ⟨rfl, heq'⟩ := List.append_inj' heq rfl
    obtain rfl := List.singleton_inj.1 heq'
    exact .inr ⟨h₂', List.concat_eq_append, rfl⟩

/-- Two entries that carry the same mark are the same one when no mark occurs twice. -/
lemma split_unique {mark : E → Option β} {h h₁ h₂ h₁' h₂' : List E} {e e' : E} {b : β}
    (hnodup : (h.filterMap mark).Nodup) (heq : h = h₁ ++ e :: h₂) (heq' : h = h₁' ++ e' :: h₂')
    (he : mark e = some b) (he' : mark e' = some b) : h₁ = h₁' ∧ e = e' ∧ h₂ = h₂' := by
  -- an entry with the mark cannot come before another one
  have htwice : ∀ {l₁ l₂ l₃ : List E} {a a' : E}, h = l₁ ++ a :: (l₂ ++ a' :: l₃) →
      mark a = some b → mark a' = some b → False := by
    intro l₁ l₂ l₃ a a' hl ha ha'
    rw [hl, List.filterMap_append, List.filterMap_cons_some ha, List.filterMap_append,
      List.filterMap_cons_some ha'] at hnodup
    have hcons := (List.nodup_append.1 hnodup).2.1
    exact (List.nodup_cons.1 hcons).1 (List.mem_append_right _ List.mem_cons_self)
  rcases List.append_eq_append_iff.1 (heq.symm.trans heq') with ⟨l, rfl, hl⟩ | ⟨l, rfl, hl⟩
  · cases l with
    | nil =>
      obtain ⟨rfl, rfl⟩ := List.cons.inj hl
      exact ⟨(List.append_nil h₁).symm, rfl, rfl⟩
    | cons a l =>
      obtain ⟨rfl, rfl⟩ := List.cons.inj hl
      exact (htwice heq he he').elim
  · cases l with
    | nil =>
      obtain ⟨rfl, rfl⟩ := List.cons.inj hl
      exact ⟨List.append_nil h₁', rfl, rfl⟩
    | cons a l =>
      obtain ⟨rfl, rfl⟩ := List.cons.inj hl
      exact (htwice heq' he' he).elim

section Latest

variable {effect : E → Option (Option β)} {h h' : List E} {e : E} {b : β}

@[simp] lemma latest_nil : latest effect [] = none := rfl

@[simp] lemma latest_concat :
    latest effect (h ++ [e]) = (effect e).getD (latest effect h) := by
  rw [latest, List.foldl_append]
  rfl

lemma latest_concat_of_none (he : effect e = none) :
    latest effect (h ++ [e]) = latest effect h := by
  rw [latest_concat, he, Option.getD_none]

/-- Entries that do not touch the register do not change its value. -/
lemma latest_append_of_none (hnone : ∀ e ∈ h', effect e = none) :
    latest effect (h ++ h') = latest effect h := by
  induction h' using List.reverseRecOn with
  | nil => rw [List.append_nil]
  | append_singleton h' e ih =>
    rw [← List.append_assoc, latest_concat_of_none (hnone e (by simp))]
    exact ih fun e' he' => hnone e' (List.mem_append_left _ he')

/-- **The register holds a value exactly when the last entry that touches it wrote the value.** -/
theorem latest_eq_some_iff :
    latest effect h = some b ↔
      ∃ h₁ e h₂, h = h₁ ++ e :: h₂ ∧ effect e = some (some b) ∧ ∀ e' ∈ h₂, effect e' = none := by
  constructor
  · intro hlatest
    induction h using List.reverseRecOn with
    | nil => exact nomatch hlatest
    | append_singleton h e ih =>
      rw [latest_concat] at hlatest
      cases he : effect e with
      | none =>
        rw [he, Option.getD_none] at hlatest
        obtain ⟨h₁, e₁, h₂, rfl, hwrite, hnone⟩ := ih hlatest
        refine ⟨h₁, e₁, h₂ ++ [e], by simp, hwrite, fun e' he' => ?_⟩
        rcases List.mem_append.1 he' with he' | he'
        · exact hnone e' he'
        · rwa [List.mem_singleton.1 he']
      | some value =>
        rw [he, Option.getD_some] at hlatest
        subst hlatest
        exact ⟨h, e, [], rfl, he, fun e' he' => absurd he' List.not_mem_nil⟩
  · rintro ⟨h₁, e, h₂, rfl, hwrite, hnone⟩
    rw [List.append_cons, latest_append_of_none hnone, latest_concat, hwrite, Option.getD_some]

/-- The value depends on the entries that touch the register, and on no others. -/
theorem latest_filter {p : E → Bool} (hp : ∀ e, p e = false → effect e = none) :
    latest effect (h.filter p) = latest effect h := by
  induction h using List.reverseRecOn with
  | nil => rfl
  | append_singleton h e ih =>
    rw [List.filter_append, latest_concat, ← ih]
    cases he : p e with
    | true => rw [List.filter_cons_of_pos he, List.filter_nil, latest_concat]
    | false => simp [he, hp e he]

end Latest

end Register
