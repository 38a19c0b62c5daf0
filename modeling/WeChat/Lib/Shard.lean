/-
# Lists that are split by a key

A list of items is split into the sublists of the items with one key.  When one log lists the
items in the order in which they came and another the items in the order in which they were
taken, then first-in-first-out for every key says that each part of the second log is a prefix,
or a sublist, of the same part of the first.  This file has the parts of a list and the rule
that passes from the parts for a coarse key to those for a finer one.
-/
import Mathlib.Data.List.Basic
import Mathlib.Data.List.Nodup

namespace Shard

variable {α ι κ : Type*} [DecidableEq ι] [DecidableEq κ]

/-- The items with the key `i`, in their order. -/
def part (key : α → ι) (i : ι) (l : List α) : List α := l.filter fun x => key x = i

variable {key : α → ι} {i : ι} {x : α} {l l' : List α}

@[simp] lemma part_nil : part key i [] = [] := rfl

@[simp] lemma part_append : part key i (l ++ l') = part key i l ++ part key i l' :=
  List.filter_append ..

lemma part_singleton (h : key x = i) : part key i [x] = [x] := by
  simp [part, h]

lemma part_singleton_of_ne (h : key x ≠ i) : part key i [x] = [] := by
  simp [part, h]

lemma part_snoc (h : key x = i) : part key i (l ++ [x]) = part key i l ++ [x] := by
  rw [part_append, part_singleton h]

lemma part_snoc_of_ne (h : key x ≠ i) : part key i (l ++ [x]) = part key i l := by
  rw [part_append, part_singleton_of_ne h, List.append_nil]

lemma mem_part : x ∈ part key i l ↔ x ∈ l ∧ key x = i := by
  simp [part]

/-! ## Finer keys -/

/-- The part for a fine key is a part of the part for a key that it determines. -/
lemma part_part (fine : α → κ) (coarse : κ → ι) (k : κ) (l : List α) :
    part fine k (part (coarse ∘ fine) (coarse k) l) = part fine k l := by
  rw [part, part, part, List.filter_filter]
  congr 1
  ext x
  by_cases h : fine x = k
  · simp [h]
  · simp [h]

/-- First-in-first-out for a coarse key is first-in-first-out for a finer one. -/
theorem isPrefix_part (fine : α → κ) (coarse : κ → ι)
    (h : ∀ i, part (coarse ∘ fine) i l <+: part (coarse ∘ fine) i l') (k : κ) :
    part fine k l <+: part fine k l' := by
  have hpart := (h (coarse k)).filter fun x => fine x = k
  have hl := part_part fine coarse k l
  have hl' := part_part fine coarse k l'
  rw [part] at hl hl'
  rwa [hl, hl'] at hpart

/-- The same for items of which some were passed over. -/
theorem sublist_part (fine : α → κ) (coarse : κ → ι)
    (h : ∀ i, (part (coarse ∘ fine) i l).Sublist (part (coarse ∘ fine) i l')) (k : κ) :
    (part fine k l).Sublist (part fine k l') := by
  have hpart := (h (coarse k)).filter fun x => fine x = k
  have hl := part_part fine coarse k l
  have hl' := part_part fine coarse k l'
  rw [part] at hl hl'
  rwa [hl, hl'] at hpart

/-- An item occurs as often in its part as in the whole list. -/
lemma count_part [DecidableEq α] : (part key (key x) l).count x = l.count x :=
  List.count_filter (by simp)

end Shard
