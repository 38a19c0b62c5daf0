/-
# JSON values

JSON values as a C++ program sees them: objects are maps sorted by key, a key that is looked
up but missing reads as `null`, and a conversion to another type than that of the value throws;
here it is `none`.  How values are written as text is left to a codec: the writer and the
parser of a JSON library, of which only the round trip is assumed.
-/
import Mathlib.Data.List.Induction
import Mathlib.Data.List.Nodup
import Mathlib.Data.String.Basic
import WeChat.Lib.Wire

open Wire

/-- A JSON value.  A number that is not written as an integer is the decimal `m * 10 ^ e`. -/
inductive Json
  | null
  | bool (b : Bool)
  | num (n : ℤ)
  | real (m e : ℤ)
  | str (s : String)
  | arr (items : List Json)
  | obj (fields : List (String × Json))

namespace Json

/-! ## Objects -/

/-- The assignment `o[k] = v` to an object with the given fields. -/
def insert (k : String) (v : Json) : List (String × Json) → List (String × Json)
  | [] => [(k, v)]
  | (k', v') :: rest =>
    if k < k' then (k, v) :: (k', v') :: rest
    else if k = k' then (k, v) :: rest
    else (k', v') :: insert k v rest

/-- The object after a series of assignments. -/
def ofFields (fields : List (String × Json)) : List (String × Json) :=
  fields.foldl (fun o f => insert f.1 f.2 o) []

/-- The object after a series of assignments, as a value. -/
def object (fields : List (String × Json)) : Json := .obj (ofFields fields)

/-- The keys of an object are sorted, and no two are equal. -/
def Sorted (fields : List (String × Json)) : Prop :=
  (fields.map Prod.fst).Pairwise (· < ·)

mutual

/-- Every object in a value is sorted. -/
def Wf : Json → Prop
  | .arr items => WfItems items
  | .obj fields => Sorted fields ∧ WfFields fields
  | _ => True

def WfItems : List Json → Prop
  | [] => True
  | j :: js => j.Wf ∧ WfItems js

def WfFields : List (String × Json) → Prop
  | [] => True
  | f :: fs => f.2.Wf ∧ WfFields fs

end

lemma wfFields_iff {fields : List (String × Json)} : WfFields fields ↔ ∀ f ∈ fields, f.2.Wf := by
  induction fields with
  | nil => simp [WfFields]
  | cons f fs ih => simp [WfFields, ih]

lemma mem_insert {k : String} {v : Json} {fields : List (String × Json)} {f : String × Json}
    (h : f ∈ insert k v fields) : f = (k, v) ∨ f ∈ fields := by
  induction fields with
  | nil => exact .inl (List.mem_singleton.1 h)
  | cons f' rest ih =>
    rw [insert] at h
    split_ifs at h
    · exact List.mem_cons.1 h
    · exact (List.mem_cons.1 h).imp_right (List.mem_cons_of_mem _)
    · rcases List.mem_cons.1 h with rfl | h
      · exact .inr List.mem_cons_self
      · exact (ih h).imp_right (List.mem_cons_of_mem _)

lemma sorted_insert {k : String} {v : Json} {fields : List (String × Json)}
    (h : Sorted fields) : Sorted (insert k v fields) := by
  induction fields with
  | nil => exact List.pairwise_singleton _ _
  | cons f' rest ih =>
    obtain ⟨hlt, hrest⟩ := List.pairwise_cons.1 h
    rw [insert]
    split_ifs with hk hk'
    · refine List.pairwise_cons.2 ⟨fun k' hk' => ?_, h⟩
      rcases List.mem_cons.1 hk' with rfl | hmem
      · exact hk
      · exact hk.trans (hlt k' hmem)
    · exact List.pairwise_cons.2 ⟨hk' ▸ hlt, hrest⟩
    · refine List.pairwise_cons.2 ⟨fun k₁ hk₁ => ?_, ih hrest⟩
      obtain ⟨f, hf, rfl⟩ := List.mem_map.1 hk₁
      rcases mem_insert hf with rfl | hmem
      · exact lt_of_le_of_ne (not_lt.1 hk) (Ne.symm hk')
      · exact hlt f.1 (List.mem_map_of_mem hmem)

lemma sorted_ofFields (fields : List (String × Json)) : Sorted (ofFields fields) := by
  rw [ofFields]
  induction fields using List.reverseRecOn with
  | nil => exact List.Pairwise.nil
  | append_singleton fs f ih =>
    rw [List.foldl_append]
    exact sorted_insert ih

lemma mem_of_mem_ofFields {fields : List (String × Json)} {f : String × Json}
    (h : f ∈ ofFields fields) : f ∈ fields := by
  rw [ofFields] at h
  induction fields using List.reverseRecOn with
  | nil => exact h
  | append_singleton fs f' ih =>
    rw [List.foldl_append] at h
    rcases mem_insert h with rfl | h
    · exact List.mem_append_right _ (List.mem_singleton_self _)
    · exact List.mem_append_left _ (ih h)

/-- An object is well-formed when the values assigned to its fields are. -/
lemma wf_object {fields : List (String × Json)} (h : ∀ f ∈ fields, f.2.Wf) :
    (object fields).Wf :=
  ⟨sorted_ofFields fields, wfFields_iff.2 fun f hf => h f (mem_of_mem_ofFields hf)⟩

/-- A field that was assigned last comes last among the assignments. -/
lemma insert_of_forall_lt {k : String} {v : Json} {fields : List (String × Json)}
    (h : ∀ f ∈ fields, f.1 < k) : insert k v fields = fields ++ [(k, v)] := by
  induction fields with
  | nil => rfl
  | cons f' rest ih =>
    have hlt := h f' List.mem_cons_self
    rw [insert, if_neg hlt.not_gt, if_neg hlt.ne', ih fun f hf => h f (List.mem_cons_of_mem _ hf)]
    rfl

/-- Assigning the fields of a sorted object in their order rebuilds it. -/
lemma ofFields_eq_self {fields : List (String × Json)} (h : Sorted fields) :
    ofFields fields = fields := by
  rw [ofFields]
  induction fields using List.reverseRecOn with
  | nil => rfl
  | append_singleton fs f ih =>
    rw [Sorted, List.map_append, List.pairwise_append] at h
    rw [List.foldl_append, ih h.1]
    exact insert_of_forall_lt fun f' hf' =>
      h.2.2 f'.1 (List.mem_map_of_mem hf') f.1 (by simp)

lemma insert_comm {k k' : String} (hne : k ≠ k') (v v' : Json) (fields : List (String × Json)) :
    insert k v (insert k' v' fields) = insert k' v' (insert k v fields) := by
  induction fields with
  | nil => grind [insert]
  | cons f rest ih => grind [insert]

/-- The order of the assignments does not matter when no field is assigned twice. -/
lemma object_perm {fields fields' : List (String × Json)} (h : fields.Perm fields')
    (hkeys : (fields.map Prod.fst).Nodup) : object fields = object fields' := by
  refine congrArg obj (h.foldl_eq' (fun f hf f' hf' o => ?_) [])
  by_cases hk : f.1 = f'.1
  · rw [List.inj_on_of_nodup_map hkeys hf hf' hk]
  · exact insert_comm (Ne.symm hk) _ _ _

/-! ## Reading -/

/-- `j.contains(k)`. -/
def contains (j : Json) (k : String) : Bool :=
  match j with
  | .obj fields => (fields.lookup k).isSome
  | _ => false

/-- `j[k]` on a value that is not constant. -/
def get (j : Json) (k : String) : Option Json :=
  match j with
  | .obj fields => some ((fields.lookup k).getD .null)
  | .null => some .null
  | _ => none

/-- `get<int>()`: a number is converted, and so is a boolean. -/
def toInt : Json → Option ℤ
  | .num n => some (toInt32 n)
  | .real m e => some (toInt32 (if 0 ≤ e then m * 10 ^ e.toNat else m.tdiv (10 ^ (-e).toNat)))
  | .bool b => some (if b then 1 else 0)
  | _ => none

/-- `get<std::string>()`. -/
def toStr : Json → Option String
  | .str s => some s
  | _ => none

/-- `get<bool>()`. -/
def toBool : Json → Option Bool
  | .bool b => some b
  | _ => none

/-- `get<std::vector<int>>()`. -/
def toInts : Json → Option (List ℤ)
  | .arr items => items.mapM toInt
  | _ => none

def getInt (j : Json) (k : String) : Option ℤ := (j.get k).bind toInt

def getStr (j : Json) (k : String) : Option String := (j.get k).bind toStr

def getBool (j : Json) (k : String) : Option Bool := (j.get k).bind toBool

def getInts (j : Json) (k : String) : Option (List ℤ) := (j.get k).bind toInts

/-- `j.value(k, default)` for a string. -/
def value (j : Json) (k default : String) : Option String :=
  match j with
  | .obj fields =>
    match fields.lookup k with
    | some v => v.toStr
    | none => some default
  | _ => none

lemma lookup_cons_ite (k k' : String) (v : Json) (fields : List (String × Json)) :
    ((k, v) :: fields).lookup k' = if k' = k then some v else fields.lookup k' := by
  rw [List.lookup_cons]
  by_cases hk : k' = k
  · simp [hk]
  · rw [if_neg hk, beq_false_of_ne hk]

lemma lookup_insert (k k' : String) (v : Json) (fields : List (String × Json)) :
    (insert k v fields).lookup k' = if k' = k then some v else fields.lookup k' := by
  induction fields with
  | nil => exact lookup_cons_ite k k' v []
  | cons f rest ih =>
    obtain ⟨k₀, v₀⟩ := f
    rw [insert]
    by_cases hlt : k < k₀
    · rw [if_pos hlt, lookup_cons_ite]
    · by_cases heq : k = k₀
      · subst heq
        rw [if_neg hlt, if_pos rfl, lookup_cons_ite, lookup_cons_ite]
        split_ifs <;> rfl
      · rw [if_neg hlt, if_neg heq, lookup_cons_ite, lookup_cons_ite, ih]
        -- the keys `k` and `k₀` are different, so the order of the two tests does not matter
        by_cases hk : k' = k
        · rw [if_pos hk, if_pos hk, if_neg (hk ▸ heq)]
        · rw [if_neg hk, if_neg hk]

/-- Reading a field back finds the last assignment to it. -/
lemma lookup_ofFields (fields : List (String × Json)) (k : String) :
    (ofFields fields).lookup k = fields.reverse.lookup k := by
  rw [ofFields]
  induction fields using List.reverseRecOn with
  | nil => rfl
  | append_singleton fs f ih =>
    obtain ⟨k₀, v₀⟩ := f
    rw [List.foldl_append, List.foldl_cons, List.foldl_nil, lookup_insert, ih,
      List.reverse_append, List.reverse_singleton, List.singleton_append, lookup_cons_ite]

lemma get_object (fields : List (String × Json)) (k : String) :
    (object fields).get k = some ((fields.reverse.lookup k).getD .null) := by
  rw [object, Json.get, lookup_ofFields]

/-! ## Text -/

/-- A writer and a parser for JSON text. -/
structure Codec where
  parse : Bytes → Option Json
  dump : Json → Bytes
  /-- A value that was written is read back. -/
  parse_dump : ∀ {j : Json}, j.Wf → parse (dump j) = some j

end Json
