/-
# The fields that a program reads

A program that converts some fields of a JSON value, one after the other, and goes on with what
it got: it fails where a conversion does, and it depends on the value through these fields
alone.  The fields are listed with the types that they are converted to.
-/
import Mathlib.Logic.Function.Basic
import WeChat.Lib.Json

namespace Json

/-- What a field is converted to; `strOr` is a text that need not be there. -/
inductive Kind
  | int | str | bool | ints
  | strOr (default : String)
deriving DecidableEq

/-- The value of a variable. -/
inductive Value
  | int (n : ℤ)
  | str (s : String)
  | bool (b : Bool)
  | ints (ns : List ℤ)
deriving DecidableEq

/-- The conversion of one field. -/
def Kind.read (j : Json) (k : String) : Kind → Option Value
  | int => (j.getInt k).map .int
  | str => (j.getStr k).map .str
  | bool => (j.getBool k).map .bool
  | ints => (j.getInts k).map .ints
  | strOr default => (j.value k default).map .str

/-- The conversions of some fields. -/
def readFields (j : Json) : List (String × Kind) → Option (List Value)
  | [] => some []
  | f :: fields => (f.2.read j f.1).bind fun v => (readFields j fields).map (v :: ·)

variable {α β : Type*} {fields : List (String × Kind)}

lemma readFields_cons_eq_some {j : Json} {k : String} {kind : Kind} {vs : List Value} :
    readFields j ((k, kind) :: fields) = some vs ↔
      ∃ v, kind.read j k = some v ∧ ∃ rest, readFields j fields = some rest ∧ v :: rest = vs := by
  rw [readFields, Option.bind_eq_some_iff]
  simp only [Option.map_eq_some_iff]

/-- The program converts these fields: it fails when and only when a conversion does, and it
does the same on two values whose fields convert to the same. -/
structure Reads (f : Json → Option β) (fields : List (String × Kind)) : Prop where
  isSome_iff : ∀ j, (f j).isSome ↔ (readFields j fields).isSome
  congr : ∀ j j' vs, readFields j fields = some vs → readFields j' fields = some vs → f j = f j'

/-- The rest of a program, which reads nothing. -/
lemma reads_const {o : Option β} (h : o.isSome) : Reads (fun _ => o) [] :=
  ⟨fun _ => iff_of_true h rfl, fun _ _ _ _ _ => rfl⟩

/-- A program that converts one field first. -/
lemma reads_cons {get : Json → Option α} {k : String} {kind : Kind} {inj : α → Value}
    (hinj : Function.Injective inj) (hget : ∀ j, kind.read j k = (get j).map inj)
    {f : α → Json → Option β} (h : ∀ a, Reads (f a) fields) :
    Reads (fun j => (get j).bind fun a => f a j) ((k, kind) :: fields) where
  isSome_iff j := by
    rw [readFields, hget]
    cases get j with
    | none => exact Iff.rfl
    | some a => simpa using (h a).isSome_iff j
  congr j j' vs hj hj' := by
    obtain ⟨v, hv, rest, hrest, rfl⟩ := readFields_cons_eq_some.1 hj
    obtain ⟨v', hv', rest', hrest', heq⟩ := readFields_cons_eq_some.1 hj'
    obtain ⟨rfl, rfl⟩ := List.cons.inj heq
    obtain ⟨a, ha, rfl⟩ := Option.map_eq_some_iff.1 ((hget j).symm.trans hv)
    obtain ⟨a', ha', heq'⟩ := Option.map_eq_some_iff.1 ((hget j').symm.trans hv')
    obtain rfl := hinj heq'
    simp only [ha, ha', Option.bind_some]
    exact (h a').congr j j' _ hrest hrest'

lemma reads_int {k : String} {f : ℤ → Json → Option β} (h : ∀ n, Reads (f n) fields) :
    Reads (fun j => (j.getInt k).bind fun n => f n j) ((k, .int) :: fields) :=
  reads_cons (fun _ _ => Value.int.inj) (fun _ => rfl) h

lemma reads_str {k : String} {f : String → Json → Option β} (h : ∀ s, Reads (f s) fields) :
    Reads (fun j => (j.getStr k).bind fun s => f s j) ((k, .str) :: fields) :=
  reads_cons (fun _ _ => Value.str.inj) (fun _ => rfl) h

lemma reads_bool {k : String} {f : Bool → Json → Option β} (h : ∀ b, Reads (f b) fields) :
    Reads (fun j => (j.getBool k).bind fun b => f b j) ((k, .bool) :: fields) :=
  reads_cons (fun _ _ => Value.bool.inj) (fun _ => rfl) h

lemma reads_ints {k : String} {f : List ℤ → Json → Option β} (h : ∀ ns, Reads (f ns) fields) :
    Reads (fun j => (j.getInts k).bind fun ns => f ns j) ((k, .ints) :: fields) :=
  reads_cons (fun _ _ => Value.ints.inj) (fun _ => rfl) h

lemma reads_strOr {k default : String} {f : String → Json → Option β}
    (h : ∀ s, Reads (f s) fields) :
    Reads (fun j => (j.value k default).bind fun s => f s j) ((k, .strOr default) :: fields) :=
  reads_cons (fun _ _ => Value.str.inj) (fun _ => rfl) h

/-- What a program reads is what its first part reads, when its second part reads nothing. -/
lemma Reads.bind_const {f : Json → Option α} (h : Reads f fields) {g : α → Option β}
    (hg : ∀ a, (g a).isSome) : Reads (fun j => (f j).bind g) fields where
  isSome_iff j := by
    rw [← h.isSome_iff j]
    cases f j with
    | none => exact Iff.rfl
    | some a => exact iff_of_true (hg a) rfl
  congr j j' vs hj hj' := by rw [h.congr j j' vs hj hj']

end Json
