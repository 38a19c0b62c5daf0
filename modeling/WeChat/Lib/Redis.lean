/-
# Redis: strings, hashes and their commands

A key holds a string or a hash.  A command on a key that holds the other type is answered with
an error, as is a command that Redis does not define, and neither changes anything.  `HINCRBY`
reads its field as a 64-bit integer in decimal and is refused when the field is something else
or the result does not fit.
-/
import Mathlib.Data.Int.Basic
import Mathlib.Logic.Function.Basic
import Std.Data.String.ToInt

namespace Redis

/-- What a key holds. -/
inductive Value
  | str (s : String)
  | hash (fields : String → Option String)

/-- The keys of a database. -/
abbrev Store := String → Option Value

/-- The answer to a command. -/
inductive Reply
  | status
  | error
  | nil
  | string (s : String)
  | integer (n : ℤ)
deriving DecidableEq

/-- The largest integer of a field. -/
def int64Max : ℤ := 9223372036854775807

/-- The smallest integer of a field. -/
def int64Min : ℤ := -9223372036854775808

/-- The integer that a text writes in decimal, without blanks, sign `+` or leading zeros. -/
def parseInteger (s : String) : Option ℤ := s.toInt?.filter fun n => n.repr = s

@[simp] lemma parseInteger_repr (n : ℤ) : parseInteger n.repr = some n := by
  simp [parseInteger, Int.toInt?_repr]

/-! ## Commands -/

/-- `GET`. -/
def get (db : Store) (key : String) : Reply :=
  match db key with
  | none => .nil
  | some (.str s) => .string s
  | some (.hash _) => .error

/-- `SET`, which overwrites a value of any type. -/
def set (db : Store) (key value : String) : Store := Function.update db key (some (.str value))

/-- `DEL`. -/
def del (db : Store) (key : String) : Store := Function.update db key none

/-- The fields of a hash; a key that is not there counts as an empty hash. -/
def hashOf : Option Value → Option (String → Option String)
  | none => some fun _ => none
  | some (.hash fields) => some fields
  | some (.str _) => none

/-- `HINCRBY`. -/
def hincrby (db : Store) (key field : String) (increment : ℤ) : Reply × Store :=
  match hashOf (db key) with
  | none => (.error, db)
  | some fields =>
    match (fields field).elim (some 0) parseInteger with
    | none => (.error, db)
    | some n =>
      let sum := n + increment
      if int64Min ≤ sum ∧ sum ≤ int64Max then
        (.integer sum,
          Function.update db key (some (.hash (Function.update fields field (some sum.repr)))))
      else (.error, db)

/-- A command that Redis does not define. -/
def unknown (db : Store) : Reply × Store := (.error, db)

/-! ## Counters -/

/-- The integer in a field of a hash, 0 when it is not there. -/
def counter (db : Store) (key field : String) : ℤ :=
  (((hashOf (db key)).bind fun fields => fields field).bind parseInteger).getD 0

/-- A key holds no string, and its field no text that is not a 64-bit integer. -/
def IsCounter (db : Store) (key field : String) : Prop :=
  ∃ fields, hashOf (db key) = some fields ∧
    ∀ s, fields field = some s → ∃ n, parseInteger s = some n ∧ int64Min ≤ n ∧ n ≤ int64Max

section Counter

variable {db : Store} {key key' field : String}

lemma isCounter_of_none (h : db key = none) : IsCounter db key field :=
  ⟨fun _ => none, by rw [h]; rfl, fun _ hs => nomatch hs⟩

/-- `GET` never answers a counter with a string. -/
lemma get_ne_string (h : IsCounter db key field) (s : String) : get db key ≠ .string s := by
  obtain ⟨fields, hfields, -⟩ := h
  rw [get]
  cases hkey : db key with
  | none => simp
  | some v =>
    cases v with
    | str t =>
      rw [hkey] at hfields
      cases hfields
    | hash _ => simp

/-- `HINCRBY` by one on a counter adds one, or it is refused at the largest integer. -/
lemma hincrby_counter (h : IsCounter db key field) :
    ∃ value, (hincrby db key field 1).2 = Function.update db key value ∧
      IsCounter (hincrby db key field 1).2 key field ∧
      counter (hincrby db key field 1).2 key field =
        counter db key field + if counter db key field < int64Max then 1 else 0 := by
  obtain ⟨fields, hfields, hfield⟩ := h
  have hinteger : ∃ n, (fields field).elim (some 0) parseInteger = some n ∧
      counter db key field = n ∧ int64Min ≤ n ∧ n ≤ int64Max := by
    cases hf : fields field with
    | none =>
      refine ⟨0, rfl, ?_, by decide, by decide⟩
      simp [counter, hfields, hf]
    | some s =>
      obtain ⟨n, hn, hmin, hmax⟩ := hfield s hf
      exact ⟨n, hn, by simp [counter, hfields, hf, hn], hmin, hmax⟩
  obtain ⟨n, hn, hcount, hmin, hmax⟩ := hinteger
  rw [hcount]
  by_cases hlt : n < int64Max
  · have hsum : int64Min ≤ n + 1 ∧ n + 1 ≤ int64Max := ⟨by omega, by omega⟩
    have heq : (hincrby db key field 1).2 = Function.update db key
        (some (.hash (Function.update fields field (some (n + 1).repr)))) := by
      rw [hincrby, hfields]
      simp only [hn, if_pos hsum]
    rw [heq, if_pos hlt]
    refine ⟨_, rfl, ⟨Function.update fields field (some (n + 1).repr), ?_, ?_⟩, ?_⟩
    · rw [Function.update_self]
      rfl
    · intro s hs
      rw [Function.update_self] at hs
      exact ⟨n + 1, Option.some.inj hs ▸ parseInteger_repr _, hsum.1, hsum.2⟩
    · simp [counter, hashOf]
  · have hsum : ¬(int64Min ≤ n + 1 ∧ n + 1 ≤ int64Max) := fun hle => hlt (by omega)
    have heq : (hincrby db key field 1).2 = db := by
      rw [hincrby, hfields]
      simp only [hn, if_neg hsum]
    rw [heq, if_neg hlt, Int.add_zero]
    exact ⟨db key, (Function.update_eq_self key db).symm, ⟨fields, hfields, hfield⟩, hcount⟩

/-- A counter depends on its key only. -/
lemma counter_congr {db' : Store} (h : db' key = db key) :
    counter db' key field = counter db key field := by
  rw [counter, counter, h]

lemma IsCounter.congr {db' : Store} (hdb : IsCounter db key field) (h : db' key = db key) :
    IsCounter db' key field := by
  rwa [IsCounter, h]

lemma counter_of_none (h : db key = none) : counter db key field = 0 := by
  rw [counter, h]
  rfl

lemma del_of_ne (h : key' ≠ key) : del db key key' = db key' := Function.update_of_ne h ..

lemma set_of_ne (h : key' ≠ key) (value : String) : set db key value key' = db key' :=
  Function.update_of_ne h ..

end Counter

end Redis
