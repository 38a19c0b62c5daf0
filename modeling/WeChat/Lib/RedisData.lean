/-
# Redis: lists and hashes over byte strings

The commands on strings, lists and hashes, with arguments of any bytes.  A list or a hash that
becomes empty is removed with its key.  A command on a key that holds another type is answered
with an error and changes nothing, and so is a command that Redis does not define.
-/
import Mathlib.Data.Finmap
import WeChat.Lib.Redis
import WeChat.Lib.Wire

namespace RedisData

open Wire

/-- The fields of a hash. -/
abbrev Fields := Finmap fun _ : Bytes => Bytes

/-- What a key holds. -/
inductive Value
  | str (s : Bytes)
  | list (elements : List Bytes) (ne : elements ≠ [])
  | hash (fields : Fields) (ne : fields ≠ ∅)

/-- The keys of a database. -/
abbrev Store := Bytes → Option Value

/-- What a key holds once its list has become `l`. -/
def ofList (l : List Bytes) : Option Value := if h : l ≠ [] then some (.list l h) else none

/-- What a key holds once its hash has become `m`. -/
def ofHash (m : Fields) : Option Value := if h : m ≠ ∅ then some (.hash m h) else none

/-- The list of a key; a key that is not there counts as an empty list. -/
def listOf : Option Value → Option (List Bytes)
  | none => some []
  | some (.list l _) => some l
  | some _ => none

/-- The hash of a key; a key that is not there counts as an empty hash. -/
def hashOf : Option Value → Option Fields
  | none => some ∅
  | some (.hash m _) => some m
  | some _ => none

@[simp] lemma listOf_ofList (l : List Bytes) : listOf (ofList l) = some l := by
  by_cases h : l = [] <;> simp [ofList, listOf, h]

@[simp] lemma hashOf_ofHash (m : Fields) : hashOf (ofHash m) = some m := by
  by_cases h : m = ∅ <;> simp [ofHash, hashOf, h]

lemma ofList_eq {v : Option Value} {l : List Bytes} (h : listOf v = some l) : ofList l = v := by
  match v, h with
  | none, h =>
    obtain rfl := Option.some.inj h
    rfl
  | some (.list l' ne), h =>
    obtain rfl := Option.some.inj h
    exact dif_pos ne

lemma ofHash_eq {v : Option Value} {m : Fields} (h : hashOf v = some m) : ofHash m = v := by
  match v, h with
  | none, h =>
    obtain rfl := Option.some.inj h
    simp [ofHash]
  | some (.hash m' ne), h =>
    obtain rfl := Option.some.inj h
    exact dif_pos ne

/-! ## Commands -/

/-- The answer to a command. -/
inductive Reply
  | status (text : Bytes)
  | error
  | nil
  | string (s : Bytes)
  | integer (n : ℤ)
deriving DecidableEq

/-- The end of a list that a command works on. -/
inductive End
  | left
  | right
deriving DecidableEq

/-- The list with one more element. -/
def End.push (x : Bytes) (l : List Bytes) : End → List Bytes
  | .left => x :: l
  | .right => l ++ [x]

/-- The element at an end of a list, and the rest of the list. -/
def End.pop (l : List Bytes) : End → Option (Bytes × List Bytes)
  | .left => l.head?.map fun x => (x, l.tail)
  | .right => l.getLast?.map fun x => (x, l.dropLast)

inductive Command
  | get (key : Bytes)
  | set (key value : Bytes)
  | del (key : Bytes)
  | exist (key : Bytes)
  | push (side : End) (key value : Bytes)
  | pop (side : End) (key : Bytes)
  | hget (key field : Bytes)
  | hset (key field value : Bytes)
  | hdel (key field : Bytes)
  | hincrby (key field : Bytes) (increment : ℤ)
  | auth (password : Bytes)
  | publish (channel message : Bytes)
  /-- A command that Redis does not define. -/
  | unknown (argv : List Bytes)

/-- The key that a command works on. -/
def Command.key : Command → Option Bytes
  | .get key => some key
  | .set key _ => some key
  | .del key => some key
  | .exist key => some key
  | .push _ key _ => some key
  | .pop _ key => some key
  | .hget key _ => some key
  | .hset key _ _ => some key
  | .hdel key _ => some key
  | .hincrby key _ _ => some key
  | .auth _ => none
  | .publish _ _ => none
  | .unknown _ => none

/-- The answer of Redis to a `SET`. -/
def ok : Reply := .status (utf8 "OK")

/-- What a list that is not empty has at an end. -/
lemma exists_pop (side : End) {l : List Bytes} (h : l ≠ []) :
    ∃ x rest, side.pop l = some (x, rest) ∧ l = side.push x rest := by
  cases side with
  | left =>
    obtain ⟨x, rest, rfl⟩ := List.exists_cons_of_ne_nil h
    exact ⟨x, rest, rfl, rfl⟩
  | right =>
    refine ⟨l.getLast h, l.dropLast, ?_, (List.dropLast_append_getLast h).symm⟩
    rw [End.pop, List.getLast?_eq_some_getLast h, Option.map_some]

/-- The element at the left end, and the rest. -/
lemma pop_left (l : List Bytes) :
    (End.left.pop l).map Prod.fst = l.head? ∧
      ((End.left.pop l).map Prod.snd).getD [] = l.tail := by
  cases l with
  | nil => exact ⟨rfl, rfl⟩
  | cons x l => exact ⟨rfl, rfl⟩

/-- The element at the right end, and the rest. -/
lemma pop_right (l : List Bytes) :
    (End.right.pop l).map Prod.fst = l.getLast? ∧
      ((End.right.pop l).map Prod.snd).getD [] = l.dropLast := by
  by_cases h : l = []
  · rw [h]
    exact ⟨rfl, rfl⟩
  · rw [End.pop, List.getLast?_eq_some_getLast h]
    exact ⟨rfl, rfl⟩

/-- A command that reads and writes the list of a key. -/
def onList (db : Store) (key : Bytes) (f : List Bytes → Reply × List Bytes) : Reply × Store :=
  match listOf (db key) with
  | none => (.error, db)
  | some l => ((f l).1, Function.update db key (ofList (f l).2))

/-- A command that reads and writes the hash of a key. -/
def onHash (db : Store) (key : Bytes) (f : Fields → Reply × Fields) : Reply × Store :=
  match hashOf (db key) with
  | none => (.error, db)
  | some m => ((f m).1, Function.update db key (ofHash (f m).2))

/-- The 64-bit integer that the bytes write in decimal. -/
def parseInt64 (s : Bytes) : Option ℤ :=
  (Redis.parseInteger (String.ofList (s.map fun b => Char.ofNat b.toNat))).filter fun n =>
    Redis.int64Min ≤ n ∧ n ≤ Redis.int64Max

/-- The integer in a field, which is 0 when it is not there. -/
def counterOf (v : Option Bytes) : Option ℤ := v.elim (some 0) parseInt64

/-- The integer after an increment, if there is an integer and the sum fits. -/
def incremented (v : Option Bytes) (increment : ℤ) : Option ℤ :=
  ((counterOf v).map fun n => n + increment).filter fun n =>
    Redis.int64Min ≤ n ∧ n ≤ Redis.int64Max

/-- One command.  The password is the one of the server, and nobody subscribes to a channel. -/
def exec (db : Store) : Command → Reply × Store
  | .get key =>
    match db key with
    | none => (.nil, db)
    | some (.str s) => (.string s, db)
    | some _ => (.error, db)
  | .set key value => (ok, Function.update db key (some (.str value)))
  | .del key =>
    match db key with
    | none => (.integer 0, db)
    | some _ => (.integer 1, Function.update db key none)
  | .exist key =>
    match db key with
    | none => (.integer 0, db)
    | some _ => (.integer 1, db)
  | .push side key value =>
    onList db key fun l => (.integer (l.length + 1), side.push value l)
  | .pop side key =>
    onList db key fun l =>
      match side.pop l with
      | none => (.nil, l)
      | some (x, rest) => (.string x, rest)
  | .hget key field =>
    onHash db key fun m =>
      match m.lookup field with
      | none => (.nil, m)
      | some value => (.string value, m)
  | .hset key field value =>
    onHash db key fun m => (.integer (if field ∈ m then 0 else 1), m.insert field value)
  | .hdel key field =>
    onHash db key fun m => (.integer (if field ∈ m then 1 else 0), m.erase field)
  | .hincrby key field increment =>
    onHash db key fun m =>
      match incremented (m.lookup field) increment with
      | none => (.error, m)
      | some n => (.integer n, m.insert field (utf8 n.repr))
  | .auth _ => (ok, db)
  | .publish _ _ => (.integer 0, db)
  | .unknown _ => (.error, db)

/-! ## What a command reads and writes -/

section View

variable {db : Store} {key : Bytes}

lemma onList_of_none (h : listOf (db key) = none) (f : List Bytes → Reply × List Bytes) :
    onList db key f = (.error, db) := by
  rw [onList, h]

lemma onList_of_some {l : List Bytes} (h : listOf (db key) = some l)
    (f : List Bytes → Reply × List Bytes) :
    onList db key f = ((f l).1, Function.update db key (ofList (f l).2)) := by
  rw [onList, h]

lemma onHash_of_none (h : hashOf (db key) = none) (f : Fields → Reply × Fields) :
    onHash db key f = (.error, db) := by
  rw [onHash, h]

lemma onHash_of_some {m : Fields} (h : hashOf (db key) = some m) (f : Fields → Reply × Fields) :
    onHash db key f = ((f m).1, Function.update db key (ofHash (f m).2)) := by
  rw [onHash, h]

/-- A list that is written back changes nothing. -/
lemma update_ofList {l : List Bytes} (h : listOf (db key) = some l) :
    Function.update db key (ofList l) = db := by
  rw [ofList_eq h, Function.update_eq_self]

/-- A hash that is written back changes nothing. -/
lemma update_ofHash {m : Fields} (h : hashOf (db key) = some m) :
    Function.update db key (ofHash m) = db := by
  rw [ofHash_eq h, Function.update_eq_self]

/-- What a field of a hash holds. -/
def fieldOf (v : Option Value) (field : Bytes) : Option Bytes :=
  (hashOf v).bind fun m => m.lookup field

lemma fieldOf_of_some {v : Option Value} {m : Fields} (h : hashOf v = some m) (field : Bytes) :
    fieldOf v field = m.lookup field := by
  rw [fieldOf, h]
  rfl

lemma fieldOf_of_none {v : Option Value} (h : hashOf v = none) (field : Bytes) :
    fieldOf v field = none := by
  rw [fieldOf, h]
  rfl

@[simp] lemma fieldOf_ofHash (m : Fields) (field : Bytes) :
    fieldOf (ofHash m) field = m.lookup field := fieldOf_of_some (hashOf_ofHash m) field

end View

/-! ## What each command answers -/

section Answer

variable {db : Store} {key field value : Bytes} {side : End} {increment : ℤ}

lemma exec_get_of_none (h : db key = none) : exec db (.get key) = (.nil, db) := by
  rw [exec, h]

lemma exec_get {s : Bytes} (h : db key = some (.str s)) : exec db (.get key) = (.string s, db) := by
  rw [exec, h]

lemma exec_exist : exec db (.exist key) = (.integer (if (db key).isSome then 1 else 0), db) := by
  rw [exec]
  cases db key <;> rfl

lemma exec_push_of_none (h : listOf (db key) = none) :
    exec db (.push side key value) = (.error, db) := onList_of_none h _

lemma exec_push {l : List Bytes} (h : listOf (db key) = some l) :
    exec db (.push side key value) =
      (.integer (l.length + 1), Function.update db key (ofList (side.push value l))) :=
  onList_of_some h _

lemma exec_pop_of_none (h : listOf (db key) = none) :
    exec db (.pop side key) = (.error, db) := onList_of_none h _

lemma exec_pop_nil (h : listOf (db key) = some []) : exec db (.pop side key) = (.nil, db) := by
  have hpop : side.pop [] = none := by cases side <;> rfl
  rw [exec, onList_of_some h, hpop, update_ofList h]

lemma exec_pop {l rest : List Bytes} {x : Bytes} (h : listOf (db key) = some l)
    (hpop : side.pop l = some (x, rest)) :
    exec db (.pop side key) = (.string x, Function.update db key (ofList rest)) := by
  rw [exec, onList_of_some h, hpop]

lemma exec_hget {m : Fields} (h : hashOf (db key) = some m) :
    exec db (.hget key field) = ((m.lookup field).elim .nil .string, db) := by
  rw [exec, onHash_of_some h]
  cases m.lookup field <;> simp only [Option.elim, update_ofHash h]

lemma exec_hset_of_none (h : hashOf (db key) = none) :
    exec db (.hset key field value) = (.error, db) := onHash_of_none h _

lemma exec_hset {m : Fields} (h : hashOf (db key) = some m) :
    exec db (.hset key field value) =
      (.integer (if field ∈ m then 0 else 1),
        Function.update db key (ofHash (m.insert field value))) := onHash_of_some h _

/-- A field that holds the value already. -/
lemma exec_hset_self {m : Fields} (h : hashOf (db key) = some m)
    (hfield : m.lookup field = some value) :
    exec db (.hset key field value) = (.integer 0, db) := by
  have hinsert : m.insert field value = m := by
    refine Finmap.ext_lookup fun field' => ?_
    by_cases hf : field' = field
    · rw [hf, Finmap.lookup_insert, hfield]
    · rw [Finmap.lookup_insert_of_ne _ hf]
  rw [exec_hset h, hinsert, update_ofHash h, if_pos (Finmap.mem_of_lookup_eq_some hfield)]

lemma exec_hdel_of_none (h : hashOf (db key) = none) :
    exec db (.hdel key field) = (.error, db) := onHash_of_none h _

lemma exec_hdel {m : Fields} (h : hashOf (db key) = some m) :
    exec db (.hdel key field) =
      (.integer (if field ∈ m then 1 else 0), Function.update db key (ofHash (m.erase field))) :=
  onHash_of_some h _

lemma exec_hincrby_of_none (h : hashOf (db key) = none) :
    exec db (.hincrby key field increment) = (.error, db) := onHash_of_none h _

lemma exec_hincrby_refused {m : Fields} (h : hashOf (db key) = some m)
    (hsum : incremented (m.lookup field) increment = none) :
    exec db (.hincrby key field increment) = (.error, db) := by
  rw [exec, onHash_of_some h, hsum]
  simp only [update_ofHash h]

lemma exec_hincrby {m : Fields} {n : ℤ} (h : hashOf (db key) = some m)
    (hsum : incremented (m.lookup field) increment = some n) :
    exec db (.hincrby key field increment) =
      (.integer n, Function.update db key (ofHash (m.insert field (utf8 n.repr)))) := by
  rw [exec, onHash_of_some h, hsum]

lemma exec_del_of_none (h : db key = none) : exec db (.del key) = (.integer 0, db) := by
  rw [exec, h]

lemma exec_del {v : Value} (h : db key = some v) :
    exec db (.del key) = (.integer 1, Function.update db key none) := by
  rw [exec, h]

/-- The integer that a field held before an increment. -/
lemma counterOf_of_incremented {v : Option Bytes} {n : ℤ} (h : incremented v increment = some n) :
    ∃ k, counterOf v = some k ∧ n = k + increment := by
  obtain ⟨hsum, -⟩ := Option.filter_eq_some_iff.1 h
  obtain ⟨k, hk, rfl⟩ := Option.map_eq_some_iff.1 hsum
  exact ⟨k, hk, rfl⟩

end Answer

/-! ## Frames -/

section Frame

variable {db : Store} {key key' : Bytes}

lemma onList_of_ne (h : key' ≠ key) (f : List Bytes → Reply × List Bytes) :
    (onList db key f).2 key' = db key' := by
  cases hl : listOf (db key) with
  | none => rw [onList_of_none hl]
  | some l =>
    rw [onList_of_some hl]
    exact Function.update_of_ne h ..

lemma onHash_of_ne (h : key' ≠ key) (f : Fields → Reply × Fields) :
    (onHash db key f).2 key' = db key' := by
  cases hm : hashOf (db key) with
  | none => rw [onHash_of_none hm]
  | some m =>
    rw [onHash_of_some hm]
    exact Function.update_of_ne h ..

/-- A field that a command on the hash of a key leaves alone, at any key. -/
lemma fieldOf_onHash {f : Fields → Reply × Fields} {field : Bytes}
    (h : key' = key → ∀ m, (f m).2.lookup field = m.lookup field) :
    fieldOf ((onHash db key f).2 key') field = fieldOf (db key') field := by
  by_cases hkey : key' = key
  · subst hkey
    cases hm : hashOf (db key') with
    | none => rw [onHash_of_none hm]
    | some m =>
      rw [onHash_of_some hm]
      simp only [Function.update_self, fieldOf_ofHash, fieldOf_of_some hm, h rfl]
  · rw [onHash_of_ne hkey]

/-- **The frame of a command**: every other key is left alone. -/
theorem exec_of_ne {c : Command} (h : c.key ≠ some key) : (exec db c).2 key = db key := by
  have hne : ∀ key', c.key = some key' → key ≠ key' :=
    fun key' hc heq => h (hc.trans (congrArg some heq.symm))
  cases c with
  | get key' =>
    rw [exec]
    rcases db key' with _ | _ | _ | _ <;> rfl
  | set key' value => exact Function.update_of_ne (hne key' rfl) ..
  | del key' =>
    cases hv : db key' with
    | none => rw [exec_del_of_none hv]
    | some v =>
      rw [exec_del hv]
      exact Function.update_of_ne (hne key' rfl) ..
  | exist key' =>
    rw [exec]
    cases db key' <;> rfl
  | push side key' value => exact onList_of_ne (hne key' rfl) _
  | pop side key' => exact onList_of_ne (hne key' rfl) _
  | hget key' field => exact onHash_of_ne (hne key' rfl) _
  | hset key' field value => exact onHash_of_ne (hne key' rfl) _
  | hdel key' field => exact onHash_of_ne (hne key' rfl) _
  | hincrby key' field increment => exact onHash_of_ne (hne key' rfl) _
  | auth password => rfl
  | publish channel message => rfl
  | unknown argv => rfl

end Frame

end RedisData
