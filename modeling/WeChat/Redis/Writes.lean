/-
# What a write of `RedisMgr` reports

Each writing operation turns the reply of Redis into a `bool`.  `hSet` takes the reply of
`HSET`, which counts the fields that are new, for the outcome of the write: a field that is
there is overwritten, the reply is zero, and the operation says `false`.  The others are
honest, as long as no zero byte cuts a key, a field or a value.
-/
import WeChat.Redis.RedisMgr

namespace WeChat

namespace RedisMgr

open Wire RedisData

/-- A call of a writing operation. -/
inductive Write
  | set (key value : Bytes)
  | lPush (key value : Bytes)
  | rPush (key value : Bytes)
  | lPop (key : Bytes)
  | rPop (key : Bytes)
  | del (key : Bytes)
  | hSet (key field value : Bytes)
  | hSetChars (key field value : Bytes)
  | hIncrBy (key field : Bytes) (increment : Int64)
  | hDecrBy (key field : Bytes) (decrement : Int64)
  | hDel (key field : Bytes)

/-- The `bool` that a call returns, and the data after it. -/
def outcome {α : Type} (p : Program (Option α)) (db : Store) : Bool × Store :=
  ((p.eval db).1.isSome, (p.eval db).2)

namespace Write

/-- The call, executed by Redis. -/
def call (db : Store) : Write → Bool × Store
  | set key value => outcome (RedisMgr.set key value) db
  | lPush key value => outcome (RedisMgr.lPush key value) db
  | rPush key value => outcome (RedisMgr.rPush key value) db
  | lPop key => outcome (RedisMgr.lPop key) db
  | rPop key => outcome (RedisMgr.rPop key) db
  | del key => outcome (RedisMgr.del key) db
  | hSet key field value => outcome (RedisMgr.hSet key field value) db
  | hSetChars key field value => outcome (RedisMgr.hSetChars key field value) db
  | hIncrBy key field increment => outcome (RedisMgr.hIncrBy key field increment) db
  | hDecrBy key field decrement => outcome (RedisMgr.hDecrBy key field decrement) db
  | hDel key field => outcome (RedisMgr.hDel key field) db

/-- What the operation promises of the key, or the field, that it is given.  The C strings of
`hSetChars` end at their first zero byte. -/
def Promise (before after : Store) : Write → Prop
  | set key value => after key = some (.str value)
  | lPush key value =>
    ∃ l, listOf (before key) = some l ∧ listOf (after key) = some (value :: l)
  | rPush key value =>
    ∃ l, listOf (before key) = some l ∧ listOf (after key) = some (l ++ [value])
  | lPop key => ∃ x l, listOf (before key) = some (x :: l) ∧ listOf (after key) = some l
  | rPop key => ∃ x l, listOf (before key) = some (l ++ [x]) ∧ listOf (after key) = some l
  | del key => after key = none
  | hSet key field value => fieldOf (after key) field = some value
  | hSetChars key field value => fieldOf (after (cstr key)) (cstr field) = some value
  | hIncrBy key field increment =>
    ∃ n, counterOf (fieldOf (before key) field) = some n ∧
      fieldOf (after key) field = some (utf8 (n + increment.toInt).repr)
  | hDecrBy key field decrement =>
    ∃ n, counterOf (fieldOf (before key) field) = some n ∧
      fieldOf (after key) field = some (utf8 (n - decrement.toInt).repr)
  | hDel key field => fieldOf (after key) field = none

/-- The operation is an overload of `hSet`. -/
def IsHSet : Write → Prop
  | hSet _ _ _ => True
  | hSetChars _ _ _ => True
  | _ => False

/-- `false` says that nothing has changed, and `true` that the promise is kept; an `hSet` says
`true` whenever the field then holds the value. -/
structure Honest (db : Store) (w : Write) : Prop where
  unchanged : (w.call db).1 = false → (w.call db).2 = db
  kept : (w.call db).1 = true → w.Promise db (w.call db).2
  said : w.IsHSet → w.Promise db (w.call db).2 → (w.call db).1 = true

/-! ## When it is honest -/

/-- No zero byte cuts the key, or the field. -/
def Named : Write → Prop
  | set key _ => Intact key
  | lPush key _ => Intact key
  | rPush key _ => Intact key
  | lPop key => Intact key
  | rPop key => Intact key
  | del key => Intact key
  | hSet key field _ => Intact key ∧ Intact field
  | hSetChars _ _ _ => True
  | hIncrBy key field _ => Intact key ∧ Intact field
  | hDecrBy key field _ => Intact key ∧ Intact field
  | hDel key field => Intact key ∧ Intact field

/-- No zero byte cuts the value. -/
def ValueIntact : Write → Prop
  | set _ value => Intact value
  | lPush _ value => Intact value
  | rPush _ value => Intact value
  | hSet _ _ value => Intact value
  | _ => True

/-- The command has nothing to do at the key, or the field, that it reaches: the key holds
another type, there is nothing to remove, or the field is no integer that can be incremented.
For an `hSet`, the field may also hold the value that is written, if it is not the one that is
meant. -/
def Idle (db : Store) : Write → Prop
  | set _ _ => False
  | lPush key _ => listOf (db (cstr key)) = none
  | rPush key _ => listOf (db (cstr key)) = none
  | lPop key => listOf (db (cstr key)) = none ∨ listOf (db (cstr key)) = some []
  | rPop key => listOf (db (cstr key)) = none ∨ listOf (db (cstr key)) = some []
  | del key => db (cstr key) = none
  | hSet key field value =>
    (hashOf (db (cstr key)) = none ∨
        fieldOf (db (cstr key)) (cstr field) = some (cstr value)) ∧
      fieldOf (db key) field ≠ some value
  | hSetChars key _ _ => hashOf (db (cstr key)) = none
  | hIncrBy key field increment =>
    hashOf (db (cstr key)) = none ∨
      incremented (fieldOf (db (cstr key)) (cstr field)) increment.toInt = none
  | hDecrBy _ _ _ => True
  | hDel key _ => hashOf (db (cstr key)) = none

/-- An `hSet` reaches a field that is not there. -/
def Fresh (db : Store) : Write → Prop
  | hSet key field _ =>
    hashOf (db (cstr key)) ≠ none ∧ fieldOf (db (cstr key)) (cstr field) = none
  | hSetChars key field _ =>
    hashOf (db (cstr key)) ≠ none ∧ fieldOf (db (cstr key)) (cstr field) = none
  | _ => True

/-- The command has nothing to do, or it does what is meant: the key, the field and the value
are whole, or what is meant is there already.  An `hSet` has a new field to add. -/
def Meets (db : Store) (w : Write) : Prop :=
  w.Idle db ∨ w.Fresh db ∧ (w.Named ∧ w.ValueIntact ∨ ¬ w.Named ∧ w.Promise db db)

/-! ## What the calls report -/

variable {db : Store} {w : Write}

/-- A command that has nothing to do is reported as failed, and has changed nothing. -/
lemma call_of_idle (h : w.Idle db) : w.call db = (false, db) := by
  cases w with
  | set key value => cases h
  | lPush key value =>
    simp only [call, outcome, RedisMgr.lPush, Program.eval_operation, exec_push_of_none h]
    rfl
  | rPush key value =>
    simp only [call, outcome, RedisMgr.rPush, Program.eval_operation, exec_push_of_none h]
    rfl
  | lPop key =>
    simp only [call, outcome, RedisMgr.lPop, Program.eval_operation]
    rcases h with h | h
    · rw [exec_pop_of_none h]
      rfl
    · rw [exec_pop_nil h]
      rfl
  | rPop key =>
    simp only [call, outcome, RedisMgr.rPop, Program.eval_operation]
    rcases h with h | h
    · rw [exec_pop_of_none h]
      rfl
    · rw [exec_pop_nil h]
      rfl
  | del key =>
    simp only [call, outcome, RedisMgr.del, Program.eval_operation, exec_del_of_none h]
    rfl
  | hSet key field value =>
    simp only [call, outcome, RedisMgr.hSet, Program.eval_operation]
    obtain ⟨h | h, -⟩ := h
    · rw [exec_hset_of_none h]
      rfl
    · -- the field holds what is written, and `HSET` answers with zero
      obtain ⟨m, hm, hlookup⟩ := Option.bind_eq_some_iff.1 h
      rw [exec_hset_self hm hlookup]
      rfl
  | hSetChars key field value =>
    simp only [call, outcome, RedisMgr.hSetChars, Program.eval_operation, exec_hset_of_none h]
    rfl
  | hIncrBy key field increment =>
    simp only [call, outcome, RedisMgr.hIncrBy, Program.eval_operation]
    cases hm : hashOf (db (cstr key)) with
    | none =>
      rw [exec_hincrby_of_none hm]
      rfl
    | some m =>
      rcases h with h | h
      · rw [hm] at h
        cases h
      · rw [fieldOf_of_some hm] at h
        rw [exec_hincrby_refused hm h]
        rfl
  | hDecrBy key field decrement => rfl
  | hDel key field =>
    simp only [call, outcome, RedisMgr.hDel, Program.eval_operation, exec_hdel_of_none h]
    rfl

/-- Every other command is reported as done; an `hSet` must have a new field to add. -/
lemma call_fst_of_fresh (h : ¬ w.Idle db) (hfresh : w.Fresh db) : (w.call db).1 = true := by
  cases w with
  | set key value => rfl
  | lPush key value =>
    obtain ⟨l, hl⟩ := Option.ne_none_iff_exists'.1 h
    simp only [call, outcome, RedisMgr.lPush, Program.eval_operation, exec_push hl,
      positiveReply, if_pos (show (0 : ℤ) < (l.length : ℤ) + 1 by omega), Option.isSome_some]
  | rPush key value =>
    obtain ⟨l, hl⟩ := Option.ne_none_iff_exists'.1 h
    simp only [call, outcome, RedisMgr.rPush, Program.eval_operation, exec_push hl,
      positiveReply, if_pos (show (0 : ℤ) < (l.length : ℤ) + 1 by omega), Option.isSome_some]
  | lPop key =>
    obtain ⟨hlist, hnil⟩ := not_or.1 h
    obtain ⟨l, hl⟩ := Option.ne_none_iff_exists'.1 hlist
    obtain ⟨x, rest, hpop, -⟩ := exists_pop .left fun hl0 => hnil (hl0 ▸ hl)
    simp only [call, outcome, RedisMgr.lPop, Program.eval_operation, exec_pop hl hpop]
    rfl
  | rPop key =>
    obtain ⟨hlist, hnil⟩ := not_or.1 h
    obtain ⟨l, hl⟩ := Option.ne_none_iff_exists'.1 hlist
    obtain ⟨x, rest, hpop, -⟩ := exists_pop .right fun hl0 => hnil (hl0 ▸ hl)
    simp only [call, outcome, RedisMgr.rPop, Program.eval_operation, exec_pop hl hpop]
    rfl
  | del key =>
    obtain ⟨v, hv⟩ := Option.ne_none_iff_exists'.1 h
    simp only [call, outcome, RedisMgr.del, Program.eval_operation, exec_del hv]
    rfl
  | hSet key field value =>
    obtain ⟨hhash, hfield⟩ := hfresh
    obtain ⟨m, hm⟩ := Option.ne_none_iff_exists'.1 hhash
    rw [fieldOf_of_some hm, Finmap.lookup_eq_none] at hfield
    simp only [call, outcome, RedisMgr.hSet, Program.eval_operation, exec_hset hm, if_neg hfield]
    rfl
  | hSetChars key field value =>
    obtain ⟨hhash, hfield⟩ := hfresh
    obtain ⟨m, hm⟩ := Option.ne_none_iff_exists'.1 hhash
    rw [fieldOf_of_some hm, Finmap.lookup_eq_none] at hfield
    simp only [call, outcome, RedisMgr.hSetChars, Program.eval_operation, exec_hset hm,
      if_neg hfield]
    rfl
  | hIncrBy key field increment =>
    obtain ⟨hhash, hsum⟩ := not_or.1 h
    obtain ⟨m, hm⟩ := Option.ne_none_iff_exists'.1 hhash
    rw [fieldOf_of_some hm] at hsum
    obtain ⟨n, hn⟩ := Option.ne_none_iff_exists'.1 hsum
    simp only [call, outcome, RedisMgr.hIncrBy, Program.eval_operation, exec_hincrby hm hn]
    rfl
  | hDecrBy key field decrement => exact absurd trivial h
  | hDel key field =>
    obtain ⟨m, hm⟩ := Option.ne_none_iff_exists'.1 h
    simp only [call, outcome, RedisMgr.hDel, Program.eval_operation, exec_hdel hm]
    rfl

/-! ## What the calls leave behind -/

/-- Where nothing is cut, a command that is done keeps its promise, up to a value that is cut. -/
lemma promise_iff_of_named (h : ¬ w.Idle db) (hfresh : w.Fresh db) (hnamed : w.Named) :
    w.Promise db (w.call db).2 ↔ w.ValueIntact := by
  cases w with
  | set key value =>
    rw [ValueIntact, ← cstr_eq_self_iff]
    simp only [Promise, call, outcome, RedisMgr.set, Program.eval_operation, exec,
      Intact.cstr_eq hnamed, Function.update_self, Option.some.injEq, Value.str.injEq]
  | lPush key value =>
    obtain ⟨l, hl⟩ := Option.ne_none_iff_exists'.1 h
    have hkey : cstr key = key := Intact.cstr_eq hnamed
    rw [ValueIntact, ← cstr_eq_self_iff]
    simp only [Promise, call, outcome, RedisMgr.lPush, Program.eval_operation, exec_push hl]
    rw [hkey] at hl ⊢
    simp [hl, End.push]
  | rPush key value =>
    obtain ⟨l, hl⟩ := Option.ne_none_iff_exists'.1 h
    have hkey : cstr key = key := Intact.cstr_eq hnamed
    rw [ValueIntact, ← cstr_eq_self_iff]
    simp only [Promise, call, outcome, RedisMgr.rPush, Program.eval_operation, exec_push hl]
    rw [hkey] at hl ⊢
    simp [hl, End.push]
  | lPop key =>
    obtain ⟨hlist, hnil⟩ := not_or.1 h
    obtain ⟨l, hl⟩ := Option.ne_none_iff_exists'.1 hlist
    obtain ⟨x, rest, hpop, rfl⟩ := exists_pop .left fun hl0 => hnil (hl0 ▸ hl)
    have hkey : cstr key = key := Intact.cstr_eq hnamed
    refine iff_of_true ⟨x, rest, hkey ▸ hl, ?_⟩ trivial
    simp only [call, outcome, RedisMgr.lPop, Program.eval_operation, exec_pop hl hpop]
    rw [hkey, Function.update_self, listOf_ofList]
  | rPop key =>
    obtain ⟨hlist, hnil⟩ := not_or.1 h
    obtain ⟨l, hl⟩ := Option.ne_none_iff_exists'.1 hlist
    obtain ⟨x, rest, hpop, rfl⟩ := exists_pop .right fun hl0 => hnil (hl0 ▸ hl)
    have hkey : cstr key = key := Intact.cstr_eq hnamed
    refine iff_of_true ⟨x, rest, hkey ▸ hl, ?_⟩ trivial
    simp only [call, outcome, RedisMgr.rPop, Program.eval_operation, exec_pop hl hpop]
    rw [hkey, Function.update_self, listOf_ofList]
  | del key =>
    obtain ⟨v, hv⟩ := Option.ne_none_iff_exists'.1 h
    refine iff_of_true ?_ trivial
    simp only [Promise, call, outcome, RedisMgr.del, Program.eval_operation, exec_del hv]
    rw [Intact.cstr_eq hnamed, Function.update_self]
  | hSet key field value =>
    obtain ⟨m, hm⟩ := Option.ne_none_iff_exists'.1 hfresh.1
    rw [ValueIntact, ← cstr_eq_self_iff]
    simp only [Promise, call, outcome, RedisMgr.hSet, Program.eval_operation, exec_hset hm]
    rw [Intact.cstr_eq hnamed.1, Intact.cstr_eq hnamed.2, Function.update_self, fieldOf_ofHash,
      Finmap.lookup_insert, Option.some.injEq]
  | hSetChars key field value =>
    obtain ⟨m, hm⟩ := Option.ne_none_iff_exists'.1 hfresh.1
    refine iff_of_true ?_ trivial
    simp only [Promise, call, outcome, RedisMgr.hSetChars, Program.eval_operation, exec_hset hm,
      Function.update_self, fieldOf_ofHash, Finmap.lookup_insert]
  | hIncrBy key field increment =>
    obtain ⟨hhash, hsum⟩ := not_or.1 h
    obtain ⟨m, hm⟩ := Option.ne_none_iff_exists'.1 hhash
    rw [fieldOf_of_some hm] at hsum
    obtain ⟨n, hn⟩ := Option.ne_none_iff_exists'.1 hsum
    obtain ⟨k, hk, rfl⟩ := counterOf_of_incremented hn
    have hkey : cstr key = key := Intact.cstr_eq hnamed.1
    have hfield : cstr field = field := Intact.cstr_eq hnamed.2
    refine iff_of_true ⟨k, ?_, ?_⟩ trivial
    · rw [← hkey, fieldOf_of_some hm, ← hfield, hk]
    · simp only [call, outcome, RedisMgr.hIncrBy, Program.eval_operation, exec_hincrby hm hn]
      rw [hkey, hfield, Function.update_self, fieldOf_ofHash, Finmap.lookup_insert]
  | hDecrBy key field decrement => exact absurd trivial h
  | hDel key field =>
    obtain ⟨m, hm⟩ := Option.ne_none_iff_exists'.1 h
    refine iff_of_true ?_ trivial
    simp only [Promise, call, outcome, RedisMgr.hDel, Program.eval_operation, exec_hdel hm]
    rw [Intact.cstr_eq hnamed.1, Intact.cstr_eq hnamed.2, Function.update_self, fieldOf_ofHash,
      Finmap.lookup_erase]

section Cut

variable {key field : Bytes}

lemma ne_cstr (h : ¬ Intact key) : key ≠ cstr key := fun heq => h (cstr_eq_self_iff.1 heq.symm)

/-- The key that is named is not the one that a command reaches. -/
lemma exec_of_cut (h : ¬ Intact key) {c : RedisData.Command} (hc : c.key = some (cstr key)) :
    (exec db c).2 key = db key := by
  refine exec_of_ne fun heq => ne_cstr h ?_
  exact Option.some.inj (heq.symm.trans hc)

/-- The field that is named is not the one that is written. -/
lemma fieldOf_of_cut (h : ¬ (Intact key ∧ Intact field)) {f : Fields → RedisData.Reply × Fields}
    (hf : ∀ m, field ≠ cstr field → (f m).2.lookup field = m.lookup field) :
    fieldOf ((onHash db (cstr key) f).2 key) field = fieldOf (db key) field := by
  refine fieldOf_onHash fun hkey m => hf m ?_
  exact ne_cstr fun hfield => h ⟨cstr_eq_self_iff.1 hkey.symm, hfield⟩

end Cut

/-- Where the key or the field is cut, what is named stays as it was. -/
lemma promise_iff_of_not_named (h : ¬ w.Named) :
    w.Promise db (w.call db).2 ↔ w.Promise db db := by
  cases w with
  | set key value =>
    have hkey : (exec db (.set (cstr key) (cstr value))).2 key = db key := exec_of_cut h rfl
    simp only [Promise, call, outcome, RedisMgr.set, Program.eval_operation, hkey]
  | lPush key value =>
    have hkey : (exec db (.push .left (cstr key) (cstr value))).2 key = db key := exec_of_cut h rfl
    simp only [Promise, call, outcome, RedisMgr.lPush, Program.eval_operation, hkey]
  | rPush key value =>
    have hkey : (exec db (.push .right (cstr key) (cstr value))).2 key = db key := exec_of_cut h rfl
    simp only [Promise, call, outcome, RedisMgr.rPush, Program.eval_operation, hkey]
  | lPop key =>
    have hkey : (exec db (.pop .left (cstr key))).2 key = db key := exec_of_cut h rfl
    simp only [Promise, call, outcome, RedisMgr.lPop, Program.eval_operation, hkey]
  | rPop key =>
    have hkey : (exec db (.pop .right (cstr key))).2 key = db key := exec_of_cut h rfl
    simp only [Promise, call, outcome, RedisMgr.rPop, Program.eval_operation, hkey]
  | del key =>
    have hkey : (exec db (.del (cstr key))).2 key = db key := exec_of_cut h rfl
    simp only [Promise, call, outcome, RedisMgr.del, Program.eval_operation, hkey]
  | hSet key field value =>
    have hfield : fieldOf ((exec db (.hset (cstr key) (cstr field) (cstr value))).2 key) field =
        fieldOf (db key) field :=
      fieldOf_of_cut h fun m hne => Finmap.lookup_insert_of_ne m hne
    simp only [Promise, call, outcome, RedisMgr.hSet, Program.eval_operation, hfield]
  | hSetChars key field value => exact absurd trivial h
  | hIncrBy key field increment =>
    have hfield : fieldOf
        ((exec db (.hincrby (cstr key) (cstr field) increment.toInt)).2 key) field =
          fieldOf (db key) field := by
      refine fieldOf_of_cut h fun m hne => ?_
      cases incremented (m.lookup (cstr field)) increment.toInt with
      | none => rfl
      | some n => exact Finmap.lookup_insert_of_ne m hne
    simp only [Promise, call, outcome, RedisMgr.hIncrBy, Program.eval_operation, hfield]
  | hDecrBy key field decrement => rfl
  | hDel key field =>
    have hfield : fieldOf ((exec db (.hdel (cstr key) (cstr field))).2 key) field =
        fieldOf (db key) field :=
      fieldOf_of_cut h fun m hne => Finmap.lookup_erase_ne hne
    simp only [Promise, call, outcome, RedisMgr.hDel, Program.eval_operation, hfield]

/-- An `hSet` that has nothing to do has not left the value in the field that is meant. -/
lemma not_promise_of_idle (h : w.Idle db) (hset : w.IsHSet) : ¬ w.Promise db db := by
  cases w with
  | hSet key field value => exact h.2
  | hSetChars key field value =>
    rw [Promise, fieldOf_of_none h]
    nofun
  | _ => cases hset

/-- `HSET` of a field that is there is reported as failed, and the field is overwritten. -/
lemma outcome_hset_of_mem (key : Bytes) {field value : Bytes} {m : Fields}
    (hm : hashOf (db key) = some m) (hfield : field ∈ m) :
    outcome (operation (.hset key field value) positiveReply) db =
      (false, Function.update db key (ofHash (m.insert field value))) := by
  simp only [outcome, Program.eval_operation, exec_hset hm, if_pos hfield]
  rfl

/-- An `hSet` that has neither a new field to add nor nothing to do is not honest. -/
lemma not_honest_of_not_fresh (h : ¬ w.Idle db) (hfresh : ¬ w.Fresh db) : ¬ w.Honest db := by
  intro honest
  cases w with
  | hSet key field value =>
    by_cases hwritten : hashOf (db (cstr key)) = none ∨
        fieldOf (db (cstr key)) (cstr field) = some (cstr value)
    · -- nothing is changed, but what is meant is there already
      have hmeant : fieldOf (db key) field = some value := by
        by_contra hne
        exact h ⟨hwritten, hne⟩
      have hcall : (hSet key field value).call db = (false, db) := by
        simp only [call, outcome, RedisMgr.hSet, Program.eval_operation]
        rcases hwritten with hnone | hsame
        · rw [exec_hset_of_none hnone]
          rfl
        · obtain ⟨m, hm, hlookup⟩ := Option.bind_eq_some_iff.1 hsame
          rw [exec_hset_self hm hlookup]
          rfl
      have hsaid := honest.said trivial
      rw [hcall] at hsaid
      cases hsaid hmeant
    · obtain ⟨hhash, hne⟩ := not_or.1 hwritten
      obtain ⟨m, hm⟩ := Option.ne_none_iff_exists'.1 hhash
      have hmem : cstr field ∈ m := by
        by_contra hnot
        exact hfresh ⟨hhash, by rw [fieldOf_of_some hm, Finmap.lookup_eq_none.2 hnot]⟩
      have hcall : (hSet key field value).call db = _ := outcome_hset_of_mem _ hm hmem
      have hsame := honest.unchanged (by rw [hcall])
      rw [hcall] at hsame
      -- the field holds what has been written, so the data are not the same
      refine hne ?_
      rw [← hsame]
      simp only [Function.update_self, fieldOf_ofHash, Finmap.lookup_insert]
  | hSetChars key field value =>
    obtain ⟨m, hm⟩ := Option.ne_none_iff_exists'.1 h
    have hmem : cstr field ∈ m := by
      by_contra hnot
      exact hfresh ⟨h, by rw [fieldOf_of_some hm, Finmap.lookup_eq_none.2 hnot]⟩
    have hcall : (hSetChars key field value).call db = _ := outcome_hset_of_mem _ hm hmem
    have hsaid := honest.said trivial
    rw [hcall] at hsaid
    refine Bool.false_ne_true (hsaid ?_)
    simp only [Promise, Function.update_self, fieldOf_ofHash, Finmap.lookup_insert]
  | _ => exact hfresh trivial

/-- **A failed write changed nothing, and a write that is reported has been done, exactly when
the command has nothing to do, or no zero byte cuts its arguments and, for an `hSet`, the field
is not there.**  Where a zero byte cuts the key or the field, what is promised may also be there
already. -/
theorem honest_iff_meets (db : Store) (w : Write) : w.Honest db ↔ w.Meets db := by
  by_cases hidle : w.Idle db
  · have hcall := call_of_idle hidle
    refine iff_of_true ⟨fun _ => by rw [hcall], fun h => ?_, fun hset h => ?_⟩ (.inl hidle)
    · rw [hcall] at h
      cases h
    · rw [hcall] at h
      exact absurd h (not_promise_of_idle hidle hset)
  · by_cases hfresh : w.Fresh db
    · have htrue := call_fst_of_fresh hidle hfresh
      have hkept : w.Honest db ↔ w.Promise db (w.call db).2 := by
        refine ⟨fun honest => honest.kept htrue, fun h => ⟨fun hfalse => ?_, fun _ => h, ?_⟩⟩
        · rw [htrue] at hfalse
          cases hfalse
        · exact fun _ _ => htrue
      rw [hkept, Meets, or_iff_right hidle, and_iff_right hfresh]
      by_cases hnamed : w.Named
      · rw [promise_iff_of_named hidle hfresh hnamed]
        simp only [hnamed, true_and, not_true, false_and, or_false]
      · rw [promise_iff_of_not_named hnamed]
        simp only [hnamed, false_and, not_false_eq_true, true_and, false_or]
    · refine iff_of_false (not_honest_of_not_fresh hidle hfresh) ?_
      rintro (h | ⟨h, -⟩)
      · exact hidle h
      · exact hfresh h

/-- Arguments without a zero byte are honest in every operation but `hSet`. -/
theorem honest_of_intact (db : Store) {w : Write} (hset : ¬ w.IsHSet) (hnamed : w.Named)
    (hvalue : w.ValueIntact) : w.Honest db := by
  refine (honest_iff_meets db w).2 (.inr ⟨?_, .inl ⟨hnamed, hvalue⟩⟩)
  cases w with
  | hSet key field value => exact absurd trivial hset
  | hSetChars key field value => exact absurd trivial hset
  | _ => trivial

/-- The only key is `k`, a hash whose field `f` holds `1`. -/
def oneField : Store :=
  Function.update (fun _ => none) [107] (ofHash (Finmap.singleton [102] [49]))

/-- `hSet` overwrites the field with `2`. -/
theorem not_honest_hSet : ¬ ∀ (db : Store) (w : Write), w.Honest db := by
  intro h
  have hm : hashOf (oneField [107]) = some (Finmap.singleton [102] [49]) := by
    rw [oneField, Function.update_self, hashOf_ofHash]
  have hmem : ([102] : Bytes) ∈ (Finmap.singleton [102] [49] : Fields) :=
    (Finmap.mem_singleton _ _ _).2 rfl
  have hcall : Write.call oneField (.hSet [107] [102] [50]) = _ :=
    outcome_hset_of_mem [107] hm hmem
  have hsaid := (h oneField (.hSet [107] [102] [50])).said trivial
  rw [hcall] at hsaid
  refine Bool.false_ne_true (hsaid ?_)
  have hfield : cstr [102] = [102] := by decide
  have hvalue : cstr [50] = [50] := by decide
  simp only [Promise, Function.update_self, fieldOf_ofHash, hfield, hvalue, Finmap.lookup_insert]

end Write

end RedisMgr

end WeChat
