/-
# Keys that expire

A store in which a key holds a value and, once it was given one, the number of seconds that it
has left.  Storing a value takes the number away, as `SET` does; `EXPIRE` gives a key that is
there a new one.  An entry without such a number stays for good.
-/
import Mathlib.Data.Int.Basic
import Mathlib.Logic.Function.Basic

namespace Expiring

variable {K V : Type*}

/-- A value, and the seconds that it has left. -/
structure Entry (V : Type*) where
  value : V
  ttl : Option ℕ
deriving DecidableEq

/-- The keys of a database. -/
abbrev Store (K V : Type*) := K → Option (Entry V)

/-- `GET`. -/
def get (db : Store K V) (key : K) : Option V := (db key).map Entry.value

/-- `SET`, which leaves the key without a time to live. -/
def set [DecidableEq K] (db : Store K V) (key : K) (value : V) : Store K V :=
  Function.update db key (some ⟨value, none⟩)

/-- `EXPIRE` with a positive number of seconds; a key that is not there stays so. -/
def expire [DecidableEq K] (db : Store K V) (key : K) (seconds : ℕ) : Store K V :=
  Function.update db key ((db key).map fun entry => { entry with ttl := some seconds })

/-- An entry after a second; one whose time is over is gone. -/
def Entry.age (entry : Entry V) : Option (Entry V) :=
  match entry.ttl with
  | none => some entry
  | some n => if n ≤ 1 then none else some { entry with ttl := some (n - 1) }

/-- A second passes. -/
def tick (db : Store K V) : Store K V := fun key => (db key).bind Entry.age

/-! ## What a key holds -/

section Get

variable {db : Store K V} {key key' : K} {value : V} {seconds : ℕ}

lemma get_eq_none_iff : get db key = none ↔ db key = none := Option.map_eq_none_iff

lemma get_set [DecidableEq K] :
    get (set db key value) key' = if key' = key then some value else get db key' := by
  by_cases hkey : key' = key
  · subst hkey
    simp [get, set]
  · simp [get, set, hkey]

@[simp] lemma get_expire [DecidableEq K] : get (expire db key seconds) key' = get db key' := by
  by_cases hkey : key' = key
  · subst hkey
    simp [get, expire, Function.comp_def]
  · simp [get, expire, hkey]

/-- An entry that is there after a second was there before. -/
lemma tick_eq_some {entry : Entry V} (h : tick db key = some entry) :
    ∃ entry', db key = some entry' ∧ entry'.age = some entry :=
  Option.bind_eq_some_iff.1 h

lemma Entry.value_age {entry entry' : Entry V} (h : entry.age = some entry') :
    entry'.value = entry.value := by
  simp only [age] at h
  split at h
  · obtain rfl := Option.some.inj h
    rfl
  · split_ifs at h
    obtain rfl := Option.some.inj h
    rfl

/-- A key that is still there holds what it held. -/
lemma get_tick (h : db key ≠ none → tick db key ≠ none) : get (tick db) key = get db key := by
  cases hentry : tick db key with
  | none =>
    have hnone : db key = none := by
      by_contra hne
      exact h hne hentry
    rw [get, get, hentry, hnone]
  | some entry =>
    obtain ⟨entry', hentry', hage⟩ := tick_eq_some hentry
    rw [get, get, hentry, hentry', Option.map_some, Option.map_some, Entry.value_age hage]

end Get

/-! ## Bounded times to live -/

/-- An entry that expires within a number of seconds. -/
def Entry.Within (limit : ℕ) (entry : Entry V) : Prop := ∃ n, entry.ttl = some n ∧ n ≤ limit

/-- No entry has more seconds left than the limit, if it has a time to live at all. -/
def Limited (limit : ℕ) (db : Store K V) : Prop :=
  ∀ key entry n, db key = some entry → entry.ttl = some n → n ≤ limit

section Limited

variable {db : Store K V} {limit : ℕ} {key : K} {value : V} {entry : Entry V}

lemma Limited.within_iff (h : Limited limit db) (hentry : db key = some entry) :
    entry.Within limit ↔ entry.ttl ≠ none := by
  constructor
  · rintro ⟨n, hn, -⟩
    simp [hn]
  · intro hne
    obtain ⟨n, hn⟩ := Option.ne_none_iff_exists'.1 hne
    exact ⟨n, hn, h key entry n hentry hn⟩

lemma limited_empty : Limited limit (fun _ => none : Store K V) := fun _ _ _ hentry =>
  nomatch hentry

lemma Limited.set [DecidableEq K] (h : Limited limit db) : Limited limit (set db key value) := by
  intro key' entry n hentry hn
  rw [Expiring.set, Function.update_apply] at hentry
  split_ifs at hentry
  · obtain rfl := Option.some.inj hentry
    cases hn
  · exact h key' entry n hentry hn

lemma Limited.expire [DecidableEq K] (h : Limited limit db) :
    Limited limit (expire db key limit) := by
  intro key' entry n hentry hn
  rw [Expiring.expire, Function.update_apply] at hentry
  split_ifs at hentry
  · obtain ⟨entry', -, rfl⟩ := Option.map_eq_some_iff.1 hentry
    exact Nat.le_of_eq (Option.some.inj hn).symm
  · exact h key' entry n hentry hn

lemma Entry.Within.age {entry' : Entry V} (h : entry.Within limit)
    (hage : entry.age = some entry') : entry'.Within limit := by
  obtain ⟨n, hn, hle⟩ := h
  simp only [Entry.age, hn] at hage
  split_ifs at hage
  obtain rfl := Option.some.inj hage
  exact ⟨n - 1, rfl, by omega⟩

/-- An entry without a time to live keeps none. -/
lemma Entry.ttl_age {entry' : Entry V} (h : entry.ttl = none) (hage : entry.age = some entry') :
    entry' = entry := by
  simp only [Entry.age, h] at hage
  exact (Option.some.inj hage).symm

lemma Limited.tick (h : Limited limit db) : Limited limit (tick db) := by
  intro key' entry n hentry hn
  obtain ⟨entry', hentry', hage⟩ := tick_eq_some hentry
  cases hn' : entry'.ttl with
  | none =>
    obtain rfl := Entry.ttl_age hn' hage
    exact absurd (hn'.symm.trans hn) (by simp)
  | some m =>
    have hwithin : entry'.Within limit := ⟨m, hn', h key' entry' m hentry' hn'⟩
    obtain ⟨k, hk, hle⟩ := hwithin.age hage
    obtain rfl := Option.some.inj (hk.symm.trans hn)
    exact hle

end Limited

end Expiring
