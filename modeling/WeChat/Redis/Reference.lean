/-
# `RedisMgr` as a store

Calls that set, push, pop, read and delete are compared with a reference model, which has a
string, a deque and a map under every full key.  The wrappers cut keys, fields and values at
their first zero byte, so two keys may become one.  As long as they do not, and no value has a
zero byte, every value read is that of the reference model.
-/
import WeChat.Redis.RedisMgr

namespace WeChat

namespace RedisMgr

open Wire RedisData

/-- A call of an operation on the data. -/
inductive Call
  | set (key value : Bytes)
  | get (key : Bytes)
  | del (key : Bytes)
  | existsKey (key : Bytes)
  | lPush (key value : Bytes)
  | rPush (key value : Bytes)
  | lPop (key : Bytes)
  | rPop (key : Bytes)
  | hSet (key field value : Bytes)
  | hGet (key field : Bytes)

/-- What a call has read. -/
inductive Answer
  /-- A value, if the operation has found one. -/
  | read (value : Option Bytes)
  | present (b : Bool)
  /-- The operation reads nothing. -/
  | silent
deriving DecidableEq

/-- A sequence of calls, with what each of them has read. -/
def answers {S : Type} (step : S → Call → Answer × S) : S → List Call → List Answer
  | _, [] => []
  | s, c :: cs => (step s c).1 :: answers step (step s c).2 cs

/-! ## The calls on Redis -/

/-- An operation that reads a value. -/
def reading (p : Program (Option Bytes)) (db : Store) : Answer × Store :=
  (.read (p.eval db).1, (p.eval db).2)

/-- An operation that writes. -/
def writing (p : Program (Option Unit)) (db : Store) : Answer × Store := (.silent, (p.eval db).2)

/-- A call, executed by Redis. -/
def callStep (db : Store) : Call → Answer × Store
  | .set key value => writing (set key value) db
  | .get key => reading (get key) db
  | .del key => writing (del key) db
  | .existsKey key =>
    (.present ((existsKey key).eval db).1.isSome, ((existsKey key).eval db).2)
  | .lPush key value => writing (lPush key value) db
  | .rPush key value => writing (rPush key value) db
  | .lPop key => reading (lPop key) db
  | .rPop key => reading (rPop key) db
  | .hSet key field value => writing (hSet key field value) db
  | .hGet key field => reading (hGet key field) db

/-! ## The reference model -/

/-- What the reference model has under a key. -/
structure Entry where
  string : Option Bytes
  deque : List Bytes
  map : Fields

def Entry.empty : Entry := ⟨none, [], ∅⟩

/-- The reference model: strings, deques and maps, keyed by the full strings. -/
abbrev Reference := Bytes → Entry

/-- A call at the reference model. -/
def referenceStep (ref : Reference) : Call → Answer × Reference
  | .set key value =>
    (.silent, Function.update ref key { ref key with string := some value })
  | .get key => (.read (ref key).string, ref)
  | .del key => (.silent, Function.update ref key .empty)
  | .existsKey key =>
    (.present ((ref key).string.isSome || (ref key).deque ≠ [] || (ref key).map ≠ ∅), ref)
  | .lPush key value =>
    (.silent, Function.update ref key { ref key with deque := value :: (ref key).deque })
  | .rPush key value =>
    (.silent, Function.update ref key { ref key with deque := (ref key).deque ++ [value] })
  | .lPop key =>
    (.read (ref key).deque.head?,
      Function.update ref key { ref key with deque := (ref key).deque.tail })
  | .rPop key =>
    (.read (ref key).deque.getLast?,
      Function.update ref key { ref key with deque := (ref key).deque.dropLast })
  | .hSet key field value =>
    (.silent, Function.update ref key { ref key with map := (ref key).map.insert field value })
  | .hGet key field => (.read ((ref key).map.lookup field), ref)

/-! ## The condition -/

/-- The type of what is kept under a key. -/
inductive Kind
  | string
  | deque
  | map

namespace Call

def key : Call → Bytes
  | set key _ => key
  | get key => key
  | del key => key
  | existsKey key => key
  | lPush key _ => key
  | rPush key _ => key
  | lPop key => key
  | rPop key => key
  | hSet key _ _ => key
  | hGet key _ => key

def field : Call → Option Bytes
  | hSet _ field _ => some field
  | hGet _ field => some field
  | _ => none

def value : Call → Option Bytes
  | set _ value => some value
  | lPush _ value => some value
  | rPush _ value => some value
  | hSet _ _ value => some value
  | _ => none

/-- The type for which a call uses its key. -/
def kind : Call → Option Kind
  | set _ _ => some .string
  | get _ => some .string
  | del _ => none
  | existsKey _ => none
  | lPush _ _ => some .deque
  | rPush _ _ => some .deque
  | lPop _ => some .deque
  | rPop _ => some .deque
  | hSet _ _ _ => some .map
  | hGet _ _ => some .map

end Call

/-- Each key is used with one type only. -/
def OneType (calls : List Call) : Prop :=
  ∃ kind : Bytes → Kind, ∀ c ∈ calls, ∀ k, c.kind = some k → kind c.key = k

/-- No two keys, and no two fields of one key, agree up to the first zero byte, and no value
has a zero byte. -/
structure Uncut (calls : List Call) : Prop where
  keys : ∀ c ∈ calls, ∀ c' ∈ calls, cstr c.key = cstr c'.key → c.key = c'.key
  fields : ∀ c ∈ calls, ∀ c' ∈ calls, c.key = c'.key → ∀ f f', c.field = some f →
    c'.field = some f' → cstr f = cstr f' → f = f'
  values : ∀ c ∈ calls, ∀ v, c.value = some v → Intact v

/-! ## One key -/

/-- What Redis has under a key corresponds to an entry of the reference model, as far as the
fields that are used show. -/
def Matches (fields : Set Bytes) (v : Option Value) (e : Entry) : Kind → Prop
  | .string => v = e.string.map .str ∧ (∀ s, e.string = some s → Intact s) ∧ e.deque = [] ∧
      e.map = ∅
  | .deque => v = ofList e.deque ∧ (∀ s ∈ e.deque, Intact s) ∧ e.string = none ∧ e.map = ∅
  | .map => (∃ m, hashOf v = some m ∧ (m = ∅ ↔ e.map = ∅) ∧
        ∀ f ∈ fields, m.lookup (cstr f) = e.map.lookup f) ∧
      (∀ f s, e.map.lookup f = some s → Intact s) ∧ e.string = none ∧ e.deque = []

section Key

variable {fields : Set Bytes} {v : Option Value} {e : Entry} {k : Kind}

lemma matches_empty (fields : Set Bytes) (k : Kind) : Matches fields none .empty k := by
  cases k with
  | string => exact ⟨rfl, nofun, rfl, rfl⟩
  | deque => exact ⟨rfl, nofun, rfl, rfl⟩
  | map => exact ⟨⟨∅, rfl, Iff.rfl, fun _ _ => rfl⟩, nofun, rfl, rfl⟩

/-- A key exists when the reference model has something under it. -/
lemma isSome_of_matches (h : Matches fields v e k) :
    v.isSome = (e.string.isSome || e.deque ≠ [] || e.map ≠ ∅) := by
  cases k with
  | string =>
    obtain ⟨rfl, -, hdeque, hmap⟩ := h
    simp [hdeque, hmap]
  | deque =>
    obtain ⟨rfl, -, hstring, hmap⟩ := h
    by_cases hl : e.deque = [] <;> simp [ofList, hstring, hmap, hl]
  | map =>
    obtain ⟨⟨m, hm, hempty, -⟩, -, hstring, hdeque⟩ := h
    rw [← ofHash_eq hm]
    by_cases hl : m = ∅
    · simp [ofHash, hstring, hdeque, hl, hempty.1 hl]
    · simp [ofHash, hstring, hdeque, hl, mt hempty.2 hl]

/-- The list of a key that is used as a deque. -/
lemma listOf_of_matches (h : Matches fields v e .deque) : listOf v = some e.deque := by
  rw [h.1, listOf_ofList]

lemma insert_ne_empty (m : Fields) (field value : Bytes) : m.insert field value ≠ ∅ := by
  intro h
  have hmem : field ∈ m.insert field value := Finmap.mem_insert.2 (.inl rfl)
  rw [h] at hmem
  exact Finmap.notMem_empty hmem

variable {db : Store} {key value : Bytes}

lemma matches_set (h : Matches fields (db key) e .string) (hv : Intact value) :
    Matches fields ((exec db (.set key value)).2 key) { e with string := some value } .string := by
  obtain ⟨-, -, hdeque, hmap⟩ := h
  refine ⟨?_, fun s hs => Option.some.inj hs ▸ hv, hdeque, hmap⟩
  simp only [exec, Function.update_self, Option.map_some]

lemma matches_get (h : Matches fields (db key) e .string) :
    stringReply (exec db (.get key)).1 = e.string ∧ (exec db (.get key)).2 = db := by
  obtain ⟨hdb, hintact, -⟩ := h
  cases hs : e.string with
  | none =>
    rw [hs] at hdb
    rw [exec_get_of_none hdb]
    exact ⟨rfl, rfl⟩
  | some s =>
    rw [hs] at hdb
    rw [exec_get hdb]
    exact ⟨congrArg some (hintact s hs).cstr_eq, rfl⟩

lemma matches_del (db : Store) (key : Bytes) :
    Matches fields ((exec db (.del key)).2 key) .empty k := by
  have hnone : (exec db (.del key)).2 key = none := by
    cases hv : db key with
    | none =>
      rw [exec_del_of_none hv]
      exact hv
    | some v =>
      rw [exec_del hv]
      exact Function.update_self ..
  rw [hnone]
  exact matches_empty fields k

lemma matches_push (side : End) (h : Matches fields (db key) e .deque) (hv : Intact value) :
    Matches fields ((exec db (.push side key value)).2 key)
      { e with deque := side.push value e.deque } .deque := by
  rw [exec_push (listOf_of_matches h)]
  obtain ⟨-, hintact, hstring, hmap⟩ := h
  refine ⟨Function.update_self .., ?_, hstring, hmap⟩
  intro s hs
  have hmem : s = value ∨ s ∈ e.deque := by
    cases side with
    | left => exact List.mem_cons.1 hs
    | right =>
      rcases List.mem_append.1 hs with hs | hs
      · exact .inr hs
      · exact .inl (List.mem_singleton.1 hs)
  rcases hmem with rfl | hs
  · exact hv
  · exact hintact s hs

/-- A pop reads the element at the end of the deque, and leaves the rest. -/
lemma matches_pop (side : End) (h : Matches fields (db key) e .deque) :
    stringReply (exec db (.pop side key)).1 = (side.pop e.deque).map Prod.fst ∧
      Matches fields ((exec db (.pop side key)).2 key)
        { e with deque := ((side.pop e.deque).map Prod.snd).getD [] } .deque := by
  have hlist := listOf_of_matches h
  obtain ⟨hdb, hintact, hstring, hmap⟩ := h
  by_cases hnil : e.deque = []
  · have hpop : side.pop e.deque = none := by
      rw [hnil]
      cases side <;> rfl
    rw [hpop, exec_pop_nil (hnil ▸ hlist)]
    refine ⟨rfl, hdb.trans ?_, nofun, hstring, hmap⟩
    rw [hnil]
    rfl
  · obtain ⟨x, rest, hpop, hpush⟩ := exists_pop side hnil
    rw [hpop, exec_pop hlist hpop]
    have hmem : x ∈ e.deque ∧ ∀ s ∈ rest, s ∈ e.deque := by
      rw [hpush]
      cases side <;> simp +contextual [End.push]
    refine ⟨congrArg some (hintact x hmem.1).cstr_eq, Function.update_self .., ?_, hstring, hmap⟩
    exact fun s hs => hintact s (hmem.2 s hs)

variable {field : Bytes}

lemma matches_hSet (h : Matches fields (db key) e .map) (hv : Intact value)
    (hfield : ∀ f ∈ fields, cstr f = cstr field → f = field) :
    Matches fields ((exec db (.hset key (cstr field) value)).2 key)
      { e with map := e.map.insert field value } .map := by
  obtain ⟨⟨m, hm, -, hlookup⟩, hintact, hstring, hdeque⟩ := h
  rw [exec_hset hm]
  simp only [Function.update_self]
  refine ⟨⟨_, hashOf_ofHash _, ?_, ?_⟩, ?_, hstring, hdeque⟩
  · exact iff_of_false (insert_ne_empty _ _ _) (insert_ne_empty _ _ _)
  · intro f hf
    by_cases heq : f = field
    · rw [heq, Finmap.lookup_insert, Finmap.lookup_insert]
    · rw [Finmap.lookup_insert_of_ne _ (mt (hfield f hf) heq), Finmap.lookup_insert_of_ne _ heq]
      exact hlookup f hf
  · intro f s hs
    by_cases heq : f = field
    · rw [heq, Finmap.lookup_insert] at hs
      exact Option.some.inj hs ▸ hv
    · rw [Finmap.lookup_insert_of_ne _ heq] at hs
      exact hintact f s hs

lemma matches_hGet (h : Matches fields (db key) e .map) (hfield : field ∈ fields) :
    stringReply (exec db (.hget key (cstr field))).1 = e.map.lookup field ∧
      (exec db (.hget key (cstr field))).2 = db := by
  obtain ⟨⟨m, hm, -, hlookup⟩, hintact, -⟩ := h
  rw [exec_hget hm, hlookup field hfield]
  refine ⟨?_, rfl⟩
  cases hs : e.map.lookup field with
  | none => rfl
  | some s => exact congrArg some (hintact field s hs).cstr_eq

end Key

/-! ## One call -/

/-- **One call at its key**: it reads what the reference model has, and the key corresponds
to its entry afterwards. -/
lemma matches_step {fields : Set Bytes} {k : Kind} {db : Store} {ref : Reference} {c : Call}
    (h : Matches fields (db (cstr c.key)) (ref c.key) k)
    (hkind : ∀ k', c.kind = some k' → k = k') (hvalue : ∀ v, c.value = some v → Intact v)
    (hfield : ∀ f, c.field = some f → f ∈ fields ∧ ∀ f' ∈ fields, cstr f' = cstr f → f' = f) :
    (callStep db c).1 = (referenceStep ref c).1 ∧
      Matches fields ((callStep db c).2 (cstr c.key)) ((referenceStep ref c).2 c.key) k := by
  cases c with
  | set key value =>
    obtain rfl := hkind _ rfl
    have hv : Intact value := hvalue _ rfl
    refine ⟨rfl, ?_⟩
    simp only [callStep, referenceStep, writing, set, Program.eval_operation, Call.key,
      Function.update_self, hv.cstr_eq]
    exact matches_set h hv
  | get key =>
    obtain rfl := hkind _ rfl
    have hentry : Matches fields (db (cstr key)) (ref key) .string := h
    obtain ⟨hread, hsame⟩ := matches_get hentry
    simp only [callStep, referenceStep, reading, get, Program.eval_operation, hread, hsame]
    exact ⟨trivial, h⟩
  | del key =>
    refine ⟨rfl, ?_⟩
    simp only [callStep, referenceStep, writing, del, Program.eval_operation, Call.key,
      Function.update_self]
    exact matches_del db (cstr key)
  | existsKey key =>
    have hsome : (db (cstr key)).isSome = _ := isSome_of_matches h
    simp only [callStep, referenceStep, existsKey, Program.eval_operation, exec_exist]
    refine ⟨congrArg Answer.present (Eq.trans ?_ hsome), h⟩
    cases db (cstr key) <;> rfl
  | lPush key value =>
    obtain rfl := hkind _ rfl
    have hv : Intact value := hvalue _ rfl
    refine ⟨rfl, ?_⟩
    simp only [callStep, referenceStep, writing, lPush, Program.eval_operation, Call.key,
      Function.update_self, hv.cstr_eq]
    exact matches_push .left h hv
  | rPush key value =>
    obtain rfl := hkind _ rfl
    have hv : Intact value := hvalue _ rfl
    refine ⟨rfl, ?_⟩
    simp only [callStep, referenceStep, writing, rPush, Program.eval_operation, Call.key,
      Function.update_self, hv.cstr_eq]
    exact matches_push .right h hv
  | lPop key =>
    obtain rfl := hkind _ rfl
    have hentry : Matches fields (db (cstr key)) (ref key) .deque := h
    obtain ⟨hread, hrest⟩ := matches_pop .left hentry
    rw [(pop_left _).1] at hread
    rw [(pop_left _).2] at hrest
    simp only [callStep, referenceStep, reading, lPop, Program.eval_operation, Call.key,
      Function.update_self, hread]
    exact ⟨trivial, hrest⟩
  | rPop key =>
    obtain rfl := hkind _ rfl
    have hentry : Matches fields (db (cstr key)) (ref key) .deque := h
    obtain ⟨hread, hrest⟩ := matches_pop .right hentry
    rw [(pop_right _).1] at hread
    rw [(pop_right _).2] at hrest
    simp only [callStep, referenceStep, reading, rPop, Program.eval_operation, Call.key,
      Function.update_self, hread]
    exact ⟨trivial, hrest⟩
  | hSet key field value =>
    obtain rfl := hkind _ rfl
    have hv : Intact value := hvalue _ rfl
    refine ⟨rfl, ?_⟩
    simp only [callStep, referenceStep, writing, hSet, Program.eval_operation, Call.key,
      Function.update_self, hv.cstr_eq]
    exact matches_hSet h hv (hfield _ rfl).2
  | hGet key field =>
    obtain rfl := hkind _ rfl
    have hentry : Matches fields (db (cstr key)) (ref key) .map := h
    obtain ⟨hread, hsame⟩ := matches_hGet hentry (hfield _ rfl).1
    simp only [callStep, referenceStep, reading, hGet, Program.eval_operation, hread, hsame]
    exact ⟨trivial, h⟩

/-- A call works on one key of Redis. -/
lemma callStep_of_ne (db : Store) {c : Call} {key : Bytes} (h : key ≠ cstr c.key) :
    (callStep db c).2 key = db key := by
  have hne : ∀ {command : RedisData.Command},
      command.key = some (cstr c.key) → command.key ≠ some key :=
    fun hc heq => h (Option.some.inj (heq.symm.trans hc))
  cases c with
  | set key value =>
    simp only [callStep, writing, set, Program.eval_operation]
    exact exec_of_ne (hne rfl)
  | get key =>
    simp only [callStep, reading, get, Program.eval_operation]
    exact exec_of_ne (hne rfl)
  | del key =>
    simp only [callStep, writing, del, Program.eval_operation]
    exact exec_of_ne (hne rfl)
  | existsKey key =>
    simp only [callStep, existsKey, Program.eval_operation]
    exact exec_of_ne (hne rfl)
  | lPush key value =>
    simp only [callStep, writing, lPush, Program.eval_operation]
    exact exec_of_ne (hne rfl)
  | rPush key value =>
    simp only [callStep, writing, rPush, Program.eval_operation]
    exact exec_of_ne (hne rfl)
  | lPop key =>
    simp only [callStep, reading, lPop, Program.eval_operation]
    exact exec_of_ne (hne rfl)
  | rPop key =>
    simp only [callStep, reading, rPop, Program.eval_operation]
    exact exec_of_ne (hne rfl)
  | hSet key field value =>
    simp only [callStep, writing, hSet, Program.eval_operation]
    exact exec_of_ne (hne rfl)
  | hGet key field =>
    simp only [callStep, reading, hGet, Program.eval_operation]
    exact exec_of_ne (hne rfl)

/-- A call works on one key of the reference model. -/
lemma referenceStep_of_ne (ref : Reference) {c : Call} {key : Bytes} (h : key ≠ c.key) :
    (referenceStep ref c).2 key = ref key := by
  cases c with
  | get key => rfl
  | existsKey key => rfl
  | hGet key field => rfl
  | _ => exact Function.update_of_ne h ..

/-! ## Sequences of calls -/

/-- The fields that a sequence of calls uses under a key. -/
def fieldsOf (calls : List Call) (key : Bytes) : Set Bytes :=
  { f | ∃ c ∈ calls, c.key = key ∧ c.field = some f }

/-- Redis corresponds to the reference model at every key that is used. -/
def Simulates (calls : List Call) (kind : Bytes → Kind) (db : Store) (ref : Reference) : Prop :=
  ∀ c ∈ calls, Matches (fieldsOf calls c.key) (db (cstr c.key)) (ref c.key) (kind c.key)

/-- **One call** of a sequence reads what the reference model has, and Redis corresponds to
the reference model afterwards. -/
lemma simulates_step {calls : List Call} {kind : Bytes → Kind} {db : Store} {ref : Reference}
    (hkind : ∀ c ∈ calls, ∀ k, c.kind = some k → kind c.key = k) (huncut : Uncut calls)
    (h : Simulates calls kind db ref) {c : Call} (hc : c ∈ calls) :
    (callStep db c).1 = (referenceStep ref c).1 ∧
      Simulates calls kind (callStep db c).2 (referenceStep ref c).2 := by
  have hfield : ∀ f, c.field = some f → f ∈ fieldsOf calls c.key ∧
      ∀ f' ∈ fieldsOf calls c.key, cstr f' = cstr f → f' = f := by
    intro f hf
    refine ⟨⟨c, hc, rfl, hf⟩, ?_⟩
    rintro f' ⟨c', hc', hkey, hf'⟩ heq
    exact huncut.fields c' hc' c hc hkey f' f hf' hf heq
  obtain ⟨hanswer, hmatches⟩ := matches_step (h c hc) (hkind c hc) (huncut.values c hc) hfield
  refine ⟨hanswer, fun c' hc' => ?_⟩
  by_cases hkey : c'.key = c.key
  · rw [hkey]
    exact hmatches
  · -- another key is another key of Redis
    rw [callStep_of_ne db (mt (huncut.keys c' hc' c hc) hkey), referenceStep_of_ne ref hkey]
    exact h c' hc'

/-- **`RedisMgr` is a faithful store for calls that no zero byte confuses**: in every sequence
of calls that use each key with one type, every value read is that of the reference model, if
no two keys and no two fields of a key agree up to their first zero byte, and no value has
one. -/
theorem answers_eq_reference {calls : List Call} (htype : OneType calls) (huncut : Uncut calls) :
    answers callStep (fun _ => none) calls = answers referenceStep (fun _ => .empty) calls := by
  obtain ⟨kind, hkind⟩ := htype
  -- the calls that are left are calls of the whole sequence
  have hall : ∀ cs, (∀ c ∈ cs, c ∈ calls) → ∀ db ref, Simulates calls kind db ref →
      answers callStep db cs = answers referenceStep ref cs := by
    intro cs
    induction cs with
    | nil => exact fun _ _ _ _ => rfl
    | cons c cs ih =>
      intro hcs db ref h
      obtain ⟨hanswer, hnext⟩ := simulates_step hkind huncut h (hcs c List.mem_cons_self)
      rw [answers, answers, hanswer,
        ih (fun c' hc' => hcs c' (List.mem_cons_of_mem c hc')) _ _ hnext]
  exact hall calls (fun _ hc => hc) _ _ fun c _ => matches_empty _ _

/-- A code, a queue and a hash. -/
theorem answers_eq_reference_calls :
    answers callStep (fun _ => none)
        [.set [97] [49], .rPush [98] [50], .hSet [99] [102] [51], .get [97], .lPop [98],
          .hGet [99] [102]] =
      answers referenceStep (fun _ => .empty)
        [.set [97] [49], .rPush [98] [50], .hSet [99] [102] [51], .get [97], .lPop [98],
          .hGet [99] [102]] := by
  refine answers_eq_reference ⟨fun key => if key = [97] then .string else
    if key = [98] then .deque else .map, ?_⟩ ⟨?_, ?_, ?_⟩
  · simp [Call.kind, Call.key]
  · decide
  · simp [Call.field, Call.key]
  · simp [Call.value, Intact]

/-- A code is kept for `a`, a zero byte and `b`, and read for `a`. -/
theorem not_faithful :
    ¬ ∀ calls, OneType calls →
      answers callStep (fun _ => none) calls = answers referenceStep (fun _ => .empty) calls := by
  intro h
  have htype : OneType [.set [97, 0, 98] [49], .get [97]] :=
    ⟨fun _ => .string, by simp [Call.kind]⟩
  exact absurd (h _ htype) (by decide)

end RedisMgr

end WeChat
