/-
# The search for users

`ID_SEARCH_USER_REQ` puts the keyword between two `%` and compares it with the names by `LIKE`, or
reads it with `std::stoi` and looks for the uid.  Neither takes every keyword literally: `%`, `_`
and the backslash have a meaning in a pattern, and `stoi` skips white space and signs and ignores
what follows the digits.
-/
import Mathlib.Data.List.Infix
import WeChat.Chat.Handlers

namespace WeChat

open Relational

/-! ## Patterns -/

/-- No character of the text has a meaning in a pattern. -/
def Plain (k : List Char) : Prop := ∀ c ∈ k, c ≠ '%' ∧ c ≠ '_' ∧ c ≠ '\\'

variable {c : Char} {k p t : List Char}

lemma like_nil : like [] t = t.isEmpty := by
  rw [like]

lemma like_percent_nil : like ('%' :: p) [] = like p [] := by
  rw [like]

lemma like_percent_cons : like ('%' :: p) (c :: t) = (like p (c :: t) || like ('%' :: p) t) := by
  rw [like]

/-- `%` stands for any text. -/
lemma like_percent_iff : like ('%' :: p) t = true ↔ ∃ t', t' <:+ t ∧ like p t' = true := by
  induction t with
  | nil =>
    rw [like_percent_nil]
    simp
  | cons c t ih =>
    rw [like_percent_cons, Bool.or_eq_true, ih]
    constructor
    · rintro (h | ⟨t', ht', h⟩)
      · exact ⟨_, List.suffix_rfl, h⟩
      · exact ⟨t', ht'.trans (List.suffix_cons c t), h⟩
    · rintro ⟨t', ht', h⟩
      rcases List.suffix_cons_iff.1 ht' with rfl | ht'
      · exact .inl h
      · exact .inr ⟨t', ht', h⟩

lemma like_underscore_cons : like ('_' :: p) (c :: t) = like p t := by
  rw [like]

lemma like_escape_cons : like ('\\' :: c :: p) (c :: t) = like p t := by
  rw [like]
  simp

/-- A character without a meaning stands for itself. -/
lemma like_cons_of_plain (hc : c ≠ '%' ∧ c ≠ '_' ∧ c ≠ '\\') :
    like (c :: p) t = true ↔ ∃ t', t = c :: t' ∧ like p t' = true := by
  cases t with
  | nil =>
    rw [like]
    · refine iff_of_false Bool.false_ne_true ?_
      rintro ⟨t', ht, -⟩
      cases ht
    · exact hc.1
  | cons d t =>
    rw [like]
    · rw [Bool.and_eq_true, beq_iff_eq]
      constructor
      · rintro ⟨rfl, h⟩
        exact ⟨t, rfl, h⟩
      · rintro ⟨t', ht, h⟩
        obtain ⟨rfl, rfl⟩ := List.cons.inj ht
        exact ⟨rfl, h⟩
    · exact hc.1
    · exact hc.2.1
    · exact fun _ _ h _ => hc.2.2 h

lemma like_append_of_plain (hk : Plain k) :
    like (k ++ p) t = true ↔ ∃ t', t = k ++ t' ∧ like p t' = true := by
  induction k generalizing t with
  | nil => simp
  | cons c k ih =>
    have hrest : ∀ t, like (k ++ p) t = true ↔ ∃ t', t = k ++ t' ∧ like p t' = true :=
      fun t => ih fun d hd => hk d (List.mem_cons_of_mem c hd)
    rw [List.cons_append, like_cons_of_plain (hk c List.mem_cons_self)]
    constructor
    · rintro ⟨t₁, rfl, h⟩
      obtain ⟨t', rfl, h'⟩ := (hrest t₁).1 h
      exact ⟨t', rfl, h'⟩
    · rintro ⟨t', rfl, h⟩
      exact ⟨k ++ t', rfl, (hrest _).2 ⟨t', rfl, h⟩⟩

lemma like_percent : like ['%'] t = true :=
  like_percent_iff.2 ⟨[], List.nil_suffix, by rw [like_nil]; rfl⟩

/-- **A plain keyword finds the names that contain it.** -/
theorem like_iff_contained (hk : Plain k) : like ('%' :: k ++ ['%']) t = true ↔ k <:+: t := by
  rw [List.cons_append, like_percent_iff]
  constructor
  · rintro ⟨t', ⟨s, rfl⟩, h⟩
    obtain ⟨r, rfl, -⟩ := (like_append_of_plain hk).1 h
    exact ⟨s, r, by rw [List.append_assoc]⟩
  · rintro ⟨s, r, rfl⟩
    refine ⟨k ++ r, ⟨s, by rw [List.append_assoc]⟩, ?_⟩
    exact (like_append_of_plain hk).2 ⟨r, rfl, like_percent⟩

/-- A name that a keyword finds: nothing stands for `%` and a letter for `_`, an escaped
character stands for itself, and a backslash at the end escapes the `%` behind it. -/
def sample : List Char → List Char
  | [] => []
  | '%' :: k => sample k
  | '_' :: k => 'a' :: sample k
  | ['\\'] => ['%']
  | '\\' :: c :: k => c :: sample k
  | c :: k => c :: sample k

lemma sample_cons_of_plain (hc : c ≠ '%' ∧ c ≠ '_' ∧ c ≠ '\\') (k : List Char) :
    sample (c :: k) = c :: sample k := by
  rw [sample]
  · exact hc.1
  · exact hc.2.1
  · exact fun h _ => hc.2.2 h
  · exact fun _ _ h _ => hc.2.2 h

/-- Induction on a keyword, one case for each meaning of its first character. -/
lemma keyword_induction {P : List Char → Prop} (nil : P []) (percent : ∀ k, P k → P ('%' :: k))
    (underscore : ∀ k, P k → P ('_' :: k)) (backslash : P ['\\'])
    (escape : ∀ c k, P k → P ('\\' :: c :: k))
    (plain : ∀ c k, c ≠ '%' ∧ c ≠ '_' ∧ c ≠ '\\' → P k → P (c :: k)) (k : List Char) : P k := by
  induction k using sample.induct with
  | case1 => exact nil
  | case2 k ih => exact percent k ih
  | case3 k ih => exact underscore k ih
  | case4 => exact backslash
  | case5 c k ih => exact escape c k ih
  | case6 c k hpercent hunderscore hend hescape ih =>
    refine plain c k ⟨hpercent, hunderscore, fun hc => ?_⟩ ih
    cases k with
    | nil => exact hend hc rfl
    | cons d k => exact hescape d k hc rfl

lemma like_sample (k : List Char) : like (k ++ ['%']) (sample k) = true := by
  induction k using keyword_induction with
  | nil => exact like_percent
  | percent k ih =>
    rw [sample, List.cons_append]
    exact like_percent_iff.2 ⟨_, List.suffix_rfl, ih⟩
  | underscore k ih =>
    rw [sample, List.cons_append, like_underscore_cons]
    exact ih
  | backslash =>
    show like ['\\', '%'] (sample ['\\']) = true
    rw [sample, like_escape_cons, like_nil]
    rfl
  | escape c k ih =>
    rw [sample, List.cons_append, List.cons_append, like_escape_cons]
    exact ih
  | plain c k hc ih =>
    rw [sample_cons_of_plain hc, List.cons_append, like_cons_of_plain hc]
    exact ⟨_, rfl, ih⟩

lemma length_sample_le (k : List Char) : (sample k).length ≤ k.length := by
  induction k using keyword_induction with
  | nil => rfl
  | percent k ih =>
    rw [sample, List.length_cons]
    omega
  | underscore k ih =>
    rw [sample, List.length_cons, List.length_cons]
    omega
  | backslash => exact le_rfl
  | escape c k ih =>
    rw [sample, List.length_cons, List.length_cons, List.length_cons]
    omega
  | plain c k hc ih =>
    rw [sample_cons_of_plain hc, List.length_cons, List.length_cons]
    omega

/-- A character with a meaning shortens the name or changes it. -/
lemma plain_of_sample_eq (h : sample k = k) : Plain k := by
  induction k using keyword_induction with
  | nil => exact nofun
  | percent k ih =>
    have hlen := length_sample_le k
    rw [sample] at h
    rw [h, List.length_cons] at hlen
    omega
  | underscore k ih =>
    rw [sample] at h
    exact absurd (List.cons.inj h).1 (by decide)
  | backslash => exact absurd (List.cons.inj h).1 (by decide)
  | escape c k ih =>
    have hlen := length_sample_le k
    rw [sample] at h
    rw [(List.cons.inj h).2, List.length_cons] at hlen
    omega
  | plain c k hc ih =>
    rw [sample_cons_of_plain hc] at h
    exact List.forall_mem_cons.2 ⟨hc, ih (List.cons.inj h).2⟩

/-- A keyword that is not plain finds a name that does not contain it. -/
lemma not_contained_sample (h : ¬ Plain k) : ¬ k <:+: sample k := fun hcontained =>
  h (plain_of_sample_eq (hcontained.eq_of_length_le (length_sample_le k)).symm)

namespace LogicSystem

open Json MySQLMgr

/-! ## Numbers -/

/-- A digit is neither white space nor a sign. -/
lemma isSpace_of_isDigit {c : Char} (h : c.isDigit = true) :
    isSpace c = false ∧ c ≠ '-' ∧ c ≠ '+' := by
  refine ⟨Bool.eq_false_iff.2 fun hspace => ?_, ?_, ?_⟩
  · simp only [isSpace, List.contains_eq_mem, List.mem_cons, List.not_mem_nil, or_false,
      decide_eq_true_eq] at hspace
    rcases hspace with rfl | rfl | rfl | rfl | rfl | rfl <;> exact absurd h (by decide)
  · rintro rfl
    exact absurd h (by decide)
  · rintro rfl
    exact absurd h (by decide)

/-- A number is read back from its decimal representation. -/
lemma stoi_repr {n : ℕ} (h : (n : ℤ) ≤ maxInt) : stoi (n : ℤ).repr = some (n : ℤ) := by
  have hdigits : ∀ c ∈ Nat.toDigits 10 n, c.isDigit = true :=
    fun c hc => Nat.isDigit_of_mem_toDigits (by decide) (by decide) hc
  have hvalue : (Nat.toDigits 10 n).foldl (fun m c => 10 * m + (c.toNat - 48)) 0 = n :=
    Nat.ofDigitChars_toDigits (by decide) (by decide)
  have htake : (Nat.toDigits 10 n).takeWhile Char.isDigit = Nat.toDigits 10 n :=
    List.takeWhile_eq_self_iff.2 hdigits
  have hlist : (n : ℤ).repr.toList = Nat.toDigits 10 n := Nat.toList_repr
  have hrange : -maxInt - 1 ≤ (n : ℤ) ∧ (n : ℤ) ≤ maxInt := by
    refine ⟨?_, h⟩
    rw [maxInt]
    omega
  rw [stoi, hlist]
  cases hds : Nat.toDigits 10 n with
  | nil => exact absurd hds Nat.toDigits_ne_nil
  | cons c cs =>
    obtain ⟨hspace, hminus, hplus⟩ := isSpace_of_isDigit (hdigits c (hds ▸ List.mem_cons_self))
    rw [hds] at htake hvalue
    have hdrop : (c :: cs).dropWhile isSpace = c :: cs :=
      List.dropWhile_cons_of_neg (by simp [hspace])
    simp only [hdrop]
    split
    · rename_i heq
      exact absurd (List.cons.inj heq).1 hminus
    · rename_i heq
      exact absurd (List.cons.inj heq).1 hplus
    · rw [htake, hvalue, if_neg (List.cons_ne_nil c cs)]
      exact Option.filter_some_pos (decide_eq_true hrange)

/-! ## The answer -/

/-- The values of a column of the type `INT`. -/
def IsInt (n : ℤ) : Prop := -maxInt - 1 ≤ n ∧ n ≤ maxInt

/-- The users that a search is meant to find. -/
def Meant (searchType : ℤ) (keyword : String) (u : User) : Prop :=
  searchType = 0 ∧ keyword.toList <:+: u.name.toList ∨ searchType = 1 ∧ u.uid.repr = keyword

/-- The users that it finds; `ok` says that the statement is executed. -/
def Found (ok : Bool) (searchType : ℤ) (keyword : String) (u : User) : Prop :=
  ok = true ∧
    (searchType = 0 ∧ like ('%' :: keyword.toList ++ ['%']) u.name.toList = true ∨
      searchType = 1 ∧ stoi keyword = some u.uid ∧ 0 < u.uid)

instance (ok : Bool) (searchType : ℤ) (keyword : String) (u : User) :
    Decidable (Found ok searchType keyword u) := inferInstanceAs (Decidable (_ ∧ _))

/-- A user in the answer. -/
def searchJson (u : User) : Json :=
  object [("uid", .num u.uid), ("name", .str u.name), ("avatar", .str (u.avatar.getD ""))]

/-- The answer that shows some users. -/
def searchAnswer (session : Conn) (users : List User) : Output :=
  answer session idSearchUserRsp
    [("error", .num ErrorCodes.success.code), ("users", .arr (users.map searchJson))]

/-- The handler answers with exactly the users of the table that are wanted, and with each of
them once. -/
def Shows (db : Database) (session : Conn) (wanted : User → Prop)
    (result : Option (Database × List Output)) : Prop :=
  ∃ users : List User, users.Nodup ∧ (∀ u, u ∈ users ↔ u ∈ db.users.rows ∧ wanted u) ∧
    result = some (db, [searchAnswer session users])

variable {env : Env} {db : Database} {session : Conn} {src : Json} {keyword : String}
  {searchType : ℤ}

lemma searchUserByName_eq (ok : Bool) (db : Database) (keyword : String) :
    searchUserByName ok db keyword =
      (db.users.rows.filter fun u => Found ok 0 keyword u).map User.info := by
  cases ok with
  | false => simp [searchUserByName, Found]
  | true => simp [searchUserByName, Found]

/-- The look-up of a uid that was read finds the row with the key, if it is positive. -/
lemma getUserById_eq (ok : Bool) (db : Database) {n : ℤ} (hn : stoi keyword = some n) :
    (if 0 < (getUserById ok db n).uid then [getUserById ok db n] else []) =
      (db.users.rows.filter fun u => Found ok 1 keyword u).map User.info := by
  cases ok with
  | false => simp [getUserById, Found]
  | true =>
    have hfilter : (db.users.rows.filter fun u => Found true 1 keyword u) =
        (db.users.rows.find? fun u => u.uid = n).toList.filter fun u => 0 < u.uid := by
      rw [← db.users.filter_key, List.filter_filter]
      refine List.filter_congr fun u _ => ?_
      rw [← Bool.decide_and, decide_eq_decide]
      simp only [Found, hn, Option.some.injEq]
      constructor
      · rintro ⟨-, ⟨h, -⟩ | ⟨-, rfl, hpos⟩⟩
        · exact absurd h (by decide)
        · exact ⟨hpos, rfl⟩
      · rintro ⟨hpos, rfl⟩
        exact ⟨trivial, .inr ⟨trivial, rfl, hpos⟩⟩
    rw [hfilter, getUserById, if_pos rfl]
    cases db.users.rows.find? fun u => u.uid = n with
    | none => rfl
    | some u =>
      by_cases hpos : 0 < u.uid
      · simp [User.info, hpos]
      · simp [User.info, hpos]

/-- The handler shows the users that it finds. -/
lemma searchUser_eq (hkey : src.getStr "keyword" = some keyword)
    (htype : src.getInt "searchType" = some searchType) :
    searchUser env db session (some src) = some (db, [searchAnswer session
      (db.users.rows.filter fun u => Found (env.ok 0) searchType keyword u)]) := by
  have hjson : ∀ users : List User, (users.map User.info).map
      (fun u => object [("uid", .num u.uid), ("name", .str u.name), ("avatar", .str u.avatar)]) =
        users.map searchJson := fun users => by
    rw [List.map_map]
    rfl
  have hnone : (∀ u, ¬ Found (env.ok 0) searchType keyword u) →
      (db.users.rows.filter fun u => Found (env.ok 0) searchType keyword u) = [] := fun h =>
    List.filter_eq_nil_iff.2 fun u _ hu => h u (of_decide_eq_true hu)
  simp only [searchUser, hkey, htype, Option.bind_eq_bind, Option.bind_some, searchAnswer]
  rw [← hjson]
  by_cases h0 : searchType = 0
  · subst h0
    rw [if_pos rfl, searchUserByName_eq]
  · rw [if_neg h0]
    by_cases h1 : searchType = 1
    · subst h1
      rw [if_pos rfl]
      cases hn : stoi keyword with
      | none =>
        rw [hnone fun u hu => ?_]
        · rfl
        · rcases hu.2 with ⟨h, -⟩ | ⟨-, h, -⟩
          · exact h0 h
          · exact absurd (hn.symm.trans h) nofun
      | some n => rw [← getUserById_eq (env.ok 0) db hn]
    · rw [if_neg h1, hnone fun u hu => ?_]
      · rfl
      · rcases hu.2 with ⟨h, -⟩ | ⟨h, -⟩
        · exact h0 h
        · exact h1 h

lemma uid_of_searchJson_eq {u u' : User} (h : searchJson u = searchJson u') : u.uid = u'.uid := by
  have hget : (searchJson u).get "uid" = (searchJson u').get "uid" := by rw [h]
  simp only [searchJson, get_object] at hget
  exact Json.num.inj (Option.some.inj hget)

lemma users_of_searchAnswer_eq {users users' : List User}
    (h : searchAnswer session users = searchAnswer session users') :
    users.map searchJson = users'.map searchJson := by
  simp only [searchAnswer, answer, Output.send.injEq, true_and] at h
  have hget := congrArg (fun j : Json => j.get "users") h
  simp only [get_object] at hget
  exact Json.arr.inj (Option.some.inj hget)

/-- Two lists of rows that are shown alike have the same members. -/
lemma mem_of_searchAnswer_eq {users users' : List User}
    (h : searchAnswer session users = searchAnswer session users')
    (husers : ∀ u ∈ users, u ∈ db.users.rows) (husers' : ∀ u ∈ users', u ∈ db.users.rows)
    {u : User} (hu : u ∈ users) : u ∈ users' := by
  have hmem : searchJson u ∈ users'.map searchJson :=
    users_of_searchAnswer_eq h ▸ List.mem_map_of_mem hu
  obtain ⟨u', hu', heq⟩ := List.mem_map.1 hmem
  rwa [db.users.eq_of_key_eq (husers u hu) (husers' u' hu') (uid_of_searchJson_eq heq).symm]

/-- On a given table the search is right when it finds the users that are meant. -/
lemma shows_iff (hkey : src.getStr "keyword" = some keyword)
    (htype : src.getInt "searchType" = some searchType) (wanted : User → Prop) :
    Shows db session wanted (searchUser env db session (some src)) ↔
      ∀ u ∈ db.users.rows, wanted u ↔ Found (env.ok 0) searchType keyword u := by
  have hfound : ∀ u, u ∈ (db.users.rows.filter fun u => Found (env.ok 0) searchType keyword u) ↔
      u ∈ db.users.rows ∧ Found (env.ok 0) searchType keyword u := by
    intro u
    rw [List.mem_filter, decide_eq_true_eq]
  rw [searchUser_eq hkey htype]
  constructor
  · rintro ⟨users, -, hmem, heq⟩ u hu
    have hanswer := (List.cons.inj (Prod.mk.inj (Option.some.inj heq)).2).1
    have husers : ∀ u ∈ users, u ∈ db.users.rows := fun u h => ((hmem u).1 h).1
    have hrows := fun u h => ((hfound u).1 h).1
    constructor
    · intro hwanted
      exact ((hfound u).1 (mem_of_searchAnswer_eq hanswer.symm husers hrows
        ((hmem u).2 ⟨hu, hwanted⟩))).2
    · intro h
      exact ((hmem u).1 (mem_of_searchAnswer_eq hanswer hrows husers ((hfound u).2 ⟨hu, h⟩))).2
  · intro h
    refine ⟨_, db.users.nodup_rows.filter _, fun u => ?_, rfl⟩
    rw [hfound]
    exact and_congr_right fun hu => (h u hu).symm

/-! ## The keywords that are taken literally -/

/-- The statement is executed, no character of a keyword for names has a meaning, and a keyword
for uids is the decimal representation of the positive number that `stoi` reads, if it reads
one, and of no other number. -/
structure Literal (ok : Bool) (searchType : ℤ) (keyword : String) : Prop where
  name : searchType = 0 → ok = true ∧ Plain keyword.toList
  number : searchType = 1 → ∀ n, IsInt n → n.repr = keyword → ok = true ∧ 0 < n
  read : searchType = 1 → ok = true → ∀ n, 0 < n → stoi keyword = some n → n.repr = keyword

lemma isInt_of_stoi {n : ℤ} (h : stoi keyword = some n) : IsInt n := by
  rw [stoi] at h
  obtain ⟨-, hrange⟩ := Option.filter_eq_some_iff.1 h
  rw [decide_eq_true_eq] at hrange
  exact hrange

lemma Literal.meant_iff {ok : Bool} (h : Literal ok searchType keyword) {u : User}
    (hu : IsInt u.uid) : Meant searchType keyword u ↔ Found ok searchType keyword u := by
  constructor
  · rintro (⟨h0, hname⟩ | ⟨h1, huid⟩)
    · obtain ⟨hok, hplain⟩ := h.name h0
      exact ⟨hok, .inl ⟨h0, (like_iff_contained hplain).2 hname⟩⟩
    · obtain ⟨hok, hpos⟩ := h.number h1 _ hu huid
      refine ⟨hok, .inr ⟨h1, ?_, hpos⟩⟩
      obtain ⟨n, hn⟩ := Int.eq_ofNat_of_zero_le hpos.le
      rw [← huid, hn]
      exact stoi_repr (hn ▸ hu.2)
  · rintro ⟨hok, ⟨h0, hlike⟩ | ⟨h1, hstoi, hpos⟩⟩
    · exact .inl ⟨h0, (like_iff_contained (h.name h0).2).1 hlike⟩
    · exact .inr ⟨h1, h.read h1 hok _ hpos hstoi⟩

/-- A database with one user. -/
def oneUser (u : User) : Database where
  users := ⟨[u], List.nodup_singleton _⟩
  friendships := .empty
  friend_requests := .empty
  messages := .empty
  groups := .empty
  group_members := .empty

/-- The decimal representation of a positive number is a literal keyword. -/
lemma literal_repr {n : ℤ} (hpos : 0 < n) (hn : IsInt n) : Literal true 1 n.repr := by
  refine ⟨fun h => absurd h (by decide), fun _ m _ hm => ⟨rfl, ?_⟩, fun _ _ m _ hm => ?_⟩
  · rwa [Int.repr_injective hm]
  · obtain ⟨k, rfl⟩ := Int.eq_ofNat_of_zero_le hpos.le
    rw [Option.some.inj ((stoi_repr hn.2).symm.trans hm)]

/-- A keyword under which every user is found exactly when it is meant is a literal one. -/
lemma literal_of_meant_iff {ok : Bool}
    (h : ∀ u : User, IsInt u.uid → (Meant searchType keyword u ↔ Found ok searchType keyword u)) :
    Literal ok searchType keyword := by
  have hone : IsInt 1 := by
    rw [IsInt, maxInt]
    omega
  refine ⟨?_, ?_, ?_⟩
  · rintro rfl
    have hok : ok = true :=
      ((h ⟨1, keyword, "", none, none⟩ hone).1 (.inl ⟨rfl, List.infix_rfl⟩)).1
    refine ⟨hok, ?_⟩
    by_contra hplain
    -- the keyword finds its sample, which does not contain it
    have hfound :
        Found ok 0 keyword ⟨1, String.ofList (sample keyword.toList), "", none, none⟩ := by
      refine ⟨hok, .inl ⟨rfl, ?_⟩⟩
      rw [String.toList_ofList, List.cons_append]
      exact like_percent_iff.2 ⟨_, List.suffix_rfl, like_sample _⟩
    rcases (h ⟨1, _, "", none, none⟩ hone).2 hfound with ⟨-, hcontained⟩ | ⟨h01, -⟩
    · rw [String.toList_ofList] at hcontained
      exact not_contained_sample hplain hcontained
    · exact absurd h01 (by decide)
  · rintro rfl n hn hrepr
    obtain ⟨hok, ⟨h10, -⟩ | ⟨-, -, hpos⟩⟩ := (h ⟨n, "", "", none, none⟩ hn).1 (.inr ⟨rfl, hrepr⟩)
    · exact absurd h10 (by decide)
    · exact ⟨hok, hpos⟩
  · rintro rfl hok n hpos hstoi
    have hfound : Found ok 1 keyword ⟨n, "", "", none, none⟩ := ⟨hok, .inr ⟨rfl, hstoi, hpos⟩⟩
    rcases (h _ (isInt_of_stoi hstoi)).2 hfound with ⟨h10, -⟩ | ⟨-, hrepr⟩
    · exact absurd h10 (by decide)
    · exact hrepr

/-- **The search shows exactly the users that are meant, in every table, if and only if the
keyword is a literal one**; in a given table it does if and only if the users that it finds there
are those that are meant. -/
theorem searchUser_shows_iff (env : Env) (session : Conn)
    (hkey : src.getStr "keyword" = some keyword)
    (htype : src.getInt "searchType" = some searchType) :
    ((∀ db : Database, (∀ u ∈ db.users.rows, IsInt u.uid) →
        Shows db session (Meant searchType keyword) (searchUser env db session (some src))) ↔
      Literal (env.ok 0) searchType keyword) ∧
    ∀ db : Database,
      Shows db session (Meant searchType keyword) (searchUser env db session (some src)) ↔
        ∀ u ∈ db.users.rows,
          Meant searchType keyword u ↔ Found (env.ok 0) searchType keyword u := by
  refine ⟨⟨fun h => literal_of_meant_iff fun u hu => ?_, fun h db hdb => ?_⟩,
    fun db => shows_iff hkey htype _⟩
  · have hshows := h (oneUser u) fun v hv => List.mem_singleton.1 hv ▸ hu
    exact (shows_iff hkey htype _).1 hshows u List.mem_cons_self
  · exact (shows_iff hkey htype _).2 fun u hu => h.meant_iff (hdb u hu)

/-- The body of a search. -/
def searchBody (keyword : String) (searchType : ℤ) : Json :=
  object [("keyword", .str keyword), ("searchType", .num searchType)]

/-- All statements succeed. -/
def succeeding : Env := ⟨fun _ => true, 0, "", .ascending, fun _ _ => 0⟩

lemma uids_twoUsers : ∀ u ∈ twoUsers.users.rows, 0 < u.uid ∧ IsInt u.uid := by
  intro u hu
  rcases List.mem_cons.1 hu with rfl | hu
  · exact ⟨by decide, by decide, by decide⟩
  · obtain rfl := List.mem_singleton.1 hu
    exact ⟨by decide, by decide, by decide⟩

/-- The search for the uid `2`. -/
theorem searchUser_shows_iff_two :
    Shows twoUsers ⟨0, 0⟩ (Meant 1 "2")
      (searchUser succeeding twoUsers ⟨0, 0⟩ (some (searchBody "2" 1))) :=
  (searchUser_shows_iff succeeding ⟨0, 0⟩ rfl rfl).1.2
    (literal_repr (n := 2) (by decide) ⟨by decide, by decide⟩) twoUsers
    fun u hu => (uids_twoUsers u hu).2

/-- The keyword `1abc` finds the user `1`. -/
theorem not_searchUser_shows :
    ¬ ∀ (env : Env) (db : Database) (session : Conn) (src : Json) (keyword : String)
      (searchType : ℤ), env.ok 0 = true → (∀ u ∈ db.users.rows, 0 < u.uid ∧ IsInt u.uid) →
      src.getStr "keyword" = some keyword → src.getInt "searchType" = some searchType →
      searchType = 0 ∨ searchType = 1 →
      Shows db session (Meant searchType keyword) (searchUser env db session (some src)) := by
  intro h
  have hshows := h succeeding twoUsers ⟨0, 0⟩ (searchBody "1abc" 1) "1abc" 1 rfl uids_twoUsers
    rfl rfl (.inr rfl)
  have hfound : Found true 1 "1abc" ⟨1, "alice", "alice@example.com", none, none⟩ := by decide
  rcases ((shows_iff rfl rfl _).1 hshows _ List.mem_cons_self).2 hfound with ⟨h10, -⟩ | ⟨-, hrepr⟩
  · exact absurd h10 (by decide)
  · exact absurd hrepr (by decide)

end LogicSystem

end WeChat
