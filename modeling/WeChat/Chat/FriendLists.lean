/-
# Friend lists

`getFriendList` joins the users with the friendships in either direction.  The table holds each
friendship once, with the smaller uid first: `addFriendRelation` orders its arguments, and the
key `unique_friendship` rejects a second row for the same pair, however the statements of the
operations are interleaved.  So the lists are symmetric and free of duplicates.
-/
import WeChat.Chat.Statements

namespace WeChat

open Transition Relational

namespace MySQLMgr

open LogicSystem (AreFriends)

/-- The two entries of a friendship. -/
def pairOf (f : Friendship) : ℤ × ℤ := (f.user1_id, f.user2_id)

/-- The pair of two users, with the smaller uid first. -/
def ordered (p : ℤ × ℤ) : ℤ × ℤ := (min p.1 p.2, max p.1 p.2)

/-- The friendships are those that were inserted, in their order and without repetitions, and
they are between users. -/
structure Statements.Ordered (s : Statements) : Prop where
  pairs : s.db.friendships.rows.map pairOf = s.related.map ordered
  nodup : (s.related.map ordered).Nodup
  users : ∀ p ∈ s.related, hasUser s.db p.1 = true ∧ hasUser s.db p.2 = true

/-! ## The invariant -/

section Invariant

variable {s s' : Statements} {e : StatementEvent} {db : Database}

lemma mem_pairs_iff (h : s.Ordered) {x y : ℤ} :
    HasRelation s.db x y ↔ (x, y) ∈ s.related.map ordered := by
  rw [← h.pairs, List.mem_map]
  refine exists_congr fun f => and_congr_right fun _ => ?_
  rw [pairOf, Prod.mk.injEq]

/-- A statement that inserts no friendship keeps the friendships and the users. -/
lemma execute_friendships {st : Statement} {gap : ℕ} (h : st.relates gap db = []) :
    (st.execute gap db).1.friendships = db.friendships ∧
      (st.execute gap db).1.users = db.users := by
  cases st with
  | selectFriends fromUid toUid message => exact ⟨rfl, rfl⟩
  | selectPending fromUid toUid message => exact ⟨rfl, rfl⟩
  | selectRelation uid1 uid2 => exact ⟨rfl, rfl⟩
  | updateStatus requestId fromUid toUid accepted => exact ⟨rfl, rfl⟩
  | insertRequest fromUid toUid message =>
    simp only [Statement.execute]
    split_ifs
    · exact ⟨rfl, rfl⟩
    · exact ⟨rfl, rfl⟩
  | insertRelation uid1 uid2 =>
    have hcan : ¬ CanRelate gap db uid1 uid2 := by
      intro hcan
      rw [Statement.relates, if_pos hcan] at h
      cases h
    rw [Statement.execute, if_neg hcan]
    exact ⟨rfl, rfl⟩

lemma Statements.Ordered.congr (h : s.Ordered) (hfriends : s'.db.friendships = s.db.friendships)
    (husers : s'.db.users = s.db.users) (hrelated : s'.related = s.related) : s'.Ordered where
  pairs := by rw [hfriends, hrelated, h.pairs]
  nodup := by rw [hrelated]; exact h.nodup
  users := by
    intro p hp
    rw [hrelated] at hp
    rw [hasUser, hasUser, husers]
    exact h.users p hp

lemma ordered_execute (h : s.Ordered) {st : Statement} {gap : ℕ} {next : ℕ → Option Statement} :
    Statements.Ordered ⟨(st.execute gap s.db).1, next, s.related ++ st.relates gap s.db⟩ := by
  by_cases hrelates : st.relates gap s.db = []
  · obtain ⟨hfriends, husers⟩ := execute_friendships hrelates
    exact h.congr hfriends husers (by rw [hrelates, List.append_nil])
  · obtain ⟨uid1, uid2, rfl, hcan⟩ : ∃ uid1 uid2, st = .insertRelation uid1 uid2 ∧
        CanRelate gap s.db uid1 uid2 := by
      cases st with
      | insertRelation uid1 uid2 =>
        refine ⟨uid1, uid2, rfl, by_contra fun hcan => hrelates ?_⟩
        rw [Statement.relates, if_neg hcan]
      | _ => exact absurd rfl hrelates
    obtain ⟨id, hrows⟩ := friendshipsWith_spec hcan
    simp only [Statement.execute, Statement.relates, if_pos hcan]
    constructor
    · show (friendshipsWith gap s.db uid1 uid2).rows.map pairOf = _
      rw [hrows, List.map_append, List.map_append, h.pairs]
      rfl
    · rw [List.map_append, List.nodup_append']
      refine ⟨h.nodup, List.nodup_singleton _, ?_⟩
      intro p hp hp'
      -- the key rejects a pair that is there already
      obtain rfl := List.mem_singleton.1 hp'
      exact hcan.1 ((mem_pairs_iff h).2 hp)
    · intro p hp
      rcases List.mem_append.1 hp with hp | hp
      · exact h.users p hp
      · obtain rfl := List.mem_singleton.1 hp
        exact ⟨hcan.2.1, hcan.2.2.1⟩

lemma ordered_step (h : s.Ordered) (he : s.step e = some s') : s'.Ordered := by
  cases e with
  | start i call =>
    cases hnext : s.next i with
    | some st =>
      rw [Statements.step, hnext] at he
      cases he
    | none =>
      rw [Statements.step_start call hnext] at he
      obtain rfl := Option.some.inj he
      exact h.congr rfl rfl rfl
  | fail i =>
    obtain ⟨st, -, rfl⟩ := Option.map_eq_some_iff.1 he
    exact h.congr rfl rfl rfl
  | execute i gap =>
    obtain ⟨st, -, rfl⟩ := Option.map_eq_some_iff.1 he
    exact ordered_execute h

lemma ordered_init (h : db.friendships.rows = []) : (Statements.init db).Ordered where
  pairs := by
    show db.friendships.rows.map _ = []
    rw [h, List.map_nil]
  nodup := List.nodup_nil
  users := fun _ hp => absurd hp List.not_mem_nil

end Invariant

/-! ## The join -/

section Join

variable {s : Statements} {a b : ℤ}

/-- The uids of a friend list. -/
def friendUids (db : Database) (uid : ℤ) : List ℤ := (getFriendList true db uid).map UserInfo.uid

lemma friendUids_eq (db : Database) (uid : ℤ) : friendUids db uid =
    db.users.rows.flatMap fun u =>
      (db.friendships.rows.filter fun f =>
        (u.uid = f.user1_id ∨ u.uid = f.user2_id) ∧
          (f.user1_id = uid ∨ f.user2_id = uid) ∧ u.uid ≠ uid).map fun _ => u.uid := by
  simp only [friendUids, getFriendList, if_true, List.map_flatMap, List.map_map]
  rfl

/-- The friendships that the join finds for a user and another one are those of the two. -/
lemma joined_iff {f : Friendship} :
    ((b = f.user1_id ∨ b = f.user2_id) ∧ (f.user1_id = a ∨ f.user2_id = a) ∧ b ≠ a) ↔
      b ≠ a ∧ ((f.user1_id = a ∧ f.user2_id = b) ∨ (f.user1_id = b ∧ f.user2_id = a)) := by
  omega

/-- Two users are friends when a call for the two has inserted their friendship. -/
lemma areFriends_iff (h : s.Ordered) :
    AreFriends s.db a b ↔ (a, b) ∈ s.related ∨ (b, a) ∈ s.related := by
  have hpairs : AreFriends s.db a b ↔
      (a, b) ∈ s.related.map ordered ∨ (b, a) ∈ s.related.map ordered := by
    rw [← mem_pairs_iff h, ← mem_pairs_iff h, HasRelation, HasRelation, ← exists_or]
    exact exists_congr fun _ => and_or_left
  have hordered : ∀ p : ℤ × ℤ, ordered p = (a, b) ∨ ordered p = (b, a) ↔
      p = (a, b) ∨ p = (b, a) := by
    rintro ⟨x, y⟩
    simp only [ordered, Prod.mk.injEq]
    omega
  rw [hpairs, List.mem_map, List.mem_map, ← exists_or]
  constructor
  · rintro ⟨p, h | h⟩
    · rcases (hordered p).1 (.inl h.2) with rfl | rfl
      · exact .inl h.1
      · exact .inr h.1
    · rcases (hordered p).1 (.inr h.2) with rfl | rfl
      · exact .inl h.1
      · exact .inr h.1
  · rintro (hp | hp)
    · exact ⟨(a, b), ((hordered _).2 (.inl rfl)).imp (⟨hp, ·⟩) (⟨hp, ·⟩)⟩
    · exact ⟨(b, a), ((hordered _).2 (.inr rfl)).imp (⟨hp, ·⟩) (⟨hp, ·⟩)⟩

lemma mem_friendUids_iff (h : s.Ordered) :
    b ∈ friendUids s.db a ↔ b ≠ a ∧ ((a, b) ∈ s.related ∨ (b, a) ∈ s.related) := by
  rw [friendUids_eq, ← areFriends_iff h]
  simp only [List.mem_flatMap, List.mem_map, List.mem_filter, decide_eq_true_eq]
  constructor
  · rintro ⟨u, -, f, ⟨hf, hjoin⟩, rfl⟩
    obtain ⟨hne, hpair⟩ := joined_iff.1 hjoin
    exact ⟨hne, f, hf, hpair⟩
  · rintro ⟨hne, hare⟩
    have huser : hasUser s.db b = true := by
      rcases (areFriends_iff h).1 hare with hp | hp
      · exact (h.users _ hp).2
      · exact (h.users _ hp).1
    obtain ⟨u, hu, huid⟩ := List.any_eq_true.1 huser
    obtain rfl : u.uid = b := of_decide_eq_true huid
    obtain ⟨f, hf, hpair⟩ := hare
    exact ⟨u, hu, f, ⟨hf, joined_iff.2 ⟨hne, hpair⟩⟩, rfl⟩

/-- The friendships of two users are one row at most. -/
lemma eq_of_joined (h : s.Ordered) {f f' : Friendship} (hf : f ∈ s.db.friendships.rows)
    (hf' : f' ∈ s.db.friendships.rows)
    (hpair : (f.user1_id = a ∧ f.user2_id = b) ∨ (f.user1_id = b ∧ f.user2_id = a))
    (hpair' : (f'.user1_id = a ∧ f'.user2_id = b) ∨ (f'.user1_id = b ∧ f'.user2_id = a)) :
    f = f' := by
  have hle : ∀ f ∈ s.db.friendships.rows, f.user1_id ≤ f.user2_id := by
    intro f hf
    obtain ⟨p, -, heq⟩ := List.mem_map.1 ((mem_pairs_iff h).1 ⟨f, hf, rfl, rfl⟩)
    obtain ⟨hmin, hmax⟩ := Prod.mk.inj heq
    omega
  have hnodup : (s.db.friendships.rows.map pairOf).Nodup := h.pairs ▸ h.nodup
  refine List.inj_on_of_nodup_map hnodup hf hf' ?_
  have h₁ := hle f hf
  have h₂ := hle f' hf'
  rw [pairOf, pairOf, Prod.mk.injEq]
  omega

lemma nodup_friendUids (h : s.Ordered) : (friendUids s.db a).Nodup := by
  rw [friendUids_eq, List.nodup_flatMap]
  constructor
  · intro u _
    refine (s.db.friendships.nodup_rows.filter _).map_on fun f hf f' hf' _ => ?_
    obtain ⟨hf, hjoin⟩ := List.mem_filter.1 hf
    obtain ⟨hf', hjoin'⟩ := List.mem_filter.1 hf'
    exact eq_of_joined h hf hf' (joined_iff.1 (of_decide_eq_true hjoin)).2
      (joined_iff.1 (of_decide_eq_true hjoin')).2
  · -- different users have different uids
    refine (List.pairwise_map.1 s.db.users.nodup).imp fun hne b hb hb' => hne ?_
    obtain ⟨_, -, rfl⟩ := List.mem_map.1 hb
    obtain ⟨_, -, heq⟩ := List.mem_map.1 hb'
    exact heq.symm

end Join

/-- **Friend lists are symmetric and free of duplicates.**  In every interleaving that starts
without friendships, a user is at most once in the list of another, and then the other is in the
list of the user; this is so when a call for the two, in one order or the other, has inserted
their friendship.  No user is in its own list. -/
theorem friendLists_symmetric {db : Database} {s : Statements} {es : List StatementEvent}
    (h : db.friendships.rows = []) (hrun : run Statements.step (.init db) es = some s)
    (a b : ℤ) :
    (friendUids s.db a).count b ≤ 1 ∧ (b ∈ friendUids s.db a ↔ a ∈ friendUids s.db b) ∧
      (a ≠ b → (b ∈ friendUids s.db a ↔ (a, b) ∈ s.related ∨ (b, a) ∈ s.related)) ∧
      a ∉ friendUids s.db a := by
  have hordered : s.Ordered := run_invariant (fun _ _ _ => ordered_step) hrun (ordered_init h)
  refine ⟨List.nodup_iff_count_le_one.1 (nodup_friendUids hordered) b, ?_, fun hne => ?_, ?_⟩
  · rw [mem_friendUids_iff hordered, mem_friendUids_iff hordered, ne_comm, or_comm]
  · rw [mem_friendUids_iff hordered]
    exact and_iff_right hne.symm
  · rw [mem_friendUids_iff hordered]
    exact fun hself => hself.1 rfl

/-- Two workers insert the friendship of 1 and 2, each in its own order, and the second `INSERT`
is rejected. -/
theorem friendLists_symmetric_race :
    ∃ s, run Statements.step (.init twoUsers) [.start 0 (.addFriendRelation 1 2),
        .start 1 (.addFriendRelation 2 1), .execute 0 0, .execute 1 0, .execute 1 0,
        .execute 0 0] = some s ∧
      s.related = [(2, 1)] ∧ (friendUids s.db 1).count 2 ≤ 1 ∧ 2 ∈ friendUids s.db 1 := by
  obtain ⟨s, hrun, hrelated⟩ : ∃ s, run Statements.step (.init twoUsers)
      [.start 0 (.addFriendRelation 1 2), .start 1 (.addFriendRelation 2 1), .execute 0 0,
        .execute 1 0, .execute 1 0, .execute 0 0] = some s ∧ s.related = [(2, 1)] :=
    ⟨_, rfl, rfl⟩
  obtain ⟨hcount, -, hinserted, -⟩ := friendLists_symmetric rfl hrun 1 2
  refine ⟨s, hrun, hrelated, hcount, (hinserted (by decide)).2 (.inr ?_)⟩
  rw [hrelated]
  exact List.mem_singleton_self _

end MySQLMgr

end WeChat
