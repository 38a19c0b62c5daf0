/-
# Adding members to a group

The handler of `ID_ADD_GROUP_MEMBER_REQ` inserts the uids of its list one by one and stops at
the first failure; what has been inserted until then stays.  This file determines when the answer
tells all that was done: the first `INSERT` has to fail, or none.
-/
import WeChat.Chat.FriendAnswer

namespace WeChat

open Relational

namespace LogicSystem

open MySQLMgr

/-- The fields of an `ID_ADD_GROUP_MEMBER_REQ`. -/
def membersRequest (src : Option Json) : Option (ℤ × List ℤ) := do
  let src ← src
  let groupId ← src.getInt "groupId"
  let uids ← src.getInts "uids"
  some (groupId, uids)

/-- The outputs answer the session, under the given identifier, with an error code. -/
def AnswersCode (session : Conn) (id : ℤ) (outputs : List Output) (code : ℤ) : Prop :=
  ∃ msg, Output.send session id msg ∈ outputs ∧ msg.get "error" = some (.num code)

/-- The members of a group that a list of uids stands for. -/
def newMembers (groupId : ℤ) (uids : List ℤ) : List GroupMember :=
  uids.map fun uid => ⟨groupId, uid, .member⟩

/-- An answer with an error means that no member was added, and one with a success that exactly
the members of the list were added. -/
def AddsAllOrNothing (env : Env) (db : Database) (mgr : ℤ → Option Conn) (session : Conn)
    (src : Option Json) : Prop :=
  ∀ groupId uids, membersRequest src = some (groupId, uids) →
    ∀ code, AnswersCode session idAddGroupMemberRsp
        (handleMsg env db mgr session idAddGroupMemberReq src).2 code →
      (code ≠ ErrorCodes.success.code →
        (handleMsg env db mgr session idAddGroupMemberReq src).1.group_members.rows =
          db.group_members.rows) ∧
      (code = ErrorCodes.success.code →
        (handleMsg env db mgr session idAddGroupMemberReq src).1.group_members.rows =
          db.group_members.rows ++ newMembers groupId uids)

/-- A user can be inserted as a member: it exists, as the group does, and is no member yet. -/
structure CanJoin (db : Database) (groupId uid : ℤ) : Prop where
  user : hasUser db uid = true
  group : ∃ g ∈ db.groups.rows, g.group_id = groupId
  new : ∀ m ∈ db.group_members.rows, ¬(m.group_id = groupId ∧ m.uid = uid)

/-- All `INSERT`s succeed, the first of which is the `i`-th database call. -/
structure AllJoin (env : Env) (groupId : ℤ) (i : ℕ) (db : Database) (uids : List ℤ) : Prop where
  ok : ∀ k < uids.length, env.ok (i + k) = true
  nodup : uids.Nodup
  join : ∀ uid ∈ uids, CanJoin db groupId uid

/-- The first `INSERT` fails. -/
def FirstFails (env : Env) (groupId : ℤ) (i : ℕ) (db : Database) (uids : List ℤ) : Prop :=
  ∃ uid ∈ uids.head?, ¬(env.ok i = true ∧ CanJoin db groupId uid)

/-! ## The loop -/

section Loop

variable {env : Env} {db db' : Database} {groupId uid : ℤ} {uids : List ℤ} {i : ℕ}

/-- What `addGroupMember` does in the loop. -/
lemma addGroupMember_cases (ok : Bool) (db : Database) (groupId uid : ℤ) :
    ((ok = true ∧ CanJoin db groupId uid) ∧ ∃ group_members,
      group_members.rows = db.group_members.rows ++ [⟨groupId, uid, .member⟩] ∧
      addGroupMember ok db groupId uid .member = (true, { db with group_members })) ∨
    (¬(ok = true ∧ CanJoin db groupId uid) ∧
      addGroupMember ok db groupId uid .member = (false, db)) := by
  have hgroup : (db.groups.rows.any fun g => g.group_id = groupId) = true ↔
      ∃ g ∈ db.groups.rows, g.group_id = groupId := by
    simp [List.any_eq_true]
  have hnew : (groupId, uid) ∉ db.group_members.rows.map (fun m => (m.group_id, m.uid)) ↔
      ∀ m ∈ db.group_members.rows, ¬(m.group_id = groupId ∧ m.uid = uid) := by
    simp
  rw [addGroupMember]
  split_ifs with h
  · rw [Bool.and_eq_true, Bool.and_eq_true, hgroup] at h
    split
    · next group_members hins =>
      rw [Table.insert] at hins
      split_ifs at hins with hkey
      obtain rfl := Option.some.inj hins
      exact .inl ⟨⟨h.1.1, h.1.2, h.2, hnew.1 hkey⟩, _, rfl, rfl⟩
    · next hins =>
      rw [Table.insert] at hins
      split_ifs at hins with hkey
      exact .inr ⟨fun hjoin => hnew.2 hjoin.2.new hkey, rfl⟩
  · rw [Bool.and_eq_true, Bool.and_eq_true, hgroup] at h
    exact .inr ⟨fun hjoin => h ⟨⟨hjoin.1, hjoin.2.user⟩, hjoin.2.group⟩, rfl⟩

/-- After one user has joined, another one can join who could before. -/
lemma canJoin_after {group_members : Table fun m : GroupMember => (m.group_id, m.uid)}
    (hrows : group_members.rows = db.group_members.rows ++ [⟨groupId, uid, .member⟩]) {uid' : ℤ} :
    CanJoin { db with group_members } groupId uid' ↔ CanJoin db groupId uid' ∧ uid ≠ uid' := by
  constructor
  · rintro ⟨huser, hgroup, hnew⟩
    rw [hrows] at hnew
    exact ⟨⟨huser, hgroup, fun m hm => hnew m (List.mem_append_left _ hm)⟩,
      fun heq => hnew _ (List.mem_append_right _ (List.mem_singleton_self _)) ⟨rfl, heq⟩⟩
  · rintro ⟨⟨huser, hgroup, hnew⟩, hne⟩
    refine ⟨huser, hgroup, fun m hm => ?_⟩
    rw [hrows] at hm
    rcases List.mem_append.1 hm with hm | hm
    · exact hnew m hm
    · obtain rfl := List.mem_singleton.1 hm
      exact fun heq => hne heq.2

/-- All of a list join when the first does, and then the others. -/
lemma allJoin_cons {group_members : Table fun m : GroupMember => (m.group_id, m.uid)}
    (hrows : group_members.rows = db.group_members.rows ++ [⟨groupId, uid, .member⟩]) :
    AllJoin env groupId i db (uid :: uids) ↔ (env.ok i = true ∧ CanJoin db groupId uid) ∧
      AllJoin env groupId (i + 1) { db with group_members } uids := by
  constructor
  · rintro ⟨hok, hnodup, hjoin⟩
    obtain ⟨hnot, hnodup⟩ := List.nodup_cons.1 hnodup
    refine ⟨⟨hok 0 (by simp), hjoin uid List.mem_cons_self⟩, ⟨fun k hk => ?_, hnodup, ?_⟩⟩
    · rw [Nat.add_assoc, Nat.add_comm 1 k]
      exact hok (k + 1) (by rw [List.length_cons]; omega)
    · intro uid' huid'
      exact (canJoin_after hrows).2 ⟨hjoin uid' (List.mem_cons_of_mem _ huid'),
        fun heq => hnot (heq ▸ huid')⟩
  · rintro ⟨⟨hok, hjoin⟩, ⟨hoks, hnodup, hjoins⟩⟩
    refine ⟨fun k hk => ?_, List.nodup_cons.2 ⟨fun hmem => ?_, hnodup⟩, fun uid' huid' => ?_⟩
    · cases k with
      | zero => exact hok
      | succ k =>
        rw [Nat.add_comm k 1, ← Nat.add_assoc]
        exact hoks k (by rw [List.length_cons] at hk; omega)
    · exact ((canJoin_after hrows).1 (hjoins uid hmem)).2 rfl
    · rcases List.mem_cons.1 huid' with rfl | huid'
      · exact hjoin
      · exact ((canJoin_after hrows).1 (hjoins uid' huid')).1

/-- The loop adds the members before the first failure. -/
lemma addGroupMembers_spec (env : Env) (groupId : ℤ) (uids : List ℤ) (i : ℕ) (db : Database) :
    (AllJoin env groupId i db uids ∧ (addGroupMembers env groupId i db uids).1 = true ∧
      (addGroupMembers env groupId i db uids).2.group_members.rows =
        db.group_members.rows ++ newMembers groupId uids) ∨
    (¬ AllJoin env groupId i db uids ∧ (addGroupMembers env groupId i db uids).1 = false ∧
      ∃ added, (addGroupMembers env groupId i db uids).2.group_members.rows =
          db.group_members.rows ++ added ∧ (added = [] ↔ FirstFails env groupId i db uids)) := by
  induction uids generalizing i db with
  | nil =>
    exact .inl ⟨⟨fun _ hk => absurd hk (Nat.not_lt_zero _), List.nodup_nil,
      fun _ h => absurd h List.not_mem_nil⟩, rfl, (List.append_nil _).symm⟩
  | cons uid uids ih =>
    rcases addGroupMember_cases (env.ok i) db groupId uid with
      ⟨hjoin, group_members, hrows, heq⟩ | ⟨hnot, heq⟩
    · have hrest : addGroupMembers env groupId i db (uid :: uids) =
          addGroupMembers env groupId (i + 1) { db with group_members } uids := by
        rw [addGroupMembers, heq]
      rw [hrest, allJoin_cons hrows]
      rcases ih (i + 1) { db with group_members } with
        ⟨hall, hok, hrows'⟩ | ⟨hnot, hok, added, hrows', -⟩
      · refine .inl ⟨⟨hjoin, hall⟩, hok, hrows'.trans ?_⟩
        rw [hrows, List.append_assoc]
        rfl
      · refine .inr ⟨fun h => hnot h.2, hok, ⟨groupId, uid, .member⟩ :: added, ?_, ?_⟩
        · rw [hrows', hrows, List.append_assoc]
          rfl
        · refine iff_of_false (List.cons_ne_nil _ _) ?_
          rintro ⟨uid', huid', hfails⟩
          obtain rfl := Option.some.inj huid'
          exact hfails hjoin
    · have hstop : addGroupMembers env groupId i db (uid :: uids) = (false, db) := by
        rw [addGroupMembers, heq]
      rw [hstop]
      refine .inr ⟨fun h => hnot ⟨h.ok 0 (by simp), h.join uid List.mem_cons_self⟩, rfl, [],
        (List.append_nil _).symm, iff_of_true rfl ⟨uid, rfl, hnot⟩⟩

end Loop

/-! ## The answer -/

section Answer

variable {env : Env} {db : Database} {mgr : ℤ → Option Conn} {session : Conn}
  {src : Option Json} {groupId : ℤ} {uids : List ℤ} {code : ℤ}

lemma answersCode_answerError {id : ℤ} {error : ErrorCodes} :
    AnswersCode session id [answerError session id error] code ↔ code = error.code := by
  have hget : (Json.object [("error", .num error.code)]).get "error" =
      some (.num error.code) := by
    simp [Json.get_object]
  constructor
  · rintro ⟨msg, hmsg, hcode⟩
    obtain rfl := (Output.send.inj (List.mem_singleton.1 hmsg)).2.2
    rw [hget] at hcode
    exact (Json.num.inj (Option.some.inj hcode)).symm
  · rintro rfl
    exact ⟨_, List.mem_singleton_self _, hget⟩

variable (env db mgr session) in
/-- What the handler does with a body that has its fields. -/
lemma handleMsg_membersRequest (hrequest : membersRequest src = some (groupId, uids)) :
    handleMsg env db mgr session idAddGroupMemberReq src =
      ((addGroupMembers env groupId 0 db uids).2, [answerError session idAddGroupMemberRsp
        (if (addGroupMembers env groupId 0 db uids).1 then .success else .errNetwork)]) := by
  simp only [membersRequest, Option.bind_eq_bind, Option.bind_eq_some_iff] at hrequest
  obtain ⟨body, rfl, id, hid, list, hlist, hsome⟩ := hrequest
  obtain ⟨rfl, rfl⟩ := Prod.mk.inj (Option.some.inj hsome)
  show (addGroupMemberReq env db session (some body)).getD (db, []) = _
  simp only [addGroupMemberReq, Option.bind_eq_bind, Option.bind_some, hid, hlist,
    Option.getD_some]

/-- **Adding members is all or nothing if and only if the first `INSERT` for the list of the
request fails, or all of them succeed**: the group and all users exist, none is a member yet or
twice in the list, and no statement fails. -/
theorem addsAllOrNothing_iff : AddsAllOrNothing env db mgr session src ↔
    ∀ groupId uids, membersRequest src = some (groupId, uids) →
      FirstFails env groupId 0 db uids ∨ AllJoin env groupId 0 db uids := by
  refine forall_congr' fun groupId => forall_congr' fun uids => forall_congr' fun hrequest => ?_
  rw [handleMsg_membersRequest env db mgr session hrequest]
  simp only [answersCode_answerError, forall_eq]
  rcases addGroupMembers_spec env groupId uids 0 db with
    ⟨hall, hok, hrows⟩ | ⟨hnot, hok, added, hrows, hadded⟩
  · rw [hok]
    exact iff_of_true ⟨fun hne => absurd rfl hne, fun _ => hrows⟩ (.inr hall)
  · rw [hok, hrows, or_iff_left hnot, ← hadded]
    constructor
    · rintro ⟨hsame, -⟩
      exact List.append_right_eq_self.1 (hsame (by decide))
    · rintro rfl
      exact ⟨fun _ => List.append_nil _, fun hcode => absurd hcode (by decide)⟩

/-- User 1 has created a group. -/
def oneGroup : Database :=
  (createGroup true MySQLMgr.twoUsers true 0 "2025-06-01 12:00:00" 1 "friends" "").2

/-- A list with user 2, who exists, and one who does not: user 2 is a member after the answer
with an error. -/
theorem not_addsAllOrNothing_unknownUser :
    ¬ ∀ env db mgr session src, AddsAllOrNothing env db mgr session src := by
  intro h
  have hrequest : membersRequest (some (.object [("groupId", .num 1),
      ("uids", .arr [.num 2, .num 99])])) = some (1, [2, 99]) := by decide
  have hrows := (h allSucceed oneGroup (fun _ => none) client₁ _ 1 [2, 99] hrequest
    ErrorCodes.errNetwork.code ⟨_, List.mem_singleton_self _, rfl⟩).1 (by decide)
  exact absurd (congrArg List.length hrows) (by decide)

end Answer

end LogicSystem

end WeChat
