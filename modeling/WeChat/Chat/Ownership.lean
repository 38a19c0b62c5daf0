/-
# Groups and their owners

A group is created by two statements: the `INSERT` of the group, and in another session the
`INSERT` of its owner into `group_members`, whose result `createGroup` does not look at.  Any
session can later remove any member, the owner among them, since the handler of
`ID_REMOVE_GROUP_MEMBER_REQ` asks for no role.
-/
import WeChat.Chat.Attribution

namespace WeChat

open Transition Relational

namespace LogicSystem

open MySQLMgr

/-- The three requests that change the members of groups. -/
inductive GroupRequest
  | create | add | remove
deriving DecidableEq

/-- The identifier of a request. -/
def GroupRequest.id : GroupRequest → ℤ
  | .create => idCreateGroupReq
  | .add => idAddGroupMemberReq
  | .remove => idRemoveGroupMemberReq

/-- A worker handles such a request of a session. -/
structure GroupEvent where
  request : GroupRequest
  env : Env
  mgr : ℤ → Option Conn
  session : Conn
  src : Option Json

/-- One request. -/
def groupStep (db : Database) (e : GroupEvent) : Option Database :=
  some (handleMsg e.env db e.mgr e.session e.request.id e.src).1

/-! ## The property -/

/-- The rows of `group_members` with the role `owner` in a group. -/
def owners (db : Database) (groupId : ℤ) : List GroupMember :=
  db.group_members.rows.filter fun m => m.group_id = groupId ∧ m.role = .owner

/-- Every group has exactly one member with the role `owner`: the user in `owner_uid`. -/
def Owned (db : Database) : Prop :=
  ∀ g ∈ db.groups.rows, ∃ m, owners db g.group_id = [m] ∧ m.uid = g.owner_uid

/-- The foreign key of `group_members`. -/
def Linked (db : Database) : Prop :=
  ∀ m ∈ db.group_members.rows, ∃ g ∈ db.groups.rows, g.group_id = m.group_id

/-- The fields of an `ID_CREATE_GROUP_REQ`. -/
def createRequest (src : Option Json) : Option (ℤ × String × String) := do
  let src ← src
  let ownerUid ← src.getInt "ownerUid"
  let name ← src.getStr "name"
  let avatar ← src.value "avatar" ""
  some (ownerUid, name, avatar)

/-- The fields of an `ID_REMOVE_GROUP_MEMBER_REQ`. -/
def removeRequest (src : Option Json) : Option (ℤ × ℤ) := do
  let src ← src
  let groupId ← src.getInt "groupId"
  let uid ← src.getInt "uid"
  some (groupId, uid)

/-- The `INSERT` of a group with this owner succeeds. -/
def Founds (env : Env) (db : Database) (ownerUid : ℤ) : Prop :=
  env.ok 0 = true ∧ hasUser db ownerUid = true ∧ db.groups.last + env.gap + 1 ≤ maxInt

/-- A group that is inserted gets its owner, and no owner is removed from its group. -/
def KeepsOwned (db : Database) (e : GroupEvent) : Prop :=
  match e.request with
  | .create => ∀ ownerUid name avatar, createRequest e.src = some (ownerUid, name, avatar) →
      Founds e.env db ownerUid → e.env.ok 1 = true
  | .add => True
  | .remove => ∀ groupId uid, removeRequest e.src = some (groupId, uid) → e.env.ok 0 = true →
      ∀ g ∈ db.groups.rows, g.group_id = groupId → g.owner_uid ≠ uid

/-! ## What the functions do -/

section Functions

variable {db : Database} {groupId uid : ℤ}

/-- A member is inserted into a group that exists, or nothing happens. -/
lemma addGroupMember_spec (ok : Bool) (db : Database) (groupId uid : ℤ) (role : Role) :
    (addGroupMember ok db groupId uid role).2 = db ∨
      (∃ g ∈ db.groups.rows, g.group_id = groupId) ∧
      ∃ group_members, group_members.rows = db.group_members.rows ++ [⟨groupId, uid, role⟩] ∧
        (addGroupMember ok db groupId uid role).2 = { db with group_members := group_members } := by
  rw [addGroupMember]
  split_ifs with h
  · have hgroup : ∃ g ∈ db.groups.rows, g.group_id = groupId := by
      simpa using (Bool.and_eq_true_iff.1 h).2
    split
    · next group_members hins =>
      refine .inr ⟨hgroup, group_members, ?_, rfl⟩
      rw [Table.insert] at hins
      split_ifs at hins
      rw [← Option.some.inj hins]
    · exact .inl rfl
  · exact .inl rfl

/-- The owner of a group that has no members yet is inserted when the statement succeeds. -/
lemma addGroupMember_owner (role : Role) (hgroup : ∃ g ∈ db.groups.rows, g.group_id = groupId)
    (huser : hasUser db uid = true) (hnone : ∀ m ∈ db.group_members.rows, m.group_id ≠ groupId) :
    ∃ group_members, group_members.rows = db.group_members.rows ++ [⟨groupId, uid, role⟩] ∧
      (addGroupMember true db groupId uid role).2 = { db with group_members := group_members } := by
  have hgroup' : (db.groups.rows.any fun g => g.group_id = groupId) = true := by
    simpa using hgroup
  have hkey : (groupId, uid) ∉ db.group_members.rows.map fun m => (m.group_id, m.uid) := by
    intro hmem
    obtain ⟨m, hm, heq⟩ := List.mem_map.1 hmem
    exact hnone m hm (congrArg Prod.fst heq)
  refine ⟨⟨db.group_members.rows ++ [⟨groupId, uid, role⟩], ?_⟩, rfl, ?_⟩
  · rw [List.map_append, List.nodup_append']
    refine ⟨db.group_members.nodup, List.nodup_singleton _, ?_⟩
    intro k hk hk'
    obtain rfl := List.mem_singleton.1 hk'
    exact hkey hk
  · rw [addGroupMember, huser, hgroup']
    simp [Table.insert, hkey]

/-- The members that a request adds are no owners, and their groups exist. -/
structure Joined (db db' : Database) : Prop where
  groups : db'.groups = db.groups
  members : ∃ new, db'.group_members.rows = db.group_members.rows ++ new ∧
    ∀ m ∈ new, m.role = .member ∧ ∃ g ∈ db.groups.rows, g.group_id = m.group_id

lemma Joined.refl (db : Database) : Joined db db := ⟨rfl, [], (List.append_nil _).symm, by simp⟩

lemma Joined.trans {db₁ db₂ db₃ : Database} (h : Joined db₁ db₂) (h' : Joined db₂ db₃) :
    Joined db₁ db₃ := by
  obtain ⟨new, hnew, hmember⟩ := h.members
  obtain ⟨new', hnew', hmember'⟩ := h'.members
  refine ⟨h'.groups.trans h.groups, new ++ new', ?_, fun m hm => ?_⟩
  · rw [hnew', hnew, List.append_assoc]
  · rcases List.mem_append.1 hm with hm | hm
    · exact hmember m hm
    · exact h.groups ▸ hmember' m hm

lemma joined_addGroupMember (ok : Bool) (db : Database) (groupId uid : ℤ) :
    Joined db (addGroupMember ok db groupId uid .member).2 := by
  rcases addGroupMember_spec ok db groupId uid .member with
    hsame | ⟨hgroup, group_members, hrows, heq⟩
  · rw [hsame]
    exact .refl db
  · rw [heq]
    refine ⟨rfl, [⟨groupId, uid, .member⟩], hrows, ?_⟩
    rw [List.forall_mem_singleton]
    exact ⟨rfl, hgroup⟩

/-- The loop of `ID_ADD_GROUP_MEMBER_REQ`. -/
lemma joined_addGroupMembers (env : Env) (i : ℕ) (uids : List ℤ) :
    Joined db (addGroupMembers env groupId i db uids).2 := by
  induction uids generalizing i db with
  | nil => exact .refl db
  | cons uid uids ih =>
    have hone := joined_addGroupMember (env.ok i) db groupId uid
    rw [addGroupMembers]
    split
    · rename_i db' hadd
      rw [hadd] at hone
      exact hone.trans (ih (i + 1))
    · rename_i db' hadd
      rw [hadd] at hone
      exact hone

end Functions

/-! ## What the requests do -/

section Requests

variable {env : Env} {db db' : Database} {mgr : ℤ → Option Conn} {session : Conn}
  {src : Option Json}

lemma handleMsg_createGroup :
    (handleMsg env db mgr session idCreateGroupReq src).1 =
      match createRequest src with
      | none => db
      | some (ownerUid, name, avatar) =>
        (createGroup (env.ok 0) db (env.ok 1) env.gap env.now ownerUid name avatar).2 := by
  show ((createGroupReq env db session src).getD (db, [])).1 = _
  have hreq : createGroupReq env db session src = (createRequest src).map fun request =>
      let created := createGroup (env.ok 0) db (env.ok 1) env.gap env.now request.1 request.2.1
        request.2.2
      if 0 < created.1 then
        (created.2, [answer session idCreateGroupRsp [("error", .num ErrorCodes.success.code),
          ("groupId", .num created.1), ("name", .str request.2.1)]])
      else (created.2, [answerError session idCreateGroupRsp .errNetwork]) := by
    cases src with
    | none => rfl
    | some src =>
      simp only [createGroupReq, createRequest, Option.bind_eq_bind, Option.bind_some]
      cases src.getInt "ownerUid" with
      | none => rfl
      | some ownerUid =>
        cases src.getStr "name" with
        | none => rfl
        | some name =>
          cases src.value "avatar" "" with
          | none => rfl
          | some avatar =>
            simp only [Option.bind_some, Option.map_some]
            split_ifs <;> rfl
  rw [hreq]
  cases createRequest src with
  | none => rfl
  | some request =>
    rw [Option.map_some, Option.getD_some]
    simp only
    split_ifs <;> rfl

lemma joined_handleMsg :
    Joined db (handleMsg env db mgr session idAddGroupMemberReq src).1 := by
  show Joined db ((addGroupMemberReq env db session src).getD (db, [])).1
  cases hdone : addGroupMemberReq env db session src with
  | none => exact .refl db
  | some done =>
    simp only [addGroupMemberReq, Option.bind_eq_bind, Option.bind_eq_some_iff] at hdone
    obtain ⟨body, -, groupId, -, uids, -, hdone⟩ := hdone
    rw [Option.getD_some, ← Option.some.inj hdone]
    exact joined_addGroupMembers env 0 uids

lemma handleMsg_removeGroupMember :
    (handleMsg env db mgr session idRemoveGroupMemberReq src).1 =
      match removeRequest src with
      | none => db
      | some (groupId, uid) => (removeGroupMember (env.ok 0) db groupId uid).2 := by
  show ((removeGroupMemberReq env db session src).getD (db, [])).1 = _
  cases src with
  | none => rfl
  | some src =>
    simp only [removeGroupMemberReq, removeRequest, Option.bind_eq_bind, Option.bind_some]
    cases src.getInt "groupId" with
    | none => rfl
    | some groupId =>
      cases src.getInt "uid" with
      | none => rfl
      | some uid => rfl

/-! ## What they do to the owners -/

/-- New rows without the role `owner` change no owner. -/
lemma Joined.owners_eq (h : Joined db db') (groupId : ℤ) :
    owners db' groupId = owners db groupId := by
  obtain ⟨new, hnew, hmember⟩ := h.members
  have hnone : new.filter (fun m => m.group_id = groupId ∧ m.role = .owner) = [] := by
    rw [List.filter_eq_nil_iff]
    intro m hm hcond
    have howner : m.role = .owner := (of_decide_eq_true hcond).2
    rw [(hmember m hm).1] at howner
    cases howner
  rw [owners, owners, hnew, List.filter_append, hnone, List.append_nil]

lemma Joined.owned_iff (h : Joined db db') : Owned db' ↔ Owned db := by
  simp only [Owned, h.groups, h.owners_eq]

lemma Joined.linked (h : Joined db db') (hl : Linked db) : Linked db' := by
  obtain ⟨new, hnew, hmember⟩ := h.members
  intro m hm
  rw [hnew] at hm
  rw [h.groups]
  rcases List.mem_append.1 hm with hm | hm
  · exact hl m hm
  · exact (hmember m hm).2

/-- The owner of a group whose owner is not the user that is removed stays. -/
lemma owners_removeGroupMember (groupId uid : ℤ) {g : Group} (h : Owned db)
    (hg : g ∈ db.groups.rows) :
    owners (removeGroupMember true db groupId uid).2 g.group_id =
      if g.group_id = groupId ∧ g.owner_uid = uid then [] else owners db g.group_id := by
  obtain ⟨m, hm, huid⟩ := h g hg
  have hgid : m.group_id = g.group_id := by
    have hmem : m ∈ owners db g.group_id := hm ▸ List.mem_singleton_self m
    exact (of_decide_eq_true (List.mem_filter.1 hmem).2).1
  show (db.group_members.rows.filter fun m => !decide (m.group_id = groupId ∧ m.uid = uid)).filter
    _ = _
  -- the two filters commute, and only one row is left to the second
  rw [List.filter_comm]
  change (owners db g.group_id).filter _ = _
  rw [hm, List.filter_singleton, hgid, huid]
  split_ifs with hcond
  · simp [hcond]
  · simp [hcond]

/-- A new group has no member. -/
lemma ne_of_linked (h : Linked db) {groupId : ℤ} (hnew : db.groups.last < groupId) :
    ∀ m ∈ db.group_members.rows, m.group_id ≠ groupId := by
  intro m hm heq
  obtain ⟨g, hg, hkey⟩ := h m hm
  have := db.groups.key_le g hg
  omega

end Requests

/-! ## One request -/

section Step

variable {db db' : Database} {e : GroupEvent}

/-- A group that is inserted comes after all others, and its owner is inserted next. -/
lemma createGroup_of_founds {env : Env} {ownerUid : ℤ} (name avatar : String)
    (h : Founds env db ownerUid) :
    ∃ id groups, db.groups.last < id ∧
      groups.rows = db.groups.rows ++ [⟨id, name, ownerUid, avatar, env.now⟩] ∧
      (createGroup (env.ok 0) db (env.ok 1) env.gap env.now ownerUid name avatar).2 =
        (addGroupMember (env.ok 1) { db with groups := groups } id ownerUid .owner).2 := by
  obtain ⟨hok, huser, hmax⟩ := h
  rw [createGroup, hok, huser]
  split
  · split
    · next id groups hins =>
      obtain ⟨hlast, -, -, hrows⟩ := AutoTable.insert_spec hins
      exact ⟨id, groups, hlast, hrows, rfl⟩
    · next hins =>
      simp only [AutoTable.insert] at hins
      split_ifs at hins with hlt
      omega
  · next hfalse => exact absurd rfl hfalse

lemma createGroup_of_not_founds {env : Env} {ownerUid : ℤ} (name avatar : String)
    (h : ¬ Founds env db ownerUid) :
    (createGroup (env.ok 0) db (env.ok 1) env.gap env.now ownerUid name avatar).2 = db := by
  rw [createGroup]
  split
  · next hand =>
    split
    · next id groups hins =>
      simp only [AutoTable.insert] at hins
      split_ifs at hins with hlt
      obtain ⟨hok, huser⟩ := Bool.and_eq_true_iff.1 hand
      exact absurd ⟨hok, huser, not_lt.1 hlt⟩ h
    · rfl
  · rfl

/-- A new group whose owner is not inserted has no owner. -/
lemma not_owned_of_new (hl : Linked db) {g : Group} (hnew : db.groups.last < g.group_id)
    (hg : g ∈ db'.groups.rows) (hsame : db'.group_members = db.group_members) : ¬ Owned db' := by
  intro howned
  obtain ⟨m, hm, -⟩ := howned g hg
  have hmem : m ∈ owners db' g.group_id := hm ▸ List.mem_singleton_self m
  obtain ⟨hrow, hcond⟩ := List.mem_filter.1 hmem
  exact ne_of_linked hl hnew m (hsame ▸ hrow) (of_decide_eq_true hcond).1

/-- A new group whose owner is inserted has this owner, and the other groups keep theirs. -/
lemma owned_of_new (h : Owned db) (hl : Linked db) {g : Group}
    (hnew : db.groups.last < g.group_id) (hgroups : db'.groups.rows = db.groups.rows ++ [g])
    (hmembers : db'.group_members.rows =
      db.group_members.rows ++ [⟨g.group_id, g.owner_uid, .owner⟩]) : Owned db' := by
  intro g' hg'
  rw [hgroups] at hg'
  simp only [owners, hmembers, List.filter_append]
  rcases List.mem_append.1 hg' with hold | hone
  · -- the new member is in another group
    have hle := db.groups.key_le g' hold
    have hne : g.group_id ≠ g'.group_id := by omega
    simpa [hne, owners] using h g' hold
  · obtain rfl := List.mem_singleton.1 hone
    have hnone : db.group_members.rows.filter
        (fun m => m.group_id = g'.group_id ∧ m.role = .owner) = [] := by
      rw [List.filter_eq_nil_iff]
      intro m hm hcond
      exact ne_of_linked hl hnew m hm (of_decide_eq_true hcond).1
    refine ⟨⟨g'.group_id, g'.owner_uid, .owner⟩, ?_, rfl⟩
    rw [hnone]
    simp

/-- What `createGroup` does: nothing, or it inserts a group, with its owner when the second
statement succeeds. -/
inductive Created (env : Env) (db : Database) (ownerUid : ℤ) (db' : Database) : Prop
  | nothing (founds : ¬ Founds env db ownerUid) (same : db' = db)
  | group (g : Group) (founds : Founds env db ownerUid) (new : db.groups.last < g.group_id)
      (owner : g.owner_uid = ownerUid) (groups : db'.groups.rows = db.groups.rows ++ [g])
      (members : if env.ok 1 then
          db'.group_members.rows = db.group_members.rows ++ [⟨g.group_id, g.owner_uid, .owner⟩]
        else db'.group_members = db.group_members)

lemma created_createGroup (hl : Linked db) (env : Env) (ownerUid : ℤ) (name avatar : String) :
    Created env db ownerUid
      (createGroup (env.ok 0) db (env.ok 1) env.gap env.now ownerUid name avatar).2 := by
  by_cases hfounds : Founds env db ownerUid
  · obtain ⟨id, groups, hlast, hrows, heq⟩ := createGroup_of_founds name avatar hfounds
    rw [heq]
    cases hok : env.ok 1 with
    | false => exact .group _ hfounds hlast rfl hrows (by rw [hok]; exact rfl)
    | true =>
      have hgroup : ∃ g ∈ { db with groups := groups }.groups.rows, g.group_id = id :=
        ⟨⟨id, name, ownerUid, avatar, env.now⟩, hrows ▸ by simp, rfl⟩
      obtain ⟨group_members, hmembers, hadd⟩ :=
        addGroupMember_owner .owner hgroup hfounds.2.1 (ne_of_linked hl hlast)
      rw [hadd]
      exact .group _ hfounds hlast rfl hrows (by rw [hok]; exact hmembers)
  · exact .nothing hfounds (createGroup_of_not_founds name avatar hfounds)

lemma Created.linked {env : Env} {ownerUid : ℤ} (hl : Linked db)
    (h : Created env db ownerUid db') : Linked db' := by
  cases h with
  | nothing founds same => exact same ▸ hl
  | group g founds new owner groups members =>
    have hold : ∀ m ∈ db.group_members.rows, ∃ g ∈ db'.groups.rows, g.group_id = m.group_id := by
      intro m hm
      obtain ⟨g', hg', hkey⟩ := hl m hm
      exact ⟨g', groups ▸ List.mem_append_left _ hg', hkey⟩
    intro m hm
    split_ifs at members with hok
    · rw [members] at hm
      rcases List.mem_append.1 hm with hm | hm
      · exact hold m hm
      · obtain rfl := List.mem_singleton.1 hm
        exact ⟨g, groups ▸ List.mem_append_right _ (List.mem_singleton_self _), rfl⟩
    · exact hold m (members ▸ hm)

/-- The first request: the group has to get its owner. -/
lemma Created.owned_iff {env : Env} {ownerUid : ℤ} (ho : Owned db) (hl : Linked db)
    (h : Created env db ownerUid db') :
    Owned db' ↔ (Founds env db ownerUid → env.ok 1 = true) := by
  cases h with
  | nothing founds same => exact iff_of_true (same ▸ ho) fun hf => absurd hf founds
  | group g founds new owner groups members =>
    split_ifs at members with hok
    · exact iff_of_true (owned_of_new ho hl new groups members) fun _ => hok
    · refine iff_of_false ?_ fun hkeeps => hok (hkeeps founds)
      exact not_owned_of_new hl new
        (groups ▸ List.mem_append_right _ (List.mem_singleton_self _)) members

/-- The last request: the owner of a group must not be removed. -/
lemma owned_remove_iff (h : Owned db) (groupId uid : ℤ) :
    Owned (removeGroupMember true db groupId uid).2 ↔
      ∀ g ∈ db.groups.rows, g.group_id = groupId → g.owner_uid ≠ uid := by
  have howners := fun g hg => owners_removeGroupMember groupId uid h (g := g) hg
  constructor
  · intro howned g hg hgid huid
    obtain ⟨m, hm, -⟩ := howned g hg
    rw [howners g hg, if_pos ⟨hgid, huid⟩] at hm
    cases hm
  · intro hkeeps g hg
    rw [howners g hg, if_neg fun hcond => hkeeps g hg hcond.1 hcond.2]
    exact h g hg

lemma linked_removeGroupMember (hl : Linked db) (ok : Bool) (groupId uid : ℤ) :
    Linked (removeGroupMember ok db groupId uid).2 := by
  rw [removeGroupMember]
  split_ifs
  · intro m hm
    exact hl m (List.mem_of_mem_filter hm)
  · exact hl

lemma linked_step (hl : Linked db) (hstep : groupStep db e = some db') : Linked db' := by
  obtain rfl := Option.some.inj hstep
  cases hreq : e.request with
  | create =>
    simp only [GroupRequest.id, handleMsg_createGroup]
    split
    · exact hl
    · exact (created_createGroup hl e.env _ _ _).linked hl
  | add => exact joined_handleMsg.linked hl
  | remove =>
    simp only [GroupRequest.id, handleMsg_removeGroupMember]
    split
    · exact hl
    · exact linked_removeGroupMember hl _ _ _

/-- After a request that meets its condition, and after no other, every group has its owner. -/
lemma owned_step_iff (ho : Owned db) (hl : Linked db) (hstep : groupStep db e = some db') :
    Owned db' ↔ KeepsOwned db e := by
  obtain rfl := Option.some.inj hstep
  rw [KeepsOwned]
  cases hreq : e.request with
  | create =>
    simp only [GroupRequest.id, handleMsg_createGroup]
    split
    · next hnone =>
      refine iff_of_true ho fun ownerUid name avatar hsome => ?_
      cases hnone.symm.trans hsome
    · next ownerUid name avatar hsome =>
      rw [(created_createGroup hl e.env ownerUid name avatar).owned_iff ho hl, hsome]
      constructor
      · intro hkeeps ownerUid' name' avatar' heq hfounds
        cases heq
        exact hkeeps hfounds
      · intro hkeeps
        exact hkeeps ownerUid name avatar rfl
  | add => exact iff_of_true (joined_handleMsg.owned_iff.2 ho) trivial
  | remove =>
    simp only [GroupRequest.id, handleMsg_removeGroupMember]
    split
    · next hnone =>
      refine iff_of_true ho fun groupId uid hsome => ?_
      cases hnone.symm.trans hsome
    · next groupId uid hsome =>
      rw [hsome]
      cases hok : e.env.ok 0 with
      | false => exact iff_of_true ho fun _ _ _ hfalse => by cases hfalse
      | true =>
        rw [owned_remove_iff ho]
        constructor
        · intro hkeeps groupId' uid' heq _
          cases heq
          exact hkeeps
        · intro hkeeps
          exact hkeeps groupId uid rfl rfl

end Step

/-! ## Runs -/

section Runs

variable {db s : Database} {es : List GroupEvent}

/-- **In every state of a run each group has its owner, and no other, if and only if every step
of the run keeps it so**: a group that is inserted gets its owner, and no request removes an
owner from a group. -/
theorem owned_iff_keepsOwned (hl : Linked db) (ho : Owned db)
    (hrun : run groupStep db es = some s) :
    AllStates groupStep Owned db es ↔ AllSteps groupStep KeepsOwned db es :=
  allStates_iff_allSteps (I := Linked) (fun _ _ _ => linked_step)
    (fun _ _ _ hl ho hstep => owned_step_iff ho hl hstep) hrun hl ho

/-- A step of the servers in which no worker handles another request leaves the database alone
or is such a step. -/
theorem groups_refine {cfg : Config} {t t' : State} {e : Event} (h : step cfg t e = some t')
    (honly : ∀ S i alive env node queue, e = .work S i alive env → t.queues S i = node :: queue →
      ∃ request : GroupRequest, node._id = request.id) :
    ∃ es, run groupStep t.db es = some t'.db := by
  rcases db_step h with hdb | ⟨S, i, alive, env, node, queue, he, hqueue, hdb⟩
  · exact ⟨[], by rw [hdb]; rfl⟩
  · obtain ⟨request, hid⟩ := honly S i alive env node queue he hqueue
    rw [hdb, hid]
    exact ⟨[⟨request, env, t.reg.mgr S, node._session, cfg.codec.parse node._body⟩], rfl⟩

/-- User 1 creates a group. -/
def createEvent : GroupEvent :=
  ⟨.create, allSucceed, fun _ => none, client₁, some (.object
    [("ownerUid", .num 1), ("name", .str "friends")])⟩

/-- Somebody removes the owner of the first group. -/
def removeOwnerEvent : GroupEvent :=
  ⟨.remove, allSucceed, fun _ => none, client₂, some (.object
    [("groupId", .num 1), ("uid", .num 1)])⟩

lemma linked_twoUsers : Linked MySQLMgr.twoUsers := by
  intro m hm
  cases hm

lemma owned_twoUsers : Owned MySQLMgr.twoUsers := by
  intro g hg
  cases hg

/-- A group that is created while every statement succeeds has its owner. -/
theorem owned_created :
    AllStates groupStep Owned MySQLMgr.twoUsers [createEvent] :=
  (owned_iff_keepsOwned linked_twoUsers owned_twoUsers rfl).2
    ⟨fun _ _ _ _ _ => rfl, fun _ _ => trivial⟩

/-- The group is created, and then its owner is removed by another user. -/
theorem not_owned :
    ¬ ∀ (db s : Database) (es : List GroupEvent), Linked db → Owned db →
      run groupStep db es = some s → AllStates groupStep Owned db es := by
  intro h
  have howned := (h _ _ [createEvent, removeOwnerEvent] linked_twoUsers owned_twoUsers rfl).last rfl
  obtain ⟨m, hm, -⟩ := howned ⟨1, "friends", 1, "", "2025-06-01 12:00:00"⟩
    (List.mem_singleton_self _)
  cases hm

end Runs

end LogicSystem

end WeChat
