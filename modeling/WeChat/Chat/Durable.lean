/-
# What is stored stays

No request makes the servers change a stored message, a friendship, a group or the users of a
friend request: tables grow at their end, and only the status of a friend request changes.
-/
import WeChat.Chat.Attribution

namespace WeChat

open Wire Relational Transition Json LogicSystem

/-! ## Tables that grow -/

/-- What a friend request asks; its status is left out. -/
def FriendRequest.asked (r : FriendRequest) : ℤ × ℤ × ℤ × String :=
  (r.id, r.from_uid, r.to_uid, r.message)

/-- The rows of a database are still there, and new ones stand behind them. -/
structure Database.Extends (db db' : Database) : Prop where
  users : db'.users = db.users
  friendships : db.friendships.rows <+: db'.friendships.rows
  friend_requests :
    db.friend_requests.rows.map FriendRequest.asked <+:
      db'.friend_requests.rows.map FriendRequest.asked
  messages : db.messages.rows <+: db'.messages.rows
  groups : db.groups.rows <+: db'.groups.rows

section Extends

variable {db db' db₁ db₂ db₃ : Database}

lemma Database.Extends.refl (db : Database) : db.Extends db :=
  ⟨rfl, List.prefix_rfl, List.prefix_rfl, List.prefix_rfl, List.prefix_rfl⟩

lemma Database.Extends.trans (h : db₁.Extends db₂) (h' : db₂.Extends db₃) : db₁.Extends db₃ where
  users := h'.users.trans h.users
  friendships := h.friendships.trans h'.friendships
  friend_requests := h.friend_requests.trans h'.friend_requests
  messages := h.messages.trans h'.messages
  groups := h.groups.trans h'.groups

/-- A friend request that was stored is there, perhaps with another status. -/
lemma Database.Extends.exists_asked (h : db.Extends db') {r : FriendRequest}
    (hr : r ∈ db.friend_requests.rows) : ∃ r' ∈ db'.friend_requests.rows, r'.asked = r.asked :=
  List.mem_map.1 (h.friend_requests.subset (List.mem_map_of_mem hr))

namespace MySQLMgr

variable (ok : Bool) (db : Database) (gap : ℕ)

lemma extends_addFriendRequest (fromUid toUid : ℤ) (message : String) :
    db.Extends (addFriendRequest ok db gap fromUid toUid message).2 := by
  rw [addFriendRequest]
  split_ifs
  · exact .refl db
  · exact .refl db
  · split
    · next id requests hins =>
      obtain ⟨-, -, -, hrows⟩ := AutoTable.insert_spec hins
      refine ⟨rfl, List.prefix_rfl, ?_, List.prefix_rfl, List.prefix_rfl⟩
      rw [hrows, List.map_append]
      exact List.prefix_append _ _
    · exact .refl db
  · exact .refl db
  · exact .refl db

lemma extends_updateFriendRequestStatus (requestId : ℤ) (accepted : Bool) :
    db.Extends (updateFriendRequestStatus ok db requestId accepted).2 := by
  cases ok with
  | false => exact .refl db
  | true =>
    refine ⟨rfl, List.prefix_rfl, ?_, List.prefix_rfl, List.prefix_rfl⟩
    show db.friend_requests.rows.map FriendRequest.asked <+:
      (List.map _ db.friend_requests.rows).map FriendRequest.asked
    rw [List.map_map]
    -- a request with another status asks the same
    have hsame : ∀ r ∈ db.friend_requests.rows, FriendRequest.asked r =
        FriendRequest.asked (if r.id = requestId then
          { r with status := if accepted then .accepted else .rejected } else r) := by
      intro r _
      split_ifs <;> rfl
    exact (List.map_congr_left hsame) ▸ List.prefix_rfl

lemma extends_addFriendRelation (uid1 uid2 : ℤ) :
    db.Extends (addFriendRelation ok db gap uid1 uid2).2 := by
  simp only [addFriendRelation]
  split_ifs
  · exact .refl db
  · split
    · next id friendships hins =>
      obtain ⟨-, -, -, hrows⟩ := AutoTable.insert_spec hins
      refine ⟨rfl, ?_, List.prefix_rfl, List.prefix_rfl, List.prefix_rfl⟩
      rw [hrows]
      exact List.prefix_append _ _
    · exact .refl db
  · exact .refl db
  · exact .refl db

lemma extends_insertMessage (fromUid toUid : ℤ) (content time : String) (msgType chatType : ℤ) :
    db.Extends (insertMessage ok db gap fromUid toUid content time msgType chatType).2 := by
  rw [insertMessage]
  split_ifs
  · split
    · next id messages hins =>
      obtain ⟨-, -, -, hrows⟩ := AutoTable.insert_spec hins
      refine ⟨rfl, List.prefix_rfl, List.prefix_rfl, ?_, List.prefix_rfl⟩
      rw [hrows]
      exact List.prefix_append _ _
    · exact .refl db
  · exact .refl db

lemma extends_addGroupMember (groupId uid : ℤ) (role : Role) :
    db.Extends (addGroupMember ok db groupId uid role).2 := by
  rw [addGroupMember]
  split_ifs
  · split
    · exact ⟨rfl, List.prefix_rfl, List.prefix_rfl, List.prefix_rfl, List.prefix_rfl⟩
    · exact .refl db
  · exact .refl db

lemma extends_createGroup (ok' : Bool) (now : String) (ownerUid : ℤ) (name avatar : String) :
    db.Extends (createGroup ok db ok' gap now ownerUid name avatar).2 := by
  rw [createGroup]
  split_ifs
  · split
    · next id groups hins =>
      obtain ⟨-, -, -, hrows⟩ := AutoTable.insert_spec hins
      have hgroup : db.Extends { db with groups := groups } := by
        refine ⟨rfl, List.prefix_rfl, List.prefix_rfl, List.prefix_rfl, ?_⟩
        show db.groups.rows <+: groups.rows
        rw [hrows]
        exact List.prefix_append _ _
      exact hgroup.trans (extends_addGroupMember ok' _ id ownerUid .owner)
    · exact .refl db
  · exact .refl db

/-- Members may leave; this is the one table that loses rows. -/
lemma extends_removeGroupMember (groupId uid : ℤ) :
    db.Extends (removeGroupMember ok db groupId uid).2 := by
  rw [removeGroupMember]
  split_ifs
  · exact ⟨rfl, List.prefix_rfl, List.prefix_rfl, List.prefix_rfl, List.prefix_rfl⟩
  · exact .refl db

end MySQLMgr

end Extends

/-! ## Requests -/

namespace LogicSystem

open MySQLMgr

section Handlers

variable {env : Env} {db : Database} {mgr : ℤ → Option Conn} {session : Conn}
  {src : Option Json} {done : Database × List Output}

lemma extends_addFriend (h : addFriend env db mgr session src = some done) :
    db.Extends done.1 := by
  simp only [addFriend, Option.bind_eq_bind, Option.bind_eq_some_iff] at h
  obtain ⟨body, -, fromUid, -, toUid, -, message, -, h⟩ := h
  have hdb := extends_addFriendRequest (env.ok 0) db env.gap fromUid toUid message
  split_ifs at h
  · exact Option.some.inj h ▸ hdb
  · exact Option.some.inj h ▸ hdb

lemma extends_authFriend (h : authFriend env db mgr session src = some done) :
    db.Extends done.1 := by
  simp only [authFriend, Option.bind_eq_bind, Option.bind_eq_some_iff] at h
  obtain ⟨body, -, requestId, -, fromUid, -, toUid, -, accepted, -, h⟩ := h
  have hfirst := extends_updateFriendRequestStatus (env.ok 0) db requestId accepted
  generalize updateFriendRequestStatus (env.ok 0) db requestId accepted = first at h hfirst
  have hsecond : db.Extends (if (first.1 && accepted) = true then
      addFriendRelation (env.ok 1) first.2 env.gap fromUid toUid
    else (first.1, first.2)).2 := by
    split_ifs
    · exact hfirst.trans (extends_addFriendRelation (env.ok 1) first.2 env.gap fromUid toUid)
    · exact hfirst
  generalize (if (first.1 && accepted) = true then
      addFriendRelation (env.ok 1) first.2 env.gap fromUid toUid
    else (first.1, first.2)) = second at h hsecond
  by_cases hok : second.1 = true
  · rw [if_pos hok] at h
    exact Option.some.inj h ▸ hsecond
  · rw [if_neg hok] at h
    exact Option.some.inj h ▸ hsecond

lemma extends_privateMessage {kind : MessageKind}
    (h : privateMessage env db mgr session kind src = some done) : db.Extends done.1 := by
  simp only [privateMessage, Option.bind_eq_bind, Option.bind_eq_some_iff] at h
  obtain ⟨body, -, fromUid, -, toUid, -, content, -, extra, -, h⟩ := h
  have hdb := extends_insertMessage (env.ok 0) db env.gap fromUid toUid content env.now
    kind.msgType 0
  rw [← saveMessage] at hdb
  split_ifs at h
  · exact Option.some.inj h ▸ hdb
  · exact Option.some.inj h ▸ hdb

lemma extends_groupMessage {kind : MessageKind}
    (h : groupMessage env db mgr session kind src = some done) : db.Extends done.1 := by
  simp only [groupMessage, Option.bind_eq_bind, Option.bind_eq_some_iff] at h
  obtain ⟨body, -, fromUid, -, groupId, -, content, -, extra, -, h⟩ := h
  have hdb := extends_insertMessage (env.ok 0) db env.gap fromUid groupId content env.now
    kind.msgType 1
  rw [← saveGroupMessage] at hdb
  split_ifs at h
  · exact Option.some.inj h ▸ hdb
  · exact Option.some.inj h ▸ hdb

/-- A handler that notifies nobody: the database grows, and its one output is an answer. -/
structure Settles (db : Database) (session : Conn) (id : ℤ) (done : Database × List Output) :
    Prop where
  grows : db.Extends done.1
  answered : ∃ fields, done.2 = [answer session id fields]

lemma settles_answer {db' : Database} {id : ℤ} {fields : List (String × Json)}
    (h : db.Extends db') : Settles db session id (db', [answer session id fields]) :=
  ⟨h, fields, rfl⟩

lemma settles_createGroupReq (h : createGroupReq env db session src = some done) :
    Settles db session idCreateGroupRsp done := by
  simp only [createGroupReq, Option.bind_eq_bind, Option.bind_eq_some_iff] at h
  obtain ⟨body, -, ownerUid, -, name, -, avatar, -, h⟩ := h
  have hdb := extends_createGroup (env.ok 0) db env.gap (env.ok 1) env.now ownerUid name avatar
  split_ifs at h
  · exact Option.some.inj h ▸ settles_answer hdb
  · exact Option.some.inj h ▸ settles_answer hdb

lemma extends_addGroupMembers (groupId : ℤ) (uids : List ℤ) (i : ℕ) (db : Database) :
    db.Extends (addGroupMembers env groupId i db uids).2 := by
  induction uids generalizing i db with
  | nil => exact .refl db
  | cons uid uids ih =>
    have hone := extends_addGroupMember (env.ok i) db groupId uid .member
    rw [addGroupMembers]
    split
    · next heq =>
      rw [heq] at hone
      exact hone.trans (ih _ _)
    · next heq =>
      rw [heq] at hone
      exact hone

lemma settles_addGroupMemberReq (h : addGroupMemberReq env db session src = some done) :
    Settles db session idAddGroupMemberRsp done := by
  simp only [addGroupMemberReq, Option.bind_eq_bind, Option.bind_eq_some_iff] at h
  obtain ⟨body, -, groupId, -, uids, -, h⟩ := h
  exact Option.some.inj h ▸ settles_answer (extends_addGroupMembers groupId uids 0 db)

lemma settles_removeGroupMemberReq (h : removeGroupMemberReq env db session src = some done) :
    Settles db session idRemoveGroupMemberRsp done := by
  simp only [removeGroupMemberReq, Option.bind_eq_bind, Option.bind_eq_some_iff] at h
  obtain ⟨body, -, groupId, -, uid, -, h⟩ := h
  exact Option.some.inj h ▸
    settles_answer (extends_removeGroupMember (env.ok 0) db groupId uid)

lemma settles_friendList (h : friendList env db mgr session src = some done) :
    Settles db session idFriendListRsp done := by
  rw [friendList] at h
  split at h
  · exact Option.some.inj h ▸ settles_answer (.refl db)
  · exact Option.some.inj h ▸ settles_answer (.refl db)

lemma settles_chatHistory (h : chatHistory env db session src = some done) :
    Settles db session idGetChatHistoryRsp done := by
  simp only [chatHistory] at h
  split at h
  · exact Option.some.inj h ▸ settles_answer (.refl db)
  · exact Option.some.inj h ▸ settles_answer (.refl db)

lemma settles_searchUser (h : searchUser env db session src = some done) :
    Settles db session idSearchUserRsp done := by
  simp only [searchUser, Option.bind_eq_bind, Option.bind_eq_some_iff] at h
  obtain ⟨body, -, searchKey, -, searchType, -, h⟩ := h
  exact Option.some.inj h ▸ settles_answer (.refl db)

lemma settles_groupList (h : groupList env db session src = some done) :
    Settles db session idGetGroupListRsp done := by
  simp only [groupList, Option.bind_eq_bind, Option.bind_eq_some_iff] at h
  obtain ⟨body, -, uid, -, h⟩ := h
  exact Option.some.inj h ▸ settles_answer (.refl db)

lemma settles_groupMembers (h : groupMembers env db mgr session src = some done) :
    Settles db session idGetGroupMembersRsp done := by
  simp only [groupMembers, Option.bind_eq_bind, Option.bind_eq_some_iff] at h
  obtain ⟨body, -, groupId, -, h⟩ := h
  exact Option.some.inj h ▸ settles_answer (.refl db)

lemma settles_groupChatHistory (h : groupChatHistory env db session src = some done) :
    Settles db session idGetGroupChatHistoryRsp done := by
  simp only [groupChatHistory, Option.bind_eq_bind, Option.bind_eq_some_iff] at h
  obtain ⟨body, -, groupId, -, count, -, offset, -, h⟩ := h
  exact Option.some.inj h ▸ settles_answer (.refl db)

/-- Whatever the request, nothing that was stored is lost. -/
lemma extends_handleMsg (env : Env) (db : Database) (mgr : ℤ → Option Conn) (session : Conn)
    (id : ℤ) (src : Option Json) : db.Extends (handleMsg env db mgr session id src).1 := by
  rw [handleMsg]
  cases hh : (msgHandler env db mgr session id).bind fun handler => handler src with
  | none => exact .refl db
  | some done =>
    obtain ⟨handler, hhandler, hdone⟩ := Option.bind_eq_some_iff.1 hh
    have hall : ∀ done, handler src = some done → db.Extends done.1 :=
      forall_msgHandler
        (P := fun _ handler => ∀ done, handler src = some done → db.Extends done.1)
        (fun _ h => (settles_friendList h).grows) (fun _ h => (settles_searchUser h).grows)
        (fun _ => extends_addFriend) (fun _ => extends_authFriend)
        (fun _ => extends_privateMessage) (fun _ => extends_privateMessage)
        (fun _ h => (settles_chatHistory h).grows) (fun _ h => (settles_createGroupReq h).grows)
        (fun _ h => (settles_addGroupMemberReq h).grows)
        (fun _ h => (settles_removeGroupMemberReq h).grows)
        (fun _ => extends_groupMessage) (fun _ => extends_groupMessage)
        (fun _ h => (settles_groupList h).grows) (fun _ h => (settles_groupMembers h).grows)
        (fun _ h => (settles_groupChatHistory h).grows) hhandler
    exact hall done hdone

end Handlers

end LogicSystem

/-! ## Runs -/

section Runs

open MySQLMgr

variable {cfg : Config} {s s₁ t : State}

lemma extends_step {e : Event} (h : step cfg s e = some t) : s.db.Extends t.db := by
  rcases db_step h with hdb | ⟨S, i, alive, env, node, queue, -, -, hdb⟩
  · exact hdb ▸ .refl s.db
  · exact hdb ▸ extends_handleMsg env s.db (s.reg.mgr S) node._session node._id _

/-- **Nothing that was stored is lost.**  After any run from any state the messages, friendships
and groups are those from before, with new ones behind them; the users are the same; and every
friend request is still there, of the same users and with the same text. -/
theorem extends_of_run {es : List Event} (hrun : run (step cfg) s es = some t) :
    s.db.Extends t.db :=
  run_invariant (I := fun t : State => s.db.Extends t.db)
    (fun _ _ _ hs h => hs.trans (extends_step h)) hrun (.refl s.db)

end Runs

/-- User 1 has sent a text to user 2, who is logged in at the same server. -/
def textSent : State := (sameServer MySQLMgr.twoUsers textRequest).worked idTextChatMsgReq textBody

/-- The events that lead to this state. -/
def textSentRun : List Event :=
  sameServerRun idTextChatMsgReq textBody ++ [.work 0 1 true allSucceed]

lemma run_textSent :
    run (step compactConfig) (.init MySQLMgr.twoUsers) textSentRun = some textSent := by
  obtain ⟨hrun, -⟩ := run_sameServer MySQLMgr.twoUsers idTextChatMsgReq textBody
    (by decide) (by decide) (by decide) ⟨by decide, by decide⟩
  exact (run_append_of hrun).trans (run_cons (step_worked wf_textBody rfl) [])

/-- The users are kept when a text is stored. -/
theorem extends_textSent : MySQLMgr.twoUsers.Extends textSent.db := extends_of_run run_textSent

end WeChat
