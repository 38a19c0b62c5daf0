/-
# What notifications say

Whatever a server tells a user of a message, a group message or a friend request is stored in the
database, with the same values, and so is the friendship when it tells of a request that was
accepted; nothing needs to be stored for one that was refused.  The handlers notify only of what
they have stored, and what they say stays true while the database grows.
-/
import WeChat.Chat.Durable
import WeChat.Chat.FriendAnswer
import WeChat.Chat.Paths

namespace WeChat

open Wire Relational Transition Json LogicSystem

/-! ## What a notification says -/

/-- The identifiers of notifications. -/
def notificationIds : List ℤ :=
  [idNotifyTextChatMsgReq, idNotifyImageChatMsgReq, idNotifyGroupChatMsgReq,
    idNotifyGroupImageChatMsgReq, idNotifyAddFriendReq, idNotifyAuthFriendRsp]

/-- The identifiers of answers, except the answer to a login. -/
def answerIds : List ℤ :=
  [idHeartbeatPong, idSearchUserRsp, idAddFriendRsp, idAuthFriendRsp, idTextChatMsgRsp,
    idImageChatMsgRsp, idFriendListRsp, idFriendRequestListRsp, idRecentMessagesRsp,
    idGetChatHistoryRsp, idCreateGroupRsp, idAddGroupMemberRsp, idRemoveGroupMemberRsp,
    idGroupChatMsgRsp, idGroupImageChatMsgRsp, idGetGroupListRsp, idGetGroupMembersRsp,
    idGetGroupChatHistoryRsp]

/-- No answer looks like a notification or like the answer to a login. -/
lemma notMem_of_mem_answerIds : ∀ id ∈ answerIds, id ∉ idChatLoginRsp :: notificationIds := by
  decide

/-- Whom a notification is meant for: a user, or the members of a group but one. -/
inductive Addressee
  | user (uid : ℤ)
  | group (groupId fromUid : ℤ)

/-- A user is one whom the notification is meant for; members come and go. -/
def Addressee.Includes (db : Database) : Addressee → ℤ → Prop
  | .user uid, uid' => uid' = uid
  | .group groupId fromUid, uid' =>
    uid' ≠ fromUid ∧ ∃ m ∈ db.group_members.rows, m.group_id = groupId ∧ m.uid = uid'

/-- What `getUserById` returns: the columns of the user, or nothing at all. -/
def IsUserInfo (db : Database) (uid : ℤ) (user : UserInfo) : Prop :=
  user = {} ∨ ∃ u ∈ db.users.rows, u.uid = uid ∧ user = u.info

/-- What `getGroupInfo` returns. -/
def IsGroupInfo (db : Database) (groupId : ℤ) (group : GroupInfo) : Prop :=
  group = {} ∨ ∃ g ∈ db.groups.rows, g.group_id = groupId ∧ group = g.info

/-- The stored row is a message of a kind. -/
structure OfKind (db : Database) (kind : MessageKind) (chatType : ℤ) (row : Message) : Prop where
  stored : row ∈ db.messages.rows
  chat_type : row.chat_type = chatType
  msg_type : row.msg_type = kind.msgType
  from_uid : toInt32 row.from_uid = row.from_uid
  to_uid : toInt32 row.to_uid = row.to_uid

/-- A notification of something that is stored, and the text that is published for it. -/
inductive Notice (db : Database) : Addressee → ℤ → Json → Json → Prop
  | message {kind : MessageKind} {body : Json} {extra : List (String × Json)} {row : Message}
      {fromUser : UserInfo} (hkind : kind = textChat ∨ kind = imageChat)
      (hextra : kind.extra body = some extra) (hrow : OfKind db kind 0 row)
      (huser : IsUserInfo db row.from_uid fromUser) :
      Notice db (.user row.to_uid) kind.notifyId
        (privateNotify extra row.id row.from_uid fromUser row.content row.send_time)
        (privatePublished kind extra row.id row.from_uid fromUser row.to_uid row.content
          row.send_time)
  | groupMessage {kind : MessageKind} {body : Json} {extra : List (String × Json)}
      {row : Message} {fromUser : UserInfo} {group : GroupInfo}
      (hkind : kind = groupText ∨ kind = groupImage) (hextra : kind.extra body = some extra)
      (hrow : OfKind db kind 1 row) (huser : IsUserInfo db row.from_uid fromUser)
      (hgroup : IsGroupInfo db row.to_uid group) :
      Notice db (.group row.to_uid row.from_uid) kind.notifyId
        (object (groupFields extra row.id row.from_uid fromUser row.to_uid group row.content
          row.send_time))
        (object (("type", .str kind.redisType) :: groupFields extra row.id row.from_uid fromUser
          row.to_uid group row.content row.send_time))
  | friendRequest {fromUid toUid : ℤ} {message now : String} {fromUser : UserInfo}
      (hfrom : toInt32 fromUid = fromUid) (hto : toInt32 toUid = toUid)
      (hrow : ∃ r ∈ db.friend_requests.rows, r.from_uid = fromUid ∧ r.to_uid = toUid ∧
        r.message = message)
      (huser : IsUserInfo db fromUid fromUser) :
      Notice db (.user toUid) idNotifyAddFriendReq
        (object [("fromUid", .num fromUid), ("fromName", .str fromUser.name),
          ("fromAvatar", .str fromUser.avatar), ("message", .str message),
          ("requestTime", .str now)])
        (object [("type", .str "friend_request"), ("fromUid", .num fromUid),
          ("fromName", .str fromUser.name), ("fromAvatar", .str fromUser.avatar),
          ("toUid", .num toUid), ("message", .str message), ("requestTime", .str now)])
  | friendAnswer {requestId fromUid toUid : ℤ} {accepted : Bool} {message : String}
      {toUser : UserInfo} (hrequest : toInt32 requestId = requestId)
      (hfrom : toInt32 fromUid = fromUid) (hto : toInt32 toUid = toUid)
      (hfriends : accepted = true → AreFriends db fromUid toUid)
      (huser : IsUserInfo db toUid toUser) :
      Notice db (.user fromUid) idNotifyAuthFriendRsp
        (object [("requestId", .num requestId), ("fromUid", .num toUid),
          ("fromName", .str toUser.name), ("toUid", .num fromUid), ("accepted", .bool accepted),
          ("message", .str message)])
        (object [("type", .str "auth_friend_rsp"), ("requestId", .num requestId),
          ("fromUid", .num fromUid), ("toUid", .num toUid), ("toName", .str toUser.name),
          ("accepted", .bool accepted), ("message", .str message)])

section Notice

variable {db db' : Database} {a : Addressee} {id : ℤ} {notifyJson redisMsg : Json}

lemma IsUserInfo.mono (h : db.Extends db') {uid : ℤ} {user : UserInfo}
    (hu : IsUserInfo db uid user) : IsUserInfo db' uid user := by
  rw [IsUserInfo, h.users]
  exact hu

lemma IsGroupInfo.mono (h : db.Extends db') {groupId : ℤ} {group : GroupInfo}
    (hg : IsGroupInfo db groupId group) : IsGroupInfo db' groupId group :=
  hg.imp_right fun ⟨g, hg, hkey⟩ => ⟨g, h.groups.subset hg, hkey⟩

lemma OfKind.mono (h : db.Extends db') {kind : MessageKind} {chatType : ℤ} {row : Message}
    (hrow : OfKind db kind chatType row) : OfKind db' kind chatType row :=
  { hrow with stored := h.messages.subset hrow.stored }

/-- What a notification says stays true while the database grows. -/
lemma Notice.mono (h : db.Extends db') (hn : Notice db a id notifyJson redisMsg) :
    Notice db' a id notifyJson redisMsg := by
  cases hn with
  | message hkind hextra hrow huser => exact .message hkind hextra (hrow.mono h) (huser.mono h)
  | groupMessage hkind hextra hrow huser hgroup =>
    exact .groupMessage hkind hextra (hrow.mono h) (huser.mono h) (hgroup.mono h)
  | friendRequest hfrom hto hrow huser =>
    obtain ⟨r, hr, rfl, rfl, rfl⟩ := hrow
    obtain ⟨r', hr', hasked⟩ := h.exists_asked hr
    simp only [FriendRequest.asked, Prod.mk.injEq] at hasked
    exact .friendRequest hfrom hto ⟨r', hr', hasked.2.1, hasked.2.2.1, hasked.2.2.2⟩
      (huser.mono h)
  | friendAnswer hrequest hfrom hto hfriends huser =>
    refine .friendAnswer hrequest hfrom hto (fun hacc => ?_) (huser.mono h)
    obtain ⟨f, hf, hends⟩ := hfriends hacc
    exact ⟨f, h.friendships.subset hf, hends⟩

/-- The published text can be read back. -/
lemma Notice.wf (hn : Notice db a id notifyJson redisMsg) : redisMsg.Wf := by
  cases hn with
  | message hkind hextra => exact wf_privatePublished (extra_of_private hkind) hextra _ _ _ _ _
  | groupMessage hkind hextra => exact wf_groupFields (extra_of_group hkind) hextra _ _ _ _ _ _ _
  | friendRequest => exact wf_object (by simp [Wf])
  | friendAnswer => exact wf_object (by simp [Wf])

lemma includes_of_recipients {ok : Bool} {fromUid groupId : ℤ} {member : UserInfo}
    (h : member ∈ recipients fromUid (MySQLMgr.getGroupMembers ok db groupId)) :
    (Addressee.group groupId fromUid).Includes db member.uid := by
  obtain ⟨hmember, hne⟩ := List.mem_filter.1 h
  refine ⟨of_decide_eq_true hne, ?_⟩
  cases ok with
  | false => exact absurd hmember List.not_mem_nil
  | true =>
    obtain ⟨u, -, hinfo⟩ := List.mem_flatMap.1 hmember
    obtain ⟨m, hm, rfl⟩ := List.mem_map.1 hinfo
    obtain ⟨hm, hcols⟩ := List.mem_filter.1 hm
    obtain ⟨huid, hgroup⟩ := of_decide_eq_true hcols
    exact ⟨m, hm, hgroup, huid.symm⟩

/-- The callback sends a notification on as it is, to sessions of users whom it is meant for. -/
lemma Notice.subscriberCallback (hn : Notice db a id notifyJson redisMsg) (env : Env)
    (db' : Database) (mgr : ℤ → Option Conn) :
    ∀ o ∈ LogicSystem.subscriberCallback env db' mgr (some redisMsg),
      ∃ uid c, a.Includes db' uid ∧ mgr uid = some c ∧ o = .send c id notifyJson := by
  have huser : ∀ {uid : ℤ}, ∀ o ∈ (mgr uid).toList.map fun c => Output.send c id notifyJson,
      ∃ uid' c, (Addressee.user uid).Includes db' uid' ∧ mgr uid' = some c ∧
        o = .send c id notifyJson := by
    intro uid o ho
    obtain ⟨c, hc, rfl⟩ := List.mem_map.1 ho
    exact ⟨uid, c, rfl, Option.mem_toList.1 hc, rfl⟩
  cases hn with
  | message hkind hextra hrow =>
    rw [subscriberCallback_privatePublished hextra hkind _ _ _ hrow.to_uid]
    exact huser
  | groupMessage hkind hextra hrow =>
    rw [subscriberCallback_groupPublished hextra hkind _ _ hrow.from_uid hrow.to_uid]
    intro o ho
    obtain ⟨member, hmember, hsend⟩ := List.mem_filterMap.1 ho
    obtain ⟨c, hc, rfl⟩ := Option.map_eq_some_iff.1 hsend
    exact ⟨member.uid, c, includes_of_recipients hmember, hc, rfl⟩
  | friendRequest hfrom hto =>
    rw [subscriberCallback_friendRequest _ _ hto]
    exact huser
  | friendAnswer hrequest hfrom =>
    rw [subscriberCallback_authResult _ hfrom]
    exact huser

end Notice

/-! ## What the handlers tell -/

/-- An output answers the session, or it is a notification, true in the database, on its path to
a user whom it is meant for. -/
def Tells (db : Database) (mgr : ℤ → Option Conn) (session : Conn) (o : Output) : Prop :=
  (∃ id msg, o = .send session id msg ∧ id ∈ answerIds) ∨
    ∃ a uid id notifyJson redisMsg, Notice db a id notifyJson redisMsg ∧ a.Includes db uid ∧
      o = notifyOrPublish mgr uid id notifyJson redisMsg

namespace LogicSystem

open MySQLMgr

section Handlers

variable {env : Env} {db : Database} {mgr : ℤ → Option Conn} {session : Conn}
  {src : Option Json} {done : Database × List Output}

lemma isUserInfo_getUserById (ok : Bool) (db : Database) (uid : ℤ) :
    IsUserInfo db uid (getUserById ok db uid) := by
  rw [getUserById]
  split_ifs
  · split
    · next u hfind =>
      exact .inr ⟨u, List.mem_of_find?_eq_some hfind, by simpa using List.find?_some hfind, rfl⟩
    · exact .inl rfl
  · exact .inl rfl

lemma isGroupInfo_getGroupInfo (ok : Bool) (db : Database) (groupId : ℤ) :
    IsGroupInfo db groupId (getGroupInfo ok db groupId) := by
  rw [getGroupInfo]
  split_ifs
  · split
    · next g hfind =>
      exact .inr ⟨g, List.mem_of_find?_eq_some hfind, by simpa using List.find?_some hfind, rfl⟩
    · exact .inl rfl
  · exact .inl rfl

lemma tells_answer {id : ℤ} {fields : List (String × Json)}
    (hid : id ∈ answerIds) :
    Tells db mgr session (answer session id fields) :=
  .inl ⟨id, object fields, rfl, hid⟩

/-- A handler that only answers notifies nobody. -/
lemma Settles.tells {id : ℤ} (h : Settles db session id done)
    (hid : id ∈ answerIds) :
    ∀ o ∈ done.2, Tells done.1 mgr session o := by
  obtain ⟨fields, hout⟩ := h.answered
  rw [hout]
  exact List.forall_mem_singleton.2 (tells_answer hid)

lemma tells_addFriend (h : addFriend env db mgr session src = some done) :
    ∀ o ∈ done.2, Tells done.1 mgr session o := by
  simp only [addFriend, Option.bind_eq_bind, Option.bind_eq_some_iff] at h
  obtain ⟨body, -, fromUid, hfrom, toUid, hto, message, -, h⟩ := h
  -- a request that succeeds has inserted its row
  have hrow : (addFriendRequest (env.ok 0) db env.gap fromUid toUid message).1 = true →
      ∃ r ∈ (addFriendRequest (env.ok 0) db env.gap fromUid toUid message).2.friend_requests.rows,
        r.from_uid = fromUid ∧ r.to_uid = toUid ∧ r.message = message := by
    rw [addFriendRequest]
    split_ifs
    · exact fun hfalse => by cases hfalse
    · exact fun hfalse => by cases hfalse
    · split
      · next id requests hins =>
        obtain ⟨-, -, -, hrows⟩ := AutoTable.insert_spec hins
        intro _
        refine ⟨⟨id, fromUid, toUid, message, .pending⟩, ?_, rfl, rfl, rfl⟩
        show _ ∈ requests.rows
        rw [hrows]
        exact List.mem_append_right _ List.mem_cons_self
      · exact fun hfalse => by cases hfalse
    · exact fun hfalse => by cases hfalse
    · exact fun hfalse => by cases hfalse
  generalize addFriendRequest (env.ok 0) db env.gap fromUid toUid message = asked at h hrow
  by_cases hok : asked.1 = true
  · rw [if_pos hok] at h
    obtain rfl := Option.some.inj h
    intro o ho
    rcases List.mem_cons.1 ho with rfl | ho
    · exact .inr ⟨_, toUid, _, _, _, .friendRequest (toInt32_of_getInt hfrom)
        (toInt32_of_getInt hto) (hrow hok) (isUserInfo_getUserById (env.ok 1) asked.2 fromUid), rfl,
        rfl⟩
    · obtain rfl := List.mem_singleton.1 ho
      exact tells_answer (by decide)
  · rw [if_neg hok] at h
    obtain rfl := Option.some.inj h
    exact List.forall_mem_singleton.2 (tells_answer (by decide))

lemma areFriends_addFriendRelation {ok : Bool} {gap : ℕ} {uid1 uid2 : ℤ}
    (h : (addFriendRelation ok db gap uid1 uid2).1 = true) :
    AreFriends (addFriendRelation ok db gap uid1 uid2).2 uid1 uid2 := by
  have hends : ∀ f : Friendship, f.user1_id = min uid1 uid2 → f.user2_id = max uid1 uid2 →
      (f.user1_id = uid1 ∧ f.user2_id = uid2) ∨ (f.user1_id = uid2 ∧ f.user2_id = uid1) := by
    omega
  simp only [addFriendRelation] at h ⊢
  split_ifs at h ⊢ with hok hrow husers
  · obtain ⟨f, hf, hcols⟩ := List.any_eq_true.1 hrow
    obtain ⟨h₁, h₂⟩ := of_decide_eq_true hcols
    exact ⟨f, hf, hends f h₁ h₂⟩
  · split at h
    · next id friendships hins =>
      obtain ⟨-, -, -, hrows⟩ := AutoTable.insert_spec hins
      refine ⟨⟨id, min uid1 uid2, max uid1 uid2⟩, ?_, hends _ rfl rfl⟩
      show _ ∈ friendships.rows
      rw [hrows]
      exact List.mem_append_right _ List.mem_cons_self
    · cases h

lemma tells_authFriend (h : authFriend env db mgr session src = some done) :
    ∀ o ∈ done.2, Tells done.1 mgr session o := by
  simp only [authFriend, Option.bind_eq_bind, Option.bind_eq_some_iff] at h
  obtain ⟨body, -, requestId, hrequest, fromUid, hfrom, toUid, hto, accepted, -, h⟩ := h
  generalize updateFriendRequestStatus (env.ok 0) db requestId accepted = first at h
  -- a request that is accepted with success has made the two friends
  have hfriends : ∀ second, (if (first.1 && accepted) = true then
      addFriendRelation (env.ok 1) first.2 env.gap fromUid toUid
    else (first.1, first.2)) = second → second.1 = true → accepted = true →
      AreFriends second.2 fromUid toUid := by
    rintro second rfl hok hacc
    split_ifs at hok ⊢ with hboth
    · exact areFriends_addFriendRelation hok
    · exact absurd (by rw [hacc, Bool.and_true]; exact hok) hboth
  generalize (if (first.1 && accepted) = true then
      addFriendRelation (env.ok 1) first.2 env.gap fromUid toUid
    else (first.1, first.2)) = second at h hfriends
  by_cases hok : second.1 = true
  · rw [if_pos hok] at h
    obtain rfl := Option.some.inj h
    intro o ho
    rcases List.mem_cons.1 ho with rfl | ho
    · exact .inr ⟨_, fromUid, _, _, _, .friendAnswer (toInt32_of_getInt hrequest)
        (toInt32_of_getInt hfrom) (toInt32_of_getInt hto) (hfriends second rfl hok)
        (isUserInfo_getUserById (env.ok 3) second.2 toUid), rfl, rfl⟩
    · obtain rfl := List.mem_singleton.1 ho
      exact tells_answer (by decide)
  · rw [if_neg hok] at h
    obtain rfl := Option.some.inj h
    exact List.forall_mem_singleton.2 (tells_answer (by decide))

/-- The row of a message that was inserted for a request. -/
lemma ofKind_of_stored {db' : Database} {mid fromUid toUid chatType : ℤ} {content time : String}
    {kind : MessageKind}
    (h : Stored db db' ⟨mid, fromUid, toUid, content, time, kind.msgType, 0, chatType⟩)
    (hfrom : toInt32 fromUid = fromUid) (hto : toInt32 toUid = toUid) :
    OfKind db' kind chatType ⟨mid, fromUid, toUid, content, time, kind.msgType, 0, chatType⟩ :=
  ⟨h.rows_eq ▸ List.mem_append_right _ List.mem_cons_self, rfl, rfl, hfrom, hto⟩

lemma tells_privateMessage {kind : MessageKind} (hkind : kind = textChat ∨ kind = imageChat)
    (h : privateMessage env db mgr session kind src = some done) :
    ∀ o ∈ done.2, Tells done.1 mgr session o := by
  have hrsp : kind.rspId ∈ answerIds := by
    rcases hkind with rfl | rfl <;> decide
  simp only [privateMessage, Option.bind_eq_bind, Option.bind_eq_some_iff] at h
  obtain ⟨body, -, fromUid, hfrom, toUid, hto, content, -, extra, hextra, h⟩ := h
  rcases hsave : saveMessage (env.ok 0) db env.gap fromUid toUid content env.now kind.msgType
    with ⟨mid, db'⟩
  rw [hsave] at h
  rcases insertMessage_spec hsave with ⟨rfl, rfl⟩ | hstored
  · obtain rfl := Option.some.inj h
    exact List.forall_mem_singleton.2 (tells_answer hrsp)
  · rw [if_pos hstored.id_pos] at h
    obtain rfl := Option.some.inj h
    have hrow := ofKind_of_stored hstored (toInt32_of_getInt hfrom) (toInt32_of_getInt hto)
    intro o ho
    rcases List.mem_cons.1 ho with rfl | ho
    · exact .inr ⟨_, toUid, _, _, _, .message hkind hextra hrow
        (isUserInfo_getUserById (env.ok 1) db' fromUid), rfl, rfl⟩
    · obtain rfl := List.mem_singleton.1 ho
      exact tells_answer hrsp

lemma tells_groupMessage {kind : MessageKind} (hkind : kind = groupText ∨ kind = groupImage)
    (h : groupMessage env db mgr session kind src = some done) :
    ∀ o ∈ done.2, Tells done.1 mgr session o := by
  have hrsp : kind.rspId ∈ answerIds := by
    rcases hkind with rfl | rfl <;> decide
  simp only [groupMessage, Option.bind_eq_bind, Option.bind_eq_some_iff] at h
  obtain ⟨body, -, fromUid, hfrom, groupId, hgroup, content, -, extra, hextra, h⟩ := h
  rcases hsave : saveGroupMessage (env.ok 0) db env.gap fromUid groupId content env.now
    kind.msgType with ⟨mid, db'⟩
  rw [hsave] at h
  rcases insertMessage_spec hsave with ⟨rfl, rfl⟩ | hstored
  · obtain rfl := Option.some.inj h
    exact List.forall_mem_singleton.2 (tells_answer hrsp)
  · rw [if_pos hstored.id_pos] at h
    obtain rfl := Option.some.inj h
    have hrow := ofKind_of_stored hstored (toInt32_of_getInt hfrom) (toInt32_of_getInt hgroup)
    intro o ho
    rcases List.mem_append.1 ho with ho | ho
    · obtain ⟨member, hmember, rfl⟩ := List.mem_map.1 ho
      exact .inr ⟨_, member.uid, _, _, _, .groupMessage hkind hextra hrow
        (isUserInfo_getUserById (env.ok 1) db' fromUid)
        (isGroupInfo_getGroupInfo (env.ok 2) db' groupId),
        includes_of_recipients hmember, rfl⟩
    · obtain rfl := List.mem_singleton.1 ho
      exact tells_answer hrsp

/-- Every handler answers its session, and what it tells others is stored. -/
lemma tells_handleMsg (env : Env) (db : Database) (mgr : ℤ → Option Conn) (session : Conn)
    (id : ℤ) (src : Option Json) :
    ∀ o ∈ (handleMsg env db mgr session id src).2,
      Tells (handleMsg env db mgr session id src).1 mgr session o := by
  rw [handleMsg]
  cases hh : (msgHandler env db mgr session id).bind fun handler => handler src with
  | none => exact fun o ho => absurd ho List.not_mem_nil
  | some done =>
    obtain ⟨handler, hhandler, hdone⟩ := Option.bind_eq_some_iff.1 hh
    have hall : ∀ done, handler src = some done → ∀ o ∈ done.2, Tells done.1 mgr session o :=
      forall_msgHandler
        (P := fun _ handler => ∀ done, handler src = some done →
          ∀ o ∈ done.2, Tells done.1 mgr session o)
        (fun _ h => (settles_friendList h).tells (by decide))
        (fun _ h => (settles_searchUser h).tells (by decide))
        (fun _ => tells_addFriend) (fun _ => tells_authFriend)
        (fun _ => tells_privateMessage (.inl rfl)) (fun _ => tells_privateMessage (.inr rfl))
        (fun _ h => (settles_chatHistory h).tells (by decide))
        (fun _ h => (settles_createGroupReq h).tells (by decide))
        (fun _ h => (settles_addGroupMemberReq h).tells (by decide))
        (fun _ h => (settles_removeGroupMemberReq h).tells (by decide))
        (fun _ => tells_groupMessage (.inl rfl)) (fun _ => tells_groupMessage (.inr rfl))
        (fun _ h => (settles_groupList h).tells (by decide))
        (fun _ h => (settles_groupMembers h).tells (by decide))
        (fun _ h => (settles_groupChatHistory h).tells (by decide)) hhandler
    exact hall done hdone

end Handlers

end LogicSystem

end WeChat
