/-
# The online flags of lists

Every entry of a friend list and of a member list says whether its user is online.  What it says
is whether the `SessionMgr` of the server that sends the list has an entry of the user.  Redis
has the users of all servers in `online_users`, but no list looks there: so the flag is right
exactly for the users whose entry on the server stands for a live session on some server.
-/
import WeChat.Chat.FanOut

namespace WeChat

open Wire Framed Transition Json

/-! ## Lists and their entries -/

/-- The items of an array in a field of a message. -/
def listItems (msg : Json) (field : String) : List Json :=
  match msg.get field with
  | some (.arr items) => items
  | _ => []

/-- The entries of a message that is a friend list or a member list. -/
def listEntries (id : ℤ) (msg : Json) : List Json :=
  if id = idFriendListRsp then listItems msg "friends"
  else if id = idGetGroupMembersRsp then listItems msg "members"
  else []

/-- The entries of the list that an output sends. -/
def Output.entries : Output → List Json
  | .send _ id msg => listEntries id msg
  | .publish _ _ => []

/-- The entries of the lists that were sent between two states. -/
def sentEntries (s s' : State) : List Json :=
  (s'.sent.drop s.sent.length).flatMap fun m => listEntries m.2.1 m.2.2

/-- The flag of an entry says whether some server has a live session of the user. -/
def FlagRight (r : Registry) (entry : Json) : Prop :=
  ∀ f, entry.get "uid" = some (.num f) →
    (entry.get "isOnline" = some (.bool true) ↔ ∃ c, r.Live f c)

/-- The flags of the lists that an event sends are right. -/
def OnlineRight (cfg : Config) (s : State) (e : Event) : Prop :=
  ∀ s', step cfg s e = some s' → ∀ entry ∈ sentEntries s s', FlagRight s'.reg entry

/-! ## The users in a list -/

section Listed

open MySQLMgr

/-- The users in the list that answers a request. -/
def usersListed (env : Env) (db : Database) (id : ℤ) (src : Option Json) : List UserInfo :=
  if id = idFriendListReq then
    match src.bind (·.getInt "uid") with
    | some uid => getFriendList (env.ok 0) db uid
    | none => []
  else if id = idGetGroupMembersReq then
    match src.bind (·.getInt "groupId") with
    | some groupId => getGroupMembers (env.ok 0) db groupId
    | none => []
  else []

/-- The friends in the initial data after a login. -/
def usersGreeted (env : Env) (db : Database) : Option ℤ → List UserInfo
  | some uid => if 0 < uid then getFriendList (env.ok 0) db uid else []
  | none => []

/-- The users in the list that an event sends. -/
def usersSent (cfg : Config) (s : State) : Event → List UserInfo
  | .read c bytes env =>
    usersGreeted env s.db ((CSession.onRead (s.reg.session c).reading bytes).1.bind fun m =>
      CSession.loginOf cfg env m.1 m.2)
  | .work S i alive env =>
    match s.queues S i with
    | node :: _ =>
      if s.reg.lock node._session alive then
        usersListed env s.db node._id (cfg.codec.parse node._body)
      else []
    | [] => []
  | _ => []

/-- The server of an event. -/
def Event.server : Event → ℕ
  | .accept c => c.srv
  | .read c _ _ => c.srv
  | .readError c _ => c.srv
  | .writeError c => c.srv
  | .work S _ _ _ => S
  | .deliver S _ => S

/-- On a server the entry of a user is not left over from sessions that are gone, and no live
session of the user on any server is without an entry on this one. -/
def Registry.Seen (r : Registry) (S : ℕ) (f : ℤ) : Prop :=
  (r.mgr S f ≠ none → ∃ c, r.Live f c) ∧ ∀ c, r.Live f c → r.mgr S f ≠ none

/-- The users in the list that an event sends are seen by its server when the list is made. -/
def ListsSeen (cfg : Config) (s : State) (e : Event) : Prop :=
  ∀ u ∈ usersSent cfg s e, (s.reg.apply (regEvent cfg s e)).Seen e.server u.uid

end Listed

/-! ## What an output lists -/

namespace LogicSystem

open MySQLMgr

section Outputs

variable {env : Env} {db : Database} {mgr : ℤ → Option Conn} {session : Conn}
  {src : Option Json} {done : Database × List Output}

lemma listItems_object (fields : List (String × Json)) (field : String) :
    listItems (object fields) field =
      match (fields.reverse.lookup field).getD .null with
      | .arr items => items
      | _ => [] := by
  rw [listItems, get_object]
  cases (fields.reverse.lookup field).getD .null <;> rfl

/-- The messages of other identifiers are no lists. -/
lemma listEntries_eq_nil {id : ℤ} (hfriends : id ≠ idFriendListRsp)
    (hmembers : id ≠ idGetGroupMembersRsp) (msg : Json) : listEntries id msg = [] := by
  rw [listEntries, if_neg hfriends, if_neg hmembers]

lemma entries_answer {id : ℤ} {fields : List (String × Json)} (hfriends : id ≠ idFriendListRsp)
    (hmembers : id ≠ idGetGroupMembersRsp) : (answer session id fields).entries = [] :=
  listEntries_eq_nil hfriends hmembers _

/-- An error code is no list, whatever the identifier. -/
lemma entries_answerError (session : Conn) (id : ℤ) (error : ErrorCodes) :
    (answerError session id error).entries = [] := by
  have hnone : ∀ field, field ≠ "error" →
      listItems (object [("error", .num error.code)]) field = [] := by
    intro field hfield
    rw [listItems_object]
    simp [List.lookup, beq_false_of_ne hfield]
  show listEntries id (object [("error", .num error.code)]) = []
  rw [listEntries]
  split_ifs
  · exact hnone "friends" (by decide)
  · exact hnone "members" (by decide)
  · rfl

lemma entries_notifyOrPublish {uid id : ℤ} {notifyJson redisMsg : Json}
    (hfriends : id ≠ idFriendListRsp) (hmembers : id ≠ idGetGroupMembersRsp) :
    (notifyOrPublish mgr uid id notifyJson redisMsg).entries = [] := by
  rw [notifyOrPublish]
  split
  · exact listEntries_eq_nil hfriends hmembers _
  · rfl

/-- None of the outputs is a list. -/
def Unlisting (outputs : List Output) : Prop := ∀ o ∈ outputs, o.entries = []

lemma Unlisting.flatMap {outputs : List Output} (h : Unlisting outputs) :
    outputs.flatMap Output.entries = [] :=
  List.flatMap_eq_nil_iff.2 h

lemma unlisting_answer {id : ℤ} {fields : List (String × Json)} (hfriends : id ≠ idFriendListRsp)
    (hmembers : id ≠ idGetGroupMembersRsp) : Unlisting [answer session id fields] :=
  List.forall_mem_singleton.2 (entries_answer hfriends hmembers)

lemma unlisting_answerError (id : ℤ) (error : ErrorCodes) :
    Unlisting [answerError session id error] :=
  List.forall_mem_singleton.2 (entries_answerError session id error)

lemma unlisting_searchUser (h : searchUser env db session src = some done) :
    Unlisting done.2 := by
  simp only [searchUser, Option.bind_eq_bind, Option.bind_eq_some_iff] at h
  obtain ⟨src, -, searchKey, -, searchType, -, h⟩ := h
  obtain rfl := Option.some.inj h
  exact unlisting_answer (by decide) (by decide)

lemma unlisting_addFriend (h : addFriend env db mgr session src = some done) :
    Unlisting done.2 := by
  simp only [addFriend, Option.bind_eq_bind, Option.bind_eq_some_iff] at h
  obtain ⟨body, -, fromUid, -, toUid, -, message, -, h⟩ := h
  split_ifs at h
  · obtain rfl := Option.some.inj h
    exact List.forall_mem_cons.2 ⟨entries_notifyOrPublish (by decide) (by decide),
      unlisting_answerError _ _⟩
  · obtain rfl := Option.some.inj h
    exact unlisting_answerError _ _

lemma unlisting_authFriend (h : authFriend env db mgr session src = some done) :
    Unlisting done.2 := by
  simp only [authFriend, Option.bind_eq_bind, Option.bind_eq_some_iff] at h
  obtain ⟨src, -, requestId, -, fromUid, -, toUid, -, accepted, -, h⟩ := h
  generalize updateFriendRequestStatus (env.ok 0) db requestId accepted = first at h
  generalize (if (first.1 && accepted) = true then
      addFriendRelation (env.ok 1) first.2 env.gap fromUid toUid
    else (first.1, first.2)) = second at h
  by_cases hok : second.1 = true
  · rw [if_pos hok] at h
    obtain rfl := Option.some.inj h
    exact List.forall_mem_cons.2 ⟨entries_notifyOrPublish (by decide) (by decide),
      unlisting_answerError _ _⟩
  · rw [if_neg hok] at h
    obtain rfl := Option.some.inj h
    exact unlisting_answerError _ _

lemma unlisting_privateMessage {kind : MessageKind} (hkind : kind = textChat ∨ kind = imageChat)
    (h : privateMessage env db mgr session kind src = some done) : Unlisting done.2 := by
  obtain ⟨body, fromUid, toUid, content, extra, -, -, -, -, -, hdone⟩ := privateMessage_spec h
  rcases hdone with rfl | ⟨mid, db', fromUser, -, rfl⟩
  · exact unlisting_answerError _ _
  · refine List.forall_mem_cons.2 ⟨entries_notifyOrPublish ?_ ?_, unlisting_answer ?_ ?_⟩ <;>
      rcases hkind with rfl | rfl <;> decide

lemma unlisting_groupMessage {kind : MessageKind} (hkind : kind = groupText ∨ kind = groupImage)
    (h : groupMessage env db mgr session kind src = some done) : Unlisting done.2 := by
  obtain ⟨body, fromUid, groupId, content, extra, -, -, -, -, -, hdone⟩ := groupMessage_spec h
  rcases hdone with rfl | ⟨mid, db', fromUser, group, -, rfl⟩
  · exact unlisting_answerError _ _
  · intro o ho
    rcases List.mem_append.1 ho with ho | ho
    · obtain ⟨member, -, rfl⟩ := List.mem_map.1 ho
      refine entries_notifyOrPublish ?_ ?_ <;> rcases hkind with rfl | rfl <;> decide
    · obtain rfl := List.mem_singleton.1 ho
      refine entries_answer ?_ ?_ <;> rcases hkind with rfl | rfl <;> decide

lemma unlisting_chatHistory (h : chatHistory env db session src = some done) :
    Unlisting done.2 := by
  simp only [chatHistory] at h
  split at h <;> obtain rfl := Option.some.inj h
  · exact unlisting_answer (by decide) (by decide)
  · exact unlisting_answerError _ _

lemma unlisting_createGroupReq (h : createGroupReq env db session src = some done) :
    Unlisting done.2 := by
  simp only [createGroupReq, Option.bind_eq_bind, Option.bind_eq_some_iff] at h
  obtain ⟨body, -, ownerUid, -, name, -, avatar, -, h⟩ := h
  split_ifs at h <;> obtain rfl := Option.some.inj h
  · exact unlisting_answer (by decide) (by decide)
  · exact unlisting_answerError _ _

lemma unlisting_addGroupMemberReq (h : addGroupMemberReq env db session src = some done) :
    Unlisting done.2 := by
  simp only [addGroupMemberReq, Option.bind_eq_bind, Option.bind_eq_some_iff] at h
  obtain ⟨src, -, groupId, -, uids, -, h⟩ := h
  obtain rfl := Option.some.inj h
  exact unlisting_answerError _ _

lemma unlisting_removeGroupMemberReq (h : removeGroupMemberReq env db session src = some done) :
    Unlisting done.2 := by
  simp only [removeGroupMemberReq, Option.bind_eq_bind, Option.bind_eq_some_iff] at h
  obtain ⟨src, -, groupId, -, uid, -, h⟩ := h
  obtain rfl := Option.some.inj h
  exact unlisting_answerError _ _

lemma unlisting_groupList (h : groupList env db session src = some done) : Unlisting done.2 := by
  simp only [groupList, Option.bind_eq_bind, Option.bind_eq_some_iff] at h
  obtain ⟨src, -, uid, -, h⟩ := h
  obtain rfl := Option.some.inj h
  exact unlisting_answer (by decide) (by decide)

lemma unlisting_groupChatHistory (h : groupChatHistory env db session src = some done) :
    Unlisting done.2 := by
  simp only [groupChatHistory, Option.bind_eq_bind, Option.bind_eq_some_iff] at h
  obtain ⟨src, -, groupId, -, count, -, offset, -, h⟩ := h
  obtain rfl := Option.some.inj h
  exact unlisting_answer (by decide) (by decide)

end Outputs

/-! ## What a request lists -/

section Requests

variable (env : Env) (db : Database) (mgr : ℤ → Option Conn) (session : Conn)

lemma entries_friends (users : List UserInfo) :
    (answer session idFriendListRsp [("error", .num ErrorCodes.success.code),
      ("friends", .arr (users.map (userJson mgr)))]).entries = users.map (userJson mgr) := by
  show listEntries idFriendListRsp _ = _
  rw [listEntries, if_pos rfl, listItems_object]
  simp

lemma entries_members (groupId : ℤ) (users : List UserInfo) :
    (answer session idGetGroupMembersRsp [("error", .num ErrorCodes.success.code),
      ("groupId", .num groupId), ("members", .arr (users.map (userJson mgr)))]).entries =
      users.map (userJson mgr) := by
  show listEntries idGetGroupMembersRsp _ = _
  rw [listEntries, if_neg (by decide), if_pos rfl, listItems_object]
  simp

/-- A handler lists the users that a request of its identifier asks for. -/
def Lists (id : ℤ) (handler : Option Json → Option (Database × List Output)) : Prop :=
  ∀ src, ((handler src).getD (db, [])).2.flatMap Output.entries =
    (usersListed env db id src).map (userJson mgr)

variable {env db mgr session}

/-- A handler of another identifier that sends no list. -/
lemma lists_of_unlisting {id : ℤ} {handler : Option Json → Option (Database × List Output)}
    (hfriends : id ≠ idFriendListReq) (hmembers : id ≠ idGetGroupMembersReq)
    (h : ∀ {src done}, handler src = some done → Unlisting done.2) :
    Lists env db mgr id handler := by
  intro src
  rw [usersListed, if_neg hfriends, if_neg hmembers]
  cases hdone : handler src with
  | none => rfl
  | some done => exact (h hdone).flatMap

lemma lists_friendList :
    Lists env db mgr idFriendListReq (friendList env db mgr session) := by
  intro src
  rw [usersListed, if_pos rfl, friendList]
  cases src.bind (·.getInt "uid") with
  | none => exact (unlisting_answerError _ _).flatMap
  | some uid => exact (List.flatMap_singleton ..).trans (entries_friends mgr session _)

lemma lists_groupMembers :
    Lists env db mgr idGetGroupMembersReq (groupMembers env db mgr session) := by
  intro src
  rw [usersListed, if_neg (by decide), if_pos rfl]
  cases src with
  | none => rfl
  | some body =>
    simp only [groupMembers, Option.bind_eq_bind, Option.bind_some]
    cases body.getInt "groupId" with
    | none => rfl
    | some groupId =>
      exact (List.flatMap_singleton ..).trans (entries_members mgr session groupId _)

/-- **The lists that a worker sends have an entry for every user that the request asks for.** -/
theorem entries_handleMsg (env : Env) (db : Database) (mgr : ℤ → Option Conn) (session : Conn)
    (id : ℤ) (src : Option Json) :
    (handleMsg env db mgr session id src).2.flatMap Output.entries =
      (usersListed env db id src).map (userJson mgr) := by
  rw [handleMsg]
  cases hhandler : msgHandler env db mgr session id with
  | none =>
    have hfriends : id ≠ idFriendListReq := by
      rintro rfl
      cases hhandler
    have hmembers : id ≠ idGetGroupMembersReq := by
      rintro rfl
      cases hhandler
    rw [usersListed, if_neg hfriends, if_neg hmembers]
    rfl
  | some handler =>
    have hall : Lists env db mgr id handler :=
      forall_msgHandler (P := Lists env db mgr) lists_friendList
        (lists_of_unlisting (by decide) (by decide) unlisting_searchUser)
        (lists_of_unlisting (by decide) (by decide) unlisting_addFriend)
        (lists_of_unlisting (by decide) (by decide) unlisting_authFriend)
        (lists_of_unlisting (by decide) (by decide) (unlisting_privateMessage (.inl rfl)))
        (lists_of_unlisting (by decide) (by decide) (unlisting_privateMessage (.inr rfl)))
        (lists_of_unlisting (by decide) (by decide) unlisting_chatHistory)
        (lists_of_unlisting (by decide) (by decide) unlisting_createGroupReq)
        (lists_of_unlisting (by decide) (by decide) unlisting_addGroupMemberReq)
        (lists_of_unlisting (by decide) (by decide) unlisting_removeGroupMemberReq)
        (lists_of_unlisting (by decide) (by decide) (unlisting_groupMessage (.inl rfl)))
        (lists_of_unlisting (by decide) (by decide) (unlisting_groupMessage (.inr rfl)))
        (lists_of_unlisting (by decide) (by decide) unlisting_groupList) lists_groupMembers
        (lists_of_unlisting (by decide) (by decide) unlisting_groupChatHistory) hhandler
    exact hall src

/-- The initial data have an entry for every friend of the user who has logged in. -/
lemma entries_sendInitialData (codec : Codec) (env : Env) (db : Database) (mgr : ℤ → Option Conn)
    (c : Conn) (uid : ℤ) :
    (CSession.sendInitialData codec env db mgr c uid).flatMap Output.entries =
      (usersGreeted env db (some uid)).map (userJson mgr) := by
  rw [usersGreeted]
  by_cases hpos : 0 < uid
  · obtain ⟨rest, heq, hrest⟩ := CSession.sendInitialData_eq_cons codec env db mgr c hpos
    -- the pending requests and the recent messages are no lists of users
    have hnone : Unlisting rest := by
      intro o ho
      obtain ⟨list, rfl | rfl⟩ := hrest o ho
      · exact unlisting_answer (by decide) (by decide) _ (List.mem_singleton_self _)
      · exact unlisting_answer (by decide) (by decide) _ (List.mem_singleton_self _)
    rw [heq, if_pos hpos, List.flatMap_cons, hnone.flatMap, List.append_nil]
    exact entries_friends mgr c _
  · rw [CSession.sendInitialData, CSession.initialData, if_pos (not_lt.1 hpos), if_neg hpos]
    rfl

lemma unlisting_notifyUser {msg : Json} {uidField : String} {id : ℤ}
    {fields : List (String × String)} {outputs : List Output} (hfriends : id ≠ idFriendListRsp)
    (hmembers : id ≠ idGetGroupMembersRsp)
    (h : notifyUser mgr msg uidField id fields = some outputs) : Unlisting outputs := by
  simp only [notifyUser, Option.bind_eq_bind, Option.bind_eq_some_iff] at h
  obtain ⟨uid, -, h⟩ := h
  split at h
  · obtain ⟨notify, -, h⟩ := Option.bind_eq_some_iff.1 h
    obtain rfl := Option.some.inj h
    exact List.forall_mem_singleton.2 (listEntries_eq_nil hfriends hmembers _)
  · obtain rfl := Option.some.inj h
    exact fun o ho => absurd ho List.not_mem_nil

lemma unlisting_notifyGroup {msg : Json} {id : ℤ} {fields : List String}
    {outputs : List Output} (hfriends : id ≠ idFriendListRsp)
    (hmembers : id ≠ idGetGroupMembersRsp)
    (h : notifyGroup env db mgr msg id fields = some outputs) : Unlisting outputs := by
  simp only [notifyGroup, Option.bind_eq_bind, Option.bind_eq_some_iff] at h
  obtain ⟨groupId, -, notify, -, fromUid, -, h⟩ := h
  obtain rfl := Option.some.inj h
  intro o ho
  obtain ⟨member, -, hsend⟩ := List.mem_filterMap.1 ho
  obtain ⟨c, -, rfl⟩ := Option.map_eq_some_iff.1 hsend
  exact listEntries_eq_nil hfriends hmembers _

/-- What other servers publish makes no list. -/
lemma unlisting_subscriberCallback (env : Env) (db : Database) (mgr : ℤ → Option Conn)
    (msg : Option Json) : Unlisting (subscriberCallback env db mgr msg) := by
  intro o ho
  simp only [subscriberCallback, Option.bind_eq_bind] at ho
  generalize hcall : Option.bind msg _ = call at ho
  cases call with
  | none => exact absurd ho List.not_mem_nil
  | some outputs =>
    obtain ⟨msg, -, hcall⟩ := Option.bind_eq_some_iff.1 hcall
    obtain ⟨type, -, hcall⟩ := Option.bind_eq_some_iff.1 hcall
    refine (?_ : Unlisting outputs) o ho
    split_ifs at hcall
    · exact unlisting_notifyUser (by decide) (by decide) hcall
    · exact unlisting_notifyGroup (by decide) (by decide) hcall
    · exact unlisting_notifyUser (by decide) (by decide) hcall
    · exact unlisting_notifyGroup (by decide) (by decide) hcall
    · exact unlisting_notifyUser (by decide) (by decide) hcall
    · exact unlisting_notifyUser (by decide) (by decide) hcall
    · obtain rfl := Option.some.inj hcall
      exact fun o ho => absurd ho List.not_mem_nil

end Requests

end LogicSystem

/-! ## What a step lists -/

section Step

open LogicSystem

variable {cfg : Config} {s s' : State}

lemma sentEntries_of_sent_eq (h : s'.sent = s.sent) : sentEntries s s' = [] := by
  rw [sentEntries, h, List.drop_length]
  rfl

lemma sentEntries_perform (outputs : List Output)
    (h : s'.sent = s.sent ++ outputs.filterMap Output.sent) :
    sentEntries s s' = outputs.flatMap Output.entries := by
  have hsent : (outputs.filterMap Output.sent).flatMap (fun m => listEntries m.2.1 m.2.2) =
      outputs.flatMap Output.entries := by
    clear h
    induction outputs with
    | nil => rfl
    | cons o outputs ih =>
      cases o with
      | send session id msg =>
        have hcons : (Output.send session id msg :: outputs).filterMap Output.sent =
            (session, id, msg) :: outputs.filterMap Output.sent := rfl
        rw [hcons, List.flatMap_cons, List.flatMap_cons, ih]
        rfl
      | publish uid msg => exact ih
  rw [sentEntries, h, List.drop_left, hsent]

/-- A message that a session handles sends a list only after an accepted login. -/
lemma sentEntries_handleMessage (env : Env) (c : Conn) (msgId : ℤ) (msgBody : Bytes) :
    sentEntries s (s.handleMessage cfg env c msgId msgBody) =
      (usersGreeted env s.db (CSession.loginOf cfg env msgId msgBody)).map
        (userJson ((s.handleMessage cfg env c msgId msgBody).reg.mgr c.srv)) := by
  unfold State.handleMessage CSession.loginOf
  by_cases hping : msgId = idHeartbeatPing
  · have hlogin : msgId ≠ idChatLogin := hping ▸ by decide
    rw [if_pos hping, if_neg hlogin, sentEntries_perform _ rfl]
    exact (unlisting_answer (by decide) (by decide)).flatMap
  · rw [if_neg hping]
    by_cases hlogin : msgId = idChatLogin
    · rw [if_pos hlogin, if_pos hlogin]
      cases CSession.loginRequest (cfg.codec.parse msgBody) with
      | exception =>
        refine (sentEntries_perform _ rfl).trans ?_
        exact (unlisting_answerError _ _).flatMap
      | ignored => exact sentEntries_of_sent_eq rfl
      | credentials uid token =>
        simp only
        split_ifs
        · -- the answer to the login comes before the initial data
          refine (sentEntries_perform _ rfl).trans ?_
          rw [List.flatMap_cons, entries_sendInitialData, entries_answer (by decide) (by decide)]
          rfl
        · rw [sentEntries_perform _ rfl]
          exact (unlisting_answer (by decide) (by decide)).flatMap
    · rw [if_neg hlogin, if_neg hlogin]
      split_ifs
      · rw [sentEntries_perform _ rfl]
        exact (unlisting_answerError _ _).flatMap
      · obtain ⟨queues, heq, -⟩ := State.postMsgToQueue_spec cfg s ⟨msgId, msgBody, c⟩
        rw [heq]
        exact sentEntries_of_sent_eq rfl

/-- **The lists that a step sends have an entry for every user in them, with the flag that the
server of the step gives the user.** -/
theorem sentEntries_step {e : Event} (h : step cfg s e = some s') :
    sentEntries s s' = (usersSent cfg s e).map (userJson (s'.reg.mgr e.server)) := by
  cases e with
  | accept c =>
    obtain ⟨reg, rfl⟩ := step_ends h (.inl rfl)
    exact sentEntries_of_sent_eq rfl
  | read c bytes env =>
    simp only [step] at h
    split_ifs at h
    rw [usersSent]
    cases hm : (CSession.onRead (s.reg.session c).reading bytes).1 with
    | none =>
      rw [hm] at h
      obtain rfl := Option.some.inj h
      exact sentEntries_of_sent_eq rfl
    | some m =>
      rw [hm] at h
      obtain rfl := Option.some.inj h
      exact sentEntries_handleMessage (s := { s with reg := s.reg.readDone c bytes }) env c m.1 m.2
  | readError c ec =>
    obtain ⟨reg, rfl⟩ := step_ends h (.inr (.inl ⟨ec, rfl⟩))
    exact sentEntries_of_sent_eq rfl
  | writeError c =>
    obtain ⟨reg, rfl⟩ := step_ends h (.inr (.inr rfl))
    exact sentEntries_of_sent_eq rfl
  | work S i alive env =>
    obtain ⟨node, queue, base, done, hqueue, rfl, rfl, ⟨hlock, rfl⟩ | ⟨hlock, rfl⟩⟩ := step_take h
    · -- the worker has got hold of the session
      simp only [usersSent, hqueue, hlock, if_true]
      exact (sentEntries_perform _ rfl).trans (entries_handleMsg _ _ _ _ _ _)
    · simp only [usersSent, hqueue, hlock]
      exact sentEntries_of_sent_eq rfl
  | deliver S env =>
    obtain ⟨text, texts, -, rfl⟩ := step_deliver h
    refine (sentEntries_perform _ rfl).trans ?_
    exact (unlisting_subscriberCallback _ _ _ _).flatMap

lemma usersSent_work {S i : ℕ} {alive : Bool} {env : Env} {node : LogicNode}
    {queue : List LogicNode} (hqueue : s.queues S i = node :: queue)
    (hlock : s.reg.lock node._session alive = true) :
    usersSent cfg s (.work S i alive env) =
      usersListed env s.db node._id (cfg.codec.parse node._body) := by
  simp only [usersSent, hqueue, hlock, if_true]

/-- The flag of an entry is that of the `SessionMgr` it was made with. -/
lemma flagRight_userJson_iff {r : Registry} {S : ℕ} {u : UserInfo} :
    FlagRight r (userJson (r.mgr S) u) ↔ r.Seen S u.uid := by
  have huid : (userJson (r.mgr S) u).get "uid" = some (.num u.uid) := by
    rw [userJson, get_object]
    simp [List.lookup]
  have honline : (userJson (r.mgr S) u).get "isOnline" =
      some (.bool (r.mgr S u.uid).isSome) := by
    rw [userJson, get_object]
    simp
  have hflag : FlagRight r (userJson (r.mgr S) u) ↔
      (r.mgr S u.uid ≠ none ↔ ∃ c, r.Live u.uid c) := by
    simp [FlagRight, huid, honline, Option.isSome_iff_ne_none]
  exact hflag.trans (iff_def.trans (and_congr_right fun _ => forall_exists_index))

/-- The flags that an event sends are right exactly when its server sees the users in the list. -/
lemma onlineRight_iff_listsSeen {e : Event} (h : step cfg s e = some s') :
    OnlineRight cfg s e ↔ ListsSeen cfg s e := by
  have hreg := (reg_step h).2
  have hright : OnlineRight cfg s e ↔ ∀ u ∈ usersSent cfg s e,
      FlagRight s'.reg (userJson (s'.reg.mgr e.server) u) := by
    simp only [OnlineRight, h, Option.some_inj, forall_eq', sentEntries_step h,
      List.forall_mem_map]
  rw [hright, ListsSeen, ← hreg]
  simp only [flagRight_userJson_iff]

end Step

/-! ## Runs -/

section Runs

variable {cfg : Config} {db : Database} {s : State} {es : List Event}

/-- When every live connection is found, a user with live sessions is seen on a server exactly
when one of them is there. -/
lemma Registry.Routed.seen_iff {r : Registry} (h : r.Routed) (hl : Registry.Local r) {S : ℕ}
    {f : ℤ} : r.Seen S f ↔ ((∃ c, r.Live f c) → ∃ c, c.srv = S ∧ r.Live f c) := by
  have hentry : ∀ {c}, r.mgr S f = some c → c.srv = S ∧ r.Live f c :=
    fun hm => ⟨hl.mgr_srv hm, h.exact S f _ hm⟩
  constructor
  · rintro ⟨-, hlisted⟩ ⟨c, hc⟩
    obtain ⟨c', hc'⟩ := Option.ne_none_iff_exists'.1 (hlisted c hc)
    exact ⟨c', hentry hc'⟩
  · intro hthere
    refine ⟨fun hm => ?_, fun c hc => ?_⟩
    · obtain ⟨c, hc⟩ := Option.ne_none_iff_exists'.1 hm
      exact ⟨c, (hentry hc).2⟩
    · obtain ⟨c', rfl, hc'⟩ := hthere ⟨c, hc⟩
      exact h.registered hc'

/-- **In a careful run a flag can only be wrong for a user whose live sessions are all on other
servers.** -/
theorem onlineRight_careful_iff {s' : State} {e : Event}
    (hrun : run (step cfg) (.init db) es = some s)
    (hcareful : AllSteps (step cfg) (fun s e => s.reg.Careful (regEvent cfg s e)) (.init db) es)
    (h : step cfg s e = some s') (hc : s.reg.Careful (regEvent cfg s e)) :
    OnlineRight cfg s e ↔ ∀ u ∈ usersSent cfg s e,
      (∃ c, s'.reg.Live u.uid c) → ∃ c, c.srv = e.server ∧ s'.reg.Live u.uid c := by
  obtain ⟨hl, hr⟩ := routed_of_run ((run_append_of hrun).trans (run_cons h []))
    (hcareful.append hrun ⟨hc, fun _ _ => trivial⟩)
  rw [onlineRight_iff_listsSeen h, ListsSeen, ← (reg_step h).2]
  exact forall₂_congr fun u _ => hr.seen_iff hl

/-- **In a run the flags of all lists are right, if and only if no list is sent while its server
has an entry of a listed user without a live session, or a listed user has a live session on
some server and no entry on the one that sends the list.** -/
theorem onlineRight_iff (hrun : run (step cfg) (.init db) es = some s) :
    AllSteps (step cfg) (OnlineRight cfg) (.init db) es ↔
      AllSteps (step cfg) (ListsSeen cfg) (.init db) es :=
  AllSteps.congr_of_run (fun _ _ _ => onlineRight_iff_listsSeen) hrun

/-- The request for the members of group 1. -/
def membersBody : Json := Json.object [("groupId", .num 1)]

lemma wf_membersBody : membersBody.Wf := Json.wf_object (by simp [Json.Wf])

/-- Without a database there is nobody in the initial data. -/
lemma listsSeen_noDatabase (s : State) (c : Conn) (bytes : Bytes) :
    ListsSeen cfg s (.read c bytes noDatabase) := by
  have hnobody : usersSent cfg s (.read c bytes noDatabase) = [] := by
    rw [usersSent]
    generalize Option.bind _ _ = login
    cases login with
    | none => rfl
    | some uid => exact ite_self _
  intro u hu
  rw [hnobody] at hu
  exact absurd hu List.not_mem_nil

/-- Two members of a group are on the server that is asked for the members. -/
theorem onlineRight_sameServer :
    AllSteps (step compactConfig) (OnlineRight compactConfig) (.init pair)
      (sameServerRun idGetGroupMembersReq membersBody ++ [.work 0 1 true allSucceed]) := by
  obtain ⟨hrun, -⟩ := run_sameServer pair idGetGroupMembersReq membersBody
    (by decide) (by decide) (by decide) ⟨by decide, by decide⟩
  have hstep := step_worked
    (s := sameServer pair (request idGetGroupMembersReq membersBody)) wf_membersBody rfl
  refine (onlineRight_iff ((run_append_of hrun).trans (run_cons hstep []))).2
    (.append ?_ hrun ⟨?_, fun _ _ => trivial⟩)
  · refine .of_forall (fun s e he => ?_) _
    have hnobody : ∀ c, ListsSeen compactConfig s (.accept c) := fun c u hu =>
      absurd hu List.not_mem_nil
    simp only [sameServerRun, bothOnlineRun, connect, received, List.cons_append, List.nil_append,
      List.mem_cons, List.not_mem_nil, or_false] at he
    rcases he with rfl | rfl | rfl | rfl | rfl | rfl | rfl | rfl
    · exact hnobody _
    · exact listsSeen_noDatabase s _ _
    · exact listsSeen_noDatabase s _ _
    · exact hnobody _
    all_goals exact listsSeen_noDatabase s _ _
  · -- the list has both members, and each is registered and live
    have hqueue : (sameServer pair (request idGetGroupMembersReq membersBody)).queues 0 1 =
        [request idGetGroupMembersReq membersBody] := rfl
    have hparse : compactConfig.codec.parse (request idGetGroupMembersReq membersBody)._body =
        some membersBody := compactConfig.codec.parse_dump wf_membersBody
    have hlisted : usersSent compactConfig _ (.work 0 1 true allSucceed) = _ :=
      usersSent_work hqueue rfl
    rw [hparse] at hlisted
    intro u hu
    rw [hlisted] at hu
    have huid : u.uid = 1 ∨ u.uid = 2 := by
      revert u
      decide
    refine ⟨fun _ => ?_, fun _ _ => ?_⟩
    · rcases huid with huid | huid <;> rw [huid]
      · exact ⟨client₁, (live_sameServer 1 client₁).2 (.inr ⟨rfl, rfl⟩)⟩
      · exact ⟨client₂, (live_sameServer 2 client₂).2 (.inl ⟨rfl, rfl⟩)⟩
    · rcases huid with huid | huid <;> rw [huid]
      · exact Option.some_ne_none client₁
      · exact Option.some_ne_none client₂

/-- Users 1 and 2 are friends. -/
def befriended : Database := (MySQLMgr.addFriendRelation true MySQLMgr.twoUsers 0 1 2).2

/-- User 2 is logged in at server 1 when user 1 logs in at server 0, and is shown as offline. -/
theorem not_onlineRight_otherServer :
    ∃ s e, run (step compactConfig) (.init befriended)
        (connect compactConfig client₃ 2 "u" noDatabase ++ [.accept client₁,
          .read client₁ (header idChatLogin (loginBody compactConfig 1 "t").length) noDatabase]) =
          some s ∧
      s.reg.Live 2 client₃ ∧ ¬ OnlineRight compactConfig s e := by
  let t : State := { State.init befriended with
    reg := ((Registry.init.accept client₃).login client₃ 2).accept client₁
    sent := greeting client₃ "u" }
  have hconnect : run (step compactConfig) (.init befriended)
      (connect compactConfig client₃ 2 "u" noDatabase) = some { State.init befriended with
        reg := (Registry.init.accept client₃).login client₃ 2
        sent := greeting client₃ "u" } :=
    run_connect_noDatabase rfl (by decide) (by decide) ⟨by decide, by decide⟩
  have haccept : step compactConfig { State.init befriended with
        reg := (Registry.init.accept client₃).login client₃ 2
        sent := greeting client₃ "u" } (.accept client₁) = some t := rfl
  have hread : (t.reg.session client₁).reading = .head := rfl
  have hheader : step compactConfig t (.read client₁
      (header idChatLogin (loginBody compactConfig 1 "t").length) noDatabase) = _ :=
    step_header hread (by decide) ⟨by decide, by decide⟩
  have hbody : step compactConfig (t.awaiting client₁ idChatLogin (loginBody compactConfig 1 "t"))
      (.read client₁ (loginBody compactConfig 1 "t") allSucceed) = _ := step_body hread
  have hlogin : CSession.loginOf compactConfig allSucceed idChatLogin
      (loginBody compactConfig 1 "t") = some 1 := by
    rw [CSession.loginOf, if_pos rfl, CSession.loginRequest_loginBody (by decide)]
    rfl
  refine ⟨t.awaiting client₁ idChatLogin (loginBody compactConfig 1 "t"),
    .read client₁ (loginBody compactConfig 1 "t") allSucceed, ?_, ?_, fun hright => ?_⟩
  · rw [run_append_of hconnect, run_cons haccept, run_cons hheader, run_nil]
  · exact ⟨rfl, rfl, by decide, rfl⟩
  · -- the friend of user 1 is in the list, is live at server 1 and has no entry at server 0
    have hseen := (onlineRight_iff_listsSeen hbody).1 hright
    rw [ListsSeen, ← (reg_step hbody).2, State.reg_handleMessage, hlogin] at hseen
    have hsent : usersSent compactConfig
        (t.awaiting client₁ idChatLogin (loginBody compactConfig 1 "t"))
        (.read client₁ (loginBody compactConfig 1 "t") allSucceed) =
        usersGreeted allSucceed befriended (some 1) := by
      rw [usersSent, reading_awaiting, CSession.onRead, Option.bind_some, hlogin]
      rfl
    obtain ⟨-, hlisted⟩ := hseen ⟨2, "bob", "bob@example.com", "", ""⟩ (by
      rw [hsent]
      exact List.mem_singleton_self _)
    exact hlisted client₃ ⟨rfl, rfl, by decide, rfl⟩ rfl

end Runs

end WeChat
