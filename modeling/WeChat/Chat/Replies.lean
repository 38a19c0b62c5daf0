/-
# What requests are answered

Every request has an identifier of its own, and its answer has the next one.  A handler that does
not throw sends one answer, after any number of notifications, and two of the handlers answer
with an error when a field cannot be converted; the others throw, and nobody answers.
-/
import WeChat.Chat.Authentication
import WeChat.Chat.Schema

namespace WeChat

open Wire Json LogicSystem

/-! ## Requests and answers -/

/-- The fields of an `ID_CHAT_LOGIN`. -/
def loginSchema : List (String × Kind) := [("uid", .int), ("token", .str)]

/-- The fields of the requests whose handlers catch what is thrown. -/
def caughtSchemas : List (ℤ × List (String × Kind)) :=
  [(idFriendListReq, [("uid", .int)]),
    (idGetChatHistoryReq,
      [("uid", .int), ("contactUid", .int), ("count", .int), ("offset", .int)])]

/-- The fields of all requests. -/
def requestSchemas : List (ℤ × List (String × Kind)) :=
  (idChatLogin, loginSchema) :: (caughtSchemas ++ schemas)

/-- The identifiers of the answers. -/
def replyIds : List ℤ := requestSchemas.map fun r => r.1 + 1

/-- The text is that of a value whose fields can be converted. -/
def Accepts (fields : List (String × Kind)) (src : Option Json) : Prop :=
  ∃ body vs, src = some body ∧ readFields body fields = some vs

/-- What some outputs send under the identifiers of answers. -/
def replies (outputs : List Output) : List (Conn × ℤ × Json) :=
  (outputs.filterMap Output.sent).filter fun m => m.2.1 ∈ replyIds

/-- The message holds an error code that is not that of a success. -/
def HasError (msg : Json) : Prop := ∃ code, msg.get "error" = some (.num code) ∧ code ≠ 0

lemma hasError_answerError {error : ErrorCodes} (h : error.code ≠ 0) :
    HasError (object [("error", .num error.code)]) :=
  ⟨error.code, rfl, h⟩

namespace LogicSystem

open MySQLMgr

section Replies

variable {env : Env} {db : Database} {mgr : ℤ → Option Conn} {session : Conn} {id : ℤ}
  {src : Option Json} {done : Database × List Output} {fields : List (String × Json)}
  {outputs : List Output}

lemma replies_append (outputs outputs' : List Output) :
    replies (outputs ++ outputs') = replies outputs ++ replies outputs' := by
  rw [replies, List.filterMap_append, List.filter_append]
  rfl

lemma replies_send_of_not_mem {msg : Json} (hid : id ∉ replyIds) :
    replies (.send session id msg :: outputs) = replies outputs := by
  simp [replies, Output.sent, hid]

lemma replies_answer (hid : id ∈ replyIds) :
    replies [answer session id fields] = [(session, id, object fields)] := by
  simp [replies, answer, Output.sent, hid]

/-- A notification is no answer. -/
lemma replies_notifyOrPublish {uid : ℤ} {notifyJson redisMsg : Json} (hid : id ∉ replyIds) :
    replies (notifyOrPublish mgr uid id notifyJson redisMsg :: outputs) = replies outputs := by
  rw [notifyOrPublish]
  cases mgr uid with
  | none => rfl
  | some targetSession => exact replies_send_of_not_mem hid

lemma replies_map_notifyOrPublish {notifyJson redisMsg : Json} (hid : id ∉ replyIds)
    (uids : List UserInfo) :
    replies (uids.map (fun u => notifyOrPublish mgr u.uid id notifyJson redisMsg) ++ outputs) =
      replies outputs := by
  induction uids with
  | nil => rfl
  | cons u uids ih => rw [List.map_cons, List.cons_append, replies_notifyOrPublish hid, ih]

/-- The outputs hold one answer, under an identifier. -/
def RepliesOnce (session : Conn) (id : ℤ) (outputs : List Output) : Prop :=
  ∃ msg, replies outputs = [(session, id, msg)]

lemma repliesOnce_answer (hid : id ∈ replyIds) :
    RepliesOnce session id [answer session id fields] :=
  ⟨object fields, replies_answer hid⟩

/-! ## The handlers -/

lemma repliesOnce_friendList (h : friendList env db mgr session src = some done) :
    RepliesOnce session idFriendListRsp done.2 := by
  rw [friendList] at h
  split at h
  · obtain rfl := Option.some.inj h
    exact repliesOnce_answer (by decide)
  · obtain rfl := Option.some.inj h
    exact repliesOnce_answer (by decide)

lemma repliesOnce_searchUser (h : searchUser env db session src = some done) :
    RepliesOnce session idSearchUserRsp done.2 := by
  simp only [searchUser, Option.bind_eq_bind, Option.bind_eq_some_iff] at h
  obtain ⟨src, -, searchKey, -, searchType, -, h⟩ := h
  obtain rfl := Option.some.inj h
  exact repliesOnce_answer (by decide)

lemma repliesOnce_addFriend (h : addFriend env db mgr session src = some done) :
    RepliesOnce session idAddFriendRsp done.2 := by
  simp only [addFriend, Option.bind_eq_bind, Option.bind_eq_some_iff] at h
  obtain ⟨body, -, fromUid, -, toUid, -, message, -, h⟩ := h
  split_ifs at h
  · obtain rfl := Option.some.inj h
    exact ⟨_, (replies_notifyOrPublish (by decide)).trans (replies_answer (by decide))⟩
  · obtain rfl := Option.some.inj h
    exact repliesOnce_answer (by decide)

lemma repliesOnce_authFriend (h : authFriend env db mgr session src = some done) :
    RepliesOnce session idAuthFriendRsp done.2 := by
  simp only [authFriend, Option.bind_eq_bind, Option.bind_eq_some_iff] at h
  obtain ⟨src, -, requestId, -, fromUid, -, toUid, -, accepted, -, h⟩ := h
  generalize updateFriendRequestStatus (env.ok 0) db requestId accepted = first at h
  generalize (if (first.1 && accepted) = true then
      addFriendRelation (env.ok 1) first.2 env.gap fromUid toUid
    else (first.1, first.2)) = second at h
  by_cases hok : second.1 = true
  · rw [if_pos hok] at h
    obtain rfl := Option.some.inj h
    exact ⟨_, (replies_notifyOrPublish (by decide)).trans (replies_answer (by decide))⟩
  · rw [if_neg hok] at h
    obtain rfl := Option.some.inj h
    exact repliesOnce_answer (by decide)

lemma repliesOnce_privateMessage {kind : MessageKind} (hkind : kind = textChat ∨ kind = imageChat)
    (hid : kind.rspId = id) (h : privateMessage env db mgr session kind src = some done) :
    RepliesOnce session id done.2 := by
  subst hid
  have hids : kind.notifyId ∉ replyIds ∧ kind.rspId ∈ replyIds := by
    rcases hkind with rfl | rfl <;> decide
  obtain ⟨body, fromUid, toUid, content, extra, -, -, -, -, -, hdone⟩ := privateMessage_spec h
  rcases hdone with rfl | ⟨mid, db', fromUser, -, rfl⟩
  · exact repliesOnce_answer hids.2
  · exact ⟨_, (replies_notifyOrPublish hids.1).trans (replies_answer hids.2)⟩

lemma repliesOnce_groupMessage {kind : MessageKind} (hkind : kind = groupText ∨ kind = groupImage)
    (hid : kind.rspId = id) (h : groupMessage env db mgr session kind src = some done) :
    RepliesOnce session id done.2 := by
  subst hid
  have hids : kind.notifyId ∉ replyIds ∧ kind.rspId ∈ replyIds := by
    rcases hkind with rfl | rfl <;> decide
  obtain ⟨body, fromUid, groupId, content, extra, -, -, -, -, -, hdone⟩ := groupMessage_spec h
  rcases hdone with rfl | ⟨mid, db', fromUser, group, -, rfl⟩
  · exact repliesOnce_answer hids.2
  · exact ⟨_, (replies_map_notifyOrPublish hids.1 _).trans (replies_answer hids.2)⟩

lemma repliesOnce_chatHistory (h : chatHistory env db session src = some done) :
    RepliesOnce session idGetChatHistoryRsp done.2 := by
  simp only [chatHistory] at h
  split at h
  · obtain rfl := Option.some.inj h
    exact repliesOnce_answer (by decide)
  · obtain rfl := Option.some.inj h
    exact repliesOnce_answer (by decide)

lemma repliesOnce_createGroupReq (h : createGroupReq env db session src = some done) :
    RepliesOnce session idCreateGroupRsp done.2 := by
  simp only [createGroupReq, Option.bind_eq_bind, Option.bind_eq_some_iff] at h
  obtain ⟨body, -, ownerUid, -, name, -, avatar, -, h⟩ := h
  split_ifs at h
  · obtain rfl := Option.some.inj h
    exact repliesOnce_answer (by decide)
  · obtain rfl := Option.some.inj h
    exact repliesOnce_answer (by decide)

lemma repliesOnce_addGroupMemberReq (h : addGroupMemberReq env db session src = some done) :
    RepliesOnce session idAddGroupMemberRsp done.2 := by
  simp only [addGroupMemberReq, Option.bind_eq_bind, Option.bind_eq_some_iff] at h
  obtain ⟨src, -, groupId, -, uids, -, h⟩ := h
  obtain rfl := Option.some.inj h
  exact repliesOnce_answer (by decide)

lemma repliesOnce_removeGroupMemberReq
    (h : removeGroupMemberReq env db session src = some done) :
    RepliesOnce session idRemoveGroupMemberRsp done.2 := by
  simp only [removeGroupMemberReq, Option.bind_eq_bind, Option.bind_eq_some_iff] at h
  obtain ⟨src, -, groupId, -, uid, -, h⟩ := h
  obtain rfl := Option.some.inj h
  exact repliesOnce_answer (by decide)

lemma repliesOnce_groupList (h : groupList env db session src = some done) :
    RepliesOnce session idGetGroupListRsp done.2 := by
  simp only [groupList, Option.bind_eq_bind, Option.bind_eq_some_iff] at h
  obtain ⟨src, -, uid, -, h⟩ := h
  obtain rfl := Option.some.inj h
  exact repliesOnce_answer (by decide)

lemma repliesOnce_groupMembers (h : groupMembers env db mgr session src = some done) :
    RepliesOnce session idGetGroupMembersRsp done.2 := by
  simp only [groupMembers, Option.bind_eq_bind, Option.bind_eq_some_iff] at h
  obtain ⟨src, -, groupId, -, h⟩ := h
  obtain rfl := Option.some.inj h
  exact repliesOnce_answer (by decide)

lemma repliesOnce_groupChatHistory (h : groupChatHistory env db session src = some done) :
    RepliesOnce session idGetGroupChatHistoryRsp done.2 := by
  simp only [groupChatHistory, Option.bind_eq_bind, Option.bind_eq_some_iff] at h
  obtain ⟨src, -, groupId, -, count, -, offset, -, h⟩ := h
  obtain rfl := Option.some.inj h
  exact repliesOnce_answer (by decide)

/-- **A handler that does not throw sends one answer, under the identifier after its own.** -/
theorem repliesOnce_msgHandler {handler : Option Json → Option (Database × List Output)}
    (h : msgHandler env db mgr session id = some handler) (hdone : handler src = some done) :
    RepliesOnce session (id + 1) done.2 := by
  have hall : ∀ src done, handler src = some done → RepliesOnce session (id + 1) done.2 :=
    forall_msgHandler (P := fun id handler => ∀ src done, handler src = some done →
        RepliesOnce session (id + 1) done.2)
      (fun _ _ => repliesOnce_friendList) (fun _ _ => repliesOnce_searchUser)
      (fun _ _ => repliesOnce_addFriend) (fun _ _ => repliesOnce_authFriend)
      (fun _ _ => repliesOnce_privateMessage (.inl rfl) (by decide))
      (fun _ _ => repliesOnce_privateMessage (.inr rfl) (by decide))
      (fun _ _ => repliesOnce_chatHistory) (fun _ _ => repliesOnce_createGroupReq)
      (fun _ _ => repliesOnce_addGroupMemberReq)
      (fun _ _ => repliesOnce_removeGroupMemberReq)
      (fun _ _ => repliesOnce_groupMessage (.inl rfl) (by decide))
      (fun _ _ => repliesOnce_groupMessage (.inr rfl) (by decide))
      (fun _ _ => repliesOnce_groupList) (fun _ _ => repliesOnce_groupMembers)
      (fun _ _ => repliesOnce_groupChatHistory) h
  exact hall src done hdone

/-! ## Which requests are answered -/

/-- A request is a login, or its handler catches what is thrown, or it does not. -/
lemma request_cases (h : id ∈ requestSchemas.map Prod.fst) :
    (id = idChatLogin ∧ schemas.lookup id = none ∧ requestSchemas.lookup id = some loginSchema) ∨
    (∃ fields, caughtSchemas.lookup id = some fields ∧ schemas.lookup id = none ∧
      requestSchemas.lookup id = some fields) ∨
    ∃ fields, schemas.lookup id = some fields ∧ requestSchemas.lookup id = some fields := by
  simp only [requestSchemas, caughtSchemas, schemas, List.cons_append, List.nil_append,
    List.map_cons, List.map_nil, List.mem_cons, List.not_mem_nil, or_false] at h
  rcases h with rfl | rfl | rfl | rfl | rfl | rfl | rfl | rfl | rfl | rfl | rfl | rfl | rfl |
    rfl | rfl | rfl
  · exact .inl ⟨rfl, rfl, rfl⟩
  · exact .inr (.inl ⟨_, rfl, rfl, rfl⟩)
  · exact .inr (.inl ⟨_, rfl, rfl, rfl⟩)
  all_goals exact .inr (.inr ⟨_, rfl, rfl⟩)

lemma mem_of_schema {schema : List (String × Kind)} (h : schemas.lookup id = some schema) :
    id ∈ requestSchemas.map Prod.fst := by
  obtain ⟨before, after, hsplit, -⟩ := List.lookup_eq_some_iff.1 h
  have hmem : (id, schema) ∈ schemas := hsplit ▸ List.mem_append_right _ List.mem_cons_self
  exact List.mem_map_of_mem (List.mem_cons_of_mem _ (List.mem_append_right _ hmem))

lemma accepts_iff {α : Type*} {f : Json → Option α} {schema : List (String × Kind)}
    (h : Reads f schema) : Accepts schema src ↔ (src.bind f).isSome := by
  cases src with
  | none =>
    refine iff_of_false ?_ Bool.false_ne_true
    rintro ⟨body, vs, hbody, -⟩
    cases hbody
  | some body =>
    rw [Option.bind_some, h.isSome_iff, Option.isSome_iff_exists]
    constructor
    · rintro ⟨body', vs, hbody, hvs⟩
      obtain rfl := Option.some.inj hbody
      exact ⟨vs, hvs⟩
    · rintro ⟨vs, hvs⟩
      exact ⟨body, vs, rfl, hvs⟩

variable (env db mgr session src)

/-- A worker sends one answer or none. -/
lemma replies_handleMsg : replies (handleMsg env db mgr session id src).2 = [] ∨
    RepliesOnce session (id + 1) (handleMsg env db mgr session id src).2 := by
  rw [handleMsg]
  cases hhandler : msgHandler env db mgr session id with
  | none => exact .inl rfl
  | some handler =>
    rw [Option.bind_some]
    cases hdone : handler src with
    | none => exact .inl rfl
    | some done => exact .inr (repliesOnce_msgHandler hhandler hdone)

/-- A request whose handler lets exceptions through is answered when its fields can be
converted, and only then. -/
lemma replies_of_schema {schema : List (String × Kind)} (h : schemas.lookup id = some schema) :
    (Accepts schema src →
      RepliesOnce session (id + 1) (handleMsg env db mgr session id src).2) ∧
    (¬ Accepts schema src → replies (handleMsg env db mgr session id src).2 = []) := by
  obtain ⟨handler, hhandler, f, hreads, hbind⟩ := msgHandler_reads env db mgr session h
  rw [handleMsg, hhandler, Option.bind_some, hbind]
  constructor
  · intro haccepts
    obtain ⟨done, hdone⟩ := Option.isSome_iff_exists.1 ((accepts_iff hreads).1 haccepts)
    rw [hdone]
    exact repliesOnce_msgHandler hhandler ((hbind src).trans hdone)
  · intro hnot
    rw [Option.not_isSome_iff_eq_none.1 fun hsome => hnot ((accepts_iff hreads).2 hsome)]
    rfl

/-- The two handlers that catch what is thrown always answer. -/
lemma replies_of_caught {schema : List (String × Kind)}
    (h : caughtSchemas.lookup id = some schema) :
    ∃ msg, replies (handleMsg env db mgr session id src).2 = [(session, id + 1, msg)] ∧
      (¬ Accepts schema src → HasError msg) := by
  have hmem : (id, schema) ∈ caughtSchemas := by
    obtain ⟨before, after, hsplit, -⟩ := List.lookup_eq_some_iff.1 h
    rw [hsplit]
    exact List.mem_append_right _ List.mem_cons_self
  simp only [caughtSchemas, List.mem_cons, Prod.mk.injEq, List.not_mem_nil, or_false] at hmem
  rcases hmem with ⟨rfl, rfl⟩ | ⟨rfl, rfl⟩
  · have hreads : Reads (fun body => body.getInt "uid") [("uid", .int)] := by
      have hone : Reads (fun body => (body.getInt "uid").bind some) [("uid", .int)] :=
        reads_int fun uid => reads_const rfl
      simpa only [Option.bind_fun_some] using hone
    rw [accepts_iff hreads]
    show ∃ msg, replies ((friendList env db mgr session src).getD (db, [])).2 = _ ∧ _
    rw [friendList]
    cases src.bind fun body => body.getInt "uid" with
    | none => exact ⟨_, replies_answer (by decide), fun _ => hasError_answerError (by decide)⟩
    | some uid => exact ⟨_, replies_answer (by decide), fun hnot => absurd rfl hnot⟩
  · have hreads : Reads (fun body => (body.getInt "uid").bind fun uid =>
        (body.getInt "contactUid").bind fun contactUid => (body.getInt "count").bind fun count =>
          (body.getInt "offset").bind fun offset => some (uid, contactUid, count, offset))
        [("uid", .int), ("contactUid", .int), ("count", .int), ("offset", .int)] :=
      reads_int fun uid => reads_int fun contactUid => reads_int fun count =>
        reads_int fun offset => reads_const rfl
    rw [accepts_iff hreads]
    show ∃ msg, replies ((chatHistory env db session src).getD (db, [])).2 = _ ∧ _
    simp only [chatHistory, Option.bind_eq_bind]
    generalize (src.bind fun body => (body.getInt "uid").bind fun uid =>
      (body.getInt "contactUid").bind fun contactUid => (body.getInt "count").bind fun count =>
        (body.getInt "offset").bind fun offset => some (uid, contactUid, count, offset)) = request
    cases request with
    | none => exact ⟨_, replies_answer (by decide), fun _ => hasError_answerError (by decide)⟩
    | some request => exact ⟨_, replies_answer (by decide), fun hnot => absurd rfl hnot⟩

/-- No handler sends an answer to a message that is no request. -/
lemma handleMsg_of_not_request (h : id ∉ requestSchemas.map Prod.fst) :
    handleMsg env db mgr session id src = (db, []) := by
  cases hhandler : msgHandler env db mgr session id with
  | none =>
    rw [handleMsg, hhandler]
    rfl
  | some handler =>
    refine absurd ?_ h
    exact forall_msgHandler (P := fun id _ => id ∈ requestSchemas.map Prod.fst) (by decide)
      (by decide) (by decide) (by decide) (by decide) (by decide) (by decide) (by decide)
      (by decide) (by decide) (by decide) (by decide) (by decide) (by decide) (by decide) hhandler

/-! ## What else is sent -/

variable {env db mgr session src}

lemma replies_eq_nil (h : ∀ o ∈ outputs, ∀ m, o.sent = some m → m.2.1 ∉ replyIds) :
    replies outputs = [] := by
  refine List.filter_eq_nil_iff.2 fun m hm => ?_
  obtain ⟨o, ho, hsent⟩ := List.mem_filterMap.1 hm
  simpa using h o ho m hsent

lemma replies_notifyUser {msg : Json} {uidField : String} {fields : List (String × String)}
    (hid : id ∉ replyIds) (h : notifyUser mgr msg uidField id fields = some outputs) :
    replies outputs = [] := by
  simp only [notifyUser, Option.bind_eq_bind, Option.bind_eq_some_iff] at h
  obtain ⟨uid, -, h⟩ := h
  split at h
  · obtain ⟨notify, -, h⟩ := Option.bind_eq_some_iff.1 h
    obtain rfl := Option.some.inj h
    exact replies_send_of_not_mem hid
  · obtain rfl := Option.some.inj h
    rfl

lemma replies_notifyGroup {msg : Json} {fields : List String} (hid : id ∉ replyIds)
    (h : notifyGroup env db mgr msg id fields = some outputs) : replies outputs = [] := by
  simp only [notifyGroup, Option.bind_eq_bind, Option.bind_eq_some_iff] at h
  obtain ⟨groupId, -, notify, -, fromUid, -, h⟩ := h
  obtain rfl := Option.some.inj h
  refine replies_eq_nil fun o ho m hm => ?_
  obtain ⟨member, -, hsend⟩ := List.mem_filterMap.1 ho
  obtain ⟨targetSession, -, rfl⟩ := Option.map_eq_some_iff.1 hsend
  obtain rfl := Option.some.inj hm
  exact hid

/-- What other servers publish answers no request. -/
lemma replies_subscriberCallback (msg : Option Json) :
    replies (subscriberCallback env db mgr msg) = [] := by
  simp only [subscriberCallback, Option.bind_eq_bind]
  generalize hcall : Option.bind msg _ = call
  cases call with
  | none => rfl
  | some outputs =>
    obtain ⟨msg, -, hcall⟩ := Option.bind_eq_some_iff.1 hcall
    obtain ⟨type, -, hcall⟩ := Option.bind_eq_some_iff.1 hcall
    show replies outputs = []
    split_ifs at hcall
    · exact replies_notifyUser (by decide) hcall
    · exact replies_notifyGroup (by decide) hcall
    · exact replies_notifyUser (by decide) hcall
    · exact replies_notifyGroup (by decide) hcall
    · exact replies_notifyUser (by decide) hcall
    · exact replies_notifyUser (by decide) hcall
    · obtain rfl := Option.some.inj hcall
      rfl

/-- The initial data hold a friend list, and no other answer. -/
lemma id_of_mem_sendInitialData {codec : Codec} {uid : ℤ} {m : Conn × ℤ × Json}
    (hm : m ∈ replies (CSession.sendInitialData codec env db mgr session uid)) :
    m.2.1 = idFriendListRsp := by
  obtain ⟨hsent, hid⟩ := List.mem_filter.1 hm
  obtain ⟨o, ho, hsend⟩ := List.mem_filterMap.1 hsent
  obtain ⟨id, key, list, hkey, rfl⟩ := CSession.mem_sendInitialData ho
  obtain rfl := Option.some.inj hsend
  have hreply : id ∈ replyIds := of_decide_eq_true hid
  simp only [List.mem_cons, Prod.mk.injEq, List.not_mem_nil, or_false] at hkey
  rcases hkey with ⟨rfl, -⟩ | ⟨rfl, -⟩ | ⟨rfl, -⟩
  · rfl
  · exact absurd hreply (by decide)
  · exact absurd hreply (by decide)

/-- A login that is not checked lacks a field, or a field cannot be converted. -/
lemma accepts_of_credentials {uid : ℤ} {token : String}
    (h : CSession.loginRequest src = .credentials uid token) : Accepts loginSchema src := by
  cases src with
  | none => cases h
  | some body =>
    simp only [CSession.loginRequest] at h
    split_ifs at h
    split at h
    · next uid' token' huid htoken =>
      have hread : readFields body loginSchema = some [.int uid', .str token'] := by
        simp [loginSchema, readFields, Kind.read, huid, htoken]
      exact ⟨body, _, rfl, hread⟩
    · cases h

end Replies

end LogicSystem

end WeChat
