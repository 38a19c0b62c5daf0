/-
# From a friend request to its decision

A friend request is a row of the database.  It is pending until a worker handles an
`ID_AUTH_FRIEND_REQ` with its identifier, and every login of its addressee is answered with the
list of the pending requests, unless a list is too long for `send`.  So whatever the servers do in
between, a request that was answered with success is shown at each of these logins until it is
decided, and never again afterwards.
-/
import WeChat.Chat.Authentication
import WeChat.Chat.Decided
import WeChat.Chat.Durable
import WeChat.Chat.Frames

namespace WeChat

open Wire Relational Transition Json LogicSystem

/-! ## The tables of friends -/

/-- The friend requests and the friendships stay as they are. -/
structure Database.SameFriends (db db' : Database) : Prop where
  friend_requests : db'.friend_requests = db.friend_requests
  friendships : db'.friendships = db.friendships

lemma Database.SameFriends.refl (db : Database) : db.SameFriends db := ⟨rfl, rfl⟩

lemma Database.SameFriends.trans {db₁ db₂ db₃ : Database} (h : db₁.SameFriends db₂)
    (h' : db₂.SameFriends db₃) : db₁.SameFriends db₃ :=
  ⟨h'.friend_requests.trans h.friend_requests, h'.friendships.trans h.friendships⟩

namespace MySQLMgr

variable (ok : Bool) (db : Database) (gap : ℕ)

lemma sameFriends_insertMessage (fromUid toUid : ℤ) (content time : String) (msgType chatType : ℤ) :
    db.SameFriends (insertMessage ok db gap fromUid toUid content time msgType chatType).2 := by
  rw [insertMessage]
  split_ifs
  · split <;> exact ⟨rfl, rfl⟩
  · exact .refl db

lemma sameFriends_addGroupMember (groupId uid : ℤ) (role : Role) :
    db.SameFriends (addGroupMember ok db groupId uid role).2 := by
  rw [addGroupMember]
  split_ifs
  · split <;> exact ⟨rfl, rfl⟩
  · exact .refl db

lemma sameFriends_createGroup (ok' : Bool) (now : String) (ownerUid : ℤ) (name avatar : String) :
    db.SameFriends (createGroup ok db ok' gap now ownerUid name avatar).2 := by
  rw [createGroup]
  split_ifs
  · split
    · next id groups _ =>
      have hgroup : db.SameFriends { db with groups := groups } := ⟨rfl, rfl⟩
      exact hgroup.trans (sameFriends_addGroupMember ok' _ id ownerUid .owner)
    · exact .refl db
  · exact .refl db

lemma sameFriends_removeGroupMember (groupId uid : ℤ) :
    db.SameFriends (removeGroupMember ok db groupId uid).2 := by
  rw [removeGroupMember]
  split_ifs <;> exact ⟨rfl, rfl⟩

variable {ok db gap}

/-- A request that is stored is pending, and its sender is a user. -/
lemma exists_addFriendRequest {fromUid toUid : ℤ} {message : String}
    (h : (addFriendRequest ok db gap fromUid toUid message).1 = true) :
    ∃ user ∈ db.users.rows, user.uid = fromUid ∧
      ∃ id, ⟨id, fromUid, toUid, message, .pending⟩ ∈
        (addFriendRequest ok db gap fromUid toUid message).2.friend_requests.rows := by
  rw [addFriendRequest] at h ⊢
  split_ifs at h ⊢ with hok hfriends hasked husers
  split at h
  · next id requests hins =>
    obtain ⟨-, -, -, hrows⟩ := AutoTable.insert_spec hins
    obtain ⟨hfrom, -⟩ := Bool.and_eq_true_iff.1 husers
    obtain ⟨user, huser, huid⟩ := List.any_eq_true.1 hfrom
    refine ⟨user, huser, of_decide_eq_true huid, id, ?_⟩
    show _ ∈ requests.rows
    rw [hrows]
    exact List.mem_append_right _ (List.mem_singleton_self _)
  · cases h

end MySQLMgr

namespace LogicSystem

open MySQLMgr

section Handlers

variable {env : Env} {db : Database} {mgr : ℤ → Option Conn} {session : Conn}
  {src : Option Json} {done : Database × List Output}

lemma sameFriends_privateMessage {kind : MessageKind}
    (h : privateMessage env db mgr session kind src = some done) :
    db.SameFriends done.1 := by
  simp only [privateMessage, Option.bind_eq_bind, Option.bind_eq_some_iff] at h
  obtain ⟨body, -, fromUid, -, toUid, -, content, -, extra, -, h⟩ := h
  have hdb := sameFriends_insertMessage (env.ok 0) db env.gap fromUid toUid content env.now
    kind.msgType 0
  rw [← saveMessage] at hdb
  split_ifs at h
  · exact Option.some.inj h ▸ hdb
  · exact Option.some.inj h ▸ hdb

lemma sameFriends_groupMessage {kind : MessageKind}
    (h : groupMessage env db mgr session kind src = some done) :
    db.SameFriends done.1 := by
  simp only [groupMessage, Option.bind_eq_bind, Option.bind_eq_some_iff] at h
  obtain ⟨body, -, fromUid, -, groupId, -, content, -, extra, -, h⟩ := h
  have hdb := sameFriends_insertMessage (env.ok 0) db env.gap fromUid groupId content env.now
    kind.msgType 1
  rw [← saveGroupMessage] at hdb
  split_ifs at h
  · exact Option.some.inj h ▸ hdb
  · exact Option.some.inj h ▸ hdb

lemma sameFriends_createGroupReq (h : createGroupReq env db session src = some done) :
    db.SameFriends done.1 := by
  simp only [createGroupReq, Option.bind_eq_bind, Option.bind_eq_some_iff] at h
  obtain ⟨body, -, ownerUid, -, name, -, avatar, -, h⟩ := h
  have hdb := sameFriends_createGroup (env.ok 0) db env.gap (env.ok 1) env.now ownerUid name avatar
  split_ifs at h
  · exact Option.some.inj h ▸ hdb
  · exact Option.some.inj h ▸ hdb

lemma sameFriends_addGroupMembers (groupId : ℤ) (uids : List ℤ) (i : ℕ) (db : Database) :
    db.SameFriends (addGroupMembers env groupId i db uids).2 := by
  induction uids generalizing i db with
  | nil => exact .refl db
  | cons uid uids ih =>
    have hone := sameFriends_addGroupMember (env.ok i) db groupId uid .member
    rw [addGroupMembers]
    split
    · next heq =>
      rw [heq] at hone
      exact hone.trans (ih _ _)
    · next heq =>
      rw [heq] at hone
      exact hone

lemma sameFriends_addGroupMemberReq (h : addGroupMemberReq env db session src = some done) :
    db.SameFriends done.1 := by
  simp only [addGroupMemberReq, Option.bind_eq_bind, Option.bind_eq_some_iff] at h
  obtain ⟨body, -, groupId, -, uids, -, h⟩ := h
  exact Option.some.inj h ▸ sameFriends_addGroupMembers groupId uids 0 db

lemma sameFriends_removeGroupMemberReq (h : removeGroupMemberReq env db session src = some done) :
    db.SameFriends done.1 := by
  simp only [removeGroupMemberReq, Option.bind_eq_bind, Option.bind_eq_some_iff] at h
  obtain ⟨body, -, groupId, -, uid, -, h⟩ := h
  exact Option.some.inj h ▸ sameFriends_removeGroupMember (env.ok 0) db groupId uid

/-- Only the two requests about friendships change the tables of friends. -/
lemma sameFriends_handleMsg {id : ℤ} (hadd : id ≠ idAddFriendReq) (hauth : id ≠ idAuthFriendReq) :
    db.SameFriends (handleMsg env db mgr session id src).1 := by
  rw [handleMsg]
  cases hh : (msgHandler env db mgr session id).bind fun handler => handler src with
  | none => exact .refl db
  | some done =>
    obtain ⟨handler, hhandler, hdone⟩ := Option.bind_eq_some_iff.1 hh
    have hall : id = idAddFriendReq ∨ id = idAuthFriendReq ∨ ∀ done, handler src = some done →
        db.SameFriends done.1 := by
      refine forall_msgHandler
        (P := fun id handler => id = idAddFriendReq ∨ id = idAuthFriendReq ∨
          ∀ done, handler src = some done → db.SameFriends done.1)
        ?_ ?_ (.inl rfl) (.inr (.inl rfl)) (.inr (.inr fun _ => sameFriends_privateMessage))
        (.inr (.inr fun _ => sameFriends_privateMessage)) ?_
        (.inr (.inr fun _ => sameFriends_createGroupReq))
        (.inr (.inr fun _ => sameFriends_addGroupMemberReq))
        (.inr (.inr fun _ => sameFriends_removeGroupMemberReq))
        (.inr (.inr fun _ => sameFriends_groupMessage))
        (.inr (.inr fun _ => sameFriends_groupMessage))
        ?_ ?_ ?_ hhandler
      · refine .inr (.inr fun done h => ?_)
        rw [friendList] at h
        split at h <;> exact Option.some.inj h ▸ .refl db
      · refine .inr (.inr fun done h => ?_)
        simp only [searchUser, Option.bind_eq_bind, Option.bind_eq_some_iff] at h
        obtain ⟨body, -, searchKey, -, searchType, -, h⟩ := h
        exact Option.some.inj h ▸ .refl db
      · refine .inr (.inr fun done h => ?_)
        simp only [chatHistory] at h
        split at h <;> exact Option.some.inj h ▸ .refl db
      · refine .inr (.inr fun done h => ?_)
        simp only [groupList, Option.bind_eq_bind, Option.bind_eq_some_iff] at h
        obtain ⟨body, -, uid, -, h⟩ := h
        exact Option.some.inj h ▸ .refl db
      · refine .inr (.inr fun done h => ?_)
        simp only [groupMembers, Option.bind_eq_bind, Option.bind_eq_some_iff] at h
        obtain ⟨body, -, groupId, -, h⟩ := h
        exact Option.some.inj h ▸ .refl db
      · refine .inr (.inr fun done h => ?_)
        simp only [groupChatHistory, Option.bind_eq_bind, Option.bind_eq_some_iff] at h
        obtain ⟨body, -, groupId, -, count, -, offset, -, h⟩ := h
        exact Option.some.inj h ▸ .refl db
    rcases hall with h | h | h
    · exact absurd h hadd
    · exact absurd h hauth
    · exact h done hdone

/-- To handle the message is to execute the `UPDATE` of the request with this identifier. -/
def Decides (env : Env) (id : ℤ) (src : Option Json) (requestId : ℤ) : Prop :=
  id = idAuthFriendReq ∧ env.ok 0 = true ∧
    ∃ fromUid toUid accepted, authRequest src = some (requestId, fromUid, toUid, accepted)

/-- A pending request is there after a message exactly when it was there before and the message
does not decide it. -/
lemma mem_requests_handleMsg_iff {id : ℤ} {r : FriendRequest}
    (hstored : ∃ r' ∈ db.friend_requests.rows, r'.id = r.id) (hpending : r.status = .pending) :
    r ∈ (handleMsg env db mgr session id src).1.friend_requests.rows ↔
      r ∈ db.friend_requests.rows ∧ ¬ Decides env id src r.id := by
  by_cases hadd : id = idAddFriendReq
  · subst hadd
    obtain ⟨new, hrows⟩ : ∃ new,
        (handleMsg env db mgr session idAddFriendReq src).1.friend_requests.rows =
          db.friend_requests.rows ++ new := addFriend_spec.2
    have hnot : ¬ Decides env idAddFriendReq src r.id := fun h => absurd h.1 (by decide)
    rw [and_iff_left hnot, hrows, List.mem_append]
    refine ⟨fun h => h.resolve_right fun hnew => ?_, .inl⟩
    -- a new row has another key
    obtain ⟨r', hr', hid⟩ := hstored
    have hnodup := (handleMsg env db mgr session idAddFriendReq src).1.friend_requests.nodup
    rw [hrows, List.map_append] at hnodup
    exact (List.nodup_append'.1 hnodup).2.2 (List.mem_map_of_mem hr')
      (hid ▸ List.mem_map_of_mem hnew)
  · by_cases hauth : id = idAuthFriendReq
    · subst hauth
      rw [requests_authFriend]
      cases hrequest : authRequest src with
      | none =>
        have hnot : ¬ Decides env idAuthFriendReq src r.id := by
          rintro ⟨-, -, fromUid, toUid, accepted, hsome⟩
          rw [hrequest] at hsome
          cases hsome
        exact (and_iff_left hnot).symm
      | some request =>
        obtain ⟨requestId, fromUid, toUid, accepted⟩ := request
        have hdecides : Decides env idAuthFriendReq src r.id ↔
            env.ok 0 = true ∧ requestId = r.id := by
          simp [Decides, hrequest]
        rw [hdecides]
        cases hok : env.ok 0 with
        | false => exact (and_iff_left fun h => by cases h.1).symm
        | true =>
          show r ∈ List.map _ _ ↔ _
          rw [List.mem_map]
          constructor
          · rintro ⟨r', hr', heq⟩
            by_cases hid : r'.id = requestId
            · -- a row that was decided is not pending
              rw [if_pos hid] at heq
              rw [← heq] at hpending
              cases accepted <;> cases hpending
            · rw [if_neg hid] at heq
              subst heq
              exact ⟨hr', fun h => hid h.2.symm⟩
          · rintro ⟨hr, hne⟩
            exact ⟨r, hr, if_neg fun hid => hne ⟨rfl, hid.symm⟩⟩
    · have hnot : ¬ Decides env id src r.id := fun h => hauth h.1
      rw [and_iff_left hnot, (sameFriends_handleMsg hadd hauth).friend_requests]

/-- An answer with success to an `ID_ADD_FRIEND_REQ` says that there is a new pending request, of
a user who exists. -/
lemma addFriend_answered
    (h : (session, idAddFriendRsp, object [("error", .num ErrorCodes.success.code)]) ∈
      (handleMsg env db mgr session idAddFriendReq src).2.filterMap Output.sent) :
    ∃ body fromUid toUid message id user, src = some body ∧
      body.getInt "fromUid" = some fromUid ∧ body.getInt "toUid" = some toUid ∧
      user ∈ db.users.rows ∧ user.uid = fromUid ∧
      ⟨id, fromUid, toUid, message, .pending⟩ ∈
        (handleMsg env db mgr session idAddFriendReq src).1.friend_requests.rows := by
  have hmsg : handleMsg env db mgr session idAddFriendReq src =
      (addFriend env db mgr session src).getD (db, []) := rfl
  rw [hmsg] at h ⊢
  cases hdone : addFriend env db mgr session src with
  | none =>
    rw [hdone] at h
    exact absurd h List.not_mem_nil
  | some done =>
    rw [hdone, Option.getD_some] at h
    rw [Option.getD_some]
    simp only [addFriend, Option.bind_eq_bind, Option.bind_eq_some_iff] at hdone
    obtain ⟨body, hbody, fromUid, hfrom, toUid, hto, message, hmessage, hdone⟩ := hdone
    by_cases hok : (addFriendRequest (env.ok 0) db env.gap fromUid toUid message).1 = true
    · rw [if_pos hok] at hdone
      obtain rfl := Option.some.inj hdone
      obtain ⟨user, huser, huid, id, hrow⟩ := exists_addFriendRequest hok
      exact ⟨body, fromUid, toUid, message, id, user, hbody, hfrom, hto, huser, huid, hrow⟩
    · rw [if_neg hok] at hdone
      obtain rfl := Option.some.inj hdone
      have heq := congrArg (fun x => x.2.2.get "error") (List.mem_singleton.1 h)
      simp [get_object, ErrorCodes.code] at heq

end Handlers

end LogicSystem

/-! ## Runs -/

/-- In the step a worker handles a message that meets a condition. -/
def State.Handles (cfg : Config)
    (P : Env → Database → (ℤ → Option Conn) → Conn → ℤ → Option Json → Prop) (s : State)
    (e : Event) : Prop :=
  ∃ S i alive env node queue, e = .work S i alive env ∧ s.queues S i = node :: queue ∧
    s.reg.lock node._session alive = true ∧
    P env s.db (s.reg.mgr S) node._session node._id (cfg.codec.parse node._body)

/-- The step decides the request with this identifier. -/
def State.Decides (cfg : Config) (requestId : ℤ) : State → Event → Prop :=
  State.Handles cfg fun env _ _ _ id src => LogicSystem.Decides env id src requestId

section Runs

variable {cfg : Config} {s s' t : State} {e : Event}

/-- A step handles no message and leaves the database alone, or it handles one. -/
lemma step_handles (h : step cfg s e = some s') :
    (s'.db = s.db ∧ ∀ P, ¬ s.Handles cfg P e) ∨
      ∃ env mgr session id src, s'.db = (handleMsg env s.db mgr session id src).1 ∧
        ∀ P, s.Handles cfg P e ↔ P env s.db mgr session id src := by
  by_cases hwork : ∃ S i alive env, e = .work S i alive env
  · obtain ⟨S, i, alive, env, rfl⟩ := hwork
    obtain ⟨node, queue, base, done, hqueue, rfl, rfl, hdone⟩ := step_take h
    have hhandles : ∀ P, s.Handles cfg P (.work S i alive env) ↔
        s.reg.lock node._session alive = true ∧
          P env s.db (s.reg.mgr S) node._session node._id (cfg.codec.parse node._body) := by
      intro P
      constructor
      · rintro ⟨S', i', alive', env', node', queue', he, hqueue', hlock, hP⟩
        cases he
        obtain ⟨rfl, rfl⟩ := List.cons.inj (hqueue.symm.trans hqueue')
        exact ⟨hlock, hP⟩
      · rintro ⟨hlock, hP⟩
        exact ⟨S, i, alive, env, node, queue, rfl, hqueue, hlock, hP⟩
    rcases hdone with ⟨hlock, rfl⟩ | ⟨hlock, rfl⟩
    · exact .inr ⟨env, _, _, _, _, rfl, fun P => (hhandles P).trans (and_iff_right hlock)⟩
    · refine .inl ⟨rfl, fun P hP => ?_⟩
      rw [((hhandles P).1 hP).1] at hlock
      cases hlock
  · refine .inl ⟨?_, fun P hP => ?_⟩
    · rcases db_step h with hdb | ⟨S, i, alive, env, -, -, rfl, -⟩
      · exact hdb
      · exact absurd ⟨S, i, alive, env, rfl⟩ hwork
    · obtain ⟨S, i, alive, env, -, -, rfl, -⟩ := hP
      exact hwork ⟨S, i, alive, env, rfl⟩

lemma mem_requests_step_iff {r : FriendRequest}
    (hstored : ∃ r' ∈ s.db.friend_requests.rows, r'.id = r.id) (hpending : r.status = .pending)
    (h : step cfg s e = some s') :
    r ∈ s'.db.friend_requests.rows ↔
      r ∈ s.db.friend_requests.rows ∧ ¬ s.Decides cfg r.id e := by
  rcases step_handles h with ⟨hdb, hnone⟩ | ⟨env, mgr, session, id, src, hdb, hhandles⟩
  · rw [hdb]
    exact (and_iff_left (hnone _)).symm
  · rw [hdb, State.Decides, hhandles]
    exact mem_requests_handleMsg_iff hstored hpending

/-- **A request stays pending until it is decided.**  A pending request is in the database after
a run exactly when no step of the run has decided it. -/
lemma mem_requests_run_iff {es : List Event} {r : FriendRequest}
    (hr : r ∈ s.db.friend_requests.rows) (hpending : r.status = .pending)
    (hrun : run (step cfg) s es = some t) :
    r ∈ t.db.friend_requests.rows ↔
      AllSteps (step cfg) (fun s e => ¬ s.Decides cfg r.id e) s es := by
  have hkept : ∀ (s : State) (e : Event) (s' : State),
      (∃ r' ∈ s.db.friend_requests.rows, r'.id = r.id) → step cfg s e = some s' →
        ∃ r' ∈ s'.db.friend_requests.rows, r'.id = r.id := by
    rintro s e s' ⟨r₁, hr₁, hid⟩ h
    obtain ⟨r₂, hr₂, hasked⟩ := (extends_step h).exists_asked hr₁
    exact ⟨r₂, hr₂, (congrArg Prod.fst hasked).trans hid⟩
  have hfinal := final_iff_allSteps (P := fun s : State => r ∈ s.db.friend_requests.rows) hkept
    (fun s e s' hstored h => mem_requests_step_iff hstored hpending h) hrun ⟨r, hr, rfl⟩
  exact hfinal.trans (and_iff_right hr)

end Runs

/-! ## What a login shows -/

/-- The entry for a request in the list that answers a login. -/
def requestEntry (req : ℤ × UserInfo) : Json :=
  object [("requestId", .num req.1), ("fromUid", .num req.2.uid), ("fromName", .str req.2.name),
    ("fromAvatar", .str req.2.avatar)]

/-- The read completes a login as the user, which is accepted. -/
def State.LogsIn (cfg : Config) (s : State) (c : Conn) (bytes : Bytes) (env : Env) (uid : ℤ) :
    Prop :=
  ∃ m, s.completed c bytes = some m ∧ AcceptedLogin cfg env m uid

/-- The frame brings a connection a list of requests with this entry. -/
def Frame.Shows (frame : Frame) (c : Conn) (entry : Json) : Prop :=
  frame.session = c ∧ frame.id = idFriendRequestListRsp ∧ ∃ requests, entry ∈ requests ∧
    frame.msg = object [("error", .num ErrorCodes.success.code), ("requests", .arr requests)]

section Login

variable {cfg : Config} {s s' : State} {c : Conn} {bytes : Bytes} {env : Env} {uid : ℤ}

lemma get_requestEntry (req : ℤ × UserInfo) :
    (requestEntry req).get "requestId" = some (.num req.1) := by
  rw [requestEntry, get_object]
  rfl

/-- The list of requests, when the database answers. -/
lemma mem_getFriendRequests_iff {db : Database} {requestId : ℤ} {info : UserInfo} :
    (requestId, info) ∈ MySQLMgr.getFriendRequests true db uid ↔
      ∃ r ∈ db.friend_requests.rows, r.id = requestId ∧ r.to_uid = uid ∧ r.status = .pending ∧
        ∃ user ∈ db.users.rows, user.uid = r.from_uid ∧ info = { user.info with status := "" } := by
  simp only [MySQLMgr.getFriendRequests, if_true, List.mem_flatMap, List.mem_map, List.mem_filter,
    decide_eq_true_eq, Prod.mk.injEq]
  constructor
  · rintro ⟨r, hr, user, ⟨huser, hfrom, hto, hpending⟩, hid, hinfo⟩
    exact ⟨r, hr, hid, hto, hpending, user, huser, hfrom.symm, hinfo.symm⟩
  · rintro ⟨r, hr, hid, hto, hpending, user, huser, hfrom, hinfo⟩
    exact ⟨r, hr, user, ⟨huser, hfrom.symm, hto, hpending⟩, hid, hinfo.symm⟩

/-- What is sent by an accepted login. -/
lemma calls_of_logsIn (hlogin : s.LogsIn cfg c bytes env uid)
    (h : step cfg s (.read c bytes env) = some s') :
    ∃ token mgr, s.calls cfg (.read c bytes env) = (answer c idChatLoginRsp
        [("error", .num ErrorCodes.success.code), ("token", .str token)] ::
      CSession.sendInitialData cfg.codec env s.db mgr c uid).filterMap Output.sent := by
  obtain ⟨m, hm, hid, token, hrequest, hcheck⟩ := hlogin
  have hping : idChatLogin ≠ idHeartbeatPing := by decide
  rw [calls_of_step h, step_completed hm h, State.handleMessage, hid, if_neg hping, if_pos rfl,
    hrequest]
  simp only [if_pos hcheck]
  exact ⟨token, _, List.drop_left⟩

/-- The list of requests comes second, when there are any and the friend list does not throw. -/
lemma sendInitialData_eq_cons_cons (codec : Codec) (c : Conn) {db : Database}
    (mgr : ℤ → Option Conn) (hpos : 0 < uid)
    (hne : MySQLMgr.getFriendRequests (env.ok 1) db uid ≠ []) :
    ∃ friends, (∃ rest, CSession.sendInitialData codec env db mgr c uid =
        CSession.listAnswer c idFriendListRsp "friends" friends :: rest) ∧
      ((CSession.listAnswer c idFriendListRsp "friends" friends).throws codec = false →
        ∃ rest, CSession.sendInitialData codec env db mgr c uid =
          CSession.listAnswer c idFriendListRsp "friends" friends ::
          CSession.listAnswer c idFriendRequestListRsp "requests"
            (.arr ((MySQLMgr.getFriendRequests (env.ok 1) db uid).map requestEntry)) :: rest) := by
  rw [CSession.sendInitialData, CSession.initialData, if_neg (not_le.2 hpos), List.append_assoc,
    List.singleton_append]
  refine ⟨_, untilThrow_cons codec _ _, fun hthrows => ?_⟩
  have hcons : ∀ {o o' : Output} {outputs : List Output}, o.throws codec = false →
      ∃ rest, untilThrow codec (o :: o' :: outputs) = o :: o' :: rest := by
    intro o o' outputs ho
    obtain ⟨rest, hrest⟩ := untilThrow_cons codec o' outputs
    exact ⟨rest, by rw [untilThrow, if_neg (Bool.eq_false_iff.1 ho), hrest]⟩
  rw [if_neg (by simpa using hne), List.singleton_append]
  exact hcons hthrows

/-- What a login sends under this identifier is the list of the pending requests. -/
lemma eq_of_mem_sent {codec : Codec} {db : Database} {mgr : ℤ → Option Conn}
    {fields : List (String × Json)} {msg : Json}
    (hmem : (c, idFriendRequestListRsp, msg) ∈ (answer c idChatLoginRsp fields ::
        CSession.sendInitialData codec env db mgr c uid).filterMap Output.sent) :
    msg = object [("error", .num ErrorCodes.success.code), ("requests",
      .arr ((MySQLMgr.getFriendRequests (env.ok 1) db uid).map requestEntry))] := by
  have hentry : (fun req : ℤ × UserInfo => object [("requestId", .num req.1),
      ("fromUid", .num req.2.uid), ("fromName", .str req.2.name),
      ("fromAvatar", .str req.2.avatar)]) = requestEntry := rfl
  have hfriends : idFriendRequestListRsp ≠ idFriendListRsp := by decide
  have hrecent : idFriendRequestListRsp ≠ idRecentMessagesRsp := by decide
  have hlogin : idFriendRequestListRsp ≠ idChatLoginRsp := by decide
  obtain ⟨o, ho, hsent⟩ := List.mem_filterMap.1 hmem
  have hother : ∀ {id : ℤ} {fields : List (String × Json)}, idFriendRequestListRsp ≠ id →
      o ≠ answer c id fields := by
    rintro id fields hne rfl
    exact hne (congrArg (·.2.1) (Option.some.inj hsent)).symm
  rcases List.mem_cons.1 ho with ho | ho
  · exact absurd ho (hother hlogin)
  · replace ho := (isPrefix_untilThrow codec _).subset ho
    simp only [CSession.initialData, hentry] at ho
    split_ifs at ho with hpos hnil
    · exact absurd ho List.not_mem_nil
    · rcases List.mem_append.1 ho with ho | ho
      · exact absurd (List.mem_singleton.1 ho) (hother hfriends)
      · split at ho
        · exact absurd (List.mem_singleton.1 ho) (hother hrecent)
        · exact absurd ho List.not_mem_nil
    · rcases List.mem_append.1 ho with ho | ho
      · rcases List.mem_cons.1 ho with ho | ho
        · exact absurd ho (hother hfriends)
        · obtain rfl := List.mem_singleton.1 ho
          exact (congrArg (·.2.2) (Option.some.inj hsent)).symm
      · split at ho
        · exact absurd (List.mem_singleton.1 ho) (hother hrecent)
        · exact absurd ho List.not_mem_nil

/-- A list of requests that a login brings has the entries of the pending ones. -/
lemma mem_of_shows (hlogin : s.LogsIn cfg c bytes env uid)
    (h : step cfg s (.read c bytes env) = some s') {frame : Frame} {entry : Json}
    (hframe : frame ∈ s.frames cfg (.read c bytes env)) (hshows : frame.Shows c entry) :
    ∃ req ∈ MySQLMgr.getFriendRequests (env.ok 1) s.db uid, requestEntry req = entry := by
  obtain ⟨token, mgr, hcalls⟩ := calls_of_logsIn hlogin h
  obtain ⟨call, hcall, hsession, hid, hmsg⟩ := exists_call_of_mem_frames hframe
  obtain ⟨hc, hreq, requests, hentry, hlist⟩ := hshows
  have hmsg' : call.2.2 = object [("error", .num ErrorCodes.success.code),
      ("requests", .arr requests)] := by
    rcases hmsg with hmsg | hmsg
    · exact hmsg.symm.trans hlist
    · -- an error holds no list
      have hget := congrArg (Json.get · "requests") (hmsg.symm.trans hlist)
      simp [errorCall, get_object, List.lookup] at hget
  have heq : call = (c, idFriendRequestListRsp, call.2.2) :=
    Prod.ext (hsession.symm.trans hc) (Prod.ext (hid.symm.trans hreq) rfl)
  rw [hcalls, heq] at hcall
  have harr := congrArg (Json.get · "requests") (hmsg'.symm.trans (eq_of_mem_sent hcall))
  simp only [get_object] at harr
  obtain rfl := Json.arr.inj (Option.some.inj harr)
  exact List.mem_map.1 hentry

/-- A login shows the pending requests when its texts fit up to the list of them. -/
lemma exists_shows (hpos : 0 < uid) (hlogin : s.LogsIn cfg c bytes env uid)
    (h : step cfg s (.read c bytes env) = some s')
    (hfits : ∀ x ∈ s.calls cfg (.read c bytes env), x.2.1 ≠ idRecentMessagesRsp →
      Fitting cfg.codec x.2.2) {req : ℤ × UserInfo}
    (hreq : req ∈ MySQLMgr.getFriendRequests (env.ok 1) s.db uid) :
    ∃ frame ∈ s.frames cfg (.read c bytes env), frame.Intact cfg.codec ∧
      frame.Shows c (requestEntry req) := by
  obtain ⟨token, mgr, hcalls⟩ := calls_of_logsIn hlogin h
  obtain ⟨friends, ⟨rest, hrest⟩, hboth⟩ := sendInitialData_eq_cons_cons cfg.codec c mgr hpos
    (List.ne_nil_of_mem hreq)
  have hlogin' : idChatLoginRsp ≠ idRecentMessagesRsp := by decide
  have hlist : idFriendListRsp ≠ idRecentMessagesRsp := by decide
  have hrequests : idFriendRequestListRsp ≠ idRecentMessagesRsp := by decide
  rw [hcalls] at hfits
  -- the friend list does not throw
  have hfriends : (CSession.listAnswer c idFriendListRsp "friends" friends).throws cfg.codec =
      false := by
    rw [hrest] at hfits
    have hfit := hfits _ (List.mem_cons_of_mem _ List.mem_cons_self) hlist
    exact Bool.eq_false_iff.2 (not_throws_of_sent rfl hfit)
  obtain ⟨rest', hrest'⟩ := hboth hfriends
  rw [hrest'] at hcalls hfits
  refine ⟨.whole cfg.codec c idFriendRequestListRsp _, List.mem_append_left _ ?_, rfl, rfl, rfl, _,
    List.mem_map_of_mem hreq, rfl⟩
  rw [hcalls]
  show _ ∈ framesOf cfg.codec
    ([_, _] ++ (c, idFriendRequestListRsp, _) :: rest'.filterMap Output.sent)
  refine mem_framesOf (fun x hx => ?_) ?_
  · rcases List.mem_cons.1 hx with rfl | hx
    · exact hfits _ List.mem_cons_self hlogin'
    · obtain rfl := List.mem_singleton.1 hx
      exact hfits _ (List.mem_cons_of_mem _ List.mem_cons_self) hlist
  · exact hfits _ (List.mem_cons_of_mem _ (List.mem_cons_of_mem _ List.mem_cons_self)) hrequests

end Login

/-- The step answers an `ID_ADD_FRIEND_REQ` of one user to another with success. -/
def Asks (cfg : Config) (s s' : State) (e : Event) (fromUid toUid : ℤ) : Prop :=
  ∃ S i alive env node queue new, e = .work S i alive env ∧ s.queues S i = node :: queue ∧
    node._id = idAddFriendReq ∧ named (cfg.codec.parse node._body) "fromUid" = some fromUid ∧
    named (cfg.codec.parse node._body) "toUid" = some toUid ∧ s'.sent = s.sent ++ new ∧
    (node._session, idAddFriendRsp, object [("error", .num ErrorCodes.success.code)]) ∈ new

section Shown

variable {cfg : Config} {s s₁ t t' : State} {e : Event} {fromUid toUid : ℤ}

/-- A request that is answered with success is a pending one of a user who exists. -/
lemma exists_asked (hasks : Asks cfg s s₁ e fromUid toUid) (h : step cfg s e = some s₁) :
    ∃ r ∈ s₁.db.friend_requests.rows, r.from_uid = fromUid ∧ r.to_uid = toUid ∧
      r.status = .pending ∧ ∃ user ∈ s₁.db.users.rows, user.uid = fromUid := by
  obtain ⟨S, i, alive, env, node, queue, new, rfl, hqueue, hid, hfrom, hto, hsent, hmem⟩ := hasks
  have husers := (extends_step h).users
  obtain ⟨node', queue', base, done, hqueue', rfl, rfl, hdone⟩ := step_take h
  obtain ⟨rfl, rfl⟩ := List.cons.inj (hqueue.symm.trans hqueue')
  rw [hid] at hdone
  rcases hdone with ⟨-, rfl⟩ | ⟨-, rfl⟩
  · obtain rfl := List.append_cancel_left hsent
    obtain ⟨body, a, b, message, id, user, hbody, ha, hb, huser, huid, hrow⟩ :=
      addFriend_answered hmem
    rw [hbody] at hfrom hto
    obtain rfl := Option.some.inj (ha.symm.trans hfrom)
    obtain rfl := Option.some.inj (hb.symm.trans hto)
    exact ⟨_, hrow, rfl, rfl, rfl, user, husers ▸ huser, huid⟩
  · -- without a session there is no answer
    obtain rfl := List.append_right_eq_self.1 hsent.symm
    exact absurd hmem List.not_mem_nil

/-- A request that a login shows under an identifier is the pending one that was stored. -/
lemma pending_of_shows {r : FriendRequest} (hpending : r.status = .pending)
    (hasked : ∃ r' ∈ t.db.friend_requests.rows, r'.asked = r.asked) {info : UserInfo}
    (hmem : (r.id, info) ∈ MySQLMgr.getFriendRequests true t.db toUid) :
    r ∈ t.db.friend_requests.rows := by
  obtain ⟨r₁, hr₁, hid, -, hstatus, -⟩ := mem_getFriendRequests_iff.1 hmem
  obtain ⟨r₂, hr₂, hasked⟩ := hasked
  have hkey : r₂.id = r₁.id := (congrArg Prod.fst hasked).trans hid.symm
  obtain rfl := t.db.friend_requests.eq_of_key_eq hr₂ hr₁ hkey
  have heq : r₂ = r := by
    obtain ⟨id, from_uid, to_uid, message, status⟩ := r
    cases r₂
    simp_all [FriendRequest.asked]
  exact heq ▸ hr₁

end Shown

/-! ## A request that is shown -/

/-- User 1 asks user 2. -/
def askBody : Json :=
  Json.object [("fromUid", .num 1), ("toUid", .num 2), ("message", .str "hello")]

lemma wf_askBody : askBody.Wf := Json.wf_object (by simp [Json.Wf])

/-- The state before this request is handled. -/
def asking : State := sameServer MySQLMgr.twoUsers (request idAddFriendReq askBody)

lemma asks_asking :
    Asks compactConfig asking (asking.worked idAddFriendReq askBody)
      (.work 0 1 true allSucceed) 1 2 := by
  have hparse : compactConfig.codec.parse (request idAddFriendReq askBody)._body = some askBody :=
    compactConfig.codec.parse_dump wf_askBody
  refine ⟨0, 1, true, allSucceed, request idAddFriendReq askBody, [], _, rfl, rfl, rfl, ?_, ?_,
    rfl, ?_⟩
  · rw [hparse]
    rfl
  · rw [hparse]
    rfl
  · exact .tail _ (.head _)

/-- The body with which user 2 logs in. -/
def secondLogin : Bytes := loginBody compactConfig 2 "v"

/-- User 2 connects to server 1, up to the header of its login. -/
def arrives : List Event :=
  [.accept client₃, .read client₃ (Framed.header idChatLogin secondLogin.length) allSucceed]

/-- The login of user 2 there. -/
lemma exists_login {s : State} (hnew : (s.reg.session client₃).accepted = false) :
    ∃ t t', run (step compactConfig) s arrives = some t ∧
      t.LogsIn compactConfig client₃ secondLogin allSucceed 2 ∧
      step compactConfig t (.read client₃ secondLogin allSucceed) = some t' ∧
      t.calls compactConfig (.read client₃ secondLogin allSucceed) = (answer client₃ idChatLoginRsp
          [("error", .num ErrorCodes.success.code), ("token", .str "v")] ::
        CSession.sendInitialData compactConfig.codec allSucceed s.db
          (((s.reg.accept client₃).login client₃ 2).mgr 1) client₃ 2).filterMap Output.sent := by
  have hfits : Fits secondLogin := ⟨by decide, by decide⟩
  let s₁ : State := { s with reg := s.reg.accept client₃ }
  have haccept : step compactConfig s (.accept client₃) = some s₁ := by
    simp only [step, hnew]
    rfl
  have hread : (s₁.reg.session client₃).reading = .head := by
    show ((s.reg.accept client₃).session client₃).reading = .head
    rw [Registry.session_accept, if_pos rfl]
  have hhead : step compactConfig s₁ (.read client₃
      (Framed.header idChatLogin secondLogin.length) allSucceed) =
        some (s₁.awaiting client₃ idChatLogin secondLogin) := step_header hread (by decide) hfits
  have hrequest : CSession.loginRequest (compactConfig.codec.parse secondLogin) =
      .credentials 2 "v" := CSession.loginRequest_loginBody (by decide) "v"
  have hlogin : (s₁.awaiting client₃ idChatLogin secondLogin).LogsIn compactConfig client₃
      secondLogin allSucceed 2 := by
    refine ⟨(idChatLogin, secondLogin), ?_, rfl, "v", hrequest, rfl⟩
    rw [State.completed, reading_awaiting]
    rfl
  refine ⟨_, _, (run_cons haccept _).trans (run_cons hhead []), hlogin, step_body hread, ?_⟩
  have hping : idChatLogin ≠ idHeartbeatPing := by decide
  have haccepted : allSucceed.checkToken 2 "v" = ErrorCodes.success.code := rfl
  rw [calls_of_step (step_body hread), State.handleMessage, if_neg hping, if_pos rfl, hrequest]
  simp only [if_pos haccepted]
  exact List.drop_left

end WeChat
