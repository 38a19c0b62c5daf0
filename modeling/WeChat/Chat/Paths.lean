/-
# The two paths of a notification

A handler notifies a user whose session is on its own server itself, and publishes the
notification for the other servers otherwise.  The server of the user takes the published text
apart and sends the same identifier and the same value.
-/
import WeChat.Chat.Callback

namespace WeChat

open Wire Relational Json

namespace LogicSystem

open MySQLMgr

/-- What users are notified of. -/
inductive NotificationKind
  | text | image | groupText | groupImage | friendRequest | authResult

/-- The request that leads to the notification. -/
def NotificationKind.requestId : NotificationKind → ℤ
  | .text => idTextChatMsgReq
  | .image => idImageChatMsgReq
  | .groupText => idGroupChatMsgReq
  | .groupImage => idGroupImageChatMsgReq
  | .friendRequest => idAddFriendReq
  | .authResult => idAuthFriendReq

/-- A server that is given the published value sends the notification, and nothing else; it does
send it to the session of the user, provided that the members of the group are still those in
the given database. -/
def SentOn (codec : Codec) (db : Database) (uid id : ℤ) (notifyJson redisMsg : Json) : Prop :=
  ∀ (env : Env) (db' : Database) (mgr : ℤ → Option Conn),
    (∀ o ∈ subscriberCallback env db' mgr (codec.parse (codec.dump redisMsg)),
      ∃ c, o = .send c id notifyJson) ∧
    ∀ c, mgr uid = some c → db' = db → env.ok 0 = true →
      .send c id notifyJson ∈ subscriberCallback env db' mgr (codec.parse (codec.dump redisMsg))

/-- An output of a handler while a session of the user is on the server, and the output in its
place while none is. -/
def SameFrame (codec : Codec) (db : Database) (uid : ℤ) (c : Conn) (direct published : Output) :
    Prop :=
  (∃ id notifyJson redisMsg, direct = .send c id notifyJson ∧ published = .publish uid redisMsg ∧
    SentOn codec db uid id notifyJson redisMsg) ∨
  direct = published ∧ ∀ redisMsg, published ≠ .publish uid redisMsg

/-! ## Handlers that notify -/

/-- The notification of one user. -/
structure Notification where
  uid : ℤ
  id : ℤ
  notifyJson : Json
  redisMsg : Json

/-- The notification on its path. -/
def Notification.output (mgr : ℤ → Option Conn) (n : Notification) : Output :=
  notifyOrPublish mgr n.uid n.id n.notifyJson n.redisMsg

/-- `SessionMgr` decides about the paths of the notifications and about nothing else. -/
def NotifiesOnPaths (codec : Codec) (handle : (ℤ → Option Conn) → Database × List Output) : Prop :=
  ∃ (db' : Database) (notifications : List Notification) (answers : List Output),
    (∀ mgr, handle mgr = (db', notifications.map (Notification.output mgr) ++ answers)) ∧
    (∀ n ∈ notifications, SentOn codec db' n.uid n.id n.notifyJson n.redisMsg) ∧
    ∀ o ∈ answers, ∃ c id msg, o = .send c id msg

section Paths

variable {codec : Codec} {env : Env} {db : Database} {session : Conn}

/-- The two outputs of a notification. -/
lemma sameFrame_output {mgr : ℤ → Option Conn} {n : Notification} (uid : ℤ) (c : Conn)
    (h : SentOn codec db n.uid n.id n.notifyJson n.redisMsg) :
    SameFrame codec db uid c (n.output (Function.update mgr uid (some c)))
      (n.output (Function.update mgr uid none)) := by
  by_cases huid : n.uid = uid
  · subst huid
    refine .inl ⟨n.id, n.notifyJson, n.redisMsg, ?_, ?_, h⟩
    · rw [Notification.output, notifyOrPublish, Function.update_self]
    · rw [Notification.output, notifyOrPublish, Function.update_self]
  · simp only [Notification.output, notifyOrPublish, Function.update_of_ne huid]
    refine .inr ⟨rfl, fun redisMsg => ?_⟩
    cases mgr n.uid with
    | none => exact fun heq => huid (Output.publish.inj heq).1
    | some c' => exact Output.noConfusion

/-- The outputs of such a handler, in their order. -/
lemma NotifiesOnPaths.sameFrame {handle : (ℤ → Option Conn) → Database × List Output}
    (h : NotifiesOnPaths codec handle) (mgr : ℤ → Option Conn) (uid : ℤ) (c : Conn) :
    (handle (Function.update mgr uid (some c))).1 = (handle (Function.update mgr uid none)).1 ∧
      List.Forall₂ (SameFrame codec (handle (Function.update mgr uid none)).1 uid c)
        (handle (Function.update mgr uid (some c))).2
        (handle (Function.update mgr uid none)).2 := by
  obtain ⟨db', notifications, answers, hhandle, hsent, hanswers⟩ := h
  rw [hhandle, hhandle]
  refine ⟨rfl, List.rel_append ?_ ?_⟩
  · rw [List.forall₂_map_left_iff, List.forall₂_map_right_iff, List.forall₂_same]
    exact fun n hn => sameFrame_output uid c (hsent n hn)
  · refine List.forall₂_same.2 fun o ho => .inr ⟨rfl, fun redisMsg heq => ?_⟩
    obtain ⟨c', id, msg, rfl⟩ := hanswers o ho
    cases heq

/-- A field that is read decides nothing about the paths. -/
lemma notifiesOnPaths_bind {α : Type} {x : Option α}
    {f : α → (ℤ → Option Conn) → Option (Database × List Output)}
    (h : ∀ a, x = some a → NotifiesOnPaths codec fun mgr => (f a mgr).getD (db, [])) :
    NotifiesOnPaths codec fun mgr => (x.bind fun a => f a mgr).getD (db, []) := by
  cases x with
  | none =>
    exact ⟨db, [], [], fun mgr => rfl, fun n hn => absurd hn List.not_mem_nil,
      fun o ho => absurd ho List.not_mem_nil⟩
  | some a => exact h a rfl

/-- An answer and no notification. -/
lemma notifiesOnPaths_answer (db : Database) (id : ℤ) (fields : List (String × Json)) :
    NotifiesOnPaths codec fun _ => (db, [answer session id fields]) := by
  refine ⟨db, [], _, fun mgr => rfl, fun n hn => absurd hn List.not_mem_nil, fun o ho => ?_⟩
  obtain rfl := List.mem_singleton.1 ho
  exact ⟨session, id, _, rfl⟩

/-- Notifications and an answer. -/
lemma notifiesOnPaths_notify {db : Database} {id : ℤ} {fields : List (String × Json)}
    (notifications : List Notification)
    (h : ∀ n ∈ notifications, SentOn codec db n.uid n.id n.notifyJson n.redisMsg) :
    NotifiesOnPaths codec fun mgr =>
      (db, notifications.map (Notification.output mgr) ++ [answer session id fields]) := by
  refine ⟨db, notifications, _, fun mgr => rfl, h, fun o ho => ?_⟩
  obtain rfl := List.mem_singleton.1 ho
  exact ⟨session, id, _, rfl⟩

/-! ## What the callback makes of a notification -/

/-- A callback that sends to the session of one user. -/
lemma sentOn_user {uid id : ℤ} {notifyJson redisMsg : Json} (hwf : redisMsg.Wf)
    (h : ∀ env db mgr, subscriberCallback env db mgr (some redisMsg) =
      (mgr uid).toList.map fun c => .send c id notifyJson) :
    SentOn codec db uid id notifyJson redisMsg := by
  intro env db' mgr
  rw [codec.parse_dump hwf, h]
  constructor
  · intro o ho
    obtain ⟨c, -, rfl⟩ := List.mem_map.1 ho
    exact ⟨c, rfl⟩
  · intro c hc _ _
    rw [hc]
    exact List.mem_singleton_self _

/-- A callback that sends to the sessions of all recipients of a group. -/
lemma sentOn_group {ok : Bool} {groupId fromUid id : ℤ} {notifyJson redisMsg : Json}
    (hwf : redisMsg.Wf)
    (h : ∀ env db mgr, subscriberCallback env db mgr (some redisMsg) =
      (recipients fromUid (getGroupMembers (env.ok 0) db groupId)).filterMap fun member =>
        (mgr member.uid).map fun c => .send c id notifyJson)
    {member : UserInfo} (hmember : member ∈ recipients fromUid (getGroupMembers ok db groupId)) :
    SentOn codec db member.uid id notifyJson redisMsg := by
  intro env db' mgr
  rw [codec.parse_dump hwf, h]
  constructor
  · intro o ho
    obtain ⟨member, -, hsend⟩ := List.mem_filterMap.1 ho
    obtain ⟨c, -, rfl⟩ := Option.map_eq_some_iff.1 hsend
    exact ⟨c, rfl⟩
  · rintro c hc rfl hok
    -- the query of the handler has not failed, since it has found the member
    cases ok with
    | false => exact absurd (List.mem_of_mem_filter hmember) List.not_mem_nil
    | true =>
      refine List.mem_filterMap.2 ⟨member, ?_, by rw [hc]; rfl⟩
      rw [hok]
      exact hmember

lemma sentOn_privatePublished {kind : MessageKind} (hkind : kind = textChat ∨ kind = imageChat)
    {body : Json} {extra : List (String × Json)} (hextra : kind.extra body = some extra)
    (mid fromUid : ℤ) (fromUser : UserInfo) {toUid : ℤ} (hto : toInt32 toUid = toUid)
    (content now : String) :
    SentOn codec db toUid kind.notifyId (privateNotify extra mid fromUid fromUser content now)
      (privatePublished kind extra mid fromUid fromUser toUid content now) :=
  sentOn_user (wf_privatePublished (extra_of_private hkind) hextra _ _ _ _ _)
    (subscriberCallback_privatePublished hextra hkind mid fromUid fromUser hto content now)

/-- The callback makes of a request for a friendship what its handler sends to a session of its
own server. -/
lemma subscriberCallback_friendRequest (fromUid : ℤ) (fromUser : UserInfo) {toUid : ℤ}
    (hto : toInt32 toUid = toUid) (message now : String) (env : Env) (db : Database)
    (mgr : ℤ → Option Conn) :
    subscriberCallback env db mgr (some (object [("type", .str "friend_request"),
        ("fromUid", .num fromUid), ("fromName", .str fromUser.name),
        ("fromAvatar", .str fromUser.avatar), ("toUid", .num toUid), ("message", .str message),
        ("requestTime", .str now)])) =
      (mgr toUid).toList.map fun c => .send c idNotifyAddFriendReq
        (object [("fromUid", .num fromUid), ("fromName", .str fromUser.name),
          ("fromAvatar", .str fromUser.avatar), ("message", .str message),
          ("requestTime", .str now)]) := by
  generalize hfields : ([_, _, _, _, _, _, _] : List (String × Json)) = fields
  have hto' : (object fields).getInt "toUid" = some toUid := by
    rw [getInt_object, ← hfields]
    simp [List.lookup, toInt, hto]
  have htype : (object fields).value "type" "" = some "friend_request" := by
    rw [value_object, ← hfields]
    simp [List.lookup, toStr]
  simp only [subscriberCallback, htype, Option.bind_eq_bind, Option.bind_some]
  rw [if_neg (by decide), if_neg (by decide), if_neg (by decide), if_neg (by decide),
    if_pos trivial, notifyUser_object hto', Option.getD_some, ← hfields]
  rfl

lemma sentOn_friendRequest (fromUid : ℤ) (fromUser : UserInfo) {toUid : ℤ}
    (hto : toInt32 toUid = toUid) (message now : String) :
    SentOn codec db toUid idNotifyAddFriendReq
      (object [("fromUid", .num fromUid), ("fromName", .str fromUser.name),
        ("fromAvatar", .str fromUser.avatar), ("message", .str message),
        ("requestTime", .str now)])
      (object [("type", .str "friend_request"), ("fromUid", .num fromUid),
        ("fromName", .str fromUser.name), ("fromAvatar", .str fromUser.avatar),
        ("toUid", .num toUid), ("message", .str message), ("requestTime", .str now)]) :=
  sentOn_user (wf_object (by simp [Wf]))
    (subscriberCallback_friendRequest fromUid fromUser hto message now)

/-- The same for the answer to a request, where the two users change places. -/
lemma subscriberCallback_authResult (requestId : ℤ) {fromUid : ℤ}
    (hfrom : toInt32 fromUid = fromUid) (toUid : ℤ) (toUser : UserInfo) (accepted : Bool)
    (message : String) (env : Env) (db : Database) (mgr : ℤ → Option Conn) :
    subscriberCallback env db mgr (some (object [("type", .str "auth_friend_rsp"),
        ("requestId", .num requestId), ("fromUid", .num fromUid), ("toUid", .num toUid),
        ("toName", .str toUser.name), ("accepted", .bool accepted),
        ("message", .str message)])) =
      (mgr fromUid).toList.map fun c => .send c idNotifyAuthFriendRsp
        (object [("requestId", .num requestId), ("fromUid", .num toUid),
          ("fromName", .str toUser.name), ("toUid", .num fromUid), ("accepted", .bool accepted),
          ("message", .str message)]) := by
  generalize hfields : ([_, _, _, _, _, _, _] : List (String × Json)) = fields
  have hfrom' : (object fields).getInt "fromUid" = some fromUid := by
    rw [getInt_object, ← hfields]
    simp [List.lookup, toInt, hfrom]
  have htype : (object fields).value "type" "" = some "auth_friend_rsp" := by
    rw [value_object, ← hfields]
    simp [List.lookup, toStr]
  simp only [subscriberCallback, htype, Option.bind_eq_bind, Option.bind_some]
  rw [if_neg (by decide), if_neg (by decide), if_neg (by decide), if_neg (by decide),
    if_neg (by decide), if_pos trivial, notifyUser_object hfrom', Option.getD_some, ← hfields]
  rfl

lemma sentOn_authResult (requestId : ℤ) {fromUid : ℤ} (hfrom : toInt32 fromUid = fromUid)
    (toUid : ℤ) (toUser : UserInfo) (accepted : Bool) (message : String) :
    SentOn codec db fromUid idNotifyAuthFriendRsp
      (object [("requestId", .num requestId), ("fromUid", .num toUid),
        ("fromName", .str toUser.name), ("toUid", .num fromUid), ("accepted", .bool accepted),
        ("message", .str message)])
      (object [("type", .str "auth_friend_rsp"), ("requestId", .num requestId),
        ("fromUid", .num fromUid), ("toUid", .num toUid), ("toName", .str toUser.name),
        ("accepted", .bool accepted), ("message", .str message)]) :=
  sentOn_user (wf_object (by simp [Wf]))
    (subscriberCallback_authResult requestId hfrom toUid toUser accepted message)

/-! ## The six handlers -/

variable {src : Option Json}

lemma notifiesOnPaths_privateMessage {kind : MessageKind}
    (hkind : kind = textChat ∨ kind = imageChat) :
    NotifiesOnPaths codec fun mgr =>
      (privateMessage env db mgr session kind src).getD (db, []) := by
  simp only [privateMessage, Option.bind_eq_bind]
  refine notifiesOnPaths_bind fun body _ => ?_
  refine notifiesOnPaths_bind fun fromUid _ => ?_
  refine notifiesOnPaths_bind fun toUid hto => ?_
  refine notifiesOnPaths_bind fun content _ => ?_
  refine notifiesOnPaths_bind fun extra hextra => ?_
  by_cases hpos : 0 < (saveMessage (env.ok 0) db env.gap fromUid toUid content env.now
    kind.msgType).1
  · simp only [if_pos hpos, Option.getD_some]
    refine notifiesOnPaths_notify [⟨toUid, kind.notifyId, _, _⟩] ?_
    exact List.forall_mem_singleton.2
      (sentOn_privatePublished hkind hextra _ _ _ (toInt32_of_getInt hto) _ _)
  · simp only [if_neg hpos, Option.getD_some]
    exact notifiesOnPaths_answer _ _ _

lemma notifiesOnPaths_groupMessage {kind : MessageKind}
    (hkind : kind = groupText ∨ kind = groupImage) :
    NotifiesOnPaths codec fun mgr => (groupMessage env db mgr session kind src).getD (db, []) := by
  simp only [groupMessage, Option.bind_eq_bind]
  refine notifiesOnPaths_bind fun body _ => ?_
  refine notifiesOnPaths_bind fun fromUid hfrom => ?_
  refine notifiesOnPaths_bind fun groupId hgroup => ?_
  refine notifiesOnPaths_bind fun content _ => ?_
  refine notifiesOnPaths_bind fun extra hextra => ?_
  rcases saveGroupMessage (env.ok 0) db env.gap fromUid groupId content env.now kind.msgType
    with ⟨mid, db'⟩
  by_cases hpos : 0 < mid
  · simp only [if_pos hpos, Option.getD_some]
    generalize getUserById (env.ok 1) db' fromUid = fromUser
    generalize getGroupInfo (env.ok 2) db' groupId = group
    have hsent : ∀ n ∈ (recipients fromUid (getGroupMembers (env.ok 3) db' groupId)).map
        (fun member => Notification.mk member.uid kind.notifyId
          (object (groupFields extra mid fromUid fromUser groupId group content env.now))
          (object (("type", .str kind.redisType) ::
            groupFields extra mid fromUid fromUser groupId group content env.now))),
        SentOn codec db' n.uid n.id n.notifyJson n.redisMsg := by
      intro n hn
      obtain ⟨member, hmember, rfl⟩ := List.mem_map.1 hn
      exact sentOn_group (wf_groupFields (extra_of_group hkind) hextra _ _ _ _ _ _ _)
        (subscriberCallback_groupPublished hextra hkind mid fromUser (toInt32_of_getInt hfrom)
          (toInt32_of_getInt hgroup) group content env.now) hmember
    have hnotify : NotifiesOnPaths codec fun mgr => (db', _ ++ [answer session kind.rspId
        [("error", .num ErrorCodes.success.code), ("messageId", .num mid),
          ("time", .str env.now)]]) := notifiesOnPaths_notify _ hsent
    simp only [List.map_map] at hnotify
    exact hnotify
  · simp only [if_neg hpos, Option.getD_some]
    exact notifiesOnPaths_answer _ _ _

lemma notifiesOnPaths_addFriend :
    NotifiesOnPaths codec fun mgr => (addFriend env db mgr session src).getD (db, []) := by
  simp only [addFriend, Option.bind_eq_bind]
  refine notifiesOnPaths_bind fun body _ => ?_
  refine notifiesOnPaths_bind fun fromUid _ => ?_
  refine notifiesOnPaths_bind fun toUid hto => ?_
  refine notifiesOnPaths_bind fun message _ => ?_
  rcases addFriendRequest (env.ok 0) db env.gap fromUid toUid message with ⟨success, db'⟩
  cases success with
  | false => exact notifiesOnPaths_answer _ _ _
  | true =>
    refine notifiesOnPaths_notify [⟨toUid, idNotifyAddFriendReq, _, _⟩] ?_
    exact List.forall_mem_singleton.2
      (sentOn_friendRequest _ _ (toInt32_of_getInt hto) _ _)

lemma notifiesOnPaths_authFriend :
    NotifiesOnPaths codec fun mgr => (authFriend env db mgr session src).getD (db, []) := by
  simp only [authFriend, Option.bind_eq_bind]
  refine notifiesOnPaths_bind fun body _ => ?_
  refine notifiesOnPaths_bind fun requestId _ => ?_
  refine notifiesOnPaths_bind fun fromUid hfrom => ?_
  refine notifiesOnPaths_bind fun toUid _ => ?_
  refine notifiesOnPaths_bind fun accepted _ => ?_
  rcases updateFriendRequestStatus (env.ok 0) db requestId accepted with ⟨updated, db₁⟩
  rcases (if updated && accepted then addFriendRelation (env.ok 1) db₁ env.gap fromUid toUid
    else (updated, db₁)) with ⟨success, db₂⟩
  cases success with
  | false => exact notifiesOnPaths_answer _ _ _
  | true =>
    refine notifiesOnPaths_notify [⟨fromUid, idNotifyAuthFriendRsp, _, _⟩] ?_
    exact List.forall_mem_singleton.2
      (sentOn_authResult _ (toInt32_of_getInt hfrom) _ _ _ _)

end Paths

/-- **The notification that a handler sends to a session of its own server, and the one that
another server sends after it was given the text that the handler publishes, have the same
identifier and the same value.** -/
theorem sameFrame_handleMsg (codec : Codec) (kind : NotificationKind) (env : Env) (db : Database)
    (session : Conn) (src : Option Json) (mgr : ℤ → Option Conn) (uid : ℤ) (c : Conn) :
    let direct := handleMsg env db (Function.update mgr uid (some c)) session kind.requestId src
    let published := handleMsg env db (Function.update mgr uid none) session kind.requestId src
    direct.1 = published.1 ∧
      List.Forall₂ (SameFrame codec published.1 uid c) direct.2 published.2 := by
  have hpaths : NotifiesOnPaths codec fun mgr =>
      handleMsg env db mgr session kind.requestId src := by
    cases kind with
    | text => exact notifiesOnPaths_privateMessage (.inl rfl)
    | image => exact notifiesOnPaths_privateMessage (.inr rfl)
    | groupText => exact notifiesOnPaths_groupMessage (.inl rfl)
    | groupImage => exact notifiesOnPaths_groupMessage (.inr rfl)
    | friendRequest => exact notifiesOnPaths_addFriend
    | authResult => exact notifiesOnPaths_authFriend
  exact hpaths.sameFrame mgr uid c

end LogicSystem

end WeChat
