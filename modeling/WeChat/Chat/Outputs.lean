/-
# What handlers store, send and publish

The rows that a handler inserts name the user that its request names.  The messages that a
handler sends or publishes carry a `messageId` only when the handler has just inserted the row
with that key, and what it publishes is a well-formed value.
-/
import WeChat.Chat.Rows
import WeChat.Chat.Handlers

namespace WeChat

open Wire Relational Json

/-- The field `messageId` of a value. -/
def messageId (msg : Json) : Option ℤ := msg.getInt "messageId"

/-- A `messageId` in a value satisfies a predicate. -/
def CarriesOnly (P : ℤ → Prop) (msg : Json) : Prop := ∀ mid, messageId msg = some mid → P mid

/-- The same for an output, whose value can be read back if it is published. -/
def Output.CarriesOnly (P : ℤ → Prop) : Output → Prop
  | .send _ _ msg => WeChat.CarriesOnly P msg
  | .publish _ msg => msg.Wf ∧ WeChat.CarriesOnly P msg

lemma Output.CarriesOnly.mono {P Q : ℤ → Prop} (hPQ : ∀ mid, P mid → Q mid) {o : Output}
    (h : o.CarriesOnly P) : o.CarriesOnly Q := by
  cases o with
  | send session id msg => exact fun mid hmid => hPQ mid (h mid hmid)
  | publish uid msg => exact ⟨h.1, fun mid hmid => hPQ mid (h.2 mid hmid)⟩

/-- A key that was drawn between two states of a table. -/
def Drawn (last last' mid : ℤ) : Prop := last < mid ∧ mid ≤ last'

/-- What a handler does: the keys of `messages` are drawn in their order, and the outputs carry
no others than those that it has drawn. -/
structure Emits (db : Database) (done : Database × List Output) : Prop where
  last_le : db.messages.last ≤ done.1.messages.last
  fresh : ∀ o ∈ done.2, o.CarriesOnly (Drawn db.messages.last done.1.messages.last)

lemma getInt_object (fields : List (String × Json)) (k : String) :
    (object fields).getInt k = ((fields.reverse.lookup k).getD .null).toInt := by
  rw [getInt, get_object, Option.bind_some]

lemma value_object (fields : List (String × Json)) (k default : String) :
    (object fields).value k default =
      match fields.reverse.lookup k with
      | some v => v.toStr
      | none => some default := by
  rw [← lookup_ofFields]
  rfl

lemma messageId_object (fields : List (String × Json)) :
    messageId (object fields) = ((fields.reverse.lookup "messageId").getD .null).toInt :=
  getInt_object fields "messageId"

/-- A value without the field has no `messageId`. -/
lemma carriesOnly_of_lookup {P : ℤ → Prop} {fields : List (String × Json)}
    (h : fields.reverse.lookup "messageId" = none) : CarriesOnly P (object fields) := by
  intro mid hmid
  rw [messageId_object, h] at hmid
  cases hmid

/-- The number in a field of a request. -/
def named (src : Option Json) (field : String) : Option ℤ := src.bind fun body => body.getInt field

/-- What a handler does with a request: in addition, the rows that it inserts name the user that
the request names. -/
structure Handles (db : Database) (src : Option Json) (done : Database × List Output) : Prop
    extends Emits db done where
  attributed : Attributed (named src "fromUid") (named src "ownerUid") db done.1

/-- What a handler does with a request that is no message: the outputs carry no key. -/
structure Leaves (db : Database) (src : Option Json) (done : Database × List Output) : Prop where
  messages : done.1.messages = db.messages
  silent : ∀ o ∈ done.2, o.CarriesOnly fun _ => False
  attributed : Attributed (named src "fromUid") (named src "ownerUid") db done.1

lemma emits_of_messages_eq {db : Database} {done : Database × List Output}
    (hdb : done.1.messages = db.messages)
    (hout : ∀ o ∈ done.2, o.CarriesOnly fun _ => False) : Emits db done := by
  exact ⟨hdb ▸ le_refl _, fun o ho => (hout o ho).mono fun _ => False.elim⟩

lemma Leaves.handles {db : Database} {src : Option Json} {done : Database × List Output}
    (h : Leaves db src done) : Handles db src done :=
  ⟨emits_of_messages_eq h.messages h.silent, h.attributed⟩

namespace LogicSystem

open MySQLMgr

section Handlers

variable {env : Env} {db : Database} {mgr : ℤ → Option Conn} {session : Conn}
  {src : Option Json} {done : Database × List Output}

/-- An output that is sent or published. -/
lemma carriesOnly_notifyOrPublish {P : ℤ → Prop} {uid id : ℤ} {notifyJson redisMsg : Json}
    (hn : CarriesOnly P notifyJson) (hwf : redisMsg.Wf) (hr : CarriesOnly P redisMsg) :
    (notifyOrPublish mgr uid id notifyJson redisMsg).CarriesOnly P := by
  rw [notifyOrPublish]
  split
  · exact hn
  · exact ⟨hwf, hr⟩

lemma carriesOnly_answer {P : ℤ → Prop} {id : ℤ} {fields : List (String × Json)}
    (h : fields.reverse.lookup "messageId" = none) :
    (answer session id fields).CarriesOnly P :=
  carriesOnly_of_lookup h

lemma carriesOnly_answerError {P : ℤ → Prop} {id : ℤ} {error : ErrorCodes} :
    (answerError session id error).CarriesOnly P :=
  carriesOnly_answer (by simp [List.lookup])

/-- A handler that inserts no row and sends no `messageId`. -/
lemma leaves_of_keeps (hkeeps : Keeps db done.1)
    (hout : ∀ o ∈ done.2, o.CarriesOnly fun _ => False) : Leaves db src done :=
  ⟨hkeeps.messages, hout, hkeeps.attributed⟩

/-- A handler that inserts no row and answers without a `messageId`. -/
lemma leaves_answer {o : Output} {db' : Database} (hkeeps : Keeps db db')
    (ho : o.CarriesOnly fun _ => False) : Leaves db src (db', [o]) :=
  leaves_of_keeps hkeeps (List.forall_mem_singleton.2 ho)

lemma leaves_friendList (h : friendList env db mgr session src = some done) :
    Leaves db src done := by
  rw [friendList] at h
  split at h
  · obtain rfl := Option.some.inj h
    exact leaves_answer (.refl db) (carriesOnly_answer (by simp [List.lookup]))
  · obtain rfl := Option.some.inj h
    exact leaves_answer (.refl db) carriesOnly_answerError

lemma leaves_searchUser (h : searchUser env db session src = some done) : Leaves db src done := by
  simp only [searchUser, Option.bind_eq_bind, Option.bind_eq_some_iff] at h
  obtain ⟨src, -, searchKey, -, searchType, -, h⟩ := h
  obtain rfl := Option.some.inj h
  exact leaves_answer (.refl db) (carriesOnly_answer (by simp [List.lookup]))

lemma leaves_addFriend (h : addFriend env db mgr session src = some done) :
    Leaves db src done := by
  simp only [addFriend, Option.bind_eq_bind, Option.bind_eq_some_iff] at h
  obtain ⟨body, rfl, fromUid, hfrom, toUid, -, message, -, h⟩ := h
  have hdb := messages_addFriendRequest (env.ok 0) db env.gap fromUid toUid message
  have hattr : Attributed (named (some body) "fromUid") (named (some body) "ownerUid") db
      (addFriendRequest (env.ok 0) db env.gap fromUid toUid message).2 := by
    rw [named, Option.bind_some, hfrom]
    rcases addFriendRequest_spec (env.ok 0) db env.gap fromUid toUid message with
      hkeeps | ⟨id, hrequested⟩
    · exact hkeeps.attributed
    · exact hrequested.attributed
  split_ifs at h
  · obtain rfl := Option.some.inj h
    refine ⟨hdb, fun o ho => ?_, hattr⟩
    rcases List.mem_cons.1 ho with rfl | ho
    · refine carriesOnly_notifyOrPublish ?_ ?_ ?_
      · exact carriesOnly_of_lookup (by simp [List.lookup])
      · exact wf_object (by simp [Wf])
      · exact carriesOnly_of_lookup (by simp [List.lookup])
    · obtain rfl := List.mem_singleton.1 ho
      exact carriesOnly_answerError
  · obtain rfl := Option.some.inj h
    exact ⟨hdb, List.forall_mem_singleton.2 carriesOnly_answerError, hattr⟩

lemma leaves_authFriend (h : authFriend env db mgr session src = some done) :
    Leaves db src done := by
  simp only [authFriend, Option.bind_eq_bind, Option.bind_eq_some_iff] at h
  obtain ⟨src, -, requestId, -, fromUid, -, toUid, -, accepted, -, h⟩ := h
  have hfirst := keeps_updateFriendRequestStatus (env.ok 0) db requestId accepted
  generalize updateFriendRequestStatus (env.ok 0) db requestId accepted = first at h hfirst
  -- the friendship is added only when the status was updated and the request accepted
  have hsecond : Keeps db (if (first.1 && accepted) = true then
      addFriendRelation (env.ok 1) first.2 env.gap fromUid toUid
    else (first.1, first.2)).2 := by
    split_ifs
    · exact hfirst.trans (keeps_addFriendRelation (env.ok 1) first.2 env.gap fromUid toUid)
    · exact hfirst
  generalize (if (first.1 && accepted) = true then
      addFriendRelation (env.ok 1) first.2 env.gap fromUid toUid
    else (first.1, first.2)) = second at h hsecond
  by_cases hok : second.1 = true
  · rw [if_pos hok] at h
    obtain rfl := Option.some.inj h
    refine leaves_of_keeps hsecond fun o ho => ?_
    rcases List.mem_cons.1 ho with rfl | ho
    · refine carriesOnly_notifyOrPublish ?_ ?_ ?_
      · exact carriesOnly_of_lookup (by simp [List.lookup])
      · exact wf_object (by simp [Wf])
      · exact carriesOnly_of_lookup (by simp [List.lookup])
    · obtain rfl := List.mem_singleton.1 ho
      exact carriesOnly_answerError
  · rw [if_neg hok] at h
    obtain rfl := Option.some.inj h
    exact leaves_answer hsecond carriesOnly_answerError

/-! ## Messages -/

lemma imageExtra_spec {src : Json} {extra : List (String × Json)}
    (h : imageExtra src = some extra) :
    ∃ imageType imageWidth imageHeight fileSize,
      extra = [("imageType", .str imageType), ("width", .num imageWidth),
        ("height", .num imageHeight), ("fileSize", .num fileSize)] := by
  simp only [imageExtra, Option.bind_eq_bind, Option.bind_eq_some_iff] at h
  obtain ⟨imageType, -, imageWidth, -, imageHeight, -, fileSize, -, h⟩ := h
  exact ⟨imageType, imageWidth, imageHeight, fileSize, (Option.some.inj h).symm⟩

/-- The fields that follow the content of a message. -/
lemma extra_cases {kind : MessageKind} (hkind : kind.extra = noExtra ∨ kind.extra = imageExtra)
    {src : Json} {extra : List (String × Json)} (h : kind.extra src = some extra) :
    extra = [] ∨ ∃ imageType imageWidth imageHeight fileSize,
      extra = [("imageType", .str imageType), ("width", .num imageWidth),
        ("height", .num imageHeight), ("fileSize", .num fileSize)] := by
  rcases hkind with hkind | hkind
  · rw [hkind] at h
    exact .inl (Option.some.inj h).symm
  · rw [hkind] at h
    exact .inr (imageExtra_spec h)

lemma extra_of_private {kind : MessageKind} (h : kind = textChat ∨ kind = imageChat) :
    kind.extra = noExtra ∨ kind.extra = imageExtra :=
  h.imp (congrArg MessageKind.extra) (congrArg MessageKind.extra)

lemma extra_of_group {kind : MessageKind} (h : kind = groupText ∨ kind = groupImage) :
    kind.extra = noExtra ∨ kind.extra = imageExtra :=
  h.imp (congrArg MessageKind.extra) (congrArg MessageKind.extra)

/-- The notification of a private message. -/
def privateNotify (extra : List (String × Json)) (mid fromUid : ℤ) (fromUser : UserInfo)
    (content now : String) : Json :=
  object ([("messageId", .num mid), ("fromUid", .num fromUid), ("fromName", .str fromUser.name),
    ("fromAvatar", .str fromUser.avatar), ("content", .str content)] ++ extra ++
    [("time", .str now)])

/-- The value that is published for a private message. -/
def privatePublished (kind : MessageKind) (extra : List (String × Json)) (mid fromUid : ℤ)
    (fromUser : UserInfo) (toUid : ℤ) (content now : String) : Json :=
  object ([("type", .str kind.redisType), ("messageId", .num mid), ("fromUid", .num fromUid),
    ("fromName", .str fromUser.name), ("fromAvatar", .str fromUser.avatar),
    ("toUid", .num toUid), ("content", .str content)] ++ extra ++ [("time", .str now)])

/-- The fields of a group message. -/
def groupFields (extra : List (String × Json)) (mid fromUid : ℤ) (fromUser : UserInfo)
    (groupId : ℤ) (group : GroupInfo) (content now : String) : List (String × Json) :=
  [("messageId", .num mid), ("fromUid", .num fromUid), ("fromName", .str fromUser.name),
    ("fromAvatar", .str fromUser.avatar), ("groupId", .num groupId),
    ("groupName", .str group.name), ("content", .str content)] ++ extra ++ [("time", .str now)]

/-- What the handler of a private message does. -/
lemma privateMessage_spec {kind : MessageKind}
    (h : privateMessage env db mgr session kind src = some done) :
    ∃ body fromUid toUid content extra, src = some body ∧ body.getInt "fromUid" = some fromUid ∧
      body.getInt "toUid" = some toUid ∧ body.getStr "content" = some content ∧
      kind.extra body = some extra ∧
      (done = (db, [answerError session kind.rspId .errNetwork]) ∨
        ∃ mid db' fromUser,
          Stored db db' ⟨mid, fromUid, toUid, content, env.now, kind.msgType, 0, 0⟩ ∧
          done = (db',
            [notifyOrPublish mgr toUid kind.notifyId
                (privateNotify extra mid fromUid fromUser content env.now)
                (privatePublished kind extra mid fromUid fromUser toUid content env.now),
              answer session kind.rspId [("error", .num ErrorCodes.success.code),
                ("messageId", .num mid), ("time", .str env.now)]])) := by
  simp only [privateMessage, Option.bind_eq_bind, Option.bind_eq_some_iff] at h
  obtain ⟨body, rfl, fromUid, hfrom, toUid, hto, content, hcontent, extra, hextra, h⟩ := h
  refine ⟨body, fromUid, toUid, content, extra, rfl, hfrom, hto, hcontent, hextra, ?_⟩
  rcases hsave : saveMessage (env.ok 0) db env.gap fromUid toUid content env.now kind.msgType
    with ⟨mid, db'⟩
  rw [hsave] at h
  rcases insertMessage_spec hsave with ⟨rfl, rfl⟩ | hstored
  · exact .inl (Option.some.inj h).symm
  · rw [if_pos hstored.id_pos] at h
    exact .inr ⟨mid, db', _, hstored, (Option.some.inj h).symm⟩

/-- What the handler of a group message does. -/
lemma groupMessage_spec {kind : MessageKind}
    (h : groupMessage env db mgr session kind src = some done) :
    ∃ body fromUid groupId content extra, src = some body ∧
      body.getInt "fromUid" = some fromUid ∧ body.getInt "groupId" = some groupId ∧
      body.getStr "content" = some content ∧ kind.extra body = some extra ∧
      (done = (db, [answerError session kind.rspId .errNetwork]) ∨
        ∃ mid db' fromUser group,
          Stored db db' ⟨mid, fromUid, groupId, content, env.now, kind.msgType, 0, 1⟩ ∧
          let fields := groupFields extra mid fromUid fromUser groupId group content env.now
          done = (db',
            (recipients fromUid (getGroupMembers (env.ok 3) db' groupId)).map (fun member =>
                notifyOrPublish mgr member.uid kind.notifyId (object fields)
                  (object (("type", .str kind.redisType) :: fields))) ++
              [answer session kind.rspId [("error", .num ErrorCodes.success.code),
                ("messageId", .num mid), ("time", .str env.now)]])) := by
  simp only [groupMessage, Option.bind_eq_bind, Option.bind_eq_some_iff] at h
  obtain ⟨body, rfl, fromUid, hfrom, groupId, hgroup, content, hcontent, extra, hextra, h⟩ := h
  refine ⟨body, fromUid, groupId, content, extra, rfl, hfrom, hgroup, hcontent, hextra, ?_⟩
  rcases hsave : saveGroupMessage (env.ok 0) db env.gap fromUid groupId content env.now
    kind.msgType with ⟨mid, db'⟩
  rw [hsave] at h
  rcases insertMessage_spec hsave with ⟨rfl, rfl⟩ | hstored
  · exact .inl (Option.some.inj h).symm
  · rw [if_pos hstored.id_pos] at h
    exact .inr ⟨mid, db', _, _, hstored, (Option.some.inj h).symm⟩

section Values

variable {kind : MessageKind} (hkind : kind.extra = noExtra ∨ kind.extra = imageExtra)
  {body : Json} {extra : List (String × Json)} (hextra : kind.extra body = some extra)
  {mid : ℤ} (hmid : toInt32 mid = mid)

include hkind hextra

include hmid in
lemma messageId_privateNotify (fromUid : ℤ) (fromUser : UserInfo) (content now : String) :
    messageId (privateNotify extra mid fromUid fromUser content now) = some mid := by
  rw [privateNotify, messageId_object]
  rcases extra_cases hkind hextra with rfl | ⟨t, w, h, f, rfl⟩ <;>
    simp [List.lookup, toInt, hmid]

include hmid in
lemma messageId_privatePublished (fromUid : ℤ) (fromUser : UserInfo) (toUid : ℤ)
    (content now : String) :
    messageId (privatePublished kind extra mid fromUid fromUser toUid content now) =
      some mid := by
  rw [privatePublished, messageId_object]
  rcases extra_cases hkind hextra with rfl | ⟨t, w, h, f, rfl⟩ <;>
    simp [List.lookup, toInt, hmid]

lemma wf_privatePublished (fromUid : ℤ) (fromUser : UserInfo) (toUid : ℤ)
    (content now : String) :
    (privatePublished kind extra mid fromUid fromUser toUid content now).Wf := by
  refine wf_object ?_
  rcases extra_cases hkind hextra with rfl | ⟨t, w, h, f, rfl⟩ <;> simp [Wf]

include hmid in
lemma messageId_groupFields (fromUid : ℤ) (fromUser : UserInfo) (groupId : ℤ)
    (group : GroupInfo) (content now : String) (fields : List (String × Json)) :
    messageId (object (fields ++
      groupFields extra mid fromUid fromUser groupId group content now)) = some mid := by
  rw [messageId_object, List.reverse_append, groupFields]
  rcases extra_cases hkind hextra with rfl | ⟨t, w, h, f, rfl⟩ <;>
    simp [List.lookup, toInt, hmid]

lemma wf_groupFields (fromUid : ℤ) (fromUser : UserInfo) (groupId : ℤ) (group : GroupInfo)
    (content now type : String) :
    (object (("type", .str type) ::
      groupFields extra mid fromUid fromUser groupId group content now)).Wf := by
  refine wf_object ?_
  rw [groupFields]
  rcases extra_cases hkind hextra with rfl | ⟨t, w, h, f, rfl⟩ <;> simp [Wf]

end Values

/-- A value whose `messageId` has just been drawn. -/
lemma carriesOnly_of_messageId {last mid : ℤ} {msg : Json} (h : messageId msg = some mid)
    (hlt : last < mid) : CarriesOnly (Drawn last mid) msg := by
  intro mid' hmid'
  obtain rfl := Option.some.inj (h.symm.trans hmid')
  exact ⟨hlt, le_refl _⟩

lemma messageId_success {mid : ℤ} (hmid : toInt32 mid = mid) (now : String) :
    messageId (object [("error", .num ErrorCodes.success.code), ("messageId", .num mid),
      ("time", .str now)]) = some mid := by
  rw [messageId_object]
  simp [List.lookup, toInt, hmid]

lemma handles_privateMessage {kind : MessageKind}
    (hkind : kind.extra = noExtra ∨ kind.extra = imageExtra)
    (h : privateMessage env db mgr session kind src = some done) : Handles db src done := by
  obtain ⟨body, fromUid, toUid, content, extra, rfl, hfrom, -, -, hextra, hdone⟩ :=
    privateMessage_spec h
  rcases hdone with rfl | ⟨mid, db', fromUser, hstored, rfl⟩
  · exact (leaves_answer (.refl db) carriesOnly_answerError).handles
  · have hmid := hstored.toInt32_id
    have hlast : db'.messages.last = mid := hstored.last_eq
    have hattr : Attributed (named (some body) "fromUid") (named (some body) "ownerUid") db
        db' := by
      rw [named, Option.bind_some, hfrom]
      exact hstored.attributed
    refine ⟨⟨hlast ▸ hstored.new.le, fun o ho => ?_⟩, hattr⟩
    rw [hlast]
    rcases List.mem_cons.1 ho with rfl | ho
    · refine carriesOnly_notifyOrPublish ?_ (wf_privatePublished hkind hextra _ _ _ _ _) ?_
      · exact carriesOnly_of_messageId
          (messageId_privateNotify hkind hextra hmid _ _ _ _) hstored.new
      · exact carriesOnly_of_messageId
          (messageId_privatePublished hkind hextra hmid _ _ _ _ _) hstored.new
    · obtain rfl := List.mem_singleton.1 ho
      exact carriesOnly_of_messageId (messageId_success hmid _) hstored.new

lemma handles_groupMessage {kind : MessageKind}
    (hkind : kind.extra = noExtra ∨ kind.extra = imageExtra)
    (h : groupMessage env db mgr session kind src = some done) : Handles db src done := by
  obtain ⟨body, fromUid, groupId, content, extra, rfl, hfrom, -, -, hextra, hdone⟩ :=
    groupMessage_spec h
  rcases hdone with rfl | ⟨mid, db', fromUser, group, hstored, rfl⟩
  · exact (leaves_answer (.refl db) carriesOnly_answerError).handles
  · have hmid := hstored.toInt32_id
    have hlast : db'.messages.last = mid := hstored.last_eq
    have hattr : Attributed (named (some body) "fromUid") (named (some body) "ownerUid") db
        db' := by
      rw [named, Option.bind_some, hfrom]
      exact hstored.attributed
    refine ⟨⟨hlast ▸ hstored.new.le, fun o ho => ?_⟩, hattr⟩
    rw [hlast]
    rcases List.mem_append.1 ho with ho | ho
    · obtain ⟨member, -, rfl⟩ := List.mem_map.1 ho
      refine carriesOnly_notifyOrPublish ?_ (wf_groupFields hkind hextra _ _ _ _ _ _ _) ?_
      · exact carriesOnly_of_messageId
          (messageId_groupFields hkind hextra hmid _ _ _ _ _ _ []) hstored.new
      · exact carriesOnly_of_messageId
          (messageId_groupFields hkind hextra hmid _ _ _ _ _ _ [_]) hstored.new
    · obtain rfl := List.mem_singleton.1 ho
      exact carriesOnly_of_messageId (messageId_success hmid _) hstored.new

lemma leaves_chatHistory (h : chatHistory env db session src = some done) :
    Leaves db src done := by
  simp only [chatHistory] at h
  split at h <;> obtain rfl := Option.some.inj h
  · exact leaves_answer (.refl db) (carriesOnly_answer (by simp [List.lookup]))
  · exact leaves_answer (.refl db) carriesOnly_answerError

lemma leaves_groupChatHistory (h : groupChatHistory env db session src = some done) :
    Leaves db src done := by
  simp only [groupChatHistory, Option.bind_eq_bind, Option.bind_eq_some_iff] at h
  obtain ⟨src, -, groupId, -, count, -, offset, -, h⟩ := h
  obtain rfl := Option.some.inj h
  exact leaves_answer (.refl db) (carriesOnly_answer (by simp [List.lookup]))

/-! ## Groups -/

lemma leaves_createGroupReq (h : createGroupReq env db session src = some done) :
    Leaves db src done := by
  simp only [createGroupReq, Option.bind_eq_bind, Option.bind_eq_some_iff] at h
  obtain ⟨body, rfl, ownerUid, howner, name, -, avatar, -, h⟩ := h
  have hdb :=
    messages_createGroup (env.ok 0) db (env.ok 1) env.gap env.now ownerUid name avatar
  have hattr : Attributed (named (some body) "fromUid") (named (some body) "ownerUid") db
      (createGroup (env.ok 0) db (env.ok 1) env.gap env.now ownerUid name avatar).2 := by
    rw [named, named, Option.bind_some, Option.bind_some, howner]
    rcases createGroup_spec (env.ok 0) db (env.ok 1) env.gap env.now ownerUid name avatar with
      hkeeps | ⟨id, hfounded⟩
    · exact hkeeps.attributed
    · exact hfounded.attributed
  split_ifs at h <;> obtain rfl := Option.some.inj h
  · exact ⟨hdb, List.forall_mem_singleton.2 (carriesOnly_answer (by simp [List.lookup])), hattr⟩
  · exact ⟨hdb, List.forall_mem_singleton.2 carriesOnly_answerError, hattr⟩

lemma keeps_addGroupMembers (groupId : ℤ) (uids : List ℤ) (i : ℕ) (db : Database) :
    Keeps db (addGroupMembers env groupId i db uids).2 := by
  induction uids generalizing i db with
  | nil => exact .refl db
  | cons uid uids ih =>
    have hone := keeps_addGroupMember (env.ok i) db groupId uid .member
    rw [addGroupMembers]
    split
    · next heq =>
      rw [heq] at hone
      exact hone.trans (ih _ _)
    · next heq =>
      rw [heq] at hone
      exact hone

lemma leaves_addGroupMemberReq (h : addGroupMemberReq env db session src = some done) :
    Leaves db src done := by
  simp only [addGroupMemberReq, Option.bind_eq_bind, Option.bind_eq_some_iff] at h
  obtain ⟨src, -, groupId, -, uids, -, h⟩ := h
  obtain rfl := Option.some.inj h
  exact leaves_answer (keeps_addGroupMembers groupId uids 0 db) carriesOnly_answerError

lemma leaves_removeGroupMemberReq (h : removeGroupMemberReq env db session src = some done) :
    Leaves db src done := by
  simp only [removeGroupMemberReq, Option.bind_eq_bind, Option.bind_eq_some_iff] at h
  obtain ⟨src, -, groupId, -, uid, -, h⟩ := h
  obtain rfl := Option.some.inj h
  have hkeeps := keeps_removeGroupMember (env.ok 0) db groupId uid
  exact leaves_answer hkeeps carriesOnly_answerError

lemma leaves_groupList (h : groupList env db session src = some done) : Leaves db src done := by
  simp only [groupList, Option.bind_eq_bind, Option.bind_eq_some_iff] at h
  obtain ⟨src, -, uid, -, h⟩ := h
  obtain rfl := Option.some.inj h
  exact leaves_answer (.refl db) (carriesOnly_answer (by simp [List.lookup]))

lemma leaves_groupMembers (h : groupMembers env db mgr session src = some done) :
    Leaves db src done := by
  simp only [groupMembers, Option.bind_eq_bind, Option.bind_eq_some_iff] at h
  obtain ⟨src, -, groupId, -, h⟩ := h
  obtain rfl := Option.some.inj h
  exact leaves_answer (.refl db) (carriesOnly_answer (by simp [List.lookup]))

lemma of_ite_some {α : Type*} {p : Prop} [Decidable p] {a x : α} {b : Option α}
    (h : (if p then some a else b) = some x) : p ∧ a = x ∨ b = some x := by
  split_ifs at h with hp
  · exact .inl ⟨hp, Option.some.inj h⟩
  · exact .inr h

/-- A property of identifiers and their handlers holds of all of them when it holds of each. -/
lemma forall_msgHandler {P : ℤ → (Option Json → Option (Database × List Output)) → Prop}
    (friendList : P idFriendListReq (LogicSystem.friendList env db mgr session))
    (searchUser : P idSearchUserReq (LogicSystem.searchUser env db session))
    (addFriend : P idAddFriendReq (LogicSystem.addFriend env db mgr session))
    (authFriend : P idAuthFriendReq (LogicSystem.authFriend env db mgr session))
    (textChatMsg : P idTextChatMsgReq (LogicSystem.textChatMsg env db mgr session))
    (imageChatMsg : P idImageChatMsgReq (LogicSystem.imageChatMsg env db mgr session))
    (chatHistory : P idGetChatHistoryReq (LogicSystem.chatHistory env db session))
    (createGroupReq : P idCreateGroupReq (LogicSystem.createGroupReq env db session))
    (addGroupMemberReq : P idAddGroupMemberReq (LogicSystem.addGroupMemberReq env db session))
    (removeGroupMemberReq :
      P idRemoveGroupMemberReq (LogicSystem.removeGroupMemberReq env db session))
    (groupChatMsg : P idGroupChatMsgReq (LogicSystem.groupChatMsg env db mgr session))
    (groupImageChatMsg :
      P idGroupImageChatMsgReq (LogicSystem.groupImageChatMsg env db mgr session))
    (groupList : P idGetGroupListReq (LogicSystem.groupList env db session))
    (groupMembers : P idGetGroupMembersReq (LogicSystem.groupMembers env db mgr session))
    (groupChatHistory : P idGetGroupChatHistoryReq (LogicSystem.groupChatHistory env db session))
    {id : ℤ} {handler : Option Json → Option (Database × List Output)}
    (h : msgHandler env db mgr session id = some handler) : P id handler := by
  rw [msgHandler] at h
  -- one identifier after the other, in the order of the registration
  rcases of_ite_some h with ⟨rfl, rfl⟩ | h
  · exact friendList
  rcases of_ite_some h with ⟨rfl, rfl⟩ | h
  · exact searchUser
  rcases of_ite_some h with ⟨rfl, rfl⟩ | h
  · exact addFriend
  rcases of_ite_some h with ⟨rfl, rfl⟩ | h
  · exact authFriend
  rcases of_ite_some h with ⟨rfl, rfl⟩ | h
  · exact textChatMsg
  rcases of_ite_some h with ⟨rfl, rfl⟩ | h
  · exact imageChatMsg
  rcases of_ite_some h with ⟨rfl, rfl⟩ | h
  · exact chatHistory
  rcases of_ite_some h with ⟨rfl, rfl⟩ | h
  · exact createGroupReq
  rcases of_ite_some h with ⟨rfl, rfl⟩ | h
  · exact addGroupMemberReq
  rcases of_ite_some h with ⟨rfl, rfl⟩ | h
  · exact removeGroupMemberReq
  rcases of_ite_some h with ⟨rfl, rfl⟩ | h
  · exact groupChatMsg
  rcases of_ite_some h with ⟨rfl, rfl⟩ | h
  · exact groupImageChatMsg
  rcases of_ite_some h with ⟨rfl, rfl⟩ | h
  · exact groupList
  rcases of_ite_some h with ⟨rfl, rfl⟩ | h
  · exact groupMembers
  rcases of_ite_some h with ⟨rfl, rfl⟩ | h
  · exact groupChatHistory
  cases h

/-- **Every handler draws its keys in order, and sends and publishes no others; the rows that it
inserts name the user that its request names.** -/
theorem handles_handleMsg (env : Env) (db : Database) (mgr : ℤ → Option Conn) (session : Conn)
    (id : ℤ) (src : Option Json) : Handles db src (handleMsg env db mgr session id src) := by
  rw [handleMsg]
  cases hh : (msgHandler env db mgr session id).bind fun handler => handler src with
  | none =>
    exact (leaves_of_keeps (.refl db) fun o ho => absurd ho List.not_mem_nil).handles
  | some done =>
    obtain ⟨handler, hhandler, hdone⟩ := Option.bind_eq_some_iff.1 hh
    have hall : ∀ done, handler src = some done → Handles db src done :=
      forall_msgHandler
        (P := fun _ handler => ∀ done, handler src = some done → Handles db src done)
        (fun _ h => (leaves_friendList h).handles) (fun _ h => (leaves_searchUser h).handles)
        (fun _ h => (leaves_addFriend h).handles) (fun _ h => (leaves_authFriend h).handles)
        (fun _ => handles_privateMessage (.inl rfl)) (fun _ => handles_privateMessage (.inr rfl))
        (fun _ h => (leaves_chatHistory h).handles) (fun _ h => (leaves_createGroupReq h).handles)
        (fun _ h => (leaves_addGroupMemberReq h).handles)
        (fun _ h => (leaves_removeGroupMemberReq h).handles)
        (fun _ => handles_groupMessage (.inl rfl)) (fun _ => handles_groupMessage (.inr rfl))
        (fun _ h => (leaves_groupList h).handles) (fun _ h => (leaves_groupMembers h).handles)
        (fun _ h => (leaves_groupChatHistory h).handles) hhandler
    exact hall done hdone

end Handlers

end LogicSystem

end WeChat
