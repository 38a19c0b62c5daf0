/-
# The message handlers

The handlers of `LogicSystem` and its callback for the messages of other servers.  A handler
reads everything it needs from the body before it does anything else, so an exception has no
effect but that there is no answer; it is `none`.  What a handler does is the database it
leaves and a list of outputs.  The entry `mgr` of a user in `SessionMgr` is looked up where the
source calls `getSessionByUid`.
-/
import WeChat.Lib.Json
import WeChat.Chat.Const
import WeChat.Chat.History

namespace WeChat

open Relational

/-- A connection: the number of its server, and its own number there. -/
structure Conn where
  srv : ℕ
  num : ℕ
deriving DecidableEq

/-- What a handler does besides its work on the database. -/
inductive Output
  /-- `session->send` of the text of a value. -/
  | send (session : Conn) (id : ℤ) (msg : Json)
  /-- `PUBLISH` of the text of a value on the channel `user:<uid>`. -/
  | publish (uid : ℤ) (msg : Json)

/-- What a step is given by its environment. -/
structure Env where
  /-- The outcome of the database calls of a handler, which are numbered. -/
  ok : ℕ → Bool
  /-- The keys that the next `AUTO_INCREMENT` skips. -/
  gap : ℕ
  /-- The time, as `getCurrentTimeString` and `NOW()` give it. -/
  now : String
  tie : TieBreak ℤ
  /-- The error code of the answer of `CheckToken`. -/
  checkToken : ℤ → String → ℤ

namespace LogicSystem

open Json MySQLMgr

variable (env : Env) (db : Database) (mgr : ℤ → Option Conn) (session : Conn)

/-- An answer to the session that sent the request. -/
def answer (id : ℤ) (fields : List (String × Json)) : Output :=
  .send session id (object fields)

/-- An answer that holds an error code only. -/
def answerError (id : ℤ) (error : ErrorCodes) : Output :=
  answer session id [("error", .num error.code)]

/-- `notifyJson` to the session of a user on this server, or else `redisMsg` on the channel of
the user. -/
def notifyOrPublish (uid id : ℤ) (notifyJson redisMsg : Json) : Output :=
  match mgr uid with
  | some targetSession => .send targetSession id notifyJson
  | none => .publish uid redisMsg

/-- A user in a friend list or a member list; `isOnline` is `SessionMgr::isUserOnline`. -/
def userJson (u : UserInfo) : Json :=
  object [("uid", .num u.uid), ("name", .str u.name), ("avatar", .str u.avatar),
    ("status", .str u.status), ("isOnline", .bool (mgr u.uid).isSome)]

def historyJson (m : HistoryEntry) : Json :=
  object [("id", .str m.id), ("from_uid", .str m.from_uid), ("to_uid", .str m.to_uid),
    ("content", .str m.content), ("send_time", .str m.send_time), ("msg_type", .str m.msg_type),
    ("status", .str m.status)]

/-! ## Friends and users -/

/-- `ID_FRIEND_LIST_REQ`. -/
def friendList (src : Option Json) : Option (Database × List Output) :=
  match src.bind (·.getInt "uid") with
  | some uid =>
    let friends := getFriendList (env.ok 0) db uid
    some (db, [answer session idFriendListRsp
      [("error", .num ErrorCodes.success.code), ("friends", .arr (friends.map (userJson mgr)))]])
  | none => some (db, [answerError session idFriendListRsp .errorJson])

/-- `std::isspace` in the C locale. -/
def isSpace (c : Char) : Bool := [' ', '\t', '\n', '\x0b', '\x0c', '\r'].contains c

/-- `std::stoi`: white space, a sign and digits are read, and what follows is ignored. -/
def stoi (s : String) : Option ℤ :=
  let s := s.toList.dropWhile isSpace
  let number := fun digits : List Char =>
    let ds := digits.takeWhile Char.isDigit
    if ds = [] then none else some ((ds.foldl (fun n c => 10 * n + (c.toNat - 48)) 0 : ℕ) : ℤ)
  let n := match s with
    | '-' :: r => (number r).map fun n => -n
    | '+' :: r => number r
    | r => number r
  n.filter fun n => -maxInt - 1 ≤ n ∧ n ≤ maxInt

/-- `ID_SEARCH_USER_REQ`. -/
def searchUser (src : Option Json) : Option (Database × List Output) := do
  let src ← src
  let searchKey ← src.getStr "keyword"
  let searchType ← src.getInt "searchType"
  let results :=
    if searchType = 0 then searchUserByName (env.ok 0) db searchKey
    else if searchType = 1 then
      match stoi searchKey with
      | some uid =>
        let user := getUserById (env.ok 0) db uid
        if 0 < user.uid then [user] else []
      | none => []
    else []
  some (db, [answer session idSearchUserRsp
    [("error", .num ErrorCodes.success.code),
      ("users", .arr (results.map fun u =>
        object [("uid", .num u.uid), ("name", .str u.name), ("avatar", .str u.avatar)]))]])

/-- `ID_ADD_FRIEND_REQ`. -/
def addFriend (src : Option Json) : Option (Database × List Output) := do
  let src ← src
  let fromUid ← src.getInt "fromUid"
  let toUid ← src.getInt "toUid"
  let message ← src.getStr "message"
  let (success, db') := addFriendRequest (env.ok 0) db env.gap fromUid toUid message
  if success then
    let fromUser := getUserById (env.ok 1) db' fromUid
    let notifyJson := object [("fromUid", .num fromUid), ("fromName", .str fromUser.name),
      ("fromAvatar", .str fromUser.avatar), ("message", .str message),
      ("requestTime", .str env.now)]
    let redisMsg := object [("type", .str "friend_request"), ("fromUid", .num fromUid),
      ("fromName", .str fromUser.name), ("fromAvatar", .str fromUser.avatar),
      ("toUid", .num toUid), ("message", .str message), ("requestTime", .str env.now)]
    some (db', [notifyOrPublish mgr toUid idNotifyAddFriendReq notifyJson redisMsg,
      answerError session idAddFriendRsp .success])
  else some (db', [answerError session idAddFriendRsp .errNetwork])

/-- `ID_AUTH_FRIEND_REQ`: the sender of the request is told what became of it. -/
def authFriend (src : Option Json) : Option (Database × List Output) := do
  let src ← src
  let requestId ← src.getInt "requestId"
  let fromUid ← src.getInt "fromUid"
  let toUid ← src.getInt "toUid"
  let accepted ← src.getBool "accept"
  let (success, db₁) := updateFriendRequestStatus (env.ok 0) db requestId accepted
  let (success, db₂) :=
    if success && accepted then addFriendRelation (env.ok 1) db₁ env.gap fromUid toUid
    else (success, db₁)
  if success then
    let toUser := getUserById (env.ok 3) db₂ toUid
    let message := if accepted then "对方已接受您的好友请求" else "对方已拒绝您的好友请求"
    let notifyJson := object [("requestId", .num requestId), ("fromUid", .num toUid),
      ("fromName", .str toUser.name), ("toUid", .num fromUid), ("accepted", .bool accepted),
      ("message", .str message)]
    let redisMsg := object [("type", .str "auth_friend_rsp"), ("requestId", .num requestId),
      ("fromUid", .num fromUid), ("toUid", .num toUid), ("toName", .str toUser.name),
      ("accepted", .bool accepted), ("message", .str message)]
    some (db₂, [notifyOrPublish mgr fromUid idNotifyAuthFriendRsp notifyJson redisMsg,
      answerError session idAuthFriendRsp .success])
  else some (db₂, [answerError session idAuthFriendRsp .errNetwork])

/-! ## Messages -/

/-- What tells the handlers of texts and images apart: the fields that follow the content, the
value of `msg_type`, the identifiers of the notification and the answer, and the type of the
message for other servers. -/
structure MessageKind where
  extra : Json → Option (List (String × Json))
  msgType : ℤ
  notifyId : ℤ
  rspId : ℤ
  redisType : String

/-- A text has no fields besides its content. -/
def noExtra (_src : Json) : Option (List (String × Json)) := some []

/-- The fields of an image. -/
def imageExtra (src : Json) : Option (List (String × Json)) := do
  let imageType ← src.getStr "imageType"
  let imageWidth ← src.getInt "width"
  let imageHeight ← src.getInt "height"
  let fileSize ← src.getInt "fileSize"
  some [("imageType", .str imageType), ("width", .num imageWidth), ("height", .num imageHeight),
    ("fileSize", .num fileSize)]

/-- The body of the two handlers of private messages. -/
def privateMessage (kind : MessageKind) (src : Option Json) :
    Option (Database × List Output) := do
  let src ← src
  let fromUid ← src.getInt "fromUid"
  let toUid ← src.getInt "toUid"
  let content ← src.getStr "content"
  let extra ← kind.extra src
  let (messageId, db') :=
    saveMessage (env.ok 0) db env.gap fromUid toUid content env.now kind.msgType
  if 0 < messageId then
    let fromUser := getUserById (env.ok 1) db' fromUid
    let notifyJson := object ([("messageId", .num messageId), ("fromUid", .num fromUid),
      ("fromName", .str fromUser.name), ("fromAvatar", .str fromUser.avatar),
      ("content", .str content)] ++ extra ++ [("time", .str env.now)])
    let redisMsg := object ([("type", .str kind.redisType), ("messageId", .num messageId),
      ("fromUid", .num fromUid), ("fromName", .str fromUser.name),
      ("fromAvatar", .str fromUser.avatar), ("toUid", .num toUid), ("content", .str content)] ++
      extra ++ [("time", .str env.now)])
    some (db', [notifyOrPublish mgr toUid kind.notifyId notifyJson redisMsg,
      answer session kind.rspId [("error", .num ErrorCodes.success.code),
        ("messageId", .num messageId), ("time", .str env.now)]])
  else some (db', [answerError session kind.rspId .errNetwork])

def textChat : MessageKind :=
  ⟨noExtra, 0, idNotifyTextChatMsgReq, idTextChatMsgRsp, "chat_msg"⟩

def imageChat : MessageKind :=
  ⟨imageExtra, 1, idNotifyImageChatMsgReq, idImageChatMsgRsp, "image_msg"⟩

/-- `ID_TEXT_CHAT_MSG_REQ`. -/
def textChatMsg := privateMessage env db mgr session textChat

/-- `ID_IMAGE_CHAT_MSG_REQ`. -/
def imageChatMsg := privateMessage env db mgr session imageChat

/-- The members that a group message is sent on to. -/
def recipients (fromUid : ℤ) (members : List UserInfo) : List UserInfo :=
  members.filter fun member => member.uid ≠ fromUid

/-- The body of the two handlers of group messages. -/
def groupMessage (kind : MessageKind) (src : Option Json) :
    Option (Database × List Output) := do
  let src ← src
  let fromUid ← src.getInt "fromUid"
  let groupId ← src.getInt "groupId"
  let content ← src.getStr "content"
  let extra ← kind.extra src
  let (messageId, db') :=
    saveGroupMessage (env.ok 0) db env.gap fromUid groupId content env.now kind.msgType
  if 0 < messageId then
    let fromUser := getUserById (env.ok 1) db' fromUid
    let group := getGroupInfo (env.ok 2) db' groupId
    let members := getGroupMembers (env.ok 3) db' groupId
    let fields := [("messageId", .num messageId), ("fromUid", .num fromUid),
      ("fromName", .str fromUser.name), ("fromAvatar", .str fromUser.avatar),
      ("groupId", .num groupId), ("groupName", .str group.name), ("content", .str content)] ++
      extra ++ [("time", .str env.now)]
    let notifyJson := object fields
    let redisMsg := object (("type", .str kind.redisType) :: fields)
    some (db', (recipients fromUid members).map (fun member =>
        notifyOrPublish mgr member.uid kind.notifyId notifyJson redisMsg) ++
      [answer session kind.rspId [("error", .num ErrorCodes.success.code),
        ("messageId", .num messageId), ("time", .str env.now)]])
  else some (db', [answerError session kind.rspId .errNetwork])

def groupText : MessageKind :=
  ⟨noExtra, 0, idNotifyGroupChatMsgReq, idGroupChatMsgRsp, "group_msg"⟩

def groupImage : MessageKind :=
  ⟨imageExtra, 1, idNotifyGroupImageChatMsgReq, idGroupImageChatMsgRsp, "group_image_msg"⟩

/-- `ID_GROUP_CHAT_MSG_REQ`. -/
def groupChatMsg := groupMessage env db mgr session groupText

/-- `ID_GROUP_IMAGE_CHAT_MSG_REQ`. -/
def groupImageChatMsg := groupMessage env db mgr session groupImage

/-- `ID_GET_CHAT_HISTORY_REQ`. -/
def chatHistory (src : Option Json) : Option (Database × List Output) :=
  let request := do
    let src ← src
    let uid ← src.getInt "uid"
    let contactUid ← src.getInt "contactUid"
    let count ← src.getInt "count"
    let offset ← src.getInt "offset"
    some (uid, contactUid, count, offset)
  match request with
  | some (uid, contactUid, count, offset) =>
    let messages := getChatHistory env.tie (env.ok 0) db uid contactUid count offset
    some (db, [answer session idGetChatHistoryRsp
      [("error", .num ErrorCodes.success.code), ("contact_uid", .num contactUid),
        ("messages", .arr (messages.map historyJson))]])
  | none => some (db, [answerError session idGetChatHistoryRsp .errorJson])

/-! ## Groups -/

/-- `ID_CREATE_GROUP_REQ`. -/
def createGroupReq (src : Option Json) : Option (Database × List Output) := do
  let src ← src
  let ownerUid ← src.getInt "ownerUid"
  let name ← src.getStr "name"
  let avatar ← src.value "avatar" ""
  let (groupId, db') := createGroup (env.ok 0) db (env.ok 1) env.gap env.now ownerUid name avatar
  if 0 < groupId then
    some (db', [answer session idCreateGroupRsp [("error", .num ErrorCodes.success.code),
      ("groupId", .num groupId), ("name", .str name)]])
  else some (db', [answerError session idCreateGroupRsp .errNetwork])

/-- The loop of `ID_ADD_GROUP_MEMBER_REQ`, which ends at the first failure; `i` counts the
database calls. -/
def addGroupMembers (env : Env) (groupId : ℤ) : ℕ → Database → List ℤ → Bool × Database
  | _, db, [] => (true, db)
  | i, db, uid :: uids =>
    match addGroupMember (env.ok i) db groupId uid .member with
    | (true, db') => addGroupMembers env groupId (i + 1) db' uids
    | (false, db') => (false, db')

/-- `ID_ADD_GROUP_MEMBER_REQ`. -/
def addGroupMemberReq (src : Option Json) : Option (Database × List Output) := do
  let src ← src
  let groupId ← src.getInt "groupId"
  let uids ← src.getInts "uids"
  let (success, db') := addGroupMembers env groupId 0 db uids
  some (db', [answerError session idAddGroupMemberRsp (if success then .success else .errNetwork)])

/-- `ID_REMOVE_GROUP_MEMBER_REQ`. -/
def removeGroupMemberReq (src : Option Json) : Option (Database × List Output) := do
  let src ← src
  let groupId ← src.getInt "groupId"
  let uid ← src.getInt "uid"
  let (success, db') := removeGroupMember (env.ok 0) db groupId uid
  some (db',
    [answerError session idRemoveGroupMemberRsp (if success then .success else .errNetwork)])

/-- `ID_GET_GROUP_LIST_REQ`. -/
def groupList (src : Option Json) : Option (Database × List Output) := do
  let src ← src
  let uid ← src.getInt "uid"
  let groups := getUserGroups (env.ok 0) db uid
  some (db, [answer session idGetGroupListRsp
    [("error", .num ErrorCodes.success.code),
      ("groups", .arr (groups.map fun g =>
        object [("groupId", .num g.groupId), ("name", .str g.name), ("ownerUid", .num g.ownerUid),
          ("avatar", .str g.avatar), ("createdAt", .str g.createdAt)]))]])

/-- `ID_GET_GROUP_MEMBERS_REQ`. -/
def groupMembers (src : Option Json) : Option (Database × List Output) := do
  let src ← src
  let groupId ← src.getInt "groupId"
  let members := getGroupMembers (env.ok 0) db groupId
  some (db, [answer session idGetGroupMembersRsp
    [("error", .num ErrorCodes.success.code), ("groupId", .num groupId),
      ("members", .arr (members.map (userJson mgr)))]])

/-- `ID_GET_GROUP_CHAT_HISTORY_REQ`. -/
def groupChatHistory (src : Option Json) : Option (Database × List Output) := do
  let src ← src
  let groupId ← src.getInt "groupId"
  let count ← src.getInt "count"
  let offset ← src.getInt "offset"
  let messages := getGroupChatHistory env.tie (env.ok 0) db groupId count offset
  some (db, [answer session idGetGroupChatHistoryRsp
    [("error", .num ErrorCodes.success.code), ("groupId", .num groupId),
      ("messages", .arr (messages.map historyJson))]])

/-! ## The table of handlers -/

/-- `_msgHandlers`. -/
def msgHandler (id : ℤ) : Option (Option Json → Option (Database × List Output)) :=
  if id = idFriendListReq then some (friendList env db mgr session)
  else if id = idSearchUserReq then some (searchUser env db session)
  else if id = idAddFriendReq then some (addFriend env db mgr session)
  else if id = idAuthFriendReq then some (authFriend env db mgr session)
  else if id = idTextChatMsgReq then some (textChatMsg env db mgr session)
  else if id = idImageChatMsgReq then some (imageChatMsg env db mgr session)
  else if id = idGetChatHistoryReq then some (chatHistory env db session)
  else if id = idCreateGroupReq then some (createGroupReq env db session)
  else if id = idAddGroupMemberReq then some (addGroupMemberReq env db session)
  else if id = idRemoveGroupMemberReq then some (removeGroupMemberReq env db session)
  else if id = idGroupChatMsgReq then some (groupChatMsg env db mgr session)
  else if id = idGroupImageChatMsgReq then some (groupImageChatMsg env db mgr session)
  else if id = idGetGroupListReq then some (groupList env db session)
  else if id = idGetGroupMembersReq then some (groupMembers env db mgr session)
  else if id = idGetGroupChatHistoryReq then some (groupChatHistory env db session)
  else none

/-- `LogicSystem::handleMsg` for a session that is still there.  An exception, or an identifier
without a handler, changes nothing. -/
def handleMsg (id : ℤ) (src : Option Json) : Database × List Output :=
  ((msgHandler env db mgr session id).bind fun handler => handler src).getD (db, [])

/-! ## Messages from other servers -/

/-- A field of the message is copied as it is; a missing one becomes `null`. -/
def copyField (msg : Json) (target source : String) : Option (String × Json) :=
  (msg.get source).map fun v => (target, v)

/-- The callback for a message to one user. -/
def notifyUser (msg : Json) (uidField : String) (id : ℤ) (fields : List (String × String)) :
    Option (List Output) := do
  let uid ← msg.getInt uidField
  match mgr uid with
  | some targetSession =>
    let notify ← fields.mapM fun f => copyField msg f.1 f.2
    some [.send targetSession id (object notify)]
  | none => some []

/-- The callback for a message to a group: every member on this server is notified. -/
def notifyGroup (msg : Json) (id : ℤ) (fields : List String) : Option (List Output) := do
  let groupId ← msg.getInt "groupId"
  let members := getGroupMembers (env.ok 0) db groupId
  let notify ← fields.mapM fun f => copyField msg f f
  let notifyJson := object (("groupId", .num groupId) :: notify)
  let fromUid ← msg.getInt "fromUid"
  some ((recipients fromUid members).filterMap fun member =>
    (mgr member.uid).map fun targetSession => .send targetSession id notifyJson)

/-- Fields that are copied under their own names. -/
def same (fields : List String) : List (String × String) := fields.map fun f => (f, f)

def textFields : List String :=
  ["messageId", "fromUid", "fromName", "fromAvatar", "content", "time"]

def imageFields : List String :=
  ["messageId", "fromUid", "fromName", "fromAvatar", "content", "imageType", "width", "height",
    "fileSize", "time"]

/-- The callback given to `RedisMgr::startSubscriber`. -/
def subscriberCallback (msg : Option Json) : List Output :=
  let outputs := do
    let msg ← msg
    let type ← msg.value "type" ""
    if type = "chat_msg" then
      notifyUser mgr msg "toUid" idNotifyTextChatMsgReq (same textFields)
    else if type = "group_msg" then
      notifyGroup env db mgr msg idNotifyGroupChatMsgReq ("groupName" :: textFields)
    else if type = "image_msg" then
      notifyUser mgr msg "toUid" idNotifyImageChatMsgReq (same imageFields)
    else if type = "group_image_msg" then
      notifyGroup env db mgr msg idNotifyGroupImageChatMsgReq ("groupName" :: imageFields)
    else if type = "friend_request" then
      notifyUser mgr msg "toUid" idNotifyAddFriendReq
        (same ["fromUid", "fromName", "fromAvatar", "message", "requestTime"])
    else if type = "auth_friend_rsp" then
      notifyUser mgr msg "fromUid" idNotifyAuthFriendRsp
        [("requestId", "requestId"), ("fromUid", "toUid"), ("fromName", "toName"),
          ("toUid", "fromUid"), ("accepted", "accepted"), ("message", "message")]
    else some []
  outputs.getD []

end LogicSystem

end WeChat
