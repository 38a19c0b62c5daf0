/-
# The requests of the Qt client

The send operations of `TcpClient` that have arguments, with the objects that they write, and
what the server makes of them.  The two sides share no definition of a message: the client
assigns fields by name, and the handler of the message identifier converts fields by name.
-/
import WeChat.Chat.Runs
import WeChat.Chat.Schema

namespace WeChat

open Wire Json LogicSystem

namespace TcpClient

/-! ## The send operations -/

/-- A call of a send operation; an `int` is an `Int32`. -/
inductive Request
  | sendLoginRequest (uid : Int32) (token : String)
  | sendTextMessage (fromUid toUid : Int32) (content : String)
  | sendImageMessage (fromUid toUid : Int32) (base64Data imageType : String)
      (width height fileSize : Int32)
  | sendGroupTextMessage (fromUid groupId : Int32) (content : String)
  | sendGroupImageMessage (fromUid groupId : Int32) (base64Data imageType : String)
      (width height fileSize : Int32)
  | sendAddFriendRequest (fromUid toUid : Int32) (message : String)
  | sendAuthFriendResponse (fromUid toUid : Int32) (accepted : Bool)
  | sendCreateGroup (ownerUid : Int32) (name avatar : String)
  | sendAddGroupMember (groupId memberUid : Int32)
  | sendRemoveGroupMember (groupId memberUid : Int32)

namespace Request

/-- The message identifier that the operation writes. -/
def msgId : Request → UInt16
  | sendLoginRequest .. => 1005
  | sendTextMessage .. => 1017
  | sendImageMessage .. => 1028
  | sendGroupTextMessage .. => 2007
  | sendGroupImageMessage .. => 2016
  | sendAddFriendRequest .. => 1009
  | sendAuthFriendResponse .. => 1013
  | sendCreateGroup .. => 2001
  | sendAddGroupMember .. => 2003
  | sendRemoveGroupMember .. => 2005

/-- The fields that the operation assigns. -/
def fields : Request → List (String × Json)
  | sendLoginRequest uid token => [("uid", .num uid.toInt), ("token", .str token)]
  | sendTextMessage fromUid toUid content =>
    [("fromUid", .num fromUid.toInt), ("toUid", .num toUid.toInt), ("content", .str content)]
  | sendImageMessage fromUid toUid base64Data imageType width height fileSize =>
    [("fromUid", .num fromUid.toInt), ("toUid", .num toUid.toInt), ("content", .str base64Data),
      ("imageType", .str imageType), ("width", .num width.toInt), ("height", .num height.toInt),
      ("fileSize", .num fileSize.toInt)]
  | sendGroupTextMessage fromUid groupId content =>
    [("fromUid", .num fromUid.toInt), ("groupId", .num groupId.toInt), ("content", .str content)]
  | sendGroupImageMessage fromUid groupId base64Data imageType width height fileSize =>
    [("fromUid", .num fromUid.toInt), ("groupId", .num groupId.toInt),
      ("content", .str base64Data), ("imageType", .str imageType), ("width", .num width.toInt),
      ("height", .num height.toInt), ("fileSize", .num fileSize.toInt)]
  | sendAddFriendRequest fromUid toUid message =>
    [("fromUid", .num fromUid.toInt), ("toUid", .num toUid.toInt), ("message", .str message)]
  | sendAuthFriendResponse fromUid toUid accepted =>
    [("fromUid", .num fromUid.toInt), ("toUid", .num toUid.toInt), ("accept", .bool accepted)]
  | sendCreateGroup ownerUid name avatar =>
    [("ownerUid", .num ownerUid.toInt), ("name", .str name), ("avatar", .str avatar)]
  | sendAddGroupMember groupId memberUid =>
    [("groupId", .num groupId.toInt), ("memberUid", .num memberUid.toInt)]
  | sendRemoveGroupMember groupId memberUid =>
    [("groupId", .num groupId.toInt), ("uid", .num memberUid.toInt)]

/-- The object that the operation writes. -/
def json (request : Request) : Json := object request.fields

/-- The arguments of the call. -/
def arguments : Request → List Value
  | sendLoginRequest uid token => [.int uid.toInt, .str token]
  | sendTextMessage fromUid toUid content => [.int fromUid.toInt, .int toUid.toInt, .str content]
  | sendImageMessage fromUid toUid base64Data imageType width height fileSize =>
    [.int fromUid.toInt, .int toUid.toInt, .str base64Data, .str imageType, .int width.toInt,
      .int height.toInt, .int fileSize.toInt]
  | sendGroupTextMessage fromUid groupId content =>
    [.int fromUid.toInt, .int groupId.toInt, .str content]
  | sendGroupImageMessage fromUid groupId base64Data imageType width height fileSize =>
    [.int fromUid.toInt, .int groupId.toInt, .str base64Data, .str imageType, .int width.toInt,
      .int height.toInt, .int fileSize.toInt]
  | sendAddFriendRequest fromUid toUid message =>
    [.int fromUid.toInt, .int toUid.toInt, .str message]
  | sendAuthFriendResponse fromUid toUid accepted =>
    [.int fromUid.toInt, .int toUid.toInt, .bool accepted]
  | sendCreateGroup ownerUid name avatar => [.int ownerUid.toInt, .str name, .str avatar]
  | sendAddGroupMember groupId memberUid => [.int groupId.toInt, .int memberUid.toInt]
  | sendRemoveGroupMember groupId memberUid => [.int groupId.toInt, .int memberUid.toInt]

/-- What the operation writes to the socket. -/
def frame (toJson : Json → Bytes) (request : Request) : Bytes :=
  encodeMessage toJson request.msgId request.json

end Request

/-! ## What the server makes of them -/

/-- The handler of the message identifier parses the body without an exception and binds its
variables to these values. -/
def Binds (env : Env) (db : Database) (mgr : ℤ → Option Conn) (session : Conn) (msgId : ℤ)
    (src : Option Json) (values : List Value) : Prop :=
  if msgId = idChatLogin then
    ∃ uid token, CSession.loginRequest src = .credentials uid token ∧
      values = [.int uid, .str token]
  else ∃ handler, msgHandler env db mgr session msgId = some handler ∧ (handler src).isSome ∧
    ∃ fields, schemas.lookup msgId = some fields ∧
      src.bind (readFields · fields) = some values

namespace Request

/-- The server gets one message from the frame, and its variables are the arguments of the
call. -/
def Understood (env : Env) (db : Database) (mgr : ℤ → Option Conn) (session : Conn)
    (codec : Codec) (toJson : Json → Bytes) (request : Request) : Prop :=
  ∃ msgId body, (CSession.serve .head (request.frame toJson)).handled = [(msgId, body)] ∧
    Binds env db mgr session msgId (codec.parse body) request.arguments

/-- The fields that the operation assigns are those that the handler converts. -/
def InSchema : Request → Prop
  | sendAuthFriendResponse .. => False
  | sendAddGroupMember .. => False
  | _ => True

end Request

section Understood

variable {env : Env} {db : Database} {mgr : ℤ → Option Conn} {session : Conn} {msgId : ℤ}
  {src : Json} {values : List Value} {fields : List (String × Kind)} {request : Request}

/-- A message with a handler is understood when its fields are read. -/
lemma binds_iff (hid : msgId ≠ idChatLogin) (hfields : schemas.lookup msgId = some fields) :
    Binds env db mgr session msgId (some src) values ↔ readFields src fields = some values := by
  obtain ⟨handler, hhandler, f, hreads, hbind⟩ := msgHandler_reads env db mgr session hfields
  rw [Binds, if_neg hid]
  constructor
  · rintro ⟨-, -, -, fields', hfields', hread⟩
    obtain rfl := Option.some.inj (hfields.symm.trans hfields')
    exact hread
  · intro hread
    refine ⟨handler, hhandler, ?_, fields, hfields, hread⟩
    rw [hbind, Option.bind_some, hreads.isSome_iff, hread]
    rfl

@[simp] lemma toInt_int32 (n : Int32) : Json.toInt (.num n.toInt) = some n.toInt :=
  congrArg some (toInt32_eq_self n.le_toInt n.toInt_lt)

/-- The object of a call is sorted. -/
lemma wf_json (request : Request) : request.json.Wf := by
  refine wf_object ?_
  cases request <;> simp [Request.fields, Wf]

/-- The login needs both of its fields. -/
lemma loginRequest_json (uid : Int32) (token : String) :
    CSession.loginRequest (some (Request.sendLoginRequest uid token).json) =
      .credentials uid.toInt token := by
  have hfields : (Request.sendLoginRequest uid token).json =
      object [("uid", .num uid.toInt), ("token", .str token)] := rfl
  simp [CSession.loginRequest, hfields, contains, getInt, getStr, object, Json.get,
    lookup_ofFields, lookup_cons_ite, toStr]

/-- What a call assigns, read by the schema of its message identifier. -/
lemma readFields_json (hid : (request.msgId.toNat : ℤ) ≠ idChatLogin) :
    ∃ fields, schemas.lookup (request.msgId.toNat : ℤ) = some fields ∧
      (readFields request.json fields = some request.arguments ↔ request.InSchema) := by
  cases request with
  | sendLoginRequest => exact absurd rfl hid
  | sendCreateGroup ownerUid name avatar =>
    refine ⟨_, rfl, ?_⟩
    simp [Request.json, Request.fields, Request.arguments, Request.InSchema, readFields,
      Kind.read, getInt, getStr, Json.value, object, Json.get, lookup_ofFields, lookup_cons_ite,
      toStr]
  | sendAuthFriendResponse fromUid toUid accepted =>
    refine ⟨_, rfl, ?_⟩
    simp [Request.json, Request.fields, Request.InSchema, readFields, Kind.read, getInt,
      get_object, lookup_cons_ite, Json.toInt]
  | sendAddGroupMember groupId memberUid =>
    refine ⟨_, rfl, ?_⟩
    simp [Request.json, Request.fields, Request.InSchema, readFields, Kind.read, getInt, getInts,
      get_object, lookup_cons_ite, Json.toInts]
  | _ =>
    refine ⟨_, rfl, ?_⟩
    simp [Request.json, Request.fields, Request.arguments, Request.InSchema, imageSchema,
      readFields, Kind.read, getInt, getStr, get_object, lookup_cons_ite, toStr]

/-- A frame within the limit is handed over as one message. -/
lemma handled_frame {toJson : Json → Bytes}
    (hlen : ((toJson request.json).length : ℤ) ≤ msgMaxLen) :
    (CSession.serve .head (request.frame toJson)).handled =
      [((request.msgId.toNat : ℤ), toJson request.json)] := by
  have hle : (toJson request.json).length ≤ 8192 := by
    simp only [msgMaxLen] at hlen
    omega
  have hid : toShort request.msgId.toNat = request.msgId.toNat := by
    refine toShort_natCast_eq_iff.2 ?_
    cases request <;> simp [Request.msgId]
  have hserved := (CSession.serve_encode_of_le
    (m := (request.msgId, request.json)) hle []).1
  have hnil : (CSession.serve .head []).handled = [] := by
    rw [CSession.serve_waiting .head rfl (by decide)]
  rw [List.append_nil, hnil, CSession.sent, hid] at hserved
  exact hserved

/-- **A call whose frame is within the length limit is understood by the server if and only if
it assigns the fields that the handler converts**: the answer to a friend request lacks its
number, and the request to add a member has one number where the server expects a list. -/
theorem understood_iff {codec : Codec} {toJson : Json → Bytes} (request : Request)
    (hagree : codec.parse (toJson request.json) = some request.json)
    (hlen : ((toJson request.json).length : ℤ) ≤ msgMaxLen) :
    request.Understood env db mgr session codec toJson ↔ request.InSchema := by
  have hunderstood : request.Understood env db mgr session codec toJson ↔
      Binds env db mgr session request.msgId.toNat (some request.json) request.arguments := by
    rw [Request.Understood, handled_frame hlen]
    constructor
    · rintro ⟨msgId, body, hhandled, hbinds⟩
      cases hhandled
      rwa [hagree] at hbinds
    · intro hbinds
      exact ⟨_, _, rfl, by rwa [hagree]⟩
  rw [hunderstood]
  by_cases hid : (request.msgId.toNat : ℤ) = idChatLogin
  · cases request with
    | sendLoginRequest uid token =>
      refine iff_of_true ?_ trivial
      rw [Binds, if_pos hid]
      exact ⟨_, _, loginRequest_json uid token, rfl⟩
    | _ => exact absurd hid (by simp [Request.msgId, idChatLogin])
  · obtain ⟨fields, hfields, hread⟩ := readFields_json hid
    rw [binds_iff hid hfields, hread]

/-- The request to take user `2` out of group `5` is understood. -/
theorem understood_remove : (Request.sendRemoveGroupMember 5 2).Understood noDatabase
    MySQLMgr.twoUsers (fun _ => none) client₁ Json.compact Json.compact.dump :=
  (understood_iff (Request.sendRemoveGroupMember 5 2)
    (Json.compact.parse_dump (wf_json _)) (by decide)).2 trivial

/-- The request to add user `2` to group `5` is not, and neither is the answer to a friend
request: their handlers throw. -/
theorem not_understood :
    (¬ (Request.sendAddGroupMember 5 2).Understood noDatabase MySQLMgr.twoUsers (fun _ => none)
        client₁ Json.compact Json.compact.dump ∧
      addGroupMemberReq noDatabase MySQLMgr.twoUsers client₁
        (some (Request.sendAddGroupMember 5 2).json) = none) ∧
    ¬ (Request.sendAuthFriendResponse 1 2 true).Understood noDatabase MySQLMgr.twoUsers
        (fun _ => none) client₁ Json.compact Json.compact.dump ∧
      authFriend noDatabase MySQLMgr.twoUsers (fun _ => none) client₁
        (some (Request.sendAuthFriendResponse 1 2 true).json) = none := by
  refine ⟨⟨fun h => ?_, ?_⟩, fun h => ?_, ?_⟩
  · exact (understood_iff _ (Json.compact.parse_dump (wf_json _)) (by decide)).1 h
  · simp [addGroupMemberReq, Request.json, Request.fields, getInt, getInts, get_object,
      lookup_cons_ite, toInts]
  · exact (understood_iff _ (Json.compact.parse_dump (wf_json _)) (by decide)).1 h
  · simp [authFriend, Request.json, Request.fields, getInt, get_object, lookup_cons_ite, Json.toInt]

end Understood

end TcpClient

end WeChat
