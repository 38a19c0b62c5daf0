/-
# What the client shows is true

`TcpClient::parseMessage` turns the messages of the server into signals for the user interface.
Put together with the channel and with the origin of every message that a server sends, this
gives a statement from end to end: a signal that the client emits says what is stored in the
database, to a connection that has logged in for a user whom it is meant for, unless it is without
any content and comes from the refusal of a message before the login.
-/
import WeChat.Chat.Genuine
import WeChat.Client.Channel
import WeChat.Client.HttpClient

namespace WeChat

open Wire Transition Json LogicSystem

namespace TcpClient

open HttpClient

/-! ## The signals -/

/-- `QJsonValue::toBool`. -/
def toBool : Json → Bool
  | .bool b => b
  | _ => false

/-- The signals of `TcpClient` that `parseMessage` emits. -/
inductive Signal
  | loginSuccess
  | loginFailed (error : String)
  | textMessageReceived (fromUid : ℤ) (fromName fromAvatar content time : String)
  | imageMessageReceived (fromUid : ℤ) (fromName fromAvatar base64Data imageType : String)
      (width height fileSize : ℤ) (time : String)
  | groupTextMessageReceived (fromUid : ℤ) (fromName fromAvatar : String) (groupId : ℤ)
      (groupName content time : String)
  | groupImageMessageReceived (fromUid : ℤ) (fromName fromAvatar : String) (groupId : ℤ)
      (groupName base64Data imageType : String) (width height fileSize : ℤ) (time : String)
  | friendRequestReceived (fromUid : ℤ) (fromName fromAvatar message requestTime : String)
  | friendAuthResponseReceived (requestId fromUid : ℤ) (fromName : String) (accepted : Bool)
      (message : String)
deriving DecidableEq

/-- The argument of `loginFailed`. -/
def loginError (error : ℤ) : String := "Login failed: error code " ++ error.repr

/-- `TcpClient::parseMessage`: the signal that it emits, if any. -/
def parseMessage (msgId : ℕ) (json : List (String × Json)) : Option Signal :=
  let int := fun k => HttpClient.toInt (field json k)
  let string := fun k => HttpClient.toString (field json k)
  match msgId with
  | 1006 =>
    some (if int "error" = 0 then .loginSuccess else .loginFailed (loginError (int "error")))
  | 1018 => none
  | 1019 => some (.textMessageReceived (int "fromUid") (string "fromName") (string "fromAvatar")
      (string "content") (string "time"))
  | 1021 => none
  | 1030 => some (.imageMessageReceived (int "fromUid") (string "fromName") (string "fromAvatar")
      (string "content") (string "imageType") (int "width") (int "height") (int "fileSize")
      (string "time"))
  | 1011 => some (.friendRequestReceived (int "fromUid") (string "fromName") (string "fromAvatar")
      (string "message") (string "requestTime"))
  | 1015 => some (.friendAuthResponseReceived (int "requestId") (int "fromUid") (string "fromName")
      (toBool (field json "accepted")) (string "message"))
  | 2008 => none
  | 2009 => some (.groupTextMessageReceived (int "fromUid") (string "fromName")
      (string "fromAvatar") (int "groupId") (string "groupName") (string "content") (string "time"))
  | 2018 => some (.groupImageMessageReceived (int "fromUid") (string "fromName")
      (string "fromAvatar") (int "groupId") (string "groupName") (string "content")
      (string "imageType") (int "width") (int "height") (int "fileSize") (string "time"))
  | _ => none

/-- `QJsonDocument::fromJson`, when the document is an object. -/
def fromJson (codec : Codec) (msgData : Bytes) : Option (List (String × Json)) :=
  match codec.parse msgData with
  | some (.obj json) => some json
  | _ => none

/-- The signals that the client emits for the bytes of a connection. -/
def signals (codec : Codec) (chunks : List Bytes) : List Signal :=
  (receive (fromJson codec) [] chunks).1.filterMap fun call => parseMessage call.1 call.2

/-- The signal that a reply leads to. -/
def signalOf (codec : Codec) (reply : ℤ × Bytes) : Option Signal :=
  (parsedReply (fromJson codec) reply).bind fun call => parseMessage call.1 call.2

/-- The signals without any content, which an object without the fields leads to. -/
def blanks : List Signal :=
  [.textMessageReceived 0 "" "" "" "", .imageMessageReceived 0 "" "" "" "" 0 0 0 "",
    .groupTextMessageReceived 0 "" "" 0 "" "" "",
    .groupImageMessageReceived 0 "" "" 0 "" "" "" 0 0 0 "", .friendRequestReceived 0 "" "" "" "",
    .friendAuthResponseReceived 0 0 "" false ""]

/-! ## What a signal says -/

/-- What a signal says is stored in the database, and whom it is meant for. -/
inductive Says (db : Database) : Addressee → Signal → Prop
  | text {row : Message} {user : UserInfo} (hrow : OfKind db textChat 0 row)
      (huser : IsUserInfo db row.from_uid user) :
      Says db (.user row.to_uid)
        (.textMessageReceived row.from_uid user.name user.avatar row.content row.send_time)
  | image {row : Message} {user : UserInfo} {imageType : String} {width height fileSize : ℤ}
      (hrow : OfKind db imageChat 0 row) (huser : IsUserInfo db row.from_uid user) :
      Says db (.user row.to_uid)
        (.imageMessageReceived row.from_uid user.name user.avatar row.content imageType width height
          fileSize row.send_time)
  | groupText {row : Message} {user : UserInfo} {group : GroupInfo}
      (hrow : OfKind db groupText 1 row) (huser : IsUserInfo db row.from_uid user)
      (hgroup : IsGroupInfo db row.to_uid group) :
      Says db (.group row.to_uid row.from_uid)
        (.groupTextMessageReceived row.from_uid user.name user.avatar row.to_uid group.name
          row.content row.send_time)
  | groupImage {row : Message} {user : UserInfo} {group : GroupInfo} {imageType : String}
      {width height fileSize : ℤ} (hrow : OfKind db groupImage 1 row)
      (huser : IsUserInfo db row.from_uid user) (hgroup : IsGroupInfo db row.to_uid group) :
      Says db (.group row.to_uid row.from_uid)
        (.groupImageMessageReceived row.from_uid user.name user.avatar row.to_uid group.name
          row.content imageType width height fileSize row.send_time)
  | friendRequest {r : FriendRequest} {user : UserInfo} {requestTime : String}
      (hrow : r ∈ db.friend_requests.rows) (huser : IsUserInfo db r.from_uid user) :
      Says db (.user r.to_uid)
        (.friendRequestReceived r.from_uid user.name user.avatar r.message requestTime)
  | friendAnswer {requestId fromUid toUid : ℤ} {user : UserInfo} {accepted : Bool}
      {message : String} (hfriends : accepted = true → AreFriends db fromUid toUid)
      (huser : IsUserInfo db toUid user) :
      Says db (.user fromUid)
        (.friendAuthResponseReceived requestId toUid user.name accepted message)

/-- What warrants a signal on a connection after a run of the servers. -/
inductive Warranted (cfg : Config) (db : Database) (es : List Event) (s : State) (c : Conn) :
    Signal → Prop
  | notice {a : Addressee} {uid : ℤ} {signal : Signal} (hsaid : Says s.db a signal)
      (hincluded : Included cfg a uid (.init db) es) (hpassed : Passed cfg c uid (.init db) es) :
      Warranted cfg db es s c signal
  | login {uid : ℤ} (hpassed : Passed cfg c uid (.init db) es) :
      Warranted cfg db es s c .loginSuccess
  | failed {error : ℤ} (herror : error ≠ 0) :
      Warranted cfg db es s c (.loginFailed (loginError error))
  | blank {id : ℤ} {signal : Signal} (hblank : signal ∈ blanks) (hid : id ∈ notificationIds)
      (hrefused : SomeStep (step cfg) (Refuses c id) (.init db) es) :
      Warranted cfg db es s c signal

/-! ## From replies to signals -/

section Replies

variable {codec : Codec} {fields : List (String × Json)} {db : Database} {a : Addressee} {id : ℤ}
  {notifyJson redisMsg : Json} {signal : Signal}

lemma toInt_of_int32 {n : ℤ} (h : toInt32 n = n) : HttpClient.toInt (.num n) = n := if_pos h

/-- The client finds the fields that the server has assigned. -/
lemma fromJson_dump (h : (object fields).Wf) :
    fromJson codec (codec.dump (object fields)) = some (ofFields fields) := by
  rw [fromJson, codec.parse_dump h]
  rfl

lemma signalOf_object (h : (object fields).Wf) :
    signalOf codec (id, codec.dump (object fields)) =
      parseMessage (id % 65536).toNat (ofFields fields) := by
  simp only [signalOf, parsedReply, parsed, fromJson_dump h, Option.map_some, Option.bind_some]

/-- An answer emits no signal, whatever it holds. -/
lemma signalOf_answer (hid : id ∈ answerIds) (body : Bytes) : signalOf codec (id, body) = none := by
  have hnone : ∀ id ∈ answerIds, ∀ json, parseMessage (id % 65536).toNat json = none := by
    simp only [answerIds, List.forall_mem_cons, List.not_mem_nil, IsEmpty.forall_iff, implies_true,
      and_true]
    exact ⟨fun _ => rfl, fun _ => rfl, fun _ => rfl, fun _ => rfl, fun _ => rfl, fun _ => rfl,
      fun _ => rfl, fun _ => rfl, fun _ => rfl, fun _ => rfl, fun _ => rfl, fun _ => rfl,
      fun _ => rfl, fun _ => rfl, fun _ => rfl, fun _ => rfl, fun _ => rfl, fun _ => rfl⟩
  cases hcall : parsedReply (fromJson codec) (id, body) with
  | none => rw [signalOf, hcall, Option.bind_none]
  | some call =>
    obtain ⟨json, -, rfl⟩ := Option.map_eq_some_iff.1 hcall
    rw [signalOf, hcall, Option.bind_some]
    exact hnone id hid json

/-- An object that holds an error code only leads to a failed login or, under the identifier of a
notification, to a signal without any content. -/
lemma parseMessage_error {msgId : ℕ} {code : ℤ} (hint : toInt32 code = code) (hcode : code ≠ 0)
    (h : parseMessage msgId (ofFields [("error", .num code)]) = some signal) :
    (msgId = 1006 ∧ signal = .loginFailed (loginError code)) ∨
      ((msgId : ℤ) ∈ notificationIds ∧ signal ∈ blanks) := by
  have herror : field (ofFields [("error", .num code)]) "error" = .num code := rfl
  have hother : ∀ k ≠ "error", field (ofFields [("error", .num code)]) k = .null := by
    intro k hk
    rw [field_ofFields, List.reverse_singleton, lookup_cons_ite, if_neg hk]
    rfl
  unfold parseMessage at h
  split at h
  · simp only [herror, toInt_of_int32 hint, if_neg hcode] at h
    exact .inl ⟨rfl, (Option.some.inj h).symm⟩
  -- every field of another signal is missing
  all_goals first
    | (obtain rfl := Option.some.inj h
       exact .inr ⟨by decide, by simp [hother, blanks, HttpClient.toInt, toBool]⟩)
    | cases h

/-- A short that the client reads as the identifier of a notification is one. -/
lemma mem_notificationIds {n : ℤ} (h : ((toShort n % 65536).toNat : ℤ) ∈ notificationIds) :
    toShort n ∈ notificationIds := by
  have hrange : ∀ id ∈ notificationIds, 0 ≤ id ∧ id < 32768 := by decide
  have hid := hrange _ h
  have hlt := toShort_lt n
  have hge : -32768 ≤ toShort n := by
    unfold toShort
    split <;> omega
  have heq : ((toShort n % 65536).toNat : ℤ) = toShort n := by omega
  rwa [heq] at h

/-- The answer to an accepted login is a successful login. -/
lemma parseMessage_login (token : String) :
    parseMessage (idChatLoginRsp % 65536).toNat
      (ofFields [("error", .num ErrorCodes.success.code), ("token", .str token)]) =
        some .loginSuccess := by
  have herror : HttpClient.toInt (field (ofFields [("error", .num ErrorCodes.success.code),
      ("token", .str token)]) "error") = 0 := by
    simp [field_ofFields, List.lookup, ErrorCodes.code, HttpClient.toInt]
  exact congrArg some (if_pos herror)

/-- The numbers among the fields of an image are those of an `int`. -/
lemma imageExtra_int32 {src : Json} {extra : List (String × Json)}
    (h : imageExtra src = some extra) :
    ∃ imageType width height fileSize, toInt32 width = width ∧ toInt32 height = height ∧
      toInt32 fileSize = fileSize ∧
      extra = [("imageType", .str imageType), ("width", .num width), ("height", .num height),
        ("fileSize", .num fileSize)] := by
  simp only [imageExtra, Option.bind_eq_bind, Option.bind_eq_some_iff] at h
  obtain ⟨imageType, -, width, hwidth, height, hheight, fileSize, hsize, h⟩ := h
  exact ⟨imageType, width, height, fileSize, toInt32_of_getInt hwidth, toInt32_of_getInt hheight,
    toInt32_of_getInt hsize, (Option.some.inj h).symm⟩

/-- **A notification is shown as it is.** -/
lemma says_of_notice (hn : Notice db a id notifyJson redisMsg) :
    ∃ fields signal, notifyJson = object fields ∧ (object fields).Wf ∧
      parseMessage (id % 65536).toNat (ofFields fields) = some signal ∧ Says db a signal := by
  cases hn with
  | message hkind hextra hrow huser =>
    rcases hkind with rfl | rfl
    · obtain rfl := Option.some.inj hextra
      refine ⟨_, _, rfl, wf_object (by simp [Wf]), rfl, ?_⟩
      simpa [field_ofFields, List.lookup, toInt_of_int32 hrow.from_uid] using .text hrow huser
    · obtain ⟨t, w, h, f, hw, hh, hf, rfl⟩ := imageExtra_int32 hextra
      refine ⟨_, _, rfl, wf_object (by simp [Wf]), rfl, ?_⟩
      simpa [field_ofFields, List.lookup, toInt_of_int32 hrow.from_uid, toInt_of_int32 hw,
        toInt_of_int32 hh, toInt_of_int32 hf] using .image hrow huser
  | groupMessage hkind hextra hrow huser hgroup =>
    rcases hkind with rfl | rfl
    · obtain rfl := Option.some.inj hextra
      refine ⟨_, _, rfl, wf_object (by simp [Wf, groupFields]), rfl, ?_⟩
      simpa [field_ofFields, groupFields, List.lookup, toInt_of_int32 hrow.from_uid,
        toInt_of_int32 hrow.to_uid] using .groupText hrow huser hgroup
    · obtain ⟨t, w, h, f, hw, hh, hf, rfl⟩ := imageExtra_int32 hextra
      refine ⟨_, _, rfl, wf_object (by simp [Wf, groupFields]), rfl, ?_⟩
      simpa [field_ofFields, groupFields, List.lookup, toInt_of_int32 hrow.from_uid,
        toInt_of_int32 hrow.to_uid, toInt_of_int32 hw, toInt_of_int32 hh,
        toInt_of_int32 hf] using .groupImage hrow huser hgroup
  | friendRequest hfrom hto hrow huser =>
    obtain ⟨r, hr, rfl, rfl, rfl⟩ := hrow
    refine ⟨_, _, rfl, wf_object (by simp [Wf]), rfl, ?_⟩
    simpa [field_ofFields, List.lookup, toInt_of_int32 hfrom] using .friendRequest hr huser
  | friendAnswer hrequest hfrom hto hfriends huser =>
    refine ⟨_, _, rfl, wf_object (by simp [Wf]), rfl, ?_⟩
    simpa [field_ofFields, List.lookup, toInt_of_int32 hrequest, toInt_of_int32 hto, toBool] using
      .friendAnswer hfriends huser

end Replies

end TcpClient

/-! ## From end to end -/

open TcpClient

/-- The replies that a session was given to send, with the texts of their values. -/
def State.replies (cfg : Config) (s : State) (c : Conn) : List (ℤ × Bytes) :=
  (s.sent.filter fun x => x.1 = c).map fun x => (x.2.1, cfg.codec.dump x.2.2)

section EndToEnd

variable {cfg : Config} {db : Database} {es : List Event} {s : State} {c : Conn}
  {ws : List CSession.WriteEvent} {t : CSession.WriteState} {signal : Signal}

/-- A message with an origin leads to a signal that is warranted. -/
lemma Origin.warranted {x : Conn × ℤ × Json} (hx : Origin cfg db es s x)
    (h : signalOf cfg.codec (x.2.1, cfg.codec.dump x.2.2) = some signal) :
    Warranted cfg db es s x.1 signal := by
  obtain ⟨c, id, msg⟩ := x
  rcases hx with hid | ⟨hnotice, hincluded, hpassed⟩ | ⟨hid, hmsg, hpassed⟩ |
    ⟨hid, hmsg, hcode, hint⟩ | ⟨hmsg, hrefused⟩
  · rw [signalOf_answer hid] at h
    cases h
  · obtain ⟨fields, signal', heq, hwf, hparse, hsaid⟩ := says_of_notice hnotice
    obtain rfl : msg = object fields := heq
    rw [signalOf_object hwf, hparse] at h
    obtain rfl := Option.some.inj h
    exact .notice hsaid hincluded hpassed
  · obtain rfl : id = idChatLoginRsp := hid
    obtain rfl : msg = _ := hmsg
    rw [signalOf_object (wf_object (by simp [Wf])), parseMessage_login] at h
    obtain rfl := Option.some.inj h
    exact .login hpassed
  · obtain rfl : id = idChatLoginRsp := hid
    obtain rfl : msg = _ := hmsg
    rw [signalOf_object (wf_object (by simp [Wf]))] at h
    rcases parseMessage_error hint hcode h with ⟨-, rfl⟩ | ⟨hnot, -⟩
    · exact .failed hcode
    · have hlogin : ((idChatLoginRsp % 65536).toNat : ℤ) ∉ notificationIds := by decide
      exact absurd hnot hlogin
  · obtain rfl : msg = _ := hmsg
    rw [signalOf_object (wf_object (by simp [Wf]))] at h
    obtain ⟨-, -, -, -, -, -, -, -, m, -, -, -, -, hid, -⟩ := someStep_iff.1 hrefused
    obtain rfl : id = toShort (m.1 + 1) := hid
    rcases parseMessage_error (by decide) (by decide) h with ⟨-, rfl⟩ | ⟨hnotice, hblank⟩
    · exact .failed (by decide)
    · exact .blank hblank (mem_notificationIds hnotice) hrefused

/-- **What the client shows is true.**  After any run of the servers, let the session of a
connection have sent its replies, none of them too long, through its write chain, with partial
writes and a failure at any point, and let any beginning of what was written have arrived in any
chunks.  Then the
signals that the client has emitted are a beginning of those for the replies that the session
has accepted, in their order and each at most once, and all of them once everything is written
and has arrived.  Every signal is warranted: it says what is stored in the database and is meant
for a user as whom the connection has logged in; a successful login is that of a connection that
has passed `CheckToken`; and an error looks like neither, except that the refusal of a message
before a login may lead to a signal without any content. -/
theorem signals_warranted (hrun : run (step cfg) (.init db) es = some s)
    (htyped : ∀ e ∈ es, e.Typed) (hwrites : run CSession.writeStep .init ws = some t)
    (hsends : Sends ws (s.replies cfg c)) {chunks : List Bytes}
    (hchunks : chunks.flatten <+: t.socket) :
    (∃ accepted, accepted.Sublist (s.replies cfg c) ∧
      (t.refused = [] → accepted = s.replies cfg c) ∧
      signals cfg.codec chunks <+: accepted.filterMap (signalOf cfg.codec) ∧
      (t.failed = false → t._send_queue = [] → chunks.flatten = t.socket →
        signals cfg.codec chunks = accepted.filterMap (signalOf cfg.codec))) ∧
    ∀ signal ∈ signals cfg.codec chunks, Warranted cfg db es s c signal := by
  obtain ⟨accepted, hsub, hall, hprefix, hwhole⟩ :=
    @delivered_inOrder _ (fromJson cfg.codec) _ _ _ hwrites hsends chunks hchunks
  have hsignals : signals cfg.codec chunks <+: accepted.filterMap (signalOf cfg.codec) := by
    have h := hprefix.filterMap fun call => parseMessage call.1 call.2
    rwa [List.filterMap_filterMap] at h
  refine ⟨⟨accepted, hsub, hall, hsignals, fun hlive hempty harrived => ?_⟩,
    fun signal hsignal => ?_⟩
  · rw [signals, hwhole hlive hempty harrived, List.filterMap_filterMap]
    rfl
  obtain ⟨reply, hreply, heq⟩ := List.mem_filterMap.1 (hsignals.subset hsignal)
  obtain ⟨x, hx, rfl⟩ := List.mem_map.1 (hsub.subset hreply)
  obtain ⟨hsent, hc⟩ := List.mem_filter.1 hx
  obtain rfl := of_decide_eq_true hc
  exact (origin_of_run hrun htyped x hsent).warranted heq

end EndToEnd

/-- The events of a session of which every reply is written before the next one is sent. -/
def oneByOne (replies : List (ℤ × Bytes)) : List CSession.WriteEvent :=
  replies.flatMap fun r =>
    [.send (Framed.header r.1 r.2.length ++ r.2), .transfer 0 (4 + r.2.length), .complete 0 true]

lemma sends_oneByOne {replies : List (ℤ × Bytes)} (hshort : ∀ r ∈ replies, r.2.length ≤ 32763) :
    Sends (oneByOne replies) replies := by
  refine ⟨?_, hshort⟩
  rw [filterMap_queuedBytes hshort, oneByOne]
  clear hshort
  induction replies with
  | nil => rfl
  | cons r replies ih => exact congrArg _ ih

/-- What arrives at user 2 are the answer to the login, an empty list of friends and the text. -/
theorem signals_warranted_text :
    ∃ t, run CSession.writeStep .init (oneByOne (textSent.replies compactConfig client₂)) = some t ∧
      signals compactConfig.codec [t.socket] = [.loginSuccess,
        .textMessageReceived 1 "alice" "" "hello" "2025-06-01 12:00:00"] ∧
      ∀ signal ∈ signals compactConfig.codec [t.socket],
        Warranted compactConfig MySQLMgr.twoUsers textSentRun textSent client₂ signal := by
  have htyped : ∀ e ∈ textSentRun, e.Typed := by
    simp [textSentRun, sameServerRun, bothOnlineRun, connect, received, Event.Typed, noDatabase]
    decide
  have hsignals : (run CSession.writeStep .init
      (oneByOne (textSent.replies compactConfig client₂))).map (fun t =>
        signals compactConfig.codec [t.socket]) = some [.loginSuccess,
          .textMessageReceived 1 "alice" "" "hello" "2025-06-01 12:00:00"] := by
    decide +kernel
  obtain ⟨t, hwrites, hall⟩ := Option.map_eq_some_iff.1 hsignals
  have hwhole : [t.socket].flatten <+: t.socket := by
    rw [List.flatten_singleton]
  exact ⟨t, hwrites, hall, (signals_warranted run_textSent htyped hwrites
    (sends_oneByOne (by decide)) hwhole).2⟩

end WeChat
