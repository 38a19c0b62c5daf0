/-
# A decision about a friend request

`MainWindow::onFriendRequestReceived` shows a request in a `FriendRequestDialog` and reacts to
the button that ends it.  The slot and the dialog know the user who asks, but not the number of
the request; a rejected dialog leads to no message at all, and the message of an accepted one
has the client's own uid where the handler of the server expects the one who asked.
-/
import WeChat.Chat.FriendAnswer
import WeChat.Client.Requests

namespace WeChat

open Wire Json LogicSystem

/-! ## The dialog -/

/-- `QDialog::DialogCode`. -/
inductive DialogCode
  | accepted | rejected
deriving DecidableEq

/-- The button that the user presses. -/
inductive Decision
  | accept | reject
deriving DecidableEq

/-- The decision as the value of the field `accept` of a request. -/
def Decision.accepted : Decision → Bool
  | accept => true
  | reject => false

/-- `FriendRequestDialog`. -/
structure FriendRequestDialog where
  m_fromUid : Int32
  m_fromName : String
  m_message : String
  m_accepted : Bool

namespace FriendRequestDialog

/-- The constructor. -/
def new (fromUid : Int32) (fromName message : String) : FriendRequestDialog :=
  ⟨fromUid, fromName, message, false⟩

/-- `FriendRequestDialog::onAccept`, and the result of `exec` after `accept()`. -/
def onAccept (dialog : FriendRequestDialog) : FriendRequestDialog × DialogCode :=
  ({ dialog with m_accepted := true }, .accepted)

/-- `FriendRequestDialog::onReject`, and the result of `exec` after `reject()`. -/
def onReject (dialog : FriendRequestDialog) : FriendRequestDialog × DialogCode :=
  ({ dialog with m_accepted := false }, .rejected)

/-- `exec`, until the user presses a button. -/
def exec (dialog : FriendRequestDialog) : Decision → FriendRequestDialog × DialogCode
  | .accept => dialog.onAccept
  | .reject => dialog.onReject

end FriendRequestDialog

/-- `MainWindow::onFriendRequestReceived`: the call of a send operation that it makes. -/
def MainWindow.onFriendRequestReceived (m_currentUid fromUid : Int32) (fromName message : String)
    (decision : Decision) : Option TcpClient.Request :=
  let (dialog, code) := (FriendRequestDialog.new fromUid fromName message).exec decision
  if code = .accepted then
    let accepted := dialog.m_accepted
    some (.sendAuthFriendResponse m_currentUid fromUid accepted)
  else none

/-! ## The server -/

section Server

variable (env : Env) (mgr : ℤ → Option Conn) (session : Conn) (codec : Codec)

/-- The messages of a session are handled in their order. -/
def handleMsgs : Database → List (ℤ × Bytes) → Database × List Output
  | db, [] => (db, [])
  | db, (msgId, body) :: messages =>
    let done := handleMsg env db mgr session msgId (codec.parse body)
    ((handleMsgs done.1 messages).1, done.2 ++ (handleMsgs done.1 messages).2)

/-- What the server does with the frame of a call, if there is one. -/
def handleReaction (toJson : Json → Bytes) (db : Database) :
    Option TcpClient.Request → Database × List Output
  | none => (db, [])
  | some request =>
    handleMsgs env mgr session codec db (CSession.serve .head (request.frame toJson)).handled

end Server

/-- An output tells a user about a decision, on this server or over the channel of the user. -/
def Output.TellsDecision (mgr : ℤ → Option Conn) (uid : ℤ) (accepted : Bool) : Output → Prop
  | .send session id msg =>
    mgr uid = some session ∧ id = idNotifyAuthFriendRsp ∧
      msg.get "accepted" = some (.bool accepted)
  | .publish uid' msg =>
    uid' = uid ∧ msg.get "type" = some (.str "auth_friend_rsp") ∧
      msg.get "accepted" = some (.bool accepted)

/-- The decision about a request is carried through: the request has its status, its two users
are friends exactly when it was accepted, and the one who asked is told, and not the other. -/
structure CarriedThrough (db : Database) (mgr : ℤ → Option Conn) (outputs : List Output)
    (request : FriendRequest) (decision : Decision) : Prop where
  status : ∀ r ∈ db.friend_requests.rows, r.id = request.id →
    r.status = decisionStatus decision.accepted
  friends : AreFriends db request.from_uid request.to_uid ↔ decision = .accept
  told : ∃ o ∈ outputs, o.TellsDecision mgr request.from_uid decision.accepted
  not_told : ∀ o ∈ outputs, ∀ accepted, ¬ o.TellsDecision mgr request.to_uid accepted

section Decision

variable {env : Env} {mgr : ℤ → Option Conn} {session : Conn} {codec : Codec}
  {toJson : Json → Bytes} {db : Database} {m_currentUid fromUid : Int32}

/-- The object that the client sends has not all the fields of a request. -/
lemma authRequest_sendAuthFriendResponse (accepted : Bool) :
    authRequest (some (TcpClient.Request.sendAuthFriendResponse m_currentUid fromUid
      accepted).json) = none := by
  simp [authRequest, TcpClient.Request.json, TcpClient.Request.fields, getInt, get_object,
    lookup_cons_ite, Json.toInt]

/-- Whatever the user decides, the server does nothing. -/
lemma handleReaction_decision (fromName message : String) (decision : Decision)
    (hagree : ∀ request : TcpClient.Request, codec.parse (toJson request.json) = some request.json)
    (hlen : ∀ accepted, ((toJson (TcpClient.Request.sendAuthFriendResponse m_currentUid fromUid
      accepted).json).length : ℤ) ≤ msgMaxLen) :
    handleReaction env mgr session codec toJson db
      (MainWindow.onFriendRequestReceived m_currentUid fromUid fromName message decision) =
        (db, []) := by
  cases decision with
  | accept =>
    have hreaction : MainWindow.onFriendRequestReceived m_currentUid fromUid fromName message
        .accept = some (.sendAuthFriendResponse m_currentUid fromUid true) := rfl
    have hid : ((TcpClient.Request.sendAuthFriendResponse m_currentUid fromUid true).msgId.toNat :
        ℤ) = idAuthFriendReq := rfl
    rw [hreaction, handleReaction, TcpClient.handled_frame (hlen true), hid]
    simp only [handleMsgs, hagree,
      handleMsg_of_authRequest_none (authRequest_sendAuthFriendResponse true), List.append_nil]
  | reject => rfl

end Decision

/-- The client of the user who is asked shows a pending request. -/
structure Shown (db : Database) (m_currentUid fromUid : Int32) (request : FriendRequest) :
    Prop where
  mem : request ∈ db.friend_requests.rows
  pending : request.status = .pending
  from_uid : request.from_uid = fromUid.toInt
  to_uid : request.to_uid = m_currentUid.toInt

/-- A request that is still pending has not the status of a decision. -/
lemma not_carriedThrough_of_pending {db : Database} {mgr : ℤ → Option Conn}
    {outputs : List Output} {request : FriendRequest} (decision : Decision)
    (hmem : request ∈ db.friend_requests.rows) (hpending : request.status = .pending) :
    ¬ CarriedThrough db mgr outputs request decision := by
  intro h
  have hstatus := h.status request hmem rfl
  rw [hpending] at hstatus
  cases decision with
  | accept => cases hstatus
  | reject => cases hstatus

/-- **No decision about a request is carried through**: after the reaction of the client and the
work of the server on what it sends, the tables are as before, the request is still pending, and
nobody is told. -/
theorem decision_not_carriedThrough {env : Env} {mgr : ℤ → Option Conn} {session : Conn}
    {codec : Codec} {toJson : Json → Bytes} {db : Database} {m_currentUid fromUid : Int32}
    {request : FriendRequest} (fromName message : String) (decision : Decision)
    (hagree : ∀ request : TcpClient.Request, codec.parse (toJson request.json) = some request.json)
    (hlen : ∀ accepted, ((toJson (TcpClient.Request.sendAuthFriendResponse m_currentUid fromUid
      accepted).json).length : ℤ) ≤ msgMaxLen)
    (hshown : Shown db m_currentUid fromUid request) :
    let done := handleReaction env mgr session codec toJson db
      (MainWindow.onFriendRequestReceived m_currentUid fromUid fromName message decision)
    ¬ CarriedThrough done.1 mgr done.2 request decision ∧ done = (db, []) := by
  rw [handleReaction_decision fromName message decision hagree hlen]
  exact ⟨not_carriedThrough_of_pending decision hshown.mem hshown.pending, rfl⟩

/-- User 1 has asked user 2. -/
def askedDatabase : Database :=
  (handleMsg allSucceed MySQLMgr.twoUsers (fun _ => none) client₁ idAddFriendReq askEvent.src).1

lemma rows_askedDatabase : askedDatabase.friend_requests.rows = [⟨1, 1, 2, "hello", .pending⟩] :=
  rfl

/-- The client's text of the answer of user 2 is short. -/
lemma length_answer (accepted : Bool) :
    ((Json.compact.dump (TcpClient.Request.sendAuthFriendResponse 2 1 accepted).json).length : ℤ) ≤
      msgMaxLen := by
  cases accepted <;> decide

/-- User 2 rejects the request of user 1. -/
theorem decision_not_carriedThrough_reject :
    let done := handleReaction allSucceed (fun _ => none) client₂ Json.compact Json.compact.dump
      askedDatabase (MainWindow.onFriendRequestReceived 2 1 "alice" "hello" .reject)
    ¬ CarriedThrough done.1 (fun _ => none) done.2 ⟨1, 1, 2, "hello", .pending⟩ .reject ∧
      done = (askedDatabase, []) := by
  refine decision_not_carriedThrough "alice" "hello" .reject
    (fun request => Json.compact.parse_dump (TcpClient.wf_json request)) length_answer
    ⟨?_, rfl, rfl, rfl⟩
  rw [rows_askedDatabase]
  exact List.mem_singleton_self _

/-- User 2 accepts it: the message has no number of a request, and the handler throws. -/
theorem accept_not_carriedThrough :
    MainWindow.onFriendRequestReceived 2 1 "alice" "hello" .accept =
        some (.sendAuthFriendResponse 2 1 true) ∧
      let done := handleReaction allSucceed (fun _ => none) client₂ Json.compact Json.compact.dump
        askedDatabase (MainWindow.onFriendRequestReceived 2 1 "alice" "hello" .accept)
      ¬ CarriedThrough done.1 (fun _ => none) done.2 ⟨1, 1, 2, "hello", .pending⟩ .accept := by
  refine ⟨rfl, ?_⟩
  rw [handleReaction_decision "alice" "hello" .accept
    (fun request => Json.compact.parse_dump (TcpClient.wf_json request)) length_answer]
  refine not_carriedThrough_of_pending .accept ?_ rfl
  rw [rows_askedDatabase]
  exact List.mem_singleton_self _

end WeChat
