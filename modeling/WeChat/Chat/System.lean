/-
# A system of chat servers

Any number of `ChatServer` processes that share a database and one Redis.  Each server has its
sessions, its `SessionMgr`, the queues of its `LogicSystem` and the messages that Redis has
pushed to its subscriber.  One event is the completion of a read, the failure of a read or a
write, the work of a worker thread on one message, or the delivery of one pushed message; the
events of all servers interleave in any order.
-/
import WeChat.Lib.Transition
import WeChat.Chat.ReadChain
import WeChat.Chat.SendQueue
import WeChat.Chat.Handlers

namespace WeChat

open Wire

/-! ## Connections and their registration -/

/-- What becomes of a `CSession`. -/
structure Session where
  /-- The read that is armed. -/
  reading : CSession.Reading
  _isAuthenticated : Bool
  _uid : ℤ
  _isStop : Bool
  /-- The connection has been accepted. -/
  accepted : Bool
  /-- The session is in `CServer::_sessions`. -/
  listed : Bool

/-- The sessions of all servers and everything that registers them: the `SessionMgr` of each
server, the channels that it is subscribed to, and the presence of users in Redis.  The field
`latest` records the session of the last accepted login of a user on a server; the code has
nothing like it. -/
structure Registry where
  session : Conn → Session
  /-- `SessionMgr::_sessions`. -/
  mgr : ℕ → ℤ → Option Conn
  /-- The server is subscribed to the channel `user:<uid>`. -/
  subs : ℕ → ℤ → Bool
  /-- The hash `online_users`. -/
  onlineUsers : ℤ → Bool
  /-- The field `count` of `chatserver:ChatServer:connections`. -/
  connections : ℤ
  latest : ℕ → ℤ → Option Conn

/-- The completion codes of a failed read. -/
inductive ReadError
  | eof | connectionReset | other
deriving DecidableEq

namespace Registry

variable (r : Registry)

/-- No connection, no user. -/
def init : Registry where
  session _ := ⟨.stopped, false, 0, false, false, false⟩
  mgr _ _ := none
  subs _ _ := false
  onlineUsers _ := false
  connections := 0
  latest _ _ := none

/-- A change of one session. -/
def modify (c : Conn) (f : Session → Session) : Registry :=
  { r with session := Function.update r.session c (f (r.session c)) }

/-- `CServer::start`: the new connection is listed, and its first read is armed. -/
def accept (c : Conn) : Registry :=
  r.modify c fun _ => ⟨.head, false, 0, false, true, true⟩

/-- `CServer::closeSession`. -/
def closeSession (c : Conn) : Registry :=
  r.modify c fun ses => { ses with listed := false }

/-- The next read of a session is armed, or none is. -/
def arm (c : Conn) (reading : CSession.Reading) : Registry :=
  r.modify c fun ses => { ses with reading := reading }

/-- `SessionMgr::addSession`. -/
def addSession (S : ℕ) (uid : ℤ) (c : Conn) : Registry :=
  { r with mgr := Function.update r.mgr S (Function.update (r.mgr S) uid (some c)) }

/-- `SessionMgr::removeSession`, which is given no session. -/
def removeSession (S : ℕ) (uid : ℤ) : Registry :=
  { r with mgr := Function.update r.mgr S (Function.update (r.mgr S) uid none) }

/-- The effects of an accepted `ID_CHAT_LOGIN`. -/
def login (c : Conn) (uid : ℤ) : Registry :=
  let r := r.modify c fun ses => { ses with _isAuthenticated := true, _uid := uid }
  let r := r.addSession c.srv uid c
  { r with
    subs := Function.update r.subs c.srv (Function.update (r.subs c.srv) uid true)
    onlineUsers := Function.update r.onlineUsers uid true
    connections := r.connections + 1
    latest := Function.update r.latest c.srv (Function.update (r.latest c.srv) uid (some c)) }

/-- The session of a read that failed is removed from `SessionMgr` under its own uid. -/
def unregister (c : Conn) : Registry :=
  if (r.session c)._isAuthenticated ∧ 0 < (r.session c)._uid then
    r.removeSession c.srv (r.session c)._uid
  else r

/-- The error branches of `readHead` and `readBody`.  A header that fails with another code
than the two of a lost connection ends the chain and does nothing else. -/
def readError (c : Conn) (ec : ReadError) : Registry :=
  match (r.session c).reading with
  | .head =>
    if ec = .eof ∨ ec = .connectionReset then
      ((r.unregister c).closeSession c).arm c .stopped
    else r.arm c .stopped
  | _ => ((r.unregister c).closeSession c).arm c .stopped

/-- The session after a read that got its bytes: the next read is armed, or the length in the
header is refused and the chain ends. -/
def readDone (c : Conn) (bytes : Bytes) : Registry :=
  let next := (CSession.onRead (r.session c).reading bytes).2
  if next = .stopped then (r.closeSession c).arm c .stopped else r.arm c next

/-- `CSession::close`.  Redis has no command `HDECRBY`, so the number of connections stays. -/
def close (c : Conn) : Registry :=
  let ses := r.session c
  let r := r.modify c fun ses => { ses with _isStop := true }
  if ses._isAuthenticated ∧ 0 < ses._uid then
    { r with
      subs := Function.update r.subs c.srv (Function.update (r.subs c.srv) ses._uid false)
      onlineUsers := Function.update r.onlineUsers ses._uid false }
  else r

/-- The error branch of `handle_async_write`. -/
def writeError (c : Conn) : Registry := (r.close c).closeSession c

end Registry

/-! ## The system -/

/-- `LogicNode`. -/
structure LogicNode where
  _id : ℤ
  _body : Bytes
  _session : Conn

/-- What does not change while the servers run. -/
structure Config where
  codec : Json.Codec
  /-- The number of worker threads of a server. -/
  workerCount : ℕ → ℕ

/-- The state of all servers, of Redis and of the database. -/
structure State where
  reg : Registry
  /-- `LogicSystem::_queues`. -/
  queues : ℕ → ℕ → List LogicNode
  /-- The messages that Redis has pushed to the subscriber of a server. -/
  inbox : ℕ → List Bytes
  db : Database
  /-- The calls of `CSession::send`, with the value whose text it is given.  What a call puts on
  the wire depends on the length of the text. -/
  sent : List (Conn × ℤ × Json)

/-- What happens. -/
inductive Event
  /-- A server accepts a connection. -/
  | accept (c : Conn)
  /-- The armed read of a session completes with the bytes it asked for. -/
  | read (c : Conn) (bytes : Bytes) (env : Env)
  | readError (c : Conn) (ec : ReadError)
  /-- The outstanding write of a session fails. -/
  | writeError (c : Conn)
  /-- A worker takes a message from its queue; `alive` says whether a session that its server
  has dropped is still there. -/
  | work (S i : ℕ) (alive : Bool) (env : Env)
  /-- The subscriber of a server handles the first message that was pushed to it. -/
  | deliver (S : ℕ) (env : Env)

/-- The call of `CSession::send` that an output makes. -/
def Output.sent : Output → Option (Conn × ℤ × Json)
  | .send session id msg => some (session, id, msg)
  | .publish _ _ => none

/-- The text that an output pushes to a server with the given subscriptions. -/
def Output.pushed (codec : Json.Codec) (subs : ℤ → Bool) : Output → Option Bytes
  | .send _ _ _ => none
  | .publish uid msg => if subs uid then some (codec.dump msg) else none

/-- The call of `CSession::send` throws, because of the length of the text. -/
def Output.throws (codec : Json.Codec) : Output → Bool
  | .send _ _ msg => CSession.throws (codec.dump msg).length
  | .publish _ _ => false

/-- What is done of a `try` block: nothing after the first call that throws. -/
def untilThrow (codec : Json.Codec) : List Output → List Output
  | [] => []
  | o :: outputs => if o.throws codec then [o] else o :: untilThrow codec outputs

@[simp] lemma untilThrow_singleton (codec : Json.Codec) (o : Output) :
    untilThrow codec [o] = [o] := by
  rw [untilThrow]
  split_ifs <;> rfl

lemma untilThrow_cons (codec : Json.Codec) (o : Output) (outputs : List Output) :
    ∃ rest, untilThrow codec (o :: outputs) = o :: rest := by
  rw [untilThrow]
  split_ifs
  · exact ⟨[], rfl⟩
  · exact ⟨_, rfl⟩

lemma isPrefix_untilThrow (codec : Json.Codec) (outputs : List Output) :
    untilThrow codec outputs <+: outputs := by
  induction outputs with
  | nil => exact List.prefix_rfl
  | cons o outputs ih =>
    rw [untilThrow]
    split_ifs
    · exact List.prefix_append [o] outputs
    · exact List.cons_prefix_cons.2 ⟨rfl, ih⟩

/-- What the body of an `ID_CHAT_LOGIN` asks for. -/
inductive LoginRequest
  /-- The body is not JSON, or a field has the wrong type. -/
  | exception
  /-- A field is missing. -/
  | ignored
  | credentials (uid : ℤ) (token : String)
deriving DecidableEq

namespace CSession

open Json LogicSystem MySQLMgr

/-- The reading of the login branch of `handleMessage`. -/
def loginRequest (data : Option Json) : LoginRequest :=
  match data with
  | none => .exception
  | some data =>
    if data.contains "uid" && data.contains "token" then
      match data.getInt "uid", data.getStr "token" with
      | some uid, some token => .credentials uid token
      | _, _ => .exception
    else .ignored

/-- The calls of `send` in the `try` block of `sendInitialData`, when none of them throws. -/
def initialData (env : Env) (db : Database) (mgr : ℤ → Option Conn) (c : Conn) (_uid : ℤ) :
    List Output :=
  if _uid ≤ 0 then []
  else
    let friends := getFriendList (env.ok 0) db _uid
    let requests := getFriendRequests (env.ok 1) db _uid
    let requestsJson := requests.map fun req =>
      object [("requestId", .num req.1), ("fromUid", .num req.2.uid), ("fromName", .str req.2.name),
        ("fromAvatar", .str req.2.avatar)]
    let messages := getLastMessages env.tie (env.ok 2) db _uid 20
    let messagesJson := messages.mapM fun msg => do
      let contactId ← stoi msg.2
      let contact := getUserById (env.ok 3) db contactId
      let fromUid ← stoi msg.1.from_uid
      some (object [("contactUid", .num contactId), ("contactName", .str contact.name),
        ("contactAvatar", .str contact.avatar), ("lastMessage", .str msg.1.content),
        ("lastTime", .str msg.1.send_time), ("isSelf", .bool (fromUid = _uid))])
    [answer c idFriendListRsp
      [("error", .num ErrorCodes.success.code), ("friends", .arr (friends.map (userJson mgr)))]] ++
    (if requestsJson.isEmpty then []
      else [answer c idFriendRequestListRsp
        [("error", .num ErrorCodes.success.code), ("requests", .arr requestsJson)]]) ++
    (match messagesJson with
      | some (m :: ms) => [answer c idRecentMessagesRsp
        [("error", .num ErrorCodes.success.code), ("recentMessages", .arr (m :: ms))]]
      | _ => [])

/-- `CSession::sendInitialData`: a list whose text is too long ends the `try` block. -/
def sendInitialData (codec : Codec) (env : Env) (db : Database) (mgr : ℤ → Option Conn) (c : Conn)
    (_uid : ℤ) : List Output :=
  untilThrow codec (initialData env db mgr c _uid)

end CSession

/-- No connection, no message under way, and any database. -/
def State.init (db : Database) : State where
  reg := .init
  queues _ _ := []
  inbox _ := []
  db := db
  sent := []

section Step

open Json LogicSystem

variable (cfg : Config)

/-- The outputs of a step. -/
def State.perform (s : State) (outputs : List Output) : State :=
  { s with
    sent := s.sent ++ outputs.filterMap Output.sent
    inbox := fun S =>
      s.inbox S ++ outputs.filterMap (Output.pushed cfg.codec (s.reg.subs S)) }

/-- `LogicSystem::getQueueIndex`. -/
def getQueueIndex (S : ℕ) (uid : ℤ) : ℕ :=
  if uid ≤ 0 then 0 else uid.toNat % cfg.workerCount S

/-- `LogicSystem::postMsgToQueue`; a message that meets a full queue is dropped. -/
def State.postMsgToQueue (s : State) (node : LogicNode) : State :=
  let S := node._session.srv
  let i := getQueueIndex cfg S (s.reg.session node._session)._uid
  if queueMaxSize < (s.queues S i).length then s
  else
    { s with
      queues := Function.update s.queues S
        (Function.update (s.queues S) i (s.queues S i ++ [node])) }

/-- `CSession::handleMessage`. -/
def State.handleMessage (s : State) (env : Env) (c : Conn) (msgId : ℤ) (msgBody : Bytes) :
    State :=
  if msgId = idHeartbeatPing then
    s.perform cfg [answer c idHeartbeatPong [("status", .str "alive")]]
  else if msgId = idChatLogin then
    match CSession.loginRequest (cfg.codec.parse msgBody) with
    | .exception => s.perform cfg [answerError c idChatLoginRsp .errorJson]
    | .ignored => s
    | .credentials uid token =>
      let error := env.checkToken uid token
      if error = ErrorCodes.success.code then
        let reg := s.reg.login c uid
        { s with reg := reg }.perform cfg
          (answer c idChatLoginRsp
            [("error", .num ErrorCodes.success.code), ("token", .str token)] ::
          CSession.sendInitialData cfg.codec env s.db (reg.mgr c.srv) c uid)
      else s.perform cfg [answer c idChatLoginRsp [("error", .num error)]]
  else if !(s.reg.session c)._isAuthenticated then
    s.perform cfg [answerError c (toShort (msgId + 1)) .tokenInvalid]
  else s.postMsgToQueue cfg ⟨msgId, msgBody, c⟩

/-- `LogicNode::getSession`: a session that is still read, or listed by its server, is there. -/
def Registry.lock (r : Registry) (c : Conn) (alive : Bool) : Bool :=
  alive || (r.session c).listed || (r.session c).reading ≠ .stopped

/-- One event. -/
def step (s : State) : Event → Option State
  | .accept c =>
    if (s.reg.session c).accepted then none else some { s with reg := s.reg.accept c }
  | .read c bytes env =>
    let reading := (s.reg.session c).reading
    if reading.want = some bytes.length then
      let s := { s with reg := s.reg.readDone c bytes }
      match (CSession.onRead reading bytes).1 with
      | some (msgId, msgBody) => some (s.handleMessage cfg env c msgId msgBody)
      | none => some s
    else none
  | .readError c ec =>
    if (s.reg.session c).reading = .stopped then none
    else some { s with reg := s.reg.readError c ec }
  | .writeError c =>
    if s.sent.any (fun e => e.1 = c) ∧ !(s.reg.session c)._isStop then
      some { s with reg := s.reg.writeError c }
    else none
  | .work S i alive env =>
    match s.queues S i with
    | [] => none
    | node :: queue =>
      let s := { s with
        queues := Function.update s.queues S (Function.update (s.queues S) i queue) }
      if s.reg.lock node._session alive then
        let done := handleMsg env s.db (s.reg.mgr S) node._session node._id
          (cfg.codec.parse node._body)
        some ({ s with db := done.1 }.perform cfg done.2)
      else some s
  | .deliver S env =>
    match s.inbox S with
    | [] => none
    | message :: inbox =>
      let s := { s with inbox := Function.update s.inbox S inbox }
      some (s.perform cfg (subscriberCallback env s.db (s.reg.mgr S) (cfg.codec.parse message)))

end Step

end WeChat
