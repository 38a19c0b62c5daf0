/-
# The registry of chat servers

`StatusServiceImpl` keeps the chat servers that users are sent to.  A server enters the registry
from the configuration or with `RegisterChatServer`; a heartbeat resets the number of its missed
heartbeats; every pass of the health check removes the servers that have missed too many and
counts one more for the others.  `GetChatServer` chooses a server by the numbers of connections
in Redis.  Each of these holds `serverMutex`, so the calls and the passes are the steps, in any
order.

The map is a hash table: the order in which it is traversed is some order of its entries, which
may change when an entry is added.
-/
import WeChat.Lib.Redis
import WeChat.Lib.Table
import WeChat.Status.Token
import WeChat.Chat.Handlers

namespace WeChat

namespace StatusServiceImpl

open Transition Relational

/-- `struct ChatServer` without the two times, which are only written to the log. -/
structure ChatServer where
  host : String
  port : String
  name : String
  missedHeartbeats : ℕ
deriving DecidableEq

/-- `maxMissedHeartbeats`. -/
def maxMissedHeartbeats : ℕ := 5

/-- The key of the hash that counts the connections of a server. -/
def connectionsKey (name : String) : String := "chatserver:" ++ name ++ ":connections"

/-- `message::GetChatServerRsp`. -/
structure GetChatServerRsp where
  host : String
  port : String
  error : ErrorCodes
  token : String
deriving DecidableEq

/-- What is seen of the calls and passes. -/
inductive Observed
  | registered (name : String)
  | heartbeat (name : String) (error : ErrorCodes)
  | healthCheck
deriving DecidableEq

/-- The members of `StatusServiceImpl`, and Redis.  The record of the calls and passes is not in
the code. -/
structure Service where
  chatServers : Table ChatServer.name
  freeServer : ChatServer
  redis : Redis.Store
  log : List Observed

/-- The calls and passes. -/
inductive ServiceEvent
  | registerChatServer (name host port : String)
  | heartbeat (name : String)
  | healthCheck
  /-- A call of `GetChatServer`, with the value of `generateUUID`. -/
  | getChatServer (uid : ℤ) (token : String)
  /-- The map is traversed in another order from now on. -/
  | rehash (order : List ChatServer)

namespace Service

/-- The constructor: the sections of the configuration in an order in which the map may hold
them; of two sections with one name the first counts. -/
def init (configured : List (String × String × String)) : Service :=
  let chatServers : Table ChatServer.name :=
    configured.foldl (fun t c => t.emplace ⟨c.2.1, c.2.2, c.1, 0⟩) Table.empty
  { chatServers := chatServers
    freeServer := chatServers.rows.headD ⟨"", "", "", 0⟩
    redis := fun _ => none
    log := [] }

variable (s : Service)

/-- `RegisterChatServer`. -/
def registerChatServer (name host port : String) : Service :=
  { s with
    chatServers := s.chatServers.put ⟨host, port, name, 0⟩
    log := s.log ++ [.registered name] }

/-- `Heartbeat`. -/
def heartbeat (name : String) : Service :=
  if name ∈ s.chatServers.rows.map ChatServer.name then
    { s with
      chatServers := s.chatServers.update
        (fun c => if c.name = name then { c with missedHeartbeats := 0 } else c)
        (by intro c; split_ifs <;> rfl)
      log := s.log ++ [.heartbeat name .success] }
  else { s with log := s.log ++ [.heartbeat name .serverNotFound] }

/-- One pass of `startHealthCheck`. -/
def healthCheck : Service :=
  let missed := fun c : ChatServer => decide (maxMissedHeartbeats ≤ c.missedHeartbeats)
  { s with
    chatServers := (s.chatServers.delete missed).update
      (fun c => { c with missedHeartbeats := c.missedHeartbeats + 1 }) fun _ => rfl
    redis := (s.chatServers.rows.filter missed).foldl
      (fun db c => Redis.del db (connectionsKey c.name)) s.redis
    log := s.log ++ [.healthCheck] }

end Service

/-- `RedisMgr::get`: an answer of another type than a string counts as a failure. -/
def redisGet (db : Redis.Store) (key : String) : Option String :=
  match Redis.get db key with
  | .string value => some value
  | _ => none

/-- The loop of `choseChatServer`; a text that `std::stoi` does not read ends the call. -/
def choseLoop (db : Redis.Store) : List ChatServer → ChatServer → ℤ → Option ChatServer
  | [], selectedServer, _ => some selectedServer
  | entry :: entries, selectedServer, minConnections => do
    let currentCount ← (redisGet db (connectionsKey entry.name)).elim (some 0) LogicSystem.stoi
    if currentCount < minConnections then
      choseLoop db entries { selectedServer with
        host := entry.host, port := entry.port, name := entry.name } currentCount
    else choseLoop db entries selectedServer minConnections

namespace Service

variable (s : Service)

/-- `choseChatServer`. -/
def choseChatServer : Option (ChatServer × Service) :=
  (choseLoop s.redis s.chatServers.rows s.freeServer maxInt).map fun selectedServer =>
    (selectedServer, { s with
      redis := (Redis.hincrby s.redis (connectionsKey selectedServer.name) "count" 1).2
      freeServer := selectedServer })

/-- `GetChatServer`. -/
def getChatServer (uid : ℤ) (token : String) : Option (GetChatServerRsp × Service) :=
  s.choseChatServer.map fun (selected, s) =>
    (⟨selected.host, selected.port, .success, token⟩,
      { s with redis := Redis.set s.redis (tokenKey uid) token })

/-- One call or pass. -/
def step (s : Service) : ServiceEvent → Option Service
  | .registerChatServer name host port => some (s.registerChatServer name host port)
  | .heartbeat name => some (s.heartbeat name)
  | .healthCheck => some s.healthCheck
  | .getChatServer uid token => (s.getChatServer uid token).map Prod.snd
  | .rehash order =>
    if h : order.Perm s.chatServers.rows then
      some { s with chatServers := s.chatServers.reorder order h }
    else none

end Service

end StatusServiceImpl

end WeChat
