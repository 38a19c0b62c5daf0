/-
# From the registry to the client

A login crosses three processes: the client posts a user and a password to `GateServer`, which
asks `StatusServer` for a chat server and writes what it is given into its answer, and the
callback of the client is called with what it reads there.  The port is a text in the registry,
in the reply of `StatusServer` and in the answer of `GateServer`, and a number for the client.
-/
import WeChat.Client.HttpClient
import WeChat.Gate.Handlers
import WeChat.Lib.JsonText
import WeChat.Status.Membership

namespace WeChat

open Wire Json StatusServiceImpl

namespace GateServer

/-! ## The path of a login -/

/-- `StatusGrpcClient::getChatServer`, when `StatusServer` is in the given state and would draw
the given token: an exception of the service is a status that is not `ok`. -/
def StatusGrpcClient.getChatServer (status : Service) (token : String) (uid : ℤ) :
    GateServer.GetChatServerRsp :=
  match status.getChatServer uid token with
  | some (respond, _) => ⟨respond.error.code, respond.host, respond.port, respond.token⟩
  | none => ⟨ErrorCodes.rpcFailed.code, "", "", ""⟩

/-- The services of a gateway with this `MySQLMgr::getUID` and this `StatusServer`. -/
def Services.withStatus (services : Services) (getUID : ℤ → String → Int32) (status : Service)
    (token : String) : Services :=
  { services with
    getUID := fun mod user => (getUID mod user).toInt
    getChatServer := StatusGrpcClient.getChatServer status token }

/-- The body of a response as it is written to the socket. -/
def Content.bytes (codec : Codec) : Content → Bytes
  | .text s => utf8 s
  | .json root => codec.dump root

/-- The reply to a `POST` request; a status such as `404` is an error of the reply, and so is a
connection that ends without one. -/
def reply (codec : Codec) (services : Services) : HttpClient.Network := fun path body =>
  match responseTo codec services path false body with
  | some response => if response.result < 400 then some (response.body.bytes codec) else none
  | none => none

/-- The two ways to log in. -/
inductive LoginRoute
  | account_login | email_login
deriving DecidableEq

namespace LoginRoute

/-- The call of the client. -/
def call : LoginRoute → Codec → HttpClient.Network → String → String → HttpClient.LoginResult
  | account_login => HttpClient.loginByAccount
  | email_login => HttpClient.loginByEmail

def path : LoginRoute → String
  | account_login => "/account_login"
  | email_login => "/email_login"

/-- The field that names the user. -/
def field : LoginRoute → String
  | account_login => "user"
  | email_login => "email"

/-- The first argument of `getUID`. -/
def mod : LoginRoute → ℤ
  | account_login => 1
  | email_login => 0

/-- The error code for a user that is not there. -/
def missing : LoginRoute → ErrorCodes
  | account_login => .userNotExist
  | email_login => .emailNotExist

/-- The call that compares the password. -/
def check : LoginRoute → Services → String → String → ℤ
  | account_login => Services.loginAcconut
  | email_login => Services.loginEmail

/-- What the client posts. -/
def request (route : LoginRoute) (user password : String) : Json :=
  object [(route.field, .str user), ("password", .str password)]

lemma call_eq (route : LoginRoute) (codec : Codec) (network : HttpClient.Network)
    (user password : String) : route.call codec network user password =
      HttpClient.sendPostRequest codec network route.path (route.request user password)
        HttpClient.loginCallback := by
  cases route <;> rfl

/-- The handler of the path of a route is the one of its login. -/
lemma lookup_path (route : LoginRoute) : postHandlers.lookup route.path =
    some (login route.field route.missing route.mod route.check) := by
  cases route <;> rfl

lemma getStr_field (route : LoginRoute) (user password : String) :
    (route.request user password).getStr route.field = some user := by
  rw [request, getStr, get_object]
  cases route <;> rfl

lemma getStr_password (route : LoginRoute) (user password : String) :
    (route.request user password).getStr "password" = some password := by
  rw [request, getStr, get_object]
  cases route <;> rfl

end LoginRoute

/-! ## What the callback is called with -/

lemma ErrorCodes.code_eq_zero_iff (error : ErrorCodes) : error.code = 0 ↔ error = .success := by
  cases error <;> decide

lemma toInt_code (error : ErrorCodes) : HttpClient.toInt (.num error.code) = error.code := by
  cases error <;> rfl

/-- The chat server that `StatusServer` selects in a call of `GetChatServer`. -/
def selectedServer (status : Service) : Option ChatServer := status.choseChatServer.map Prod.fst

lemma StatusGrpcClient.getChatServer_eq (status : Service) (token : String) (uid : ℤ) :
    StatusGrpcClient.getChatServer status token uid =
      match selectedServer status with
      | some selected => ⟨ErrorCodes.success.code, selected.host, selected.port, token⟩
      | none => ⟨ErrorCodes.rpcFailed.code, "", "", ""⟩ := by
  rw [getChatServer, Service.getChatServer, selectedServer]
  cases status.choseChatServer <;> rfl

section Callback

variable (services : Services) (getUID : ℤ → String → Int32) (status : Service) (token : String)
  (route : LoginRoute) (user password : String)

/-- The error code of the check of the password. -/
def checkError : ErrorCodes :=
  resultError .errMysql route.missing .passwordError (route.check services user password)

/-- The arguments of the callback: the port is always `0`. -/
def handed : HttpClient.LoginResult :=
  match selectedServer status with
  | some selected =>
    if checkError services route user password = .success then
      ⟨true, (getUID route.mod user).toInt, token, selected.host, 0, ""⟩
    else ⟨false, 0, "", "", 0, ""⟩
  | none => ⟨false, 0, "", "", 0, ""⟩

/-- The handler answers an object, and the client finds the server in it. -/
lemma login_request :
    ∃ fields, login route.field route.missing route.mod route.check
        (services.withStatus getUID status token) (route.request user password) =
          some (object fields) ∧
      (∀ f ∈ fields, f.2.Wf) ∧
      HttpClient.loginCallback true (ofFields fields) =
        handed services getUID status token route user password := by
  have hcheck : resultError .errMysql route.missing .passwordError
      (route.check (services.withStatus getUID status token) user password) =
        checkError services route user password := by
    cases route <;> rfl
  have hserver : ∀ uid, (services.withStatus getUID status token).getChatServer uid = _ :=
    StatusGrpcClient.getChatServer_eq status token
  have huid : (services.withStatus getUID status token).getUID route.mod user =
    (getUID route.mod user).toInt := rfl
  simp only [login, route.getStr_field, route.getStr_password, Option.bind_eq_bind,
    Option.bind_some, hcheck, hserver, huid, handed]
  refine ⟨_, rfl, ?_, ?_⟩
  · by_cases hok : checkError services route user password = .success
    · cases selectedServer status with
      | none => simp [hok, Wf, ErrorCodes.code]
      | some selected => simp [hok, Wf, ErrorCodes.code]
    · simp [hok, Wf]
  · by_cases hok : checkError services route user password = .success
    · cases selectedServer status with
      | none =>
        -- the code of the failed call is assigned over that of the check
        have hne : ErrorCodes.rpcFailed.code ≠ ErrorCodes.success.code := by decide
        refine HttpClient.loginCallback_error ?_
        cases route <;>
          simp [hok, hne, HttpClient.field_ofFields, lookup_cons_ite, LoginRoute.field,
            toInt_code, ErrorCodes.code_eq_zero_iff]
      | some selected =>
        cases route <;>
          simp [hok, HttpClient.loginCallback, HttpClient.field_ofFields, lookup_cons_ite,
            LoginRoute.field, toInt_code, ErrorCodes.code_eq_zero_iff]
    · have hfailed : HttpClient.loginCallback true (ofFields [
          ("error", .num (checkError services route user password).code),
          (route.field, .str user), ("password", .str password)]) =
          ⟨false, 0, "", "", 0, ""⟩ := by
        refine HttpClient.loginCallback_error ?_
        cases route <;>
          simp [HttpClient.field_ofFields, lookup_cons_ite, LoginRoute.field, toInt_code,
            ErrorCodes.code_eq_zero_iff, hok]
      simp only [if_neg hok]
      refine hfailed.trans ?_
      cases selectedServer status <;> rfl

/-- The two JSON libraries read what the other one writes in a login. -/
structure Agree (qt gate : Codec) : Prop where
  request : gate.parse (qt.dump (route.request user password)) =
    some (route.request user password)
  answer : ∀ root, login route.field route.missing route.mod route.check
    (services.withStatus getUID status token) (route.request user password) = some root →
      qt.parse (gate.dump root) = some root

lemma wf_request : (route.request user password).Wf := by
  refine wf_object fun f hf => ?_
  simp only [List.mem_cons, List.not_mem_nil, or_false] at hf
  rcases hf with rfl | rfl <;> trivial

lemma agree_self (codec : Codec) :
    Agree services getUID status token route user password codec codec where
  request := codec.parse_dump (wf_request route user password)
  answer root hroot := by
    obtain ⟨fields, hfields, hwf, -⟩ :=
      login_request services getUID status token route user password
    obtain rfl := Option.some.inj (hfields.symm.trans hroot)
    exact codec.parse_dump (wf_object hwf)

/-- **What the callback of a login is called with.** -/
theorem call_reply {qt gate : Codec}
    (hagree : Agree services getUID status token route user password qt gate) :
    route.call qt (reply gate (services.withStatus getUID status token)) user password =
      handed services getUID status token route user password := by
  obtain ⟨fields, hroot, -, hhanded⟩ :=
    login_request services getUID status token route user password
  have hreply : reply gate (services.withStatus getUID status token) route.path
      (qt.dump (route.request user password)) = some (gate.dump (object fields)) := by
    have hhandled : parsed (login route.field route.missing route.mod route.check)
        (services.withStatus getUID status token) (some (route.request user password)) =
          some (object fields) := hroot
    simp only [reply, responseTo, handlePost, route.lookup_path, Option.map_some, hagree.request,
      hhandled, Bool.false_eq_true, if_false]
    rfl
  rw [route.call_eq, HttpClient.sendPostRequest_object hreply (hagree.answer _ hroot), hhanded]

end Callback

section HandsOver

variable {services : Services} {getUID : ℤ → String → Int32} {status : Service} {token : String}
  {route : LoginRoute} {user password : String} {qt gate : Codec}

/-- The callback is called with this user and token, and with the host and the port of this
chat server; the port of a chat server is the number that `std::stoi` reads in its text. -/
structure HandsOver (uid : ℤ) (token : String) (selected : ChatServer)
    (result : HttpClient.LoginResult) : Prop where
  uid : result.uid = uid
  token : result.token = token
  host : result.host = selected.host
  port : LogicSystem.stoi selected.port = some result.port

/-- **A login that succeeds hands the client the server that `StatusServer` selected, with the
user and the token of this call, if and only if the port of the server is `0`.** -/
theorem handsOver_iff (hagree : Agree services getUID status token route user password qt gate)
    (hsuccess : (route.call qt (reply gate (services.withStatus getUID status token))
      user password).success = true) :
    ∃ selected, selectedServer status = some selected ∧
      (HandsOver (getUID route.mod user).toInt token selected
        (route.call qt (reply gate (services.withStatus getUID status token)) user password) ↔
          LogicSystem.stoi selected.port = some 0) := by
  rw [call_reply services getUID status token route user password hagree] at hsuccess ⊢
  rw [handed] at hsuccess ⊢
  cases hselected : selectedServer status with
  | none =>
    rw [hselected] at hsuccess
    cases hsuccess
  | some selected =>
    rw [hselected] at hsuccess
    by_cases hok : checkError services route user password = .success
    · refine ⟨selected, rfl, ?_⟩
      simp only [if_pos hok]
      exact ⟨fun h => h.port, fun h => ⟨rfl, rfl, rfl, h⟩⟩
    · simp only [if_neg hok] at hsuccess
      cases hsuccess

/-- A gateway that takes every password. -/
def openServices : Services :=
  ⟨fun _ => none, fun _ => (0, ""), fun _ _ _ => 0, fun _ _ => 0, fun _ _ => 0, fun _ _ => 0,
    fun _ _ => 0, fun _ => ⟨0, "", "", ""⟩⟩

/-- A login by account of `alice`, whose number is `7`, with this configuration. -/
def aliceLogin (configured : List (String × String × String)) : HttpClient.LoginResult :=
  LoginRoute.account_login.call Json.compact
    (reply Json.compact (openServices.withStatus (fun _ _ => 7) (.init configured) "t"))
    "alice" "secret"

lemma aliceLogin_eq (configured : List (String × String × String)) : aliceLogin configured =
    handed openServices (fun _ _ => 7) (.init configured) "t" .account_login "alice" "secret" :=
  call_reply _ _ _ _ _ _ _ (agree_self _ _ _ _ _ _ _ Json.compact)

/-- The server at port `0` is handed over. -/
theorem handsOver_zero : ∃ selected,
    selectedServer (.init [("ChatServer1", "127.0.0.1", "0")]) = some selected ∧
      HandsOver 7 "t" selected (aliceLogin [("ChatServer1", "127.0.0.1", "0")]) := by
  have hsuccess : (aliceLogin [("ChatServer1", "127.0.0.1", "0")]).success = true := by
    rw [aliceLogin_eq]
    rfl
  obtain ⟨selected, hselected, hiff⟩ :=
    handsOver_iff (agree_self _ _ _ _ _ _ _ Json.compact) hsuccess
  refine ⟨selected, hselected, hiff.2 ?_⟩
  cases hselected
  decide

/-- The first of the servers that are shipped is not. -/
theorem not_handsOver : (aliceLogin shipped).success = true ∧ ∃ selected,
    selectedServer (.init shipped) = some selected ∧ selected.port = "8090" ∧
      (aliceLogin shipped).port = 0 ∧ ¬ HandsOver 7 "t" selected (aliceLogin shipped) := by
  rw [aliceLogin_eq]
  refine ⟨rfl, ⟨"127.0.0.1", "8090", "ChatServer1", 0⟩, rfl, rfl, rfl, fun h => ?_⟩
  have hport : LogicSystem.stoi "8090" = some 0 := h.port
  revert hport
  decide

end HandsOver

end GateServer

end WeChat
