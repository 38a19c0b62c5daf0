/-
# The login of the Qt client

`HttpClient` posts a JSON object to `GateServer` and hands what it finds in the reply to a
callback.  The conversions of Qt do not fail: a value of another type than the one asked for
reads as the default of that type.
-/
import WeChat.Lib.Json

namespace WeChat

open Wire Json

namespace HttpClient

/-! ## The conversions of `QJsonValue` -/

/-- `QJsonValue::toInt`: a number that an `int` holds, and `0` for every other value. -/
def toInt : Json → ℤ
  | .num n => if toInt32 n = n then n else 0
  | .real m e =>
    if 0 ≤ e then
      if toInt32 (m * 10 ^ e.toNat) = m * 10 ^ e.toNat then m * 10 ^ e.toNat else 0
    else
      let n := m / 10 ^ (-e).toNat
      if n * 10 ^ (-e).toNat = m ∧ toInt32 n = n then n else 0
  | _ => 0

/-- `QJsonValue::toString`. -/
def toString : Json → String
  | .str s => s
  | _ => ""

/-- `QJsonObject::operator[]`: a field that is missing converts as `null` does. -/
def field (response : List (String × Json)) (k : String) : Json := (response.lookup k).getD .null

/-! ## Requests -/

/-- The network: the body of the reply to a `POST` request, if the reply has no error. -/
abbrev Network := String → Bytes → Option Bytes

variable (codec : Codec) (network : Network)

/-- `HttpClient::onRequestFinished`: what the callback is called with. -/
def onRequestFinished (reply : Option Bytes) : Bool × List (String × Json) :=
  match reply.bind codec.parse with
  | some (.obj response) => (true, response)
  | _ => (false, [])

/-- `HttpClient::sendPostRequest`, up to the call of the callback. -/
def sendPostRequest {α : Type*} (path : String) (json : Json)
    (callback : Bool → List (String × Json) → α) : α :=
  let finished := onRequestFinished codec (network path (codec.dump json))
  callback finished.1 finished.2

/-! ## Login -/

/-- The arguments of the callback of a login. -/
structure LoginResult where
  success : Bool
  uid : ℤ
  token : String
  host : String
  port : ℤ
  userName : String
deriving DecidableEq

/-- The callback of `sendPostRequest` in both logins. -/
def loginCallback (success : Bool) (response : List (String × Json)) : LoginResult :=
  if success then
    if toInt (field response "error") = 0 then
      { success := true
        uid := toInt (field response "uid")
        token := toString (field response "token")
        host := toString (field response "host")
        port := toInt (field response "port")
        userName := toString (field response "userName") }
    else ⟨false, 0, "", "", 0, ""⟩
  else ⟨false, 0, "", "", 0, ""⟩

/-- `HttpClient::loginByAccount`. -/
def loginByAccount (userName password : String) : LoginResult :=
  sendPostRequest codec network "/account_login"
    (object [("user", .str userName), ("password", .str password)]) loginCallback

/-- `HttpClient::loginByEmail`. -/
def loginByEmail (email password : String) : LoginResult :=
  sendPostRequest codec network "/email_login"
    (object [("email", .str email), ("password", .str password)]) loginCallback

/-! ## What is read -/

@[simp] lemma toInt_int32 (n : Int32) : toInt (.num n.toInt) = n.toInt :=
  if_pos (toInt32_eq_self n.le_toInt n.toInt_lt)

@[simp] lemma toInt_str (s : String) : toInt (.str s) = 0 := rfl

@[simp] lemma toString_str (s : String) : toString (.str s) = s := rfl

@[simp] lemma toString_null : toString .null = "" := rfl

/-- A field of an object that was written is the last value assigned to it. -/
lemma field_ofFields (fields : List (String × Json)) (k : String) :
    field (ofFields fields) k = (fields.reverse.lookup k).getD .null := by
  rw [field, lookup_ofFields]

/-- An error code is not a login. -/
lemma loginCallback_error {response : List (String × Json)}
    (h : toInt (field response "error") ≠ 0) :
    loginCallback true response = ⟨false, 0, "", "", 0, ""⟩ := by
  rw [loginCallback, if_pos rfl, if_neg h]

variable {codec network}

/-- A reply that is the text of an object reaches the callback. -/
lemma sendPostRequest_object {α : Type*} {path : String} {json : Json} {reply : Bytes}
    {fields : List (String × Json)} {callback : Bool → List (String × Json) → α}
    (hreply : network path (codec.dump json) = some reply)
    (hparse : codec.parse reply = some (object fields)) :
    sendPostRequest codec network path json callback = callback true (ofFields fields) := by
  simp only [sendPostRequest, onRequestFinished, hreply, Option.bind_some, hparse, object]

end HttpClient

end WeChat
