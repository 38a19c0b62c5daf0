/-
# The handlers of the gateway

`GateServer` answers `GET` and `POST` requests.  The handlers of `POST` requests parse the body
and convert its fields to strings, and both throw; an exception that leaves a handler is `none`.
The other services are parameters: their clients catch what they throw, and hand back a code.
-/
import WeChat.Lib.Json
import WeChat.Chat.Const

namespace WeChat

open Wire Json

namespace GateServer

/-! ## Requests and responses -/

/-- What `handleRequest` tells apart in the verb of a request. -/
inductive Verb
  | get | post | other
deriving DecidableEq

structure Request where
  method : Verb
  target : String
  body : Bytes
deriving DecidableEq

/-- The text in the body of a response; a value is written as its `dump(4)`. -/
inductive Content
  | text (s : String)
  | json (root : Json)

structure Response where
  result : ℕ
  content_type : Option String
  server : Option String
  body : Content

/-- `GetChatServerRsp`. -/
structure GetChatServerRsp where
  error : ℤ
  host : String
  port : String
  token : String

/-- What the other services answer while a handler runs. -/
structure Services where
  /-- `RedisMgr::get`. -/
  get : String → Option String
  /-- The error code and the code of the answer of `VerifyGrpcClient::GetVerifyCode`. -/
  getVerifyCode : String → ℤ × String
  regUser : String → String → String → ℤ
  resetPassword : String → String → ℤ
  loginAcconut : String → String → ℤ
  loginEmail : String → String → ℤ
  getUID : ℤ → String → ℤ
  getChatServer : ℤ → GetChatServerRsp

/-! ## The handlers of `POST` requests -/

/-- A handler, once the body has been parsed. -/
abbrev HttpHandler := Services → Json → Option Json

/-- An answer that holds an error code only. -/
def errorRoot (error : ErrorCodes) : Json := object [("error", .num error.code)]

/-- The `switch` on the result of a call of `MySQLMgr`. -/
def resultError (error₁ error₂ error₃ : ErrorCodes) (result : ℤ) : ErrorCodes :=
  if result = -1 then error₁
  else if result = -2 then error₂
  else if result = -3 then error₃
  else .success

def codePrefix : String := "verifycode_"

/-- `/get_varifycode`. -/
def getVarifycode : HttpHandler := fun services src_root =>
  if src_root.contains "email" then do
    let email ← src_root.getStr "email"
    let codeReply := services.getVerifyCode email
    some (object [("email", .str email), ("error", .num codeReply.1), ("code", .str codeReply.2)])
  else some (errorRoot .errorJson)

/-- The first half of `/user_register` and `/reset_password`. -/
def withVerifyCode (services : Services) (src_root : Json)
    (handle : String → String → Option Json) : Option Json := do
  let email ← src_root.getStr "email"
  let verifyCode ← src_root.getStr "verifyCode"
  match services.get (codePrefix ++ email) with
  | none => some (errorRoot .verifyCodeExpired)
  | some value =>
    if verifyCode ≠ value then some (errorRoot .verifyCodeError) else handle email verifyCode

/-- `/user_register`. -/
def userRegister : HttpHandler := fun services src_root =>
  withVerifyCode services src_root fun email verifyCode => do
    let name ← src_root.getStr "user"
    let password ← src_root.getStr "password"
    let result := services.regUser name password email
    some (object [("error", .num (resultError .errNetwork .userExist .emailExist result).code),
      ("email", .str email), ("verifyCode", .str verifyCode), ("user", .str name),
      ("password", .str password)])

/-- `/reset_password`. -/
def resetPassword : HttpHandler := fun services src_root =>
  withVerifyCode services src_root fun email verifyCode => do
    let password ← src_root.getStr "password"
    let result := services.resetPassword email password
    some (object
      [("error", .num (resultError .errNetwork .emailNotExist .passwordSame result).code),
        ("email", .str email), ("verifyCode", .str verifyCode), ("password", .str password)])

/-- The body of the two login handlers: `field` names the user, and `mod` tells `getUID` how. -/
def login (field : String) (missing : ErrorCodes) (mod : ℤ)
    (check : Services → String → String → ℤ) : HttpHandler := fun services src_root => do
  let user ← src_root.getStr field
  let password ← src_root.getStr "password"
  let error := resultError .errMysql missing .passwordError (check services user password)
  let server :=
    if error = .success then
      let uid := services.getUID mod user
      let respond := services.getChatServer uid
      ("uid", .num uid) ::
        if respond.error ≠ ErrorCodes.success.code then [("error", .num respond.error)]
        else [("token", .str respond.token), ("host", .str respond.host),
          ("port", .str respond.port)]
    else []
  some (object (("error", .num error.code) :: server ++
    [(field, .str user), ("password", .str password)]))

/-- `/account_login`. -/
def accountLogin : HttpHandler := login "user" .userNotExist 1 Services.loginAcconut

/-- `/email_login`. -/
def emailLogin : HttpHandler := login "email" .emailNotExist 0 Services.loginEmail

/-- `_postHandlers`. -/
def postHandlers : List (String × HttpHandler) :=
  [("/get_varifycode", getVarifycode), ("/user_register", userRegister),
    ("/reset_password", resetPassword), ("/account_login", accountLogin),
    ("/email_login", emailLogin)]

/-- What every handler does first: the body is parsed, and `null` is refused. -/
def parsed (handler : HttpHandler) (services : Services) : Option Json → Option Json
  | none => none
  | some .null => some (errorRoot .errorJson)
  | some src_root => handler services src_root

/-! ## One request -/

/-- `LogicSystem::handleGet`, which is `none` when there is no handler. -/
def handleGet (path : String) : Option Content :=
  if path = "/get_test" then some (.text "receive get_test request") else none

/-- `LogicSystem::handlePost`, which is `none` when there is no handler, and `some none` when
the handler throws. -/
def handlePost (codec : Codec) (services : Services) (path : String) (body : Bytes) :
    Option (Option Content) :=
  (postHandlers.lookup path).map fun handler =>
    (parsed handler services (codec.parse body)).map .json

/-- The response of the worker when there is no handler. -/
def notFound : Response := ⟨404, some "text/plain", none, .text "url not found\r\n"⟩

/-- What the worker does with the result of `handleGet` or `handlePost`; it is `none` when an
exception leaves the worker. -/
def responseTo (codec : Codec) (services : Services) (path : String) (isGet : Bool)
    (body : Bytes) : Option Response :=
  if isGet then
    match handleGet path with
    | some content => some ⟨200, none, some "GateServer", content⟩
    | none => some notFound
  else
    match handlePost codec services path body with
    | some content => content.map fun content =>
      ⟨200, some "text/json", some "GateServer", content⟩
    | none => some notFound

/-! ## Which bodies are handled -/

/-- The string fields that a handler reads. -/
def expectedFields : List (String × List String) :=
  [("/get_varifycode", ["email"]), ("/user_register", ["email", "verifyCode", "user", "password"]),
    ("/reset_password", ["email", "verifyCode", "password"]),
    ("/account_login", ["user", "password"]), ("/email_login", ["email", "password"])]

/-- The body is an object with these string fields. -/
def HasFields (fields : List String) (body : Option Json) : Prop :=
  ∃ o, body = some (.obj o) ∧ ∀ k ∈ fields, ((Json.obj o).getStr k).isSome

/-- `ERROR_JSON` is the error code of an answer. -/
def IsErrorJson (root : Json) : Prop := root.getInt "error" = some ErrorCodes.errorJson.code

/-- The response to a `POST` request whose body lacks the fields that the handler of its target
reads says so. -/
def Refuses (codec : Codec) (request : Request) (response : Response) : Prop :=
  request.method = .post → ∀ fields, expectedFields.lookup request.target = some fields →
    ¬ HasFields fields (codec.parse request.body) →
      ∃ root, response.body = .json root ∧ IsErrorJson root

/-- The requests that get a right response: every `GET`, and a `POST` for a target without a
handler, with a body that has the fields, with the body `null`, and with a value without `email`
for `/get_varifycode`. -/
def Handled (codec : Codec) (request : Request) : Prop :=
  request.method = .get ∨ request.method = .post ∧
    ∀ fields, expectedFields.lookup request.target = some fields →
      HasFields fields (codec.parse request.body) ∨ codec.parse request.body = some .null ∨
        request.target = "/get_varifycode" ∧
          ∃ src_root, codec.parse request.body = some src_root ∧ src_root.contains "email" = false

section Handled

variable {services : Services} {src_root root : Json} {fields : List String}

/-- A string field is read from an object. -/
lemma exists_obj_of_getStr {k : String} (h : (src_root.getStr k).isSome) :
    ∃ o, src_root = .obj o := by
  cases src_root with
  | obj o => exact ⟨o, rfl⟩
  | null => exact absurd h (by simp [getStr, Json.get, toStr])
  | bool b => cases h
  | num n => cases h
  | real m e => cases h
  | str s => cases h
  | arr items => cases h

lemma hasFields_iff (hne : fields ≠ []) :
    HasFields fields (some src_root) ↔ ∀ k ∈ fields, (src_root.getStr k).isSome := by
  constructor
  · rintro ⟨o, ho, hfields⟩
    obtain rfl := Option.some.inj ho
    exact hfields
  · intro hfields
    obtain ⟨k, hk⟩ := List.exists_mem_of_ne_nil fields hne
    obtain ⟨o, rfl⟩ := exists_obj_of_getStr (hfields k hk)
    exact ⟨o, rfl, hfields⟩

lemma getInt_errorRoot (error : ErrorCodes) :
    (errorRoot error).getInt "error" = some (toInt32 error.code) := rfl

lemma not_isErrorJson_errorRoot {error : ErrorCodes} (h : error ≠ .errorJson) :
    ¬ IsErrorJson (errorRoot error) := by
  rw [IsErrorJson, getInt_errorRoot]
  cases error <;> first | exact absurd rfl h | decide

/-- A handler that answers a value with the fields, and does not say `ERROR_JSON` to one
without. -/
structure Strict (handler : HttpHandler) (fields : List String) : Prop where
  ne_nil : fields ≠ []
  answers : ∀ services src_root, (∀ k ∈ fields, (src_root.getStr k).isSome) →
    (handler services src_root).isSome
  refuses : ∀ services src_root root, handler services src_root = some root →
    (∀ k ∈ fields, (src_root.getStr k).isSome) ∨ ¬ IsErrorJson root

lemma strict_login {field : String} {missing : ErrorCodes} {mod : ℤ}
    {check : Services → String → String → ℤ} :
    Strict (login field missing mod check) [field, "password"] := by
  refine ⟨by simp, fun services src_root h => ?_, fun services src_root root h => .inl ?_⟩
  · obtain ⟨user, huser⟩ := Option.isSome_iff_exists.1 (h field (by simp))
    obtain ⟨password, hpassword⟩ := Option.isSome_iff_exists.1 (h "password" (by simp))
    simp [login, huser, hpassword]
  · simp only [login, Option.bind_eq_bind, Option.bind_eq_some_iff] at h
    obtain ⟨user, huser, password, hpassword, -⟩ := h
    simp [huser, hpassword]

/-- The handlers that ask for a verification code. -/
lemma strict_withVerifyCode {handler : HttpHandler} {rest : List String}
    {handle : Services → Json → String → String → Option Json}
    (hhandler : ∀ services src_root, handler services src_root =
      withVerifyCode services src_root (handle services src_root))
    (hhandle : ∀ services src_root email verifyCode,
      (handle services src_root email verifyCode).isSome ↔
        ∀ k ∈ rest, (src_root.getStr k).isSome) :
    Strict handler (["email", "verifyCode"] ++ rest) := by
  refine ⟨by simp, fun services src_root h => ?_, fun services src_root root h => ?_⟩
  · obtain ⟨email, hemail⟩ := Option.isSome_iff_exists.1 (h "email" (by simp))
    obtain ⟨verifyCode, hcode⟩ := Option.isSome_iff_exists.1 (h "verifyCode" (by simp))
    have hrest := (hhandle services src_root email verifyCode).2 fun k hk =>
      h k (List.mem_append_right _ hk)
    simp only [hhandler, withVerifyCode, hemail, hcode, Option.bind_eq_bind, Option.bind_some]
    split
    · rfl
    · split_ifs
      · rfl
      · exact hrest
  · simp only [hhandler, withVerifyCode, Option.bind_eq_bind, Option.bind_eq_some_iff] at h
    obtain ⟨email, hemail, verifyCode, hcode, h⟩ := h
    split at h
    · obtain rfl := Option.some.inj h
      exact .inr (not_isErrorJson_errorRoot (by decide))
    · split_ifs at h
      · obtain rfl := Option.some.inj h
        exact .inr (not_isErrorJson_errorRoot (by decide))
      · -- the code is right, so the other fields are read too
        have hrest := (hhandle services src_root email verifyCode).1 (by rw [h]; rfl)
        refine .inl fun k hk => ?_
        rcases List.mem_append.1 hk with hk | hk
        · simp only [List.mem_cons, List.not_mem_nil, or_false] at hk
          rcases hk with rfl | rfl
          · rw [hemail]
            rfl
          · rw [hcode]
            rfl
        · exact hrest k hk

lemma strict_userRegister :
    Strict userRegister ["email", "verifyCode", "user", "password"] := by
  refine strict_withVerifyCode (fun services src_root => rfl) fun services src_root e v => ?_
  cases huser : src_root.getStr "user" <;> cases hpassword : src_root.getStr "password" <;>
    simp [huser, hpassword]

lemma strict_resetPassword :
    Strict resetPassword ["email", "verifyCode", "password"] := by
  refine strict_withVerifyCode (fun services src_root => rfl) fun services src_root e v => ?_
  cases hpassword : src_root.getStr "password" <;> simp [hpassword]

/-- A handler with its body meets what is asked of it. -/
def Meets (handler : HttpHandler) (services : Services) (fields : List String)
    (body : Option Json) : Prop :=
  ∃ root, parsed handler services body = some root ∧
    (¬ HasFields fields body → IsErrorJson root)

lemma meets_null (handler : HttpHandler) : Meets handler services fields (some .null) :=
  ⟨_, rfl, fun _ => rfl⟩

lemma Strict.meets_iff {handler : HttpHandler} (h : Strict handler fields)
    (services : Services) (body : Option Json) :
    Meets handler services fields body ↔ HasFields fields body ∨ body = some .null := by
  constructor
  · rintro ⟨root, hroot, hrefuses⟩
    cases body with
    | none => cases hroot
    | some src_root =>
      by_cases hnull : src_root = .null
      · exact .inr (by rw [hnull])
      · have hhandler : handler services src_root = some root := by
          cases src_root with
          | null => exact absurd rfl hnull
          | _ => exact hroot
        rcases h.refuses services src_root root hhandler with hfields | hnot
        · exact .inl ((hasFields_iff h.ne_nil).2 hfields)
        · exact .inl (not_not.1 fun hfields => hnot (hrefuses hfields))
  · rintro (hfields | rfl)
    · obtain ⟨o, rfl, hread⟩ := hfields
      obtain ⟨root, hroot⟩ := Option.isSome_iff_exists.1 (h.answers services (.obj o) hread)
      exact ⟨root, hroot, fun hnot => absurd ⟨o, rfl, hread⟩ hnot⟩
    · exact meets_null handler

/-- `/get_varifycode` looks whether the field is there before it reads it. -/
lemma meets_getVarifycode_iff (services : Services) (body : Option Json) :
    Meets getVarifycode services ["email"] body ↔ HasFields ["email"] body ∨ body = some .null ∨
      ∃ src_root, body = some src_root ∧ src_root.contains "email" = false := by
  cases body with
  | none =>
    refine iff_of_false ?_ ?_
    · rintro ⟨root, hroot, -⟩
      cases hroot
    · rintro (⟨o, ho, -⟩ | ho | ⟨src_root, ho, -⟩) <;> cases ho
  | some src_root =>
    by_cases hnull : src_root = .null
    · subst hnull
      exact iff_of_true (meets_null _) (.inr (.inl rfl))
    · have hparsed : parsed getVarifycode services (some src_root) =
          getVarifycode services src_root := by
        cases src_root with
        | null => exact absurd rfl hnull
        | _ => rfl
      rw [Meets, hparsed]
      cases hcontains : src_root.contains "email" with
      | false =>
        refine iff_of_true ⟨errorRoot .errorJson, ?_, fun _ => rfl⟩
          (.inr (.inr ⟨src_root, rfl, hcontains⟩))
        simp [getVarifycode, hcontains]
      | true =>
        have hhandler : (getVarifycode services src_root).isSome ↔
            HasFields ["email"] (some src_root) := by
          rw [hasFields_iff (List.cons_ne_nil _ _), List.forall_mem_singleton]
          cases hemail : src_root.getStr "email" <;> simp [getVarifycode, hcontains, hemail]
        constructor
        · rintro ⟨root, hroot, -⟩
          exact .inl (hhandler.1 (by rw [hroot]; rfl))
        · rintro (hfields | hnull' | ⟨_, heq, hnot⟩)
          · obtain ⟨root, hroot⟩ := Option.isSome_iff_exists.1 (hhandler.2 hfields)
            exact ⟨root, hroot, fun hnot => absurd hfields hnot⟩
          · exact absurd (Option.some.inj hnull') hnull
          · rw [← Option.some.inj heq, hcontains] at hnot
            cases hnot

/-- The handler of a target, with the fields that it reads. -/
lemma handler_cases (path : String) :
    (postHandlers.lookup path = none ∧ expectedFields.lookup path = none) ∨
    (path = "/get_varifycode" ∧ postHandlers.lookup path = some getVarifycode ∧
      expectedFields.lookup path = some ["email"]) ∨
    path ≠ "/get_varifycode" ∧ ∃ handler fields, postHandlers.lookup path = some handler ∧
      expectedFields.lookup path = some fields ∧ Strict handler fields := by
  simp only [postHandlers, expectedFields, List.lookup_cons, List.lookup_nil]
  by_cases h₁ : path = "/get_varifycode"
  · subst h₁
    exact .inr (.inl ⟨rfl, rfl, rfl⟩)
  rw [beq_false_of_ne h₁]
  by_cases h₂ : path = "/user_register"
  · subst h₂
    exact .inr (.inr ⟨h₁, _, _, rfl, rfl, strict_userRegister⟩)
  rw [beq_false_of_ne h₂]
  by_cases h₃ : path = "/reset_password"
  · subst h₃
    exact .inr (.inr ⟨h₁, _, _, rfl, rfl, strict_resetPassword⟩)
  rw [beq_false_of_ne h₃]
  by_cases h₄ : path = "/account_login"
  · subst h₄
    exact .inr (.inr ⟨h₁, _, _, rfl, rfl, strict_login⟩)
  rw [beq_false_of_ne h₄]
  by_cases h₅ : path = "/email_login"
  · subst h₅
    exact .inr (.inr ⟨h₁, _, _, rfl, rfl, strict_login⟩)
  rw [beq_false_of_ne h₅]
  exact .inl ⟨rfl, rfl⟩

/-- The response to a `POST` request for a target with a handler. -/
lemma responseTo_post_iff {codec : Codec} {request : Request} {handler : HttpHandler}
    (hmethod : request.method = .post)
    (hhandler : postHandlers.lookup request.target = some handler)
    (hfields : expectedFields.lookup request.target = some fields) :
    (∃ response, responseTo codec services request.target false request.body = some response ∧
      Refuses codec request response) ↔
      Meets handler services fields (codec.parse request.body) := by
  have hresponse : responseTo codec services request.target false request.body =
      (parsed handler services (codec.parse request.body)).map fun root =>
        ⟨200, some "text/json", some "GateServer", .json root⟩ := by
    simp only [responseTo, handlePost, hhandler, Option.map_some, Bool.false_eq_true, if_false,
      Option.map_map]
    rfl
  rw [hresponse]
  constructor
  · rintro ⟨response, hsome, hrefuses⟩
    obtain ⟨root, hroot, rfl⟩ := Option.map_eq_some_iff.1 hsome
    refine ⟨root, hroot, fun hnot => ?_⟩
    obtain ⟨root', hbody, herror⟩ := hrefuses hmethod fields hfields hnot
    rw [Content.json.inj hbody]
    exact herror
  · rintro ⟨root, hroot, herror⟩
    refine ⟨_, by rw [hroot]; rfl, fun _ fields' hfields' hnot => ⟨root, rfl, ?_⟩⟩
    obtain rfl := Option.some.inj (hfields.symm.trans hfields')
    exact herror hnot

/-- **A `GET` or `POST` request gets a response, and one that refuses a body without the fields,
if and only if it is one of those that are handled.** -/
theorem responseTo_iff {codec : Codec} {request : Request} (services : Services)
    (hmethod : request.method ≠ .other) :
    (∃ response, responseTo codec services request.target (request.method = .get) request.body =
      some response ∧ Refuses codec request response) ↔ Handled codec request := by
  cases hverb : request.method with
  | other => exact absurd hverb hmethod
  | get =>
    have hvacuous : ∀ response, Refuses codec request response := fun response hpost =>
      nomatch hverb.symm.trans hpost
    refine iff_of_true ?_ (.inl hverb)
    simp only [responseTo, decide_true, if_true]
    cases handleGet request.target with
    | none => exact ⟨_, rfl, hvacuous _⟩
    | some content => exact ⟨_, rfl, hvacuous _⟩
  | post =>
    have hnot : request.method ≠ .get := fun hget => nomatch hverb.symm.trans hget
    rw [Handled, or_iff_right hnot, and_iff_right hverb,
      show decide (Verb.post = Verb.get) = false from rfl]
    rcases handler_cases request.target with ⟨hnone, hfields⟩ | ⟨htarget, hhandler, hfields⟩ |
      ⟨htarget, handler, fields, hhandler, hfields, hstrict⟩
    · refine iff_of_true ⟨notFound, ?_, fun _ fields hsome => ?_⟩ fun fields hsome => ?_
      · simp [responseTo, handlePost, hnone]
      · rw [hfields] at hsome
        cases hsome
      · rw [hfields] at hsome
        cases hsome
    · rw [responseTo_post_iff hverb hhandler hfields, meets_getVarifycode_iff]
      constructor
      · intro hmeets fields hsome
        obtain rfl := Option.some.inj (hfields.symm.trans hsome)
        exact hmeets.imp_right (Or.imp_right fun h => ⟨htarget, h⟩)
      · intro hhandled
        exact (hhandled _ hfields).imp_right (Or.imp_right And.right)
    · rw [responseTo_post_iff hverb hhandler hfields, hstrict.meets_iff]
      constructor
      · intro hmeets fields' hsome
        obtain rfl := Option.some.inj (hfields.symm.trans hsome)
        exact hmeets.imp_right .inl
      · intro hhandled
        exact (hhandled _ hfields).imp_right (Or.resolve_right · fun h => htarget h.1)

end Handled

end GateServer

end WeChat
