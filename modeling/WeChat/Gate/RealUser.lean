/-
# The user of a login

The two login handlers check the password, look up the number of the user and ask `StatusServer`
for a token, one after the other.  The look-up hands back `-1` or `-2` when it fails, as the check
does, but the handler takes whatever it hands back for the number of the user.
-/
import WeChat.Gate.Literals
import WeChat.Gate.Login
import WeChat.Lib.Table

namespace WeChat

open Wire Json Relational Sql StatusServiceImpl

namespace GateServer

/-- What a login meets: the database, with the sessions that the check, its query for the user and
`getUID` get, and `StatusServer` with the token that it would draw, when it answers. -/
structure Backends where
  server : Server
  session : ℕ → Bool
  users : AutoTable Account.id
  status : Option Service
  token : String

namespace Backends

variable (b : Backends)

/-- The check of the password. -/
def call : Call := ⟨b.server, b.session, fun _ => b.users.rows⟩

/-- `StatusGrpcClient::getChatServer`. -/
def getChatServer (uid : ℤ) : GateServer.GetChatServerRsp :=
  match b.status with
  | some status => StatusGrpcClient.getChatServer status b.token uid
  | none => ⟨ErrorCodes.rpcFailed.code, "", "", ""⟩

/-- The services of a gateway with these ones for a login. -/
def services (others : Services) : Services :=
  { others with
    loginAcconut := MySQLMgr.loginAcconut b.call
    loginEmail := MySQLMgr.loginEmail b.call
    getUID := MySQLMgr.getUID b.server (b.session 2) 2 b.users.rows
    getChatServer := b.getChatServer }

/-- `StatusServer` has drawn this token for the user, and keeps it under the key of the user. -/
def Issued (uid : ℤ) (token : String) : Prop :=
  ∃ status respond after, b.status = some status ∧
    status.getChatServer uid b.token = some (respond, after) ∧ respond.token = token ∧
      Redis.get after.redis (tokenKey uid) = .string token

/-- `StatusServer` answers, and has a chat server. -/
def Answers : Prop := ∃ status, b.status = some status ∧ selectedServer status ≠ none

end Backends

namespace LoginRoute

/-- The column that the given name is looked up in. -/
def column : LoginRoute → Column
  | account_login => .name
  | email_login => .email

/-- The statement that looks whether the user exists. -/
def text : LoginRoute → String → String
  | account_login => MySQLMgr.queryUserText
  | email_login => MySQLMgr.queryEmailText

lemma column_mod (route : LoginRoute) :
    (if route.mod = 0 then Column.email else Column.name) = route.column := by
  cases route <;> rfl

lemma check_services (route : LoginRoute) (b : Backends) (others : Services)
    (user password : String) : route.check (b.services others) user password =
      MySQLMgr.checkPassword b.call
        (MySQLMgr.query b.server (b.session 1) 0 b.users.rows (route.text user)) route.column user
        password := by
  cases route <;> rfl

end LoginRoute

/-! ## What is asked of a login -/

/-- The answer has the number of a user with this name and password, and a token that was issued
for this user. -/
def Backends.NamesUser (b : Backends) (route : LoginRoute) (user password : String)
    (root : Json) : Prop :=
  ∃ a ∈ b.users.rows, (b.server.Matches route.column user a ∧ a.password = password) ∧
    0 < a.id ∧ root.get "uid" = some (.num a.id) ∧
      ∃ token, root.get "token" = some (.str token) ∧ b.Issued a.id token

/-- An answer to this body with error `0` names a user. -/
def LoginNamesUser (codec : Codec) (others : Services) (b : Backends) (route : LoginRoute)
    (body : Bytes) : Prop :=
  ∀ response root, responseTo codec (b.services others) route.path false body = some response →
    response.body = .json root → root.get "error" = some (.num 0) →
      ∃ src_root user password, codec.parse body = some src_root ∧
        src_root.getStr route.field = some user ∧ src_root.getStr "password" = some password ∧
          b.NamesUser route user password root

/-- The check gets its sessions, finds the user, and reads a row with the password. -/
structure Backends.Accepts (b : Backends) (route : LoginRoute) (user password : String) :
    Prop where
  session : b.session 0 = true ∧ b.session 1 = true
  existing : ∃ row rows,
    b.server.execute 0 (route.text user) b.users.rows = some (row :: rows)
  password : ∃ row rows, b.server.select 1 route.column user b.users.rows = some (row :: rows) ∧
    row.password = password

/-- `getUID` gets its session, and reads a row with the password, too. -/
structure Backends.FindsAgain (b : Backends) (route : LoginRoute) (user password : String) :
    Prop where
  session : b.session 2 = true
  password : ∃ row rows, b.server.select 2 route.column user b.users.rows = some (row :: rows) ∧
    row.password = password

/-- Where the check accepts the fields of the body and `StatusServer` answers, `getUID` finds the
user again. -/
def FindsUser (codec : Codec) (b : Backends) (route : LoginRoute) (body : Bytes) : Prop :=
  ∀ src_root user password, codec.parse body = some src_root →
    src_root.getStr route.field = some user → src_root.getStr "password" = some password →
      b.Accepts route user password → b.Answers → b.FindsAgain route user password

/-! ## The three calls -/

namespace Backends

variable {b : Backends} {others : Services} {route : LoginRoute} {user password token : String}
  {uid : ℤ} {src_root root : Json}

lemma query_iff (session : Bool) (i : ℕ) (text : String) :
    MySQLMgr.query b.server session i b.users.rows text = true ↔
      session = true ∧ ∃ row rows, b.server.execute i text b.users.rows = some (row :: rows) := by
  cases session with
  | false => simp [MySQLMgr.query]
  | true =>
    rw [and_iff_right rfl]
    cases hrows : b.server.execute i text b.users.rows with
    | none => simp [MySQLMgr.query, hrows]
    | some rows =>
      rw [MySQLMgr.query_eq_true_iff hrows, List.ne_nil_iff_exists_cons]
      simp

lemma checkError_eq_success_iff (others : Services) :
    checkError (b.services others) route user password = .success ↔
      b.Accepts route user password := by
  have hmissing : route.missing ≠ .success := by cases route <;> decide
  have hsplit : b.Accepts route user password ↔ b.session 0 = true ∧
      MySQLMgr.query b.server (b.session 1) 0 b.users.rows (route.text user) = true ∧
        ∃ row rows, b.server.select 1 route.column user b.users.rows = some (row :: rows) ∧
          row.password = password := by
    rw [query_iff]
    constructor
    · rintro ⟨⟨h0, h1⟩, hrow, hread⟩
      exact ⟨h0, ⟨h1, hrow⟩, hread⟩
    · rintro ⟨h0, ⟨h1, hrow⟩, hread⟩
      exact ⟨⟨h0, h1⟩, hrow, hread⟩
  rw [hsplit, checkError, route.check_services]
  generalize MySQLMgr.query b.server (b.session 1) 0 b.users.rows (route.text user) = existing
  have hsession : b.call.session 0 = b.session 0 := rfl
  cases h0 : b.session 0 with
  | false => simp [MySQLMgr.checkPassword, hsession, h0, resultError]
  | true =>
    cases existing with
    | false => simp [MySQLMgr.checkPassword, hsession, h0, resultError, hmissing]
    | true =>
      have hselect : b.call.server.select 1 route.column user (b.call.accounts 1) =
        b.server.select 1 route.column user b.users.rows := rfl
      simp only [MySQLMgr.checkPassword, hsession, h0, hselect, if_true, true_and]
      cases b.server.select 1 route.column user b.users.rows with
      | none => simp [resultError]
      | some rows =>
        cases rows with
        | nil => simp [resultError]
        | cons row rows =>
          by_cases hpassword : password = row.password
          · simp [resultError, hpassword]
          · simp [resultError, hpassword, Ne.symm hpassword]

lemma issued_iff : b.Issued uid token ↔ b.Answers ∧ token = b.token := by
  constructor
  · rintro ⟨status, respond, after, hstatus, hcall, rfl, -⟩
    rw [Service.getChatServer, Option.map_eq_some_iff] at hcall
    obtain ⟨chosen, hchosen, hcall⟩ := hcall
    obtain ⟨rfl, -⟩ := Prod.mk.inj hcall
    refine ⟨⟨status, hstatus, ?_⟩, rfl⟩
    rw [selectedServer, hchosen]
    exact Option.some_ne_none _
  · rintro ⟨⟨status, hstatus, hselected⟩, rfl⟩
    rw [selectedServer, Ne, Option.map_eq_none_iff] at hselected
    obtain ⟨chosen, hchosen⟩ := Option.ne_none_iff_exists'.1 hselected
    refine ⟨status, _, _, hstatus, by rw [Service.getChatServer, hchosen]; rfl, rfl, ?_⟩
    simp [Redis.get, Redis.set]

/-- `getUID` hands back the number of a user when the first row that it reads is this one. -/
lemma getUID_eq_iff {a : Account} (ha : a ∈ b.users.rows) :
    MySQLMgr.getUID b.server (b.session 2) 2 b.users.rows route.mod user = a.id ↔
      b.session 2 = true ∧
        ∃ rows, b.server.select 2 route.column user b.users.rows = some (a :: rows) := by
  have hpos := b.users.key_pos a ha
  rw [MySQLMgr.getUID, route.column_mod]
  cases b.session 2 with
  | false =>
    refine iff_of_false ?_ (by simp)
    show ¬ (-1 : ℤ) = a.id
    omega
  | true =>
    rw [if_pos rfl, and_iff_right rfl]
    cases hselect : b.server.select 2 route.column user b.users.rows with
    | none =>
      refine iff_of_false ?_ (by simp)
      show ¬ (-1 : ℤ) = a.id
      omega
    | some rows =>
      cases rows with
      | nil =>
        refine iff_of_false ?_ (by simp)
        show ¬ (-2 : ℤ) = a.id
        omega
      | cons row rows =>
        have hrow := (MySQLMgr.mem_select hselect).1
        show row.id = a.id ↔ _
        constructor
        · intro hid
          obtain rfl := b.users.eq_of_key_eq hrow ha hid
          exact ⟨rows, rfl⟩
        · rintro ⟨rows', heq⟩
          obtain ⟨rfl, -⟩ := List.cons.inj (Option.some.inj heq)
          rfl

/-- A handler that finds the fields answers with error `0` exactly when the check accepts them
and `StatusServer` answers, and then with what `getUID` handed back. -/
lemma login_services (others : Services) (huser : src_root.getStr route.field = some user)
    (hpassword : src_root.getStr "password" = some password) :
    ∃ root, login route.field route.missing route.mod route.check (b.services others) src_root =
        some root ∧
      (root.get "error" = some (.num 0) ↔ b.Accepts route user password ∧ b.Answers) ∧
      (b.Accepts route user password → b.Answers →
        root.get "uid" = some (.num
          (MySQLMgr.getUID b.server (b.session 2) 2 b.users.rows route.mod user)) ∧
        root.get "token" = some (.str b.token)) := by
  have hfield : route.field ≠ "error" ∧ route.field ≠ "uid" ∧ route.field ≠ "token" := by
    cases route <;> decide
  obtain ⟨herror, huid, htoken⟩ := hfield
  have hcheck : resultError .errMysql route.missing .passwordError
      (route.check (b.services others) user password) =
        checkError (b.services others) route user password := rfl
  have hserver : ∀ uid, (b.services others).getChatServer uid =
      (b.status.bind selectedServer).elim ⟨ErrorCodes.rpcFailed.code, "", "", ""⟩ fun selected =>
        ⟨ErrorCodes.success.code, selected.host, selected.port, b.token⟩ := by
    intro uid
    show b.getChatServer uid = _
    rw [getChatServer]
    cases b.status with
    | none => rfl
    | some status =>
      rw [Option.bind_some]
      refine (StatusGrpcClient.getChatServer_eq status b.token uid).trans ?_
      cases selectedServer status <;> rfl
  have hanswers : b.Answers ↔ b.status.bind selectedServer ≠ none := by
    rw [Answers]
    cases b.status <;> simp
  have hnum : (b.services others).getUID route.mod user =
    MySQLMgr.getUID b.server (b.session 2) 2 b.users.rows route.mod user := rfl
  rw [← checkError_eq_success_iff others, hanswers]
  simp only [login, huser, hpassword, Option.bind_eq_bind, Option.bind_some, hcheck, hserver,
    hnum]
  refine ⟨_, rfl, ?_⟩
  by_cases hok : checkError (b.services others) route user password = .success
  · cases b.status.bind selectedServer with
    | none => simp [hok, get_object, lookup_cons_ite, herror.symm, ErrorCodes.code]
    | some selected =>
      simp [hok, get_object, lookup_cons_ite, herror.symm, huid.symm, htoken.symm,
        ErrorCodes.code]
  · simp [hok, get_object, lookup_cons_ite, herror.symm, ErrorCodes.code_eq_zero_iff]

/-- Such an answer names a user exactly when `getUID` finds the user again. -/
lemma namesUser_iff (huid : root.get "uid" = some (.num
      (MySQLMgr.getUID b.server (b.session 2) 2 b.users.rows route.mod user)))
    (htoken : root.get "token" = some (.str b.token)) (hanswers : b.Answers) :
    b.NamesUser route user password root ↔ b.FindsAgain route user password := by
  constructor
  · rintro ⟨a, ha, ⟨-, hpassword⟩, -, hnum, -⟩
    have hid := Json.num.inj (Option.some.inj (huid.symm.trans hnum))
    obtain ⟨hsession, rows, hselect⟩ := (getUID_eq_iff ha).1 hid
    exact ⟨hsession, a, rows, hselect, hpassword⟩
  · rintro ⟨hsession, a, rows, hselect, hpassword⟩
    obtain ⟨ha, hmatches⟩ := MySQLMgr.mem_select hselect
    refine ⟨a, ha, ⟨hmatches, hpassword⟩, b.users.key_pos a ha, ?_, b.token, htoken,
      issued_iff.2 ⟨hanswers, rfl⟩⟩
    rw [huid, (getUID_eq_iff ha).2 ⟨hsession, rows, hselect⟩]

end Backends

/-! ## The answer -/

lemma responseTo_path (codec : Codec) (services : Services) (route : LoginRoute) (body : Bytes) :
    responseTo codec services route.path false body =
      (parsed (login route.field route.missing route.mod route.check) services
        (codec.parse body)).map fun root =>
          ⟨200, some "text/json", some "GateServer", .json root⟩ := by
  simp only [responseTo, handlePost, route.lookup_path, Option.map_some, Option.map_map,
    Bool.false_eq_true, if_false]
  rfl

lemma parsed_of_getStr {services : Services} {handler : HttpHandler} {src_root : Json}
    {k s : String} (h : src_root.getStr k = some s) :
    parsed handler services (some src_root) = handler services src_root := by
  obtain ⟨o, rfl⟩ := exists_obj_of_getStr (Option.isSome_iff_exists.2 ⟨s, h⟩)
  rfl

section LoginNamesUser

variable {codec : Codec} {others : Services} {b : Backends} {route : LoginRoute} {body : Bytes}

/-- The body of an answer with error `0` has the fields, and the check accepts them. -/
lemma exists_fields {response : Response} {root : Json}
    (hresponse : responseTo codec (b.services others) route.path false body = some response)
    (hbody : response.body = .json root) (herror : root.get "error" = some (.num 0)) :
    ∃ src_root user password, codec.parse body = some src_root ∧
      src_root.getStr route.field = some user ∧ src_root.getStr "password" = some password ∧
        login route.field route.missing route.mod route.check (b.services others) src_root =
          some root := by
  rw [responseTo_path, Option.map_eq_some_iff] at hresponse
  obtain ⟨root', hroot, rfl⟩ := hresponse
  obtain rfl := Content.json.inj hbody
  cases hparse : codec.parse body with
  | none =>
    rw [hparse] at hroot
    cases hroot
  | some src_root =>
    rw [hparse] at hroot
    by_cases hnull : src_root = .null
    · -- `null` is answered with another error
      subst hnull
      obtain rfl := Option.some.inj hroot
      have hcode : ErrorCodes.errorJson.code = 0 := Json.num.inj (Option.some.inj herror)
      exact absurd hcode (by decide)
    · have hlogin : login route.field route.missing route.mod route.check (b.services others)
          src_root = some root' := by
        cases src_root with
        | null => exact absurd rfl hnull
        | _ => exact hroot
      have hfields : ∀ k ∈ [route.field, "password"], (src_root.getStr k).isSome := by
        simp only [login, Option.bind_eq_bind, Option.bind_eq_some_iff] at hlogin
        obtain ⟨user, huser, password, hpassword, -⟩ := hlogin
        simp [huser, hpassword]
      obtain ⟨user, huser⟩ := Option.isSome_iff_exists.1 (hfields route.field (by simp))
      obtain ⟨password, hpassword⟩ := Option.isSome_iff_exists.1 (hfields "password" (by simp))
      exact ⟨src_root, user, password, rfl, huser, hpassword, hlogin⟩

/-- `getUID` finds the user of an answer that names one. -/
lemma LoginNamesUser.findsUser (h : LoginNamesUser codec others b route body) :
    FindsUser codec b route body := by
  intro src_root user password hparse huser hpassword haccepts hanswers
  obtain ⟨root, hlogin, herror, hfields⟩ := Backends.login_services others huser hpassword
  obtain ⟨huid, htoken⟩ := hfields haccepts hanswers
  have hresponse : responseTo codec (b.services others) route.path false body =
      some ⟨200, some "text/json", some "GateServer", .json root⟩ := by
    rw [responseTo_path, hparse, parsed_of_getStr huser, hlogin, Option.map_some]
  obtain ⟨src_root', user', password', hparse', huser', hpassword', hnames⟩ :=
    h _ root hresponse rfl (herror.2 ⟨haccepts, hanswers⟩)
  obtain rfl := Option.some.inj (hparse.symm.trans hparse')
  obtain rfl := Option.some.inj (huser.symm.trans huser')
  obtain rfl := Option.some.inj (hpassword.symm.trans hpassword')
  exact (Backends.namesUser_iff huid htoken hanswers).1 hnames

/-- An answer with error `0` names the user that `getUID` finds. -/
lemma FindsUser.loginNamesUser (h : FindsUser codec b route body) :
    LoginNamesUser codec others b route body := by
  intro response root hresponse hbody herror
  obtain ⟨src_root, user, password, hparse, huser, hpassword, hroot⟩ :=
    exists_fields hresponse hbody herror
  obtain ⟨root', hlogin, hzero, hfields⟩ := Backends.login_services others huser hpassword
  obtain rfl := Option.some.inj (hroot.symm.trans hlogin)
  obtain ⟨haccepts, hanswers⟩ := hzero.1 herror
  obtain ⟨huid, htoken⟩ := hfields haccepts hanswers
  have hfinds := h src_root user password hparse huser hpassword haccepts hanswers
  exact ⟨src_root, user, password, hparse, huser, hpassword,
    (Backends.namesUser_iff huid htoken hanswers).2 hfinds⟩

/-- **A login without an error names a user if and only if `getUID` finds the user again**: it
gets its session, its statement is executed, and the first row has the password, too. -/
theorem loginNamesUser_iff (codec : Codec) (others : Services) (b : Backends)
    (route : LoginRoute) (body : Bytes) :
    LoginNamesUser codec others b route body ↔ FindsUser codec b route body :=
  ⟨LoginNamesUser.findsUser, FindsUser.loginNamesUser⟩

end LoginNamesUser

lemma id_pos_of_alice : ∀ a ∈ [alice], 0 < a.id := by simp [alice]

lemma id_le_of_alice : ∀ a ∈ [alice], a.id ≤ 1 := by simp [alice]

/-- A login in which the check gets its sessions, and `getUID` gets none. -/
def noThirdSession : Backends where
  server := exactServer
  session k := k < 2
  users :=
    { rows := [alice]
      nodup := List.nodup_singleton _
      last := 1
      last_nonneg := Int.one_nonneg
      key_pos := id_pos_of_alice
      key_le := id_le_of_alice }
  status := some (.init [("ChatServer1", "127.0.0.1", "0")])
  token := "t"

lemma accepts_noThirdSession : noThirdSession.Accepts .account_login "alice" "secret" where
  session := ⟨rfl, rfl⟩
  existing := by
    have htext : "alice".toList = ['a', 'l', 'i', 'c', 'e'] := rfl
    have hplain : plain "alice".toList = true := by
      rw [htext]
      iterate 5 rw [plain_cons (by decide) (by decide)]
      rfl
    have hlex := (MySQLMgr.lex_queryUserText_iff "alice").2 hplain
    have hrows : exactServer.execute 0 (MySQLMgr.queryUserText "alice")
        noThirdSession.users.rows = some (rowsWith .name "alice" noThirdSession.users.rows) := by
      simp only [exactServer, hlex, Option.bind_some, readSelect_selectTokens, Option.map_some]
    exact ⟨_, [], hrows⟩
  password := ⟨_, [], rfl, rfl⟩

/-- The answer has error `0` and the number `-1`. -/
theorem not_loginNamesUser :
    ¬ ∀ codec others b route body, LoginNamesUser codec others b route body := by
  intro h
  have hfinds := (h Json.compact openServices noThirdSession .account_login
    (Json.compact.dump (LoginRoute.account_login.request "alice" "secret"))).findsUser
  have hagain := hfinds _ "alice" "secret"
    (Json.compact.parse_dump (wf_request .account_login "alice" "secret"))
    (LoginRoute.getStr_field .account_login "alice" "secret")
    (LoginRoute.getStr_password .account_login "alice" "secret")
    accepts_noThirdSession ⟨_, rfl, Option.some_ne_none _⟩
  exact absurd hagain.session (by decide)

end GateServer

end WeChat
