/-
# From the password to the session

A login crosses three services: a handler of `GateServer` compares the password, looks up the
number of the user and has `StatusServer` store a token, the client shows the token to a chat
server, and the chat server asks `StatusServer` again.  Here all of them run together, with any
number of handlers and connections, with the database, the tokens and the registration changing
in between, and with commands of Redis that fail.  `GetChatServer` is called by the login handlers
only.
-/
import WeChat.Chat.Genuine
import WeChat.Gate.RealUser
import WeChat.Status.TokenFailures

namespace WeChat

open Wire Transition Json Relational

namespace GateServer

open StatusServiceImpl

/-! ## The services together -/

/-- How far a handler of a login has come. -/
inductive LoginProgress
  | idle
  /-- The password was accepted. -/
  | checked (route : LoginRoute) (user password : String)
  /-- `getUID` has handed back a number. -/
  | found (route : LoginRoute) (user password : String) (uid : ℤ)
deriving DecidableEq

/-- The services that take part in logins. -/
structure Site where
  users : AutoTable Account.id
  /-- The login handlers of all gateways, numbered. -/
  handlers : ℕ → LoginProgress
  tokens : TokenState
  /-- The answers of `CheckToken` with success that are on their way to a chat server. -/
  respond : List CheckTokenReq
  chat : State

/-- What happens at one of the services. -/
inductive SiteEvent
  /-- A registration or a new password has changed the table of the users. -/
  | users (users : AutoTable Account.id)
  /-- `loginAcconut` or `loginEmail` executes its second statement, and accepts; `earlier` is the
  table when it executed the first one. -/
  | check (i : ℕ) (route : LoginRoute) (user password : String) (server : Server)
      (session : ℕ → Bool) (earlier : List Account)
  | getUID (i : ℕ) (server : Server) (session : Bool)
  /-- `StatusServer` executes the call of a handler; `ok` says whether its `SET` is executed. -/
  | getChatServer (i : ℕ) (ok : Bool)
  /-- The call of a handler fails, or is refused. -/
  | giveUp (i : ℕ)
  /-- `StatusServer` compares a token, when its `GET` is executed. -/
  | checkToken (request : CheckTokenReq) (ok : Bool)
  /-- `StatusServer` sends the `DEL` of a token that it has accepted, and answers whatever becomes
  of it. -/
  | removeToken (request : CheckTokenReq) (ok : Bool)
  | expire (uid : ℤ)
  /-- Anything that happens at the chat servers. -/
  | chat (e : Event)

/-- The call of `MySQLMgr` that compares the password. -/
def LoginRoute.result : LoginRoute → Call → String → String → ℤ
  | account_login => MySQLMgr.loginAcconut
  | email_login => MySQLMgr.loginEmail

/-- The login that an event of the chat servers accepts, with the answer that this takes. -/
def acceptedRequest (cfg : WeChat.Config) (s : State) : Event → Option CheckTokenReq
  | .read c bytes env => (s.completed c bytes).bind fun m =>
      if m.1 = idChatLogin then
        match CSession.loginRequest (cfg.codec.parse m.2) with
        | .credentials uid token =>
          if env.checkToken uid token = ErrorCodes.success.code then some ⟨uid, token⟩ else none
        | _ => none
      else none
  | _ => none

section Step

variable (cfg : WeChat.Config) (generateUUID : ℕ → String)

/-- One step of the services. -/
def siteStep (w : Site) : SiteEvent → Option Site
  | .users users => some { w with users := users }
  | .check i route user password server session earlier =>
    let call : Call := ⟨server, session, fun k => if k = 0 then earlier else w.users.rows⟩
    if w.handlers i = .idle ∧ resultError .errMysql route.missing .passwordError
        (route.result call user password) = .success then
      some { w with handlers := Function.update w.handlers i (.checked route user password) }
    else none
  | .getUID i server session =>
    match w.handlers i with
    | .checked route user password =>
      let uid := MySQLMgr.getUID server session 2 w.users.rows route.mod user
      some { w with handlers := Function.update w.handlers i (.found route user password uid) }
    | _ => none
  | .getChatServer i ok =>
    match w.handlers i with
    | .found _ _ _ uid =>
      (commandStep generateUUID w.tokens (.insertToken uid ok)).map fun tokens =>
        { w with handlers := Function.update w.handlers i .idle, tokens := tokens }
    | _ => none
  | .giveUp i => some { w with handlers := Function.update w.handlers i .idle }
  | .checkToken request ok =>
    (commandStep generateUUID w.tokens (.checkToken request ok)).map fun tokens =>
      { w with tokens := tokens }
  | .removeToken request ok =>
    (commandStep generateUUID w.tokens (.removeToken request ok)).map fun tokens =>
      { w with tokens := tokens, respond := request :: w.respond }
  | .expire uid => (commandStep generateUUID w.tokens (.expire uid)).map fun tokens =>
      { w with tokens := tokens }
  | .chat e =>
    match acceptedRequest cfg w.chat e with
    | some request =>
      if request ∈ w.respond then
        (step cfg w.chat e).map fun chat =>
          { w with chat := chat, respond := w.respond.erase request }
      else none
    | none => (step cfg w.chat e).map fun chat => { w with chat := chat }

/-- The services before the first login. -/
def Site.init (users : AutoTable Account.id) (db : Database) : Site :=
  ⟨users, fun _ => .idle, .init, [], .init db⟩

end Step

/-! ## The stations of a login -/

/-- A handler compares the password with that of a user of this name, and they are the same. -/
def AcceptsPassword (i : ℕ) (route : LoginRoute) (user password : String) (w : Site)
    (e : SiteEvent) : Prop :=
  ∃ server session earlier, e = .check i route user password server session earlier ∧
    ∃ a ∈ w.users.rows, server.Matches route.column user a ∧ a.password = password

/-- A handler gets the number of a user of this name, or -1 or -2 when the look-up fails. -/
def FindsNumber (i : ℕ) (route : LoginRoute) (user : String) (uid : ℤ) (w : Site)
    (e : SiteEvent) : Prop :=
  ∃ server session, e = .getUID i server session ∧
    (uid = -1 ∨ uid = -2 ∨ ∃ a ∈ w.users.rows, server.Matches route.column user a ∧ a.id = uid)

/-- `StatusServer` stores a new token for the number with which the handler asks. -/
def StoresToken (generateUUID : ℕ → String) (i : ℕ) (route : LoginRoute) (user password : String)
    (request : CheckTokenReq) (w : Site) (e : SiteEvent) : Prop :=
  e = .getChatServer i true ∧ w.handlers i = .found route user password request.uid ∧
    request.token = generateUUID w.tokens.issued.length

/-- `StatusServer` is shown the token that it keeps for the number. -/
def ComparesToken (request : CheckTokenReq) (w : Site) (e : SiteEvent) : Prop :=
  e = .checkToken request true ∧ w.tokens.redis (tokenKey request.uid) = some request.token

/-- `StatusServer` sends the `DEL` of the token, which may fail, and answers with success. -/
def RemovesToken (request : CheckTokenReq) (_w : Site) (e : SiteEvent) : Prop :=
  ∃ ok, e = .removeToken request ok

/-- A connection is read to the end of a login with the number and the token, which is
accepted. -/
def LogsIn (cfg : WeChat.Config) (c : Conn) (request : CheckTokenReq) (w : Site)
    (e : SiteEvent) : Prop :=
  ∃ bytes env, e = .chat (.read c bytes env) ∧
    acceptedRequest cfg w.chat (.read c bytes env) = some request

/-! ## What a step does -/

section Effect

variable (cfg : WeChat.Config) (generateUUID : ℕ → String)

/-- The events with their guards and what they change. -/
inductive SiteEffect (w : Site) : SiteEvent → Site → Prop
  | users (users : AutoTable Account.id) : SiteEffect w (.users users) { w with users := users }
  | check {i : ℕ} {route : LoginRoute} {user password : String} {server : Server}
      {session : ℕ → Bool} {earlier : List Account}
      (hok : resultError .errMysql route.missing .passwordError
        (route.result ⟨server, session, fun k => if k = 0 then earlier else w.users.rows⟩ user
          password) = .success) :
      SiteEffect w (.check i route user password server session earlier)
        { w with handlers := Function.update w.handlers i (.checked route user password) }
  | getUID {i : ℕ} {server : Server} {session : Bool} {route : LoginRoute} {user password : String}
      (hchecked : w.handlers i = .checked route user password) :
      SiteEffect w (.getUID i server session)
        { w with handlers := Function.update w.handlers i (.found route user password
            (MySQLMgr.getUID server session 2 w.users.rows route.mod user)) }
  | getChatServer {i : ℕ} {ok : Bool} {route : LoginRoute} {user password : String} {uid : ℤ}
      {tokens : TokenState} (hfound : w.handlers i = .found route user password uid)
      (htokens : CommandEffect generateUUID w.tokens (.insertToken uid ok) tokens) :
      SiteEffect w (.getChatServer i ok)
        { w with handlers := Function.update w.handlers i .idle, tokens := tokens }
  | giveUp (i : ℕ) :
      SiteEffect w (.giveUp i) { w with handlers := Function.update w.handlers i .idle }
  | checkToken {request : CheckTokenReq} {ok : Bool} {tokens : TokenState}
      (htokens : CommandEffect generateUUID w.tokens (.checkToken request ok) tokens) :
      SiteEffect w (.checkToken request ok) { w with tokens := tokens }
  | removeToken {request : CheckTokenReq} {ok : Bool} {tokens : TokenState}
      (htokens : CommandEffect generateUUID w.tokens (.removeToken request ok) tokens) :
      SiteEffect w (.removeToken request ok)
        { w with tokens := tokens, respond := request :: w.respond }
  | expire {uid : ℤ} {tokens : TokenState}
      (htokens : CommandEffect generateUUID w.tokens (.expire uid) tokens) :
      SiteEffect w (.expire uid) { w with tokens := tokens }
  | login {e : Event} {request : CheckTokenReq} {chat : State}
      (hrequest : acceptedRequest cfg w.chat e = some request) (hmem : request ∈ w.respond)
      (hstep : step cfg w.chat e = some chat) :
      SiteEffect w (.chat e) { w with chat := chat, respond := w.respond.erase request }
  | chat {e : Event} {chat : State} (hnone : acceptedRequest cfg w.chat e = none)
      (hstep : step cfg w.chat e = some chat) :
      SiteEffect w (.chat e) { w with chat := chat }

variable {cfg generateUUID} {w w' : Site} {e : SiteEvent}

lemma effect_of_siteStep (h : siteStep cfg generateUUID w e = some w') :
    SiteEffect cfg generateUUID w e w' := by
  cases e with
  | users users =>
    obtain rfl := Option.some.inj h
    exact .users users
  | check i route user password server session earlier =>
    simp only [siteStep, Option.ite_none_right_eq_some, Option.some.injEq] at h
    obtain ⟨⟨-, hok⟩, rfl⟩ := h
    exact .check hok
  | getUID i server session =>
    simp only [siteStep] at h
    split at h
    · next hchecked =>
      obtain rfl := Option.some.inj h
      exact .getUID hchecked
    · cases h
  | getChatServer i ok =>
    simp only [siteStep] at h
    split at h
    · next hfound =>
      obtain ⟨tokens, htokens, rfl⟩ := Option.map_eq_some_iff.1 h
      exact .getChatServer hfound (effect_of_commandStep htokens)
    · cases h
  | giveUp i =>
    obtain rfl := Option.some.inj h
    exact .giveUp i
  | checkToken request ok =>
    obtain ⟨tokens, htokens, rfl⟩ := Option.map_eq_some_iff.1 h
    exact .checkToken (effect_of_commandStep htokens)
  | removeToken request ok =>
    obtain ⟨tokens, htokens, rfl⟩ := Option.map_eq_some_iff.1 h
    exact .removeToken (effect_of_commandStep htokens)
  | expire uid =>
    simp only [siteStep] at h
    obtain ⟨tokens, htokens, rfl⟩ := Option.map_eq_some_iff.1 h
    exact .expire (effect_of_commandStep htokens)
  | chat e =>
    simp only [siteStep] at h
    split at h
    · next hrequest =>
      split_ifs at h with hmem
      obtain ⟨chat, hstep, rfl⟩ := Option.map_eq_some_iff.1 h
      exact .login hrequest hmem hstep
    · next hnone =>
      obtain ⟨chat, hstep, rfl⟩ := Option.map_eq_some_iff.1 h
      exact .chat hnone hstep

end Effect

/-! ## From one station to the one before -/

section Stations

variable {cfg : WeChat.Config} {generateUUID : ℕ → String} {w w' : Site} {e : SiteEvent} {i : ℕ}
  {route : LoginRoute} {user password token : String} {uid : ℤ} {request : CheckTokenReq} {c : Conn}

/-- A check that accepts has read a row with the password. -/
lemma exists_account_of_result {server : Server} {session : ℕ → Bool} {accounts : ℕ → List Account}
    (h : resultError .errMysql route.missing .passwordError
      (route.result ⟨server, session, accounts⟩ user password) = .success) :
    ∃ a ∈ accounts 1, server.Matches route.column user a ∧ a.password = password := by
  have hmissing : route.missing ≠ .success := by cases route <;> decide
  have hcheck : ∃ existing, route.result ⟨server, session, accounts⟩ user password =
      MySQLMgr.checkPassword ⟨server, session, accounts⟩ existing route.column user password := by
    cases route <;> exact ⟨_, rfl⟩
  obtain ⟨existing, hcheck⟩ := hcheck
  rw [hcheck, MySQLMgr.checkPassword] at h
  -- every other branch ends in one of the three codes
  cases hsession : session 0 with
  | false => simp [hsession, resultError] at h
  | true =>
    cases existing with
    | false => simp [hsession, resultError, hmissing] at h
    | true =>
      simp only [hsession, if_true] at h
      split at h
      · next row rows hselect =>
        obtain ⟨hrow, hmatches⟩ := MySQLMgr.mem_select hselect
        refine ⟨row, hrow, hmatches, ?_⟩
        by_contra hne
        rw [if_pos (Ne.symm hne)] at h
        exact absurd h (by simp [resultError])
      · simp [resultError] at h
      · simp [resultError] at h

/-- What `getUID` hands back. -/
lemma getUID_cases (server : Server) (session : Bool) (accounts : List Account) :
    let uid := MySQLMgr.getUID server session 2 accounts route.mod user
    uid = -1 ∨ uid = -2 ∨ ∃ a ∈ accounts, server.Matches route.column user a ∧ a.id = uid := by
  rw [MySQLMgr.getUID, route.column_mod]
  cases session with
  | false => exact .inl rfl
  | true =>
    rw [if_pos rfl]
    split
    · next row rows hselect =>
      obtain ⟨hrow, hmatches⟩ := MySQLMgr.mem_select hselect
      exact .inr (.inr ⟨row, hrow, hmatches, rfl⟩)
    · exact .inr (.inl rfl)
    · exact .inl rfl

lemma update_handlers {handlers : ℕ → LoginProgress} {i' : ℕ} {p q : LoginProgress}
    (h : Function.update handlers i' p i = q) : handlers i = q ∨ i' = i ∧ p = q := by
  by_cases heq : i = i'
  · subst heq
    exact .inr ⟨rfl, by rwa [Function.update_self] at h⟩
  · exact .inl (by rwa [Function.update_of_ne heq] at h)

/-- A handler that has accepted a password has compared it. -/
lemma checked_step (h : siteStep cfg generateUUID w e = some w')
    (hw' : w'.handlers i = .checked route user password) :
    w.handlers i = .checked route user password ∨ AcceptsPassword i route user password w e := by
  cases effect_of_siteStep h with
  | check hok =>
    refine (update_handlers hw').imp_right ?_
    rintro ⟨rfl, hp⟩
    obtain ⟨rfl, rfl, rfl⟩ := LoginProgress.checked.inj hp
    exact ⟨_, _, _, rfl, exists_account_of_result hok⟩
  | getUID => exact (update_handlers hw').imp_right fun h => LoginProgress.noConfusion h.2
  | getChatServer => exact (update_handlers hw').imp_right fun h => LoginProgress.noConfusion h.2
  | giveUp => exact (update_handlers hw').imp_right fun h => LoginProgress.noConfusion h.2
  | _ => exact .inl hw'

/-- A handler that has a number has looked it up after it had accepted a password. -/
lemma found_step (h : siteStep cfg generateUUID w e = some w')
    (hw' : w'.handlers i = .found route user password uid) :
    w.handlers i = .found route user password uid ∨
      (FindsNumber i route user uid w e ∧ w.handlers i = .checked route user password) := by
  cases effect_of_siteStep h with
  | check => exact (update_handlers hw').imp_right fun h => LoginProgress.noConfusion h.2
  | getUID hchecked =>
    refine (update_handlers hw').imp_right ?_
    rintro ⟨rfl, hp⟩
    obtain ⟨rfl, rfl, rfl, rfl⟩ := LoginProgress.found.inj hp
    exact ⟨⟨_, _, rfl, getUID_cases _ _ _⟩, hchecked⟩
  | getChatServer => exact (update_handlers hw').imp_right fun h => LoginProgress.noConfusion h.2
  | giveUp => exact (update_handlers hw').imp_right fun h => LoginProgress.noConfusion h.2
  | _ => exact .inl hw'

/-- A token that is stored for a number was stored for a handler with this number. -/
lemma stored_step (h : siteStep cfg generateUUID w e = some w')
    (hw' : w'.tokens.redis (tokenKey request.uid) = some request.token) :
    w.tokens.redis (tokenKey request.uid) = some request.token ∨
      ∃ i route user password, StoresToken generateUUID i route user password request w e ∧
        w.handlers i = .found route user password request.uid := by
  cases effect_of_siteStep h with
  | @getChatServer i ok route user password uid tokens hfound htokens =>
    cases htokens with
    | insert =>
      rcases redis_cases hw' with ⟨hkey, htoken⟩ | ⟨-, hold⟩
      · obtain rfl := tokenKey_injective hkey
        exact .inr ⟨i, route, user, password, ⟨rfl, hfound, (Option.some.inj htoken).symm⟩, hfound⟩
      · exact .inl hold
    | lose => exact .inl hw'
  | checkToken htokens => cases htokens <;> exact .inl hw'
  | removeToken htokens =>
    cases htokens with
    | remove => exact .inl (redis_of_delete hw').2
    | keep => exact .inl hw'
  | expire htokens =>
    cases htokens
    exact .inl (redis_of_delete hw').2
  | _ => exact .inl hw'

/-- A token that is about to be removed was compared. -/
lemma removing_step (h : siteStep cfg generateUUID w e = some w')
    (hw' : request ∈ w'.tokens.removing) :
    request ∈ w.tokens.removing ∨ ComparesToken request w e := by
  cases effect_of_siteStep h with
  | getChatServer hfound htokens => cases htokens <;> exact .inl hw'
  | checkToken htokens =>
    cases htokens with
    | accept hkey =>
      rcases List.mem_cons.1 hw' with rfl | hmem
      · exact .inr ⟨rfl, hkey⟩
      · exact .inl hmem
    | reject => exact .inl hw'
  | removeToken htokens => cases htokens <;> exact .inl (List.mem_of_mem_erase hw')
  | expire htokens =>
    cases htokens
    exact .inl hw'
  | _ => exact .inl hw'

/-- An answer with success comes when the `DEL` of the token has been sent. -/
lemma respond_step (h : siteStep cfg generateUUID w e = some w') (hw' : request ∈ w'.respond) :
    request ∈ w.respond ∨ (RemovesToken request w e ∧ request ∈ w.tokens.removing) := by
  cases effect_of_siteStep h with
  | removeToken htokens =>
    rcases List.mem_cons.1 hw' with rfl | hold
    · refine .inr ⟨⟨_, rfl⟩, ?_⟩
      cases htokens with
      | remove hmem => exact hmem
      | keep hmem => exact hmem
    · exact .inl hold
  | login => exact .inl (List.mem_of_mem_erase hw')
  | _ => exact .inl hw'

/-- The session is authenticated under the number. -/
def AuthenticatedAs (c : Conn) (uid : ℤ) (w : Site) : Prop :=
  (w.chat.reg.session c)._isAuthenticated = true ∧ (w.chat.reg.session c)._uid = uid

/-- A session that passes `CheckToken` has taken an answer for its number. -/
lemma acceptedRequest_of_passed {s : State} {e : Event}
    (h : (regEvent cfg s e).passed c = some uid) :
    ∃ bytes env token, e = .read c bytes env ∧ acceptedRequest cfg s e = some ⟨uid, token⟩ := by
  obtain ⟨bytes, env, m, rfl, hm, hid, token, hrequest, hok⟩ := exists_read_of_passed h
  refine ⟨bytes, env, token, rfl, ?_⟩
  simp only [acceptedRequest, hm, Option.bind_some, if_pos hid, hrequest, if_pos hok]

/-- A session that is authenticated has logged in with an answer of `StatusServer`. -/
lemma authenticated_step (h : siteStep cfg generateUUID w e = some w')
    (hw' : AuthenticatedAs c uid w') :
    AuthenticatedAs c uid w ∨
      ∃ token, LogsIn cfg c ⟨uid, token⟩ w e ∧ ⟨uid, token⟩ ∈ w.respond := by
  have hchat : ∀ {e : Event} {chat : State}, step cfg w.chat e = some chat →
      AuthenticatedAs c uid { w with chat := chat } →
        AuthenticatedAs c uid w ∨ (regEvent cfg w.chat e).passed c = some uid := by
    rintro e chat hstep ⟨hauth, huid⟩
    simp only [(reg_step hstep).2] at hauth huid
    rcases Registry.user_apply w.chat.reg (regEvent cfg w.chat e) c with
      ⟨-, hses⟩ | ⟨-, uid', hpassed, -, hsame⟩ | ⟨-, -, hkept, hsame⟩
    · rw [hses] at hauth
      cases hauth
    · obtain rfl : uid' = uid := hsame.symm.trans huid
      exact .inr hpassed
    · exact .inl ⟨hkept ▸ hauth, hsame ▸ huid⟩
  cases effect_of_siteStep h with
  | login hrequest hmem hstep =>
    refine (hchat hstep hw').imp_right fun hpassed => ?_
    obtain ⟨bytes, env, token, rfl, hrequest'⟩ := acceptedRequest_of_passed hpassed
    obtain rfl := Option.some.inj (hrequest.symm.trans hrequest')
    exact ⟨token, ⟨bytes, env, rfl, hrequest⟩, hmem⟩
  | chat hnone hstep =>
    refine (hchat hstep hw').imp_right fun hpassed => ?_
    obtain ⟨bytes, env, token, rfl, hrequest⟩ := acceptedRequest_of_passed hpassed
    rw [hnone] at hrequest
    cases hrequest
  | _ => exact .inl hw'

end Stations

/-! ## From the session to the password -/

section Chain

variable {cfg : WeChat.Config} {generateUUID : ℕ → String} {users : AutoTable Account.id}
  {db : Database} {es : List SiteEvent} {w : Site} {i : ℕ} {route : LoginRoute}
  {user password : String} {uid : ℤ} {request : CheckTokenReq} {c : Conn}

lemma goesBack_checked (hrun : run (siteStep cfg generateUUID) (.init users db) es = some w)
    (h : w.handlers i = .checked route user password) :
    GoesBack (siteStep cfg generateUUID) [AcceptsPassword i route user password] (.init users db)
      es := by
  obtain ⟨es₁, e, es₂, w₁, hes, hrun₁, hok⟩ := exists_step_of_run
    (fun _ _ _ => checked_step) hrun (fun hinit => LoginProgress.noConfusion hinit) h
  exact ⟨es₁, e, es₂, w₁, hes, hrun₁, hok, trivial⟩

lemma goesBack_found (hrun : run (siteStep cfg generateUUID) (.init users db) es = some w)
    (h : w.handlers i = .found route user password uid) :
    GoesBack (siteStep cfg generateUUID)
      [FindsNumber i route user uid, AcceptsPassword i route user password] (.init users db)
      es := by
  obtain ⟨es₁, e, es₂, w₁, hes, hrun₁, hok, hchecked⟩ := exists_step_of_run
    (fun _ _ _ => found_step) hrun (fun hinit => LoginProgress.noConfusion hinit) h
  exact ⟨es₁, e, es₂, w₁, hes, hrun₁, hok, goesBack_checked hrun₁ hchecked⟩

lemma goesBack_stored (hrun : run (siteStep cfg generateUUID) (.init users db) es = some w)
    (h : w.tokens.redis (tokenKey request.uid) = some request.token) :
    ∃ i route user password, GoesBack (siteStep cfg generateUUID)
      [StoresToken generateUUID i route user password request,
        FindsNumber i route user request.uid, AcceptsPassword i route user password]
      (.init users db) es := by
  obtain ⟨es₁, e, es₂, w₁, hes, hrun₁, i, route, user, password, hok, hfound⟩ :=
    exists_step_of_run (fun _ _ _ => stored_step) hrun (fun hinit => nomatch hinit) h
  exact ⟨i, route, user, password, es₁, e, es₂, w₁, hes, hrun₁, hok, goesBack_found hrun₁ hfound⟩

lemma goesBack_removing (hrun : run (siteStep cfg generateUUID) (.init users db) es = some w)
    (h : request ∈ w.tokens.removing) :
    ∃ i route user password, GoesBack (siteStep cfg generateUUID)
      [ComparesToken request, StoresToken generateUUID i route user password request,
        FindsNumber i route user request.uid, AcceptsPassword i route user password]
      (.init users db) es := by
  obtain ⟨es₁, e, es₂, w₁, hes, hrun₁, hok⟩ := exists_step_of_run
    (fun _ _ _ => removing_step) hrun List.not_mem_nil h
  obtain ⟨i, route, user, password, hback⟩ := goesBack_stored hrun₁ hok.2
  exact ⟨i, route, user, password, es₁, e, es₂, w₁, hes, hrun₁, hok, hback⟩

lemma goesBack_respond (hrun : run (siteStep cfg generateUUID) (.init users db) es = some w)
    (h : request ∈ w.respond) :
    ∃ i route user password, GoesBack (siteStep cfg generateUUID)
      [RemovesToken request, ComparesToken request,
        StoresToken generateUUID i route user password request,
        FindsNumber i route user request.uid, AcceptsPassword i route user password]
      (.init users db) es := by
  obtain ⟨es₁, e, es₂, w₁, hes, hrun₁, hok, hmem⟩ := exists_step_of_run
    (fun _ _ _ => respond_step) hrun List.not_mem_nil h
  obtain ⟨i, route, user, password, hback⟩ := goesBack_removing hrun₁ hmem
  exact ⟨i, route, user, password, es₁, e, es₂, w₁, hes, hrun₁, hok, hback⟩

/-- **Every session goes back to a password.**  In every run of the services, when a session of a
chat server is authenticated under a number, then in this order, with anything in between: a
login handler has found the posted password to be that of a user of the posted name, the same
handler has looked up the number of a user of this name (or got -1 or -2 from a look-up that
failed), `StatusServer` has stored a new token for the number of this handler, has compared it with
the token that it was shown for the number, and has sent the `DEL` of it, and the connection was
read to the end of a login with the number and the token. -/
theorem authenticated_goesBack
    (hrun : run (siteStep cfg generateUUID) (.init users db) es = some w)
    (hauth : (w.chat.reg.session c)._isAuthenticated = true) :
    ∃ request i route user password, request.uid = (w.chat.reg.session c)._uid ∧
      GoesBack (siteStep cfg generateUUID)
        [LogsIn cfg c request, RemovesToken request, ComparesToken request,
          StoresToken generateUUID i route user password request,
          FindsNumber i route user request.uid, AcceptsPassword i route user password]
        (.init users db) es := by
  have hinit : ¬ AuthenticatedAs c (w.chat.reg.session c)._uid (.init users db) :=
    fun h => Bool.false_ne_true h.1
  obtain ⟨es₁, e, es₂, w₁, hes, hrun₁, token, hlogs, hmem⟩ := exists_step_of_run
    (fun _ _ _ => authenticated_step) hrun hinit ⟨hauth, rfl⟩
  obtain ⟨i, route, user, password, hback⟩ := goesBack_respond hrun₁ hmem
  exact ⟨_, i, route, user, password, rfl, es₁, e, es₂, w₁, hes, hrun₁, hlogs, hback⟩

end Chain

/-- A handler has accepted the password of alice. -/
def aliceChecked : Site :=
  { Site.init noThirdSession.users MySQLMgr.twoUsers with
    handlers := Function.update (fun _ => .idle) 0 (.checked .account_login "alice" "secret") }

/-- What comes next: alice gets her token, and her client logs in at a chat server. -/
def aliceLogsIn : List SiteEvent :=
  [.getUID 0 exactServer true, .getChatServer 0 true, .checkToken ⟨1, someUUID 0⟩ true,
    .removeToken ⟨1, someUUID 0⟩ true] ++
      (connect compactConfig client₁ 1 (someUUID 0) noDatabase).map .chat

/-- The check of her password. -/
def aliceCheck : SiteEvent :=
  .check 0 .account_login "alice" "secret" exactServer (fun _ => true) [alice]

lemma step_aliceCheck : siteStep compactConfig someUUID
    (.init noThirdSession.users MySQLMgr.twoUsers) aliceCheck = some aliceChecked := by
  obtain ⟨row, rows, hrows⟩ := accepts_noThirdSession.existing
  have hquery : MySQLMgr.queryUser exactServer true 0 [alice] "alice" = true :=
    (Backends.query_iff (b := noThirdSession) true 0 _).2 ⟨rfl, row, rows, hrows⟩
  have hok : resultError .errMysql LoginRoute.account_login.missing .passwordError
      (LoginRoute.account_login.result ⟨exactServer, fun _ => true,
        fun k => if k = 0 then [alice] else noThirdSession.users.rows⟩ "alice" "secret") =
          .success := by
    rw [LoginRoute.result, MySQLMgr.loginAcconut]
    simp only [if_true, hquery]
    rfl
  rw [aliceCheck, siteStep]
  exact if_pos ⟨rfl, hok⟩

/-- Alice logs in at the gateway, and her session is that of user 1. -/
theorem authenticated_goesBack_alice :
    ∃ w, run (siteStep compactConfig someUUID) (.init noThirdSession.users MySQLMgr.twoUsers)
        (aliceCheck :: aliceLogsIn) = some w ∧
      ∃ request i route user password, request.uid = (w.chat.reg.session client₁)._uid ∧
        GoesBack (siteStep compactConfig someUUID)
          [LogsIn compactConfig client₁ request, RemovesToken request, ComparesToken request,
            StoresToken someUUID i route user password request,
            FindsNumber i route user request.uid, AcceptsPassword i route user password]
          (.init noThirdSession.users MySQLMgr.twoUsers) (aliceCheck :: aliceLogsIn) := by
  have hany : (run (siteStep compactConfig someUUID) aliceChecked aliceLogsIn).any
      (fun w => (w.chat.reg.session client₁)._isAuthenticated) = true := by
    decide +kernel
  obtain ⟨w, hrun, hauth⟩ := (Option.any_eq_true _ _).1 hany
  have hrun' := (run_cons step_aliceCheck aliceLogsIn).trans hrun
  exact ⟨w, hrun', authenticated_goesBack hrun' hauth⟩

/-! ## One session for one password -/

/-- An event of the chat servers accepts a login with the token. -/
def takesToken (cfg : WeChat.Config) (token : String) (w : Site) : SiteEvent → Bool
  | .chat e => (acceptedRequest cfg w.chat e).any fun request => request.token = token
  | _ => false

/-- The `DEL` of the token fails. -/
def keptToken (token : String) (_w : Site) : SiteEvent → Bool
  | .removeToken request ok => keepsToken token (.removeToken request ok)
  | _ => false

/-- No call of `CheckToken` compares a token between the comparison and the `DEL` of another call
that was shown the same one. -/
def NoRace (w : Site) (e : SiteEvent) : Prop :=
  ∀ request ok, e = .checkToken request ok → AloneCommand w.tokens (.checkToken request ok)

/-- The answers with success that have not reached a chat server. -/
def Site.waiting (w : Site) (token : String) : ℕ :=
  w.respond.countP (fun request => request.token = token) +
    w.tokens.removing.countP fun request => request.token = token

section Once

variable {cfg : WeChat.Config} {generateUUID : ℕ → String} {users : AutoTable Account.id}
  {db : Database} {es : List SiteEvent} {w w' : Site} {e : SiteEvent}

/-- The tokens change by the commands of `StatusServer` only. -/
lemma tokens_step (token : String) (h : siteStep cfg generateUUID w e = some w') :
    w'.tokens = w.tokens ∨ ∃ command, commandStep generateUUID w.tokens command = some w'.tokens ∧
      (NoRace w e → AloneCommand w.tokens command) ∧
      keptToken token w e = keepsToken token command := by
  cases e with
  | getChatServer i ok =>
    simp only [siteStep] at h
    split at h
    · obtain ⟨tokens, htokens, rfl⟩ := Option.map_eq_some_iff.1 h
      exact .inr ⟨_, htokens, fun _ => trivial, rfl⟩
    · cases h
  | checkToken request ok =>
    obtain ⟨tokens, htokens, rfl⟩ := Option.map_eq_some_iff.1 h
    exact .inr ⟨_, htokens, fun hrace => hrace request ok rfl, rfl⟩
  | removeToken request ok =>
    obtain ⟨tokens, htokens, rfl⟩ := Option.map_eq_some_iff.1 h
    exact .inr ⟨_, htokens, fun _ => trivial, rfl⟩
  | expire uid =>
    simp only [siteStep] at h
    obtain ⟨tokens, htokens, rfl⟩ := Option.map_eq_some_iff.1 h
    exact .inr ⟨_, htokens, fun _ => trivial, rfl⟩
  | _ => cases effect_of_siteStep h <;> exact .inl rfl

/-- Taking one of several waiting answers leaves one less. -/
lemma countP_erase_add {requests : List CheckTokenReq} {request : CheckTokenReq}
    (h : request ∈ requests) (P : CheckTokenReq → Bool) :
    requests.countP P = (requests.erase request).countP P + if P request then 1 else 0 := by
  rw [(List.perm_cons_erase h).countP_eq, List.countP_cons]

/-- **No answer is lost or used twice.**  An acceptance is waiting, or has let one session in. -/
lemma accepted_step (token : String) (h : siteStep cfg generateUUID w e = some w') :
    w'.tokens.accepted token + w.waiting token =
      w.tokens.accepted token + w'.waiting token + if takesToken cfg token w e then 1 else 0 := by
  cases effect_of_siteStep h with
  | getChatServer hfound htokens => cases htokens <;> rfl
  | checkToken htokens =>
    cases htokens with
    | @accept request hkey =>
      show TokenState.accepted ⟨_, _, _, _⟩ token + _ = _ + (_ + List.countP _ (_ :: _)) + 0
      rw [accepted_success, List.countP_cons, Site.waiting]
      simp only [decide_eq_true_eq]
      omega
    | reject =>
      show TokenState.accepted ⟨_, _, _, _⟩ token + _ = _
      rw [accepted_tokenInvalid]
      rfl
  | @removeToken request ok tokens htokens =>
    -- the call is answered whether the token is removed or not
    obtain ⟨hmem, hremoving, hanswers⟩ : request ∈ w.tokens.removing ∧
        tokens.removing = w.tokens.removing.erase request ∧ tokens.answers = w.tokens.answers := by
      cases htokens with
      | remove hmem => exact ⟨hmem, rfl, rfl⟩
      | keep hmem => exact ⟨hmem, rfl, rfl⟩
    have hone := countP_erase_add hmem fun request => request.token = token
    show List.countP _ tokens.answers + _ =
      _ + (List.countP _ (_ :: _) + List.countP _ tokens.removing) + 0
    rw [List.countP_cons, Site.waiting, hremoving, hanswers]
    simp only [TokenState.accepted] at hone ⊢
    omega
  | expire htokens =>
    cases htokens
    rfl
  | @login e request chat hrequest hmem =>
    have hone := countP_erase_add hmem fun request => request.token = token
    have htakes : takesToken cfg token w (.chat e) = decide (request.token = token) := by
      rw [takesToken, hrequest, Option.any_some]
    rw [htakes]
    show w.tokens.accepted token + _ = w.tokens.accepted token +
      (List.countP _ (w.respond.erase request) + List.countP _ w.tokens.removing) + _
    rw [Site.waiting]
    omega
  | chat hnone =>
    rw [takesToken, hnone]
    rfl
  | _ => rfl

/-- **One session for one password.**  In every run of the services in which no call of
`CheckToken` compares a token while another call is about to remove it, at most one login on any
connection of any chat server is accepted with a token, and one more for each `DEL` of the token
that fails. -/
theorem login_once (huuid : Function.Injective generateUUID)
    (hrun : run (siteStep cfg generateUUID) (.init users db) es = some w)
    (hrace : AllSteps (siteStep cfg generateUUID) NoRace (.init users db) es) (token : String) :
    countSteps (siteStep cfg generateUUID) (takesToken cfg token) (.init users db) es ≤
      1 + countSteps (siteStep cfg generateUUID) (keptToken token) (.init users db) es := by
  have hbalance := balance_of_run (fun _ _ _ => accepted_step token) hrun
  have hbound := bounded_of_run (I := fun w : Site => CommandInv generateUUID w.tokens)
    (f := fun w => w.tokens.accepted token + chances w.tokens token) (keptToken token)
    (fun w e w' hinv h => ?_) (fun w e w' hinv hrace h => ?_) hrun hrace commandInv_init
  · have hinit : (Site.init users db).tokens.accepted token = 0 ∧
        (Site.init users db).waiting token = 0 := ⟨rfl, rfl⟩
    have hone := chances_le_one (Site.init users db).tokens token
    omega
  · rcases tokens_step token h with heq | ⟨command, hstep, -, -⟩
    · rwa [heq]
    · exact commandInv_step huuid hinv hstep
  · rcases tokens_step token h with heq | ⟨command, hstep, halone, hkept⟩
    · simp only [heq]
      exact Nat.le_add_right _ _
    · rw [hkept]
      exact chances_step huuid hinv (halone hrace) hstep

end Once

/-- The `DEL` of the token of alice fails, and another client logs in with it, too. -/
def aliceLogsInTwice : List SiteEvent :=
  [.getUID 0 exactServer true, .getChatServer 0 true, .checkToken ⟨1, someUUID 0⟩ true,
    .removeToken ⟨1, someUUID 0⟩ false, .checkToken ⟨1, someUUID 0⟩ true,
    .removeToken ⟨1, someUUID 0⟩ true] ++
      (connect compactConfig client₁ 1 (someUUID 0) noDatabase ++
        connect compactConfig client₃ 1 (someUUID 0) noDatabase).map .chat

/-- Two logins are accepted with the token. -/
theorem login_once_alice :
    countSteps (siteStep compactConfig someUUID) (takesToken compactConfig (someUUID 0))
        aliceChecked aliceLogsInTwice = 2 ∧
      countSteps (siteStep compactConfig someUUID) (takesToken compactConfig (someUUID 0))
        (.init noThirdSession.users MySQLMgr.twoUsers) (aliceCheck :: aliceLogsInTwice) ≤
      1 + countSteps (siteStep compactConfig someUUID) (keptToken (someUUID 0))
        (.init noThirdSession.users MySQLMgr.twoUsers) (aliceCheck :: aliceLogsInTwice) := by
  have hsome : (run (siteStep compactConfig someUUID) aliceChecked aliceLogsInTwice).isSome =
      true := by
    decide +kernel
  obtain ⟨w, hrun⟩ := Option.isSome_iff_exists.1 hsome
  have hother : ∀ {w : Site} {e : SiteEvent}, (∀ request ok, e ≠ .checkToken request ok) →
      NoRace w e := fun hne request ok heq => absurd heq (hne request ok)
  refine ⟨by decide +kernel, login_once someUUID_injective
    ((run_cons step_aliceCheck aliceLogsInTwice).trans hrun)
    (.cons step_aliceCheck (hother (by simp [aliceCheck])) ?_) (someUUID 0)⟩
  refine .cons rfl (hother (by simp)) (.cons rfl (hother (by simp)) (.cons rfl ?_
    (.cons rfl (hother (by simp)) (.cons rfl ?_ (.cons rfl (hother (by simp)) ?_)))))
  · -- no token has been compared before
    rintro request ok heq
    obtain ⟨rfl, rfl⟩ := SiteEvent.checkToken.inj heq
    exact fun _ r hr => absurd hr List.not_mem_nil
  · -- the call that has compared the token has sent its `DEL`
    rintro request ok heq
    obtain ⟨rfl, rfl⟩ := SiteEvent.checkToken.inj heq
    have hnone : [CheckTokenReq.mk 1 (someUUID 0)].erase ⟨1, someUUID 0⟩ = [] := by
      rw [List.erase_cons_head]
    exact fun _ r hr => absurd (hnone ▸ hr) List.not_mem_nil
  · refine .of_forall (fun w e he => hother ?_) _
    rintro request ok rfl
    simp [connect, received] at he

end GateServer

end WeChat
