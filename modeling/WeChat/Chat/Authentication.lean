/-
# The authentication gate

`CSession::handleMessage` answers a heartbeat and a login itself, refuses every other message of
a session that is not authenticated, and posts the rest to `LogicSystem`.  What the token
service says to a login is arbitrary here: it may accept it, reject it or fail to answer.
-/
import WeChat.Chat.Attribution

namespace WeChat

open Wire Transition Json LogicSystem

/-- `StatusGrpcClient::checkToken`, when the call of the service ends with an answer, or with
none: there is no stub, the status is not ok, or an exception is thrown. -/
def StatusGrpcClient.checkToken (respond : Option ℤ) : ℤ :=
  respond.getD ErrorCodes.rpcFailed.code

/-- An environment in which the token service answers in a given way. -/
def Env.asking (env : Env) (service : ℤ → String → Option ℤ) : Env :=
  { env with checkToken := fun uid token => StatusGrpcClient.checkToken (service uid token) }

/-- The message that an event completes on a connection. -/
def State.completed (s : State) (c : Conn) (bytes : Bytes) : Option (ℤ × Bytes) :=
  (CSession.onRead (s.reg.session c).reading bytes).1

/-- The call of `LogicSystem::postMsgToQueue` that an event leads to. -/
def State.posted (s : State) : Event → Option LogicNode
  | .read c bytes _ => (s.completed c bytes).bind fun m =>
      if m.1 = idHeartbeatPing ∨ m.1 = idChatLogin ∨ !(s.reg.session c)._isAuthenticated then none
      else some ⟨m.1, m.2, c⟩
  | _ => none

/-- A message of a login with a uid and a token that `CheckToken` accepts. -/
def AcceptedLogin (cfg : Config) (env : Env) (m : ℤ × Bytes) (uid : ℤ) : Prop :=
  m.1 = idChatLogin ∧ ∃ token,
    CSession.loginRequest (cfg.codec.parse m.2) = .credentials uid token ∧
      env.checkToken uid token = ErrorCodes.success.code

/-- The last accepted login on a connection in a run was one of the uid. -/
def LatestLogin (cfg : Config) (s₀ : State) (es : List Event) (c : Conn) (uid : ℤ) : Prop :=
  ∃ es₁ bytes env es₂ s₁ s₂ m, es = es₁ ++ .read c bytes env :: es₂ ∧
    run (step cfg) s₀ es₁ = some s₁ ∧ step cfg s₁ (.read c bytes env) = some s₂ ∧
    s₁.completed c bytes = some m ∧ AcceptedLogin cfg env m uid ∧
    lastPassed cfg c s₂ es₂ = none

section Login

variable {cfg : Config} {s s' : State} {env : Env} {c : Conn}

lemma loginOf_eq_some_iff {m : ℤ × Bytes} {uid : ℤ} :
    CSession.loginOf cfg env m.1 m.2 = some uid ↔ AcceptedLogin cfg env m uid := by
  unfold CSession.loginOf AcceptedLogin
  by_cases hid : m.1 = idChatLogin
  · rw [if_pos hid]
    cases hreq : CSession.loginRequest (cfg.codec.parse m.2) with
    | exception => simp
    | ignored => simp
    | credentials uid' token =>
      simp only [Option.ite_none_right_eq_some, Option.some.injEq, LoginRequest.credentials.injEq]
      constructor
      · rintro ⟨hok, rfl⟩
        exact ⟨hid, token, ⟨rfl, rfl⟩, hok⟩
      · rintro ⟨-, token', ⟨rfl, rfl⟩, hok⟩
        exact ⟨hok, rfl⟩
  · rw [if_neg hid]
    simp [hid]

/-- A login is accepted only when the service itself has answered with success. -/
lemma acceptedLogin_asking_iff {service : ℤ → String → Option ℤ} {m : ℤ × Bytes} {uid : ℤ} :
    AcceptedLogin cfg (env.asking service) m uid ↔ m.1 = idChatLogin ∧
      ∃ token, CSession.loginRequest (cfg.codec.parse m.2) = .credentials uid token ∧
        service uid token = some ErrorCodes.success.code := by
  refine and_congr_right fun _ => exists_congr fun token => and_congr_right fun _ => ?_
  simp only [Env.asking, StatusGrpcClient.checkToken]
  cases service uid token with
  | none => exact iff_of_false (by decide) (by simp)
  | some error => simp

lemma passed_self {bytes : Bytes} {login : Option ℤ} :
    (RegEvent.read c bytes login).passed c = login := by
  cases login with
  | none => rfl
  | some uid => exact if_pos rfl

lemma passed_of_ne {c' : Conn} (h : c' ≠ c) {bytes : Bytes} {login : Option ℤ} :
    (RegEvent.read c' bytes login).passed c = none := by
  cases login with
  | none => rfl
  | some uid => exact if_neg h

lemma passed_read {bytes : Bytes} {uid : ℤ} :
    (regEvent cfg s (.read c bytes env)).passed c = some uid ↔
      ∃ m, s.completed c bytes = some m ∧ AcceptedLogin cfg env m uid := by
  rw [regEvent, passed_self, Option.bind_eq_some_iff]
  exact exists_congr fun m => and_congr_right fun _ => loginOf_eq_some_iff

/-- Only a read on the connection lets its session pass. -/
lemma exists_read_of_passed {e : Event} {uid : ℤ} (h : (regEvent cfg s e).passed c = some uid) :
    ∃ bytes env m, e = .read c bytes env ∧ s.completed c bytes = some m ∧
      AcceptedLogin cfg env m uid := by
  cases e with
  | read c' bytes env =>
    have hc : c' = c := by
      by_contra hne
      rw [regEvent, passed_of_ne hne] at h
      cases h
    subst hc
    obtain ⟨m, hm, haccepted⟩ := passed_read.1 h
    exact ⟨bytes, env, m, rfl, hm, haccepted⟩
  | accept _ => cases h
  | readError _ _ => cases h
  | writeError _ => cases h
  | work _ _ _ _ => cases h
  | deliver _ _ => cases h

/-- The last uid that passed is that of the last accepted login. -/
lemma latestLogin_of_lastPassed {es : List Event} {t : State} {uid : ℤ}
    (hrun : run (step cfg) s es = some t) (h : lastPassed cfg c s es = some uid) :
    LatestLogin cfg s es c uid := by
  induction es generalizing s with
  | nil => cases h
  | cons e es ih =>
    obtain ⟨s₁, hstep, hrun'⟩ := run_cons_inv hrun
    rw [lastPassed, hstep, Option.bind_some] at h
    cases hlast : lastPassed cfg c s₁ es with
    | some uid' =>
      -- a later login counts
      rw [hlast, Option.some_or] at h
      obtain rfl := Option.some.inj h
      obtain ⟨es₁, bytes, env, es₂, t₁, t₂, m, rfl, hrun₁, hrest⟩ := ih hrun' hlast
      exact ⟨e :: es₁, bytes, env, es₂, t₁, t₂, m, rfl, (run_cons hstep es₁).trans hrun₁, hrest⟩
    | none =>
      rw [hlast, Option.none_or] at h
      obtain ⟨bytes, env, m, rfl, hm, haccepted⟩ := exists_read_of_passed h
      exact ⟨[], bytes, env, es, s, s₁, m, rfl, rfl, hstep, hm, haccepted, hlast⟩

end Login

/-! ## What a message leads to -/

section Message

variable {cfg : Config} {s s' : State} {env : Env} {c : Conn} {bytes : Bytes} {m : ℤ × Bytes}

/-- A read that completes a message arms the next one and handles it. -/
lemma step_completed (hm : s.completed c bytes = some m)
    (h : step cfg s (.read c bytes env) = some s') :
    s' = State.handleMessage cfg { s with reg := s.reg.readDone c bytes } env c m.1 m.2 := by
  unfold State.completed at hm
  simp only [step, hm] at h
  split_ifs at h
  exact (Option.some.inj h).symm

/-- The read itself leaves the user of the session as it is. -/
lemma user_readDone (r : Registry) (c : Conn) (bytes : Bytes) :
    ((r.readDone c bytes).session c)._isAuthenticated = (r.session c)._isAuthenticated ∧
      ((r.readDone c bytes).session c)._uid = (r.session c)._uid := by
  rw [Registry.session_readDone, if_pos rfl]
  exact ⟨rfl, rfl⟩

@[simp] lemma connections_readDone (r : Registry) (c : Conn) (bytes : Bytes) :
    (r.readDone c bytes).connections = r.connections := by
  simp only [Registry.readDone]
  split <;> rfl

/-- The node that is posted goes to `LogicSystem`. -/
lemma step_posted {e : Event} {node : LogicNode} (hposted : s.posted e = some node)
    (h : step cfg s e = some s') :
    ∃ bytes env, e = .read node._session bytes env ∧
      s.completed node._session bytes = some (node._id, node._body) ∧ node._id ≠ idChatLogin ∧
      s' = State.postMsgToQueue cfg { s with reg := s.reg.readDone node._session bytes } node := by
  cases e with
  | read c bytes env =>
    obtain ⟨m, hm, hnode⟩ := Option.bind_eq_some_iff.1 hposted
    split_ifs at hnode with hcond
    obtain rfl := Option.some.inj hnode
    push Not at hcond
    obtain ⟨hping, hlogin, hauth⟩ := hcond
    refine ⟨bytes, env, rfl, hm, hlogin, ?_⟩
    rw [step_completed hm h, State.handleMessage, if_neg hping, if_neg hlogin, if_neg]
    simpa [(user_readDone s.reg c bytes).1] using hauth
  | accept _ => cases hposted
  | readError _ _ => cases hposted
  | writeError _ => cases hposted
  | work _ _ _ _ => cases hposted
  | deliver _ _ => cases hposted

/-- The session itself handles a message without touching the queues of `LogicSystem`. -/
lemma queues_of_not_posted (hposted : s.posted (.read c bytes env) = none)
    (h : step cfg s (.read c bytes env) = some s') : s'.queues = s.queues := by
  cases hm : s.completed c bytes with
  | none =>
    unfold State.completed at hm
    simp only [step, hm] at h
    split_ifs at h
    rw [← Option.some.inj h]
  | some m =>
    rw [step_completed hm h, State.handleMessage]
    simp only [State.posted, hm, Option.bind_some] at hposted
    split_ifs with hping hlogin hauth
    · rfl
    · split
      · rfl
      · rfl
      · simp only
        split_ifs <;> rfl
    · rfl
    · -- the fourth branch is the one that posts
      rw [(user_readDone s.reg c bytes).1] at hauth
      simp [hping, hlogin, hauth] at hposted

/-- `postMsgToQueue` adds the node to one queue at most. -/
lemma queues_posted (cfg : Config) (s : State) (node : LogicNode) (S i : ℕ) :
    (s.postMsgToQueue cfg node).queues S i = s.queues S i ∨
      (s.postMsgToQueue cfg node).queues S i = s.queues S i ++ [node] ∧ S = node._session.srv ∧
        i = getQueueIndex cfg S (s.reg.session node._session)._uid := by
  rw [State.postMsgToQueue]
  split_ifs
  · exact .inl rfl
  · by_cases hsame : S = node._session.srv ∧
        i = getQueueIndex cfg node._session.srv (s.reg.session node._session)._uid
    · obtain ⟨rfl, rfl⟩ := hsame
      exact .inr ⟨(update_update_apply ..).trans (if_pos ⟨rfl, rfl⟩), rfl, rfl⟩
    · exact .inl ((update_update_apply ..).trans (if_neg hsame))

/-- A step takes the first node of a queue, appends the node that it posts, or leaves it alone. -/
lemma queues_step {e : Event} (h : step cfg s e = some s') (S i : ℕ) :
    s'.queues S i <:+ s.queues S i ∨
      ∃ node, s.posted e = some node ∧ s'.queues S i = s.queues S i ++ [node] := by
  have hsame : s'.queues = s.queues → s'.queues S i <:+ s.queues S i :=
    fun heq => heq ▸ List.suffix_rfl
  cases e with
  | read c bytes env =>
    cases hposted : s.posted (.read c bytes env) with
    | none => exact .inl (hsame (queues_of_not_posted hposted h))
    | some node =>
      obtain ⟨bytes', env', -, -, -, rfl⟩ := step_posted hposted h
      rcases queues_posted cfg { s with reg := s.reg.readDone node._session bytes' } node S i with
        heq | ⟨heq, -⟩
      · exact .inl (heq ▸ List.suffix_rfl)
      · exact .inr ⟨node, rfl, heq⟩
  | work S' i' alive env =>
    obtain ⟨node, queue, base, done, hqueue, rfl, -, hlock⟩ := step_take h
    have hqueues : s'.queues = Function.update s.queues S'
        (Function.update (s.queues S') i' queue) := by
      rcases hlock with ⟨-, rfl⟩ | ⟨-, rfl⟩ <;> rfl
    left
    rw [hqueues, update_update_apply]
    split_ifs with heq
    · obtain ⟨rfl, rfl⟩ := heq
      rw [hqueue]
      exact List.suffix_cons node queue
    · exact List.suffix_rfl
  | accept c =>
    obtain ⟨reg, rfl⟩ := step_ends h (.inl rfl)
    exact .inl (hsame rfl)
  | readError c ec =>
    obtain ⟨reg, rfl⟩ := step_ends h (.inr (.inl ⟨ec, rfl⟩))
    exact .inl (hsame rfl)
  | writeError c =>
    obtain ⟨reg, rfl⟩ := step_ends h (.inr (.inr rfl))
    exact .inl (hsame rfl)
  | deliver S' env =>
    obtain ⟨text, texts, -, rfl⟩ := step_deliver h
    exact .inl (hsame rfl)

/-- What a message is answered without a login: one reply with `Token_Invalid`. -/
structure Refused (s s' : State) (c : Conn) (msgId : ℤ) : Prop where
  sent : s'.sent = s.sent ++
    [(c, toShort (msgId + 1), object [("error", .num ErrorCodes.tokenInvalid.code)])]
  mgr : s'.reg.mgr = s.reg.mgr
  subs : s'.reg.subs = s.reg.subs
  onlineUsers : s'.reg.onlineUsers = s.reg.onlineUsers
  connections : s'.reg.connections = s.reg.connections
  inbox : s'.inbox = s.inbox
  db : s'.db = s.db
  queues : s'.queues = s.queues

lemma refused_of_not_authenticated (hm : s.completed c bytes = some m)
    (h : step cfg s (.read c bytes env) = some s')
    (hauth : (s.reg.session c)._isAuthenticated = false)
    (hping : m.1 ≠ idHeartbeatPing) (hlogin : m.1 ≠ idChatLogin) : Refused s s' c m.1 := by
  have hs' : s' = State.perform cfg { s with reg := s.reg.readDone c bytes }
      [answerError c (toShort (m.1 + 1)) .tokenInvalid] := by
    rw [step_completed hm h, State.handleMessage, if_neg hping, if_neg hlogin, if_pos]
    simp [(user_readDone s.reg c bytes).1, hauth]
  subst hs'
  refine ⟨rfl, ?_, ?_, ?_, ?_, ?_, rfl, rfl⟩
  · exact Registry.mgr_readDone bytes
  · exact Registry.subs_readDone bytes
  · exact Registry.onlineUsers_readDone bytes
  · exact connections_readDone s.reg c bytes
  · funext S
    exact List.append_nil _

/-- A login that is not accepted leaves the registration alone. -/
lemma reg_of_not_accepted (hm : s.completed c bytes = some m)
    (h : step cfg s (.read c bytes env) = some s')
    (hnot : ∀ uid, ¬ AcceptedLogin cfg env m uid) : s'.reg = s.reg.readDone c bytes := by
  have hnone : CSession.loginOf cfg env m.1 m.2 = none :=
    Option.eq_none_iff_forall_not_mem.2 fun uid huid => hnot uid (loginOf_eq_some_iff.1 huid)
  rw [step_completed hm h, State.reg_handleMessage, hnone]

end Message

/-! ## The gate -/

section Gate

variable {cfg : Config} {db : Database} {es : List Event} {s : State}

/-- A node that was made of a message other than a heartbeat or a login, on a session whose uid is
that of the last accepted login on its connection. -/
structure Gated (cfg : Config) (s₀ s : State) (es : List Event) (e : Event) (node : LogicNode) :
    Prop where
  read : ∃ bytes env, e = .read node._session bytes env ∧
    s.completed node._session bytes = some (node._id, node._body)
  ping : node._id ≠ idHeartbeatPing
  login : node._id ≠ idChatLogin
  latest : LatestLogin cfg s₀ es node._session (s.reg.session node._session)._uid

/-- A session that is authenticated has the uid of the last accepted login. -/
lemma latestLogin_of_authenticated (hrun : run (step cfg) (.init db) es = some s) {c : Conn}
    (hauth : (s.reg.session c)._isAuthenticated = true) :
    LatestLogin cfg (.init db) es c (s.reg.session c)._uid :=
  latestLogin_of_lastPassed hrun (lastPassed_of_authenticated hrun hauth)

lemma gated_of_posted (hrun : run (step cfg) (.init db) es = some s) {e : Event}
    {node : LogicNode} (h : s.posted e = some node) : Gated cfg (.init db) s es e node := by
  cases e with
  | read c bytes env =>
    obtain ⟨m, hm, hnode⟩ := Option.bind_eq_some_iff.1 h
    split_ifs at hnode with hcond
    obtain rfl := Option.some.inj hnode
    push Not at hcond
    obtain ⟨hping, hlogin, hauth⟩ := hcond
    exact ⟨⟨bytes, env, rfl, hm⟩, hping, hlogin,
      latestLogin_of_authenticated hrun (by simpa using hauth)⟩
  | accept _ => cases h
  | readError _ _ => cases h
  | writeError _ => cases h
  | work _ _ _ _ => cases h
  | deliver _ _ => cases h

/-- **The authentication gate.**  After every run: a step takes nodes from the front of a queue of
`LogicSystem`, leaves the queue alone, or appends one node, which was made of a message that its
session has just read, other than a heartbeat or a login; then a login was accepted on the
connection before, and the uid of the session is that of the last one.  Before a login is
accepted, a message other than a heartbeat or a login is refused, with one reply and no other
effect.  And a login changes neither the user of the session nor what is registered for anyone
when its body is malformed, or the token service rejects it or does not answer. -/
theorem authentication_gate (hrun : run (step cfg) (.init db) es = some s) :
    (∀ e s', step cfg s e = some s' → ∀ S i, s'.queues S i <:+ s.queues S i ∨
      ∃ node, s'.queues S i = s.queues S i ++ [node] ∧ Gated cfg (.init db) s es e node) ∧
    (∀ c bytes env s' m, step cfg s (.read c bytes env) = some s' →
      s.completed c bytes = some m → (∀ uid, ¬ LatestLogin cfg (.init db) es c uid) →
      m.1 ≠ idHeartbeatPing → m.1 ≠ idChatLogin → Refused s s' c m.1) ∧
    (∀ c bytes (env : Env) service s' m,
      step cfg s (.read c bytes (env.asking service)) = some s' →
      s.completed c bytes = some m → m.1 = idChatLogin →
      (∀ uid token, CSession.loginRequest (cfg.codec.parse m.2) = .credentials uid token →
        service uid token ≠ some ErrorCodes.success.code) →
      (s'.reg.session c)._isAuthenticated = (s.reg.session c)._isAuthenticated ∧
      (s'.reg.session c)._uid = (s.reg.session c)._uid ∧
      s'.reg.mgr = s.reg.mgr ∧ s'.reg.subs = s.reg.subs ∧
      s'.reg.onlineUsers = s.reg.onlineUsers) := by
  refine ⟨fun e s' hstep S i => ?_, ?_, ?_⟩
  · rcases queues_step hstep S i with hsuffix | ⟨node, hposted, heq⟩
    · exact .inl hsuffix
    · exact .inr ⟨node, heq, gated_of_posted hrun hposted⟩
  · intro c bytes env s' m hstep hm hnone hping hlogin
    refine refused_of_not_authenticated hm hstep ?_ hping hlogin
    by_contra hauth
    exact hnone _ (latestLogin_of_authenticated hrun (Bool.not_eq_false _ ▸ hauth))
  · intro c bytes env service s' m hstep hm _ hnot
    have hnone : ∀ uid, ¬ AcceptedLogin cfg (env.asking service) m uid := by
      intro uid haccepted
      obtain ⟨-, token, hrequest, hsuccess⟩ := acceptedLogin_asking_iff.1 haccepted
      exact hnot uid token hrequest hsuccess
    rw [reg_of_not_accepted hm hstep hnone]
    refine ⟨(user_readDone s.reg c bytes).1, (user_readDone s.reg c bytes).2, ?_, ?_, ?_⟩
    · exact Registry.mgr_readDone bytes
    · exact Registry.subs_readDone bytes
    · exact Registry.onlineUsers_readDone bytes

/-- A message of an authenticated session is posted. -/
lemma posted_of_authenticated {c : Conn} {bytes : Bytes} {env : Env} {m : ℤ × Bytes}
    (hm : s.completed c bytes = some m) (hauth : (s.reg.session c)._isAuthenticated = true)
    (hping : m.1 ≠ idHeartbeatPing) (hlogin : m.1 ≠ idChatLogin) :
    s.posted (.read c bytes env) = some ⟨m.1, m.2, c⟩ := by
  rw [State.posted, hm, Option.bind_some, if_neg]
  simp [hauth, hping, hlogin]

/-- A client that has logged in as user 1 sends a text with an empty body. -/
theorem authentication_gate_loggedIn :
    ∃ s s' node, run (step compactConfig) (.init MySQLMgr.twoUsers)
        (connect compactConfig client₁ 1 "t" noDatabase) = some s ∧
      step compactConfig s (.read client₁ [3, 249, 0, 0] noDatabase) = some s' ∧
      s'.queues 0 1 = [node] ∧ Gated compactConfig (.init MySQLMgr.twoUsers) s
        (connect compactConfig client₁ 1 "t" noDatabase)
        (.read client₁ [3, 249, 0, 0] noDatabase) node := by
  obtain ⟨s, hrun, hread, hauth, huid, hempty⟩ : ∃ s, run (step compactConfig)
      (.init MySQLMgr.twoUsers) (connect compactConfig client₁ 1 "t" noDatabase) = some s ∧
      (s.reg.session client₁).reading = .head ∧
      (s.reg.session client₁)._isAuthenticated = true ∧ (s.reg.session client₁)._uid = 1 ∧
      s.queues 0 1 = [] :=
    ⟨_, run_connect_noDatabase rfl (by decide) (by decide) ⟨by decide, by decide⟩, rfl, rfl, rfl,
      rfl⟩
  have hm : s.completed client₁ [3, 249, 0, 0] = some (1017, []) := by
    rw [State.completed, hread]
    decide
  have hposted : s.posted (.read client₁ [3, 249, 0, 0] noDatabase) = some ⟨1017, [], client₁⟩ :=
    posted_of_authenticated hm hauth (by decide) (by decide)
  obtain ⟨s', hstep⟩ : ∃ s', step compactConfig s (.read client₁ [3, 249, 0, 0] noDatabase) =
      some s' := by
    simp only [step, hread]
    exact ⟨_, rfl⟩
  have hqueue : s'.queues 0 1 = [⟨1017, [], client₁⟩] := by
    obtain ⟨bytes, env, -, -, -, rfl⟩ := step_posted hposted hstep
    have hindex : getQueueIndex compactConfig 0
        ((s.reg.readDone client₁ bytes).session client₁)._uid = 1 := by
      rw [(user_readDone s.reg client₁ bytes).2, huid]
      rfl
    simp only [client₁] at hindex ⊢
    simp [State.postMsgToQueue, hindex, hempty]
  rcases (authentication_gate hrun).1 _ _ hstep 0 1 with hsuffix | ⟨node, heq, hgated⟩
  · rw [hqueue, hempty] at hsuffix
    exact absurd (List.eq_nil_of_suffix_nil hsuffix) (List.cons_ne_nil _ _)
  · rw [hempty] at heq
    exact ⟨s, s', node, hrun, hstep, heq, hgated⟩

end Gate

end WeChat
