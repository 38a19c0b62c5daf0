/-
# Runs and the registration of connections

What an event of the system does to the registration of connections, and what the two reads
that bring one message of a client to its server do to the whole state.  From this follow the
exact conditions under which, in every state of a run, the session of the last login of a user
is registered, and every entry of a `SessionMgr` is a live session of its user.
-/
import WeChat.Lib.JsonText
import WeChat.Chat.Registered

namespace WeChat

open Wire Framed Transition Json

variable {cfg : Config} {s s' : State}

/-! ## What a step does -/

/-- A message is put into a queue or dropped, and nothing else changes. -/
lemma State.postMsgToQueue_spec (cfg : Config) (s : State) (node : LogicNode) :
    ∃ queues, s.postMsgToQueue cfg node = { s with queues := queues } ∧
      ∀ S i, ∀ node' ∈ queues S i, node' ∈ s.queues S i ∨ node' = node := by
  simp only [postMsgToQueue]
  split_ifs
  · exact ⟨s.queues, rfl, fun _ _ _ h => .inl h⟩
  · refine ⟨_, rfl, fun S i node' h => ?_⟩
    rw [update_update_apply] at h
    split_ifs at h with hsame
    · obtain ⟨rfl, rfl⟩ := hsame
      exact (List.mem_append.1 h).imp_right List.mem_singleton.1
    · exact .inl h

lemma State.reg_postMsgToQueue (node : LogicNode) :
    (s.postMsgToQueue cfg node).reg = s.reg := by
  obtain ⟨queues, heq, -⟩ := postMsgToQueue_spec cfg s node
  rw [heq]

/-- A connection that is accepted or fails changes the registration alone. -/
lemma step_ends {e : Event} {c : Conn} (h : step cfg s e = some s')
    (he : e = .accept c ∨ (∃ ec, e = .readError c ec) ∨ e = .writeError c) :
    ∃ reg, s' = { s with reg := reg } := by
  rcases he with rfl | ⟨ec, rfl⟩ | rfl
  all_goals
    simp only [step] at h
    split_ifs at h
    exact ⟨_, (Option.some.inj h).symm⟩

/-- A worker takes the first request of its queue, and handles it when its session is there. -/
lemma step_take {S i : ℕ} {alive : Bool} {env : Env}
    (h : step cfg s (.work S i alive env) = some s') :
    ∃ node queue base done, s.queues S i = node :: queue ∧
      base = { s with
        queues := Function.update s.queues S (Function.update (s.queues S) i queue) } ∧
      done = LogicSystem.handleMsg env s.db (s.reg.mgr S) node._session node._id
        (cfg.codec.parse node._body) ∧
      (s.reg.lock node._session alive = true ∧
          s' = { base with db := done.1 }.perform cfg done.2 ∨
        s.reg.lock node._session alive = false ∧ s' = base) := by
  simp only [step] at h
  split at h
  · cases h
  · next node queue hqueue =>
    refine ⟨node, queue, _, _, hqueue, rfl, rfl, ?_⟩
    split_ifs at h with hlock
    · exact .inl ⟨hlock, (Option.some.inj h).symm⟩
    · exact .inr ⟨Bool.eq_false_iff.2 hlock, (Option.some.inj h).symm⟩

/-- The callback handles the first text that was pushed. -/
lemma step_deliver {S : ℕ} {env : Env} (h : step cfg s (.deliver S env) = some s') :
    ∃ text texts, s.inbox S = text :: texts ∧
      s' = { s with inbox := Function.update s.inbox S texts }.perform cfg
        (LogicSystem.subscriberCallback env s.db (s.reg.mgr S) (cfg.codec.parse text)) := by
  simp only [step] at h
  split at h
  · cases h
  · next text texts hinbox => exact ⟨text, texts, hinbox, (Option.some.inj h).symm⟩

/-- A step changes the registration alone, or a session handles a message, or a worker takes a
request from its queue, or the callback handles a text that was pushed. -/
lemma step_cases {e : Event} (h : step cfg s e = some s') :
    (∃ reg, s' = { s with reg := reg }) ∨
    (∃ c bytes env msgId msgBody, e = .read c bytes env ∧
      s' = State.handleMessage cfg { s with reg := s.reg.readDone c bytes } env c msgId msgBody) ∨
    (∃ S i alive env node queue base, e = .work S i alive env ∧ s.queues S i = node :: queue ∧
      base = { s with
        queues := Function.update s.queues S (Function.update (s.queues S) i queue) } ∧
      (s' = base ∨ ∃ done, done = LogicSystem.handleMsg env s.db (s.reg.mgr S) node._session
          node._id (cfg.codec.parse node._body) ∧
        s' = { base with db := done.1 }.perform cfg done.2)) ∨
    (∃ S env text texts, e = .deliver S env ∧ s.inbox S = text :: texts ∧
      s' = { s with inbox := Function.update s.inbox S texts }.perform cfg
        (LogicSystem.subscriberCallback env s.db (s.reg.mgr S) (cfg.codec.parse text))) := by
  cases e with
  | accept c => exact .inl (step_ends h (.inl rfl))
  | read c bytes env =>
    simp only [step] at h
    split_ifs at h
    split at h
    · next msgId msgBody hm =>
      exact .inr (.inl ⟨c, bytes, env, msgId, msgBody, rfl, (Option.some.inj h).symm⟩)
    · exact .inl ⟨_, (Option.some.inj h).symm⟩
  | readError c ec => exact .inl (step_ends h (.inr (.inl ⟨ec, rfl⟩)))
  | writeError c => exact .inl (step_ends h (.inr (.inr rfl)))
  | work S i alive env =>
    obtain ⟨node, queue, base, done, hqueue, hbase, hdone, hlock⟩ := step_take h
    refine .inr (.inr (.inl ⟨S, i, alive, env, node, queue, base, rfl, hqueue, hbase, ?_⟩))
    rcases hlock with ⟨-, heq⟩ | ⟨-, heq⟩
    · exact .inr ⟨done, hdone, heq⟩
    · exact .inl heq
  | deliver S env =>
    obtain ⟨text, texts, hinbox, heq⟩ := step_deliver h
    exact .inr (.inr (.inr ⟨S, env, text, texts, rfl, hinbox, heq⟩))

/-! ## Registration as a part of the system -/

/-- The user of the login that a message brings about, if it brings one about. -/
def CSession.loginOf (cfg : Config) (env : Env) (msgId : ℤ) (msgBody : Bytes) : Option ℤ :=
  if msgId = idChatLogin then
    match loginRequest (cfg.codec.parse msgBody) with
    | .credentials uid token =>
      if env.checkToken uid token = ErrorCodes.success.code then some uid else none
    | _ => none
  else none

/-- What an event does to the registration. -/
def regEvent (cfg : Config) (s : State) : Event → RegEvent
  | .accept c => .accept c
  | .read c bytes env =>
    .read c bytes ((CSession.onRead (s.reg.session c).reading bytes).1.bind fun m =>
      CSession.loginOf cfg env m.1 m.2)
  | .readError c ec => .readError c ec
  | .writeError c => .writeError c
  | .work _ _ _ _ => .skip
  | .deliver _ _ => .skip

/-- A message changes the registration only when it is an accepted login. -/
lemma State.reg_handleMessage (env : Env) (c : Conn) (msgId : ℤ) (msgBody : Bytes) :
    (s.handleMessage cfg env c msgId msgBody).reg =
      match CSession.loginOf cfg env msgId msgBody with
      | some uid => s.reg.login c uid
      | none => s.reg := by
  unfold handleMessage CSession.loginOf
  by_cases hping : msgId = idHeartbeatPing
  · have hlogin : msgId ≠ idChatLogin := hping ▸ by decide
    rw [if_pos hping, if_neg hlogin]
    rfl
  · rw [if_neg hping]
    by_cases hlogin : msgId = idChatLogin
    · rw [if_pos hlogin, if_pos hlogin]
      cases CSession.loginRequest (cfg.codec.parse msgBody) with
      | exception => rfl
      | ignored => rfl
      | credentials uid token =>
        simp only
        split_ifs <;> rfl
    · rw [if_neg hlogin, if_neg hlogin]
      split_ifs
      · rfl
      · exact reg_postMsgToQueue _

/-- The header of an empty message and a body are followed by the next header. -/
lemma CSession.next_of_message {reading : Reading} {bytes : Bytes} {m : ℤ × Bytes}
    (h : (onRead reading bytes).1 = some m) : (onRead reading bytes).2 = .head := by
  revert h
  fun_cases onRead reading bytes with
  | case1 => exact fun h => by cases h
  -- an empty message, and below a message whose body was read
  | case2 => exact fun _ => rfl
  | case3 => exact fun h => by cases h
  | case4 => exact fun _ => rfl
  | case5 => exact fun h => by cases h

/-- **The registration of connections runs as a machine of its own.** -/
theorem reg_step {e : Event} (h : step cfg s e = some s') :
    s.reg.Enabled (regEvent cfg s e) ∧ s'.reg = s.reg.apply (regEvent cfg s e) := by
  cases e with
  | accept c =>
    simp only [step] at h
    split_ifs at h with hacc
    obtain rfl := Option.some.inj h
    exact ⟨Bool.eq_false_iff.2 hacc, rfl⟩
  | read c bytes env =>
    simp only [step] at h
    split_ifs at h with hwant
    have hread : (s.reg.session c).reading ≠ .stopped := by
      intro hstop
      rw [hstop] at hwant
      cases hwant
    simp only [regEvent, Registry.Enabled]
    cases hm : (CSession.onRead (s.reg.session c).reading bytes).1 with
    | none =>
      rw [hm] at h
      obtain rfl := Option.some.inj h
      exact ⟨⟨hread, fun hsome => absurd rfl hsome⟩, rfl⟩
    | some m =>
      rw [hm] at h
      obtain rfl := Option.some.inj h
      -- the message is handled after the next read has been armed
      refine ⟨⟨hread, fun _ => CSession.next_of_message hm⟩, ?_⟩
      rw [State.reg_handleMessage, Option.bind_some]
      cases CSession.loginOf cfg env m.1 m.2 <;> rfl
  | readError c ec =>
    simp only [step] at h
    split_ifs at h with hread
    obtain rfl := Option.some.inj h
    exact ⟨hread, rfl⟩
  | writeError c =>
    simp only [step] at h
    split_ifs at h
    obtain rfl := Option.some.inj h
    exact ⟨trivial, rfl⟩
  | work S i alive env =>
    obtain ⟨node, queue, base, done, -, rfl, -, ⟨-, rfl⟩ | ⟨-, rfl⟩⟩ := step_take h
    · exact ⟨trivial, rfl⟩
    · exact ⟨trivial, rfl⟩
  | deliver S env =>
    obtain ⟨text, texts, -, rfl⟩ := step_deliver h
    exact ⟨trivial, rfl⟩

/-- In every reachable state an entry is a connection of its server that was accepted. -/
lemma local_step (s : State) (e : Event) (s' : State) (hl : s.reg.Local)
    (h : step cfg s e = some s') : s'.reg.Local := by
  obtain ⟨hen, heq⟩ := reg_step h
  exact heq ▸ Registry.local_apply hl hen

/-! ## Messages that arrive -/

/-- The two reads that bring a message to the server. -/
def received (c : Conn) (msgId : ℤ) (msgBody : Bytes) (env : Env) : List Event :=
  [.read c (header msgId msgBody.length) env, .read c msgBody env]

/-- The bodies that arrive whole: not empty, and at most `MSG_MAX_LEN` bytes. -/
structure Fits (msgBody : Bytes) : Prop where
  pos : 0 < msgBody.length
  le : msgBody.length ≤ 8192

section Received

variable {c : Conn} {msgId : ℤ} {msgBody : Bytes} {env : Env}

/-- A header is followed by the read of the body that it announces. -/
lemma onRead_header (hid : toShort msgId = msgId) (hfits : Fits msgBody) :
    CSession.onRead .head (header msgId msgBody.length) =
      (none, .body msgId msgBody.length) := by
  have hpos := hfits.pos
  have hle := hfits.le
  have hlen : toShort msgBody.length = msgBody.length := toShort_natCast_eq_iff.2 (by omega)
  have hneg : ¬ ((msgBody.length : ℤ) < 0 ∨ msgMaxLen < msgBody.length) := by
    rw [msgMaxLen]
    omega
  have hzero : (msgBody.length : ℤ) ≠ 0 := by omega
  simp only [header, be16, List.cons_append, List.nil_append, CSession.onRead, toShort_u16_be,
    hid, hlen, if_neg hneg, if_neg hzero]

/-- The state in which the body of a message is read. -/
def State.awaiting (s : State) (c : Conn) (msgId : ℤ) (msgBody : Bytes) : State :=
  { s with reg := s.reg.arm c (.body msgId msgBody.length) }

lemma reading_awaiting :
    ((s.awaiting c msgId msgBody).reg.session c).reading = .body msgId msgBody.length := by
  simp [State.awaiting, Registry.arm, Registry.modify]

lemma step_header (hread : (s.reg.session c).reading = .head) (hid : toShort msgId = msgId)
    (hfits : Fits msgBody) :
    step cfg s (.read c (header msgId msgBody.length) env) =
      some (s.awaiting c msgId msgBody) := by
  have hhead := onRead_header hid hfits
  have hreg : s.reg.readDone c (header msgId msgBody.length) =
      s.reg.arm c (.body msgId msgBody.length) := by
    simp only [Registry.readDone, hread, hhead]
    rfl
  simp only [step, hread, hhead, hreg]
  rfl

lemma step_body (hread : (s.reg.session c).reading = .head) :
    step cfg (s.awaiting c msgId msgBody) (.read c msgBody env) =
      some (s.handleMessage cfg env c msgId msgBody) := by
  -- the next header is armed again, as it was before the message
  have hreg : (s.awaiting c msgId msgBody).reg.readDone c msgBody = s.reg := by
    have hsame : ({ s.reg.session c with reading := .head } : Session) = s.reg.session c := by
      rw [← hread]
    simp only [Registry.readDone, reading_awaiting, CSession.onRead]
    simp [State.awaiting, Registry.arm, Registry.modify, hsame]
  simp only [step, reading_awaiting, CSession.Reading.want, Int.toNat_natCast, hreg,
    CSession.onRead]
  rfl

lemma run_received (hread : (s.reg.session c).reading = .head) (hid : toShort msgId = msgId)
    (hfits : Fits msgBody) :
    run (step cfg) s (received c msgId msgBody env) =
      some (s.handleMessage cfg env c msgId msgBody) := by
  rw [received, run_cons (step_header hread hid hfits), run_cons (step_body hread), run_nil]

/-- A condition on the two steps. -/
lemma allSteps_received {ok : State → Event → Prop} (hread : (s.reg.session c).reading = .head)
    (hid : toShort msgId = msgId) (hfits : Fits msgBody)
    (hhead : ok s (.read c (header msgId msgBody.length) env))
    (hbody : ok (s.awaiting c msgId msgBody) (.read c msgBody env)) :
    AllSteps (step cfg) ok s (received c msgId msgBody env) := by
  refine ⟨hhead, fun s₁ h₁ => ?_⟩
  obtain rfl := Option.some.inj ((step_header hread hid hfits).symm.trans h₁)
  exact ⟨hbody, fun _ _ => trivial⟩

/-- A request of a session that has logged in is put into a queue. -/
lemma run_request (hread : (s.reg.session c).reading = .head)
    (hauth : (s.reg.session c)._isAuthenticated) (hid : toShort msgId = msgId)
    (hping : msgId ≠ idHeartbeatPing) (hlogin : msgId ≠ idChatLogin) (hfits : Fits msgBody) :
    run (step cfg) s (received c msgId msgBody env) =
      some (s.postMsgToQueue cfg ⟨msgId, msgBody, c⟩) := by
  rw [run_received hread hid hfits, State.handleMessage, if_neg hping, if_neg hlogin,
    if_neg (by simp [hauth])]

end Received

/-- The body of a login. -/
def loginBody (cfg : Config) (uid : ℤ) (token : String) : Bytes :=
  cfg.codec.dump (object [("uid", .num uid), ("token", .str token)])

lemma CSession.loginRequest_loginBody {uid : ℤ} (huid : toInt32 uid = uid) (token : String) :
    loginRequest (cfg.codec.parse (loginBody cfg uid token)) = .credentials uid token := by
  have hwf : (object [("uid", .num uid), ("token", .str token)]).Wf :=
    wf_object (by simp [Wf])
  rw [loginBody, cfg.codec.parse_dump hwf]
  simp [loginRequest, object, contains, getInt, getStr, Json.get, lookup_ofFields, List.lookup,
    toInt, toStr, huid]

/-- An answer with one list. -/
def CSession.listAnswer (c : Conn) (id : ℤ) (key : String) (list : Json) : Output :=
  LogicSystem.answer c id [("error", .num ErrorCodes.success.code), (key, list)]

section InitialData

open CSession

variable {codec : Codec} {env : Env} {db : Database} {mgr : ℤ → Option Conn} {c : Conn} {uid : ℤ}

variable (codec env db mgr c) in
/-- The friend list comes first, and the other lists are no friend lists. -/
lemma CSession.sendInitialData_eq_cons (hpos : 0 < uid) :
    ∃ rest, sendInitialData codec env db mgr c uid = listAnswer c idFriendListRsp "friends"
        (.arr ((MySQLMgr.getFriendList (env.ok 0) db uid).map (LogicSystem.userJson mgr))) :: rest ∧
      ∀ o ∈ rest, ∃ list, o = listAnswer c idFriendRequestListRsp "requests" list ∨
        o = listAnswer c idRecentMessagesRsp "recentMessages" list := by
  rw [sendInitialData, initialData, if_neg (not_le.2 hpos), List.append_assoc,
    List.singleton_append, untilThrow]
  split_ifs
  · exact ⟨[], rfl, fun o ho => absurd ho List.not_mem_nil⟩
  all_goals
    refine ⟨_, rfl, fun o ho => ?_⟩
    replace ho := (isPrefix_untilThrow codec _).subset ho
  · split at ho
    · exact ⟨_, .inr (List.mem_singleton.1 ho)⟩
    · exact absurd ho List.not_mem_nil
  · rcases List.mem_append.1 ho with ho | ho
    · exact ⟨_, .inl (List.mem_singleton.1 ho)⟩
    · split at ho
      · exact ⟨_, .inr (List.mem_singleton.1 ho)⟩
      · exact absurd ho List.not_mem_nil

/-- What is sent after a login: answers with one list each. -/
lemma CSession.mem_sendInitialData {o : Output} (ho : o ∈ sendInitialData codec env db mgr c uid) :
    ∃ id key list, (id, key) ∈ [(idFriendListRsp, "friends"),
        (idFriendRequestListRsp, "requests"), (idRecentMessagesRsp, "recentMessages")] ∧
      o = listAnswer c id key list := by
  by_cases hpos : 0 < uid
  · obtain ⟨rest, heq, hrest⟩ := sendInitialData_eq_cons codec env db mgr c hpos
    rw [heq] at ho
    rcases List.mem_cons.1 ho with rfl | ho
    · exact ⟨_, _, _, List.mem_cons_self, rfl⟩
    · obtain ⟨list, rfl | rfl⟩ := hrest o ho
      · exact ⟨_, _, _, List.mem_cons_of_mem _ List.mem_cons_self, rfl⟩
      · exact ⟨_, _, _, List.mem_cons_of_mem _ (List.mem_cons_of_mem _ List.mem_cons_self), rfl⟩
  · rw [sendInitialData, initialData, if_pos (not_lt.1 hpos)] at ho
    exact absurd ho List.not_mem_nil

end InitialData

/-- An accepted login. -/
lemma run_login {c : Conn} {uid : ℤ} {token : String} {env : Env}
    (hread : (s.reg.session c).reading = .head) (huid : toInt32 uid = uid)
    (hfits : Fits (loginBody cfg uid token))
    (hok : env.checkToken uid token = ErrorCodes.success.code) :
    run (step cfg) s (received c idChatLogin (loginBody cfg uid token) env) =
      some ({ s with reg := s.reg.login c uid }.perform cfg
        (LogicSystem.answer c idChatLoginRsp
            [("error", .num ErrorCodes.success.code), ("token", .str token)] ::
          CSession.sendInitialData cfg.codec env s.db ((s.reg.login c uid).mgr c.srv) c uid)) := by
  rw [run_received hread (by decide) hfits]
  have hping : idChatLogin ≠ idHeartbeatPing := by decide
  simp only [State.handleMessage, if_neg hping, CSession.loginRequest_loginBody huid, hok, if_true]

/-- A client connects and logs in. -/
def connect (cfg : Config) (c : Conn) (uid : ℤ) (token : String) (env : Env) : List Event :=
  .accept c :: received c idChatLogin (loginBody cfg uid token) env

lemma run_connect {c : Conn} {uid : ℤ} {token : String} {env : Env}
    (hnew : (s.reg.session c).accepted = false) (huid : toInt32 uid = uid)
    (hfits : Fits (loginBody cfg uid token))
    (hok : env.checkToken uid token = ErrorCodes.success.code) :
    run (step cfg) s (connect cfg c uid token env) =
      some ({ s with reg := (s.reg.accept c).login c uid }.perform cfg
        (LogicSystem.answer c idChatLoginRsp
            [("error", .num ErrorCodes.success.code), ("token", .str token)] ::
          CSession.sendInitialData cfg.codec env s.db (((s.reg.accept c).login c uid).mgr c.srv) c
            uid)) := by
  have haccept : step cfg s (.accept c) = some { s with reg := s.reg.accept c } := by
    simp only [step, hnew]
    rfl
  have hread : ((s.reg.accept c).session c).reading = .head := by
    rw [Registry.session_accept, if_pos rfl]
  rw [connect, run_cons haccept]
  exact run_login hread huid hfits hok

/-- The live sessions of a new connection that logs in, and of the others. -/
lemma live_connect_iff {r : Registry} {c c' : Conn} {uid uid' : ℤ} :
    ((r.accept c).login c uid).Live uid' c' ↔
      (c' = c ∧ uid' = uid) ∨ (c' ≠ c ∧ r.Live uid' c') := by
  have hses : ((r.accept c).login c uid).session c' =
      if c' = c then ⟨.head, true, uid, false, true, true⟩ else r.session c' := by
    rw [Registry.session_login, Registry.session_accept, Registry.session_accept, if_pos rfl]
    split_ifs <;> rfl
  by_cases hc : c' = c
  · rw [if_pos hc] at hses
    have hlive : ((r.accept c).login c uid).Live uid' c' ↔ uid = uid' := by
      refine ⟨fun h => ?_, fun h => ⟨?_, ?_, ?_, ?_⟩⟩
      · have := h.uid_eq
        rwa [hses] at this
      · rw [hses]
      · rwa [hses]
      · rw [hses]
        rintro ⟨⟩
      · rw [hses]
    rw [hlive]
    simp [hc, eq_comm]
  · rw [Registry.live_congr (hses.trans (if_neg hc))]
    simp [hc]

lemma not_live_init {c : Conn} {uid : ℤ} : ¬ Registry.init.Live uid c := fun h =>
  h.reading rfl

/-- A session whose chain ends is not live. -/
lemma live_arm_stopped_iff {r : Registry} {c c' : Conn} {uid : ℤ} :
    (r.arm c .stopped).Live uid c' ↔ c' ≠ c ∧ r.Live uid c' := by
  refine Registry.live_iff_of_end (fun hc => ?_) fun h => h.reading ?_
  · simp [Registry.arm, Registry.modify, hc]
  · simp [Registry.arm, Registry.modify]

/-- An environment that accepts every token and in which no database call succeeds. -/
def noDatabase : Env := ⟨fun _ => false, 0, "", .ascending, fun _ _ => 0⟩

/-- What a client is sent when it logs in and the database fails. -/
def greeting (c : Conn) (token : String) : List (Conn × ℤ × Json) :=
  [(c, idChatLoginRsp, object [("error", .num ErrorCodes.success.code), ("token", .str token)]),
    (c, idFriendListRsp,
      object [("error", .num ErrorCodes.success.code), ("friends", .arr [])])]

lemma run_connect_noDatabase {c : Conn} {uid : ℤ} {token : String}
    (hnew : (s.reg.session c).accepted = false) (hpos : 0 < uid) (huid : toInt32 uid = uid)
    (hfits : Fits (loginBody cfg uid token)) :
    run (step cfg) s (connect cfg c uid token noDatabase) =
      some { s with
        reg := (s.reg.accept c).login c uid
        sent := s.sent ++ greeting c token } := by
  have hdata : ∀ mgr, CSession.sendInitialData cfg.codec noDatabase s.db mgr c uid =
      [LogicSystem.answer c idFriendListRsp
        [("error", .num ErrorCodes.success.code), ("friends", .arr [])]] := by
    intro mgr
    simp [CSession.sendInitialData, CSession.initialData, noDatabase, MySQLMgr.getFriendList,
      MySQLMgr.getFriendRequests, MySQLMgr.getLastMessages, not_le.2 hpos]
  have hinbox : ∀ S, s.inbox S ++ [] = s.inbox S := fun S => List.append_nil _
  rw [run_connect hnew huid hfits rfl, hdata]
  exact congrArg (fun inbox => some { s with
    reg := (s.reg.accept c).login c uid
    inbox := inbox
    sent := s.sent ++ greeting c token }) (funext hinbox)

/-- Servers that write compact JSON and have four workers. -/
def compactConfig : Config := ⟨Json.compact, fun _ => 4⟩

/-- A client of server 0. -/
def client₁ : Conn := ⟨0, 1⟩

/-- Another client of server 0. -/
def client₂ : Conn := ⟨0, 2⟩

/-! ## Two exact conditions -/

section Exact

variable {db : Database} {es : List Event}

/-- **In every state of a run the session of the last login of a user stays registered while it
is read, if and only if no step of the run is the failure of a read that removes the uid of a
session with which another session, still read, has logged in since.** -/
theorem current_iff (hrun : run (step cfg) (.init db) es = some s) :
    AllStates (step cfg) (fun s => s.reg.Current) (.init db) es ↔
      AllSteps (step cfg) (fun s e => s.reg.KeepsCurrent (regEvent cfg s e)) (.init db) es := by
  refine allStates_iff_allSteps local_step ?_ hrun Registry.local_init ?_
  · intro s e s' hl hcur h
    obtain ⟨hen, heq⟩ := reg_step h
    rw [heq]
    exact Registry.current_apply_iff hl hen hcur
  · rintro S uid c ⟨⟩

/-- Two clients log in as one user, and the second one disconnects before the first. -/
theorem current_secondLogin :
    AllStates (step compactConfig) (fun s => s.reg.Current) (.init MySQLMgr.twoUsers)
      (connect compactConfig client₁ 1 "t" noDatabase ++
        (connect compactConfig client₂ 1 "u" noDatabase ++
          [.readError client₂ .eof, .readError client₁ .eof])) := by
  let t₁ : State := { State.init MySQLMgr.twoUsers with
    reg := (Registry.init.accept client₁).login client₁ 1
    sent := greeting client₁ "t" }
  have hfirst : run (step compactConfig) (.init MySQLMgr.twoUsers)
      (connect compactConfig client₁ 1 "t" noDatabase) = some t₁ :=
    run_connect_noDatabase rfl (by decide) (by decide) ⟨by decide, by decide⟩
  have hsecond : run (step compactConfig) t₁ (connect compactConfig client₂ 1 "u" noDatabase) =
      some _ :=
    run_connect_noDatabase rfl (by decide) (by decide) ⟨by decide, by decide⟩
  have hconnect : ∀ s c token, AllSteps (step compactConfig)
      (fun s e => s.reg.KeepsCurrent (regEvent compactConfig s e)) s
        (connect compactConfig c 1 token noDatabase) := by
    refine fun s c token => .of_forall (fun s e he => ?_) _
    simp only [connect, received, List.mem_cons, List.not_mem_nil, or_false] at he
    rcases he with rfl | rfl | rfl <;> trivial
  refine (current_iff ((run_append_of hfirst).trans ((run_append_of hsecond).trans rfl))).2
    (.append (hconnect _ _ _) hfirst (.append (hconnect _ _ _) hsecond ⟨?_, fun s hs => ?_⟩))
  · exact fun _ c' hc' => .inl (Option.some.inj hc').symm
  · -- the session of the last login is no longer read
    obtain rfl := Option.some.inj hs
    refine ⟨fun _ c' hc' => .inr ?_, fun _ _ => trivial⟩
    obtain rfl := Option.some.inj hc'
    rfl

/-- The first of two clients that log in as one user disconnects, and the second one, which is
still there, is no longer registered. -/
theorem not_current_takeover :
    ∃ s, run (step compactConfig) (.init MySQLMgr.twoUsers)
        (connect compactConfig client₁ 1 "t" noDatabase ++
          (connect compactConfig client₂ 1 "u" noDatabase ++ [.readError client₁ .eof])) = some s ∧
      ¬ s.reg.Current := by
  rw [run_append_of
      (run_connect_noDatabase rfl (by decide) (by decide) ⟨by decide, by decide⟩),
    run_append_of
      (run_connect_noDatabase rfl (by decide) (by decide) ⟨by decide, by decide⟩)]
  refine ⟨_, rfl, fun hcur => ?_⟩
  have hentry := hcur 0 1 client₂ (by decide) (by decide)
  revert hentry
  decide

/-- **In every state of a run every entry of a `SessionMgr` is an authenticated session of its
user that is read and not closed, if and only if every step of the run keeps it so: a read
error that removes nothing, a write error and a refused length are of sessions without an
entry, and a login is on a session that is not closed and has no entry under another uid.** -/
theorem exact_iff (hrun : run (step cfg) (.init db) es = some s) :
    AllStates (step cfg) (fun s => s.reg.Exact) (.init db) es ↔
      AllSteps (step cfg) (fun s e => s.reg.KeepsExact (regEvent cfg s e)) (.init db) es := by
  refine allStates_iff_allSteps local_step ?_ hrun Registry.local_init ?_
  · intro s e s' hl hex h
    obtain ⟨hen, heq⟩ := reg_step h
    rw [heq]
    exact Registry.exact_apply_iff hl hen hex
  · rintro S uid c ⟨⟩

/-- A client that has not logged in sends a length that is refused. -/
theorem exact_refusedLength :
    AllStates (step compactConfig) (fun s => s.reg.Exact) (.init MySQLMgr.twoUsers)
      [.accept client₁, .read client₁ (header idChatLogin (-1)) noDatabase] := by
  refine (exact_iff rfl).2 ⟨trivial, fun s hs => ⟨?_, fun _ _ => trivial⟩⟩
  obtain rfl := Option.some.inj hs
  exact fun _ S uid h => by cases h

/-- A client logs in, and its connection fails in a header with an error that is neither an end
of file nor a reset: the entry stays. -/
theorem not_exact_otherError :
    ∃ s, run (step compactConfig) (.init MySQLMgr.twoUsers)
        (connect compactConfig client₁ 1 "t" noDatabase ++ [.readError client₁ .other]) = some s ∧
      ¬ s.reg.Exact := by
  rw [run_append_of
      (run_connect_noDatabase rfl (by decide) (by decide) ⟨by decide, by decide⟩)]
  refine ⟨_, rfl, fun hex => ?_⟩
  exact (hex 0 1 client₁ (by decide)).reading (by decide)

end Exact

end WeChat
