/-
# Private messages that were acknowledged

A request that a worker has answered with success has been stored.  A private message is then
notified to its recipient exactly once, when every entry of a `SessionMgr` is live and every
live connection is found through the entries of its server.
-/
import WeChat.Chat.Delivery

namespace WeChat

open Wire Transition LogicSystem

/-- A worker of the server `S` handles a request and answers it with success and the key of a
message. -/
structure Answers (cfg : Config) (s s₁ : State) (S : ℕ) (env : Env) (node : LogicNode)
    (body : Json) (rspId mid : ℤ) : Prop where
  work : ∃ i alive queue, s.queues S i = node :: queue ∧
    step cfg s (.work S i alive env) = some s₁
  parse : cfg.codec.parse node._body = some body
  success : ∃ answer, (node._session, rspId, answer) ∈ s₁.sent.drop s.sent.length ∧
    answer.getInt "error" = some ErrorCodes.success.code ∧ messageId answer = some mid

section Answered

variable {cfg : Config} {s s₁ : State} {S : ℕ} {env : Env} {node : LogicNode} {body : Json}
  {rspId mid : ℤ}

/-- A worker that answers has run the handler of the request. -/
lemma Answers.handled (h : Answers cfg s s₁ S env node body rspId mid) :
    ∃ queues handler done,
      msgHandler env s.db (s.reg.mgr S) node._session node._id = some handler ∧
      handler (some body) = some done ∧
      s₁ = { s with queues := queues, db := done.1 }.perform cfg done.2 ∧
      ∃ answer, Output.send node._session rspId answer ∈ done.2 ∧
        answer.getInt "error" = some ErrorCodes.success.code ∧ messageId answer = some mid := by
  obtain ⟨i, alive, queue, hqueue, hstep⟩ := h.work
  obtain ⟨answer, hmem, herror, hmid⟩ := h.success
  have hlen : ∀ {queues db outputs}, Option.some s₁ =
      some ({ s with queues := queues, db := db }.perform cfg outputs) →
        Output.send node._session rspId answer ∈ outputs := by
    intro queues db outputs heq
    rw [Option.some.inj heq] at hmem
    have hdrop : List.drop s.sent.length (s.sent ++ outputs.filterMap Output.sent) =
        outputs.filterMap Output.sent := List.drop_left
    rw [State.perform, hdrop] at hmem
    obtain ⟨o, ho, hsent⟩ := List.mem_filterMap.1 hmem
    cases o with
    | send session id msg =>
      cases hsent
      exact ho
    | publish uid msg => cases hsent
  have hquiet : ∀ queues db, ({ s with queues := queues, db := db } : State) =
      ({ s with queues := queues, db := db } : State).perform cfg [] := by
    intro queues db
    simp [State.perform]
  simp only [step, hqueue] at hstep
  split_ifs at hstep with hlock
  · cases hcall : (msgHandler env s.db (s.reg.mgr S) node._session node._id).bind
      fun handler => handler (some body) with
    | none =>
      rw [handleMsg, h.parse, hcall] at hstep
      exact absurd (hlen hstep.symm) List.not_mem_nil
    | some done =>
      rw [handleMsg, h.parse, hcall] at hstep
      obtain ⟨handler, hhandler, hdone⟩ := Option.bind_eq_some_iff.1 hcall
      exact ⟨_, handler, done, hhandler, hdone, (Option.some.inj hstep).symm,
        answer, hlen hstep.symm, herror, hmid⟩
  · -- the session is gone, and nothing is sent
    have hnone := hstep.symm.trans (congrArg some (hquiet _ _))
    exact absurd (hlen hnone) List.not_mem_nil

lemma Answers.stepped (h : Answers cfg s s₁ S env node body rspId mid) :
    ∃ e, step cfg s e = some s₁ := by
  obtain ⟨i, alive, queue, -, hstep⟩ := h.work
  exact ⟨_, hstep⟩

/-- The key in an answer of success is that of the message: the notifications that are sent with
it have another identifier. -/
lemma key_of_answer {α : Type*} (items : List α) (uid : α → ℤ) {mgr : ℤ → Option Conn}
    {notify msg answered : Json} {session : Conn} {id mid' : ℤ} {now : String}
    (hids : id ≠ rspId) (hself : toInt32 mid' = mid')
    (hmem : Output.send session rspId answered ∈
      items.map (fun x => notifyOrPublish mgr (uid x) id notify msg) ++
        [answer session rspId [("error", .num ErrorCodes.success.code), ("messageId", .num mid'),
          ("time", .str now)]])
    (hmid : messageId answered = some mid) : mid' = mid := by
  rcases List.mem_append.1 hmem with hsend | hsend
  · obtain ⟨x, -, hsend⟩ := List.mem_map.1 hsend
    rw [notifyOrPublish] at hsend
    cases hmgr : mgr (uid x) with
    | none =>
      rw [hmgr] at hsend
      cases hsend
    | some c =>
      rw [hmgr] at hsend
      injection hsend with _ hid _
      exact absurd hid hids
  · cases List.mem_singleton.1 hsend
    exact Option.some.inj ((messageId_success hself now).symm.trans hmid)

lemma error_answerError {error : ErrorCodes} (herror : error ≠ .success) :
    (Json.object [("error", .num error.code)]).getInt "error" ≠
      some ErrorCodes.success.code := by
  rw [getInt_object]
  cases error <;> first | exact absurd rfl herror | decide

/-! ## Private messages -/

/-- The handler of a private message for the identifier of a request. -/
def IsPrivate (kind : MessageKind) (msgId : ℤ) : Prop :=
  (kind = textChat ∧ msgId = idTextChatMsgReq) ∨ (kind = imageChat ∧ msgId = idImageChatMsgReq)

variable {kind : MessageKind}

lemma IsPrivate.handler_eq {db : Database} {mgr : ℤ → Option Conn} {session : Conn} {msgId : ℤ}
    {handler : Option Json → Option (Database × List Output)} (hkind : IsPrivate kind msgId)
    (h : msgHandler env db mgr session msgId = some handler) :
    handler = privateMessage env db mgr session kind := by
  rcases hkind with ⟨rfl, rfl⟩ | ⟨rfl, rfl⟩
  · exact (Option.some.inj h).symm
  · exact (Option.some.inj h).symm

/-- A private message that is answered with success has been stored, and it has been notified or
published. -/
lemma Answers.private_stored (h : Answers cfg s s₁ S env node body kind.rspId mid)
    (hkind : IsPrivate kind node._id) {toUid : ℤ} (hto : body.getInt "toUid" = some toUid) :
    ∃ fromUid fromUser content extra queues db fields,
      kind.extra body = some extra ∧ s.db.messages.last < mid ∧ db.messages.last = mid ∧
      toInt32 mid = mid ∧
      s₁ = { s with queues := queues, db := db }.perform cfg
        ([toUid].map (fun uid => notifyOrPublish (s.reg.mgr S) uid kind.notifyId
            (privateNotify extra mid fromUid fromUser content env.now)
            (privatePublished kind extra mid fromUid fromUser toUid content env.now)) ++
          [answer node._session kind.rspId fields]) := by
  obtain ⟨queues, handler, done, hhandler, hdone, hs₁, ans, hmem, herror, hmid⟩ := h.handled
  have hprivate : privateMessage env s.db (s.reg.mgr S) node._session kind (some body) =
      some done := by
    rw [← hkind.handler_eq hhandler, hdone]
  have hids : kind.notifyId ≠ kind.rspId := by
    rcases hkind with ⟨rfl, -⟩ | ⟨rfl, -⟩ <;> decide
  obtain ⟨body', fromUid, toUid', content, extra, hbody, -, hto', -, hextra, hcases⟩ :=
    privateMessage_spec hprivate
  obtain rfl := Option.some.inj hbody
  obtain rfl := Option.some.inj (hto.symm.trans hto')
  rcases hcases with rfl | ⟨mid', db, fromUser, hstored, rfl⟩
  · -- a request that is not stored is answered with an error
    cases List.mem_singleton.1 hmem
    exact absurd herror (error_answerError (by decide))
  · have hself := hstored.toInt32_id
    obtain rfl : mid' = mid := key_of_answer [toUid] id hids hself hmem hmid
    exact ⟨fromUid, fromUser, content, extra, queues, db, _, hextra, hstored.new,
      hstored.last_eq, hself, hs₁⟩

/-- In a careful run every live connection is found. -/
lemma routed_of_run {db : Database} {es : List Event}
    (hrun : run (step cfg) (.init db) es = some s)
    (hcareful : AllSteps (step cfg) (fun s e => s.reg.Careful (regEvent cfg s e)) (.init db) es) :
    s.reg.Local ∧ s.reg.Routed := by
  refine run_induction (I := fun s => s.reg.Local ∧ s.reg.Routed) ?_ hrun hcareful ?_
  · rintro s e s' ⟨hl, hr⟩ hc h
    obtain ⟨hen, heq⟩ := reg_step h
    exact heq ▸ ⟨Registry.local_apply hl hen, Registry.routed_apply hl hen hr hc⟩
  · refine ⟨Registry.local_init, ?_, ?_, ?_⟩
    · rintro S uid c ⟨⟩
    · intro uid c hlive
      exact absurd rfl hlive.reading
    · intro uid c hlive
      exact absurd rfl hlive.reading

end Answered

/-! ## Two runs -/

section Runs

variable {cfg : Config} {s : State}

/-- A message that is no login, or the first login of an open connection, is careful. -/
lemma careful_received {c : Conn} {msgId : ℤ} {msgBody : Bytes} {env : Env}
    (hread : (s.reg.session c).reading = .head) (hid : toShort msgId = msgId)
    (hfits : Fits msgBody)
    (hlogin : ∀ uid, CSession.loginOf cfg env msgId msgBody = some uid →
      (s.reg.session c)._isStop = false ∧ ∀ S uid', s.reg.mgr S uid' = some c → uid' = uid) :
    AllSteps (step cfg) (fun s e => s.reg.Careful (regEvent cfg s e)) s
      (received c msgId msgBody env) := by
  refine allSteps_received hread hid hfits ?_ ?_
  · have hhead := onRead_header hid hfits
    simp only [regEvent, hread, hhead, Option.bind_none]
    refine ⟨fun hstop => ?_, trivial⟩
    rw [Registry.next, hread, hhead] at hstop
    cases hstop
  · simp only [regEvent, reading_awaiting, CSession.onRead, Option.bind_some]
    cases hl : CSession.loginOf cfg env msgId msgBody with
    | none =>
      refine ⟨fun hstop => ?_, trivial⟩
      rw [Registry.next, reading_awaiting] at hstop
      cases hstop
    | some uid =>
      obtain ⟨hopen, hsame⟩ := hlogin uid hl
      refine ⟨⟨?_, hsame⟩, trivial⟩
      simpa [State.awaiting, Registry.arm, Registry.modify] using hopen

/-- A client that connects and logs in is careful. -/
lemma careful_connect {c : Conn} {uid : ℤ} {token : String} {env : Env} (hl : s.reg.Local)
    (hnew : (s.reg.session c).accepted = false) (hfits : Fits (loginBody cfg uid token)) :
    AllSteps (step cfg) (fun s e => s.reg.Careful (regEvent cfg s e)) s
      (connect cfg c uid token env) := by
  refine ⟨⟨trivial, trivial⟩, fun s₁ h₁ => ?_⟩
  simp only [step, hnew] at h₁
  obtain rfl := Option.some.inj h₁
  refine careful_received ?_ (by decide) hfits fun uid' _ => ⟨?_, fun S uid'' hm => ?_⟩
  · rw [Registry.session_accept, if_pos rfl]
  · rw [Registry.session_accept, if_pos rfl]
  · exact absurd (hl.mgr_accepted hm) (by simp [hnew])

end Runs

/-- A client of server 1. -/
def client₃ : Conn := ⟨1, 1⟩

/-- An environment in which every database call succeeds. -/
def allSucceed : Env := ⟨fun _ => true, 0, "2025-06-01 12:00:00", .ascending, fun _ _ => 0⟩

/-- A request that client 1 sends. -/
def request (msgId : ℤ) (body : Json) : LogicNode :=
  ⟨msgId, compactConfig.codec.dump body, client₁⟩

/-- The state after the worker of server 0 that has such a request has handled it. -/
def State.worked (s : State) (msgId : ℤ) (body : Json) : State :=
  let done := handleMsg allSucceed s.db (s.reg.mgr 0) client₁ msgId (some body)
  State.perform compactConfig { s with
    queues := Function.update s.queues 0 (Function.update (s.queues 0) 1 [])
    db := done.1 } done.2

lemma step_worked {s : State} {msgId : ℤ} {body : Json} (hwf : body.Wf)
    (hqueue : s.queues 0 1 = [request msgId body]) :
    step compactConfig s (.work 0 1 true allSucceed) = some (s.worked msgId body) := by
  have hparse : compactConfig.codec.parse (request msgId body)._body = some body :=
    compactConfig.codec.parse_dump hwf
  simp only [step, hqueue, hparse]
  rfl

lemma answers_worked {s : State} {msgId rspId mid : ℤ} {body : Json} (hwf : body.Wf)
    (hqueue : s.queues 0 1 = [request msgId body])
    (hany : ((s.worked msgId body).sent.drop s.sent.length).any fun e =>
      e.1 = client₁ ∧ e.2.1 = rspId ∧
        e.2.2.getInt "error" = some ErrorCodes.success.code ∧ messageId e.2.2 = some mid) :
    Answers compactConfig s (s.worked msgId body) 0 allSucceed (request msgId body) body
      rspId mid := by
  refine ⟨⟨1, true, [], hqueue, step_worked hwf hqueue⟩, compactConfig.codec.parse_dump hwf, ?_⟩
  obtain ⟨⟨c, id, answer⟩, hmem, he⟩ := List.any_eq_true.1 hany
  obtain ⟨rfl, rfl, herror, hmid⟩ := of_decide_eq_true he
  exact ⟨answer, hmem, herror, hmid⟩

/-- The body of a text from user 1 to user 2. -/
def textBody : Json :=
  Json.object [("fromUid", .num 1), ("toUid", .num 2), ("content", .str "hello")]

lemma wf_textBody : textBody.Wf := Json.wf_object (by simp [Json.Wf])

/-- The request that has this body. -/
def textRequest : LogicNode := request idTextChatMsgReq textBody

/-- User 1 is logged in at server 0 and user 2 on the given connection, and client 1 has sent a
request. -/
def bothOnline (c : Conn) (db : Database) (node : LogicNode) : State where
  reg := (((Registry.init.accept client₁).login client₁ 1).accept c).login c 2
  queues := Function.update (fun _ _ => []) 0 (Function.update (fun _ => []) 1 [node])
  inbox _ := []
  db := db
  sent := greeting client₁ "t" ++ greeting c "u"

/-- The events that lead to this state. -/
def bothOnlineRun (c : Conn) (msgId : ℤ) (body : Json) : List Event :=
  connect compactConfig client₁ 1 "t" noDatabase ++
    (connect compactConfig c 2 "u" noDatabase ++
      received client₁ msgId (request msgId body)._body noDatabase)

lemma run_bothOnline {c : Conn} (hne : client₁ ≠ c) (db : Database) (msgId : ℤ) (body : Json)
    (hid : toShort msgId = msgId) (hping : msgId ≠ idHeartbeatPing) (hlogin : msgId ≠ idChatLogin)
    (hfits : Fits (request msgId body)._body) :
    run (step compactConfig) (.init db) (bothOnlineRun c msgId body) =
        some (bothOnline c db (request msgId body)) ∧
      AllSteps (step compactConfig) (fun s e => s.reg.Careful (regEvent compactConfig s e))
        (.init db) (bothOnlineRun c msgId body) := by
  let t₁ : State := { State.init db with
    reg := (Registry.init.accept client₁).login client₁ 1
    sent := greeting client₁ "t" }
  have hconnect₁ : run (step compactConfig) (.init db)
      (connect compactConfig client₁ 1 "t" noDatabase) = some t₁ :=
    run_connect_noDatabase rfl (by decide) (by decide) ⟨by decide, by decide⟩
  have hnew : (t₁.reg.session c).accepted = false := by
    rw [Registry.session_login, if_neg hne.symm, Registry.session_accept, if_neg hne.symm]
    rfl
  let t₂ : State := { t₁ with
    reg := (t₁.reg.accept c).login c 2
    sent := t₁.sent ++ greeting c "u" }
  have hconnect₂ : run (step compactConfig) t₁ (connect compactConfig c 2 "u" noDatabase) =
      some t₂ :=
    run_connect_noDatabase hnew (by decide) (by decide) ⟨by decide, by decide⟩
  have hsession : t₂.reg.session client₁ = ⟨.head, true, 1, false, true, true⟩ := by
    show ((t₁.reg.accept c).login c 2).session client₁ = _
    rw [Registry.session_login, if_neg hne, Registry.session_accept, if_neg hne]
    rfl
  have hpost : t₂.postMsgToQueue compactConfig (request msgId body) =
      bothOnline c db (request msgId body) := by
    have huid : (t₂.reg.session (request msgId body)._session)._uid = 1 := by
      rw [request, hsession]
    rw [State.postMsgToQueue, huid]
    rfl
  have hrequest : run (step compactConfig) t₂
      (received client₁ msgId (request msgId body)._body noDatabase) =
        some (bothOnline c db (request msgId body)) := by
    rw [run_request (by rw [hsession]) (by rw [hsession]) hid hping hlogin hfits]
    exact congrArg some hpost
  have hlocal := run_invariant local_step hconnect₁ Registry.local_init
  have hnone : ∀ uid, CSession.loginOf compactConfig noDatabase msgId
      (request msgId body)._body = some uid → False := by
    intro uid h
    rw [CSession.loginOf, if_neg hlogin] at h
    cases h
  constructor
  · exact (run_append_of hconnect₁).trans ((run_append_of hconnect₂).trans hrequest)
  · refine .append (careful_connect Registry.local_init rfl ⟨by decide, by decide⟩) hconnect₁ ?_
    refine .append (careful_connect hlocal hnew ⟨by decide, by decide⟩) hconnect₂ ?_
    exact careful_received (by rw [hsession]) hid hfits fun uid h => (hnone uid h).elim

lemma live_bothOnline {c : Conn} (hne : client₁ ≠ c) {db : Database} {node : LogicNode} (uid : ℤ)
    (c' : Conn) :
    (bothOnline c db node).reg.Live uid c' ↔ (c' = c ∧ uid = 2) ∨ (c' = client₁ ∧ uid = 1) := by
  rw [bothOnline, live_connect_iff, live_connect_iff]
  simp only [not_live_init, and_false, or_false]
  constructor
  · exact Or.imp_right And.right
  · rintro (h | ⟨rfl, h⟩)
    · exact .inl h
    · exact .inr ⟨hne, rfl, h⟩

/-- Users 1 and 2 are logged in at server 0, and client 1 has sent a request. -/
def sameServer (db : Database) (node : LogicNode) : State := bothOnline client₂ db node

/-- The events that lead to this state. -/
def sameServerRun (msgId : ℤ) (body : Json) : List Event := bothOnlineRun client₂ msgId body

lemma run_sameServer (db : Database) (msgId : ℤ) (body : Json) (hid : toShort msgId = msgId)
    (hping : msgId ≠ idHeartbeatPing) (hlogin : msgId ≠ idChatLogin)
    (hfits : Fits (request msgId body)._body) :
    run (step compactConfig) (.init db) (sameServerRun msgId body) =
        some (sameServer db (request msgId body)) ∧
      AllSteps (step compactConfig) (fun s e => s.reg.Careful (regEvent compactConfig s e))
        (.init db) (sameServerRun msgId body) :=
  run_bothOnline (by decide) db msgId body hid hping hlogin hfits

lemma live_sameServer {db : Database} {node : LogicNode} (uid : ℤ) (c : Conn) :
    (sameServer db node).reg.Live uid c ↔ (c = client₂ ∧ uid = 2) ∨ (c = client₁ ∧ uid = 1) :=
  live_bothOnline (by decide) uid c

/-- Server 1 alone is subscribed to the channel of user 2. -/
lemma subs_bothOnline {db : Database} {node : LogicNode} {B : ℕ} (hB : B ≠ 1) :
    (bothOnline client₃ db node).reg.subs B 2 = false := by
  rw [bothOnline, Registry.subs_login, if_neg fun h => hB h.1, Registry.subs_accept,
    Registry.subs_login, if_neg fun h => absurd h.2 (by decide)]
  rfl

/-- The state after server 1 has handled a text of its inbox. -/
def State.forwarded (s : State) (published : Json) (texts : List Bytes) : State :=
  State.perform compactConfig { s with inbox := Function.update s.inbox 1 texts }
    (subscriberCallback allSucceed s.db (s.reg.mgr 1) (some published))

lemma step_forwarded {s : State} {published : Json} {texts : List Bytes} (hwf : published.Wf)
    (hinbox : s.inbox 1 = compactConfig.codec.dump published :: texts) :
    step compactConfig s (.deliver 1 allSucceed) = some (s.forwarded published texts) := by
  have hparse := compactConfig.codec.parse_dump hwf
  simp only [step, hinbox, hparse]
  rfl

lemma carried_forwarded {s : State} {published : Json} {texts : List Bytes} {mid : ℤ} {B : ℕ}
    (hB : B ≠ 1) :
    (s.forwarded published texts).carried compactConfig mid B =
      s.carried compactConfig mid B := by
  rw [State.forwarded, carried_perform, pushedBy_subscriberCallback, Nat.add_zero]
  simp only [State.carried, Function.update_of_ne hB]

/-- When user 2 is on server 1 and one text is published for it, no other server gets any. -/
lemma carried_of_publish {db : Database} {node : LogicNode} {msgId id mid : ℤ}
    {body published msg : Json} {c : Conn} (houtputs : (handleMsg allSucceed db
      ((bothOnline client₃ db node).reg.mgr 0) client₁ msgId (some body)).2 =
        [.publish 2 published, .send c id msg]) {B : ℕ} (hB : B ≠ 1) :
    (((bothOnline client₃ db node).worked msgId body).forwarded published []).carried
      compactConfig mid B = 0 := by
  have hnone : pushedBy compactConfig ((bothOnline client₃ db node).reg.subs B)
      [.publish 2 published, .send c id msg] mid = 0 := by
    simp [pushedBy, Output.pushed, subs_bothOnline hB]
  rw [carried_forwarded hB, State.worked, carried_perform]
  -- nothing waits before
  show 0 + _ = 0
  rw [Nat.zero_add]
  exact (congrArg (pushedBy _ _ · mid) houtputs).trans hnone

/-- What server 0 publishes of the text. -/
def textPublished : Json :=
  privatePublished textChat [] 1 1 ⟨1, "alice", "alice@example.com", "", ""⟩ 2 "hello"
    "2025-06-01 12:00:00"

lemma wf_textPublished : textPublished.Wf :=
  wf_privatePublished (.inl rfl) (show textChat.extra textBody = some [] from rfl) _ _ _ _ _

/-- The connection of user 2 fails in a header while user 1 is logged in at the same server;
user 2 logs in at another server, and user 1 sends a text to user 2. -/
def staleEntry : List Event :=
  connect compactConfig client₁ 1 "t" noDatabase ++
    (connect compactConfig client₂ 2 "u" noDatabase ++ ([.readError client₂ .other] ++
      (connect compactConfig client₃ 2 "v" noDatabase ++
        received client₁ idTextChatMsgReq textRequest._body noDatabase)))

/-- The state after these events. -/
def staleState : State where
  reg := ((((((Registry.init.accept client₁).login client₁ 1).accept client₂).login client₂
    2).arm client₂ .stopped).accept client₃).login client₃ 2
  queues := Function.update (fun _ _ => []) 0 (Function.update (fun _ => []) 1 [textRequest])
  inbox _ := []
  db := MySQLMgr.twoUsers
  sent := greeting client₁ "t" ++ greeting client₂ "u" ++ greeting client₃ "v"

lemma run_staleEntry :
    run (step compactConfig) (.init MySQLMgr.twoUsers) staleEntry = some staleState := by
  rw [staleEntry, run_append_of
      (run_connect_noDatabase rfl (by decide) (by decide) ⟨by decide, by decide⟩),
    run_append_of
      (run_connect_noDatabase rfl (by decide) (by decide) ⟨by decide, by decide⟩),
    run_append_of (show run (step compactConfig) _ [.readError client₂ .other] = some _ from rfl),
    run_append_of
      (run_connect_noDatabase rfl (by decide) (by decide) ⟨by decide, by decide⟩),
    run_request rfl rfl (by decide) (by decide) (by decide) ⟨by decide, by decide⟩]
  rfl

lemma live_staleState (c : Conn) : staleState.reg.Live 2 c ↔ c = client₃ := by
  rw [staleState, live_connect_iff, live_arm_stopped_iff, live_connect_iff, live_connect_iff]
  simp [not_live_init]

end WeChat
