/-
# Notifications are genuine

In every run of the servers a notification says what is stored, and the connection that is told
has passed `CheckToken` for a user whom the notification is meant for.  This holds on both paths:
while a text of a handler waits in Redis, the rows that it speaks of stay where they are.
-/
import WeChat.Chat.Authentication
import WeChat.Chat.Notices

namespace WeChat

open Wire Transition Json LogicSystem

/-! ## What a session says itself -/

/-- An output that a session sends to its client without the help of a worker: the answer to a
heartbeat, the answer to a login, the data after an accepted login, or a refusal while nobody has
logged in. -/
inductive SaysItself (cfg : Config) (s : State) (env : Env) (c : Conn) (m : ℤ × Bytes) :
    ℤ → Json → Prop
  | data {id : ℤ} {msg : Json} (hid : id ∈ answerIds) : SaysItself cfg s env c m id msg
  | accepted {uid : ℤ} {token : String} (hlogin : AcceptedLogin cfg env m uid) :
      SaysItself cfg s env c m idChatLoginRsp
        (object [("error", .num ErrorCodes.success.code), ("token", .str token)])
  | rejected {code : ℤ} (hcode : code ≠ ErrorCodes.success.code)
      (hfrom : code = ErrorCodes.errorJson.code ∨ ∃ uid token, code = env.checkToken uid token) :
      SaysItself cfg s env c m idChatLoginRsp (object [("error", .num code)])
  | refused (hother : m.1 ≠ idHeartbeatPing ∧ m.1 ≠ idChatLogin)
      (hauth : (s.reg.session c)._isAuthenticated = false) :
      SaysItself cfg s env c m (toShort (m.1 + 1))
        (object [("error", .num ErrorCodes.tokenInvalid.code)])

section Session

variable {cfg : Config} {s s' : State}

/-- What is sent after a login answers nothing but the login. -/
lemma answers_of_mem_sendInitialData {codec : Codec} {env : Env} {db : Database}
    {mgr : ℤ → Option Conn} {c : Conn} {uid : ℤ} {o : Output}
    (ho : o ∈ CSession.sendInitialData codec env db mgr c uid) :
    ∃ id ∈ answerIds, ∃ msg, o = .send c id msg := by
  obtain ⟨id, key, list, hkey, rfl⟩ := CSession.mem_sendInitialData ho
  refine ⟨id, ?_, _, rfl⟩
  have hids : ∀ p ∈ [(idFriendListRsp, "friends"), (idFriendRequestListRsp, "requests"),
      (idRecentMessagesRsp, "recentMessages")], p.1 ∈ answerIds := by decide
  exact hids _ hkey

/-- A message is answered by its session, or ignored, or put into a queue. -/
lemma handleMessage_says (cfg : Config) (s : State) (env : Env) (c : Conn) (m : ℤ × Bytes) :
    (∃ reg outputs, s.handleMessage cfg env c m.1 m.2 =
        { s with reg := reg }.perform cfg outputs ∧
          ∀ o ∈ outputs, ∃ id msg, o = .send c id msg ∧ SaysItself cfg s env c m id msg) ∨
      ∃ queues, s.handleMessage cfg env c m.1 m.2 = { s with queues := queues } := by
  have hone : ∀ {id fields}, SaysItself cfg s env c m id (object fields) →
      ∀ o ∈ [answer c id fields], ∃ id msg, o = .send c id msg ∧
        SaysItself cfg s env c m id msg := by
    intro id fields hsaid
    exact List.forall_mem_singleton.2 ⟨id, object fields, rfl, hsaid⟩
  rw [State.handleMessage]
  by_cases hping : m.1 = idHeartbeatPing
  · rw [if_pos hping]
    exact .inl ⟨s.reg, _, rfl, hone (.data (by decide))⟩
  rw [if_neg hping]
  by_cases hlogin : m.1 = idChatLogin
  · rw [if_pos hlogin]
    cases hrequest : CSession.loginRequest (cfg.codec.parse m.2) with
    | exception => exact .inl ⟨s.reg, _, rfl, hone (.rejected (by decide) (.inl rfl))⟩
    | ignored => exact .inr ⟨s.queues, rfl⟩
    | credentials uid token =>
      simp only
      by_cases hok : env.checkToken uid token = ErrorCodes.success.code
      · rw [if_pos hok]
        refine .inl ⟨s.reg.login c uid, _, rfl, fun o ho => ?_⟩
        rcases List.mem_cons.1 ho with rfl | ho
        · exact ⟨_, _, rfl, .accepted ⟨hlogin, token, hrequest, hok⟩⟩
        · obtain ⟨id, hid, msg, rfl⟩ := answers_of_mem_sendInitialData ho
          exact ⟨id, msg, rfl, .data hid⟩
      · rw [if_neg hok]
        exact .inl ⟨s.reg, _, rfl, hone (.rejected hok (.inr ⟨uid, token, rfl⟩))⟩
  rw [if_neg hlogin]
  by_cases hauth : (s.reg.session c)._isAuthenticated
  · rw [if_neg (by simp [hauth])]
    obtain ⟨queues, hqueues, -⟩ := State.postMsgToQueue_spec cfg s ⟨m.1, m.2, c⟩
    exact .inr ⟨queues, hqueues⟩
  · rw [if_pos (by simp [hauth])]
    exact .inl ⟨s.reg, _, rfl, hone (.refused ⟨hping, hlogin⟩ (Bool.eq_false_iff.2 hauth))⟩

end Session

/-! ## Whatever is sent -/

/-- A text that Redis has pushed is the published form of a notification. -/
def State.Told (cfg : Config) (s : State) : Prop :=
  ∀ S, ∀ text ∈ s.inbox S, ∃ a id notifyJson redisMsg,
    Notice s.db a id notifyJson redisMsg ∧ text = cfg.codec.dump redisMsg

/-- Where a message comes from that a step sends: it is the answer of a worker, or a notification
to the session that is registered for a user whom it is meant for, or what the session of a read
says itself. -/
inductive SentBy (cfg : Config) (s : State) (e : Event) (s' : State) (x : Conn × ℤ × Json) : Prop
  | answer (hid : x.2.1 ∈ answerIds)
  | notice {a : Addressee} {S : ℕ} {uid : ℤ} {redisMsg : Json}
      (hnotice : Notice s'.db a x.2.1 x.2.2 redisMsg) (hincludes : a.Includes s'.db uid)
      (hmgr : s.reg.mgr S uid = some x.1)
  | itself {bytes : Bytes} {env : Env} {m : ℤ × Bytes} (he : e = .read x.1 bytes env)
      (hm : s.completed x.1 bytes = some m) (hsaid : SaysItself cfg s env x.1 m x.2.1 x.2.2)

section Sent

variable {cfg : Config} {s s' base : State} {outputs : List Output}

lemma told_init (db : Database) : (State.init db).Told cfg :=
  fun _ _ h => absurd h List.not_mem_nil

lemma State.Told.mono (h : s.Told cfg) (hdb : s.db.Extends s'.db)
    (hinbox : ∀ S, ∀ text ∈ s'.inbox S, text ∈ s.inbox S) : s'.Told cfg := by
  intro S text htext
  obtain ⟨a, id, notifyJson, redisMsg, hnotice, rfl⟩ := h S text (hinbox S text htext)
  exact ⟨a, id, notifyJson, redisMsg, hnotice.mono hdb, rfl⟩

/-- Outputs that publish nothing but notifications. -/
lemma told_perform (h : base.Told cfg)
    (hout : ∀ uid msg, Output.publish uid msg ∈ outputs →
      ∃ a id notifyJson, Notice base.db a id notifyJson msg) :
    (base.perform cfg outputs).Told cfg := by
  intro S text htext
  rcases List.mem_append.1 htext with htext | htext
  · exact h S text htext
  · obtain ⟨o, ho, hpushed⟩ := List.mem_filterMap.1 htext
    cases o with
    | send session id msg => cases hpushed
    | publish uid msg =>
      simp only [Output.pushed] at hpushed
      split_ifs at hpushed
      obtain ⟨a, id, notifyJson, hnotice⟩ := hout uid msg ho
      exact ⟨a, id, notifyJson, msg, hnotice, (Option.some.inj hpushed).symm⟩

/-- What outputs send. -/
lemma sent_perform {P : Conn × ℤ × Json → Prop} (hbase : base.sent = s.sent)
    (hout : ∀ c id msg, Output.send c id msg ∈ outputs → P (c, id, msg)) :
    ∃ new, (base.perform cfg outputs).sent = s.sent ++ new ∧ ∀ x ∈ new, P x := by
  refine ⟨outputs.filterMap Output.sent, congrArg (· ++ _) hbase, fun x hx => ?_⟩
  obtain ⟨o, ho, hsent⟩ := List.mem_filterMap.1 hx
  cases o with
  | send session id msg =>
    obtain rfl := Option.some.inj hsent
    exact hout session id msg ho
  | publish uid msg => cases hsent

lemma sent_nothing {P : Conn × ℤ × Json → Prop} (h : s'.sent = s.sent) :
    ∃ new, s'.sent = s.sent ++ new ∧ ∀ x ∈ new, P x :=
  ⟨[], by rw [h, List.append_nil], fun _ hx => absurd hx List.not_mem_nil⟩

/-- **One step.**  What waits in Redis stays true, and everything that is sent has its origin. -/
lemma sentBy_step {e : Event} (hs : s.Told cfg) (h : step cfg s e = some s') :
    s'.Told cfg ∧ ∃ new, s'.sent = s.sent ++ new ∧ ∀ x ∈ new, SentBy cfg s e s' x := by
  rcases step_cases h with ⟨reg, rfl⟩ | ⟨c, bytes, env, msgId, msgBody, rfl, -⟩ |
    ⟨S, i, alive, env, node, queue, base, rfl, -, rfl, rfl | ⟨done, rfl, rfl⟩⟩ |
    ⟨S, env, text, texts, rfl, hinbox, rfl⟩
  · exact ⟨hs, sent_nothing rfl⟩
  · -- the message is the one that the read completes
    cases hm : s.completed c bytes with
    | none =>
      unfold State.completed at hm
      simp only [step, hm] at h
      split_ifs at h
      obtain rfl := Option.some.inj h
      exact ⟨hs, sent_nothing rfl⟩
    | some m =>
      rw [step_completed hm h]
      have hauth : ∀ {id msg}, SaysItself cfg { s with reg := s.reg.readDone c bytes } env c m id
          msg → SaysItself cfg s env c m id msg := by
        rintro id msg (hid | hlogin | ⟨hcode, hfrom⟩ | ⟨hother, hauth⟩)
        · exact .data hid
        · exact .accepted hlogin
        · exact .rejected hcode hfrom
        · exact .refused hother ((user_readDone s.reg c bytes).1 ▸ hauth)
      rcases handleMessage_says cfg { s with reg := s.reg.readDone c bytes } env c m with
        ⟨reg, outputs, heq, hout⟩ | ⟨queues, heq⟩
      · rw [heq]
        refine ⟨told_perform hs fun uid msg ho => ?_, sent_perform rfl fun c' id msg ho => ?_⟩
        · obtain ⟨id, msg', hsend, -⟩ := hout _ ho
          cases hsend
        · obtain ⟨id', msg', hsend, hsaid⟩ := hout _ ho
          cases hsend
          exact .itself rfl hm (hauth hsaid)
      · rw [heq]
        exact ⟨hs, sent_nothing rfl⟩
  · exact ⟨hs, sent_nothing rfl⟩
  · -- a worker has run the handler of a request
    generalize hdone : handleMsg env s.db (s.reg.mgr S) node._session node._id
      (cfg.codec.parse node._body) = done
    have hgrows : s.db.Extends done.1 :=
      hdone ▸ extends_handleMsg env s.db (s.reg.mgr S) node._session node._id _
    have htells : ∀ o ∈ done.2, Tells done.1 (s.reg.mgr S) node._session o :=
      hdone ▸ tells_handleMsg env s.db (s.reg.mgr S) node._session node._id _
    refine ⟨told_perform (hs.mono hgrows fun _ _ h => h) fun uid msg ho => ?_,
      sent_perform rfl fun c id msg ho => ?_⟩
    · rcases htells _ ho with ⟨id, msg', hsend, -⟩ | ⟨a, uid', id, notifyJson, redisMsg, hnotice,
        -, heq⟩
      · cases hsend
      · rw [notifyOrPublish] at heq
        split at heq
        · cases heq
        · cases heq
          exact ⟨a, id, notifyJson, hnotice⟩
    · rcases htells _ ho with ⟨id', msg', hsend, hid⟩ | ⟨a, uid, id', notifyJson, redisMsg,
        hnotice, hincludes, heq⟩
      · cases hsend
        exact .answer hid
      · rw [notifyOrPublish] at heq
        split at heq
        · next hmgr =>
          cases heq
          exact .notice hnotice hincludes hmgr
        · cases heq
  · -- a text that was pushed is sent on
    obtain ⟨a, id, notifyJson, redisMsg, hnotice, rfl⟩ := hs S text (hinbox ▸ List.mem_cons_self)
    rw [cfg.codec.parse_dump hnotice.wf]
    have hout := hnotice.subscriberCallback env s.db (s.reg.mgr S)
    refine ⟨told_perform (hs.mono (.refl s.db) fun _ _ => mem_inbox_of_mem_rest hinbox)
      fun uid msg ho => ?_, sent_perform rfl fun c id' msg ho => ?_⟩
    · obtain ⟨uid', c, -, -, hsend⟩ := hout _ ho
      cases hsend
    · obtain ⟨uid, c', hincludes, hmgr, hsend⟩ := hout _ ho
      cases hsend
      exact .notice hnotice hincludes hmgr

lemma told_of_run {db : Database} {es : List Event} (hrun : run (step cfg) (.init db) es = some s) :
    s.Told cfg :=
  run_invariant (fun _ _ _ hs h => (sentBy_step hs h).1) hrun (told_init db)

end Sent

/-! ## Who is told -/

/-- A connection has passed `CheckToken` with a uid in a run. -/
def Passed (cfg : Config) (c : Conn) (uid : ℤ) : State → List Event → Prop :=
  SomeStep (step cfg) fun s e => (regEvent cfg s e).passed c = some uid

section Told

variable {cfg : Config} {db : Database} {es : List Event} {s s' : State}

/-- Whoever is registered for a user has logged in as this user. -/
lemma passed_of_mgr (hrun : run (step cfg) (.init db) es = some s) {S : ℕ} {uid : ℤ} {c : Conn}
    (h : s.reg.mgr S uid = some c) : Passed cfg c uid (.init db) es := by
  have hstep : ∀ s e s', step cfg s e = some s' → s'.reg.mgr S uid = some c →
      s.reg.mgr S uid = some c ∨ (regEvent cfg s e).passed c = some uid := by
    intro s e s' h hmgr
    rw [(reg_step h).2] at hmgr
    refine (Registry.mgr_apply hmgr).imp_right ?_
    rintro ⟨bytes, he, -⟩
    rw [he]
    exact passed_self
  rcases someStep_of_run (P := fun s => s.reg.mgr S uid = some c) hstep hrun h with hinit | hpassed
  · cases hinit
  · exact hpassed

/-- **Every notification is genuine.**  In every run of the servers, a message that a step sends
under the identifier of a notification says what is stored in the database at that moment, and
its connection has passed `CheckToken` before with the uid of a user whom it is meant for: the
recipient, or a member of the group other than the sender.  The only other message under such an
identifier is the refusal of a request on a connection that has not logged in. -/
theorem notified_genuine {e : Event} (hrun : run (step cfg) (.init db) es = some s)
    (h : step cfg s e = some s') :
    ∀ x ∈ s'.sent.drop s.sent.length, x.2.1 ∈ notificationIds →
      (∃ a uid redisMsg, Notice s'.db a x.2.1 x.2.2 redisMsg ∧ a.Includes s'.db uid ∧
        Passed cfg x.1 uid (.init db) es) ∨
      x.2.2 = object [("error", .num ErrorCodes.tokenInvalid.code)] ∧
        (s.reg.session x.1)._isAuthenticated = false := by
  obtain ⟨-, new, hsent, hnew⟩ := sentBy_step (told_of_run hrun) h
  rw [hsent, List.drop_left]
  rintro ⟨c, id, msg⟩ hx hid
  replace hid : id ∈ notificationIds := hid
  rcases hnew _ hx with hanswer | ⟨hnotice, hincludes, hmgr⟩ | ⟨he, hm, hsaid⟩
  · exact absurd (List.mem_cons_of_mem _ hid) (notMem_of_mem_answerIds _ hanswer)
  · exact .inl ⟨_, _, _, hnotice, hincludes, passed_of_mgr hrun hmgr⟩
  · -- of what a session says itself only a refusal can have such an identifier
    cases hsaid with
    | data hanswer =>
      exact absurd (List.mem_cons_of_mem _ hid) (notMem_of_mem_answerIds _ hanswer)
    | accepted => exact absurd hid (by decide)
    | rejected => exact absurd hid (by decide)
    | refused _ hauth => exact .inr ⟨rfl, hauth⟩

/-- At some moment of a run the user is one whom a notification is meant for. -/
def Included (cfg : Config) (a : Addressee) (uid : ℤ) (s : State) (es : List Event) : Prop :=
  ∃ es₁ s₁, es₁ <+: es ∧ run (step cfg) s es₁ = some s₁ ∧ a.Includes s₁.db uid

/-- The error code of an answer of `CheckToken` is an `int32`. -/
def Event.Typed : Event → Prop
  | .read _ _ env => ∀ uid token, toInt32 (env.checkToken uid token) = env.checkToken uid token
  | _ => True

/-- The step reads a message, neither a heartbeat nor a login, on a connection that has not logged
in, and refuses it under the identifier. -/
def Refuses (c : Conn) (id : ℤ) (s : State) (e : Event) : Prop :=
  ∃ bytes env m, e = .read c bytes env ∧ s.completed c bytes = some m ∧ m.1 ≠ idHeartbeatPing ∧
    m.1 ≠ idChatLogin ∧ id = toShort (m.1 + 1) ∧ (s.reg.session c)._isAuthenticated = false

/-- Where a message comes from that was sent in a run: it is a notification of something that is
stored, to a connection that logged in for a user whom it is meant for, or the answer to a login,
or the refusal of a message before a login; every other message has another identifier. -/
inductive Origin (cfg : Config) (db : Database) (es : List Event) (s : State)
    (x : Conn × ℤ × Json) : Prop
  | other (hid : x.2.1 ∈ answerIds)
  | notice {a : Addressee} {uid : ℤ} {redisMsg : Json}
      (hnotice : Notice s.db a x.2.1 x.2.2 redisMsg) (hincluded : Included cfg a uid (.init db) es)
      (hpassed : Passed cfg x.1 uid (.init db) es)
  | login {uid : ℤ} {token : String} (hid : x.2.1 = idChatLoginRsp)
      (hmsg : x.2.2 = object [("error", .num ErrorCodes.success.code), ("token", .str token)])
      (hpassed : Passed cfg x.1 uid (.init db) es)
  | rejected {code : ℤ} (hid : x.2.1 = idChatLoginRsp)
      (hmsg : x.2.2 = object [("error", .num code)])
      (hcode : code ≠ ErrorCodes.success.code) (hint : toInt32 code = code)
  | refused (hmsg : x.2.2 = object [("error", .num ErrorCodes.tokenInvalid.code)])
      (hrefused : SomeStep (step cfg) (Refuses x.1 x.2.1) (.init db) es)

lemma Passed.snoc {c : Conn} {uid : ℤ} (h : Passed cfg c uid (.init db) es) (e : Event) :
    Passed cfg c uid (.init db) (es ++ [e]) :=
  h.append [e]

/-- What was sent keeps its origin. -/
lemma Origin.snoc {e : Event} {x : Conn × ℤ × Json} (h : step cfg s e = some s')
    (hx : Origin cfg db es s x) : Origin cfg db (es ++ [e]) s' x := by
  rcases hx with hid | ⟨hnotice, ⟨es₁, s₁, hpre, hrun₁, hincl⟩, hpassed⟩ | ⟨hid, hmsg, hpassed⟩ |
    ⟨hid, hmsg, hcode, hint⟩ | ⟨hmsg, hrefused⟩
  · exact .other hid
  · exact .notice (hnotice.mono (extends_step h))
      ⟨es₁, s₁, hpre.trans (List.prefix_append es [e]), hrun₁, hincl⟩ (hpassed.snoc e)
  · exact .login hid hmsg (hpassed.snoc e)
  · exact .rejected hid hmsg hcode hint
  · exact .refused hmsg (hrefused.append [e])

/-- A new message gets its origin. -/
lemma SentBy.origin {e : Event} {x : Conn × ℤ × Json}
    (hrun : run (step cfg) (.init db) es = some s) (h : step cfg s e = some s') (he : e.Typed)
    (hx : SentBy cfg s e s' x) : Origin cfg db (es ++ [e]) s' x := by
  have hrun' : run (step cfg) (.init db) (es ++ [e]) = some s' :=
    (run_append_of hrun).trans (run_cons h [])
  rcases hx with hid | ⟨hnotice, hincludes, hmgr⟩ | ⟨hread, hm, hsaid⟩
  · exact .other hid
  · exact .notice hnotice ⟨_, s', List.prefix_rfl, hrun', hincludes⟩
      ((passed_of_mgr hrun hmgr).snoc e)
  · obtain ⟨c, id, msg⟩ := x
    cases hsaid with
    | data hid => exact .other hid
    | @accepted uid token hlogin =>
      have hpassed : (regEvent cfg s e).passed c = some uid := by
        rw [hread]
        exact passed_read.2 ⟨_, hm, hlogin⟩
      exact .login rfl rfl (SomeStep.right hrun (.inl hpassed))
    | rejected hcode hfrom =>
      refine .rejected rfl rfl hcode ?_
      rcases hfrom with rfl | ⟨uid, token, rfl⟩
      · rfl
      · exact (hread ▸ he) uid token
    | refused hother hauth =>
      have hrefuses : Refuses c (toShort (_ + 1)) s e :=
        ⟨_, _, _, hread, hm, hother.1, hother.2, rfl, hauth⟩
      exact .refused rfl (SomeStep.right hrun (.inl hrefuses))

/-- Every message that was sent in a run has an origin in it. -/
lemma origin_of_run (hrun : run (step cfg) (.init db) es = some s) (htyped : ∀ e ∈ es, e.Typed) :
    ∀ x ∈ s.sent, Origin cfg db es s x := by
  revert htyped
  refine run_history
    (P := fun es s => (∀ e ∈ es, Event.Typed e) → ∀ x ∈ s.sent, Origin cfg db es s x)
    (fun _ x hx => absurd hx List.not_mem_nil) ?_ hrun
  intro es s e s' hrun h hs htyped x hx
  obtain ⟨-, new, hsent, hnew⟩ := sentBy_step (told_of_run hrun) h
  rw [hsent] at hx
  rcases List.mem_append.1 hx with hx | hx
  · exact (hs (fun e he => htyped e (List.mem_append_left _ he)) x hx).snoc h
  · exact (hnew x hx).origin hrun h (htyped e (List.mem_append_right _ List.mem_cons_self))

end Told

/-- User 1 sends a text to user 2, who is logged in at the same server. -/
theorem notified_genuine_sameServer :
    ∃ x : Conn × ℤ × Json, x.1 = client₂ ∧ x.2.1 = idNotifyTextChatMsgReq ∧
      ((∃ a uid redisMsg, Notice textSent.db a x.2.1 x.2.2 redisMsg ∧
        a.Includes textSent.db uid ∧ Passed compactConfig x.1 uid (.init MySQLMgr.twoUsers)
          (sameServerRun idTextChatMsgReq textBody)) ∨
      x.2.2 = object [("error", .num ErrorCodes.tokenInvalid.code)] ∧
        ((sameServer MySQLMgr.twoUsers textRequest).reg.session x.1)._isAuthenticated =
          false) := by
  obtain ⟨hrun, -⟩ := run_sameServer MySQLMgr.twoUsers idTextChatMsgReq textBody
    (by decide) (by decide) (by decide) ⟨by decide, by decide⟩
  have hany : (textSent.sent.drop (sameServer MySQLMgr.twoUsers textRequest).sent.length).any
      (fun x => x.1 = client₂ ∧ x.2.1 = idNotifyTextChatMsgReq) = true := by decide
  obtain ⟨x, hx, hcols⟩ := List.any_eq_true.1 hany
  obtain ⟨hc, hid⟩ := of_decide_eq_true hcols
  exact ⟨x, hc, hid, notified_genuine hrun (step_worked wf_textBody rfl) x hx (by rw [hid]; decide)⟩

end WeChat
