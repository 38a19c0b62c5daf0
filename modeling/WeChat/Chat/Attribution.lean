/-
# In whose name rows are inserted

Every row that the servers insert is inserted by a worker that handles a request, and the
session of the request has logged in before.  The user whom the row names is the one that the
body of the request names, whoever has logged in: no handler looks at the uid of the session.
-/
import WeChat.Chat.Acknowledged

namespace WeChat

open Wire Transition Json LogicSystem

/-! ## The last login of a session -/

/-- The uid with which a session last passed `CheckToken` in a run. -/
def lastPassed (cfg : Config) (c : Conn) : State → List Event → Option ℤ
  | _, [] => none
  | s, e :: es =>
    ((step cfg s e).bind fun s' => lastPassed cfg c s' es).or ((regEvent cfg s e).passed c)

section LastPassed

variable {cfg : Config} {s s' : State} {es : List Event} {c : Conn}

/-- A session that is authenticated after a run has passed `CheckToken` with its uid in the
run, or it was authenticated with this uid before. -/
lemma lastPassed_or (hrun : run (step cfg) s es = some s')
    (h : (s'.reg.session c)._isAuthenticated) :
    lastPassed cfg c s es = some (s'.reg.session c)._uid ∨
      lastPassed cfg c s es = none ∧ (s.reg.session c)._isAuthenticated ∧
        (s'.reg.session c)._uid = (s.reg.session c)._uid := by
  induction es generalizing s with
  | nil =>
    obtain rfl := Option.some.inj hrun
    exact .inr ⟨rfl, h, rfl⟩
  | cons e es ih =>
    obtain ⟨s₁, hstep, hrun'⟩ := run_cons_inv hrun
    rw [lastPassed, hstep, Option.bind_some]
    -- a later login counts; without one the first event of the run decides
    rcases ih hrun' with hlast | ⟨hlast, hauth, huid⟩
    · exact .inl (by rw [hlast, Option.some_or])
    · rw [hlast, Option.none_or, huid]
      rw [(reg_step hstep).2] at hauth ⊢
      rcases Registry.user_apply s.reg (regEvent cfg s e) c with
        ⟨-, hses⟩ | ⟨-, uid, hpassed, -, hsame⟩ | ⟨-, hnone, hkept, hsame⟩
      · -- a new connection is that of nobody
        rw [hses] at hauth
        cases hauth
      · exact .inl (hsame ▸ hpassed)
      · exact .inr ⟨hnone, hkept ▸ hauth, hsame⟩

/-- **The uid of a session is the one with which it last passed `CheckToken`.** -/
theorem lastPassed_of_authenticated {db : Database} (hrun : run (step cfg) (.init db) es = some s)
    (h : (s.reg.session c)._isAuthenticated) :
    lastPassed cfg c (.init db) es = some (s.reg.session c)._uid := by
  rcases lastPassed_or hrun h with hlast | ⟨-, hauth, -⟩
  · exact hlast
  · cases hauth

end LastPassed

/-! ## Whose requests are in the queues -/

section Requests

variable {cfg : Config} {s s' : State}

/-- A request is put into a queue by a read of its session, which is authenticated. -/
lemma mem_queues_step {e : Event} (h : step cfg s e = some s') {node : LogicNode} {S i : ℕ}
    (hmem : node ∈ s'.queues S i) :
    node ∈ s.queues S i ∨ (s'.reg.session node._session)._isAuthenticated ∧
      ∃ bytes env, e = .read node._session bytes env := by
  rcases step_cases h with ⟨reg, rfl⟩ | ⟨c, bytes, env, msgId, msgBody, rfl, rfl⟩ |
    ⟨S₀, i₀, alive, env, node₀, queue, base, rfl, hqueue, rfl, hbase⟩ |
    ⟨S₀, env, text, texts, rfl, -, rfl⟩
  · exact .inl hmem
  · rcases handleMessage_cases cfg { s with reg := s.reg.readDone c bytes } env c msgId msgBody with
      ⟨reg, outputs, heq, -⟩ | heq | ⟨hauth, heq⟩
    · rw [heq] at hmem
      exact .inl hmem
    · rw [heq] at hmem
      exact .inl hmem
    · obtain ⟨queues, hqueues, hnodes⟩ := State.postMsgToQueue_spec cfg
        { s with reg := s.reg.readDone c bytes } ⟨msgId, msgBody, c⟩
      rw [heq, hqueues] at hmem ⊢
      rcases hnodes S i node hmem with hold | rfl
      · exact .inl hold
      · exact .inr ⟨hauth, bytes, env, rfl⟩
  · -- the queue of the worker loses its first request
    have hnode : node ∈ Function.update s.queues S₀
        (Function.update (s.queues S₀) i₀ queue) S i := by
      rcases hbase with rfl | ⟨done, -, rfl⟩
      · exact hmem
      · exact hmem
    rw [update_update_apply] at hnode
    split_ifs at hnode with hsame
    · obtain ⟨rfl, rfl⟩ := hsame
      exact .inl (hqueue ▸ List.mem_cons_of_mem _ hnode)
    · exact .inl hnode
  · exact .inl hmem

/-- The session of a request in a queue was accepted and has logged in. -/
structure State.Requested (s : State) : Prop where
  reg : s.reg.Local
  accepted : ∀ S i, ∀ node ∈ s.queues S i, (s.reg.session node._session).accepted
  authenticated : ∀ S i, ∀ node ∈ s.queues S i, (s.reg.session node._session)._isAuthenticated

lemma requested_step (s : State) (e : Event) (s' : State) (hs : s.Requested)
    (h : step cfg s e = some s') : s'.Requested := by
  obtain ⟨hen, heq⟩ := reg_step h
  refine ⟨local_step s e s' hs.reg h, fun S i node hnode => ?_, fun S i node hnode => ?_⟩
  · rw [heq]
    refine Registry.accepted_apply ?_
    rcases mem_queues_step h hnode with hold | ⟨-, bytes, env, rfl⟩
    · exact hs.accepted S i node hold
    · exact hs.reg.reading_accepted hen.1
  · rcases mem_queues_step h hnode with hold | ⟨hauth, -⟩
    · rw [heq]
      exact Registry.authenticated_apply hen (hs.accepted S i node hold)
        (hs.authenticated S i node hold)
    · exact hauth

lemma requested_of_run {db : Database} {es : List Event}
    (hrun : run (step cfg) (.init db) es = some s) : s.Requested := by
  refine run_invariant requested_step hrun ⟨Registry.local_init, ?_, ?_⟩
  · exact fun _ _ _ h => absurd h List.not_mem_nil
  · exact fun _ _ _ h => absurd h List.not_mem_nil

end Requests

/-! ## What a step inserts -/

/-- A step is the work on a request of a session with a body. -/
def OnBehalf (cfg : Config) (s : State) (e : Event) (c : Conn) (body : Json) : Prop :=
  ∃ S i alive env node queue, e = .work S i alive env ∧ s.queues S i = node :: queue ∧
    node._session = c ∧ cfg.codec.parse node._body = some body

/-- A step after a run is the work on a request that names a user, and its session has passed
`CheckToken`, with the uid of this or of another user. -/
def NamedBy (cfg : Config) (db : Database) (es : List Event) (s : State) (e : Event)
    (field : String) (uid : ℤ) : Prop :=
  ∃ c body passed, OnBehalf cfg s e c body ∧ lastPassed cfg c (.init db) es = some passed ∧
    body.getInt field = some uid

section Inserted

variable {cfg : Config} {s s' : State} {e : Event}

/-- Only the work on a request changes the database. -/
lemma db_step (h : step cfg s e = some s') :
    s'.db = s.db ∨ ∃ S i alive env node queue, e = .work S i alive env ∧
      s.queues S i = node :: queue ∧
      s'.db = (handleMsg env s.db (s.reg.mgr S) node._session node._id
        (cfg.codec.parse node._body)).1 := by
  obtain ⟨base, outputs, rfl, -, ⟨-, hdb, -⟩ |
    ⟨S, i, alive, env, node, queue, rfl, hqueue, -, -, hdone⟩ |
    ⟨S, env, text, texts, rfl, -, rfl, -⟩⟩ := step_performs h
  · exact .inl hdb
  · exact .inr ⟨S, i, alive, env, node, queue, rfl, hqueue, congrArg Prod.fst hdone.symm⟩
  · exact .inl rfl

/-- The user whom a new row names is the one that a request names. -/
lemma attributed_step (hs : s.Requested) (h : step cfg s e = some s') :
    s'.db = s.db ∨ ∃ c src, (∀ body, src = some body → OnBehalf cfg s e c body) ∧
      (s.reg.session c)._isAuthenticated ∧
      Attributed (named src "fromUid") (named src "ownerUid") s.db s'.db := by
  rcases db_step h with hdb | ⟨S, i, alive, env, node, queue, rfl, hqueue, hdb⟩
  · exact .inl hdb
  · refine .inr ⟨node._session, cfg.codec.parse node._body, ?_, ?_, ?_⟩
    · intro body hbody
      exact ⟨S, i, alive, env, node, queue, rfl, hqueue, rfl, hbody⟩
    · exact hs.authenticated S i node (hqueue ▸ List.mem_cons_self)
    · rw [hdb]
      exact (handles_handleMsg env s.db (s.reg.mgr S) node._session node._id _).attributed

/-- **Every row that is inserted is named by its request.**  In every run, a new row of messages
or friend requests is from the user, and a new row of groups is owned by the user, that the body
of a request names, and the session of the request has passed `CheckToken`; its uid is the one
that the row names exactly when the body names it. -/
theorem inserted_namedBy {db : Database} {es : List Event}
    (hrun : run (step cfg) (.init db) es = some s) (h : step cfg s e = some s') :
    (∀ row ∈ s'.db.messages.rows, row.id ∉ s.db.messages.rows.map Message.id →
      NamedBy cfg db es s e "fromUid" row.from_uid) ∧
    (∀ row ∈ s'.db.friend_requests.rows,
      row.id ∉ s.db.friend_requests.rows.map FriendRequest.id →
        NamedBy cfg db es s e "fromUid" row.from_uid) ∧
    (∀ row ∈ s'.db.groups.rows, row.group_id ∉ s.db.groups.rows.map Group.group_id →
      NamedBy cfg db es s e "ownerUid" row.owner_uid) := by
  rcases attributed_step (requested_of_run hrun) h with hdb | ⟨c, src, hbehalf, hauth, hattr⟩
  · rw [hdb]
    exact ⟨forall_new_of_keys rfl, forall_new_of_keys rfl, forall_new_of_keys rfl⟩
  · have hpassed := lastPassed_of_authenticated hrun hauth
    -- a request that names a user has a body, and its session has passed `CheckToken`
    have hnamed : ∀ {field uid}, named src field = some uid → NamedBy cfg db es s e field uid := by
      intro field uid hname
      obtain ⟨body, hbody, hget⟩ := Option.bind_eq_some_iff.1 hname
      exact ⟨c, body, _, hbehalf body hbody, hpassed, hget⟩
    exact ⟨fun row hrow hnew => hnamed (hattr.messages row hrow hnew),
      fun row hrow hnew => hnamed (hattr.friend_requests row hrow hnew),
      fun row hrow hnew => hnamed (hattr.groups row hrow hnew)⟩

end Inserted

/-! ## Two requests of a client that has logged in as user 1 -/

/-- A message that user 1 sends in its own name. -/
theorem namedBy_sameServer :
    NamedBy compactConfig MySQLMgr.twoUsers (sameServerRun idTextChatMsgReq textBody)
      (sameServer MySQLMgr.twoUsers textRequest) (.work 0 1 true allSucceed) "fromUid" 1 := by
  obtain ⟨hrun, -⟩ := run_sameServer MySQLMgr.twoUsers idTextChatMsgReq textBody
    (by decide) (by decide) (by decide) ⟨by decide, by decide⟩
  exact (inserted_namedBy hrun (step_worked wf_textBody rfl)).1
    ⟨1, 1, 2, "hello", "2025-06-01 12:00:00", 0, 0, 0⟩ (by decide) (by decide)

/-- The body of a text to user 1 in the name of user 2. -/
def forgedBody : Json :=
  Json.object [("fromUid", .num 2), ("toUid", .num 1), ("content", .str "hello")]

lemma wf_forgedBody : forgedBody.Wf := Json.wf_object (by simp [Json.Wf])

/-- The request of a client that has logged in as user 1 inserts a message from user 2. -/
theorem forged_sameServer :
    ∃ s s' e row, run (step compactConfig) (.init MySQLMgr.twoUsers)
        (sameServerRun idTextChatMsgReq forgedBody) = some s ∧
      step compactConfig s e = some s' ∧ row ∈ s'.db.messages.rows ∧
      row.id ∉ s.db.messages.rows.map Message.id ∧
      OnBehalf compactConfig s e client₁ forgedBody ∧
      lastPassed compactConfig client₁ (.init MySQLMgr.twoUsers)
        (sameServerRun idTextChatMsgReq forgedBody) = some 1 ∧
      row.from_uid = 2 := by
  obtain ⟨hrun, -⟩ := run_sameServer MySQLMgr.twoUsers idTextChatMsgReq forgedBody
    (by decide) (by decide) (by decide) ⟨by decide, by decide⟩
  refine ⟨_, _, .work 0 1 true allSucceed, ⟨1, 2, 1, "hello", "2025-06-01 12:00:00", 0, 0, 0⟩,
    hrun, step_worked wf_forgedBody rfl, by decide, by decide, ?_, ?_, rfl⟩
  · exact ⟨0, 1, true, allSucceed, request idTextChatMsgReq forgedBody, [], rfl, rfl, rfl,
      compactConfig.codec.parse_dump wf_forgedBody⟩
  · exact lastPassed_of_authenticated hrun rfl

end WeChat
