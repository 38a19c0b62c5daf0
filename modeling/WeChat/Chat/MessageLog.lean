/-
# The log of the messages

Seen from outside the servers keep one log of messages.  A request that asks for a message either
appends this message and is answered with its number, on the connection that has sent it, or it
appends nothing and is not answered with success; nothing else appends a message or tells a
number.  So after any run the numbers that were told to the clients are those of the rows that
were added, one by one, and every message whose number was told is found in the history of its
conversation for ever after.
-/
import WeChat.Chat.Durable
import WeChat.Chat.Paging
import WeChat.Chat.StepReplies

namespace WeChat

open Wire Transition Json LogicSystem

/-! ## The log -/

/-- A message of the log, and the session whose request it was. -/
structure LogEntry where
  session : Conn
  row : Message

/-- What tells the four requests that ask for a message apart. -/
structure MessageRequest where
  reqId : ℤ
  kind : MessageKind
  /-- The field that names the recipient or the group. -/
  target : String
  chatType : ℤ

def messageRequests : List MessageRequest :=
  [⟨idTextChatMsgReq, textChat, "toUid", 0⟩, ⟨idImageChatMsgReq, imageChat, "toUid", 0⟩,
    ⟨idGroupChatMsgReq, groupText, "groupId", 1⟩,
    ⟨idGroupImageChatMsgReq, groupImage, "groupId", 1⟩]

/-- The request asks for this message; the number is that of the database. -/
structure MessageRequest.AsksFor (r : MessageRequest) (id : ℤ) (src : Option Json) (now : String)
    (row : Message) : Prop where
  id_eq : id = r.reqId
  body : ∃ body, src = some body ∧ body.getInt "fromUid" = some row.from_uid ∧
    body.getInt r.target = some row.to_uid ∧ body.getStr "content" = some row.content
  time : row.send_time = now
  msg_type : row.msg_type = r.kind.msgType
  chat_type : row.chat_type = r.chatType

/-- The number that an answer with success to such a request tells, and to whom. -/
def acknowledgement (x : Conn × ℤ × Json) : Option (Conn × ℤ) :=
  if x.2.1 ∈ messageRequests.map (fun r => r.kind.rspId) then
    match x.2.2.get "error" with
    | some (.num code) =>
      if code = ErrorCodes.success.code then (messageId x.2.2).map fun mid => (x.1, mid) else none
    | _ => none
  else none

section Acknowledgement

variable {x : Conn × ℤ × Json} {outputs : List Output}

lemma acknowledgement_of_hasError (h : HasError x.2.2) : acknowledgement x = none := by
  obtain ⟨code, hcode, hne⟩ := h
  rw [acknowledgement, hcode]
  split_ifs
  · exact if_neg hne
  · rfl

lemma acknowledgement_of_notMem (h : x.2.1 ∉ messageRequests.map fun r => r.kind.rspId) :
    acknowledgement x = none :=
  if_neg h

lemma acknowledgement_success {r : MessageRequest} (hr : r ∈ messageRequests) {mid : ℤ}
    (hmid : toInt32 mid = mid) (session : Conn) (now : String) :
    acknowledgement (session, r.kind.rspId, object [("error", .num ErrorCodes.success.code),
      ("messageId", .num mid), ("time", .str now)]) = some (session, mid) := by
  rw [acknowledgement, if_pos (List.mem_map_of_mem hr), get_object]
  simp only [messageId_success hmid]
  simp [List.lookup]

/-- Only answers acknowledge. -/
lemma filterMap_acknowledgement (outputs : List Output) :
    (outputs.filterMap Output.sent).filterMap acknowledgement =
      (replies outputs).filterMap acknowledgement := by
  rw [replies, List.filterMap_filter]
  refine List.filterMap_congr fun x _ => ?_
  split_ifs with hid
  · rfl
  · refine acknowledgement_of_notMem fun hmem => hid ?_
    have hall : ∀ id ∈ messageRequests.map (fun r => r.kind.rspId), id ∈ replyIds := by decide
    exact decide_eq_true (hall _ hmem)

end Acknowledgement

/-! ## What a handler does to the log -/

/-- A handler appends the message that its request asks for and acknowledges it, or does neither;
the handled request and its session are given. -/
inductive LogsOne (db : Database) (session : Conn) (id : ℤ) (src : Option Json) (now : String)
    (done : Database × List Output) : Prop
  | nothing (hrows : done.1.messages = db.messages)
    (hacks : (replies done.2).filterMap acknowledgement = [])
  | append {r : MessageRequest} {row : Message} (hr : r ∈ messageRequests)
    (hasks : r.AsksFor id src now row) (hstored : Stored db done.1 row)
    (hacks : (replies done.2).filterMap acknowledgement = [(session, row.id)])

namespace LogicSystem

section Handlers

variable {env : Env} {db : Database} {mgr : ℤ → Option Conn} {session : Conn} {id : ℤ}
  {src : Option Json} {done : Database × List Output}

/-- The handlers of other requests. -/
lemma logsOne_of_other {rspId : ℤ} (hrows : done.1.messages = db.messages)
    (hone : RepliesOnce session rspId done.2)
    (hid : rspId ∉ messageRequests.map fun r => r.kind.rspId) :
    LogsOne db session id src env.now done := by
  obtain ⟨msg, hreplies⟩ := hone
  refine .nothing hrows ?_
  rw [hreplies, List.filterMap_cons, acknowledgement_of_notMem hid, List.filterMap_nil]

lemma logsOne_error {r : MessageRequest} (hr : r ∈ messageRequests) :
    LogsOne db session id src env.now (db, [answerError session r.kind.rspId .errNetwork]) := by
  have hid : ∀ r ∈ messageRequests, r.kind.rspId ∈ replyIds := by decide
  refine .nothing rfl ?_
  rw [answerError, replies_answer (hid r hr), List.filterMap_cons,
    acknowledgement_of_hasError (hasError_answerError (by decide)), List.filterMap_nil]

lemma replies_success {r : MessageRequest} (hr : r ∈ messageRequests) {mid : ℤ}
    (hmid : toInt32 mid = mid) (now : String) :
    (replies [answer session r.kind.rspId [("error", .num ErrorCodes.success.code),
      ("messageId", .num mid), ("time", .str now)]]).filterMap acknowledgement =
        [(session, mid)] := by
  have hid : ∀ r ∈ messageRequests, r.kind.rspId ∈ replyIds := by decide
  rw [replies_answer (hid r hr), List.filterMap_cons, acknowledgement_success hr hmid,
    List.filterMap_nil]

lemma notifyId_notMem : ∀ r ∈ messageRequests, r.kind.notifyId ∉ replyIds := by decide

lemma logsOne_privateMessage {r : MessageRequest} (hr : r ∈ messageRequests)
    (htarget : r.target = "toUid") (hchat : r.chatType = 0)
    (h : privateMessage env db mgr session r.kind src = some done) :
    LogsOne db session r.reqId src env.now done := by
  obtain ⟨body, fromUid, toUid, content, extra, rfl, hfrom, hto, hcontent, -, hdone⟩ :=
    privateMessage_spec h
  rcases hdone with rfl | ⟨mid, db', fromUser, hstored, rfl⟩
  · exact logsOne_error hr
  · refine .append hr ⟨rfl, ⟨body, rfl, hfrom, htarget ▸ hto, hcontent⟩, rfl, rfl, hchat.symm⟩
      hstored ?_
    rw [replies_notifyOrPublish (notifyId_notMem r hr)]
    exact replies_success hr hstored.toInt32_id env.now

lemma logsOne_groupMessage {r : MessageRequest} (hr : r ∈ messageRequests)
    (htarget : r.target = "groupId") (hchat : r.chatType = 1)
    (h : groupMessage env db mgr session r.kind src = some done) :
    LogsOne db session r.reqId src env.now done := by
  obtain ⟨body, fromUid, groupId, content, extra, rfl, hfrom, hgroup, hcontent, -, hdone⟩ :=
    groupMessage_spec h
  rcases hdone with rfl | ⟨mid, db', fromUser, group, hstored, rfl⟩
  · exact logsOne_error hr
  · refine .append hr ⟨rfl, ⟨body, rfl, hfrom, htarget ▸ hgroup, hcontent⟩, rfl, rfl, hchat.symm⟩
      hstored ?_
    rw [replies_map_notifyOrPublish (notifyId_notMem r hr)]
    exact replies_success hr hstored.toInt32_id env.now

lemma logsOne_handleMsg (env : Env) (db : Database) (mgr : ℤ → Option Conn) (session : Conn)
    (id : ℤ) (src : Option Json) :
    LogsOne db session id src env.now (handleMsg env db mgr session id src) := by
  rw [handleMsg]
  cases hh : (msgHandler env db mgr session id).bind fun handler => handler src with
  | none => exact .nothing rfl rfl
  | some done =>
    obtain ⟨handler, hhandler, hdone⟩ := Option.bind_eq_some_iff.1 hh
    have hall : ∀ done, handler src = some done → LogsOne db session id src env.now done :=
      forall_msgHandler
        (P := fun id handler =>
          ∀ done, handler src = some done → LogsOne db session id src env.now done)
        (fun _ h => logsOne_of_other (leaves_friendList h).messages (repliesOnce_friendList h)
          (by decide))
        (fun _ h => logsOne_of_other (leaves_searchUser h).messages (repliesOnce_searchUser h)
          (by decide))
        (fun _ h => logsOne_of_other (leaves_addFriend h).messages (repliesOnce_addFriend h)
          (by decide))
        (fun _ h => logsOne_of_other (leaves_authFriend h).messages (repliesOnce_authFriend h)
          (by decide))
        (fun _ => logsOne_privateMessage (List.mem_of_getElem? (i := 0) rfl) rfl rfl)
        (fun _ => logsOne_privateMessage (List.mem_of_getElem? (i := 1) rfl) rfl rfl)
        (fun _ h => logsOne_of_other (leaves_chatHistory h).messages (repliesOnce_chatHistory h)
          (by decide))
        (fun _ h => logsOne_of_other (leaves_createGroupReq h).messages
          (repliesOnce_createGroupReq h) (by decide))
        (fun _ h => logsOne_of_other (leaves_addGroupMemberReq h).messages
          (repliesOnce_addGroupMemberReq h) (by decide))
        (fun _ h => logsOne_of_other (leaves_removeGroupMemberReq h).messages
          (repliesOnce_removeGroupMemberReq h) (by decide))
        (fun _ => logsOne_groupMessage (List.mem_of_getElem? (i := 2) rfl) rfl rfl)
        (fun _ => logsOne_groupMessage (List.mem_of_getElem? (i := 3) rfl) rfl rfl)
        (fun _ h => logsOne_of_other (leaves_groupList h).messages (repliesOnce_groupList h)
          (by decide))
        (fun _ h => logsOne_of_other (leaves_groupMembers h).messages (repliesOnce_groupMembers h)
          (by decide))
        (fun _ h => logsOne_of_other (leaves_groupChatHistory h).messages
          (repliesOnce_groupChatHistory h) (by decide)) hhandler
    exact hall done hdone

end Handlers

end LogicSystem

/-! ## Runs -/

/-- The handler of a request of this session, which a worker runs, asks for this message. -/
def State.Logs (cfg : Config) (x : LogEntry) (s : State) (e : Event) : Prop :=
  ∃ S i alive env node queue, e = .work S i alive env ∧ s.queues S i = node :: queue ∧
    node._session = x.session ∧ ∃ r ∈ messageRequests,
      r.AsksFor node._id (cfg.codec.parse node._body) env.now x.row

/-- The log that a run has kept, which started with a database. -/
structure Recorded (cfg : Config) (db : Database) (es : List Event) (s : State)
    (log : List LogEntry) : Prop where
  rows_eq : s.db.messages.rows = db.messages.rows ++ log.map LogEntry.row
  sent_eq : s.sent.filterMap acknowledgement = log.map fun x => (x.session, x.row.id)
  last_le : db.messages.last ≤ s.db.messages.last
  new : ∀ x ∈ log, db.messages.last < x.row.id
  ascending : log.Pairwise fun x y => x.row.id < y.row.id
  asked : ∀ x ∈ log, SomeStep (step cfg) (State.Logs cfg x) (.init db) es

section Runs

variable {cfg : Config} {db : Database} {s s' : State} {e : Event} {es : List Event}

/-- What is sent when a message is read acknowledges nothing. -/
lemma ReadReplies.acknowledgement {c : Conn} {m : ℤ × Bytes} {posted : Option LogicNode}
    {sent : List (Conn × ℤ × Json)} (h : ReadReplies cfg c m posted sent) :
    sent.filterMap acknowledgement = [] := by
  have hlist : ∀ id ∈ [idChatLoginRsp, idFriendListRsp],
      id ∉ messageRequests.map fun r => r.kind.rspId := by decide
  cases h with
  | login _ _ hrest _ =>
    rw [List.filterMap_cons,
      acknowledgement_of_notMem (hlist idChatLoginRsp List.mem_cons_self)]
    refine List.filterMap_eq_nil_iff.2 fun x hx => acknowledgement_of_notMem ?_
    rw [hrest x hx]
    exact hlist idFriendListRsp (List.mem_of_getElem? (i := 1) rfl)
  | refused _ _ herror =>
    rw [List.filterMap_cons, acknowledgement_of_hasError herror, List.filterMap_nil]
  | _ => rfl

/-- **One step of the log.**  Nothing happens to it, or a message is appended that is acknowledged
to the session that has asked for it. -/
lemma logs_step (hshort : s.reg.Short) (h : step cfg s e = some s') :
    s'.db.messages = s.db.messages ∧
        s'.sent.filterMap acknowledgement = s.sent.filterMap acknowledgement ∨
      ∃ x : LogEntry, s.Logs cfg x e ∧ Stored s.db s'.db x.row ∧
        s'.sent.filterMap acknowledgement =
          s.sent.filterMap acknowledgement ++ [(x.session, x.row.id)] := by
  have hsilent : ∀ {outputs : List Output}, s'.sent = s.sent ++ outputs.filterMap Output.sent →
      (replies outputs).filterMap acknowledgement = [] →
        s'.sent.filterMap acknowledgement = s.sent.filterMap acknowledgement := by
    intro outputs hsent hnone
    rw [hsent, List.filterMap_append, filterMap_acknowledgement, hnone, List.append_nil]
  rcases step_cases h with ⟨reg, rfl⟩ | ⟨c, bytes, env, msgId, msgBody, rfl, -⟩ |
    ⟨S, i, alive, env, node, queue, base, rfl, hqueue, rfl, rfl | ⟨done, rfl, rfl⟩⟩ |
    ⟨S, env, text, texts, rfl, -, rfl⟩
  · exact .inl ⟨rfl, rfl⟩
  · have hdb : s'.db = s.db := by
      rcases db_step h with hdb | ⟨S, i, alive, env, node, queue, he, -⟩
      · exact hdb
      · cases he
    refine .inl ⟨congrArg Database.messages hdb, ?_⟩
    cases hm : s.completed c bytes with
    | none => rw [(read_of_not_completed (c := c) hm h).1]
    | some m =>
      obtain ⟨outputs, hsent, hreplies⟩ := readReplies hshort hm h
      exact hsilent hsent hreplies.acknowledgement
  · exact .inl ⟨rfl, rfl⟩
  · -- a worker has run the handler of a request
    have hone := logsOne_handleMsg env s.db (s.reg.mgr S) node._session node._id
      (cfg.codec.parse node._body)
    generalize handleMsg env s.db (s.reg.mgr S) node._session node._id
      (cfg.codec.parse node._body) = done at hone hsilent ⊢
    cases hone with
    | nothing hrows hacks => exact .inl ⟨hrows, hsilent rfl hacks⟩
    | append hr hasks hstored hacks =>
      refine .inr ⟨⟨node._session, _⟩, ⟨S, i, alive, env, node, queue, rfl, hqueue, rfl, _, hr,
        hasks⟩, hstored, ?_⟩
      show (s.sent ++ done.2.filterMap Output.sent).filterMap acknowledgement = _
      rw [List.filterMap_append, filterMap_acknowledgement, hacks]
  · exact .inl ⟨rfl, hsilent rfl (by rw [replies_subscriberCallback]; rfl)⟩

lemma recorded_init (db : Database) : Recorded cfg db [] (.init db) [] where
  rows_eq := (List.append_nil _).symm
  sent_eq := rfl
  last_le := le_refl _
  new _ hx := absurd hx List.not_mem_nil
  ascending := .nil
  asked _ hx := absurd hx List.not_mem_nil

/-- A step that leaves the log alone. -/
lemma Recorded.keep {log : List LogEntry} (hlog : Recorded cfg db es s log)
    (hrows : s'.db.messages = s.db.messages)
    (hsent : s'.sent.filterMap acknowledgement = s.sent.filterMap acknowledgement) :
    Recorded cfg db (es ++ [e]) s' log where
  rows_eq := hrows ▸ hlog.rows_eq
  sent_eq := hsent.trans hlog.sent_eq
  last_le := hrows ▸ hlog.last_le
  new := hlog.new
  ascending := hlog.ascending
  asked x hx := (hlog.asked x hx).append [e]

/-- The log with one more entry. -/
lemma Recorded.append {log : List LogEntry} {x : LogEntry} (hlog : Recorded cfg db es s log)
    (hrun : run (step cfg) (.init db) es = some s) (hlogs : s.Logs cfg x e)
    (hstored : Stored s.db s'.db x.row)
    (hsent : s'.sent.filterMap acknowledgement =
      s.sent.filterMap acknowledgement ++ [(x.session, x.row.id)]) :
    Recorded cfg db (es ++ [e]) s' (log ++ [x]) where
  rows_eq := by
    rw [hstored.rows_eq, hlog.rows_eq, List.append_assoc, List.map_append]
    rfl
  sent_eq := by
    rw [hsent, hlog.sent_eq, List.map_append]
    rfl
  last_le := hstored.last_eq ▸ hlog.last_le.trans hstored.new.le
  new := by
    rw [List.forall_mem_append, List.forall_mem_singleton]
    exact ⟨hlog.new, hlog.last_le.trans_lt hstored.new⟩
  ascending := by
    refine List.pairwise_append.2 ⟨hlog.ascending, List.pairwise_singleton _ _, fun y hy z hz => ?_⟩
    obtain rfl := List.mem_singleton.1 hz
    -- a row that is in the table has a number that was drawn before
    have hrow : y.row ∈ s.db.messages.rows := by
      rw [hlog.rows_eq]
      exact List.mem_append_right _ (List.mem_map_of_mem hy)
    exact (s.db.messages.key_le y.row hrow).trans_lt hstored.new
  asked := by
    rw [List.forall_mem_append, List.forall_mem_singleton]
    exact ⟨fun y hy => (hlog.asked y hy).append [e], .right hrun (.inl hlogs)⟩

/-- The servers keep one log. -/
lemma recorded_of_run (hrun : run (step cfg) (.init db) es = some s) :
    ∃ log, Recorded cfg db es s log := by
  have hall : s.reg.Short ∧ ∃ log, Recorded cfg db es s log := by
    refine run_history (P := fun es s => s.reg.Short ∧ ∃ log, Recorded cfg db es s log)
      ⟨fun _ _ _ hread => (by cases hread), [], recorded_init db⟩ ?_ hrun
    rintro es s e s' hrun h ⟨hshort, log, hlog⟩
    refine ⟨(reg_step h).2 ▸ short_apply hshort _, ?_⟩
    rcases logs_step hshort h with ⟨hrows, hsent⟩ | ⟨x, hlogs, hstored, hsent⟩
    · exact ⟨log, hlog.keep hrows hsent⟩
    · exact ⟨log ++ [x], hlog.append hrun hlogs hstored hsent⟩
  exact hall.2

/-- **What is stored is what was acknowledged.**  After any run of the servers the numbers of the
messages that were added are the numbers that were told to the clients in answers with success, in
the same order; no number was told twice; and the session that was told the number of a row is one
whose request has asked for this message, with the values of the row. -/
theorem stored_acknowledged (hrun : run (step cfg) (.init db) es = some s) :
    ∃ new, s.db.messages.rows = db.messages.rows ++ new ∧
      (s.sent.filterMap acknowledgement).map Prod.snd = new.map Message.id ∧
      (new.map Message.id).Nodup ∧
      ∀ row ∈ new, ∃ session, (session, row.id) ∈ s.sent.filterMap acknowledgement ∧
        SomeStep (step cfg) (State.Logs cfg ⟨session, row⟩) (.init db) es := by
  obtain ⟨log, hlog⟩ := recorded_of_run hrun
  refine ⟨log.map LogEntry.row, hlog.rows_eq, ?_, ?_, fun row hrow => ?_⟩
  · rw [hlog.sent_eq, List.map_map, List.map_map]
    rfl
  · rw [List.map_map]
    exact (List.pairwise_map.2 hlog.ascending).imp ne_of_lt
  · obtain ⟨x, hx, rfl⟩ := List.mem_map.1 hrow
    refine ⟨x.session, ?_, hlog.asked x hx⟩
    rw [hlog.sent_eq]
    exact List.mem_map_of_mem hx

end Runs

/-! ## What was acknowledged is shown -/

section Shown

open MySQLMgr Relational

variable {cfg : Config} {db : Database} {s t : State} {es es' : List Event}

/-- Every row that a conversation selects is on some page. -/
lemma exists_page_of_selects {conv : Conversation} {db : Database} {m : Message}
    (hm : m ∈ db.messages.rows) (hsel : conv.Selects m) (tie : TieBreak ℤ) {count : ℕ}
    (hcount : 1 ≤ count) : ∃ n : ℕ, m.entry ∈ conv.page tie db count (n * count : ℕ) := by
  let entries := (selected conv tie db).map Message.entry
  have hmem : m.entry ∈ entries := List.mem_map_of_mem (mem_selected.2 ⟨hm, hsel⟩)
  -- as many pages as there are entries are all of them
  have hall : ((List.range entries.length).flatMap fun k : ℕ =>
      limit count (k * count : ℕ) entries) = entries := by
    rw [flatMap_limit, List.take_of_length_le (Nat.le_mul_of_pos_right _ hcount)]
  rw [← hall] at hmem
  obtain ⟨n, -, hn⟩ := List.mem_flatMap.1 hmem
  refine ⟨n, ?_⟩
  rw [page_eq, List.mem_reverse]
  exact hn

/-- **What was acknowledged is shown.**  A number that was told to a session is that of a message
that a request of this session has asked for; whatever happens afterwards, its row is stored, and
for every size of the pages one page of the history of its conversation shows it, be this of two
users or of a group. -/
theorem acknowledged_shown {session : Conn} {mid : ℤ}
    (hrun : run (step cfg) (.init db) es = some s)
    (hack : (session, mid) ∈ s.sent.filterMap acknowledgement)
    (hlater : run (step cfg) s es' = some t) :
    ∃ row ∈ t.db.messages.rows, row.id = mid ∧
      SomeStep (step cfg) (State.Logs cfg ⟨session, row⟩) (.init db) es ∧
      ∀ conv : Conversation, conv.Has row → ∀ tie, ∀ count : ℕ, 1 ≤ count →
        ∃ n : ℕ, row.entry ∈ conv.page tie t.db count (n * count : ℕ) := by
  obtain ⟨log, hlog⟩ := recorded_of_run hrun
  rw [hlog.sent_eq] at hack
  obtain ⟨x, hx, heq⟩ := List.mem_map.1 hack
  obtain ⟨rfl, rfl⟩ := Prod.mk.inj heq
  have hrow : x.row ∈ s.db.messages.rows := by
    rw [hlog.rows_eq]
    exact List.mem_append_right _ (List.mem_map_of_mem hx)
  have hkept : x.row ∈ t.db.messages.rows :=
    run_invariant (I := fun t : State => x.row ∈ t.db.messages.rows)
      (fun _ _ _ hs h => (extends_step h).messages.subset hs) hlater hrow
  exact ⟨x.row, hkept, rfl, hlog.asked x hx, fun conv hhas tie count hcount =>
    exists_page_of_selects hkept (Conversation.selects_of_has hhas) tie hcount⟩

end Shown

/-- A text is stored, under the number 1 that its sender is told. -/
theorem stored_acknowledged_text :
    ∃ s, run (step compactConfig) (.init MySQLMgr.twoUsers) textSentRun = some s ∧
      ∃ row, s.db.messages.rows = MySQLMgr.twoUsers.messages.rows ++ [row] ∧ row.id = 1 ∧
        ∃ session, (session, 1) ∈ s.sent.filterMap acknowledgement ∧
          SomeStep (step compactConfig) (State.Logs compactConfig ⟨session, row⟩)
            (.init MySQLMgr.twoUsers) textSentRun := by
  obtain ⟨new, hrows, -, -, hasked⟩ := stored_acknowledged run_textSent
  have hadded : textSent.db.messages.rows = MySQLMgr.twoUsers.messages.rows ++
      [⟨1, 1, 2, "hello", "2025-06-01 12:00:00", 0, 0, 0⟩] := rfl
  obtain rfl := List.append_cancel_left (hrows.symm.trans hadded)
  exact ⟨_, run_textSent, _, hadded, rfl, hasked _ (List.mem_singleton_self _)⟩

/-- The sender of a text disconnects, and the text is still shown. -/
theorem acknowledged_shown_text :
    ∃ t, run (step compactConfig) textSent [.readError client₁ .eof] = some t ∧
      ∃ row ∈ t.db.messages.rows, row.id = 1 ∧ ∀ conv : MySQLMgr.Conversation, conv.Has row →
        ∃ n : ℕ, row.entry ∈ conv.page .ascending t.db 5 (n * 5 : ℕ) := by
  have hack : (client₁, 1) ∈ textSent.sent.filterMap acknowledgement := by decide +kernel
  obtain ⟨row, hrow, hid, -, hpages⟩ := acknowledged_shown run_textSent hack
    (show run (step compactConfig) _ [.readError client₁ .eof] = some _ from rfl)
  exact ⟨_, rfl, row, hrow, hid, fun conv hhas => hpages conv hhas .ascending 5 (by decide)⟩

end WeChat
