/-
# What a step answers

A session answers a login itself, and it refuses every other request until it has logged in; then
a worker handles its requests.  A request that a step handles is sent one answer, unless it is a
login that is ignored or its handler throws, and no step answers anything else.  The answer goes
out when its text is short enough for `send`, or, where `send` throws in a `try` block, as an error.
-/
import WeChat.Chat.Frames
import WeChat.Chat.Replies

namespace WeChat

open Wire Json LogicSystem

/-! ## Requests -/

/-- The message has the identifier of a request. -/
def LogicNode.IsRequest (node : LogicNode) : Prop := node._id ∈ requestSchemas.map Prod.fst

instance : DecidablePred LogicNode.IsRequest := fun _ => inferInstanceAs (Decidable (_ ∈ _))

/-- The fields of the request are in its body. -/
def LogicNode.Acceptable (cfg : Config) (node : LogicNode) : Prop :=
  ∃ fields, requestSchemas.lookup node._id = some fields ∧
    Accepts fields (cfg.codec.parse node._body)

/-- The request that an event reads on a connection. -/
def State.asks (s : State) (c : Conn) : Event → Option LogicNode
  | .read c' bytes _ =>
    if c' = c then
      ((s.completed c bytes).map fun m => LogicNode.mk m.1 m.2 c).filter fun node => node.IsRequest
    else none
  | _ => none

/-- The request of a connection that an event handles. -/
def State.handles (s : State) (c : Conn) (e : Event) : Option LogicNode :=
  match e with
  | .read _ _ _ => if (s.posted e).isSome then none else s.asks c e
  | .work S i _ _ => (s.queues S i).head?.filter fun node => node._session = c ∧ node.IsRequest
  | _ => none

/-- The event completes a login. -/
def State.logsIn (s : State) : Event → Bool
  | .read c bytes _ => (s.completed c bytes).any fun m => m.1 = idChatLogin
  | _ => false

/-- What goes to a connection under the identifier of an answer; the friend list after a login
answers no request. -/
def State.isReply (s : State) (e : Event) (c session : Conn) (id : ℤ) : Bool :=
  session = c ∧ id ∈ replyIds ∧ ¬(id = idFriendListRsp ∧ s.logsIn e)

/-- The answers to a connection among the calls of `send` that a step makes. -/
def repliesTo (c : Conn) (s s' : State) (e : Event) : List (Conn × ℤ × Json) :=
  (s'.sent.drop s.sent.length).filter fun m => s.isReply e c m.1 m.2.1

/-- The answers to a connection among the frames that an event queues. -/
def framesTo (cfg : Config) (c : Conn) (s : State) (e : Event) : List Frame :=
  (s.frames cfg e).filter fun frame => s.isReply e c frame.session frame.id

/-- A request is answered by one frame, under the identifier after its own, which holds the whole
text of a value, with an error when the body is not acceptable; without a request nothing is
answered. -/
def Answered (cfg : Config) : Option LogicNode → List Frame → Prop
  | none, frames => frames = []
  | some node, frames => ∃ msg, frames = [.whole cfg.codec node._session (node._id + 1) msg] ∧
    (¬ node.Acceptable cfg → HasError msg)

/-- A request of the connection is posted to a queue that is not full, and a worker that takes
one finds its session. -/
def Kept (cfg : Config) (c : Conn) (s : State) (e : Event) : Prop :=
  match e with
  | .read _ _ _ => ∀ node, s.posted e = some node → node._session = c →
    (s.queues c.srv (getQueueIndex cfg c.srv (s.reg.session c)._uid)).length ≤ queueMaxSize
  | .work S i alive _ => ∀ node ∈ (s.queues S i).head?, node._session = c →
    s.reg.lock c alive = true
  | _ => True

/-- A login on the connection has both fields, or it is no JSON; and a worker that takes a request
whose handler catches nothing can convert its fields. -/
def Answerable (cfg : Config) (c : Conn) (s : State) : Event → Prop
  | .read c' bytes _ => c' = c → ∀ m, s.completed c bytes = some m → m.1 = idChatLogin →
    CSession.loginRequest (cfg.codec.parse m.2) ≠ .ignored
  | .work S i _ _ => ∀ node ∈ (s.queues S i).head?, node._session = c →
    ∀ fields, schemas.lookup node._id = some fields → Accepts fields (cfg.codec.parse node._body)
  | _ => True

/-- The text of the answer that an event calls `send` for goes out whole, and none of the calls
before it throws; or it is so long that `send` throws, in a `try` block whose `catch` answers. -/
def ReplyFits (cfg : Config) (c : Conn) (s : State) (e : Event) : Prop :=
  let calls := s.calls cfg e
  ∀ call ∈ calls.find? fun x => s.isReply e c x.1 x.2.1,
    (∀ x ∈ calls.takeWhile fun x => !s.isReply e c x.1 x.2.1, frameOf cfg.codec x ≠ none) ∧
        Fitting cfg.codec call.2.2 ∨
      (call ∈ s.guarded e calls ∧ CSession.throws (cfg.codec.dump call.2.2).length = true) ∧
        Fitting cfg.codec (errorCall call).2.2

/-! ## Shorts -/

/-- The identifiers of the messages whose bodies are read are shorts. -/
def Registry.Short (r : Registry) : Prop :=
  ∀ c msgId msgLen, (r.session c).reading = .body msgId msgLen → toShort msgId = msgId

section Short

variable {cfg : Config} {s s' : State} {r : Registry}

lemma toShort_toShort (n : ℤ) : toShort (toShort n) = toShort n := by
  unfold toShort
  split_ifs <;> omega

lemma short_onRead {st : CSession.Reading} {bytes : Bytes}
    (hst : ∀ msgId msgLen, st = .body msgId msgLen → toShort msgId = msgId) :
    (∀ m, (CSession.onRead st bytes).1 = some m → toShort m.1 = m.1) ∧
      ∀ msgId msgLen, (CSession.onRead st bytes).2 = .body msgId msgLen →
        toShort msgId = msgId := by
  fun_cases CSession.onRead st bytes with
  | case1 => exact ⟨fun _ hm => (by cases hm), fun _ _ hread => (by cases hread)⟩
  | case2 b₀ b₁ b₂ b₃ msgId =>
    -- the message has no body
    have hself : toShort msgId = msgId := toShort_toShort (u16 b₀ b₁)
    clear_value msgId
    exact ⟨fun m hm => Option.some.inj hm ▸ hself, fun _ _ hread => (by cases hread)⟩
  | case3 b₀ b₁ =>
    refine ⟨fun _ hm => (by cases hm), fun msgId msgLen hread => ?_⟩
    obtain ⟨rfl, -⟩ := CSession.Reading.body.inj hread
    exact toShort_toShort (u16 b₀ b₁)
  | case4 =>
    refine ⟨fun m hm => ?_, fun _ _ hread => (by cases hread)⟩
    obtain rfl := Option.some.inj hm
    exact hst _ _ rfl
  | case5 => exact ⟨fun _ hm => (by cases hm), fun _ _ hread => (by cases hread)⟩

lemma short_readDone (h : r.Short) (c : Conn) (bytes : Bytes) : (r.readDone c bytes).Short := by
  intro c' msgId msgLen hread
  rw [Registry.session_readDone] at hread
  by_cases hc : c' = c
  · rw [if_pos hc] at hread
    exact (short_onRead (h c)).2 msgId msgLen hread
  · rw [if_neg hc] at hread
    exact h c' msgId msgLen hread

lemma short_apply (h : r.Short) (e : RegEvent) : (r.apply e).Short := by
  intro c' msgId msgLen hread
  cases e with
  | accept c =>
    rw [Registry.apply, Registry.session_accept] at hread
    by_cases hc : c' = c
    · rw [if_pos hc] at hread
      cases hread
    · rw [if_neg hc] at hread
      exact h c' msgId msgLen hread
  | read c bytes login =>
    have hdone := short_readDone h c bytes
    cases login with
    | none => exact hdone c' msgId msgLen hread
    | some uid =>
      rw [Registry.apply, Registry.session_login] at hread
      by_cases hc : c' = c
      · rw [if_pos hc] at hread
        exact hdone c msgId msgLen hread
      · rw [if_neg hc] at hread
        exact hdone c' msgId msgLen hread
  | readError c ec =>
    obtain ⟨listed, hses⟩ := Registry.session_readError r c c' ec
    rw [Registry.apply, hses] at hread
    by_cases hc : c' = c
    · rw [if_pos hc] at hread
      cases hread
    · rw [if_neg hc] at hread
      exact h c' msgId msgLen hread
  | writeError c =>
    rw [Registry.apply, Registry.session_writeError] at hread
    by_cases hc : c' = c
    · rw [if_pos hc] at hread
      exact h c msgId msgLen hread
    · rw [if_neg hc] at hread
      exact h c' msgId msgLen hread
  | skip => exact h c' msgId msgLen hread

end Short

/-! ## What a step sends -/

section Sent

variable {cfg : Config} {s s' : State} {c : Conn} {e : Event} {outputs : List Output}

/-- The answers of a step, to one connection. -/
lemma repliesTo_of_sent (h : s'.sent = s.sent ++ outputs.filterMap Output.sent) :
    repliesTo c s s' e = ((replies outputs).filter fun m =>
      m.1 = c ∧ ¬(m.2.1 = idFriendListRsp ∧ s.logsIn e)) := by
  rw [repliesTo, h, List.drop_left, replies, List.filter_filter]
  refine List.filter_congr fun m _ => ?_
  rw [Bool.eq_iff_iff]
  simp only [State.isReply, decide_eq_true_eq, Bool.and_eq_true]
  tauto

lemma repliesTo_of_replies_nil (h : s'.sent = s.sent ++ outputs.filterMap Output.sent)
    (hnil : replies outputs = []) : repliesTo c s s' e = [] := by
  rw [repliesTo_of_sent h, hnil]
  rfl

lemma repliesTo_of_sent_eq (h : s'.sent = s.sent) : repliesTo c s s' e = [] := by
  have hsent : s'.sent = s.sent ++ ([] : List Output).filterMap Output.sent :=
    h.trans (List.append_nil _).symm
  exact repliesTo_of_replies_nil hsent rfl

/-- One answer, of an event that completes no login. -/
lemma repliesTo_of_one {session : Conn} {id : ℤ} {msg : Json}
    (h : s'.sent = s.sent ++ outputs.filterMap Output.sent)
    (hone : replies outputs = [(session, id, msg)]) (hlogin : s.logsIn e = false) :
    repliesTo c s s' e = if session = c then [(session, id, msg)] else [] := by
  rw [repliesTo_of_sent h, hone]
  by_cases hsession : session = c <;> simp [hsession, hlogin]

/-! ### Messages that are read -/

variable {c' : Conn} {bytes : Bytes} {env : Env} {m : ℤ × Bytes}

lemma asks_read (hm : s.completed c bytes = some m) :
    s.asks c (.read c bytes env) =
      if m.1 ∈ requestSchemas.map Prod.fst then some ⟨m.1, m.2, c⟩ else none := by
  rw [State.asks, if_pos rfl, hm, Option.map_some, Option.filter_some]
  by_cases hid : m.1 ∈ requestSchemas.map Prod.fst
  · have hrequest : (LogicNode.mk m.1 m.2 c).IsRequest := hid
    rw [if_pos hid, if_pos (decide_eq_true hrequest)]
  · have hrequest : ¬ (LogicNode.mk m.1 m.2 c).IsRequest := hid
    rw [if_neg hid, if_neg (by rw [decide_eq_true_eq]; exact hrequest)]

/-- What a session sends when it refuses a message. -/
lemma sent_refused (hshort : s.reg.Short) (hm : s.completed c' bytes = some m) :
    replies [answerError c' (toShort (m.1 + 1)) .tokenInvalid] =
      if m.1 ∈ requestSchemas.map Prod.fst then
        [(c', m.1 + 1, object [("error", .num ErrorCodes.tokenInvalid.code)])]
      else [] := by
  have hself : toShort m.1 = m.1 := (short_onRead (hshort c')).1 m hm
  by_cases hid : m.1 ∈ requestSchemas.map Prod.fst
  · have hnext : toShort (m.1 + 1) = m.1 + 1 := by
      have hall : ∀ id ∈ requestSchemas.map Prod.fst, toShort (id + 1) = id + 1 := by decide
      exact hall m.1 hid
    rw [if_pos hid, hnext]
    exact replies_answer (List.mem_map.2 (by
      obtain ⟨r, hr, heq⟩ := List.mem_map.1 hid
      exact ⟨r, hr, by rw [heq]⟩))
  · rw [if_neg hid]
    refine replies_send_of_not_mem fun hmem => hid ?_
    obtain ⟨r, hr, heq⟩ := List.mem_map.1 hmem
    have hlt : ∀ r ∈ requestSchemas, 0 < r.1 ∧ r.1 < 32767 := by decide
    have hr' := hlt r hr
    have hrange := toShort_lt m.1
    have hsame : r.1 = m.1 := by
      unfold toShort at heq hself
      split_ifs at heq hself <;> omega
    exact hsame ▸ List.mem_map_of_mem hr

/-- What becomes of a message that a session has read: whether it is posted, and the answers that
are sent at once. -/
inductive ReadReplies (cfg : Config) (c : Conn) (m : ℤ × Bytes) :
    Option LogicNode → List (Conn × ℤ × Json) → Prop
  | posted (hlogin : m.1 ≠ idChatLogin) : ReadReplies cfg c m (some ⟨m.1, m.2, c⟩) []
  | ignored (hlogin : m.1 = idChatLogin)
    (hlacks : CSession.loginRequest (cfg.codec.parse m.2) = .ignored) : ReadReplies cfg c m none []
  | login (hlogin : m.1 = idChatLogin)
    (hfields : CSession.loginRequest (cfg.codec.parse m.2) ≠ .ignored)
    {msg : Json} {rest : List (Conn × ℤ × Json)} (hrest : ∀ x ∈ rest, x.2.1 = idFriendListRsp)
    (herror : ¬ Accepts loginSchema (cfg.codec.parse m.2) → HasError msg) :
    ReadReplies cfg c m none ((c, idChatLoginRsp, msg) :: rest)
  | refused (hlogin : m.1 ≠ idChatLogin) (hid : m.1 ∈ requestSchemas.map Prod.fst) {msg : Json}
    (herror : HasError msg) : ReadReplies cfg c m none [(c, m.1 + 1, msg)]
  | other (hlogin : m.1 ≠ idChatLogin) (hid : m.1 ∉ requestSchemas.map Prod.fst) :
    ReadReplies cfg c m none []

/-- The login branch of `handleMessage`. -/
lemma readReplies_login {s₁ : State} (hlogin : m.1 = idChatLogin) :
    ∃ outputs, (State.handleMessage cfg s₁ env c' m.1 m.2).sent =
        s₁.sent ++ outputs.filterMap Output.sent ∧
      ReadReplies cfg c' m none (replies outputs) := by
  have hping : ¬ m.1 = idHeartbeatPing := hlogin ▸ by decide
  rw [State.handleMessage, if_neg hping, if_pos hlogin]
  cases hrequest : CSession.loginRequest (cfg.codec.parse m.2) with
  | exception =>
    refine ⟨_, rfl, ?_⟩
    rw [answerError, replies_answer (by decide)]
    exact .login hlogin (by rw [hrequest]; exact LoginRequest.noConfusion) (by simp)
      fun _ => hasError_answerError (by decide)
  | ignored => exact ⟨[], (List.append_nil _).symm, .ignored hlogin hrequest⟩
  | credentials uid token =>
    have hfields : CSession.loginRequest (cfg.codec.parse m.2) ≠ .ignored := by
      rw [hrequest]
      exact LoginRequest.noConfusion
    have herror : ∀ msg, ¬ Accepts loginSchema (cfg.codec.parse m.2) → HasError msg :=
      fun _ hnot => absurd (accepts_of_credentials hrequest) hnot
    simp only
    split_ifs
    · refine ⟨_, rfl, ?_⟩
      rw [← List.singleton_append, replies_append, replies_answer (by decide),
        List.singleton_append]
      exact .login hlogin hfields (fun x hx => id_of_mem_sendInitialData hx) (herror _)
    · refine ⟨_, rfl, ?_⟩
      rw [replies_answer (by decide)]
      exact .login hlogin hfields (by simp) (herror _)

/-- What a message that is read is answered at once. -/
lemma readReplies (hshort : s.reg.Short) (hm : s.completed c' bytes = some m)
    (h : step cfg s (.read c' bytes env) = some s') :
    ∃ outputs, s'.sent = s.sent ++ outputs.filterMap Output.sent ∧
      ReadReplies cfg c' m (s.posted (.read c' bytes env)) (replies outputs) := by
  rw [step_completed hm h, State.posted, hm, Option.bind_some]
  by_cases hlogin : m.1 = idChatLogin
  · rw [if_pos (.inr (.inl hlogin))]
    exact readReplies_login hlogin
  · rw [State.handleMessage]
    by_cases hping : m.1 = idHeartbeatPing
    · rw [if_pos hping, if_pos (.inl hping)]
      refine ⟨_, rfl, ?_⟩
      rw [answer, replies_send_of_not_mem (by decide)]
      exact .other hlogin (hping ▸ by decide)
    · rw [if_neg hping, if_neg hlogin, (user_readDone s.reg c' bytes).1]
      by_cases hauth : (s.reg.session c')._isAuthenticated = true
      · rw [if_neg (by simp [hauth]), if_neg (by simp [hauth, hping, hlogin])]
        obtain ⟨queues, hqueues, -⟩ := State.postMsgToQueue_spec cfg
          { s with reg := s.reg.readDone c' bytes } ⟨m.1, m.2, c'⟩
        exact ⟨[], by rw [hqueues]; simp, .posted hlogin⟩
      · rw [if_pos (by simp [hauth]), if_pos (.inr (.inr (by simp [hauth])))]
        refine ⟨_, rfl, ?_⟩
        rw [sent_refused hshort hm]
        split_ifs with hid
        · exact .refused hlogin hid (hasError_answerError (by decide))
        · exact .other hlogin hid

lemma logsIn_read (hm : s.completed c' bytes = some m) :
    s.logsIn (.read c' bytes env) = decide (m.1 = idChatLogin) := by
  rw [State.logsIn, hm]
  rfl

/-- What is sent to one connection, when a session answers a message that it has read. -/
def sentTo (c : Conn) (m : ℤ × Bytes) (sent : List (Conn × ℤ × Json)) :
    List (Conn × ℤ × Json) :=
  sent.filter fun x => x.1 = c ∧ ¬(x.2.1 = idFriendListRsp ∧ m.1 = idChatLogin)

lemma repliesTo_read (h : s'.sent = s.sent ++ outputs.filterMap Output.sent)
    (hm : s.completed c' bytes = some m) :
    repliesTo c s s' (.read c' bytes env) = sentTo c m (replies outputs) := by
  rw [repliesTo_of_sent h, logsIn_read hm, sentTo]
  simp only [decide_eq_true_eq]

/-- The friend list of the initial data answers no request. -/
lemma sentTo_of_friendList {sent : List (Conn × ℤ × Json)} (hlogin : m.1 = idChatLogin)
    (h : ∀ x ∈ sent, x.2.1 = idFriendListRsp) : sentTo c m sent = [] := by
  rw [sentTo, List.filter_eq_nil_iff]
  intro x hx
  simp [h x hx, hlogin]

/-- What `send` is called with for a request: one answer, with an error when the body is not
acceptable, or nothing, when the event does not allow an answer. -/
inductive Called (cfg : Config) (ok : Prop) :
    Option LogicNode → List (Conn × ℤ × Json) → Prop
  | nothing (hok : ok) : Called cfg ok none []
  | answer (hok : ok) {node : LogicNode} {msg : Json}
    (herror : ¬ node.Acceptable cfg → HasError msg) :
    Called cfg ok (some node) [(node._session, node._id + 1, msg)]
  | silence (hnot : ¬ ok) {node : LogicNode} : Called cfg ok (some node) []

lemma Called.congr {ok ok' : Prop} {request : Option LogicNode} {sent : List (Conn × ℤ × Json)}
    (h : Called cfg ok request sent) (hok : ok ↔ ok') : Called cfg ok' request sent :=
  propext hok ▸ h

section ReadReplies

variable {posted : Option LogicNode} {sent : List (Conn × ℤ × Json)}

/-- A session answers on its own connection only. -/
lemma ReadReplies.sentTo_of_ne (h : ReadReplies cfg c' m posted sent) (hc : c' ≠ c) :
    sentTo c m sent = [] := by
  cases h with
  | posted _ => rfl
  | ignored _ _ => rfl
  | login hlogin _ hrest _ =>
    rw [sentTo, List.filter_cons_of_neg (by simp [hc])]
    exact sentTo_of_friendList hlogin hrest
  | refused _ _ _ => rw [sentTo, List.filter_cons_of_neg (by simp [hc])]; rfl
  | other _ _ => rfl

/-- A message that is a request is posted or answered once, unless it is a login that is
ignored. -/
lemma ReadReplies.called (h : ReadReplies cfg c m posted sent) :
    Called cfg (m.1 = idChatLogin → CSession.loginRequest (cfg.codec.parse m.2) ≠ .ignored)
      (if posted.isSome then none
        else if m.1 ∈ requestSchemas.map Prod.fst then some ⟨m.1, m.2, c⟩ else none)
      (sentTo c m sent) := by
  cases h with
  | posted hlogin => exact .nothing fun heq => absurd heq hlogin
  | ignored hlogin hlacks =>
    have hid : m.1 ∈ requestSchemas.map Prod.fst := hlogin ▸ by decide
    rw [if_neg (by simp), if_pos hid]
    exact .silence fun hok => hok hlogin hlacks
  | @login hlogin hfields msg rest hrest herror =>
    have hid : m.1 ∈ requestSchemas.map Prod.fst := hlogin ▸ by decide
    have hsent : sentTo c m ((c, idChatLoginRsp, msg) :: rest) = [(c, m.1 + 1, msg)] := by
      have hne : idChatLoginRsp ≠ idFriendListRsp := by decide
      have hrest' := sentTo_of_friendList (c := c) hlogin hrest
      rw [sentTo] at hrest' ⊢
      rw [List.filter_cons_of_pos (by simp [hne]), hrest', hlogin]
      rfl
    rw [if_neg (by simp), if_pos hid, hsent]
    refine .answer (fun _ => hfields) fun hnot => herror fun haccepts => hnot ?_
    exact ⟨loginSchema, by rw [hlogin]; rfl, haccepts⟩
  | @refused hlogin hid msg herror =>
    have hsent : sentTo c m [(c, m.1 + 1, msg)] = [(c, m.1 + 1, msg)] := by simp [sentTo, hlogin]
    rw [if_neg (by simp), if_pos hid, hsent]
    exact .answer (fun heq => absurd heq hlogin) fun _ => herror
  | other hlogin hid =>
    rw [if_neg (by simp), if_neg hid]
    exact .nothing fun heq => absurd heq hlogin

end ReadReplies

/-- A read that completes no message asks nothing and sends nothing. -/
lemma read_of_not_completed (hm : s.completed c' bytes = none)
    (h : step cfg s (.read c' bytes env) = some s') :
    s'.sent = s.sent ∧ s.asks c (.read c' bytes env) = none := by
  constructor
  · unfold State.completed at hm
    simp only [step, hm] at h
    split_ifs at h
    rw [← Option.some.inj h]
  · rw [State.asks]
    by_cases hc : c' = c
    · rw [if_pos hc, ← hc, hm]
      rfl
    · exact if_neg hc

/-- A request that is read is answered, or it waits, unless it is a login that is ignored. -/
lemma called_read (hshort : s.reg.Short) (h : step cfg s (.read c' bytes env) = some s') :
    Called cfg (Answerable cfg c s (.read c' bytes env)) (s.handles c (.read c' bytes env))
      (repliesTo c s s' (.read c' bytes env)) := by
  cases hm : s.completed c' bytes with
  | none =>
    obtain ⟨hsent, hasks⟩ := read_of_not_completed (c := c) hm h
    rw [State.handles, hasks, ite_self, repliesTo_of_sent_eq hsent]
    refine .nothing ?_
    rintro rfl m hm'
    cases hm.symm.trans hm'
  | some m =>
    obtain ⟨outputs, hsent, hreplies⟩ := readReplies hshort hm h
    rw [State.handles, repliesTo_read hsent hm]
    by_cases hc : c' = c
    · subst hc
      rw [asks_read hm]
      refine hreplies.called.congr ⟨?_, fun hok => hok rfl m hm⟩
      rintro hok - m' hm'
      exact Option.some.inj (hm.symm.trans hm') ▸ hok
    · have hasks : s.asks c (.read c' bytes env) = none := if_neg hc
      rw [hasks, ite_self, hreplies.sentTo_of_ne hc]
      exact .nothing fun heq => absurd heq hc

/-! ### Requests that a worker takes -/

variable {S i : ℕ} {alive : Bool}

/-- A worker sends what the handler does, when the session is there. -/
lemma sent_work (h : step cfg s (.work S i alive env) = some s') :
    ∃ node queue, s.queues S i = node :: queue ∧
      s'.sent = s.sent ++ (if s.reg.lock node._session alive then
        (handleMsg env s.db (s.reg.mgr S) node._session node._id
          (cfg.codec.parse node._body)).2 else []).filterMap Output.sent := by
  obtain ⟨node, queue, base, done, hqueue, rfl, rfl, ⟨hlock, rfl⟩ | ⟨hlock, rfl⟩⟩ := step_take h
  · refine ⟨node, queue, hqueue, ?_⟩
    rw [if_pos hlock]
    rfl
  · refine ⟨node, queue, hqueue, ?_⟩
    rw [if_neg (Bool.eq_false_iff.1 hlock)]
    exact (List.append_nil _).symm

lemma handles_work {node : LogicNode} {queue : List LogicNode}
    (hqueue : s.queues S i = node :: queue) : s.handles c (.work S i alive env) =
      if node._session = c ∧ node.IsRequest then some node else none := by
  rw [State.handles, hqueue, List.head?_cons, Option.filter_some]
  by_cases hnode : node._session = c ∧ node.IsRequest
  · rw [if_pos hnode, if_pos (decide_eq_true hnode)]
  · rw [if_neg hnode, if_neg (by rwa [decide_eq_true_eq])]

/-- A request that is handled is sent one answer, unless its handler throws. -/
lemma called_handled {node : LogicNode} (hlogin : node._id ≠ idChatLogin)
    (hrequest : node.IsRequest) (hsent : s'.sent = s.sent ++ (handleMsg env s.db (s.reg.mgr S)
      node._session node._id (cfg.codec.parse node._body)).2.filterMap Output.sent) :
    Called cfg (∀ fields, schemas.lookup node._id = some fields →
        Accepts fields (cfg.codec.parse node._body))
      (some node) (repliesTo node._session s s' (.work S i alive env)) := by
  rcases request_cases hrequest with ⟨hid, -⟩ | ⟨fields, hcaught, hnone, hlookup⟩ |
    ⟨fields, hschema, hlookup⟩
  · exact absurd hid hlogin
  · obtain ⟨msg, hone, herror⟩ := replies_of_caught env s.db (s.reg.mgr S) node._session
      (cfg.codec.parse node._body) hcaught
    rw [repliesTo_of_one hsent hone rfl, if_pos rfl]
    refine .answer (fun _ hschema => ?_) fun hnot => herror fun haccepts => ?_
    · cases hnone.symm.trans hschema
    · exact hnot ⟨fields, hlookup, haccepts⟩
  · obtain ⟨hyes, hno⟩ := replies_of_schema env s.db (s.reg.mgr S) node._session
      (cfg.codec.parse node._body) hschema
    by_cases haccepts : Accepts fields (cfg.codec.parse node._body)
    · obtain ⟨msg, hone⟩ := hyes haccepts
      rw [repliesTo_of_one hsent hone rfl, if_pos rfl]
      refine .answer ?_ fun hnot => absurd ⟨fields, hlookup, haccepts⟩ hnot
      exact fun _ hschema' => Option.some.inj (hschema.symm.trans hschema') ▸ haccepts
    · rw [repliesTo_of_replies_nil hsent (hno haccepts)]
      exact .silence fun hok => haccepts (hok fields hschema)

/-- A request that a worker takes is answered unless its handler throws. -/
lemma called_work (hlogins : ∀ node ∈ s.queues S i, node._id ≠ idChatLogin)
    (hkept : Kept cfg c s (.work S i alive env))
    (h : step cfg s (.work S i alive env) = some s') :
    Called cfg (Answerable cfg c s (.work S i alive env)) (s.handles c (.work S i alive env))
      (repliesTo c s s' (.work S i alive env)) := by
  obtain ⟨node, queue, hqueue, hsent⟩ := sent_work h
  have hanswerable : Answerable cfg c s (.work S i alive env) ↔ (node._session = c →
      ∀ fields, schemas.lookup node._id = some fields →
        Accepts fields (cfg.codec.parse node._body)) := by
    rw [Answerable, hqueue, List.head?_cons]
    simp
  rw [handles_work hqueue]
  refine Called.congr ?_ hanswerable.symm
  by_cases hsession : node._session = c
  · subst hsession
    have hlock : s.reg.lock node._session alive = true := hkept node (by rw [hqueue]; rfl) rfl
    rw [if_pos hlock] at hsent
    rw [forall_prop_of_true rfl]
    by_cases hrequest : node.IsRequest
    · rw [if_pos ⟨rfl, hrequest⟩]
      exact called_handled (hlogins node (hqueue ▸ List.mem_cons_self)) hrequest hsent
    · -- a message that is no request has no handler
      rw [if_neg fun hnode => hrequest hnode.2]
      rw [handleMsg_of_not_request _ _ _ _ _ hrequest] at hsent
      rw [repliesTo_of_replies_nil hsent rfl]
      exact .nothing fun fields hschema => absurd (mem_of_schema hschema) hrequest
  · have hnil : repliesTo c s s' (.work S i alive env) = [] := by
      split_ifs at hsent
      · rcases replies_handleMsg env s.db (s.reg.mgr S) node._session (cfg.codec.parse node._body)
          with hnil | ⟨msg, hone⟩
        · exact repliesTo_of_replies_nil hsent hnil
        · exact (repliesTo_of_one hsent hone rfl).trans (if_neg hsession)
      · exact repliesTo_of_replies_nil hsent rfl
    rw [if_neg fun hnode => hsession hnode.1, hnil]
    exact .nothing fun heq => absurd heq hsession

/-! ### All steps -/

lemma called_of_sent_eq (h : s'.sent = s.sent) {ok : Prop} (hok : ok) :
    Called cfg ok none (repliesTo c s s' e) := by
  rw [repliesTo_of_sent_eq h]
  exact .nothing hok

/-- **A step calls `send` once for the request that it handles, and for nothing else**, unless the
request is a login that is ignored or its handler throws. -/
lemma called_step (hshort : s.reg.Short)
    (hlogins : ∀ S i, ∀ node ∈ s.queues S i, node._id ≠ idChatLogin) (hkept : Kept cfg c s e)
    (h : step cfg s e = some s') :
    Called cfg (Answerable cfg c s e) (s.handles c e) (repliesTo c s s' e) := by
  cases e with
  | read c' bytes env => exact called_read hshort h
  | work S i alive env => exact called_work (hlogins S i) hkept h
  | accept c' =>
    obtain ⟨reg, rfl⟩ := step_ends h (.inl rfl)
    exact called_of_sent_eq rfl trivial
  | readError c' ec =>
    obtain ⟨reg, rfl⟩ := step_ends h (.inr (.inl ⟨ec, rfl⟩))
    exact called_of_sent_eq rfl trivial
  | writeError c' =>
    obtain ⟨reg, rfl⟩ := step_ends h (.inr (.inr rfl))
    exact called_of_sent_eq rfl trivial
  | deliver S env =>
    obtain ⟨text, texts, -, rfl⟩ := step_deliver h
    rw [repliesTo_of_replies_nil rfl (replies_subscriberCallback _)]
    exact .nothing trivial

/-! ## What a step queues -/

variable {call : Conn × ℤ × Json}

/-- The one frame of a call, or of the `catch` around it, is that of a whole text. -/
lemma exists_whole_iff {codec : Codec} {clear guarded : Prop} [Decidable clear]
    [Decidable guarded] (good : Json → Prop) (hgood : good call.2.2)
    (herror : good (errorCall call).2.2) :
    (∃ msg, (if clear then (frameOf codec call).toList else []) ++
          (if guarded ∧ CSession.throws (codec.dump call.2.2).length = true then
            (frameOf codec (errorCall call)).toList else []) =
        [.whole codec call.1 call.2.1 msg] ∧ good msg) ↔
      clear ∧ Fitting codec call.2.2 ∨
        (guarded ∧ CSession.throws (codec.dump call.2.2).length = true) ∧
          Fitting codec (errorCall call).2.2 := by
  have hone : ∀ {x : Conn × ℤ × Json} {p : Prop} [Decidable p], x.1 = call.1 → x.2.1 = call.2.1 →
      good x.2.2 → ((∃ msg, (if p then (frameOf codec x).toList else []) =
        [.whole codec call.1 call.2.1 msg] ∧ good msg) ↔ p ∧ Fitting codec x.2.2) := by
    intro x p _ hsession hid hx
    rw [← hsession, ← hid]
    constructor
    · rintro ⟨msg, hframe, -⟩
      split_ifs at hframe with hp
      obtain ⟨frame, hsome⟩ : ∃ frame, frameOf codec x = some frame := by
        cases hnone : frameOf codec x with
        | none =>
          rw [hnone, Option.toList_none] at hframe
          cases hframe
        | some frame => exact ⟨frame, rfl⟩
      rw [hsome, Option.toList_some] at hframe
      obtain rfl := List.singleton_injective hframe
      have hmsg : msg = x.2.2 := (frameOf_eq_some hsome).2.2
      exact ⟨hp, fitting_of_whole (hmsg ▸ hsome)⟩
    · rintro ⟨hp, hfits⟩
      exact ⟨x.2.2, by rw [if_pos hp, frameOf_of_fitting hfits, Option.toList_some], hx⟩
  by_cases hthrows : CSession.throws (codec.dump call.2.2).length = true
  · have hnone := frameOf_of_throws hthrows
    rw [hnone, Option.toList_none, ite_self, List.nil_append]
    exact (hone (x := errorCall call) rfl rfl herror).trans (or_iff_right fun h =>
      not_throws_of_fitting h.2 hthrows).symm
  · have hguarded : ¬(guarded ∧ CSession.throws (codec.dump call.2.2).length = true) :=
      fun h => hthrows h.2
    rw [if_neg hguarded, List.append_nil]
    exact (hone rfl rfl hgood).trans (or_iff_left fun h => hthrows h.1.2).symm

/-- **A request is answered exactly when the event allows it and the text of the answer is short
enough.** -/
lemma answered_step_iff (hshort : s.reg.Short)
    (hlogins : ∀ S i, ∀ node ∈ s.queues S i, node._id ≠ idChatLogin) (hkept : Kept cfg c s e)
    (h : step cfg s e = some s') :
    Answered cfg (s.handles c e) (framesTo cfg c s e) ↔
      Answerable cfg c s e ∧ ReplyFits cfg c s e := by
  have hcalled := called_step hshort hlogins hkept h
  rw [repliesTo, ← calls_of_step h] at hcalled
  have hnil : ∀ {calls : List (Conn × ℤ × Json)},
      (s.calls cfg e).filter (fun m => s.isReply e c m.1 m.2.1) = calls → calls = [] →
      framesTo cfg c s e = [] := fun heq hnil => filter_frames_of_nil (heq.trans hnil)
  generalize hcalls : (s.calls cfg e).filter (fun m => s.isReply e c m.1 m.2.1) = calls at hcalled
  cases hhandles : s.handles c e with
  | none =>
    rw [hhandles] at hcalled
    cases hcalled with
    | nothing hok =>
      refine iff_of_true (hnil hcalls rfl) ⟨hok, fun call hcall => ?_⟩
      exact absurd (List.find?_some hcall)
        (List.filter_eq_nil_iff.1 hcalls call (List.mem_of_find?_eq_some hcall))
  | some node =>
    rw [hhandles] at hcalled
    cases hcalled with
    | silence hnot =>
      refine iff_of_false ?_ fun hok => hnot hok.1
      rintro ⟨msg, hframe, -⟩
      cases (hnil hcalls rfl).symm.trans hframe
    | @answer hok _ msg herror =>
      obtain ⟨pre, post, hsplit, hpre, hcall, hpost⟩ := List.filter_eq_cons_iff.1 hcalls
      have hpre' : ∀ x ∈ pre, s.isReply e c x.1 x.2.1 = false := fun x hx =>
        Bool.eq_false_iff.2 (hpre x hx)
      have hpost' : ∀ x ∈ post, s.isReply e c x.1 x.2.1 = false := fun x hx =>
        Bool.eq_false_iff.2 (List.filter_eq_nil_iff.1 hpost x hx)
      have hfind : (s.calls cfg e).find? (fun x => s.isReply e c x.1 x.2.1) =
          some (node._session, node._id + 1, msg) := by
        rw [hsplit, List.find?_append, List.find?_eq_none.2 hpre, Option.none_or]
        exact List.find?_cons_of_pos hcall
      have htake : (s.calls cfg e).takeWhile (fun x => !s.isReply e c x.1 x.2.1) = pre := by
        rw [hsplit, List.takeWhile_append_of_pos fun x hx => by rw [hpre' x hx]; rfl,
          List.takeWhile_cons_of_neg (by rw [hcall]; exact Bool.false_ne_true), List.append_nil]
      classical
      rw [framesTo, filter_frames_of_one hsplit hpre' hcall hpost']
      refine (exists_whole_iff (fun msg => ¬ node.Acceptable cfg → HasError msg) herror
        fun _ => hasError_answerError (by decide)).trans ?_
      simp only [ReplyFits, hfind, htake, Option.mem_some_iff, forall_eq']
      exact (and_iff_right hok).symm

end Sent

end WeChat
