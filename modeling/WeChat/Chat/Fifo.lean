/-
# Messages in their order

A private message is sent to the session that the server of its sender has for the recipient, or
it is published, and then it waits until the subscriber of a server handles it.  What was sent
on a connection, followed by what waits at its server, is in the order of the keys as long as no
message is sent past another one that waits.
-/
import WeChat.Chat.Attribution

namespace WeChat

open Wire Relational Transition Json LogicSystem

/-! ## The messages from one user to another -/

/-- The key is that of a private message from `a` to `b`. -/
def Database.Between (db : Database) (a b mid : ℤ) : Prop :=
  ∃ row ∈ db.messages.rows, row.id = mid ∧ row.from_uid = a ∧ row.to_uid = b ∧ row.chat_type = 0

instance (db : Database) (a b : ℤ) : DecidablePred (db.Between a b) := fun mid =>
  inferInstanceAs (Decidable (∃ row ∈ db.messages.rows,
    row.id = mid ∧ row.from_uid = a ∧ row.to_uid = b ∧ row.chat_type = 0))

/-- The `messageId` of a value, if it is that of a message from `a` to `b`. -/
def Database.keyOf (db : Database) (a b : ℤ) (msg : Json) : Option ℤ :=
  (messageId msg).filter fun mid => db.Between a b mid

/-- The identifiers under which texts and images are notified. -/
def privateIds : List ℤ := [idNotifyTextChatMsgReq, idNotifyImageChatMsgReq]

/-- The keys of the messages from `a` to `b` that a connection is notified of, in the order in
which `send` is called. -/
def notifiedKeys (db : Database) (a b : ℤ) (c : Conn) (sent : List (Conn × ℤ × Json)) : List ℤ :=
  (sent.filter fun e => e.1 = c ∧ e.2.1 ∈ privateIds).filterMap fun e => db.keyOf a b e.2.2

/-- The keys of the messages from `a` to `b` among the texts that wait for a subscriber. -/
def waitingKeys (cfg : Config) (db : Database) (a b : ℤ) (texts : List Bytes) : List ℤ :=
  texts.filterMap fun text => (cfg.codec.parse text).bind (db.keyOf a b)

/-- Every connection is notified of the messages from `a` to `b` in the order of their keys. -/
def State.InOrder (s : State) (a b : ℤ) : Prop :=
  ∀ c, (notifiedKeys s.db a b c s.sent).Pairwise (· < ·)

/-- A worker that handles a message from `a` to `b`, and finds a session of `b` on its server,
does so when no message from `a` to `b` waits for the subscriber of the server. -/
def OvertakesNone (cfg : Config) (a b : ℤ) (s : State) : Event → Prop
  | .work S i _ _ => ∀ kind node queue body, s.queues S i = node :: queue →
      IsPrivate kind node._id → cfg.codec.parse node._body = some body →
      body.getInt "fromUid" = some a → body.getInt "toUid" = some b →
      (s.reg.mgr S b).isSome → waitingKeys cfg s.db a b (s.inbox S) = []
  | _ => True

section Keys

variable {cfg : Config} {db db' : Database} {a b mid : ℤ} {c : Conn} {msg : Json}
  {outputs : List Output}

lemma keyOf_eq_some_iff : db.keyOf a b msg = some mid ↔
    messageId msg = some mid ∧ db.Between a b mid := by
  rw [Database.keyOf, Option.filter_eq_some_iff, decide_eq_true_eq]

lemma keyOf_eq_none (h : CarriesOnly (fun mid => ¬ db.Between a b mid) msg) :
    db.keyOf a b msg = none := by
  rw [Option.eq_none_iff_forall_ne_some]
  intro mid hmid
  obtain ⟨hkey, hbetween⟩ := keyOf_eq_some_iff.1 hmid
  exact h mid hkey hbetween

lemma notifiedKeys_append (sent sent' : List (Conn × ℤ × Json)) :
    notifiedKeys db a b c (sent ++ sent') =
      notifiedKeys db a b c sent ++ notifiedKeys db a b c sent' := by
  rw [notifiedKeys, List.filter_append, List.filterMap_append]
  rfl

lemma waitingKeys_append (texts texts' : List Bytes) :
    waitingKeys cfg db a b (texts ++ texts') =
      waitingKeys cfg db a b texts ++ waitingKeys cfg db a b texts' :=
  List.filterMap_append

/-- Outputs that carry no key of a message from `a` to `b` notify nobody of one. -/
lemma notifiedKeys_eq_nil (h : ∀ o ∈ outputs, o.CarriesOnly fun mid => ¬ db.Between a b mid) :
    notifiedKeys db a b c (outputs.filterMap Output.sent) = [] := by
  refine List.filterMap_eq_nil_iff.2 fun e he => keyOf_eq_none ?_
  obtain ⟨o, ho, hsent⟩ := List.mem_filterMap.1 (List.mem_of_mem_filter he)
  cases o with
  | send session id msg =>
    obtain rfl := Option.some.inj hsent
    exact h _ ho
  | publish uid msg => cases hsent

/-- They push none either. -/
lemma waitingKeys_eq_nil {subs : ℤ → Bool}
    (h : ∀ o ∈ outputs, o.CarriesOnly fun mid => ¬ db.Between a b mid) :
    waitingKeys cfg db a b (outputs.filterMap (Output.pushed cfg.codec subs)) = [] := by
  refine List.filterMap_eq_nil_iff.2 fun text htext => ?_
  obtain ⟨o, ho, hpushed⟩ := List.mem_filterMap.1 htext
  cases o with
  | send session id msg => cases hpushed
  | publish uid msg =>
    simp only [Output.pushed] at hpushed
    split_ifs at hpushed
    obtain rfl := Option.some.inj hpushed
    rw [cfg.codec.parse_dump (h _ ho).1]
    exact keyOf_eq_none (h _ ho).2

end Keys

/-! ## What a handler adds -/

/-- New rows have new keys. -/
def Grows (db db' : Database) : Prop :=
  ∃ new, db'.messages.rows = db.messages.rows ++ new ∧ ∀ row ∈ new, db.messages.last < row.id

section Grows

variable {cfg : Config} {db db' : Database} {a b mid : ℤ} {c : Conn} {msg : Json} {s : State}

lemma grows_of_eq (h : db'.messages = db.messages) : Grows db db' :=
  ⟨[], by rw [h, List.append_nil], fun _ hrow => absurd hrow List.not_mem_nil⟩

lemma Stored.grows {row : Message} (h : Stored db db' row) : Grows db db' :=
  ⟨[row], h.rows_eq, List.forall_mem_singleton.2 h.new⟩

/-- A key that has been drawn belongs to the row that it belonged to. -/
lemma Grows.between_iff (h : Grows db db') (hmid : mid ≤ db.messages.last) :
    db'.Between a b mid ↔ db.Between a b mid := by
  obtain ⟨new, hrows, hnew⟩ := h
  rw [Database.Between, hrows]
  constructor
  · rintro ⟨row, hrow, hid, hpair⟩
    rcases List.mem_append.1 hrow with hold | hlate
    · exact ⟨row, hold, hid, hpair⟩
    · exact absurd (hid ▸ hnew row hlate) (not_lt.2 hmid)
  · rintro ⟨row, hrow, hpair⟩
    exact ⟨row, List.mem_append_left _ hrow, hpair⟩

lemma Grows.keyOf_eq (h : Grows db db') (hmsg : CarriesOnly (· ≤ db.messages.last) msg) :
    db'.keyOf a b msg = db.keyOf a b msg := by
  rw [Option.ext_iff]
  intro mid
  rw [keyOf_eq_some_iff, keyOf_eq_some_iff]
  exact and_congr_right fun hmid => h.between_iff (hmsg mid hmid)

/-- What was sent and pushed before has the keys that it had. -/
lemma Grows.notifiedKeys_eq (h : Grows s.db db') (hs : s.Sound cfg) :
    notifiedKeys db' a b c s.sent = notifiedKeys s.db a b c s.sent :=
  List.filterMap_congr fun e he => h.keyOf_eq (hs.sent e (List.mem_of_mem_filter he))

lemma Grows.waitingKeys_eq (h : Grows s.db db') (hs : s.Sound cfg) (S : ℕ) :
    waitingKeys cfg db' a b (s.inbox S) = waitingKeys cfg s.db a b (s.inbox S) := by
  refine List.filterMap_congr fun text htext => ?_
  obtain ⟨msg, hwf, rfl, hcarries⟩ := hs.inbox S text htext
  rw [cfg.codec.parse_dump hwf]
  exact h.keyOf_eq hcarries

/-- The keys of what was sent and pushed have been drawn. -/
lemma State.Sound.notifiedKeys_le (hs : s.Sound cfg) :
    ∀ mid ∈ notifiedKeys s.db a b c s.sent, mid ≤ s.db.messages.last := by
  intro mid hmid
  obtain ⟨e, he, hkey⟩ := List.mem_filterMap.1 hmid
  exact hs.sent e (List.mem_of_mem_filter he) mid (keyOf_eq_some_iff.1 hkey).1

lemma State.Sound.waitingKeys_le (hs : s.Sound cfg) (S : ℕ) :
    ∀ mid ∈ waitingKeys cfg s.db a b (s.inbox S), mid ≤ s.db.messages.last := by
  intro mid hmid
  obtain ⟨text, htext, hkey⟩ := List.mem_filterMap.1 hmid
  obtain ⟨msg, hwf, rfl, hcarries⟩ := hs.inbox S text htext
  rw [cfg.codec.parse_dump hwf] at hkey
  exact hcarries mid (keyOf_eq_some_iff.1 hkey).1

/-- A key that has just been drawn is that of the row that was inserted. -/
lemma Stored.between_iff {row : Message} (h : Stored db db' row) (hmid : db.messages.last < mid) :
    db'.Between a b mid ↔
      row.id = mid ∧ row.from_uid = a ∧ row.to_uid = b ∧ row.chat_type = 0 := by
  rw [Database.Between, h.rows_eq]
  constructor
  · rintro ⟨row', hrow, hid, hpair⟩
    rcases List.mem_append.1 hrow with hold | hlate
    · exact absurd (hid ▸ db.messages.key_le row' hold) (not_le.2 hmid)
    · exact List.mem_singleton.1 hlate ▸ ⟨hid, hpair⟩
  · exact fun hpair => ⟨row, List.mem_append_right _ (List.mem_singleton_self _), hpair⟩

end Grows

section Handlers

variable {env : Env} {db : Database} {mgr : ℤ → Option Conn} {session : Conn} {id : ℤ}
  {src : Option Json} {done : Database × List Output}

/-- A handler is that of a private message or of a group message, or it inserts no message. -/
lemma message_cases {handler : Option Json → Option (Database × List Output)}
    (h : msgHandler env db mgr session id = some handler) :
    (∃ kind, IsPrivate kind id ∧ handler = privateMessage env db mgr session kind) ∨
    (∃ kind, (kind = groupText ∨ kind = groupImage) ∧
      handler = groupMessage env db mgr session kind) ∨
    ∀ src done, handler src = some done → Leaves db src done := by
  exact forall_msgHandler
    (P := fun id handler =>
      (∃ kind, IsPrivate kind id ∧ handler = privateMessage env db mgr session kind) ∨
      (∃ kind, (kind = groupText ∨ kind = groupImage) ∧
        handler = groupMessage env db mgr session kind) ∨
      ∀ src done, handler src = some done → Leaves db src done)
    (.inr (.inr fun _ _ => leaves_friendList)) (.inr (.inr fun _ _ => leaves_searchUser))
    (.inr (.inr fun _ _ => leaves_addFriend)) (.inr (.inr fun _ _ => leaves_authFriend))
    (.inl ⟨textChat, .inl ⟨rfl, rfl⟩, rfl⟩) (.inl ⟨imageChat, .inr ⟨rfl, rfl⟩, rfl⟩)
    (.inr (.inr fun _ _ => leaves_chatHistory)) (.inr (.inr fun _ _ => leaves_createGroupReq))
    (.inr (.inr fun _ _ => leaves_addGroupMemberReq))
    (.inr (.inr fun _ _ => leaves_removeGroupMemberReq))
    (.inr (.inl ⟨groupText, .inl rfl, rfl⟩)) (.inr (.inl ⟨groupImage, .inr rfl, rfl⟩))
    (.inr (.inr fun _ _ => leaves_groupList)) (.inr (.inr fun _ _ => leaves_groupMembers))
    (.inr (.inr fun _ _ => leaves_groupChatHistory)) h

/-- A handler stores a message from `a` to `b`, and sends or publishes it. -/
def Conveys (env : Env) (db : Database) (mgr : ℤ → Option Conn) (session : Conn) (id : ℤ)
    (src : Option Json) (a b : ℤ) (done : Database × List Output) : Prop :=
  ∃ kind body extra mid fromUser content fields, IsPrivate kind id ∧ src = some body ∧
    body.getInt "fromUid" = some a ∧ body.getInt "toUid" = some b ∧
    kind.extra body = some extra ∧
    Stored db done.1 ⟨mid, a, b, content, env.now, kind.msgType, 0, 0⟩ ∧
    done.2 = [notifyOrPublish mgr b kind.notifyId
        (privateNotify extra mid a fromUser content env.now)
        (privatePublished kind extra mid a fromUser b content env.now),
      answer session kind.rspId fields]

/-- The database grows, and the outputs are about no message from `a` to `b`. -/
def Unrelated (db : Database) (a b : ℤ) (done : Database × List Output) : Prop :=
  Grows db done.1 ∧ ∀ o ∈ done.2, o.CarriesOnly fun mid => ¬ done.1.Between a b mid

variable {a b : ℤ}

lemma unrelated_of_messages_eq (hemits : Emits db done) (h : done.1.messages = db.messages) :
    Unrelated db a b done := by
  refine ⟨grows_of_eq h, fun o ho => (hemits.fresh o ho).mono ?_⟩
  rintro mid ⟨hlt, hle⟩ -
  exact absurd (h ▸ hle) (not_le.2 hlt)

lemma unrelated_of_silent {base : State} {outputs : List Output} (hdb : base.db = db)
    (hout : ∀ o ∈ outputs, o.CarriesOnly fun _ => False) :
    Unrelated db a b (base.db, outputs) :=
  ⟨grows_of_eq (congrArg Database.messages hdb),
    fun o ho => (hout o ho).mono fun _ hfalse => hfalse.elim⟩

lemma unrelated_of_stored (hemits : Emits db done) {row : Message} (h : Stored db done.1 row)
    (hrow : ¬ (row.from_uid = a ∧ row.to_uid = b ∧ row.chat_type = 0)) :
    Unrelated db a b done := by
  refine ⟨h.grows, fun o ho => (hemits.fresh o ho).mono ?_⟩
  rintro mid ⟨hlt, -⟩ hbetween
  exact hrow ((h.between_iff hlt).1 hbetween).2

/-- **The handler of a private message from `a` to `b` conveys it; everything else is unrelated
to the messages from `a` to `b`.** -/
lemma unrelated_or_conveys (env : Env) (db : Database) (mgr : ℤ → Option Conn) (session : Conn)
    (id : ℤ) (src : Option Json) (a b : ℤ) :
    Unrelated db a b (handleMsg env db mgr session id src) ∨
      Conveys env db mgr session id src a b (handleMsg env db mgr session id src) := by
  have hemits := (handles_handleMsg env db mgr session id src).toEmits
  generalize hdone : handleMsg env db mgr session id src = done at hemits ⊢
  rw [handleMsg] at hdone
  cases hcall : (msgHandler env db mgr session id).bind fun handler => handler src with
  | none =>
    rw [hcall] at hdone
    subst hdone
    exact .inl (unrelated_of_messages_eq hemits rfl)
  | some done' =>
    rw [hcall] at hdone
    obtain rfl : done' = done := hdone
    obtain ⟨handler, hhandler, hdone⟩ := Option.bind_eq_some_iff.1 hcall
    rcases message_cases hhandler with ⟨kind, hkind, rfl⟩ | ⟨kind, -, rfl⟩ | hleaves
    · obtain ⟨body, fromUid, toUid, content, extra, hsrc, hfrom, hto, -, hextra, hcases⟩ :=
        privateMessage_spec hdone
      rcases hcases with rfl | ⟨mid, db', fromUser, hstored, rfl⟩
      · exact .inl (unrelated_of_messages_eq hemits rfl)
      · by_cases hpair : fromUid = a ∧ toUid = b
        · obtain ⟨rfl, rfl⟩ := hpair
          exact .inr ⟨kind, body, extra, mid, fromUser, content, _, hkind, hsrc, hfrom, hto,
            hextra, hstored, rfl⟩
        · exact .inl (unrelated_of_stored hemits hstored fun h => hpair ⟨h.1, h.2.1⟩)
    · obtain ⟨body, fromUid, groupId, content, extra, -, -, -, -, -, hcases⟩ :=
        groupMessage_spec hdone
      rcases hcases with rfl | ⟨mid, db', fromUser, group, hstored, rfl⟩
      · exact .inl (unrelated_of_messages_eq hemits rfl)
      · exact .inl (unrelated_of_stored hemits hstored fun h =>
          absurd (show (1 : ℤ) = 0 from h.2.2) (by decide))
    · exact .inl (unrelated_of_messages_eq hemits (hleaves src _ hdone).messages)

/-- A request with a message from `a` to `b` that is stored conveys it. -/
lemma conveys_of_stored {kind : MessageKind} {body : Json} (hkind : IsPrivate kind id)
    (hfrom : body.getInt "fromUid" = some a) (hto : body.getInt "toUid" = some b)
    (h : (handleMsg env db mgr session id (some body)).1.messages ≠ db.messages) :
    Conveys env db mgr session id (some body) a b
      (handleMsg env db mgr session id (some body)) := by
  rw [handleMsg] at h ⊢
  cases hcall : (msgHandler env db mgr session id).bind fun handler => handler (some body) with
  | none =>
    rw [hcall] at h
    exact absurd rfl h
  | some done =>
    rw [hcall, Option.getD_some] at h
    obtain ⟨handler, hhandler, hdone⟩ := Option.bind_eq_some_iff.1 hcall
    obtain rfl := hkind.handler_eq hhandler
    obtain ⟨body', fromUid, toUid, content, extra, hsrc, hfrom', hto', -, hextra, hcases⟩ :=
      privateMessage_spec hdone
    obtain rfl := Option.some.inj hsrc
    obtain rfl := Option.some.inj (hfrom.symm.trans hfrom')
    obtain rfl := Option.some.inj (hto.symm.trans hto')
    rcases hcases with rfl | ⟨mid, db', fromUser, hstored, rfl⟩
    · exact absurd rfl h
    · exact ⟨kind, body, extra, mid, fromUser, content, _, hkind, rfl, hfrom, hto, hextra,
        hstored, rfl⟩

end Handlers

/-! ## What the subscriber sends on -/

section Subscriber

variable {env : Env} {db db' : Database} {mgr : ℤ → Option Conn} {msg : Json} {a b : ℤ} {c : Conn}

/-- The callback for a message to one user sends one notification at most. -/
lemma notifyUser_cases {uidField : String} {id : ℤ} {fields : List (String × String)}
    {outputs : List Output} (h : notifyUser mgr msg uidField id fields = some outputs) :
    outputs = [] ∨ ∃ o, outputs = [o] := by
  simp only [notifyUser, Option.bind_eq_bind, Option.bind_eq_some_iff] at h
  obtain ⟨uid, -, h⟩ := h
  cases hmgr : mgr uid with
  | none =>
    rw [hmgr] at h
    exact .inl (Option.some.inj h).symm
  | some c =>
    simp only [hmgr, Option.bind_eq_some_iff] at h
    obtain ⟨notify, -, h⟩ := h
    exact .inr ⟨_, (Option.some.inj h).symm⟩

/-- The callback for a message to a group sends under another identifier. -/
lemma notifiedKeys_notifyGroup {id : ℤ} {fields : List String} {outputs : List Output}
    (hid : id ∉ privateIds) (h : notifyGroup env db' mgr msg id fields = some outputs) :
    notifiedKeys db a b c (outputs.filterMap Output.sent) = [] := by
  simp only [notifyGroup, Option.bind_eq_bind, Option.bind_eq_some_iff] at h
  obtain ⟨groupId, -, notify, -, fromUid, -, h⟩ := h
  obtain rfl := Option.some.inj h
  rw [notifiedKeys, List.filter_eq_nil_iff.2 fun e he => ?_, List.filterMap_nil]
  obtain ⟨o, ho, hsent⟩ := List.mem_filterMap.1 he
  obtain ⟨member, -, hsend⟩ := List.mem_filterMap.1 ho
  obtain ⟨c', -, rfl⟩ := Option.map_eq_some_iff.1 hsend
  obtain rfl := Option.some.inj hsent
  simp [hid]

/-- One notification that carries the key of a text, or none. -/
lemma notifiedKeys_sublist {outputs : List Output} (h : outputs = [] ∨ ∃ o, outputs = [o])
    (hforwards : ∀ o ∈ outputs, Forwards mgr msg o) :
    (notifiedKeys db a b c (outputs.filterMap Output.sent)).Sublist (db.keyOf a b msg).toList := by
  rcases h with rfl | ⟨o, rfl⟩
  · exact List.nil_sublist _
  · obtain ⟨uid, c', id, notify, -, rfl, hnotify⟩ := hforwards o (List.mem_singleton_self o)
    have hkey : ∀ mid, db.keyOf a b notify = some mid → db.keyOf a b msg = some mid := by
      intro mid hmid
      obtain ⟨hcarries, hbetween⟩ := keyOf_eq_some_iff.1 hmid
      exact keyOf_eq_some_iff.2 ⟨hnotify mid hcarries, hbetween⟩
    by_cases hto : c' = c ∧ id ∈ privateIds
    · cases hmid : db.keyOf a b notify with
      | none => simp [notifiedKeys, Output.sent, hto, hmid]
      | some mid => simp [notifiedKeys, Output.sent, hto, hmid, hkey mid hmid]
    · simp [notifiedKeys, Output.sent, hto]

/-- **The callback notifies a connection of the message in a text at most once.** -/
lemma notifiedKeys_subscriberCallback :
    (notifiedKeys db a b c ((subscriberCallback env db' mgr (some msg)).filterMap
      Output.sent)).Sublist (db.keyOf a b msg).toList := by
  have hforwards : ∀ o ∈ subscriberCallback env db' mgr (some msg), Forwards mgr msg o :=
    forwards_subscriberCallback
  simp only [subscriberCallback, Option.bind_eq_bind, Option.bind_some] at hforwards ⊢
  cases htype : msg.value "type" "" with
  | none => exact List.nil_sublist _
  | some type =>
    simp only [htype, Option.bind_some] at hforwards ⊢
    generalize hcall : (if type = "chat_msg" then _ else _ : Option (List Output)) = call
      at hforwards ⊢
    cases call with
    | none => exact List.nil_sublist _
    | some outputs =>
      have hgroup : notifiedKeys db a b c (outputs.filterMap Output.sent) = [] →
          (notifiedKeys db a b c (outputs.filterMap Output.sent)).Sublist
            (db.keyOf a b msg).toList := fun h => h ▸ List.nil_sublist _
      split_ifs at hcall
      · exact notifiedKeys_sublist (notifyUser_cases hcall) hforwards
      · exact hgroup (notifiedKeys_notifyGroup (by decide) hcall)
      · exact notifiedKeys_sublist (notifyUser_cases hcall) hforwards
      · exact hgroup (notifiedKeys_notifyGroup (by decide) hcall)
      · exact notifiedKeys_sublist (notifyUser_cases hcall) hforwards
      · exact notifiedKeys_sublist (notifyUser_cases hcall) hforwards
      · obtain rfl := Option.some.inj hcall
        exact List.nil_sublist _

/-- The callback notifies the connections of its own server only. -/
lemma notifiedKeys_subscriberCallback_of_ne (h : ∀ uid, mgr uid ≠ some c) :
    notifiedKeys db a b c ((subscriberCallback env db' mgr (some msg)).filterMap
      Output.sent) = [] := by
  rw [notifiedKeys, List.filter_eq_nil_iff.2 fun e he => ?_, List.filterMap_nil]
  obtain ⟨o, ho, hsent⟩ := List.mem_filterMap.1 he
  obtain ⟨uid, c', id, notify, hmgr, rfl, -⟩ := forwards_subscriberCallback o ho
  obtain rfl := Option.some.inj hsent
  have hne : c' ≠ c := fun heq => h uid (heq ▸ hmgr)
  simp [hne]

end Subscriber

/-! ## What a step does to the order -/

/-- What was sent on a connection, followed by what waits at its server. -/
def State.line (cfg : Config) (s : State) (a b : ℤ) (c : Conn) : List ℤ :=
  notifiedKeys s.db a b c s.sent ++ waitingKeys cfg s.db a b (s.inbox c.srv)

/-- In every state: what was sent on a connection, followed by what waits at its server, is in
the order of the keys. -/
structure State.Lined (cfg : Config) (a b : ℤ) (s : State) : Prop where
  reg : s.reg.Local
  sound : s.Sound cfg
  line : ∀ c, (s.line cfg a b c).Pairwise (· < ·)

section Step

variable {cfg : Config} {s s' base : State} {a b : ℤ} {c : Conn} {outputs : List Output}

lemma line_le (hs : s.Sound cfg) : ∀ mid ∈ s.line cfg a b c, mid ≤ s.db.messages.last := by
  intro mid hmid
  rcases List.mem_append.1 hmid with hsent | hwaits
  · exact hs.notifiedKeys_le mid hsent
  · exact hs.waitingKeys_le c.srv mid hwaits

/-- Unrelated outputs leave the line as it is. -/
lemma line_of_unrelated (hs : s.Sound cfg) (hsent : base.sent = s.sent)
    (hinbox : base.inbox = s.inbox) (h : Unrelated s.db a b (base.db, outputs)) :
    (base.perform cfg outputs).line cfg a b c = s.line cfg a b c := by
  obtain ⟨hgrows, hout⟩ := h
  simp only [State.line, State.perform, hsent, hinbox, notifiedKeys_append, waitingKeys_append,
    notifiedKeys_eq_nil hout, waitingKeys_eq_nil hout, List.append_nil,
    hgrows.notifiedKeys_eq hs, hgrows.waitingKeys_eq hs]

/-- A delivery moves the key of a text from what waits to what was sent, or takes it away. -/
lemma line_deliver (hl : s.reg.Local) (hs : s.Sound cfg) {S : ℕ} {env : Env} {text : Bytes}
    {texts : List Bytes} (hhead : s.inbox S = text :: texts)
    (hbase : base = { s with inbox := Function.update s.inbox S texts })
    (houtputs : outputs =
      subscriberCallback env s.db (s.reg.mgr S) (cfg.codec.parse text)) :
    ((base.perform cfg outputs).line cfg a b c).Sublist (s.line cfg a b c) := by
  obtain ⟨msg, hwf, rfl, -⟩ := hs.inbox S text (hhead ▸ List.mem_cons_self)
  have hparse := cfg.codec.parse_dump hwf
  subst hbase houtputs
  rw [hparse]
  simp only [State.line, State.perform, notifiedKeys_append, pushed_subscriberCallback,
    List.append_nil]
  by_cases hS : c.srv = S
  · subst hS
    have hwaits : waitingKeys cfg s.db a b (s.inbox c.srv) =
        (s.db.keyOf a b msg).toList ++ waitingKeys cfg s.db a b texts := by
      rw [hhead, ← List.singleton_append, waitingKeys_append]
      congr 1
      cases hkey : s.db.keyOf a b msg <;> simp [waitingKeys, hparse, hkey]
    rw [Function.update_self, hwaits, List.append_assoc]
    exact (List.Sublist.refl _).append
      (notifiedKeys_subscriberCallback.append (List.Sublist.refl _))
  · have hforeign : ∀ uid, s.reg.mgr S uid ≠ some c := fun uid hmgr => hS (hl.mgr_srv hmgr)
    rw [Function.update_of_ne hS, notifiedKeys_subscriberCallback_of_ne hforeign, List.append_nil]

/-- A notification that is sent to one connection. -/
lemma notifiedKeys_send {db : Database} {c' : Conn} {id mid : ℤ} {notify : Json}
    (hid : id ∈ privateIds) (hkey : db.keyOf a b notify = some mid) :
    notifiedKeys db a b c ([Output.send c' id notify].filterMap Output.sent) =
      if c' = c then [mid] else [] := by
  by_cases hc : c' = c <;> simp [notifiedKeys, Output.sent, hid, hkey, hc]

/-- The answer to the sender is no notification. -/
lemma notifiedKeys_pair {o : Output} {session : Conn} {rspId : ℤ} {fields : List (String × Json)}
    {db : Database} (hrsp : rspId ∉ privateIds) :
    notifiedKeys db a b c ([o, answer session rspId fields].filterMap Output.sent) =
      notifiedKeys db a b c ([o].filterMap Output.sent) := by
  have hanswer : notifiedKeys db a b c ([answer session rspId fields].filterMap Output.sent) =
      [] := by
    simp [notifiedKeys, answer, Output.sent, hrsp]
  rw [← List.singleton_append, List.filterMap_append, notifiedKeys_append, hanswer,
    List.append_nil]

/-- **A message that is conveyed has a new key**: it is notified to the session that is found, or
it waits wherever there is a subscription. -/
lemma keys_conveys (cfg : Config) {env : Env} {db : Database} {mgr : ℤ → Option Conn}
    {session : Conn} {id : ℤ} {src : Option Json} {done : Database × List Output}
    (h : Conveys env db mgr session id src a b done) :
    ∃ mid, db.messages.last < mid ∧ Grows db done.1 ∧
      (∀ c, notifiedKeys done.1 a b c (done.2.filterMap Output.sent) =
        if mgr b = some c then [mid] else []) ∧
      ∀ subs, waitingKeys cfg done.1 a b (done.2.filterMap (Output.pushed cfg.codec subs)) =
        if mgr b = none ∧ subs b then [mid] else [] := by
  obtain ⟨db', outputs⟩ := done
  obtain ⟨kind, body, extra, mid, fromUser, content, fields, hkind, -, -, -, hextra, hstored,
    rfl⟩ := h
  have hkind' : kind = textChat ∨ kind = imageChat := hkind.imp And.left And.left
  have hextra' := extra_of_private hkind'
  have hids : kind.notifyId ∈ privateIds ∧ kind.rspId ∉ privateIds := by
    rcases hkind' with rfl | rfl <;> decide
  have hnew : db.messages.last < mid := hstored.new
  have hbetween : db'.Between a b mid := (hstored.between_iff hnew).2 ⟨rfl, rfl, rfl, rfl⟩
  have hself := hstored.toInt32_id
  have hnotify : db'.keyOf a b (privateNotify extra mid a fromUser content env.now) = some mid :=
    keyOf_eq_some_iff.2 ⟨messageId_privateNotify hextra' hextra hself _ _ _ _, hbetween⟩
  have hmsg : db'.keyOf a b (privatePublished kind extra mid a fromUser b content env.now) =
      some mid :=
    keyOf_eq_some_iff.2 ⟨messageId_privatePublished hextra' hextra hself _ _ _ _ _, hbetween⟩
  have hwf : (privatePublished kind extra mid a fromUser b content env.now).Wf :=
    wf_privatePublished hextra' hextra _ _ _ _ _
  have hparse := cfg.codec.parse_dump hwf
  refine ⟨mid, hnew, hstored.grows, fun c => ?_, fun subs => ?_⟩
  · rw [notifiedKeys_pair hids.2, notifyOrPublish]
    cases mgr b with
    | some c' => simp only [notifiedKeys_send hids.1 hnotify, Option.some.injEq]
    | none => rfl
  · rw [notifyOrPublish]
    cases mgr b with
    | some c' => rfl
    | none =>
      by_cases hsub : subs b <;>
        simp [waitingKeys, Output.pushed, answer, hsub, hparse, hmsg]

/-- A message that is conveyed comes to the end of the line, when none waits that it would
overtake. -/
lemma line_conveys (hl : s.reg.Local) (hs : s.Sound cfg) (hsent : base.sent = s.sent)
    (hinbox : base.inbox = s.inbox) {S : ℕ} {env : Env} {session : Conn} {id : ℤ}
    {src : Option Json}
    (hconveys : Conveys env s.db (s.reg.mgr S) session id src a b (base.db, outputs))
    (hclear : (s.reg.mgr S b).isSome → waitingKeys cfg s.db a b (s.inbox S) = []) :
    (base.perform cfg outputs).line cfg a b c = s.line cfg a b c ∨
      ∃ mid, s.db.messages.last < mid ∧
        (base.perform cfg outputs).line cfg a b c = s.line cfg a b c ++ [mid] := by
  obtain ⟨mid, hnew, hgrows, hnotified, hwaiting⟩ := keys_conveys cfg hconveys
  simp only at hnotified hwaiting
  simp only [State.line, State.perform, hsent, hinbox, notifiedKeys_append, waitingKeys_append,
    hgrows.notifiedKeys_eq hs, hgrows.waitingKeys_eq hs, hnotified, hwaiting]
  cases hmgr : s.reg.mgr S b with
  | some c' =>
    by_cases hc : c' = c
    · -- the line at this server is what was sent
      subst hc
      have hnone : waitingKeys cfg s.db a b (s.inbox c'.srv) = [] := by
        rw [hl.mgr_srv hmgr]
        exact hclear (by rw [hmgr]; rfl)
      exact .inr ⟨mid, hnew, by simp [hnone]⟩
    · exact .inl (by simp [hc])
  | none =>
    by_cases hsub : base.reg.subs c.srv b
    · exact .inr ⟨mid, hnew, by simp [hsub]⟩
    · exact .inl (by simp [hsub])

/-- **A step that lets no message overtake another keeps the line in order.** -/
lemma lined_step (s : State) (e : Event) (s' : State) (h : s.Lined cfg a b)
    (hclear : OvertakesNone cfg a b s e) (hstep : step cfg s e = some s') :
    s'.Lined cfg a b := by
  refine ⟨local_step s e s' h.reg hstep, sound_step s e s' h.sound hstep, fun c => ?_⟩
  have hline := h.line c
  obtain ⟨base, outputs, rfl, hsent, ⟨hinbox, hdb, hout⟩ |
    ⟨S, i, alive, env, node, queue, rfl, hqueue, hinbox, -, hdone⟩ |
    ⟨S, env, text, texts, rfl, hhead, rfl, rfl⟩⟩ := step_performs hstep
  · rw [line_of_unrelated h.sound hsent hinbox (unrelated_of_silent hdb hout)]
    exact hline
  · rcases unrelated_or_conveys env s.db (s.reg.mgr S) node._session node._id
      (cfg.codec.parse node._body) a b with hunrelated | hconveys
    · rw [hdone] at hunrelated
      rw [line_of_unrelated h.sound hsent hinbox hunrelated]
      exact hline
    · have hwaits : (s.reg.mgr S b).isSome → waitingKeys cfg s.db a b (s.inbox S) = [] := by
        obtain ⟨kind, body, -, -, -, -, -, hkind, hbody, hfrom, hto, -⟩ := hconveys
        exact hclear kind node queue body hqueue hkind hbody hfrom hto
      rw [hdone] at hconveys
      rcases line_conveys h.reg h.sound hsent hinbox hconveys hwaits with hsame | ⟨mid, hnew, hend⟩
      · rw [hsame]
        exact hline
      · rw [hend]
        refine List.pairwise_append.2 ⟨hline, List.pairwise_singleton _ _, fun m hm n hn => ?_⟩
        rw [List.mem_singleton.1 hn]
        exact (line_le h.sound m hm).trans_lt hnew
  · exact hline.sublist (line_deliver h.reg h.sound hhead rfl rfl)

/-- In a run whose steps all let none overtake another, the line is in order. -/
lemma lined_of_run {db : Database} {es : List Event}
    (hrun : run (step cfg) (.init db) es = some s)
    (hclear : AllSteps (step cfg) (OvertakesNone cfg a b) (.init db) es) : s.Lined cfg a b :=
  run_induction lined_step hrun hclear
    ⟨Registry.local_init, sound_init db, fun _ => List.Pairwise.nil⟩

end Step

end WeChat
