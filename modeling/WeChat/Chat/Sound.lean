/-
# What is under way is stored

A text that Redis has pushed to a server can be read, and what was pushed or sent carries no
`messageId` but those of stored messages, in every reachable state.
-/
import WeChat.Chat.Runs
import WeChat.Chat.Callback

namespace WeChat

open Wire Relational Json Transition

/-- A text that Redis has pushed can be read, and the `messageId` of a text that was pushed or
sent is a key that was drawn. -/
structure State.Sound (cfg : Config) (s : State) : Prop where
  inbox : ∀ S, ∀ text ∈ s.inbox S, ∃ msg : Json, msg.Wf ∧ text = cfg.codec.dump msg ∧
    CarriesOnly (· ≤ s.db.messages.last) msg
  sent : ∀ e ∈ s.sent, CarriesOnly (· ≤ s.db.messages.last) e.2.2

section Sound

variable {cfg : Config} {s s' : State}

open LogicSystem

lemma sound_init (db : Database) : (State.init db).Sound cfg :=
  ⟨fun _ _ h => absurd h List.not_mem_nil, fun _ h => absurd h List.not_mem_nil⟩

lemma sound_perform {outputs : List Output} (h : s.Sound cfg)
    (hout : ∀ o ∈ outputs, o.CarriesOnly (· ≤ s.db.messages.last)) :
    (s.perform cfg outputs).Sound cfg := by
  refine ⟨fun S text htext => ?_, fun e he => ?_⟩
  · rcases List.mem_append.1 htext with htext | htext
    · exact h.inbox S text htext
    · obtain ⟨o, ho, hpushed⟩ := List.mem_filterMap.1 htext
      cases o with
      | send session id msg => cases hpushed
      | publish uid msg =>
        simp only [Output.pushed] at hpushed
        split_ifs at hpushed
        obtain rfl := Option.some.inj hpushed
        exact ⟨msg, (hout _ ho).1, rfl, (hout _ ho).2⟩
  · rcases List.mem_append.1 he with he | he
    · exact h.sent e he
    · obtain ⟨o, ho, hsent⟩ := List.mem_filterMap.1 he
      cases o with
      | send session id msg =>
        obtain rfl := Option.some.inj hsent
        exact hout _ ho
      | publish uid msg => cases hsent

/-- What was sent and pushed stays sound while keys are drawn and the rest changes. -/
lemma Sound.of_le (h : s.Sound cfg) (hinbox : ∀ S, ∀ text ∈ s'.inbox S, text ∈ s.inbox S)
    (hsent : s'.sent = s.sent) (hlast : s.db.messages.last ≤ s'.db.messages.last) :
    s'.Sound cfg := by
  refine ⟨fun S text htext => ?_, fun e he mid hmid => ?_⟩
  · obtain ⟨msg, hwf, heq, hcarries⟩ := h.inbox S text (hinbox S text htext)
    exact ⟨msg, hwf, heq, fun mid hmid => (hcarries mid hmid).trans hlast⟩
  · exact (h.sent e (hsent ▸ he) mid hmid).trans hlast

/-- What is sent after a login carries no `messageId`. -/
lemma carriesOnly_sendInitialData {P : ℤ → Prop} {codec : Codec} {env : Env} {db : Database}
    {mgr : ℤ → Option Conn} {c : Conn} {uid : ℤ} :
    ∀ o ∈ CSession.sendInitialData codec env db mgr c uid, o.CarriesOnly P := by
  intro o ho
  obtain ⟨id, key, list, hkey, rfl⟩ := CSession.mem_sendInitialData ho
  simp only [List.mem_cons, Prod.mk.injEq, List.not_mem_nil, or_false] at hkey
  rcases hkey with ⟨-, rfl⟩ | ⟨-, rfl⟩ | ⟨-, rfl⟩ <;>
    exact carriesOnly_answer (by simp [List.lookup])

/-- What a session does with a message itself: outputs without a `messageId`, or a message in
a queue. -/
lemma handleMessage_cases (cfg : Config) (s : State) (env : Env) (c : Conn) (msgId : ℤ)
    (msgBody : Bytes) :
    (∃ reg outputs, s.handleMessage cfg env c msgId msgBody =
        { s with reg := reg }.perform cfg outputs ∧
          ∀ o ∈ outputs, o.CarriesOnly fun _ => False) ∨
      s.handleMessage cfg env c msgId msgBody = s ∨
      ((s.reg.session c)._isAuthenticated ∧
        s.handleMessage cfg env c msgId msgBody = s.postMsgToQueue cfg ⟨msgId, msgBody, c⟩) := by
  have hone : ∀ {id fields}, (List.lookup "messageId" (List.reverse fields) = none) →
      ∀ o ∈ [answer c id fields], o.CarriesOnly fun _ => False := by
    intro id fields hfields o ho
    obtain rfl := List.mem_singleton.1 ho
    exact carriesOnly_answer hfields
  rw [State.handleMessage]
  by_cases hping : msgId = idHeartbeatPing
  · rw [if_pos hping]
    exact .inl ⟨s.reg, _, rfl, hone (by simp [List.lookup])⟩
  rw [if_neg hping]
  by_cases hlogin : msgId = idChatLogin
  · rw [if_pos hlogin]
    cases CSession.loginRequest (cfg.codec.parse msgBody) with
    | exception => exact .inl ⟨s.reg, _, rfl, hone (by simp [List.lookup])⟩
    | ignored => exact .inr (.inl rfl)
    | credentials uid token =>
      simp only
      by_cases hok : env.checkToken uid token = ErrorCodes.success.code
      · rw [if_pos hok]
        refine .inl ⟨s.reg.login c uid, _, rfl, fun o ho => ?_⟩
        rcases List.mem_cons.1 ho with rfl | ho
        · exact carriesOnly_answer (by simp [List.lookup])
        · exact carriesOnly_sendInitialData o ho
      · rw [if_neg hok]
        exact .inl ⟨s.reg, _, rfl, hone (by simp [List.lookup])⟩
  rw [if_neg hlogin]
  by_cases hauth : (s.reg.session c)._isAuthenticated
  · rw [if_neg (by simp [hauth])]
    exact .inr (.inr ⟨hauth, rfl⟩)
  · rw [if_pos (by simp [hauth])]
    exact .inl ⟨s.reg, _, rfl, hone (by simp [List.lookup])⟩

/-- What a step performs: outputs without a `messageId`, what a handler has made of a request, or
the callback for the first text that was pushed to a server. -/
lemma step_performs {e : Event} (h : step cfg s e = some s') :
    ∃ (base : State) (outputs : List Output), s' = base.perform cfg outputs ∧
      base.sent = s.sent ∧
      ((base.inbox = s.inbox ∧ base.db = s.db ∧ ∀ o ∈ outputs, o.CarriesOnly fun _ => False) ∨
        (∃ S i alive env node queue, e = .work S i alive env ∧ s.queues S i = node :: queue ∧
          base.inbox = s.inbox ∧ base.reg = s.reg ∧
          handleMsg env s.db (s.reg.mgr S) node._session node._id
            (cfg.codec.parse node._body) = (base.db, outputs)) ∨
        ∃ S env text texts, e = .deliver S env ∧ s.inbox S = text :: texts ∧
          base = { s with inbox := Function.update s.inbox S texts } ∧
          outputs = subscriberCallback env s.db (s.reg.mgr S) (cfg.codec.parse text)) := by
  have hnone : ∀ s₁ : State, s₁ = s₁.perform cfg [] := by
    intro s₁
    simp [State.perform]
  have hnil : ∀ o ∈ ([] : List Output), o.CarriesOnly fun _ => False :=
    fun o ho => absurd ho List.not_mem_nil
  rcases step_cases h with ⟨reg, rfl⟩ | ⟨c, bytes, env, msgId, msgBody, rfl, rfl⟩ |
    ⟨S, i, alive, env, node, queue, base, rfl, hqueue, rfl, rfl | ⟨done, hdone, rfl⟩⟩ |
    ⟨S, env, text, texts, rfl, hinbox, rfl⟩
  · exact ⟨_, [], hnone _, rfl, .inl ⟨rfl, rfl, hnil⟩⟩
  · rcases handleMessage_cases cfg _ env c msgId msgBody with
      ⟨reg, outputs, heq, hout⟩ | heq | ⟨-, heq⟩
    · exact ⟨_, outputs, heq, rfl, .inl ⟨rfl, rfl, hout⟩⟩
    · exact ⟨_, [], heq.trans (hnone _), rfl, .inl ⟨rfl, rfl, hnil⟩⟩
    · -- a request that is put into a queue sends nothing yet
      obtain ⟨queues, hqueues, -⟩ := State.postMsgToQueue_spec cfg _ _
      rw [hqueues] at heq
      exact ⟨_, [], heq.trans (hnone _), rfl, .inl ⟨rfl, rfl, hnil⟩⟩
  · exact ⟨_, [], hnone _, rfl, .inl ⟨rfl, rfl, hnil⟩⟩
  · exact ⟨_, _, rfl, rfl,
      .inr (.inl ⟨S, i, alive, env, node, queue, rfl, hqueue, rfl, rfl, hdone.symm⟩)⟩
  · exact ⟨_, _, rfl, rfl, .inr (.inr ⟨S, env, text, texts, rfl, hinbox, rfl, rfl⟩)⟩

/-- Unless it is such a callback, a step draws new keys, and its outputs carry no others. -/
lemma step_outputs {e : Event} (h : step cfg s e = some s') :
    ∃ (base : State) (outputs : List Output), s' = base.perform cfg outputs ∧
      base.sent = s.sent ∧
      ((base.inbox = s.inbox ∧ Emits s.db (base.db, outputs)) ∨
        ∃ S env text texts, e = .deliver S env ∧ s.inbox S = text :: texts ∧
          base = { s with inbox := Function.update s.inbox S texts } ∧
          outputs = subscriberCallback env s.db (s.reg.mgr S) (cfg.codec.parse text)) := by
  obtain ⟨base, outputs, rfl, hsent, ⟨hinbox, hdb, hout⟩ |
    ⟨S, i, alive, env, node, queue, rfl, -, hinbox, -, hdone⟩ | hcallback⟩ := step_performs h
  · exact ⟨base, outputs, rfl, hsent,
      .inl ⟨hinbox, emits_of_messages_eq (congrArg Database.messages hdb) hout⟩⟩
  · exact ⟨base, outputs, rfl, hsent, .inl ⟨hinbox, hdone ▸ (handles_handleMsg env s.db
      (s.reg.mgr S) node._session node._id (cfg.codec.parse node._body)).toEmits⟩⟩
  · exact ⟨base, outputs, rfl, hsent, .inr hcallback⟩

/-- When the first text is taken, the others were there. -/
lemma mem_inbox_of_mem_rest {inbox : ℕ → List Bytes} {S S' : ℕ} {text text' : Bytes}
    {texts : List Bytes} (hhead : inbox S = text :: texts)
    (h : text' ∈ Function.update inbox S texts S') : text' ∈ inbox S' := by
  by_cases hS : S' = S
  · subst hS
    rw [Function.update_self] at h
    exact hhead ▸ List.mem_cons_of_mem _ h
  · rwa [Function.update_of_ne hS] at h

/-- **In every reachable state, what is under way belongs to stored messages.** -/
lemma sound_step (s : State) (e : Event) (s' : State) (hs : s.Sound cfg)
    (h : step cfg s e = some s') : s'.Sound cfg := by
  obtain ⟨base, outputs, rfl, hsent, ⟨hinbox, hemits⟩ |
    ⟨S, env, text, texts, -, hhead, rfl, rfl⟩⟩ :=
    step_outputs h
  · have hbase : base.Sound cfg :=
      Sound.of_le hs (fun S text htext => hinbox ▸ htext) hsent hemits.last_le
    exact sound_perform hbase fun o ho => (hemits.fresh o ho).mono fun mid hmid => hmid.2
  · obtain ⟨msg, hwf, rfl, hcarries⟩ := hs.inbox S text (hhead ▸ List.mem_cons_self)
    rw [cfg.codec.parse_dump hwf]
    refine sound_perform
      (Sound.of_le hs (fun _ _ => mem_inbox_of_mem_rest hhead) rfl (le_refl _)) fun o ho => ?_
    -- what the callback sends carries the key of the text, which was drawn
    obtain ⟨uid, c, id, notify, -, rfl, hnotify⟩ := forwards_subscriberCallback o ho
    exact fun mid hmid => hcarries mid (hnotify mid hmid)

lemma sound_of_run {db : Database} {es : List Event}
    (hrun : run (step cfg) (.init db) es = some s) :
    s.Sound cfg :=
  run_invariant sound_step hrun (sound_init db)

end Sound

end WeChat
