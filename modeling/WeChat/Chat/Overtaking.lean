/-
# Messages that overtake others

A message for which a session is found is sent at once, also when an older one of the same users
still waits for the subscriber of the server.  The order of the keys is kept in every run without
such a step, and from every such step the run can go on so that the older message is notified
after the newer one.
-/
import WeChat.Chat.Fifo

namespace WeChat

open Wire Relational Transition Json LogicSystem

/-! ## The texts that wait -/

/-- The value that is published for the message from `a` to `b` under a key. -/
def PublishedAs (a b mid : ℤ) (msg : Json) : Prop :=
  ∃ (kind : MessageKind) (body : Json) (extra : List (String × Json)) (fromUser : UserInfo)
    (content now : String), (kind = textChat ∨ kind = imageChat) ∧ kind.extra body = some extra ∧
      toInt32 mid = mid ∧ toInt32 b = b ∧
      msg = privatePublished kind extra mid a fromUser b content now

/-- What waits under the key of a message from `a` to `b` is what was published for it. -/
def State.Published (cfg : Config) (a b : ℤ) (s : State) : Prop :=
  ∀ S, ∀ text ∈ s.inbox S, ∀ msg mid, cfg.codec.parse text = some msg →
    s.db.keyOf a b msg = some mid → PublishedAs a b mid msg

section Published

variable {cfg : Config} {s s' base : State} {a b : ℤ} {outputs : List Output}

/-- Outputs whose pushed texts are published for their keys. -/
lemma published_perform (hs : s.Sound cfg) (h : s.Published cfg a b) (hgrows : Grows s.db base.db)
    (hinbox : ∀ S, ∀ text ∈ base.inbox S, text ∈ s.inbox S)
    (hpushed : ∀ subs, ∀ text ∈ outputs.filterMap (Output.pushed cfg.codec subs), ∀ msg mid,
      cfg.codec.parse text = some msg → base.db.keyOf a b msg = some mid →
        PublishedAs a b mid msg) :
    (base.perform cfg outputs).Published cfg a b := by
  intro S text htext msg mid hparse hkey
  rcases List.mem_append.1 htext with hold | hnew
  · obtain ⟨msg', hwf, rfl, hcarries⟩ := hs.inbox S text (hinbox S text hold)
    obtain rfl := Option.some.inj ((cfg.codec.parse_dump hwf).symm.trans hparse)
    have hkey' : s.db.keyOf a b msg' = some mid := (hgrows.keyOf_eq hcarries).symm.trans hkey
    exact h S _ (hinbox S _ hold) msg' mid hparse hkey'
  · exact hpushed _ text hnew msg mid hparse hkey

/-- Outputs that carry no key of a message from `a` to `b`. -/
lemma published_of_unrelated (hs : s.Sound cfg) (h : s.Published cfg a b)
    (hinbox : base.inbox = s.inbox) (hunrelated : Unrelated s.db a b (base.db, outputs)) :
    (base.perform cfg outputs).Published cfg a b := by
  obtain ⟨hgrows, hout⟩ := hunrelated
  refine published_perform hs h hgrows (fun S text htext => hinbox ▸ htext) ?_
  intro subs text htext msg mid hparse hkey
  have hnil : waitingKeys cfg base.db a b (outputs.filterMap (Output.pushed cfg.codec subs)) =
      [] := waitingKeys_eq_nil hout
  have hnone := List.filterMap_eq_nil_iff.1 hnil text htext
  rw [hparse, Option.bind_some, hkey] at hnone
  cases hnone

/-- A message that is conveyed is pushed as what is published for its key. -/
lemma published_of_conveys (hs : s.Sound cfg) (h : s.Published cfg a b)
    (hinbox : base.inbox = s.inbox) {env : Env} {mgr : ℤ → Option Conn} {session : Conn} {id : ℤ}
    {src : Option Json} (hconveys : Conveys env s.db mgr session id src a b (base.db, outputs)) :
    (base.perform cfg outputs).Published cfg a b := by
  obtain ⟨kind, body, extra, mid, fromUser, content, fields, hkind, -, -, hto, hextra, hstored,
    rfl⟩ := hconveys
  have hkind' : kind = textChat ∨ kind = imageChat := hkind.imp And.left And.left
  have hextra' := extra_of_private hkind'
  refine published_perform hs h hstored.grows (fun S text htext => hinbox ▸ htext) ?_
  intro subs text htext msg mid' hparse hkey
  obtain ⟨o, ho, hpushed⟩ := List.mem_filterMap.1 htext
  rcases List.mem_cons.1 ho with rfl | ho
  · -- what waits is the value that was published, with its key
    rw [notifyOrPublish] at hpushed
    cases hmgr : mgr b with
    | some c =>
      rw [hmgr] at hpushed
      cases hpushed
    | none =>
      simp only [hmgr, Output.pushed] at hpushed
      split_ifs at hpushed
      obtain rfl := Option.some.inj hpushed
      have hself := hstored.toInt32_id
      have hwf : (privatePublished kind extra mid a fromUser b content env.now).Wf :=
        wf_privatePublished hextra' hextra _ _ _ _ _
      obtain rfl := Option.some.inj ((cfg.codec.parse_dump hwf).symm.trans hparse)
      obtain rfl : mid = mid' := Option.some.inj ((messageId_privatePublished hextra' hextra hself
        _ _ _ _ _).symm.trans (keyOf_eq_some_iff.1 hkey).1)
      exact ⟨kind, body, extra, fromUser, content, env.now, hkind', hextra, hself,
        toInt32_of_getInt hto, rfl⟩
  · obtain rfl := List.mem_singleton.1 ho
    cases hpushed

/-- **In every reachable state, what waits is what was published.** -/
lemma published_step (s : State) (e : Event) (s' : State)
    (h : s.Sound cfg ∧ s.Published cfg a b) (hstep : step cfg s e = some s') :
    s'.Sound cfg ∧ s'.Published cfg a b := by
  obtain ⟨hs, h⟩ := h
  refine ⟨sound_step s e s' hs hstep, ?_⟩
  obtain ⟨base, outputs, rfl, -, ⟨hinbox, hdb, hout⟩ |
    ⟨S, i, alive, env, node, queue, rfl, -, hinbox, -, hdone⟩ |
    ⟨S, env, text, texts, rfl, hhead, rfl, rfl⟩⟩ := step_performs hstep
  · exact published_of_unrelated hs h hinbox (unrelated_of_silent hdb hout)
  · rcases unrelated_or_conveys env s.db (s.reg.mgr S) node._session node._id
      (cfg.codec.parse node._body) a b with hunrelated | hconveys
    · exact published_of_unrelated hs h hinbox (hdone ▸ hunrelated)
    · exact published_of_conveys hs h hinbox (hdone ▸ hconveys)
  · -- the callback pushes nothing
    obtain ⟨msg, hwf, rfl, -⟩ := hs.inbox S text (hhead ▸ List.mem_cons_self)
    rw [cfg.codec.parse_dump hwf]
    refine published_perform hs h (grows_of_eq rfl) (fun _ _ => mem_inbox_of_mem_rest hhead) ?_
    intro subs text htext
    rw [pushed_subscriberCallback] at htext
    exact absurd htext List.not_mem_nil

lemma published_of_run {db : Database} {es : List Event}
    (hrun : run (step cfg) (.init db) es = some s) : s.Sound cfg ∧ s.Published cfg a b :=
  run_invariant published_step hrun
    ⟨sound_init db, fun _ _ htext => absurd htext List.not_mem_nil⟩

end Published

/-! ## From a message that overtakes another -/

section Overtaking

variable {cfg : Config} {s s' : State} {a b mid : ℤ} {S : ℕ} {c : Conn}

/-- A connection of the recipient is notified of what was published. -/
lemma notifiedKeys_published {db : Database} {env : Env} {mgr : ℤ → Option Conn} {msg : Json}
    (h : PublishedAs a b mid msg) (hkey : db.keyOf a b msg = some mid) (hmgr : mgr b = some c) :
    notifiedKeys db a b c ((subscriberCallback env db mgr (some msg)).filterMap Output.sent) =
      [mid] := by
  obtain ⟨kind, body, extra, fromUser, content, now, hkind, hextra, hself, hto, rfl⟩ := h
  have hid : kind.notifyId ∈ privateIds := by
    rcases hkind with rfl | rfl <;> decide
  have hnotify : db.keyOf a b (privateNotify extra mid a fromUser content now) = some mid :=
    keyOf_eq_some_iff.2 ⟨messageId_privateNotify (extra_of_private hkind) hextra hself _ _ _ _,
      (keyOf_eq_some_iff.1 hkey).2⟩
  rw [subscriberCallback_privatePublished hextra hkind mid a fromUser hto, hmgr]
  exact (notifiedKeys_send hid hnotify).trans (if_pos rfl)

/-- **A message that waits comes out after the newer one that was sent past it**, when the texts
are delivered one after the other. -/
lemma exists_not_inOrder (h : s.Sound cfg ∧ s.Published cfg a b) (hmgr : s.reg.mgr S b = some c)
    {early late : ℤ} (hlt : early < late) (hlate : late ∈ notifiedKeys s.db a b c s.sent)
    (hearly : early ∈ waitingKeys cfg s.db a b (s.inbox S)) :
    ∃ es t, run (step cfg) s es = some t ∧ ¬ t.InOrder a b := by
  generalize htexts : s.inbox S = texts at hearly
  induction texts generalizing s with
  | nil => cases hearly
  | cons text texts ih =>
    obtain ⟨msg, hwf, rfl, -⟩ := h.1.inbox S text (htexts ▸ List.mem_cons_self)
    have hparse := cfg.codec.parse_dump hwf
    let outputs := subscriberCallback noDatabase s.db (s.reg.mgr S) (some msg)
    let t := State.perform cfg { s with inbox := Function.update s.inbox S texts } outputs
    have hstep : step cfg s (.deliver S noDatabase) = some t := by
      simp only [step, htexts, hparse]
      rfl
    have hkeys : notifiedKeys t.db a b c t.sent = notifiedKeys s.db a b c s.sent ++
        notifiedKeys s.db a b c (outputs.filterMap Output.sent) := notifiedKeys_append _ _
    by_cases hhead : s.db.keyOf a b msg = some early
    · refine ⟨[.deliver S noDatabase], t, run_cons hstep [], fun horder => ?_⟩
      have hpublished : PublishedAs a b early msg :=
        h.2 S _ (htexts ▸ List.mem_cons_self) msg early hparse hhead
      have hpair := horder c
      rw [hkeys, notifiedKeys_published hpublished hhead hmgr, List.pairwise_append] at hpair
      exact absurd (hpair.2.2 late hlate early (List.mem_singleton_self early)) (not_lt.2 hlt.le)
    · -- the message comes with one of the texts that are left
      have hrest : early ∈ waitingKeys cfg s.db a b texts := by
        obtain ⟨text, htext, hkey⟩ := List.mem_filterMap.1 hearly
        rcases List.mem_cons.1 htext with rfl | htext
        · rw [hparse] at hkey
          exact absurd hkey hhead
        · exact List.mem_filterMap.2 ⟨text, htext, hkey⟩
      have hinbox : t.inbox S = texts := by
        show Function.update s.inbox S texts S ++ _ = texts
        rw [Function.update_self, pushed_subscriberCallback, List.append_nil]
      obtain ⟨es, u, hrun, hu⟩ := ih (published_step s _ t h hstep) hmgr
        (hkeys ▸ List.mem_append_left _ hlate) hinbox hrest
      exact ⟨.deliver S noDatabase :: es, u, (run_cons hstep es).trans hrun, hu⟩

/-- A step that stores a message and sends it past one that waits. -/
lemma exists_not_inOrder_of_overtakes {e : Event} (h : s.Sound cfg ∧ s.Published cfg a b)
    (hstep : step cfg s e = some s') (hover : ¬ OvertakesNone cfg a b s e)
    (hstored : s'.db.messages ≠ s.db.messages) :
    ∃ es t, run (step cfg) s' es = some t ∧ ¬ t.InOrder a b := by
  have hnext := published_step s e s' h hstep
  obtain ⟨base, outputs, rfl, hsent, ⟨hinbox, hdb, -⟩ |
    ⟨S, i, alive, env, node, queue, rfl, hqueue, hinbox, hreg, hdone⟩ |
    ⟨S, env, text, texts, rfl, -, rfl, -⟩⟩ := step_performs hstep
  · exact absurd (congrArg Database.messages hdb) hstored
  · simp only [OvertakesNone, not_forall, Option.isSome_iff_exists] at hover
    obtain ⟨kind, node', queue', body, hqueue', hkind, hparse, hfrom, hto, ⟨c, hmgr⟩, hwaits⟩ :=
      hover
    obtain ⟨rfl, -⟩ := List.cons.inj (hqueue.symm.trans hqueue')
    have hconveys : Conveys env s.db (s.reg.mgr S) node._session node._id (some body) a b
        (base.db, outputs) := by
      rw [hparse] at hdone
      rw [← hdone]
      exact conveys_of_stored hkind hfrom hto (hdone ▸ hstored)
    obtain ⟨late, hnew, hgrows, hnotified, -⟩ := keys_conveys cfg hconveys
    obtain ⟨early, hearly⟩ := List.exists_mem_of_ne_nil _ hwaits
    refine exists_not_inOrder hnext ((congrArg (·.mgr S b) hreg).trans hmgr)
      ((h.1.waitingKeys_le S early hearly).trans_lt hnew) ?_ ?_
    · -- the newer message has just been sent
      rw [State.perform, notifiedKeys_append]
      refine List.mem_append_right _ ?_
      rw [hnotified c, if_pos hmgr]
      exact List.mem_singleton_self late
    · rw [State.perform, waitingKeys_append, hinbox]
      refine List.mem_append_left _ ?_
      rwa [hgrows.waitingKeys_eq h.1]
  · exact absurd trivial hover

/-- **In every run in which no message from `a` to `b` is sent past another one that waits, every
connection is notified of the messages from `a` to `b` in the order of their keys**; and a step
that sends one past another can lead out of this order. -/
theorem inOrder_of_overtakesNone {db : Database} {es : List Event}
    (hrun : run (step cfg) (.init db) es = some s) :
    (AllSteps (step cfg) (OvertakesNone cfg a b) (.init db) es → s.InOrder a b) ∧
    ∀ e s', step cfg s e = some s' → ¬ OvertakesNone cfg a b s e →
      s'.db.messages ≠ s.db.messages →
        ∃ es' t, run (step cfg) s' es' = some t ∧ ¬ t.InOrder a b := by
  constructor
  · intro hclear c
    exact (List.pairwise_append.1 ((lined_of_run hrun hclear).line c)).1
  · intro e s' hstep hover hstored
    exact exists_not_inOrder_of_overtakes (published_of_run hrun) hstep hover hstored

end Overtaking

/-! ## Two runs -/

/-- User 1 has sent a text to user 2, who is logged in at the same server, and another text is
queued. -/
def textSentAgain : State :=
  let direct := (sameServer MySQLMgr.twoUsers textRequest).worked idTextChatMsgReq textBody
  { direct with
    queues := Function.update direct.queues 0
      (Function.update (direct.queues 0) 1 [textRequest]) }

/-- The events after which both texts have been handled. -/
def twoTextsRun : List Event :=
  sameServerRun idTextChatMsgReq textBody ++ ([.work 0 1 true allSucceed] ++
    (received client₁ idTextChatMsgReq textRequest._body noDatabase ++
      [.work 0 1 true allSucceed]))

/-- User 2 is notified of two texts in the order of their keys. -/
theorem inOrder_sameServer :
    let t := textSentAgain.worked idTextChatMsgReq textBody
    run (step compactConfig) (.init MySQLMgr.twoUsers) twoTextsRun = some t ∧
      notifiedKeys t.db 1 2 client₂ t.sent = [1, 2] ∧ t.InOrder 1 2 := by
  let both := sameServer MySQLMgr.twoUsers textRequest
  let direct := both.worked idTextChatMsgReq textBody
  have hboth : run (step compactConfig) (.init MySQLMgr.twoUsers)
      (sameServerRun idTextChatMsgReq textBody) = some both :=
    (run_sameServer MySQLMgr.twoUsers idTextChatMsgReq textBody
      (by decide) (by decide) (by decide) ⟨by decide, by decide⟩).1
  have hdirect : run (step compactConfig) both [.work 0 1 true allSucceed] = some direct :=
    run_cons (step_worked wf_textBody rfl) []
  have hread : run (step compactConfig) direct
      (received client₁ idTextChatMsgReq textRequest._body noDatabase) = some textSentAgain :=
    run_request rfl rfl (by decide) (by decide) (by decide) ⟨by decide, by decide⟩
  have hrun : run (step compactConfig) (.init MySQLMgr.twoUsers) twoTextsRun =
      some (textSentAgain.worked idTextChatMsgReq textBody) := by
    rw [twoTextsRun, run_append_of hboth, run_append_of hdirect, run_append_of hread,
      run_cons (step_worked wf_textBody rfl), run_nil]
  refine ⟨hrun, by decide, (inOrder_of_overtakesNone hrun).1 ?_⟩
  -- nothing waits at the server
  have hwork : ∀ {s : State}, s.inbox 0 = [] →
      OvertakesNone compactConfig 1 2 s (.work 0 1 true allSucceed) := by
    rintro s hinbox kind node queue body - - - - - -
    rw [hinbox, waitingKeys, List.filterMap_nil]
  refine .append ?_ hboth (.append ⟨hwork rfl, fun _ _ => trivial⟩ hdirect
    (.append ?_ hread ⟨hwork rfl, fun _ _ => trivial⟩))
  all_goals
    refine .of_forall (fun s e he => ?_) _
    simp only [sameServerRun, bothOnlineRun, connect, received, List.cons_append, List.nil_append,
      List.mem_cons, List.not_mem_nil, or_false] at he
  · rcases he with rfl | rfl | rfl | rfl | rfl | rfl | rfl | rfl <;> trivial
  · rcases he with rfl | rfl <;> trivial

/-- The second connection of user 2 at server 0. -/
def client₅ : Conn := ⟨0, 3⟩

/-- User 2 leaves server 0, user 1 sends it a text, it comes back, and user 1 sends another one:
the first text is published, the second is not. -/
def overtakenRun : List Event :=
  connect compactConfig client₁ 1 "t" noDatabase ++
    (connect compactConfig client₂ 2 "u" noDatabase ++ ([.readError client₂ .eof] ++
      (received client₁ idTextChatMsgReq textRequest._body noDatabase ++
        ([.work 0 1 true allSucceed] ++ (connect compactConfig client₅ 2 "v" noDatabase ++
          (received client₁ idTextChatMsgReq textRequest._body noDatabase ++
            [.work 0 1 true allSucceed, .deliver 0 allSucceed]))))))

/-- User 2 has left server 0, which is still subscribed to its channel, and a text to it is
queued. -/
def absent : State where
  reg := ((((Registry.init.accept client₁).login client₁ 1).accept client₂).login client₂
    2).apply (.readError client₂ .eof)
  queues := Function.update (fun _ _ => []) 0 (Function.update (fun _ => []) 1 [textRequest])
  inbox _ := []
  db := MySQLMgr.twoUsers
  sent := greeting client₁ "t" ++ greeting client₂ "u"

/-- The text waits, user 2 has come back, and another text to it is queued. -/
def comeBack : State :=
  let published := absent.worked idTextChatMsgReq textBody
  { published with
    reg := (published.reg.accept client₅).login client₅ 2
    queues := Function.update published.queues 0
      (Function.update (published.queues 0) 1 [textRequest])
    sent := published.sent ++ greeting client₅ "v" }

/-- The second text has been sent, and then the first one has been delivered. -/
def overtaken : State :=
  let direct := comeBack.worked idTextChatMsgReq textBody
  State.perform compactConfig { direct with inbox := Function.update direct.inbox 0 [] }
    (subscriberCallback allSucceed direct.db (direct.reg.mgr 0) (some textPublished))

lemma step_overtaken :
    step compactConfig (comeBack.worked idTextChatMsgReq textBody) (.deliver 0 allSucceed) =
      some overtaken := by
  have hinbox : (comeBack.worked idTextChatMsgReq textBody).inbox 0 =
      [compactConfig.codec.dump textPublished] := rfl
  have hparse := compactConfig.codec.parse_dump wf_textPublished
  simp only [step, hinbox, hparse]
  rfl

lemma run_overtaken :
    run (step compactConfig) (.init MySQLMgr.twoUsers) overtakenRun = some overtaken := by
  rw [overtakenRun, run_append_of
      (run_connect_noDatabase rfl (by decide) (by decide) ⟨by decide, by decide⟩),
    run_append_of
      (run_connect_noDatabase rfl (by decide) (by decide) ⟨by decide, by decide⟩),
    run_append_of (show run (step compactConfig) _ [.readError client₂ .eof] = some _ from rfl),
    run_append_of
      (run_request rfl rfl (by decide) (by decide) (by decide) ⟨by decide, by decide⟩)]
  change run _ absent _ = _
  rw [run_append_of (run_cons (step_worked wf_textBody rfl) []), run_append_of
      (run_connect_noDatabase rfl (by decide) (by decide) ⟨by decide, by decide⟩),
    run_append_of
      (run_request rfl rfl (by decide) (by decide) (by decide) ⟨by decide, by decide⟩)]
  change run _ comeBack _ = _
  rw [run_cons (step_worked wf_textBody rfl), run_cons step_overtaken, run_nil]

/-- User 2 is notified of the second text and then, on the same connection, of the first. -/
theorem not_inOrder_overtaken :
    run (step compactConfig) (.init MySQLMgr.twoUsers) overtakenRun = some overtaken ∧
      (∀ c, overtaken.reg.Live 1 c ↔ c = client₁) ∧
      notifiedKeys overtaken.db 1 2 client₅ overtaken.sent = [2, 1] ∧ ¬ overtaken.InOrder 1 2 := by
  have hkeys : notifiedKeys overtaken.db 1 2 client₅ overtaken.sent = [2, 1] := by decide
  refine ⟨run_overtaken, fun c => ?_, hkeys, fun horder => ?_⟩
  · have hleft : absent.reg = ((((Registry.init.accept client₁).login client₁ 1).accept
        client₂).login client₂ 2).apply (.readError client₂ .eof) := rfl
    have h₁₂ : client₁ ≠ client₂ := by decide
    have h₁₅ : client₁ ≠ client₅ := by decide
    show ((absent.reg.accept client₅).login client₅ 2).Live 1 c ↔ _
    rw [live_connect_iff, hleft, Registry.live_readError_iff, live_connect_iff, live_connect_iff]
    simp only [not_live_init, and_false, or_false]
    constructor
    · rintro (⟨-, h⟩ | ⟨-, -, ⟨-, h⟩ | ⟨-, rfl, -⟩⟩)
      · exact absurd h (by decide)
      · exact absurd h (by decide)
      · rfl
    · rintro rfl
      exact .inr ⟨h₁₅, h₁₂, .inr ⟨h₁₂, rfl, trivial⟩⟩
  · have hpair := horder client₅
    rw [hkeys] at hpair
    exact absurd hpair (by decide)

end WeChat
