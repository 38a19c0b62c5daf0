/-
# Messages that reach their recipients

A stored message is on its way as a notification that was sent or as a text that Redis has
pushed to a server.  While nobody logs in or disconnects, the notifications that a connection
has got and those that the texts still under way will become are conserved.
-/
import WeChat.Chat.Sound

namespace WeChat

open Wire Transition LogicSystem

/-- The identifiers under which messages are notified. -/
def notifyIds : List ℤ :=
  [idNotifyTextChatMsgReq, idNotifyImageChatMsgReq, idNotifyGroupChatMsgReq,
    idNotifyGroupImageChatMsgReq]

/-- A call of `send` that notifies a connection of a message. -/
def Notifies (mid : ℤ) (c : Conn) (e : Conn × ℤ × Json) : Prop :=
  e.1 = c ∧ e.2.1 ∈ notifyIds ∧ messageId e.2.2 = some mid

instance (mid : ℤ) (c : Conn) : DecidablePred (Notifies mid c) :=
  fun _ => inferInstanceAs (Decidable (_ ∧ _))

/-- The notifications of a message that a connection has been sent. -/
def State.notified (s : State) (mid : ℤ) (c : Conn) : ℕ := s.sent.countP (Notifies mid c)

/-- The notifications among some outputs. -/
def notifiedBy (outputs : List Output) (mid : ℤ) (c : Conn) : ℕ :=
  (outputs.filterMap Output.sent).countP (Notifies mid c)

/-- A text that carries the key of a message. -/
def Carries (cfg : Config) (mid : ℤ) (text : Bytes) : Prop :=
  (cfg.codec.parse text).bind messageId = some mid

instance (cfg : Config) (mid : ℤ) : DecidablePred (Carries cfg mid) :=
  fun _ => inferInstanceAs (Decidable (_ = _))

/-- The texts of a message that a server has still to handle. -/
def State.carried (cfg : Config) (s : State) (mid : ℤ) (S : ℕ) : ℕ :=
  (s.inbox S).countP (Carries cfg mid)

/-- The texts of a message that some outputs push to a server. -/
def pushedBy (cfg : Config) (subs : ℤ → Bool) (outputs : List Output) (mid : ℤ) : ℕ :=
  (outputs.filterMap (Output.pushed cfg.codec subs)).countP (Carries cfg mid)

section Counting

variable {cfg : Config} {s : State} {mid : ℤ} {c : Conn} {outputs : List Output}

lemma notified_perform :
    (s.perform cfg outputs).notified mid c = s.notified mid c + notifiedBy outputs mid c :=
  List.countP_append

lemma carried_perform (S : ℕ) :
    (s.perform cfg outputs).carried cfg mid S =
      s.carried cfg mid S + pushedBy cfg (s.reg.subs S) outputs mid :=
  List.countP_append

lemma carries_dump_iff {msg : Json} (hwf : msg.Wf) :
    Carries cfg mid (cfg.codec.dump msg) ↔ messageId msg = some mid := by
  have hparse := cfg.codec.parse_dump hwf
  rw [Carries, hparse, Option.bind_some]

/-- Outputs that carry other keys notify nobody of a message. -/
lemma notifiedBy_eq_zero (h : ∀ o ∈ outputs, o.CarriesOnly (· ≠ mid)) :
    notifiedBy outputs mid c = 0 := by
  refine List.countP_eq_zero.2 fun e he => ?_
  obtain ⟨o, ho, hsent⟩ := List.mem_filterMap.1 he
  cases o with
  | send session id msg =>
    obtain rfl := Option.some.inj hsent
    intro hn
    obtain ⟨-, -, hmid⟩ := of_decide_eq_true hn
    exact h _ ho mid hmid rfl
  | publish uid msg => cases hsent

/-- Outputs that carry other keys push no text of a message. -/
lemma pushedBy_eq_zero {subs : ℤ → Bool} (h : ∀ o ∈ outputs, o.CarriesOnly (· ≠ mid)) :
    pushedBy cfg subs outputs mid = 0 := by
  refine List.countP_eq_zero.2 fun text htext => ?_
  obtain ⟨o, ho, hpushed⟩ := List.mem_filterMap.1 htext
  cases o with
  | send session id msg => cases hpushed
  | publish uid msg =>
    simp only [Output.pushed] at hpushed
    split_ifs at hpushed
    obtain rfl := Option.some.inj hpushed
    intro hcarries
    have hmid := (carries_dump_iff (h _ ho).1).1 (of_decide_eq_true hcarries)
    exact (h _ ho).2 mid hmid rfl

/-- A key that has not been drawn yet is the key of nothing that was sent or pushed. -/
lemma Sound.unknown (hs : s.Sound cfg) (hmid : s.db.messages.last < mid) :
    s.notified mid c = 0 ∧ ∀ S, s.carried cfg mid S = 0 := by
  refine ⟨List.countP_eq_zero.2 fun e he => ?_, fun S => List.countP_eq_zero.2 fun text ht => ?_⟩
  · intro hn
    obtain ⟨-, -, hkey⟩ := of_decide_eq_true hn
    exact absurd (hs.sent e he mid hkey) (not_le.2 hmid)
  · obtain ⟨msg, hwf, rfl, hcarries⟩ := hs.inbox S text ht
    intro hn
    have hkey := (carries_dump_iff hwf).1 (of_decide_eq_true hn)
    exact absurd (hcarries mid hkey) (not_le.2 hmid)

/-- The callback notifies the connections of its own server only. -/
lemma notifiedBy_subscriberCallback_eq_zero {env : Env} {db : Database} {mgr : ℤ → Option Conn}
    {msg : Json} (h : ∀ uid, mgr uid ≠ some c) :
    notifiedBy (subscriberCallback env db mgr (some msg)) mid c = 0 := by
  refine List.countP_eq_zero.2 fun e he => ?_
  obtain ⟨o, ho, hsent⟩ := List.mem_filterMap.1 he
  obtain ⟨uid, c', id, notify, hmgr, rfl, -⟩ := forwards_subscriberCallback o ho
  obtain rfl := Option.some.inj hsent
  intro hn
  obtain ⟨rfl, -, -⟩ := of_decide_eq_true hn
  exact h uid hmgr

/-- A text of another message does not lead to a notification of this one. -/
lemma notifiedBy_subscriberCallback_of_ne {env : Env} {db : Database} {mgr : ℤ → Option Conn}
    {msg : Json} (h : messageId msg ≠ some mid) :
    notifiedBy (subscriberCallback env db mgr (some msg)) mid c = 0 := by
  refine notifiedBy_eq_zero fun o ho => ?_
  obtain ⟨uid, c', id, notify, -, rfl, hnotify⟩ := forwards_subscriberCallback o ho
  rintro mid' hmid' rfl
  exact h (hnotify _ hmid')

/-- The callback publishes nothing. -/
lemma pushed_subscriberCallback {env : Env} {db : Database} {mgr : ℤ → Option Conn}
    {msg : Json} {subs : ℤ → Bool} :
    (subscriberCallback env db mgr (some msg)).filterMap (Output.pushed cfg.codec subs) = [] := by
  refine List.filterMap_eq_nil_iff.2 fun o ho => ?_
  obtain ⟨uid, c', id, notify, -, rfl, -⟩ := forwards_subscriberCallback o ho
  rfl

lemma pushedBy_subscriberCallback {env : Env} {db : Database} {mgr : ℤ → Option Conn}
    {msg : Json} {subs : ℤ → Bool} :
    pushedBy cfg subs (subscriberCallback env db mgr (some msg)) mid = 0 := by
  rw [pushedBy, pushed_subscriberCallback, List.countP_nil]

end Counting

/-! ## While nobody logs in or disconnects -/

/-- An event that logs nobody in and ends no connection. -/
def Registry.Quiet (r : Registry) : RegEvent → Prop
  | .accept _ => True
  | .read c bytes none => r.next c bytes ≠ .stopped
  | .skip => True
  | _ => False

lemma Registry.mgr_of_quiet {r : Registry} {e : RegEvent} (h : r.Quiet e) :
    (r.apply e).mgr = r.mgr := by
  cases e with
  | accept c => rfl
  | read c bytes login =>
    cases login with
    | none => exact mgr_readDone bytes
    | some uid => exact h.elim
  | readError c ec => exact h.elim
  | writeError c => exact h.elim
  | skip => rfl

/-- A message is under way: its key has been drawn, and the texts with this key are those of
one value. -/
structure InFlight (cfg : Config) (mgr : ℕ → ℤ → Option Conn) (mid : ℤ) (msg : Json)
    (s : State) : Prop where
  loc : s.reg.Local
  sound : s.Sound cfg
  drawn : mid ≤ s.db.messages.last
  mgr_eq : s.reg.mgr = mgr
  text : ∀ S, ∀ text ∈ s.inbox S, Carries cfg mid text → cfg.codec.parse text = some msg

section Conservation

variable {cfg : Config} {s s' : State} {mgr : ℕ → ℤ → Option Conn} {mid : ℤ} {msg : Json}
  {c : Conn} {w : ℕ} {e : Event}

/-- The delivery of the message to the server of a connection notifies it `w` times. -/
def Weighs (mgr : ℕ → ℤ → Option Conn) (mid : ℤ) (msg : Json) (c : Conn) (w : ℕ) (s : State)
    (e : Event) : Prop :=
  ∀ env, e = .deliver c.srv env →
    notifiedBy (subscriberCallback env s.db (mgr c.srv) (some msg)) mid c = w

lemma inFlight_step (hf : InFlight cfg mgr mid msg s) (hquiet : s.reg.Quiet (regEvent cfg s e))
    (h : step cfg s e = some s') : InFlight cfg mgr mid msg s' := by
  have hmgr : s'.reg.mgr = mgr := by
    rw [(reg_step h).2, Registry.mgr_of_quiet hquiet, hf.mgr_eq]
  refine ⟨local_step s e s' hf.loc h, sound_step s e s' hf.sound h, ?_, hmgr, ?_⟩
  · obtain ⟨base, outputs, rfl, -, ⟨-, hemits⟩ | ⟨S, env, text, texts, -, -, rfl, -⟩⟩ :=
      step_outputs h
    · exact hf.drawn.trans hemits.last_le
    · exact hf.drawn
  · obtain ⟨base, outputs, rfl, -, hcases⟩ := step_outputs h
    intro S text htext hcarries
    rcases List.mem_append.1 htext with hold | hnew
    · rcases hcases with ⟨hinbox, -⟩ | ⟨S₀, env, text₀, texts, -, hhead, rfl, -⟩
      · exact hf.text S text (hinbox ▸ hold) hcarries
      · refine hf.text S text ?_ hcarries
        by_cases hS : S = S₀
        · subst hS
          simp only [Function.update_self] at hold
          exact hhead ▸ List.mem_cons_of_mem _ hold
        · simpa only [Function.update_of_ne hS] using hold
    · -- a text that this step pushes does not carry the key
      exfalso
      have hzero : pushedBy cfg (base.reg.subs S) outputs mid = 0 := by
        rcases hcases with ⟨-, hemits⟩ | ⟨S₀, env, text₀, texts, -, hhead, rfl, rfl⟩
        · refine pushedBy_eq_zero fun o ho => (hemits.fresh o ho).mono ?_
          rintro mid' ⟨hlt, -⟩ rfl
          exact absurd hf.drawn (not_le.2 hlt)
        · obtain ⟨msg₀, hwf, rfl, -⟩ := hf.sound.inbox S₀ text₀ (hhead ▸ List.mem_cons_self)
          rw [cfg.codec.parse_dump hwf]
          exact pushedBy_subscriberCallback
      exact absurd (decide_eq_true hcarries) (List.countP_eq_zero.1 hzero text hnew)

/-- **A step moves a notification from what is under way to what was sent, or leaves both
alone.** -/
lemma conserved_step (hf : InFlight cfg mgr mid msg s) (hw : Weighs mgr mid msg c w s e)
    (h : step cfg s e = some s') :
    s'.notified mid c + s'.carried cfg mid c.srv * w =
      s.notified mid c + s.carried cfg mid c.srv * w := by
  obtain ⟨base, outputs, rfl, hsent, ⟨hinbox, hemits⟩ |
    ⟨S, env, text, texts, rfl, hhead, rfl, rfl⟩⟩ := step_outputs h
  · -- the keys that the step draws are newer than this one
    have hother : ∀ o ∈ outputs, o.CarriesOnly (· ≠ mid) := by
      refine fun o ho => (hemits.fresh o ho).mono ?_
      rintro mid' ⟨hlt, -⟩ rfl
      exact absurd hf.drawn (not_le.2 hlt)
    rw [notified_perform, carried_perform, notifiedBy_eq_zero hother, pushedBy_eq_zero hother]
    simp only [State.notified, State.carried, hsent, hinbox, Nat.add_zero]
  · -- the text leaves the inbox, and its notifications are sent
    obtain ⟨msg₀, hwf, rfl, -⟩ := hf.sound.inbox S text (hhead ▸ List.mem_cons_self)
    have hparse := cfg.codec.parse_dump hwf
    rw [notified_perform, carried_perform, hparse, pushedBy_subscriberCallback, Nat.add_zero,
      hf.mgr_eq]
    by_cases hS : c.srv = S
    · subst hS
      have hcarried : s.carried cfg mid c.srv =
          texts.countP (Carries cfg mid) + if messageId msg₀ = some mid then 1 else 0 := by
        rw [State.carried, hhead, List.countP_cons]
        simp only [carries_dump_iff hwf, decide_eq_true_eq]
      simp only [State.notified, State.carried, Function.update_self] at hcarried ⊢
      rw [hcarried]
      by_cases hkey : messageId msg₀ = some mid
      · have hmsg : msg₀ = msg := by
          have hcarries : Carries cfg mid _ := (carries_dump_iff hwf).2 hkey
          have := hf.text c.srv _ (hhead ▸ List.mem_cons_self) hcarries
          exact Option.some.inj (hparse.symm.trans this)
        rw [if_pos hkey, hmsg, hw env rfl]
        ring
      · rw [if_neg hkey, notifiedBy_subscriberCallback_of_ne hkey, Nat.add_zero, Nat.add_zero]
    · -- the callback of another server does not reach the connection
      have hforeign : ∀ uid, mgr S uid ≠ some c := by
        intro uid hmgr
        exact hS (hf.loc.mgr_srv (hf.mgr_eq ▸ hmgr))
      rw [notifiedBy_subscriberCallback_eq_zero hforeign]
      simp only [State.notified, State.carried, Function.update_of_ne hS, Nat.add_zero]

/-- **Once no text of the message is under way, a connection has got the notifications that the
step which stored the message sent, and `w` for every text that it pushed.** -/
lemma notified_of_quiet {es : List Event} (hf : InFlight cfg mgr mid msg s)
    (hquiet : AllSteps (step cfg) (fun s e => s.reg.Quiet (regEvent cfg s e)) s es)
    (hw : AllSteps (step cfg) (Weighs mgr mid msg c w) s es)
    (hrun : run (step cfg) s es = some s') (hconsumed : s'.carried cfg mid c.srv = 0) :
    s'.notified mid c = s.notified mid c + s.carried cfg mid c.srv * w := by
  have hconserved : s'.notified mid c + s'.carried cfg mid c.srv * w =
      s.notified mid c + s.carried cfg mid c.srv * w := by
    clear hconsumed
    -- along the run, with the state after each step in the place of the first
    induction es generalizing s with
    | nil => rw [Option.some.inj hrun]
    | cons e es ih =>
      obtain ⟨s₁, he, hrun'⟩ := run_cons_inv hrun
      rw [ih (inFlight_step hf hquiet.1 he) (hquiet.2 s₁ he) (hw.2 s₁ he) hrun',
        conserved_step hf hw.1 he]
  rw [← hconserved, hconsumed, Nat.zero_mul, Nat.add_zero]

end Conservation

/-! ## The step that stores a message -/

section Launch

variable {cfg : Config} {s s₁ : State} {mgr : ℤ → Option Conn} {mid id rspId : ℤ}
  {notify msg : Json} {c session : Conn}

lemma notifiedBy_append (outputs outputs' : List Output) :
    notifiedBy (outputs ++ outputs') mid c =
      notifiedBy outputs mid c + notifiedBy outputs' mid c := by
  rw [notifiedBy, List.filterMap_append, List.countP_append]
  rfl

lemma pushedBy_append {subs : ℤ → Bool} (outputs outputs' : List Output) :
    pushedBy cfg subs (outputs ++ outputs') mid =
      pushedBy cfg subs outputs mid + pushedBy cfg subs outputs' mid := by
  rw [pushedBy, List.filterMap_append, List.countP_append]
  rfl

/-- The users of a list who have the connection as their entry are notified on it. -/
lemma notifiedBy_notifyOrPublish (hid : id ∈ notifyIds) (hnotify : messageId notify = some mid)
    (uids : List ℤ) :
    notifiedBy (uids.map fun uid => notifyOrPublish mgr uid id notify msg) mid c =
      uids.countP fun uid => mgr uid = some c := by
  induction uids with
  | nil => rfl
  | cons uid uids ih =>
    rw [List.map_cons, ← List.singleton_append, notifiedBy_append, ih, List.countP_cons,
      Nat.add_comm]
    congr 1
    rw [notifyOrPublish]
    cases hmgr : mgr uid with
    | none => simp [notifiedBy, Output.sent]
    | some c' => simp [notifiedBy, Output.sent, Notifies, hid, hnotify, List.countP_cons]

/-- The texts that a server gets are those for the users without an entry whose channels it is
subscribed to. -/
lemma pushedBy_notifyOrPublish {subs : ℤ → Bool} (hwf : msg.Wf) (hmsg : messageId msg = some mid)
    (uids : List ℤ) :
    pushedBy cfg subs (uids.map fun uid => notifyOrPublish mgr uid id notify msg) mid =
      uids.countP fun uid => mgr uid = none ∧ subs uid := by
  induction uids with
  | nil => rfl
  | cons uid uids ih =>
    rw [List.map_cons, ← List.singleton_append, pushedBy_append, ih, List.countP_cons,
      Nat.add_comm]
    congr 1
    have hcarries : Carries cfg mid (cfg.codec.dump msg) := (carries_dump_iff hwf).2 hmsg
    rw [notifyOrPublish]
    cases hmgr : mgr uid with
    | none =>
      by_cases hsub : subs uid <;>
        simp [pushedBy, Output.pushed, hsub, hcarries]
    | some c' => simp [pushedBy, Output.pushed]

/-- **The step that stores a message puts it under way**: it notifies the users of a list who
have an entry at its server, and pushes a text for each of the others. -/
lemma inFlight_of_stored {S : ℕ} {uids : List ℤ} {queues : ℕ → ℕ → List LogicNode}
    {db : Database} {fields : List (String × Json)} (hl : s.reg.Local) (hs : s.Sound cfg)
    (hsound : s₁.Sound cfg) (hnew : s.db.messages.last < mid) (hlast : db.messages.last = mid)
    (hs₁ : s₁ = { s with queues := queues, db := db }.perform cfg
      (uids.map (fun uid => notifyOrPublish (s.reg.mgr S) uid id notify msg) ++
        [answer session rspId fields]))
    (hid : id ∈ notifyIds) (hrsp : rspId ∉ notifyIds) (hnotify : messageId notify = some mid)
    (hwf : msg.Wf) (hmsg : messageId msg = some mid) :
    InFlight cfg s.reg.mgr mid msg s₁ ∧
      (∀ c, s₁.notified mid c = uids.countP fun uid => s.reg.mgr S uid = some c) ∧
      ∀ B, s₁.carried cfg mid B =
        uids.countP fun uid => s.reg.mgr S uid = none ∧ s.reg.subs B uid := by
  have hanswer : ∀ c, notifiedBy [answer session rspId fields] mid c = 0 := by
    intro c
    simp [notifiedBy, answer, Output.sent, Notifies, hrsp]
  refine ⟨⟨?_, hsound, ?_, ?_, ?_⟩, fun c => ?_, fun B => ?_⟩
  · rw [hs₁]
    exact hl
  · rw [hs₁]
    exact hlast.ge
  · rw [hs₁]
    rfl
  · intro B text htext hcarries
    rw [hs₁] at htext
    rcases List.mem_append.1 htext with hold | hnewText
    · -- no text that was there before carries the new key
      have hzero := (Sound.unknown (c := session) hs hnew).2 B
      exact absurd (decide_eq_true hcarries) (List.countP_eq_zero.1 hzero text hold)
    · obtain ⟨o, ho, hpushed⟩ := List.mem_filterMap.1 hnewText
      rcases List.mem_append.1 ho with ho | ho
      · obtain ⟨uid, -, rfl⟩ := List.mem_map.1 ho
        rw [notifyOrPublish] at hpushed
        cases hmgr : s.reg.mgr S uid with
        | some c' =>
          rw [hmgr] at hpushed
          cases hpushed
        | none =>
          simp only [hmgr, Output.pushed] at hpushed
          split_ifs at hpushed
          obtain rfl := Option.some.inj hpushed
          exact cfg.codec.parse_dump hwf
      · obtain rfl := List.mem_singleton.1 ho
        cases hpushed
  · have hbefore : State.notified { s with queues := queues, db := db } mid c = 0 :=
      (Sound.unknown hs hnew).1
    rw [hs₁, notified_perform, hbefore, notifiedBy_append, hanswer,
      notifiedBy_notifyOrPublish hid hnotify, Nat.zero_add, Nat.add_zero]
  · have hbefore : State.carried cfg { s with queues := queues, db := db } mid B = 0 :=
      (Sound.unknown (c := session) hs hnew).2 B
    rw [hs₁, carried_perform, hbefore, pushedBy_append, pushedBy_notifyOrPublish hwf hmsg]
    exact (Nat.zero_add _).trans (Nat.add_zero _)

end Launch

end WeChat
