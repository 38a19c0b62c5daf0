/-
# Requests that are answered once

The requests of a session wait in a queue until a worker handles them.  While no queue is full and
the session is there, every request that was read has been handled once or waits, and the one
answer to it is queued when it is handled, unless the login is ignored, the handler throws, or the
text of the answer is too long.
-/
import Mathlib.Algebra.BigOperators.Group.Finset.Basic
import WeChat.Chat.Drain
import WeChat.Chat.StepReplies

namespace WeChat

open Wire Transition Json LogicSystem

/-! ## What waits -/

/-- How often a request waits in the queues of the server of a connection. -/
def waiting (cfg : Config) (c : Conn) (s : State) (node : LogicNode) : ℕ :=
  ∑ i ∈ Finset.range (cfg.workerCount c.srv), (s.queues c.srv i).count node

/-- A login never waits, and a request of the connection waits in a queue of its server that has
a worker. -/
structure Placed (cfg : Config) (c : Conn) (s : State) : Prop where
  login : ∀ S i, ∀ node ∈ s.queues S i, node._id ≠ idChatLogin
  worker : ∀ S i, ∀ node ∈ s.queues S i, node._session = c → S = c.srv ∧ i < cfg.workerCount c.srv

section Waiting

variable {cfg : Config} {s s' : State} {c : Conn} {e : Event} {node node' : LogicNode} {S i : ℕ}

/-- What an event does to the queues: it posts a node, it takes one, or it leaves them alone, and
then it handles the request that it reads at once. -/
lemma queues_cases (c : Conn) (h : step cfg s e = some s') :
    (∃ node bytes env, e = .read node._session bytes env ∧ s.posted e = some node ∧
      s.completed node._session bytes = some (node._id, node._body) ∧ node._id ≠ idChatLogin ∧
      s' = State.postMsgToQueue cfg { s with reg := s.reg.readDone node._session bytes } node) ∨
    (∃ S i alive env node queue, e = .work S i alive env ∧ s.queues S i = node :: queue ∧
      s'.queues = Function.update s.queues S (Function.update (s.queues S) i queue)) ∨
    (s.handles c e = s.asks c e ∧ s'.queues = s.queues) := by
  cases e with
  | read c' bytes env =>
    cases hposted : s.posted (.read c' bytes env) with
    | none =>
      refine .inr (.inr ⟨?_, queues_of_not_posted hposted h⟩)
      rw [State.handles, hposted]
      rfl
    | some node =>
      obtain ⟨bytes', env', heq, hm, hlogin, hs'⟩ := step_posted hposted h
      exact .inl ⟨node, bytes', env', heq, rfl, hm, hlogin, hs'⟩
  | work S i alive env =>
    obtain ⟨node, queue, base, done, hqueue, rfl, -, ⟨-, rfl⟩ | ⟨-, rfl⟩⟩ := step_take h
    · exact .inr (.inl ⟨S, i, alive, env, node, queue, rfl, hqueue, rfl⟩)
    · exact .inr (.inl ⟨S, i, alive, env, node, queue, rfl, hqueue, rfl⟩)
  | accept c' =>
    obtain ⟨reg, rfl⟩ := step_ends h (.inl rfl)
    exact .inr (.inr ⟨rfl, rfl⟩)
  | readError c' ec =>
    obtain ⟨reg, rfl⟩ := step_ends h (.inr (.inl ⟨ec, rfl⟩))
    exact .inr (.inr ⟨rfl, rfl⟩)
  | writeError c' =>
    obtain ⟨reg, rfl⟩ := step_ends h (.inr (.inr rfl))
    exact .inr (.inr ⟨rfl, rfl⟩)
  | deliver S env =>
    obtain ⟨text, texts, -, rfl⟩ := step_deliver h
    exact .inr (.inr ⟨rfl, rfl⟩)

lemma mem_queues_posted (h : node ∈ (s.postMsgToQueue cfg node').queues S i) :
    node ∈ s.queues S i ∨ node = node' ∧ S = node._session.srv ∧
      i = getQueueIndex cfg S (s.reg.session node._session)._uid := by
  rcases queues_posted cfg s node' S i with heq | ⟨heq, hS, hi⟩
  · exact .inl (heq ▸ h)
  · rw [heq] at h
    rcases List.mem_append.1 h with hold | hnew
    · exact .inl hold
    · obtain rfl := List.mem_singleton.1 hnew
      exact .inr ⟨rfl, hS, hi⟩

/-- A step keeps every request where its worker finds it. -/
lemma placed_step (hcount : 0 < cfg.workerCount c.srv) (hplaced : Placed cfg c s)
    (h : step cfg s e = some s') : Placed cfg c s' := by
  rcases queues_cases c h with ⟨posted, bytes, env, -, -, -, hlogin, rfl⟩ |
    ⟨S, i, alive, env, taken, queue, -, hqueue, heq⟩ | ⟨-, heq⟩
  · constructor
    · intro S i node hmem
      rcases mem_queues_posted hmem with hold | ⟨rfl, -, -⟩
      · exact hplaced.login S i node hold
      · exact hlogin
    · rintro S i node hmem rfl
      rcases mem_queues_posted hmem with hold | ⟨-, rfl, rfl⟩
      · exact hplaced.worker S i node hold rfl
      · exact ⟨rfl, Workers.getQueueIndex_lt hcount⟩
  · have hsub : ∀ S' i', ∀ node ∈ s'.queues S' i', node ∈ s.queues S' i' := by
      intro S' i' node hmem
      rw [heq, update_update_apply] at hmem
      split_ifs at hmem with hsame
      · obtain ⟨rfl, rfl⟩ := hsame
        rw [hqueue]
        exact List.mem_cons_of_mem _ hmem
      · exact hmem
    exact ⟨fun S' i' node hmem => hplaced.login S' i' node (hsub S' i' node hmem),
      fun S' i' node hmem => hplaced.worker S' i' node (hsub S' i' node hmem)⟩
  · exact ⟨by rw [heq]; exact hplaced.login, by rw [heq]; exact hplaced.worker⟩

/-- Only one queue changes. -/
lemma waiting_of_ne (hi : i < cfg.workerCount c.srv)
    (hne : ∀ j, j ≠ i → s'.queues c.srv j = s.queues c.srv j) (node : LogicNode) :
    waiting cfg c s' node + (s.queues c.srv i).count node =
      waiting cfg c s node + (s'.queues c.srv i).count node := by
  have hmem : i ∈ Finset.range (cfg.workerCount c.srv) := Finset.mem_range.2 hi
  have hrest : ∑ j ∈ (Finset.range (cfg.workerCount c.srv)).erase i,
      (s'.queues c.srv j).count node =
      ∑ j ∈ (Finset.range (cfg.workerCount c.srv)).erase i, (s.queues c.srv j).count node :=
    Finset.sum_congr rfl fun j hj => by rw [hne j (Finset.ne_of_mem_erase hj)]
  have hsum := Finset.add_sum_erase _ (fun j => (s.queues c.srv j).count node) hmem
  have hsum' := Finset.add_sum_erase _ (fun j => (s'.queues c.srv j).count node) hmem
  rw [waiting, waiting, ← hsum, ← hsum', hrest]
  omega

lemma waiting_congr (h : ∀ i, (s'.queues c.srv i).count node = (s.queues c.srv i).count node) :
    waiting cfg c s' node = waiting cfg c s node :=
  Finset.sum_congr rfl fun i _ => h i

/-- A node that is posted is added to one queue, and others keep their number. -/
lemma waiting_post (hcount : 0 < cfg.workerCount c.srv) (hsession : node._session = c)
    (hroom : node' = node →
      (s.queues c.srv (getQueueIndex cfg c.srv (s.reg.session c)._uid)).length ≤ queueMaxSize) :
    waiting cfg c (s.postMsgToQueue cfg node') node =
      waiting cfg c s node + if node' = node then 1 else 0 := by
  by_cases hnode : node' = node
  · subst hnode hsession
    obtain ⟨hself, hne⟩ := Workers.queues_postMsgToQueue cfg s rfl rfl (hroom rfl)
    have hsum := waiting_of_ne (Workers.getQueueIndex_lt hcount) hne node'
    rw [hself, List.count_append, List.count_singleton_self] at hsum
    rw [if_pos rfl]
    omega
  · rw [if_neg hnode, Nat.add_zero]
    refine waiting_congr fun i => ?_
    rcases queues_posted cfg s node' c.srv i with heq | ⟨heq, -, -⟩
    · rw [heq]
    · have hzero : [node'].count node = 0 :=
        List.count_eq_zero.2 fun hmem => hnode (List.mem_singleton.1 hmem).symm
      rw [heq, List.count_append, hzero, Nat.add_zero]

/-- A node that is taken leaves one queue, and others keep their number. -/
lemma waiting_take {queue : List LogicNode} (hplaced : Placed cfg c s)
    (hqueue : s.queues S i = node' :: queue) (hsession : node._session = c)
    (heq : s'.queues = Function.update s.queues S (Function.update (s.queues S) i queue)) :
    waiting cfg c s node = waiting cfg c s' node + if node' = node then 1 else 0 := by
  by_cases hnode : node' = node
  · subst hnode
    obtain ⟨rfl, hi⟩ := hplaced.worker S i node' (hqueue ▸ List.mem_cons_self) hsession
    have hne : ∀ j, j ≠ i → s'.queues c.srv j = s.queues c.srv j := fun j hj => by
      rw [heq, update_update_apply, if_neg fun hsame => hj hsame.2]
    have hsum := waiting_of_ne hi hne node'
    rw [heq, update_update_apply, if_pos ⟨rfl, rfl⟩, hqueue, List.count_cons_self] at hsum
    rw [if_pos rfl]
    omega
  · rw [if_neg hnode, Nat.add_zero]
    refine (waiting_congr fun j => ?_).symm
    rw [heq, update_update_apply]
    split_ifs with hsame
    · obtain ⟨rfl, rfl⟩ := hsame
      rw [hqueue, List.count_cons_of_ne hnode]
    · rfl

lemma count_toList (o : Option LogicNode) (node : LogicNode) :
    o.toList.count node = if o = some node then 1 else 0 := by
  cases o with
  | none => rfl
  | some node' => simp [List.count_singleton, beq_iff_eq]

/-- The request that a step reads is the node that it posts. -/
lemma asks_eq_some_iff {bytes : Bytes} {env : Env}
    (hm : s.completed node'._session bytes = some (node'._id, node'._body))
    (hsession : node._session = c) (hrequest : node.IsRequest) :
    s.asks c (.read node'._session bytes env) = some node ↔ node' = node := by
  by_cases hc : node'._session = c
  · subst hc
    rw [asks_read hm, Option.ite_none_right_eq_some, Option.some.injEq]
    exact ⟨fun hnode => hnode.2, fun hnode => ⟨hnode ▸ hrequest, hnode⟩⟩
  · have hnone : s.asks c (.read node'._session bytes env) = none := if_neg hc
    rw [hnone]
    exact iff_of_false (by simp) fun hnode => hc (hnode ▸ hsession)

lemma handles_eq_some_iff {alive : Bool} {env : Env} {queue : List LogicNode}
    (hqueue : s.queues S i = node' :: queue) (hsession : node._session = c)
    (hrequest : node.IsRequest) :
    s.handles c (.work S i alive env) = some node ↔ node' = node := by
  rw [handles_work hqueue, Option.ite_none_right_eq_some, Option.some.injEq]
  exact ⟨fun hnode => hnode.2, fun hnode => ⟨hnode ▸ ⟨hsession, hrequest⟩, hnode⟩⟩

/-- **A request that is read is handled, or it waits.** -/
lemma asked_step (hcount : 0 < cfg.workerCount c.srv) (hplaced : Placed cfg c s)
    (hkept : Kept cfg c s e) (hsession : node._session = c) (hrequest : node.IsRequest)
    (h : step cfg s e = some s') :
    (s.asks c e).toList.count node + waiting cfg c s node =
      (s.handles c e).toList.count node + waiting cfg c s' node := by
  rcases queues_cases c h with ⟨posted, bytes, env, rfl, hposted, hm, -, rfl⟩ |
    ⟨S, i, alive, env, taken, queue, rfl, hqueue, heq⟩ | ⟨hsame, heq⟩
  · have hhandles : s.handles c (.read posted._session bytes env) = none := by
      rw [State.handles, hposted]
      rfl
    have hroom : posted = node → (s.queues c.srv (getQueueIndex cfg c.srv
        ((s.reg.readDone posted._session bytes).session c)._uid)).length ≤ queueMaxSize := by
      rintro rfl
      subst hsession
      rw [(user_readDone s.reg posted._session bytes).2]
      exact hkept posted hposted rfl
    rw [hhandles, count_toList, waiting_post hcount hsession hroom]
    simp only [asks_eq_some_iff hm hsession hrequest]
    exact (Nat.add_comm _ _).trans (Nat.zero_add _).symm
  · have hasks : s.asks c (.work S i alive env) = none := rfl
    rw [hasks, Option.toList_none, List.count_nil, count_toList,
      waiting_take hplaced hqueue hsession heq]
    simp only [handles_eq_some_iff hqueue hsession hrequest]
    omega
  · rw [hsame, waiting_congr fun i => by rw [heq]]

end Waiting

/-! ## Runs -/

/-- A run, with the requests that it has read on a connection, and for each step the request that
it has handled and the frames that it has queued under the identifiers of answers. -/
structure Ledger where
  state : State
  asked : List LogicNode
  steps : List (Option LogicNode × List Frame)

namespace Ledger

def init (db : Database) : Ledger := ⟨.init db, [], []⟩

/-- One event. -/
def step (cfg : Config) (c : Conn) (l : Ledger) (e : Event) : Option Ledger :=
  (WeChat.step cfg l.state e).map fun s =>
    { state := s
      asked := l.asked ++ (l.state.asks c e).toList
      steps := l.steps ++ [(l.state.handles c e, framesTo cfg c l.state e)] }

/-- A request was read as often as it was handled and waits. -/
def Handled (cfg : Config) (c : Conn) (l : Ledger) : Prop :=
  ∀ node, node._session = c → node.IsRequest →
    l.asked.count node = (l.steps.filterMap Prod.fst).count node + waiting cfg c l.state node

/-- Every request that was read has been handled once or waits, and each was answered once when it
was handled. -/
structure AnsweredOnce (cfg : Config) (c : Conn) (l : Ledger) : Prop where
  handled : l.Handled cfg c
  answered : ∀ a ∈ l.steps, Answered cfg a.1 a.2

/-- What holds of a run whose steps are kept, whatever is answered. -/
structure Orderly (cfg : Config) (c : Conn) (l : Ledger) : Prop where
  short : l.state.reg.Short
  placed : Placed cfg c l.state
  handled : l.Handled cfg c

section Runs

variable {cfg : Config} {c : Conn} {db : Database} {es : List Event} {l l' : Ledger} {e : Event}

lemma map_step (l : Ledger) (e : Event) :
    (step cfg c l e).map Ledger.state = WeChat.step cfg l.state e := by
  rw [step, Option.map_map]
  exact Option.map_id_apply

lemma orderly_init (cfg : Config) (c : Conn) (db : Database) : Orderly cfg c (.init db) where
  short _ _ _ hread := by cases hread
  placed := ⟨fun _ _ _ hmem => absurd hmem List.not_mem_nil,
    fun _ _ _ hmem => absurd hmem List.not_mem_nil⟩
  handled node _ _ := by
    have hnone : waiting cfg c (.init db) node = 0 := Finset.sum_eq_zero fun _ _ => rfl
    show 0 = 0 + waiting cfg c (.init db) node
    rw [hnone]

lemma orderly_step (hcount : 0 < cfg.workerCount c.srv) (hl : l.Orderly cfg c)
    (hkept : Kept cfg c l.state e) (h : step cfg c l e = some l') : l'.Orderly cfg c := by
  obtain ⟨s, hs, rfl⟩ := Option.map_eq_some_iff.1 h
  refine ⟨?_, placed_step hcount hl.placed hs, fun node hsession hrequest => ?_⟩
  · show s.reg.Short
    rw [(reg_step hs).2]
    exact short_apply hl.short _
  · have hstep := asked_step hcount hl.placed hkept hsession hrequest hs
    have hbefore := hl.handled node hsession hrequest
    have hone : [(l.state.handles c e, framesTo cfg c l.state e)].filterMap Prod.fst =
        (l.state.handles c e).toList := by
      cases l.state.handles c e with
      | none => rfl
      | some node => rfl
    show (l.asked ++ _).count node =
      ((l.steps ++ _).filterMap Prod.fst).count node + waiting cfg c s node
    rw [List.filterMap_append, hone, List.count_append, List.count_append]
    omega

/-- An event allows an answer, and its text is short enough. -/
def Repliable (cfg : Config) (c : Conn) (s : State) (e : Event) : Prop :=
  Answerable cfg c s e ∧ ReplyFits cfg c s e

/-- The requests of a run are answered exactly when every step allows it. -/
lemma answered_iff (hcount : 0 < cfg.workerCount c.srv)
    (hrun : run (step cfg c) (.init db) es = some l)
    (hkept : AllSteps (WeChat.step cfg) (Kept cfg c) (.init db) es) :
    (∀ a ∈ l.steps, Answered cfg a.1 a.2) ↔
      AllSteps (WeChat.step cfg) (Repliable cfg c) (.init db) es := by
  have hknown : AllSteps (step cfg c) (fun l e => Kept cfg c l.state e) (.init db) es :=
    (allSteps_map_iff map_step).2 hkept
  have hexact : ∀ l e l', l.Orderly cfg c → Kept cfg c l.state e → step cfg c l e = some l' →
      ((∀ a ∈ l'.steps, Answered cfg a.1 a.2) ↔
        (∀ a ∈ l.steps, Answered cfg a.1 a.2) ∧ Repliable cfg c l.state e) := by
    intro l e l' hl hkept h
    obtain ⟨s, hs, rfl⟩ := Option.map_eq_some_iff.1 h
    rw [Repliable, ← answered_step_iff hl.short hl.placed.login hkept hs]
    exact List.forall_mem_append.trans (and_congr_right fun _ => List.forall_mem_singleton)
  have hiff := final_iff_allSteps_of (fun l e l' hl hkept => orderly_step hcount hl hkept) hexact
    hrun hknown (orderly_init cfg c db)
  rw [allSteps_map_iff map_step] at hiff
  exact hiff.trans (and_iff_right fun a ha => absurd ha List.not_mem_nil)

/-- **Requests are answered once, up to ignored logins, failed conversions and long answers.**
While no queue is full and the session is there, every request that was read has been handled once
or waits, and one frame with its answer was queued when it was handled, exactly when no login lacks
fields, no worker takes a request whose handler throws, and every answer is short enough for `send`
or a `catch` answers in its place. -/
theorem answeredOnce_iff (hcount : 0 < cfg.workerCount c.srv)
    (hrun : run (step cfg c) (.init db) es = some l)
    (hkept : AllSteps (WeChat.step cfg) (Kept cfg c) (.init db) es) :
    l.AnsweredOnce cfg c ↔ AllSteps (WeChat.step cfg) (Repliable cfg c) (.init db) es := by
  rw [← answered_iff hcount hrun hkept]
  have hknown : AllSteps (step cfg c) (fun l e => Kept cfg c l.state e) (.init db) es :=
    (allSteps_map_iff map_step).2 hkept
  have horderly : l.Orderly cfg c := run_induction
    (fun l e l' hl hkept => orderly_step hcount hl hkept) hrun hknown (orderly_init cfg c db)
  exact ⟨AnsweredOnce.answered, fun hanswered => ⟨horderly.handled, hanswered⟩⟩

/-! ### Two runs -/

/-- The answers of a run fit when all its texts do. -/
lemma replyFits_of_run {s t : State} (hrun : run (WeChat.step cfg) s es = some t)
    (hfits : ∀ x ∈ t.sent, Fitting cfg.codec x.2.2) :
    AllSteps (WeChat.step cfg) (ReplyFits cfg c) s es := by
  induction es generalizing s with
  | nil => trivial
  | cons e es ih =>
    obtain ⟨s', hstep, hrun'⟩ := run_cons_inv hrun
    have hpre : s'.sent <+: t.sent := run_invariant (I := fun r : State => s'.sent <+: r.sent)
      (fun _ _ _ hr h => hr.trans (isPrefix_sent h)) hrun' List.prefix_rfl
    have hcalls : ∀ x ∈ s.calls cfg e, Fitting cfg.codec x.2.2 := fun x hx =>
      hfits x (hpre.subset (List.mem_of_mem_drop (calls_of_step hstep ▸ hx)))
    refine .cons hstep (fun call hcall => .inl ⟨fun x hx => ?_, ?_⟩) (ih hrun')
    · rw [frameOf_of_fitting (hcalls x ((List.takeWhile_sublist _).subset hx))]
      exact Option.some_ne_none _
    · exact hcalls call (List.mem_of_find?_eq_some hcall)

lemma exists_run {s : State} (hrun : run (WeChat.step cfg) (.init db) es = some s) :
    ∃ l, run (step cfg c) (.init db) es = some l := by
  have hpart : (run (step cfg c) (.init db) es).map Ledger.state =
      run (WeChat.step cfg) (.init db) es := run_map map_step (.init db) es
  rw [hrun] at hpart
  obtain ⟨l, hl, -⟩ := Option.map_eq_some_iff.1 hpart
  exact ⟨l, hl⟩

lemma kept_of_empty {s : State} (h : ∀ S i, s.queues S i = []) (e : Event) : Kept cfg c s e := by
  cases e with
  | read c' bytes env =>
    intro node _ _
    rw [h]
    exact Nat.zero_le _
  | work S i alive env =>
    intro node hnode
    rw [h] at hnode
    cases hnode
  | accept c' => trivial
  | readError c' ec => trivial
  | writeError c' => trivial
  | deliver S env => trivial

section Login

variable {s : State} {msgBody : Bytes} {env : Env}

/-- A login on a new connection. -/
def loginOn (c : Conn) (msgBody : Bytes) (env : Env) : List Event :=
  .accept c :: received c idChatLogin msgBody env

lemma step_accept (hnew : (s.reg.session c).accepted = false) :
    WeChat.step cfg s (.accept c) = some { s with reg := s.reg.accept c } := by
  simp only [WeChat.step, hnew]
  rfl

lemma reading_accept : ((s.reg.accept c).session c).reading = .head := by
  rw [Registry.session_accept, if_pos rfl]

lemma kept_loginOn (hempty : ∀ S i, s.queues S i = [])
    (hnew : (s.reg.session c).accepted = false) (hfits : Fits msgBody) :
    AllSteps (WeChat.step cfg) (Kept cfg c) s (loginOn c msgBody env) :=
  .cons (step_accept hnew) (kept_of_empty hempty _)
    (allSteps_received reading_accept (by decide) hfits (kept_of_empty (by exact hempty) _)
      (kept_of_empty (by exact hempty) _))

/-- The login is answered when it is not ignored. -/
lemma answerable_loginOn_iff (hnew : (s.reg.session c).accepted = false) (hfits : Fits msgBody) :
    AllSteps (WeChat.step cfg) (Answerable cfg c) s (loginOn c msgBody env) ↔
      CSession.loginRequest (cfg.codec.parse msgBody) ≠ .ignored := by
  constructor
  · rintro ⟨-, hall⟩
    obtain ⟨-, hall⟩ := hall _ (step_accept hnew)
    obtain ⟨hbody, -⟩ := hall _ (step_header reading_accept (by decide) hfits)
    refine hbody rfl (idChatLogin, msgBody) ?_ rfl
    rw [State.completed, reading_awaiting]
    rfl
  · intro hfields
    refine .cons (step_accept hnew) trivial
      (allSteps_received reading_accept (by decide) hfits ?_ ?_)
    · intro _ m hm
      rw [State.completed, reading_accept, onRead_header (by decide) hfits] at hm
      cases hm
    · intro _ m hm _
      rw [State.completed, reading_awaiting] at hm
      obtain rfl := Option.some.inj hm
      exact hfields

end Login

end Runs

/-- A client logs in and asks for its friends without a body. -/
def askFriends : List Event :=
  connect compactConfig client₁ 1 "t" noDatabase ++
    [.read client₁ [3, 254, 0, 0] noDatabase, .work 0 1 true noDatabase]

/-- The login and the request are answered once, the request with an error. -/
theorem answeredOnce_askFriends :
    ∃ l, run (step compactConfig client₁) (.init MySQLMgr.twoUsers) askFriends = some l ∧
      l.AnsweredOnce compactConfig client₁ := by
  have hfits : Fits (loginBody compactConfig 1 "t") := ⟨by decide, by decide⟩
  obtain ⟨s₁, hconnect, hread, hauth, huid, hempty, hgreeted⟩ : ∃ s₁,
      run (WeChat.step compactConfig) (.init MySQLMgr.twoUsers)
        (connect compactConfig client₁ 1 "t" noDatabase) = some s₁ ∧
      (s₁.reg.session client₁).reading = .head ∧
      (s₁.reg.session client₁)._isAuthenticated = true ∧ (s₁.reg.session client₁)._uid = 1 ∧
      (∀ S i, s₁.queues S i = []) ∧ s₁.sent = greeting client₁ "t" :=
    ⟨_, run_connect_noDatabase rfl (by decide) (by decide) hfits, rfl, rfl, rfl, fun _ _ => rfl,
      rfl⟩
  have hm : s₁.completed client₁ [3, 254, 0, 0] = some (1022, []) := by
    rw [State.completed, hread]
    decide
  have hposted : s₁.posted (.read client₁ [3, 254, 0, 0] noDatabase) = some ⟨1022, [], client₁⟩ :=
    posted_of_authenticated hm hauth (by decide) (by decide)
  -- the request waits for the worker of its user
  obtain ⟨s₂, h₂⟩ : ∃ s₂, WeChat.step compactConfig s₁
      (.read client₁ [3, 254, 0, 0] noDatabase) = some s₂ := by
    simp only [WeChat.step, hread]
    exact ⟨_, rfl⟩
  have hwaits : s₂.sent = greeting client₁ "t" := by
    obtain ⟨bytes, env, -, -, -, rfl⟩ := step_posted hposted h₂
    obtain ⟨queues, heq, -⟩ := State.postMsgToQueue_spec compactConfig
      { s₁ with reg := s₁.reg.readDone client₁ bytes } ⟨1022, [], client₁⟩
    rw [heq]
    exact hgreeted
  have hqueue : s₂.queues 0 1 = [⟨1022, [], client₁⟩] := by
    obtain ⟨bytes, env, -, -, -, rfl⟩ := step_posted hposted h₂
    have hindex : getQueueIndex compactConfig 0
        ((s₁.reg.readDone client₁ bytes).session client₁)._uid = 1 := by
      rw [(user_readDone s₁.reg client₁ bytes).2, huid]
      rfl
    obtain ⟨hself, -⟩ := Workers.queues_postMsgToQueue compactConfig
      { s₁ with reg := s₁.reg.readDone client₁ bytes }
      (show (LogicNode.mk 1022 [] client₁)._session.srv = 0 from rfl) hindex
      (by rw [hempty]; exact Nat.zero_le _)
    rw [hself, hempty]
    rfl
  obtain ⟨s₃, h₃, -⟩ := Workers.step_work compactConfig hqueue true noDatabase
  have hrun : run (WeChat.step compactConfig) (.init MySQLMgr.twoUsers) askFriends = some s₃ := by
    rw [askFriends, run_append_of hconnect, run_cons h₂, run_cons h₃, run_nil]
  obtain ⟨l, hl⟩ := exists_run (c := client₁) hrun
  -- it is answered with an error
  have hsent : s₃.sent = greeting client₁ "t" ++
      [(client₁, idFriendListRsp, object [("error", .num ErrorCodes.errorJson.code)])] := by
    obtain ⟨node, queue, hnode, hs₃⟩ := sent_work h₃
    obtain ⟨rfl, rfl⟩ := List.cons.inj (hqueue.symm.trans hnode)
    rw [hs₃, hwaits]
    rfl
  have hshort : ∀ x ∈ s₃.sent, Fitting compactConfig.codec x.2.2 := by
    rw [hsent]
    decide
  refine ⟨l, hl, (answeredOnce_iff (by decide) hl ?_).2 (.and ?_ (replyFits_of_run hrun hshort))⟩
  · refine AllSteps.append (kept_loginOn (fun _ _ => rfl) rfl hfits) hconnect
      (.cons h₂ (kept_of_empty hempty _) (.cons h₃ ?_ trivial))
    intro node _ _
    rfl
  · refine AllSteps.append ((answerable_loginOn_iff rfl hfits).2 ?_) hconnect
      (.cons h₂ ?_ (.cons h₃ ?_ trivial))
    · rw [CSession.loginRequest_loginBody (by decide)]
      exact LoginRequest.noConfusion
    · intro _ m hm' hlogin
      obtain rfl := Option.some.inj (hm.symm.trans hm')
      cases hlogin
    · -- the handler of this request catches what is thrown
      intro node hnode _ fields hschema
      rw [hqueue] at hnode
      obtain rfl := Option.some.inj hnode
      cases hschema

/-- A login without a uid and a token is not answered. -/
theorem not_answeredOnce_emptyLogin :
    ¬ ∀ (cfg : Config) (c : Conn) (db : Database) (es : List Event) (l : Ledger),
      0 < cfg.workerCount c.srv → run (step cfg c) (.init db) es = some l →
      AllSteps (WeChat.step cfg) (Kept cfg c) (.init db) es → l.AnsweredOnce cfg c := by
  intro h
  have hfits : Fits (compactConfig.codec.dump (object [])) := ⟨by decide, by decide⟩
  have hkept : AllSteps (WeChat.step compactConfig) (Kept compactConfig client₁)
      (.init MySQLMgr.twoUsers)
      (loginOn client₁ (compactConfig.codec.dump (object [])) noDatabase) :=
    kept_loginOn (fun _ _ => rfl) rfl hfits
  have hrun : ∃ s, run (WeChat.step compactConfig) (.init MySQLMgr.twoUsers)
      (loginOn client₁ (compactConfig.codec.dump (object [])) noDatabase) = some s :=
    ⟨_, by rw [loginOn, run_cons (step_accept rfl), run_received reading_accept (by decide) hfits]⟩
  obtain ⟨s, hrun⟩ := hrun
  obtain ⟨l, hl⟩ := exists_run (c := client₁) hrun
  have hanswered := (h _ _ _ _ l (by decide) hl hkept).answered
  have hall := ((answered_iff (by decide) hl hkept).1 hanswered).mono fun _ _ h => h.1
  refine (answerable_loginOn_iff rfl hfits).1 hall ?_
  rw [compactConfig.codec.parse_dump (wf_object (by simp))]
  rfl

end Ledger

end WeChat
