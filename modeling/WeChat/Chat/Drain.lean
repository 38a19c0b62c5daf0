/-
# Messages that are in a queue at shutdown

A message that is in its queue before the worker of the queue has left the drain is passed to
`handleMsg`.  A node has only a weak reference to its session, so `handleMsg` calls the handler
when the session is still there, and otherwise it returns without a trace.
-/
import WeChat.Chat.Workers

namespace WeChat

open Transition Shard

namespace LogicSystem

namespace Workers

section Drain

variable {cfg : Config} {S : ℕ} {s s₀ s' : Workers} {m : Posted} {es es₀ : List WorkerEvent}

lemma getQueueIndex_lt {uid : ℤ} (h : 0 < cfg.workerCount S) :
    getQueueIndex cfg S uid < cfg.workerCount S := by
  rw [getQueueIndex]
  split_ifs
  · exact h
  · exact Nat.mod_lt _ h

/-- A message has been passed to `handleMsg`, or a worker will still find it. -/
def Due (cfg : Config) (S : ℕ) (m : Posted) (s : Workers) : Prop :=
  m ∈ s.handled ∨ m ∈ s.untaken (index cfg S m) ∧ s.worker (index cfg S m) ≠ .exited

lemma Inv.due (h : Inv cfg S s) (hm : m ∈ s.enqueued)
    (hworker : s.worker (index cfg S m) ≠ .exited) : Due cfg S m s := by
  have hpart : m ∈ part (index cfg S) (index cfg S m) s.enqueued := mem_part.2 ⟨hm, rfl⟩
  rw [← (h.lane _).fifo] at hpart
  rcases List.mem_append.1 hpart with hhandled | huntaken
  · exact .inl (mem_part.1 hhandled).1
  · exact .inr ⟨huntaken, hworker⟩

/-- A worker exits only when it has left nothing in its queue. -/
lemma exited_cases {i : ℕ} (he : Effect cfg S s s') (hexit : s'.worker i = .exited) :
    s.worker i = .exited ∨ s.untaken i = [] := by
  have hupdate : ∀ {j w}, Function.update s.worker j w i = .exited →
      s.worker i = .exited ∨ i = j ∧ w = .exited := by
    intro j w hw
    by_cases hij : i = j
    · subst hij
      rw [Function.update_self] at hw
      exact .inr ⟨rfl, hw⟩
    · rw [Function.update_of_ne hij] at hw
      exact .inl hw
  have hplace : ∀ {j w}, Function.update s.worker j w i = .exited → w ≠ .exited →
      s.worker i = .exited ∨ s.untaken i = [] := fun hw hne =>
    (hupdate hw).imp_right fun h => absurd h.2 hne
  cases he with
  | idle session posting stop hsession => exact .inl hexit
  | emplace posting m hlocks hlength hseq => exact .inl hexit
  | move j w hbefore hafter =>
    rcases hupdate hexit with hworker | ⟨rfl, rfl⟩
    · exact .inl hworker
    · have hempty : s.queues i = [] := by simpa using hafter
      exact .inr (by rw [untaken, (before_move hbefore _).1, hempty])
  | pop j m queue hworker hqueue => exact hplace hexit (by simp)
  | drain j m queue hworker hqueue => exact hplace hexit (by simp)
  | getSession j m inDrain hworker => exact hplace hexit (by simp)
  | drained j m hworker => exact hplace hexit (by simp)

/-- No step loses a message that is due. -/
lemma due_step (h : Due cfg S m s) (he : Effect cfg S s s') : Due cfg S m s' := by
  rcases h with hhandled | ⟨hm, hworker⟩
  · -- what has been handled stays so
    left
    rcases untaken_cases he with ⟨-, heq⟩ | ⟨m', -, heq, -⟩ | ⟨i, m', queue, -, heq, -⟩
    · rwa [heq]
    · rwa [heq]
    · rw [heq]
      exact List.mem_append_left _ hhandled
  · have hworker' : s'.worker (index cfg S m) ≠ .exited := by
      intro hexit
      rcases exited_cases he hexit with hexit' | hempty
      · exact hworker hexit'
      · rw [hempty] at hm
        cases hm
    rcases untaken_cases he with ⟨heq, -⟩ | ⟨m', -, -, -, heq⟩ | ⟨i, m', queue, hqueue, heq, heq'⟩
    · exact .inr ⟨heq ▸ hm, hworker'⟩
    · refine .inr ⟨?_, hworker'⟩
      rw [heq]
      by_cases hindex : index cfg S m = index cfg S m'
      · rw [hindex, Function.update_self]
        exact List.mem_append_left _ (hindex ▸ hm)
      · rwa [Function.update_of_ne hindex]
    · by_cases hindex : index cfg S m = i
      · -- the message is the one that is taken, or it stays behind it
        rw [hindex, hqueue] at hm
        rcases List.mem_cons.1 hm with rfl | hm
        · exact .inl (by rw [heq]; exact List.mem_append_right _ (List.mem_singleton.2 rfl))
        · exact .inr ⟨by rwa [heq', hindex, Function.update_self], hworker'⟩
      · exact .inr ⟨by rwa [heq', Function.update_of_ne hindex], hworker'⟩

/-- A message that was found without its session, or that has lost it and was not looked at. -/
lemma session_step (he : Effect cfg S s s') {c : Conn} (h : s.session c = none) :
    s'.session c = none := by
  cases he with
  | idle session posting stop hsession => exact hsession c h
  | emplace posting m hlocks hlength hseq => exact h
  | move i w hbefore hafter => exact h
  | pop i m queue hworker hqueue => exact h
  | drain i m queue hworker hqueue => exact h
  | getSession i m inDrain hworker => exact h
  | drained i m hworker => exact h

/-- The calls of `getSession` after a step. -/
lemma called_cases (he : Effect cfg S s s') :
    s'.called = s.called ∨
      ∃ m, s'.called = s.called ++ [(m, (s.session m.node._session).isSome)] := by
  cases he with
  | idle session posting stop hsession => exact .inl rfl
  | emplace posting m hlocks hlength hseq => exact .inl rfl
  | move i w hbefore hafter => exact .inl rfl
  | pop i m queue hworker hqueue => exact .inl rfl
  | drain i m queue hworker hqueue => exact .inl rfl
  | getSession i m inDrain hworker => exact .inr ⟨m, rfl⟩
  | drained i m hworker => exact .inl rfl

/-- A session that was not there is gone for good. -/
lemma gone_step (h : ∀ m, (m, false) ∈ s.called → s.session m.node._session = none)
    (he : Effect cfg S s s') (m : Posted) (hm : (m, false) ∈ s'.called) :
    s'.session m.node._session = none := by
  refine session_step he ?_
  rcases called_cases he with heq | ⟨m', heq⟩
  · exact h m (heq ▸ hm)
  · rw [heq] at hm
    rcases List.mem_append.1 hm with hm | hm
    · exact h m hm
    · obtain ⟨rfl, hnone⟩ := Prod.mk.inj (List.mem_singleton.1 hm)
      exact Option.not_isSome_iff_eq_none.1 (by rw [← hnone]; decide)

/-- Nothing finds a session that is gone. -/
lemma lost_step (h : s.session m.node._session = none ∧ (m, true) ∉ s.called)
    (he : Effect cfg S s s') : s'.session m.node._session = none ∧ (m, true) ∉ s'.called := by
  refine ⟨session_step he h.1, fun hm => ?_⟩
  rcases called_cases he with heq | ⟨m', heq⟩
  · exact h.2 (heq ▸ hm)
  · rw [heq] at hm
    rcases List.mem_append.1 hm with hm | hm
    · exact h.2 hm
    · obtain ⟨rfl, hsome⟩ := Prod.mk.inj (List.mem_singleton.1 hm)
      rw [h.1] at hsome
      cases hsome

/-- A message that occurs once among the calls has one answer. -/
lemma filter_called {called : List (Posted × Bool)} (h : (called.map Prod.fst).count m = 1) :
    ∃ found, called.filter (fun e => e.1 = m) = [(m, found)] := by
  have hlength : (called.filter fun e => e.1 = m).length = 1 := by
    rw [← h, List.count, List.countP_map, List.countP_eq_length_filter]
    congr 1
  obtain ⟨⟨m', found⟩, heq⟩ := List.length_eq_one_iff.1 hlength
  have hmem : (m', found) ∈ called.filter fun e => e.1 = m := heq ▸ List.mem_singleton_self _
  obtain rfl : m' = m := by simpa using (List.mem_filter.1 hmem).2
  exact ⟨found, heq⟩

lemma count_invoked {found : Bool}
    (h : s.called.filter (fun e => e.1 = m) = [(m, found)]) (hid : m.node._id ∈ handlerIds) :
    s.invoked.count m = if found then 1 else 0 := by
  have hcount : s.invoked.count m =
      ((s.called.filter fun e => e.1 = m).filter fun e => e.2).length := by
    rw [invoked, List.count, List.countP_map, List.countP_filter, List.filter_filter,
      ← List.countP_eq_length_filter]
    refine List.countP_congr fun e _ => ?_
    by_cases he : e.1 = m
    · simp [he, hid]
    · simp [he]
  rw [hcount, h]
  cases found with
  | false => rfl
  | true => rfl

/-- **What was in its queue in time reaches its handler if its session is still there.**  A
message that was put in a queue before the worker of the queue exited has been passed to
`handleMsg` once when all workers have exited.  Its handler was called once if `handleMsg` found
the session, and otherwise never; it is found when the session is there at the end, and not when
the session was gone before. -/
theorem invoked_before_exit (hcount : 0 < cfg.workerCount S)
    (hrun₀ : run (step cfg S) init es₀ = some s₀) (hrun : run (step cfg S) s₀ es = some s)
    (hm : m ∈ s₀.enqueued) (hid : m.node._id ∈ handlerIds)
    (hintime : s₀.worker (index cfg S m) ≠ .exited) (hexit : s.Exited cfg S) :
    s.handled.count m = 1 ∧ ∃ found, s.called.filter (fun e => e.1 = m) = [(m, found)] ∧
      s.invoked.count m = (if found then 1 else 0) ∧
      ((s.session m.node._session).isSome → found = true) ∧
      (s₀.session m.node._session = none → m ∉ s₀.called.map Prod.fst → found = false) := by
  have hinv₀ := inv_run hrun₀
  have hinv : Inv cfg S s := inv_run ((run_append_of hrun₀).trans hrun)
  have hworker : s.worker (index cfg S m) = .exited := hexit _ (getQueueIndex_lt hcount)
  have hdue : Due cfg S m s := run_invariant (I := Due cfg S m)
    (fun _ _ _ h he => due_step h (effect_of_step he)) hrun (hinv₀.due hm hintime)
  have hhandled : m ∈ s.handled := hdue.resolve_right fun h => h.2 hworker
  have honce : s.handled.count m = 1 := List.count_eq_one_of_mem
    (nodup_of_part hinv.nodup fun i => (hinv.handled_isPrefix i).sublist) hhandled
  -- the worker has asked for the session of everything that it took
  have hcalls := (hinv.lane (index cfg S m)).calls
  rw [hworker, show WorkerState.exited.uncalled = [] from rfl, List.append_nil] at hcalls
  have hcalled : (s.called.map Prod.fst).count m = 1 := by
    have hpart : (part (index cfg S) (index cfg S m) (s.called.map Prod.fst)).count m =
      (s.called.map Prod.fst).count m := count_part
    rw [← hpart, hcalls, count_part, honce]
  obtain ⟨found, hfound⟩ := filter_called hcalled
  have hmem : (m, found) ∈ s.called :=
    (List.mem_filter.1 (hfound ▸ List.mem_singleton_self _)).1
  refine ⟨honce, found, hfound, count_invoked hfound hid, fun hsome => ?_, fun hnone hnot => ?_⟩
  · by_contra hfalse
    rw [Bool.eq_false_of_not_eq_true hfalse] at hmem
    have hgone : ∀ m, (m, false) ∈ s.called → s.session m.node._session = none :=
      run_invariant (I := fun s => ∀ m, (m, false) ∈ s.called → s.session m.node._session = none)
        (fun _ _ _ h he => gone_step h (effect_of_step he))
        ((run_append_of hrun₀).trans hrun) fun _ h => nomatch h
    rw [hgone m hmem] at hsome
    cases hsome
  · have hnever : (m, true) ∉ s₀.called := fun h => hnot (List.mem_map_of_mem h)
    have hlost := run_invariant
      (I := fun s : Workers => s.session m.node._session = none ∧ (m, true) ∉ s.called)
      (fun _ _ _ h he => lost_step h (effect_of_step he)) hrun ⟨hnone, hnever⟩
    cases found with
    | false => rfl
    | true => exact absurd hmem hlost.2

/-- User 1 posts a text. -/
def posted : List WorkerEvent :=
  [.login client₁ 1, .getUid 0 ⟨idTextChatMsgReq, [], client₁⟩, .emplace 0]

/-- `close`, and every worker leaves the loop and the drain; worker 1 drains one message. -/
def drained : List WorkerEvent :=
  [.close, .leave 0, .exit 0, .leave 1, .drain 1, .getSession 1, .finish 1, .exit 1, .leave 2,
    .exit 2, .leave 3, .exit 3]

/-- The text is handled in the drain. -/
theorem invoked_drained :
    (worked posted).enqueued.map (fun m => (worked (posted ++ drained)).handled.count m) = [1] := by
  have hrun₀ : run (step compactConfig 0) init posted = some (worked posted) :=
    run_worked (by decide)
  have hrun : run (step compactConfig 0) (worked posted) drained =
      some (worked (posted ++ drained)) := by
    rw [← run_append_of hrun₀]
    exact run_worked (by decide)
  have hmem : (⟨⟨idTextChatMsgReq, [], client₁⟩, 1, 0⟩ : Posted) ∈ (worked posted).enqueued := by
    decide
  have honce := (invoked_before_exit (by decide) hrun₀ hrun hmem (by decide) (by decide)
    (show ∀ i < 4, (worked (posted ++ drained)).worker i = .exited by decide)).1
  have henqueued : (worked posted).enqueued = [⟨⟨idTextChatMsgReq, [], client₁⟩, 1, 0⟩] := by
    decide
  rw [henqueued, List.map_singleton, honce]

/-- User 1 posts a text and disconnects before a worker has taken it. -/
def disconnected : List WorkerEvent :=
  posted ++ [.expire client₁, .wake 1, .pop 1, .getSession 1, .finish 1, .close, .leave 0, .exit 0,
    .leave 1, .exit 1, .leave 2, .exit 2, .leave 3, .exit 3]

/-- The text has a registered identifier, every worker has exited, and its handler was never
called. -/
theorem not_invoked_disconnected :
    run (step compactConfig 0) init disconnected = some (worked disconnected) ∧
      (worked disconnected).Exited compactConfig 0 ∧
      ∃ m ∈ (worked disconnected).enqueued, m.node._id ∈ handlerIds ∧
        (worked disconnected).invoked.count m = 0 :=
  ⟨run_worked (by decide),
    show ∀ i < 4, (worked disconnected).worker i = .exited by decide,
    ⟨⟨idTextChatMsgReq, [], client₁⟩, 1, 0⟩, by decide, by decide, by decide⟩

end Drain

end Workers

end LogicSystem

end WeChat
