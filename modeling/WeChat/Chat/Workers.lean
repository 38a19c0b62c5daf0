/-
# The worker threads of `LogicSystem`

One server has a fixed number of queues, a worker thread for each of them, and any number of
threads that post messages.  Here a step is what one thread does between two accesses to what
the threads share: a producer reads the uid of the session and later enters the critical section
of the queue; a worker holds the mutex while it waits for a message and takes it, and it calls
`handleMsg` after it has released the mutex.  After `close` each worker drains its queue and
keeps the mutex until the queue is empty.

The uid of a session changes with every login, so the order that the queues give is the order
for the uid that the session had when its message was posted.
-/
import WeChat.Lib.Shard
import WeChat.Chat.Runs

namespace WeChat

open Transition Shard

namespace LogicSystem

deriving instance DecidableEq for LogicNode

/-- A message that a producer has put in a queue.  The code has only the node; the uid that
chose the queue and the number of earlier messages are kept for the statements. -/
structure Posted where
  node : LogicNode
  uid : ℤ
  seq : ℕ
deriving DecidableEq

/-- Where a worker thread stands.  `inDrain` says that it has left the loop and holds the mutex
of its queue. -/
inductive WorkerState
  /-- At the head of the loop or in the wait, without the mutex. -/
  | waiting
  /-- In the critical section of the loop, where it has seen that `_isStop` is not set and that
  its queue is not empty. -/
  | popping
  /-- In `handleMsg`, before the session of the node is asked for. -/
  | taken (m : Posted) (inDrain : Bool)
  /-- In `handleMsg`, after that. -/
  | handling (m : Posted) (inDrain : Bool)
  | draining
  | exited
deriving DecidableEq

namespace WorkerState

/-- The thread holds the mutex of its queue. -/
def locks : WorkerState → Bool
  | popping => true
  | taken _ inDrain => inDrain
  | handling _ inDrain => inDrain
  | draining => true
  | _ => false

/-- The message that the thread has passed to `handleMsg`. -/
def inHand : WorkerState → Option Posted
  | taken m _ => some m
  | handling m _ => some m
  | _ => none

/-- The message whose session has not been asked for yet. -/
def uncalled : WorkerState → List Posted
  | taken m _ => [m]
  | _ => []

/-- The messages of the queue that the thread has not taken.  In the drain the first message
stays in the queue while it is handled. -/
def rest (w : WorkerState) (queue : List Posted) : List Posted :=
  match w with
  | taken _ true => queue.tail
  | handling _ true => queue.tail
  | _ => queue

/-- A thread without the mutex has taken nothing that is still in the queue. -/
lemma rest_of_not_locks {w : WorkerState} (h : w.locks = false) (queue : List Posted) :
    w.rest queue = queue := by
  cases w with
  | taken m inDrain =>
    obtain rfl : inDrain = false := h
    rfl
  | handling m inDrain =>
    obtain rfl : inDrain = false := h
    rfl
  | _ => rfl

end WorkerState

/-- The threads of the `LogicSystem` of one server. -/
structure Workers where
  /-- The uid of a session; `none` when the last reference to it is gone. -/
  session : Conn → Option ℤ
  /-- The producers between the reading of the uid and the critical section. -/
  posting : ℕ → Option (LogicNode × ℤ)
  /-- `_queues`. -/
  queues : ℕ → List Posted
  worker : ℕ → WorkerState
  _isStop : Bool
  /-- The messages in the order in which they were put in queues. -/
  enqueued : List Posted
  /-- The messages in the order in which they were passed to `handleMsg`. -/
  handled : List Posted
  /-- The calls of `LogicNode::getSession`, with the answer whether the session is there. -/
  called : List (Posted × Bool)

/-- What the threads do. -/
inductive WorkerEvent
  /-- A session is logged in under a uid. -/
  | login (c : Conn) (uid : ℤ)
  /-- The last reference to a session is dropped. -/
  | expire (c : Conn)
  /-- A thread enters `postMsgToQueue` and reads the uid of the session. -/
  | getUid (p : ℕ) (node : LogicNode)
  /-- The thread runs the critical section of `postMsgToQueue`. -/
  | emplace (p : ℕ)
  /-- A worker leaves the wait with the mutex, `_isStop` not set and a message in its queue. -/
  | wake (i : ℕ)
  /-- It takes the message and releases the mutex. -/
  | pop (i : ℕ)
  /-- A worker has seen `_isStop` and locks the mutex for the drain. -/
  | leave (i : ℕ)
  /-- In the drain it moves the first message out of the queue. -/
  | drain (i : ℕ)
  /-- `handleMsg` looks for the handler, asks for the session and calls the handler. -/
  | getSession (i : ℕ)
  /-- `handleMsg` returns. -/
  | finish (i : ℕ)
  /-- The drain has found the queue empty. -/
  | exit (i : ℕ)
  /-- `LogicSystem::close` sets `_isStop`. -/
  | close

/-- The keys of `_msgHandlers`. -/
def handlerIds : List ℤ :=
  [idFriendListReq, idSearchUserReq, idAddFriendReq, idAuthFriendReq, idTextChatMsgReq,
    idImageChatMsgReq, idGetChatHistoryReq, idCreateGroupReq, idAddGroupMemberReq,
    idRemoveGroupMemberReq, idGroupChatMsgReq, idGroupImageChatMsgReq, idGetGroupListReq,
    idGetGroupMembersReq, idGetGroupChatHistoryReq]

namespace Workers

/-- No message, and every worker waits.  A connection that has not logged in has the uid 0. -/
def init : Workers where
  session _ := some 0
  posting _ := none
  queues _ := []
  worker _ := .waiting
  _isStop := false
  enqueued := []
  handled := []
  called := []

/-- The worker of a queue goes on. -/
def goto (s : Workers) (i : ℕ) (w : WorkerState) : Workers :=
  { s with worker := Function.update s.worker i w }

/-- The handlers that were called, in this order. -/
def invoked (s : Workers) : List Posted :=
  (s.called.filter fun e => e.2 && decide (e.1.node._id ∈ handlerIds)).map Prod.fst

/-- The messages of a queue that no worker has taken. -/
def untaken (s : Workers) (i : ℕ) : List Posted := (s.worker i).rest (s.queues i)

/-- Every worker thread has returned. -/
def Exited (cfg : Config) (S : ℕ) (s : Workers) : Prop :=
  ∀ i < cfg.workerCount S, s.worker i = .exited

section Step

variable (cfg : Config) (S : ℕ)

/-- The queue of a message. -/
def index (m : Posted) : ℕ := getQueueIndex cfg S m.uid

/-- One step of one thread on the server `S`. -/
def step (s : Workers) : WorkerEvent → Option Workers
  | .login c uid =>
    if (s.session c).isSome then
      some { s with session := Function.update s.session c (some uid) }
    else none
  | .expire c => some { s with session := Function.update s.session c none }
  | .getUid p node =>
    if (s.posting p).isSome then none
    else
      let uid := (s.session node._session).getD 0
      some { s with posting := Function.update s.posting p (some (node, uid)) }
  | .emplace p =>
    match s.posting p with
    | none => none
    | some (node, uid) =>
      let queueIndex := getQueueIndex cfg S uid
      if (s.worker queueIndex).locks then none
      else
        let s := { s with posting := Function.update s.posting p none }
        if queueMaxSize < (s.queues queueIndex).length then some s
        else
          let m := ⟨node, uid, s.enqueued.length⟩
          some { s with
            queues := Function.update s.queues queueIndex (s.queues queueIndex ++ [m])
            enqueued := s.enqueued ++ [m] }
  | .wake i =>
    if i < cfg.workerCount S ∧ s.worker i = .waiting ∧ s._isStop = false ∧ s.queues i ≠ [] then
      some (s.goto i .popping)
    else none
  | .pop i =>
    match s.worker i, s.queues i with
    | .popping, m :: queue =>
      some { s.goto i (.taken m false) with
        queues := Function.update s.queues i queue
        handled := s.handled ++ [m] }
    | _, _ => none
  | .leave i =>
    if i < cfg.workerCount S ∧ s.worker i = .waiting ∧ s._isStop = true then
      some (s.goto i .draining)
    else none
  | .drain i =>
    match s.worker i, s.queues i with
    | .draining, m :: _ =>
      some { s.goto i (.taken m true) with handled := s.handled ++ [m] }
    | _, _ => none
  | .getSession i =>
    match s.worker i with
    | .taken m inDrain =>
      some { s.goto i (.handling m inDrain) with
        called := s.called ++ [(m, (s.session m.node._session).isSome)] }
    | _ => none
  | .finish i =>
    match s.worker i with
    | .handling _ false => some (s.goto i .waiting)
    | .handling _ true =>
      some { s.goto i .draining with queues := Function.update s.queues i (s.queues i).tail }
    | _ => none
  | .exit i =>
    match s.worker i, s.queues i with
    | .draining, [] => some (s.goto i .exited)
    | _, _ => none
  | .close => some { s with _isStop := true }

end Step

/-! ## What a step changes -/

section Effect

variable {cfg : Config} {S : ℕ} {s s' : Workers} {e : WorkerEvent} {i : ℕ} {m : Posted}

/-- The changes of a step.  All but the first two are those of the worker of one queue. -/
inductive Effect (cfg : Config) (S : ℕ) (s : Workers) : Workers → Prop
  /-- No message moves, and no worker. -/
  | idle (session : Conn → Option ℤ) (posting : ℕ → Option (LogicNode × ℤ)) (stop : Bool)
      (hsession : ∀ c, s.session c = none → session c = none) :
      Effect cfg S s { s with session := session, posting := posting, _isStop := stop }
  /-- A message enters its queue. -/
  | emplace (posting : ℕ → Option (LogicNode × ℤ)) (m : Posted)
      (hlocks : (s.worker (index cfg S m)).locks = false)
      (hlength : (s.queues (index cfg S m)).length ≤ queueMaxSize)
      (hseq : m.seq = s.enqueued.length) :
      Effect cfg S s { s with
        posting := posting
        queues := Function.update s.queues (index cfg S m) (s.queues (index cfg S m) ++ [m])
        enqueued := s.enqueued ++ [m] }
  /-- The worker moves between two places where it has no message; it exits with an empty
  queue. -/
  | move (i : ℕ) (w : WorkerState)
      (hbefore : s.worker i = .waiting ∨ s.worker i = .draining ∨
        ∃ m, s.worker i = .handling m false)
      (hafter : w = .waiting ∨ w = .popping ∨ w = .draining ∨ w = .exited ∧ s.queues i = []) :
      Effect cfg S s (s.goto i w)
  /-- The worker takes the first message of its queue. -/
  | pop (i : ℕ) (m : Posted) (queue : List Posted) (hworker : s.worker i = .popping)
      (hqueue : s.queues i = m :: queue) :
      Effect cfg S s { s.goto i (.taken m false) with
        queues := Function.update s.queues i queue
        handled := s.handled ++ [m] }
  /-- It does so in the drain. -/
  | drain (i : ℕ) (m : Posted) (queue : List Posted) (hworker : s.worker i = .draining)
      (hqueue : s.queues i = m :: queue) :
      Effect cfg S s { s.goto i (.taken m true) with handled := s.handled ++ [m] }
  /-- It asks for the session. -/
  | getSession (i : ℕ) (m : Posted) (inDrain : Bool) (hworker : s.worker i = .taken m inDrain) :
      Effect cfg S s { s.goto i (.handling m inDrain) with
        called := s.called ++ [(m, (s.session m.node._session).isSome)] }
  /-- It removes the message that it has handled in the drain. -/
  | drained (i : ℕ) (m : Posted) (hworker : s.worker i = .handling m true) :
      Effect cfg S s { s.goto i .draining with
        queues := Function.update s.queues i (s.queues i).tail }

/-- **Every step has one of these effects.** -/
theorem effect_of_step (h : step cfg S s e = some s') : Effect cfg S s s' := by
  cases e with
  | login c uid =>
    simp only [step] at h
    split_ifs at h with hc
    cases h
    refine .idle _ _ _ fun c' hc' => ?_
    have hne : c' ≠ c := by
      rintro rfl
      rw [hc'] at hc
      exact absurd hc (by decide)
    rwa [Function.update_of_ne hne]
  | expire c =>
    cases h
    refine .idle _ _ _ fun c' hc' => ?_
    by_cases hne : c' = c
    · rw [hne, Function.update_self]
    · rwa [Function.update_of_ne hne]
  | getUid p node =>
    simp only [step] at h
    split_ifs at h with hp
    cases h
    exact .idle _ _ _ fun _ hc => hc
  | emplace p =>
    simp only [step] at h
    cases hp : s.posting p with
    | none =>
      rw [hp] at h
      cases h
    | some post =>
      obtain ⟨node, uid⟩ := post
      simp only [hp] at h
      split_ifs at h with hlocks hfull
      · cases h
        exact .idle _ _ _ fun _ hc => hc
      · cases h
        exact .emplace _ ⟨node, uid, s.enqueued.length⟩ (Bool.eq_false_of_not_eq_true hlocks)
          (Nat.le_of_not_lt hfull) rfl
  | wake i =>
    simp only [step] at h
    split_ifs at h with hi
    cases h
    exact .move i _ (.inl hi.2.1) (.inr (.inl rfl))
  | pop i =>
    simp only [step] at h
    split at h
    · next m queue hworker hqueue =>
      cases h
      exact .pop i m queue hworker hqueue
    · cases h
  | leave i =>
    simp only [step] at h
    split_ifs at h with hi
    cases h
    exact .move i _ (.inl hi.2.1) (.inr (.inr (.inl rfl)))
  | drain i =>
    simp only [step] at h
    split at h
    · next m queue hworker hqueue =>
      cases h
      exact .drain i m queue hworker hqueue
    · cases h
  | getSession i =>
    simp only [step] at h
    split at h
    · next m inDrain hworker =>
      cases h
      exact .getSession i m inDrain hworker
    · cases h
  | finish i =>
    simp only [step] at h
    split at h
    · next m hworker =>
      cases h
      exact .move i _ (.inr (.inr ⟨m, hworker⟩)) (.inl rfl)
    · next m hworker =>
      cases h
      exact .drained i m hworker
    · cases h
  | exit i =>
    simp only [step] at h
    split at h
    · next hworker hqueue =>
      cases h
      exact .move i _ (.inr (.inl hworker)) (.inr (.inr (.inr ⟨rfl, hqueue⟩)))
    · cases h
  | close =>
    cases h
    exact .idle _ _ _ fun _ hc => hc

end Effect

/-! ## First in, first out -/

section Lane

variable {key : Posted → ℕ} {i : ℕ} {w w' : WorkerState} {m : Posted}
  {queue queue' enqueued handled called : List Posted}

/-- What holds of one queue and its worker: the queue continues what the worker has taken, and
the worker asks for the sessions in the same order. -/
structure Lane (key : Posted → ℕ) (i : ℕ) (w : WorkerState)
    (queue enqueued handled called : List Posted) : Prop where
  fifo : part key i handled ++ w.rest queue = part key i enqueued
  calls : part key i called ++ w.uncalled = part key i handled
  own : ∀ m, w.inHand = some m → key m = i
  bound : queue.length ≤ queueMaxSize + 1

lemma Lane.key_of_rest (h : Lane key i w queue enqueued handled called) (hm : m ∈ w.rest queue) :
    key m = i := by
  have hmem : m ∈ part key i enqueued := by
    rw [← h.fifo]
    exact List.mem_append_right _ hm
  exact (mem_part.1 hmem).2

/-- The worker moves without a message. -/
lemma Lane.goto (h : Lane key i w queue enqueued handled called)
    (hrest : w'.rest queue = w.rest queue) (huncalled : w.uncalled = [])
    (hinHand : w'.inHand = none) : Lane key i w' queue enqueued handled called where
  fifo := hrest ▸ h.fifo
  calls := by
    have hcalls := h.calls
    have hw' : w'.uncalled = [] := by
      cases w' with
      | taken m inDrain => cases hinHand
      | _ => rfl
    rwa [huncalled, ← hw'] at hcalls
  own m hm := by
    rw [hinHand] at hm
    cases hm
  bound := h.bound

/-- A message enters the queue, which its worker has not locked. -/
lemma Lane.emplace (h : Lane key i w queue enqueued handled called) (hkey : key m = i)
    (hlocks : w.locks = false) (hlength : queue.length ≤ queueMaxSize) :
    Lane key i w (queue ++ [m]) (enqueued ++ [m]) handled called where
  fifo := by
    have hfifo := h.fifo
    rw [WorkerState.rest_of_not_locks hlocks] at hfifo ⊢
    rw [part_snoc hkey, ← hfifo, List.append_assoc]
  calls := h.calls
  own := h.own
  bound := by
    rw [List.length_append, List.length_singleton]
    exact Nat.succ_le_succ hlength

/-- The worker takes the first message. -/
lemma Lane.take (h : Lane key i w queue enqueued handled called)
    (hrest : w.rest queue = m :: w'.rest queue') (hlength : queue'.length ≤ queue.length)
    (huncalled : w.uncalled = []) (hw' : w'.uncalled = [m]) (hinHand : w'.inHand = some m) :
    Lane key i w' queue' enqueued (handled ++ [m]) called := by
  have hkey : key m = i := h.key_of_rest (hrest ▸ List.mem_cons_self)
  constructor
  case fifo => rw [part_snoc hkey, ← h.fifo, hrest, List.append_assoc, List.singleton_append]
  case calls => rw [hw', part_snoc hkey, ← h.calls, huncalled, List.append_nil]
  case own =>
    intro m' hm'
    rw [hinHand] at hm'
    exact Option.some.inj hm' ▸ hkey
  case bound => exact hlength.trans h.bound

/-- The worker asks for the session of the message that it has taken. -/
lemma Lane.getSession {inDrain : Bool}
    (h : Lane key i (.taken m inDrain) queue enqueued handled called) :
    Lane key i (.handling m inDrain) queue enqueued handled (called ++ [m]) where
  fifo := by
    cases inDrain with
    | false => exact h.fifo
    | true => exact h.fifo
  calls := by
    have hcalls : part key i called ++ [m] = part key i handled := h.calls
    rw [part_snoc (h.own m rfl), hcalls]
    exact List.append_nil _
  own m' hm' := h.own m' hm'
  bound := h.bound

/-- The worker removes the message that it has handled in the drain. -/
lemma Lane.drained (h : Lane key i (.handling m true) queue enqueued handled called) :
    Lane key i .draining queue.tail enqueued handled called where
  fifo := h.fifo
  calls := h.calls
  own m' hm' := by cases hm'
  bound := by
    rw [List.length_tail]
    exact (Nat.sub_le _ _).trans h.bound

/-- The messages of other queues do not matter. -/
lemma Lane.enqueued_of_ne (h : Lane key i w queue enqueued handled called) (hkey : key m ≠ i) :
    Lane key i w queue (enqueued ++ [m]) handled called :=
  ⟨by rw [part_snoc_of_ne hkey]; exact h.fifo, h.calls, h.own, h.bound⟩

lemma Lane.handled_of_ne (h : Lane key i w queue enqueued handled called) (hkey : key m ≠ i) :
    Lane key i w queue enqueued (handled ++ [m]) called :=
  ⟨by rw [part_snoc_of_ne hkey]; exact h.fifo, by rw [part_snoc_of_ne hkey]; exact h.calls,
    h.own, h.bound⟩

lemma Lane.called_of_ne (h : Lane key i w queue enqueued handled called) (hkey : key m ≠ i) :
    Lane key i w queue enqueued handled (called ++ [m]) :=
  ⟨h.fifo, by rw [part_snoc_of_ne hkey]; exact h.calls, h.own, h.bound⟩

end Lane

section Order

variable {cfg : Config} {S : ℕ} {s s' : Workers} {i : ℕ} {m : Posted}

/-- What holds in every state: each queue is in order, and the messages are numbered. -/
structure Inv (cfg : Config) (S : ℕ) (s : Workers) : Prop where
  lane : ∀ i, Lane (index cfg S) i (s.worker i) (s.queues i) s.enqueued s.handled
    (s.called.map Prod.fst)
  seq : s.enqueued.map Posted.seq = List.range s.enqueued.length

lemma inv_init : Inv cfg S init where
  lane _ := ⟨rfl, rfl, fun _ h => (nomatch h), Nat.zero_le _⟩
  seq := rfl

/-- The changes at one queue, and those of the logs for the other queues. -/
lemma lane_update {key : Posted → ℕ} (worker : ℕ → WorkerState) (queues : ℕ → List Posted)
    {w : WorkerState} {queue enqueued handled called : List Posted}
    (hi : Lane key i w queue enqueued handled called)
    (hne : ∀ j, i ≠ j → Lane key j (worker j) (queues j) enqueued handled called) (j : ℕ) :
    Lane key j (Function.update worker i w j) (Function.update queues i queue j) enqueued handled
      called := by
  by_cases hji : j = i
  · subst hji
    rwa [Function.update_self, Function.update_self]
  · rw [Function.update_of_ne hji, Function.update_of_ne hji]
    exact hne j (Ne.symm hji)

/-- A worker that moves has no message of its queue before and none after. -/
lemma before_move {w : WorkerState}
    (h : w = .waiting ∨ w = .draining ∨ ∃ m, w = .handling m false) (queue : List Posted) :
    w.rest queue = queue ∧ w.uncalled = [] := by
  rcases h with rfl | rfl | ⟨m, rfl⟩
  · exact ⟨rfl, rfl⟩
  · exact ⟨rfl, rfl⟩
  · exact ⟨rfl, rfl⟩

lemma after_move {w : WorkerState} {queue : List Posted}
    (h : w = .waiting ∨ w = .popping ∨ w = .draining ∨ w = .exited ∧ queue = []) :
    w.rest queue = queue ∧ w.inHand = none := by
  rcases h with rfl | rfl | rfl | ⟨rfl, -⟩
  · exact ⟨rfl, rfl⟩
  · exact ⟨rfl, rfl⟩
  · exact ⟨rfl, rfl⟩
  · exact ⟨rfl, rfl⟩

/-- Every step keeps the order. -/
lemma inv_step (h : Inv cfg S s) (he : Effect cfg S s s') : Inv cfg S s' := by
  cases he with
  | idle session posting stop hsession => exact ⟨h.lane, h.seq⟩
  | emplace posting m hlocks hlength hseq =>
    constructor
    · have hlane := lane_update s.worker s.queues
        ((h.lane _).emplace rfl hlocks hlength) fun j hj => (h.lane j).enqueued_of_ne hj
      rwa [Function.update_eq_self] at hlane
    · rw [List.map_append, h.seq, List.map_singleton, hseq, List.length_append,
        List.length_singleton, List.range_succ]
  | move i w hbefore hafter =>
    have hworker := before_move hbefore (s.queues i)
    have hw := after_move hafter
    have hlane := lane_update s.worker s.queues
      ((h.lane i).goto (hw.1.trans hworker.1.symm) hworker.2 hw.2) fun j _ => h.lane j
    rw [Function.update_eq_self] at hlane
    exact ⟨hlane, h.seq⟩
  | pop i m queue hworker hqueue =>
    have hi := h.lane i
    rw [hworker, hqueue] at hi
    have htake : Lane (index cfg S) i (.taken m false) queue s.enqueued (s.handled ++ [m])
        (s.called.map Prod.fst) := hi.take rfl (Nat.le_succ _) rfl rfl rfl
    exact ⟨lane_update _ _ htake fun j hj => (h.lane j).handled_of_ne
      (hi.key_of_rest (m := m) List.mem_cons_self ▸ hj), h.seq⟩
  | drain i m queue hworker hqueue =>
    have hi := h.lane i
    rw [hworker, hqueue] at hi
    have htake : Lane (index cfg S) i (.taken m true) (m :: queue) s.enqueued (s.handled ++ [m])
        (s.called.map Prod.fst) := hi.take rfl le_rfl rfl rfl rfl
    have hlane := lane_update s.worker s.queues htake
      fun j hj => (h.lane j).handled_of_ne (hi.key_of_rest (m := m) List.mem_cons_self ▸ hj)
    rw [← hqueue, Function.update_eq_self] at hlane
    exact ⟨hlane, h.seq⟩
  | getSession i m inDrain hworker =>
    have hi := h.lane i
    rw [hworker] at hi
    have hlane := lane_update s.worker s.queues hi.getSession
      fun j hj => (h.lane j).called_of_ne (hi.own m rfl ▸ hj)
    rw [Function.update_eq_self] at hlane
    refine ⟨?_, h.seq⟩
    intro j
    rw [List.map_append, List.map_singleton]
    exact hlane j
  | drained i m hworker =>
    have hi := h.lane i
    rw [hworker] at hi
    exact ⟨lane_update _ _ hi.drained fun j _ => h.lane j, h.seq⟩

lemma inv_run {es : List WorkerEvent} (hrun : run (step cfg S) init es = some s) : Inv cfg S s :=
  run_invariant (fun _ _ _ h he => inv_step h (effect_of_step he)) hrun inv_init

lemma Inv.nodup (h : Inv cfg S s) : s.enqueued.Nodup :=
  List.Nodup.of_map Posted.seq (h.seq ▸ List.nodup_range)

lemma Inv.handled_isPrefix (h : Inv cfg S s) (i : ℕ) :
    part (index cfg S) i s.handled <+: part (index cfg S) i s.enqueued :=
  ⟨_, (h.lane i).fifo⟩

lemma Inv.called_isPrefix (h : Inv cfg S s) (i : ℕ) :
    part (index cfg S) i (s.called.map Prod.fst) <+: part (index cfg S) i s.handled :=
  ⟨_, (h.lane i).calls⟩

lemma invoked_sublist (s : Workers) : s.invoked.Sublist (s.called.map Prod.fst) :=
  List.Sublist.map _ List.filter_sublist

/-- A list whose parts are sublists of those of a list without duplicates has none. -/
lemma nodup_of_part {key : Posted → ℕ} {l l' : List Posted} (h' : l'.Nodup)
    (h : ∀ i, (part key i l).Sublist (part key i l')) : l.Nodup := by
  refine List.nodup_iff_count_le_one.2 fun m => ?_
  calc l.count m = (part key (key m) l).count m := count_part.symm
    _ ≤ (part key (key m) l').count m := (h _).count_le m
    _ = l'.count m := count_part
    _ ≤ 1 := List.nodup_iff_count_le_one.1 h' m

/-- **Messages of one uid are handled in order, one at a time.**  Whatever the threads do, the
messages that were posted under a uid are passed to `handleMsg` in the order in which they were
put in their queue and without a gap, their handlers are called in this order, no message is
handled twice, and no two messages of one uid are handled at the same time.  No queue has more
than `QUEUE_MAX_SIZE + 1` messages. -/
theorem handled_in_order {es : List WorkerEvent} (hrun : run (step cfg S) init es = some s) :
    (∀ uid, part Posted.uid uid s.handled <+: part Posted.uid uid s.enqueued) ∧
    (∀ uid, (part Posted.uid uid s.invoked).Sublist (part Posted.uid uid s.handled)) ∧
    s.handled.Nodup ∧ s.invoked.Nodup ∧
    (∀ i j m m', (s.worker i).inHand = some m → (s.worker j).inHand = some m' →
      m.uid = m'.uid → i = j ∧ m = m') ∧
    ∀ i, (s.queues i).length ≤ queueMaxSize + 1 := by
  have h := inv_run hrun
  have hinvoked : ∀ i, (part (index cfg S) i s.invoked).Sublist
      (part (index cfg S) i s.handled) := fun i =>
    ((invoked_sublist s).filter _).trans (h.called_isPrefix i).sublist
  have hnodup : s.handled.Nodup :=
    nodup_of_part h.nodup fun i => (h.handled_isPrefix i).sublist
  refine ⟨?_, ?_, hnodup, nodup_of_part hnodup hinvoked, ?_, fun i => (h.lane i).bound⟩
  · -- the uid determines the queue
    exact isPrefix_part Posted.uid (getQueueIndex cfg S) h.handled_isPrefix
  · exact sublist_part Posted.uid (getQueueIndex cfg S) hinvoked
  · intro i j m m' hm hm' huid
    have hij : i = j := by
      rw [← (h.lane i).own m hm, ← (h.lane j).own m' hm', index, index, huid]
    subst hij
    exact ⟨rfl, Option.some.inj (hm.symm.trans hm')⟩

/-- The state after a run on a server with four workers. -/
def worked (es : List WorkerEvent) : Workers := (run (step compactConfig 0) init es).getD init

lemma run_worked {es : List WorkerEvent} (h : (run (step compactConfig 0) init es).isSome) :
    run (step compactConfig 0) init es = some (worked es) := by
  obtain ⟨s, hs⟩ := Option.isSome_iff_exists.1 h
  rw [worked, hs, Option.getD_some]

/-- Two connections of user 1 post a message each; the second message is handled after
`close`. -/
def twoDevices : List WorkerEvent :=
  [.login client₁ 1, .login client₂ 1, .getUid 0 ⟨idTextChatMsgReq, [], client₁⟩,
    .getUid 1 ⟨idTextChatMsgReq, [], client₂⟩, .emplace 1, .emplace 0, .wake 1, .pop 1,
    .getSession 1, .close, .finish 1, .leave 1, .drain 1, .getSession 1]

/-- The two messages are handled one after the other. -/
theorem handled_twoDevices :
    (worked twoDevices).invoked.map (fun m => m.node._session) = [client₂, client₁] ∧
    part Posted.uid 1 (worked twoDevices).handled <+:
      part Posted.uid 1 (worked twoDevices).enqueued :=
  ⟨by decide, (handled_in_order (run_worked (by decide))).1 1⟩

end Order

/-! ## The messages that no worker has taken -/

section Untaken

variable {cfg : Config} {S : ℕ} {s s' : Workers} {e : WorkerEvent}

/-- The untaken messages after a change at one queue. -/
lemma untaken_update (s : Workers) (i : ℕ) (w : WorkerState) (queue : List Posted) :
    (fun j => (Function.update s.worker i w j).rest (Function.update s.queues i queue j)) =
      Function.update s.untaken i (w.rest queue) := by
  ext1 j
  by_cases hji : j = i
  · subst hji
    rw [Function.update_self, Function.update_self, Function.update_self]
  · rw [Function.update_of_ne hji, Function.update_of_ne hji, Function.update_of_ne hji]
    rfl

/-- A worker whose place does not concern the queue. -/
lemma untaken_goto (s : Workers) (i : ℕ) {w : WorkerState}
    (h : w.rest (s.queues i) = (s.worker i).rest (s.queues i)) :
    (s.goto i w).untaken = s.untaken := by
  have hupdate := untaken_update s i w (s.queues i)
  rw [Function.update_eq_self, h] at hupdate
  exact hupdate.trans (Function.update_eq_self i s.untaken)

/-- **What a step does to the untaken messages.**  They stay; or a message is added to those of
its queue, which is not full; or the first message of a queue is taken. -/
theorem untaken_cases (he : Effect cfg S s s') :
    (s'.untaken = s.untaken ∧ s'.handled = s.handled) ∨
    (∃ m, s'.enqueued = s.enqueued ++ [m] ∧ s'.handled = s.handled ∧
      (s.untaken (index cfg S m)).length ≤ queueMaxSize ∧
      s'.untaken = Function.update s.untaken (index cfg S m) (s.untaken (index cfg S m) ++ [m])) ∨
    ∃ i m queue, s.untaken i = m :: queue ∧ s'.handled = s.handled ++ [m] ∧
      s'.untaken = Function.update s.untaken i queue := by
  cases he with
  | idle session posting stop hsession => exact .inl ⟨rfl, rfl⟩
  | emplace posting m hlocks hlength hseq =>
    have hupdate := untaken_update s (index cfg S m) (s.worker (index cfg S m))
      (s.queues (index cfg S m) ++ [m])
    rw [Function.update_eq_self] at hupdate
    have hqueue : s.untaken (index cfg S m) = s.queues (index cfg S m) :=
      WorkerState.rest_of_not_locks hlocks _
    refine .inr (.inl ⟨m, rfl, rfl, hqueue ▸ hlength, hupdate.trans ?_⟩)
    rw [WorkerState.rest_of_not_locks hlocks, hqueue]
  | move i w hbefore hafter =>
    exact .inl ⟨untaken_goto s i ((after_move hafter).1.trans (before_move hbefore _).1.symm), rfl⟩
  | pop i m queue hworker hqueue =>
    refine .inr (.inr ⟨i, m, queue, ?_, rfl, untaken_update s i _ queue⟩)
    rw [untaken, hworker, hqueue]
    rfl
  | drain i m queue hworker hqueue =>
    have hupdate := untaken_update s i (.taken m true) (s.queues i)
    rw [Function.update_eq_self] at hupdate
    refine .inr (.inr ⟨i, m, queue, ?_, rfl, hupdate.trans ?_⟩)
    · rw [untaken, hworker, hqueue]
      rfl
    · rw [hqueue]
      rfl
  | getSession i m inDrain hworker =>
    refine .inl ⟨untaken_goto s i ?_, rfl⟩
    rw [hworker]
    cases inDrain with
    | false => rfl
    | true => rfl
  | drained i m hworker =>
    refine .inl ⟨(untaken_update s i .draining (s.queues i).tail).trans ?_, rfl⟩
    have hqueue : (WorkerState.draining).rest (s.queues i).tail = s.untaken i := by
      rw [untaken, hworker]
      rfl
    rw [hqueue, Function.update_eq_self]

/-! ## The queues of the system -/

variable {t : State}

/-- The messages that no worker has taken are those in the queues of the system. -/
def Refines (S : ℕ) (s : Workers) (t : State) : Prop :=
  ∀ i, (s.untaken i).map Posted.node = t.queues S i

lemma refines_update {i : ℕ} {queue : List Posted} {t' : State} (h : Refines S s t)
    (huntaken : s'.untaken = Function.update s.untaken i queue)
    (hi : queue.map Posted.node = t'.queues S i) (hne : ∀ j, j ≠ i → t'.queues S j = t.queues S j) :
    Refines S s' t' := by
  intro j
  rw [huntaken]
  by_cases hji : j = i
  · subst hji
    rwa [Function.update_self]
  · rw [Function.update_of_ne hji, hne j hji]
    exact h j

/-- The queues of the system after a worker has taken a message. -/
lemma step_work {i : ℕ} {node : LogicNode} {queue : List LogicNode} (cfg : Config)
    (hqueue : t.queues S i = node :: queue) (alive : Bool) (env : Env) :
    ∃ t', WeChat.step cfg t (.work S i alive env) = some t' ∧ t'.queues S i = queue ∧
      ∀ j, j ≠ i → t'.queues S j = t.queues S j := by
  have hupdate : ∀ j, j ≠ i → Function.update t.queues S
      (Function.update (t.queues S) i queue) S j = t.queues S j := by
    intro j hj
    rw [Function.update_self, Function.update_of_ne hj]
  have hself : Function.update t.queues S (Function.update (t.queues S) i queue) S i = queue := by
    rw [Function.update_self, Function.update_self]
  simp only [WeChat.step, hqueue]
  split_ifs
  · exact ⟨_, rfl, hself, hupdate⟩
  · exact ⟨_, rfl, hself, hupdate⟩

/-- The queues of the system after `postMsgToQueue` on a queue that is not full. -/
lemma queues_postMsgToQueue {node : LogicNode} {i : ℕ} (cfg : Config) (t : State)
    (hsrv : node._session.srv = S)
    (hindex : getQueueIndex cfg S (t.reg.session node._session)._uid = i)
    (hlength : (t.queues S i).length ≤ queueMaxSize) :
    (t.postMsgToQueue cfg node).queues S i = t.queues S i ++ [node] ∧
      ∀ j, j ≠ i → (t.postMsgToQueue cfg node).queues S j = t.queues S j := by
  rw [State.postMsgToQueue]
  simp only [hsrv, hindex, if_neg (Nat.not_lt.2 hlength), Function.update_self, true_and]
  exact fun j hj => Function.update_of_ne hj ..

/-- **The threads refine the queues of the system.**  A step of a thread moves no message, or it
is a `postMsgToQueue` for a session with the uid that was read, or it takes the message that an
event `work` of the system takes. -/
theorem step_refines (h : Refines S s t) (he : step cfg S s e = some s') :
    Refines S s' t ∨
    (∃ m, s'.enqueued = s.enqueued ++ [m] ∧
      (m.node._session.srv = S → (t.reg.session m.node._session)._uid = m.uid →
        Refines S s' (t.postMsgToQueue cfg m.node))) ∨
    ∃ i m, s'.handled = s.handled ++ [m] ∧ ∀ alive env, ∃ t',
      WeChat.step cfg t (.work S i alive env) = some t' ∧ Refines S s' t' := by
  rcases untaken_cases (effect_of_step he) with ⟨huntaken, -⟩ |
    ⟨m, henqueued, -, hlength, huntaken⟩ | ⟨i, m, queue, hqueue, hhandled, huntaken⟩
  · left
    intro j
    rw [huntaken]
    exact h j
  · refine .inr (.inl ⟨m, henqueued, fun hsrv huid => ?_⟩)
    have hi := h (index cfg S m)
    obtain ⟨hself, hne⟩ := queues_postMsgToQueue cfg t (i := index cfg S m) hsrv
      (by rw [huid, index]) (by rwa [← hi, List.length_map])
    refine refines_update h huntaken ?_ hne
    rw [hself, ← hi, List.map_append, List.map_singleton]
  · refine .inr (.inr ⟨i, m, hhandled, fun alive env => ?_⟩)
    have hi := h i
    rw [hqueue, List.map_cons] at hi
    obtain ⟨t', ht', hself, hne⟩ := step_work cfg hi.symm alive env
    exact ⟨t', ht', refines_update h huntaken hself.symm hne⟩

end Untaken

end Workers

end LogicSystem

end WeChat
