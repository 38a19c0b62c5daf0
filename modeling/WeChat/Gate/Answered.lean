/-
# Answered requests

A request that was read while the queue was not full waits in the queue or with a worker until
its one response is written.  A verb other than `GET` and `POST` never gets one, and a body that
a handler does not expect ends the process, unless it is `null` or `/get_varifycode` finds no
`email` in it.
-/
import Mathlib.Algebra.BigOperators.Group.Finset.Basic
import Mathlib.Algebra.BigOperators.Group.Finset.Piecewise
import Mathlib.Algebra.Order.Group.Multiset
import Mathlib.Tactic.Abel
import WeChat.Lib.JsonText
import WeChat.Lib.Transition
import WeChat.Gate.Gateway

namespace WeChat

open Transition Json

namespace GateServer

/-- The connection of the task that a worker has in hand. -/
def WorkerState.inHand : WorkerState → Multiset HttpConnection
  | .handling task => {task.connection}
  | _ => 0

@[simp] lemma WorkerState.inHand_waiting : WorkerState.waiting.inHand = 0 := rfl

@[simp] lemma WorkerState.inHand_handling (task : Task) :
    (WorkerState.handling task).inHand = {task.connection} := rfl

/-- The steps that a worker has before it without a new task. -/
def WorkerState.stepsLeft : WorkerState → ℕ
  | .waiting => 2
  | .handling _ => 3
  | .draining => 1
  | .exited => 0

namespace Gateway

variable (cfg : Config)

/-- The connections that wait for a response, in the queue or with a worker. -/
def pending (s : Gateway) : Multiset HttpConnection :=
  (s._queue.map Task.connection : Multiset HttpConnection) +
    ∑ i ∈ Finset.range cfg.workerCount, (s.worker i).inHand

/-- The connections that a response was written for, as often as it was. -/
def answered (s : Gateway) : Multiset HttpConnection := s.written.map Prod.fst

/-- No worker can do anything. -/
def AtRest (s : Gateway) : Prop :=
  ∀ i services, step cfg s (.take i) = none ∧ step cfg s (.finish i services) = none ∧
    step cfg s (.leave i) = none ∧ step cfg s (.drain i services) = none ∧
    step cfg s (.exit i) = none

/-- No exception has left a worker; a request that was read while the queue was not full has
one response or waits for it, and none waits when the workers are at rest; and a body that the
handler of its target cannot use is answered with `ERROR_JSON`. -/
structure Answers (s : Gateway) : Prop where
  alive : s.terminated = false
  once : ∀ c ∈ s.requests, (s.pending cfg).count c + s.answered.count c = 1
  settled : s.AtRest cfg → s.pending cfg = 0
  refuses : ∀ a ∈ s.written, Refuses cfg.codec a.1._request a.2

/-- The verb of a request is `GET` or `POST` and there is a worker left, or the queue is full;
a worker gets no task that is not handled. -/
def KeepsAnswers (s : Gateway) : GateEvent → Prop
  | .read request => s.Full cfg ∨
      request.method ≠ .other ∧ ∃ i < cfg.workerCount, s.worker i ≠ .exited
  | .finish i _ => ∀ task, s.worker i = .handling task → Handled cfg.codec task.connection._request
  | .drain _ _ => ∀ task queue, s._queue = task :: queue →
      Handled cfg.codec task.connection._request
  | _ => True

/-- What holds in every state: the connections in the books are different, those that wait or
were answered are among them, and the holder of the mutex is behind its loop. -/
structure Inv (s : Gateway) : Prop where
  nodup : s.requests.Nodup
  lt : ∀ c ∈ s.requests, c.num < s.connections
  tracked : s.pending cfg + s.answered ≤ s.requests
  mutex : ∀ i, s._mutex = some i → i < cfg.workerCount ∧ s.worker i = .draining

/-! ## The books about the requests -/

section Books

variable {cfg : Config} {s s' s₀ : Gateway} {e : GateEvent} {services : Services} {i : ℕ}

/-- What a worker gives up and what it takes on. -/
lemma sum_update {M : Type} [AddCommMonoid M] (s : Gateway) (f : WorkerState → M)
    (hi : i < cfg.workerCount) (w : WorkerState) :
    (∑ j ∈ Finset.range cfg.workerCount, f (Function.update s.worker i w j)) + f (s.worker i) =
      (∑ j ∈ Finset.range cfg.workerCount, f (s.worker j)) + f w := by
  have hmem := Finset.mem_range.2 hi
  rw [← Finset.add_sum_erase _ _ hmem,
    ← Finset.add_sum_erase (Finset.range cfg.workerCount) (fun j => f (s.worker j)) hmem,
    Function.update_self]
  have hothers : ∑ j ∈ (Finset.range cfg.workerCount).erase i,
      f (Function.update s.worker i w j) =
      ∑ j ∈ (Finset.range cfg.workerCount).erase i, f (s.worker j) :=
    Finset.sum_congr rfl fun j hj => by rw [Function.update_of_ne (Finset.ne_of_mem_erase hj)]
  rw [hothers]
  abel

/-- A worker that has nothing in hand before and after. -/
lemma sum_update_eq (hi : i < cfg.workerCount) {w : WorkerState} (hw : w.inHand = 0)
    (hworker : (s.worker i).inHand = 0) :
    (∑ j ∈ Finset.range cfg.workerCount, (Function.update s.worker i w j).inHand) =
      ∑ j ∈ Finset.range cfg.workerCount, (s.worker j).inHand := by
  have hsum := sum_update s WorkerState.inHand hi w
  rwa [hw, hworker, add_zero, add_zero] at hsum

/-- The task of a new request. -/
lemma pending_push (task : Task) (connections : ℕ) (requests : List HttpConnection) :
    pending cfg { s with
      _queue := s._queue ++ [task]
      connections := connections
      requests := requests } = s.pending cfg + {task.connection} := by
  simp only [pending, List.map_append, ← Multiset.coe_add]
  exact add_right_comm _ _ _

lemma pending_take {task : Task} {queue : List Task} (hi : i < cfg.workerCount)
    (hworker : s.worker i = .waiting) (hqueue : s._queue = task :: queue) :
    pending cfg { s with
      _queue := queue
      worker := Function.update s.worker i (.handling task) } = s.pending cfg := by
  have hsum := sum_update s WorkerState.inHand hi (.handling task)
  rw [hworker, WorkerState.inHand_waiting, add_zero, WorkerState.inHand_handling] at hsum
  simp only [pending, hqueue, List.map_cons, hsum, ← Multiset.cons_coe, ← Multiset.singleton_add]
  abel

/-- A worker that gives up its task. -/
lemma pending_finish {task : Task} (hi : i < cfg.workerCount)
    (hworker : s.worker i = .handling task) :
    s.pending cfg =
      {task.connection} +
        pending cfg { s with worker := Function.update s.worker i .waiting } := by
  have hsum := sum_update s WorkerState.inHand hi .waiting
  rw [hworker, WorkerState.inHand_waiting, add_zero, WorkerState.inHand_handling] at hsum
  simp only [pending, ← hsum]
  abel

lemma pending_drain {task : Task} {queue : List Task} (hqueue : s._queue = task :: queue) :
    s.pending cfg = {task.connection} + pending cfg { s with _queue := queue } := by
  simp only [pending, hqueue, List.map_cons, ← Multiset.cons_coe, ← Multiset.singleton_add,
    add_assoc]

/-- A worker that moves on with nothing in hand. -/
lemma pending_move {w : WorkerState} {mutex : Option ℕ} (hi : i < cfg.workerCount)
    (hw : w.inHand = 0) (hworker : (s.worker i).inHand = 0) :
    pending cfg { s with
      worker := Function.update s.worker i w
      _mutex := mutex } = s.pending cfg :=
  congrArg ((s._queue.map Task.connection : Multiset HttpConnection) + ·)
    (sum_update_eq hi hw hworker)

/-- The books after a response. -/
lemma tracked_response {task : Task} {response : Response}
    (hpending : s.pending cfg = {task.connection} + s₀.pending cfg)
    (hwritten : s₀.written = s.written) :
    s₀.pending cfg +
        answered { s₀ with written := s₀.written ++ [(task.connection, response)] } =
      s.pending cfg + s.answered := by
  rw [hpending, answered, answered, hwritten, List.map_append, ← Multiset.coe_add]
  show _ + (_ + {task.connection}) = _
  abel

/-! ## The invariant -/

lemma inv_init : init.Inv cfg := by
  refine ⟨List.nodup_nil, fun c hc => absurd hc List.not_mem_nil, ?_, fun i hi => nomatch hi⟩
  simp [init, pending, answered]

/-- The books after a request was read. -/
lemma Inv.read (h : s.Inv cfg) (request : Request) : (s.read cfg request).Inv cfg := by
  have hfresh : s.newConnection request ∉ s.requests := fun hmem =>
    absurd (h.lt _ hmem) (lt_irrefl _)
  have hlt : ∀ c ∈ s.requests, c.num < s.connections + 1 := fun c hc =>
    Nat.lt_succ_of_lt (h.lt c hc)
  have hnodup : (s.requests ++ [s.newConnection request]).Nodup :=
    List.nodup_append.2 ⟨h.nodup, List.nodup_singleton _, fun c hc c' hc' heq =>
      hfresh (List.mem_singleton.1 hc' ▸ heq ▸ hc)⟩
  have hlt' : ∀ c ∈ s.requests ++ [s.newConnection request], c.num < s.connections + 1 := by
    intro c hc
    rcases List.mem_append.1 hc with hc | hc
    · exact hlt c hc
    · obtain rfl := List.mem_singleton.1 hc
      exact Nat.lt_succ_self _
  rcases read_cases cfg s request with ⟨-, heq⟩ | ⟨-, -, heq⟩ | ⟨-, -, task, htask, heq⟩
  · rw [heq]
    exact ⟨h.nodup, hlt, h.tracked, h.mutex⟩
  · have hle : s.requests.Subperm (s.requests ++ [s.newConnection request]) :=
      (List.sublist_append_left _ _).subperm
    rw [heq]
    exact ⟨hnodup, hlt', h.tracked.trans (Multiset.coe_le.2 hle), h.mutex⟩
  · rw [heq]
    refine ⟨hnodup, hlt', ?_, h.mutex⟩
    rw [pending_push, htask, add_right_comm]
    exact add_le_add_left h.tracked _

/-- The books after a task was handled, which was in hand or in the queue. -/
lemma Inv.answer {task : Task} (h : s.Inv cfg) (services : Services)
    (hpending : s.pending cfg = {task.connection} + s₀.pending cfg)
    (hrequests : s₀.requests = s.requests) (hconnections : s₀.connections = s.connections)
    (hwritten : s₀.written = s.written)
    (hmutex : ∀ i, s₀._mutex = some i → i < cfg.workerCount ∧ s₀.worker i = .draining) :
    (s₀.answer cfg services task).Inv cfg := by
  have hnodup : s₀.requests.Nodup := hrequests ▸ h.nodup
  have hlt : ∀ c ∈ s₀.requests, c.num < s₀.connections := by
    rw [hrequests, hconnections]
    exact h.lt
  rcases answer_cases cfg s₀ services task with ⟨response, -, heq⟩ | ⟨-, heq⟩
  · rw [heq]
    refine ⟨hnodup, hlt, ?_, hmutex⟩
    show _ ≤ (s₀.requests : Multiset HttpConnection)
    rw [hrequests]
    exact (tracked_response hpending hwritten).trans_le h.tracked
  · rw [heq]
    refine ⟨hnodup, hlt, ?_, hmutex⟩
    show s₀.pending cfg + ↑(s₀.written.map Prod.fst) ≤ (s₀.requests : Multiset HttpConnection)
    rw [hrequests, hwritten]
    refine le_trans ?_ h.tracked
    rw [hpending]
    exact add_le_add_left (Multiset.le_add_left _ _) _

lemma inv_step (h : s.Inv cfg) (he : step cfg s e = some s') : s'.Inv cfg := by
  obtain ⟨-, hnext⟩ := next_of_step he
  cases e with
  | read request =>
    rw [next_read hnext]
    exact h.read request
  | take i =>
    obtain ⟨hi, hworker, hmutex, task, queue, hqueue, rfl⟩ := next_take hnext
    refine ⟨h.nodup, h.lt, ?_, fun j hj => ?_⟩
    · rw [pending_take hi hworker hqueue]
      exact h.tracked
    · rw [hmutex] at hj
      cases hj
  | finish i services =>
    obtain ⟨hi, task, hworker, rfl⟩ := next_finish hnext
    refine h.answer services (pending_finish hi hworker) rfl rfl rfl fun j hj => ?_
    obtain ⟨hlt, hdraining⟩ := h.mutex j hj
    refine ⟨hlt, ?_⟩
    by_cases hji : j = i
    · rw [hji, hworker] at hdraining
      cases hdraining
    · exact (Function.update_of_ne hji _ _).trans hdraining
  | close =>
    obtain rfl := Option.some.inj hnext
    exact ⟨h.nodup, h.lt, h.tracked, h.mutex⟩
  | leave i =>
    obtain ⟨hi, hworker, hmutex, rfl⟩ := next_leave hnext
    refine ⟨h.nodup, h.lt, ?_, fun j hj => ?_⟩
    · rw [pending_move hi rfl (by rw [hworker]; rfl)]
      exact h.tracked
    · obtain rfl := Option.some.inj hj
      exact ⟨hi, Function.update_self _ _ _⟩
  | drain i services =>
    obtain ⟨hi, hworker, task, queue, hqueue, rfl⟩ := next_drain hnext
    exact h.answer services (pending_drain hqueue) rfl rfl rfl h.mutex
  | exit i =>
    obtain ⟨hi, hworker, hqueue, rfl⟩ := next_exit hnext
    refine ⟨h.nodup, h.lt, ?_, fun j hj => nomatch hj⟩
    rw [pending_move hi rfl (by rw [hworker]; rfl)]
    exact h.tracked

/-! ## At rest -/

/-- Services that fail. -/
def noServices : Services :=
  ⟨fun _ => none, fun _ => (ErrorCodes.rpcFailed.code, ""), fun _ _ _ => -1, fun _ _ => -1,
    fun _ _ => -1, fun _ _ => -1, fun _ _ => -1, fun _ => ⟨ErrorCodes.rpcFailed.code, "", "", ""⟩⟩

lemma step_alive (h : s.terminated = false) : step cfg s e = s.next cfg e := by
  rw [step, h]
  rfl

/-- A task that is not in the queue is in the hands of a worker. -/
lemma exists_handling (hpending : s.pending cfg ≠ 0) (hqueue : s._queue = []) :
    ∃ i < cfg.workerCount, ∃ task, s.worker i = .handling task := by
  by_contra hnone
  refine hpending ?_
  rw [pending, hqueue]
  refine (zero_add _).trans (Finset.sum_eq_zero fun i hi => ?_)
  cases hworker : s.worker i with
  | handling task => exact absurd ⟨i, Finset.mem_range.1 hi, task, hworker⟩ hnone
  | _ => rfl

/-- While a request waits, a worker that has not exited can go on. -/
lemma not_atRest (hinv : s.Inv cfg) (halive : s.terminated = false)
    (hpending : s.pending cfg ≠ 0) (hleft : ∃ i < cfg.workerCount, s.worker i ≠ .exited) :
    ¬ s.AtRest cfg := by
  intro hrest
  simp only [AtRest, step_alive halive] at hrest
  obtain ⟨i, hi, hworker⟩ := hleft
  have hdraining : ∀ j < cfg.workerCount, s.worker j ≠ .draining := by
    intro j hj hdrain
    cases hqueue : s._queue with
    | nil =>
      have hexit := (hrest j noServices).2.2.2.2
      simp [next, hdrain, hqueue, hj] at hexit
    | cons task queue =>
      have hdrains := (hrest j noServices).2.2.2.1
      simp [next, hdrain, hqueue, hj] at hdrains
  have hhandling : ∀ j < cfg.workerCount, ∀ task, s.worker j ≠ .handling task := by
    intro j hj task hhandle
    have hfinish := (hrest j noServices).2.1
    simp [next, hhandle, hj] at hfinish
  have hmutex : s._mutex = none := by
    cases hmutex : s._mutex with
    | none => rfl
    | some j => exact absurd (hinv.mutex j hmutex).2 (hdraining j (hinv.mutex j hmutex).1)
  cases hw : s.worker i with
  | exited => exact hworker hw
  | draining => exact hdraining i hi hw
  | handling task => exact hhandling i hi task hw
  | waiting =>
    cases hstop : s._isStop with
    | true =>
      have hleave := (hrest i noServices).2.2.1
      simp [next, hw, hmutex, hstop, hi] at hleave
    | false =>
      cases hqueue : s._queue with
      | nil =>
        obtain ⟨j, hj, task, hhandle⟩ := exists_handling hpending hqueue
        exact hhandling j hj task hhandle
      | cons task queue =>
        have htake := (hrest i noServices).1
        simp [next, hw, hmutex, hstop, hqueue, hi] at htake

/-- When all workers have exited, nothing happens to a request. -/
lemma atRest_of_exited (hexited : ∀ i < cfg.workerCount, s.worker i = .exited) :
    s.AtRest cfg := by
  have hworker : ∀ {e : GateEvent}, (∀ s', s.next cfg e = some s' → ∃ i < cfg.workerCount,
      s.worker i ≠ .exited) → step cfg s e = none := by
    intro e hnext
    by_contra hsome
    obtain ⟨s', hs'⟩ := Option.ne_none_iff_exists'.1 hsome
    obtain ⟨i, hi, hne⟩ := hnext s' (next_of_step hs').2
    exact hne (hexited i hi)
  intro i services
  refine ⟨hworker fun s' h => ?_, hworker fun s' h => ?_, hworker fun s' h => ?_,
    hworker fun s' h => ?_, hworker fun s' h => ?_⟩
  · obtain ⟨hi, hw, -⟩ := next_take h
    exact ⟨i, hi, by simp [hw]⟩
  · obtain ⟨hi, task, hw, -⟩ := next_finish h
    exact ⟨i, hi, by simp [hw]⟩
  · obtain ⟨hi, hw, -⟩ := next_leave h
    exact ⟨i, hi, by simp [hw]⟩
  · obtain ⟨hi, hw, -⟩ := next_drain h
    exact ⟨i, hi, by simp [hw]⟩
  · obtain ⟨hi, hw, -⟩ := next_exit h
    exact ⟨i, hi, by simp [hw]⟩

lemma settled_iff (hinv : s.Inv cfg) (halive : s.terminated = false) :
    (s.AtRest cfg → s.pending cfg = 0) ↔
      (s.pending cfg ≠ 0 → ∃ i < cfg.workerCount, s.worker i ≠ .exited) := by
  constructor
  · intro hsettled hpending
    by_contra hnone
    refine hpending (hsettled (atRest_of_exited fun i hi => ?_))
    by_contra hne
    exact hnone ⟨i, hi, hne⟩
  · intro hserved hrest
    by_contra hpending
    exact not_atRest hinv halive hpending (hserved hpending) hrest

/-- The requests in the books are different, so the counts say that those that wait and those
that were answered are the requests in the books. -/
lemma once_iff (hinv : s.Inv cfg) :
    (∀ c ∈ s.requests, (s.pending cfg).count c + s.answered.count c = 1) ↔
      s.pending cfg + s.answered = s.requests := by
  constructor
  · intro honce
    refine hinv.tracked.antisymm (Multiset.le_iff_count.2 fun c => ?_)
    rw [Multiset.count_add, Multiset.coe_count]
    by_cases hc : c ∈ s.requests
    · rw [honce c hc, List.count_eq_one_of_mem hinv.nodup hc]
    · rw [List.count_eq_zero_of_not_mem hc]
      exact Nat.zero_le _
  · intro heq c hc
    rw [← Multiset.count_add, heq, Multiset.coe_count, List.count_eq_one_of_mem hinv.nodup hc]

lemma answers_iff (hinv : s.Inv cfg) :
    s.Answers cfg ↔ s.terminated = false ∧ s.pending cfg + s.answered = s.requests ∧
      (s.pending cfg ≠ 0 → ∃ i < cfg.workerCount, s.worker i ≠ .exited) ∧
      ∀ a ∈ s.written, Refuses cfg.codec a.1._request a.2 := by
  constructor
  · rintro ⟨halive, honce, hsettled, hrefuses⟩
    exact ⟨halive, (once_iff hinv).1 honce, (settled_iff hinv halive).1 hsettled, hrefuses⟩
  · rintro ⟨halive, heq, hserved, hrefuses⟩
    exact ⟨halive, (once_iff hinv).2 heq, (settled_iff hinv halive).2 hserved, hrefuses⟩

/-! ## One step -/

/-- A step that moves no request and leaves a worker. -/
lemma Answers.of_quiet (h : s.Answers cfg) (hinv : s.Inv cfg) (hinv' : s'.Inv cfg)
    (halive : s'.terminated = s.terminated) (hpending : s'.pending cfg = s.pending cfg)
    (hwritten : s'.written = s.written) (hrequests : s'.requests = s.requests)
    (hleft : s.pending cfg ≠ 0 → ∃ i < cfg.workerCount, s'.worker i ≠ .exited) :
    s'.Answers cfg := by
  obtain ⟨halive', heq, -, hrefuses⟩ := (answers_iff hinv).1 h
  refine (answers_iff hinv').2 ⟨halive.trans halive', ?_, ?_, ?_⟩
  · rw [hpending, hrequests, ← heq, answered, answered, hwritten]
  · rw [hpending]
    exact hleft
  · rw [hwritten]
    exact hrefuses

/-- The worker that has a task answers as it should exactly when the request is handled. -/
lemma answers_answer_iff {task : Task} (h : s.Answers cfg) (hinv : s.Inv cfg)
    (hinv' : (s₀.answer cfg services task).Inv cfg)
    (hpending : s.pending cfg = {task.connection} + s₀.pending cfg)
    (halive : s₀.terminated = s.terminated) (hwritten : s₀.written = s.written)
    (hrequests : s₀.requests = s.requests)
    (hleft : ∃ i < cfg.workerCount, s₀.worker i ≠ .exited) :
    (s₀.answer cfg services task).Answers cfg ↔
      Handled cfg.codec task.connection._request := by
  obtain ⟨halive', heq, -, hrefuses⟩ := (answers_iff hinv).1 h
  rw [← responseTo_iff services task.method_ne, ← task.path_eq, ← task.isGet_eq]
  rcases answer_cases cfg s₀ services task with ⟨response, hresponse, hs'⟩ | ⟨hnone, hs'⟩
  · rw [answers_iff hinv', hs', hresponse]
    constructor
    · rintro ⟨-, -, -, hall⟩
      exact ⟨response, rfl, hall (task.connection, response)
        (List.mem_append_right _ (List.mem_singleton_self _))⟩
    · rintro ⟨_, hsome, hright⟩
      obtain rfl := Option.some.inj hsome
      refine ⟨halive.trans halive', ?_, fun _ => hleft, fun a ha => ?_⟩
      · show _ = (s₀.requests : Multiset HttpConnection)
        rw [hrequests, ← heq]
        exact tracked_response hpending hwritten
      · rcases List.mem_append.1 ha with ha | ha
        · exact hrefuses a (hwritten ▸ ha)
        · obtain rfl := List.mem_singleton.1 ha
          exact hright
  · rw [hs', hnone]
    refine iff_of_false (fun hanswers => ?_) ?_
    · cases hanswers.alive
    · rintro ⟨response, hsome, -⟩
      cases hsome

/-- A request that is read gets a response, if its verb has a handler and a worker is left. -/
lemma answers_read_iff {request : Request} (h : s.Answers cfg) (hinv : s.Inv cfg)
    (hinv' : (s.read cfg request).Inv cfg) :
    (s.read cfg request).Answers cfg ↔ s.KeepsAnswers cfg (.read request) := by
  obtain ⟨halive, heq, hserved, hrefuses⟩ := (answers_iff hinv).1 h
  rw [answers_iff hinv']
  rw [KeepsAnswers]
  rcases read_cases cfg s request with ⟨hfull, hread⟩ | ⟨hfull, hother, hread⟩ |
    ⟨hfull, hother, task, htask, hread⟩
  · rw [hread]
    exact iff_of_true ⟨halive, heq, hserved, hrefuses⟩ (.inl hfull)
  · rw [hread, or_iff_right hfull]
    refine iff_of_false ?_ fun hkeeps => hkeeps.1 hother
    rintro ⟨-, hmore, -⟩
    -- one request more, and nobody has it
    have hcard := congrArg Multiset.card (heq.symm.trans hmore)
    simp at hcard
  · rw [hread, or_iff_right hfull, pending_push, htask]
    constructor
    · rintro ⟨-, -, hserved', -⟩
      refine ⟨hother, hserved' fun hzero => ?_⟩
      have hcard := congrArg Multiset.card hzero
      simp at hcard
    · rintro ⟨-, hleft⟩
      refine ⟨halive, ?_, fun _ => hleft, hrefuses⟩
      rw [add_right_comm]
      exact congrArg (· + {s.newConnection request}) heq

/-- After a step that meets its condition, and after no other, the requests are answered. -/
lemma answers_step_iff (hinv : s.Inv cfg) (h : s.Answers cfg) (he : step cfg s e = some s') :
    s'.Answers cfg ↔ s.KeepsAnswers cfg e := by
  have hinv' := inv_step hinv he
  obtain ⟨-, hnext⟩ := next_of_step he
  cases e with
  | read request =>
    obtain rfl := next_read hnext
    exact answers_read_iff h hinv hinv'
  | take i =>
    obtain ⟨hi, hworker, -, task, queue, hqueue, rfl⟩ := next_take hnext
    refine iff_of_true (h.of_quiet hinv hinv' rfl (pending_take hi hworker hqueue) rfl rfl
      fun _ => ⟨i, hi, ?_⟩) trivial
    simp
  | finish i services =>
    obtain ⟨hi, task, hworker, rfl⟩ := next_finish hnext
    rw [answers_answer_iff h hinv hinv' (pending_finish hi hworker) rfl rfl rfl
      ⟨i, hi, by simp⟩]
    constructor
    · intro hhandled task' hworker'
      obtain rfl := WorkerState.handling.inj (hworker.symm.trans hworker')
      exact hhandled
    · intro hkeeps
      exact hkeeps task hworker
  | close =>
    obtain rfl := Option.some.inj hnext
    exact iff_of_true (h.of_quiet hinv hinv' rfl rfl rfl rfl
      ((answers_iff hinv).1 h).2.2.1) trivial
  | leave i =>
    obtain ⟨hi, hworker, -, rfl⟩ := next_leave hnext
    refine iff_of_true (h.of_quiet hinv hinv' rfl (pending_move hi rfl (by rw [hworker]; rfl))
      rfl rfl fun _ => ⟨i, hi, ?_⟩) trivial
    simp
  | drain i services =>
    obtain ⟨hi, hworker, task, queue, hqueue, rfl⟩ := next_drain hnext
    rw [answers_answer_iff h hinv hinv' (pending_drain hqueue) rfl rfl rfl
      ⟨i, hi, by simp [hworker]⟩]
    constructor
    · intro hhandled task' queue' hqueue'
      obtain ⟨rfl, -⟩ := List.cons.inj (hqueue.symm.trans hqueue')
      exact hhandled
    · intro hkeeps
      exact hkeeps task queue hqueue
  | exit i =>
    obtain ⟨hi, hworker, hqueue, rfl⟩ := next_exit hnext
    refine iff_of_true (h.of_quiet hinv hinv' rfl (pending_move hi rfl (by rw [hworker]; rfl))
      rfl rfl fun hpending => ?_) trivial
    -- the queue is empty, so the request is with another worker
    obtain ⟨j, hj, task, hhandling⟩ := exists_handling hpending hqueue
    have hji : j ≠ i := by
      rintro rfl
      rw [hworker] at hhandling
      cases hhandling
    exact ⟨j, hj, by simp [Function.update_of_ne hji, hhandling]⟩

end Books

/-! ## Runs -/

/-- What only workers do. -/
def OfWorker : GateEvent → Prop
  | .read _ => False
  | .close => False
  | _ => True

section Runs

variable {cfg : Config} {s s' : Gateway} {e : GateEvent} {es : List GateEvent}

/-- The steps that the workers have before them without a new request. -/
def stepsLeft (cfg : Config) (s : Gateway) : ℕ :=
  4 * s._queue.length + ∑ i ∈ Finset.range cfg.workerCount, (s.worker i).stepsLeft

lemma stepsLeft_answer (services : Services) (task : Task) :
    stepsLeft cfg (s.answer cfg services task) = stepsLeft cfg s := by
  rcases answer_cases cfg s services task with ⟨response, -, heq⟩ | ⟨-, heq⟩
  · rw [heq]
    rfl
  · rw [heq]
    rfl

lemma stepsLeft_step (he : step cfg s e = some s') (hworker : OfWorker e) :
    stepsLeft cfg s' < stepsLeft cfg s := by
  obtain ⟨-, hnext⟩ := next_of_step he
  cases e with
  | read request => exact hworker.elim
  | close => exact hworker.elim
  | take i =>
    obtain ⟨hi, hw, -, task, queue, hqueue, rfl⟩ := next_take hnext
    have hsum := sum_update s WorkerState.stepsLeft hi (.handling task)
    rw [hw] at hsum
    change _ + 2 = _ + 3 at hsum
    simp only [stepsLeft, hqueue, List.length_cons]
    omega
  | finish i services =>
    obtain ⟨hi, task, hw, rfl⟩ := next_finish hnext
    have hsum := sum_update s WorkerState.stepsLeft hi .waiting
    rw [hw] at hsum
    change _ + 3 = _ + 2 at hsum
    rw [stepsLeft_answer]
    simp only [stepsLeft]
    omega
  | leave i =>
    obtain ⟨hi, hw, -, rfl⟩ := next_leave hnext
    have hsum := sum_update s WorkerState.stepsLeft hi .draining
    rw [hw] at hsum
    change _ + 2 = _ + 1 at hsum
    simp only [stepsLeft]
    omega
  | drain i services =>
    obtain ⟨hi, hw, task, queue, hqueue, rfl⟩ := next_drain hnext
    rw [stepsLeft_answer]
    simp only [stepsLeft, hqueue, List.length_cons]
    omega
  | exit i =>
    obtain ⟨hi, hw, hqueue, rfl⟩ := next_exit hnext
    have hsum := sum_update s WorkerState.stepsLeft hi .exited
    rw [hw] at hsum
    change _ + 1 = _ + 0 at hsum
    simp only [stepsLeft]
    omega

/-- Without new requests the workers come to rest. -/
theorem length_le_stepsLeft (hrun : run (step cfg) s es = some s')
    (hes : ∀ e ∈ es, OfWorker e) : es.length ≤ stepsLeft cfg s := by
  induction es generalizing s with
  | nil => exact Nat.zero_le _
  | cons e es ih =>
    obtain ⟨s₁, he, hrun'⟩ := run_cons_inv hrun
    have hless := stepsLeft_step he (hes e List.mem_cons_self)
    have hrest := ih hrun' fun e' he' => hes e' (List.mem_cons_of_mem _ he')
    exact (Nat.succ_le_succ hrest).trans hless

/-- When the workers are at rest, every request has one response. -/
lemma Answers.once_of_atRest (h : s.Answers cfg) (hrest : s.AtRest cfg) :
    ∀ c ∈ s.requests, s.answered.count c = 1 := by
  intro c hc
  have honce := h.once c hc
  rwa [h.settled hrest, Multiset.count_zero, zero_add] at honce

lemma answers_init : init.Answers cfg := by
  refine (answers_iff inv_init).2 ⟨rfl, ?_, fun hpending => absurd ?_ hpending, fun a ha => ?_⟩
  · simp [init, pending, answered]
  · simp [init, pending]
  · cases ha

/-- **In every state of a run each request has its one response or a worker that will write it,
and no exception has left a worker, if and only if every step of the run keeps it so.** -/
theorem answers_all_iff (hrun : run (step cfg) init es = some s) :
    AllStates (step cfg) (Answers cfg) init es ↔ AllSteps (step cfg) (KeepsAnswers cfg) init es :=
  allStates_iff_allSteps (fun _ _ _ hinv he => inv_step hinv he)
    (fun _ _ _ hinv h he => answers_step_iff hinv h he) hrun inv_init answers_init

/-- Four workers and a queue of the size that the chat server uses. -/
def fourWorkers : Config := ⟨Json.compact, 4, 1000⟩

/-- A `POST` request with the text of a value. -/
def post (target : String) (root : Json) : Request := ⟨.post, target, Json.compact.dump root⟩

def loginRoot : Json := .object [("user", .str "alice"), ("password", .str "secret")]

lemma wf_loginRoot : loginRoot.Wf := wf_object (by simp [Wf])

/-- A login with both fields, while the database cannot be reached. -/
theorem answers_login :
    AllStates (step fourWorkers) (Answers fourWorkers) init
      [.read (post "/account_login" loginRoot), .take 0, .finish 0 noServices] := by
  refine (answers_all_iff rfl).2 ⟨.inr ⟨by decide, 0, by decide, by simp [init]⟩, fun s₁ h₁ => ?_⟩
  obtain rfl := Option.some.inj h₁
  refine ⟨trivial, fun s₂ h₂ => ?_⟩
  obtain rfl := Option.some.inj h₂
  refine ⟨fun task htask => ?_, fun _ _ => trivial⟩
  obtain rfl := WorkerState.handling.inj htask
  refine .inr ⟨rfl, fun fields hfields => .inl ?_⟩
  obtain rfl : ["user", "password"] = fields := Option.some.inj hfields
  exact ⟨_, Json.compact.parse_dump wf_loginRoot, by decide⟩

/-- The body `[]` ends the process, and a request with another verb gets no response. -/
theorem not_answers_array :
    (∃ s, run (step fourWorkers) init
        [.read (post "/account_login" (.arr [])), .take 0, .finish 0 noServices] = some s ∧
      s.terminated = true ∧ s.written = [] ∧ ¬ s.Answers fourWorkers) ∧
    ∃ s, run (step fourWorkers) init [.read ⟨.other, "/get_test", []⟩] = some s ∧
      s.AtRest fourWorkers ∧ s.requests.length = 1 ∧ s.written = [] ∧
      ¬ s.Answers fourWorkers := by
  have hnone : responseTo Json.compact noServices "/account_login" false
      (Json.compact.dump (.arr [])) = none := by
    have hparse : Json.compact.parse (Json.compact.dump (.arr [])) = some (.arr []) :=
      Json.compact.parse_dump trivial
    simp only [responseTo, handlePost, hparse]
    rfl
  constructor
  · refine ⟨_, rfl, ?_⟩
    rw [answer_of_none hnone]
    refine ⟨rfl, rfl, fun h => ?_⟩
    cases h.alive
  · have hrest : AtRest fourWorkers (init.read fourWorkers ⟨.other, "/get_test", []⟩) :=
      fun i services => ⟨rfl, rfl, rfl, rfl, rfl⟩
    refine ⟨_, rfl, hrest, rfl, rfl, fun h => ?_⟩
    have honce := h.once_of_atRest hrest ⟨0, ⟨.other, "/get_test", []⟩⟩
      (List.mem_singleton_self _)
    exact absurd honce (Nat.zero_ne_one)

end Runs

end Gateway

end GateServer

end WeChat
