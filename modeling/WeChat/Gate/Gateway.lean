/-
# The requests of the gateway

A request that has been read becomes a task of one queue, and worker threads take the tasks and
write the responses.  An exception that leaves a worker ends the process.  After `close` a
worker leaves its loop, takes the mutex and empties the queue before it exits.
-/
import Mathlib.Logic.Function.Basic
import WeChat.Gate.Handlers

namespace WeChat

open Json

namespace GateServer

/-- `HttpConnection`, which reads one request; the connections are numbered. -/
structure HttpConnection where
  num : ℕ
  _request : Request
deriving DecidableEq

/-- A task is made in `handleRequest` from the request of its connection. -/
structure Task where
  path : String
  connection : HttpConnection
  isGet : Bool
  path_eq : path = connection._request.target
  isGet_eq : isGet = decide (connection._request.method = .get)
  method_ne : connection._request.method ≠ .other

/-- Where a worker thread stands. -/
inductive WorkerState
  /-- At the head of the loop or in the wait. -/
  | waiting
  /-- In `handleGet` or `handlePost`, without the mutex. -/
  | handling (task : Task)
  /-- Behind the loop, with the mutex. -/
  | draining
  | exited

/-- What does not change while the gateway runs; the headers of `GateServer` leave
`QUEUE_MAX_SIZE` open. -/
structure Config where
  codec : Codec
  workerCount : ℕ
  queueMaxSize : ℕ

/-- The state of the gateway. -/
structure Gateway where
  _queue : List Task
  worker : ℕ → WorkerState
  /-- The worker that holds the mutex while it empties the queue. -/
  _mutex : Option ℕ
  _isStop : Bool
  /-- An exception has left a worker. -/
  terminated : Bool
  /-- The number of the requests that were read. -/
  connections : ℕ
  /-- The connections whose request was read while the queue was not full. -/
  requests : List HttpConnection
  /-- The calls of `HttpConnection::response`. -/
  written : List (HttpConnection × Response)

/-- What happens. -/
inductive GateEvent
  /-- A connection has read its request. -/
  | read (request : Request)
  /-- A worker takes the first task. -/
  | take (i : ℕ)
  /-- A worker handles its task, and goes back to the loop. -/
  | finish (i : ℕ) (services : Services)
  /-- `LogicSystem::close`. -/
  | close
  /-- A worker leaves the loop and locks the mutex. -/
  | leave (i : ℕ)
  /-- A worker behind the loop takes the first task and handles it. -/
  | drain (i : ℕ) (services : Services)
  /-- A worker behind the loop finds the queue empty. -/
  | exit (i : ℕ)

namespace Gateway

def init : Gateway := ⟨[], fun _ => .waiting, none, false, false, 0, [], []⟩

variable (cfg : Config)

/-- `LogicSystem::pushTask`. -/
def pushTask (s : Gateway) (task : Task) : Gateway :=
  if cfg.queueMaxSize < s._queue.length then s else { s with _queue := s._queue ++ [task] }

/-- `HttpConnection::handleRequest`. -/
def handleRequest (s : Gateway) (connection : HttpConnection) : Gateway :=
  match h : connection._request.method with
  | .get => s.pushTask cfg ⟨connection._request.target, connection, true, rfl, by rw [h]; rfl,
      fun hother => nomatch h.symm.trans hother⟩
  | .post => s.pushTask cfg ⟨connection._request.target, connection, false, rfl, by rw [h]; rfl,
      fun hother => nomatch h.symm.trans hother⟩
  | .other => s

/-- The body of the loop after a task was taken. -/
def answer (s : Gateway) (services : Services) (task : Task) : Gateway :=
  match responseTo cfg.codec services task.path task.isGet task.connection._request.body with
  | some response => { s with written := s.written ++ [(task.connection, response)] }
  | none => { s with terminated := true }

/-- The request is read while the queue is full. -/
def Full (s : Gateway) : Prop := cfg.queueMaxSize < s._queue.length

instance (s : Gateway) : Decidable (s.Full cfg) := inferInstanceAs (Decidable (_ < _))

/-- The connection of a request that is read. -/
def newConnection (s : Gateway) (request : Request) : HttpConnection := ⟨s.connections, request⟩

/-- A request is read and handled, and put in the books. -/
def read (s : Gateway) (request : Request) : Gateway :=
  let connection := s.newConnection request
  let requests := if s.Full cfg then s.requests else s.requests ++ [connection]
  { s.handleRequest cfg connection with
    connections := s.connections + 1
    requests := requests }

/-- One event while the process runs. -/
def next (s : Gateway) : GateEvent → Option Gateway
  | .read request =>
    if request.method = .other ∨ s._mutex = none then some (s.read cfg request) else none
  | .take i =>
    match s.worker i, s._mutex, s._isStop, s._queue with
    | .waiting, none, false, task :: queue =>
      if i < cfg.workerCount then
        some { s with
          _queue := queue
          worker := Function.update s.worker i (.handling task) }
      else none
    | _, _, _, _ => none
  | .finish i services =>
    match s.worker i with
    | .handling task =>
      if i < cfg.workerCount then
        some ({ s with worker := Function.update s.worker i .waiting }.answer cfg services task)
      else none
    | _ => none
  | .close => some { s with _isStop := true }
  | .leave i =>
    match s.worker i, s._mutex, s._isStop with
    | .waiting, none, true =>
      if i < cfg.workerCount then
        some { s with
          worker := Function.update s.worker i .draining
          _mutex := some i }
      else none
    | _, _, _ => none
  | .drain i services =>
    match s.worker i, s._queue with
    | .draining, task :: queue =>
      if i < cfg.workerCount then
        some ({ s with _queue := queue }.answer cfg services task)
      else none
    | _, _ => none
  | .exit i =>
    match s.worker i, s._queue with
    | .draining, [] =>
      if i < cfg.workerCount then
        some { s with
          worker := Function.update s.worker i .exited
          _mutex := none }
      else none
    | _, _ => none

/-- One event. -/
def step (s : Gateway) (e : GateEvent) : Option Gateway :=
  if s.terminated then none else s.next cfg e

/-! ## What a step does -/

section Steps

variable {cfg : Config} {s s' : Gateway} {e : GateEvent} {services : Services} {i : ℕ}

lemma next_of_step (h : step cfg s e = some s') :
    s.terminated = false ∧ s.next cfg e = some s' := by
  rw [step] at h
  split_ifs at h with halive
  exact ⟨Bool.not_eq_true _ ▸ halive, h⟩

lemma next_read {request : Request} (h : s.next cfg (.read request) = some s') :
    s' = s.read cfg request := by
  simp only [next] at h
  split_ifs at h
  exact (Option.some.inj h).symm

lemma next_take (h : s.next cfg (.take i) = some s') :
    i < cfg.workerCount ∧ s.worker i = .waiting ∧ s._mutex = none ∧
      ∃ task queue, s._queue = task :: queue ∧
        s' = { s with
          _queue := queue
          worker := Function.update s.worker i (.handling task) } := by
  simp only [next] at h
  split at h
  · next hworker hmutex _ hqueue =>
    split_ifs at h with hi
    exact ⟨hi, hworker, hmutex, _, _, hqueue, (Option.some.inj h).symm⟩
  · cases h

lemma next_finish (h : s.next cfg (.finish i services) = some s') :
    i < cfg.workerCount ∧ ∃ task, s.worker i = .handling task ∧
      s' = { s with worker := Function.update s.worker i .waiting }.answer cfg services task := by
  simp only [next] at h
  split at h
  · next hworker =>
    split_ifs at h with hi
    exact ⟨hi, _, hworker, (Option.some.inj h).symm⟩
  · cases h

lemma next_leave (h : s.next cfg (.leave i) = some s') :
    i < cfg.workerCount ∧ s.worker i = .waiting ∧ s._mutex = none ∧
      s' = { s with
        worker := Function.update s.worker i .draining
        _mutex := some i } := by
  simp only [next] at h
  split at h
  · next hworker hmutex _ =>
    split_ifs at h with hi
    exact ⟨hi, hworker, hmutex, (Option.some.inj h).symm⟩
  · cases h

lemma next_drain (h : s.next cfg (.drain i services) = some s') :
    i < cfg.workerCount ∧ s.worker i = .draining ∧ ∃ task queue, s._queue = task :: queue ∧
      s' = { s with _queue := queue }.answer cfg services task := by
  simp only [next] at h
  split at h
  · next hworker hqueue =>
    split_ifs at h with hi
    exact ⟨hi, hworker, _, _, hqueue, (Option.some.inj h).symm⟩
  · cases h

lemma next_exit (h : s.next cfg (.exit i) = some s') :
    i < cfg.workerCount ∧ s.worker i = .draining ∧ s._queue = [] ∧
      s' = { s with
        worker := Function.update s.worker i .exited
        _mutex := none } := by
  simp only [next] at h
  split at h
  · next hworker hqueue =>
    split_ifs at h with hi
    exact ⟨hi, hworker, hqueue, (Option.some.inj h).symm⟩
  · cases h

lemma handleRequest_full {connection : HttpConnection} (h : s.Full cfg) :
    s.handleRequest cfg connection = s := by
  rw [handleRequest]
  split
  · exact if_pos h
  · exact if_pos h
  · rfl

lemma handleRequest_other {connection : HttpConnection}
    (h : connection._request.method = .other) : s.handleRequest cfg connection = s := by
  rw [handleRequest]
  split
  · next hget => exact nomatch h.symm.trans hget
  · next hpost => exact nomatch h.symm.trans hpost
  · rfl

lemma handleRequest_pushed {connection : HttpConnection} (h : ¬ s.Full cfg)
    (hmethod : connection._request.method ≠ .other) :
    ∃ task : Task, task.connection = connection ∧
      s.handleRequest cfg connection = { s with _queue := s._queue ++ [task] } := by
  rw [handleRequest]
  split
  · exact ⟨_, rfl, if_neg h⟩
  · exact ⟨_, rfl, if_neg h⟩
  · next hother => exact absurd hother hmethod

/-- What becomes of a request that is read: it finds the queue full, it is given up because of
its verb, or it is a new task. -/
lemma read_cases (cfg : Config) (s : Gateway) (request : Request) :
    (s.Full cfg ∧ s.read cfg request = { s with connections := s.connections + 1 }) ∨
    (¬ s.Full cfg ∧ request.method = .other ∧ s.read cfg request = { s with
      connections := s.connections + 1
      requests := s.requests ++ [s.newConnection request] }) ∨
    (¬ s.Full cfg ∧ request.method ≠ .other ∧
      ∃ task : Task, task.connection = s.newConnection request ∧ s.read cfg request = { s with
        _queue := s._queue ++ [task]
        connections := s.connections + 1
        requests := s.requests ++ [s.newConnection request] }) := by
  by_cases hfull : s.Full cfg
  · refine .inl ⟨hfull, ?_⟩
    rw [read, if_pos hfull, handleRequest_full hfull]
  by_cases hother : (s.newConnection request)._request.method = .other
  · refine .inr (.inl ⟨hfull, hother, ?_⟩)
    rw [read, if_neg hfull, handleRequest_other hother]
  · obtain ⟨task, htask, hpushed⟩ := handleRequest_pushed hfull hother
    refine .inr (.inr ⟨hfull, hother, task, htask, ?_⟩)
    rw [read, if_neg hfull, hpushed]

/-- The two ends of a task. -/
lemma answer_cases (cfg : Config) (s : Gateway) (services : Services) (task : Task) :
    (∃ response, responseTo cfg.codec services task.path task.isGet
        task.connection._request.body = some response ∧
      s.answer cfg services task =
        { s with written := s.written ++ [(task.connection, response)] }) ∨
    responseTo cfg.codec services task.path task.isGet task.connection._request.body = none ∧
      s.answer cfg services task = { s with terminated := true } := by
  rw [answer]
  split
  · next response hresponse => exact .inl ⟨response, hresponse, rfl⟩
  · next hnone => exact .inr ⟨hnone, rfl⟩

lemma answer_of_none {task : Task} (h : responseTo cfg.codec services task.path task.isGet
    task.connection._request.body = none) :
    s.answer cfg services task = { s with terminated := true } := by
  rcases answer_cases cfg s services task with ⟨response, hsome, -⟩ | ⟨-, heq⟩
  · rw [h] at hsome
    cases hsome
  · exact heq

end Steps

end Gateway

end GateServer

end WeChat
