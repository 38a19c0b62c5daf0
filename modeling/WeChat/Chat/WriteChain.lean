/-
# The write chain of a session

`CSession::send` starts a write when the queue was empty, and `handle_async_write` starts the
next one when a write has completed.  Both hold `_mutex`, so each is one event here.  The
nodes are opaque buffers, any number of writes may be under way, and a write moves its bytes
to the socket piece by piece: that the pieces never interleave is a consequence.
-/
import WeChat.Chat.SendQueue

namespace WeChat

namespace CSession

open Wire Framed Transition

/-- An `async_write` that has not completed: its buffer, and how much of it is written. -/
structure Write where
  buffer : Bytes
  written : ℕ

/-- The bytes that a write has still to transfer. -/
def Write.rest (w : Write) : Bytes := w.buffer.drop w.written

/-- A session as its writes see it, with the history of the calls of `send`. -/
structure WriteState where
  _send_queue : List Bytes
  outstanding : List Write
  /-- The bytes that were written to the socket. -/
  socket : Bytes
  /-- The buffers that `send` has queued, in their order. -/
  accepted : List Bytes
  /-- The size of the queue at each call that was refused. -/
  refused : List ℕ
  /-- The number of writes that were started. -/
  started : ℕ
  failed : Bool

inductive WriteEvent
  /-- Some thread calls `send`. -/
  | send (msgData : Bytes)
  /-- The socket takes the next bytes of a write. -/
  | transfer (i n : ℕ)
  /-- A write completes and its handler runs; `ok` says that there was no error. -/
  | complete (i : ℕ) (ok : Bool)

/-- The session of a new connection. -/
def WriteState.init : WriteState := ⟨[], [], [], [], [], 0, false⟩

/-- `async_write` of the front node. -/
def WriteState.startFront (s : WriteState) : WriteState :=
  match s._send_queue with
  | [] => s
  | front :: _ => { s with outstanding := s.outstanding ++ [⟨front, 0⟩], started := s.started + 1 }

/-- `CSession::send`. -/
def WriteState.send (s : WriteState) (msgData : Bytes) : WriteState :=
  let queueSize := s._send_queue.length
  if queueMaxSize < queueSize then
    { s with refused := s.refused ++ [queueSize] }
  else
    let queued := { s with
      _send_queue := s._send_queue ++ [msgData]
      accepted := s.accepted ++ [msgData] }
    if 0 < queueSize then queued else queued.startFront

/-- `CSession::handle_async_write`.  After an error the node stays in the queue. -/
def WriteState.handleAsyncWrite (s : WriteState) (ok : Bool) : WriteState :=
  if ok then { s with _send_queue := s._send_queue.tail }.startFront else { s with failed := true }

/-- One event at a session.  A write completes without error only when its whole buffer is
written; an error can come at any point. -/
def writeStep (s : WriteState) : WriteEvent → Option WriteState
  | .send msgData => some (s.send msgData)
  | .transfer i n =>
    match s.outstanding[i]? with
    | none => none
    | some w =>
      if w.written + n ≤ w.buffer.length then
        some { s with
          outstanding := s.outstanding.set i ⟨w.buffer, w.written + n⟩
          socket := s.socket ++ w.rest.take n }
      else none
  | .complete i ok =>
    match s.outstanding[i]? with
    | none => none
    | some w =>
      if ok = true → w.written = w.buffer.length then
        some ({ s with outstanding := s.outstanding.eraseIdx i }.handleAsyncWrite ok)
      else none

/-! ## What one event does -/

lemma WriteState.send_of_full {s : WriteState} (h : queueMaxSize < s._send_queue.length)
    (msgData : Bytes) :
    s.send msgData = { s with refused := s.refused ++ [s._send_queue.length] } :=
  if_pos h

lemma WriteState.send_of_busy {s : WriteState} (h : s._send_queue.length ≤ queueMaxSize)
    (hbusy : s._send_queue ≠ []) (msgData : Bytes) :
    s.send msgData = { s with
      _send_queue := s._send_queue ++ [msgData]
      accepted := s.accepted ++ [msgData] } := by
  rw [WriteState.send, if_neg (Nat.not_lt.2 h), if_pos (List.length_pos_of_ne_nil hbusy)]

/-- The only call of `send` that starts a write. -/
lemma WriteState.send_of_idle {s : WriteState} (h : s._send_queue = []) (msgData : Bytes) :
    s.send msgData = { s with
      _send_queue := [msgData]
      outstanding := s.outstanding ++ [⟨msgData, 0⟩]
      accepted := s.accepted ++ [msgData]
      started := s.started + 1 } := by
  simp [WriteState.send, WriteState.startFront, h]

lemma writeStep_transfer {s s' : WriteState} {i n : ℕ}
    (h : writeStep s (.transfer i n) = some s') :
    ∃ w, s.outstanding[i]? = some w ∧ w.written + n ≤ w.buffer.length ∧ s' = { s with
      outstanding := s.outstanding.set i ⟨w.buffer, w.written + n⟩
      socket := s.socket ++ w.rest.take n } := by
  simp only [writeStep] at h
  split at h
  · cases h
  · split at h
    · exact ⟨_, ‹_›, ‹_›, (Option.some.inj h).symm⟩
    · cases h

lemma writeStep_complete {s s' : WriteState} {i : ℕ} {ok : Bool}
    (h : writeStep s (.complete i ok) = some s') :
    ∃ w, s.outstanding[i]? = some w ∧ (ok = true → w.rest = []) ∧
      s' = { s with outstanding := s.outstanding.eraseIdx i }.handleAsyncWrite ok := by
  simp only [writeStep] at h
  split at h
  · cases h
  · rename_i w hw
    split at h
    · rename_i hok
      refine ⟨w, hw, fun ht => ?_, (Option.some.inj h).symm⟩
      rw [Write.rest, hok ht, List.drop_length]
    · cases h

/-! ## The three phases of a session -/

/-- Where a session stands: it has nothing to write, it writes the front node, or a write of
the front node has failed. -/
inductive Phase (s : WriteState) : Prop
  | idle (queue : s._send_queue = []) (writes : s.outstanding = []) (live : s.failed = false)
      (socket : s.socket = s.accepted.flatten)
  | writing (w : Write) (rest : List Bytes) (le : w.written ≤ w.buffer.length)
      (queue : s._send_queue = w.buffer :: rest) (writes : s.outstanding = [w])
      (live : s.failed = false)
      (socket : s.socket ++ w.rest ++ rest.flatten = s.accepted.flatten)
  | broken (queue : s._send_queue ≠ []) (writes : s.outstanding = []) (dead : s.failed = true)
      (socket : s.socket <+: s.accepted.flatten)

lemma Phase.socket_prefix {s : WriteState} (h : Phase s) : s.socket <+: s.accepted.flatten := by
  cases h with
  | idle queue writes live socket => exact socket ▸ List.prefix_refl _
  | writing w rest le queue writes live socket =>
    rw [← socket, List.append_assoc]
    exact List.prefix_append _ _
  | broken queue writes dead socket => exact socket

/-- What holds between two events. -/
structure Chained (s : WriteState) : Prop where
  phase : Phase s
  length_le : s._send_queue.length ≤ queueMaxSize + 1
  refused : ∀ n ∈ s.refused, queueMaxSize < n

lemma chained_init : Chained .init where
  phase := .idle rfl rfl rfl rfl
  length_le := Nat.zero_le _
  refused := by simp [WriteState.init]

/-- A call of `send` in each phase. -/
lemma Phase.send {s : WriteState} (h : Phase s) (msgData : Bytes) : Phase (s.send msgData) := by
  by_cases hfull : queueMaxSize < s._send_queue.length
  · rw [WriteState.send_of_full hfull]
    cases h with
    | idle queue writes live socket => exact .idle queue writes live socket
    | writing w rest le queue writes live socket =>
      exact .writing w rest le queue writes live socket
    | broken queue writes dead socket => exact .broken queue writes dead socket
  · have hroom := Nat.not_lt.1 hfull
    cases h with
    | idle queue writes live socket =>
      rw [WriteState.send_of_idle queue]
      refine .writing ⟨msgData, 0⟩ [] (Nat.zero_le _) rfl ?_ live ?_
      · simp [writes]
      · simp [socket, Write.rest]
    | writing w rest le queue writes live socket =>
      rw [WriteState.send_of_busy hroom (by simp [queue])]
      refine .writing w (rest ++ [msgData]) le ?_ writes live ?_
      · simp [queue]
      · simp [← socket]
    | broken queue writes dead socket =>
      rw [WriteState.send_of_busy hroom queue]
      refine .broken (by simp) writes dead ?_
      simp only [List.flatten_append]
      exact socket.trans (List.prefix_append _ _)

lemma getElem?_singleton_inj {w w' : Write} {i : ℕ} (h : [w][i]? = some w') :
    i = 0 ∧ w' = w := by
  cases i with
  | zero => exact ⟨rfl, (Option.some.inj h).symm⟩
  | succ i => simp at h

/-- A transfer moves bytes from the write that is under way to the socket. -/
lemma Phase.transfer {s s' : WriteState} {i n : ℕ} (h : Phase s)
    (hstep : writeStep s (.transfer i n) = some s') : Phase s' := by
  obtain ⟨w', hw, hle, rfl⟩ := writeStep_transfer hstep
  cases h with
  | idle queue writes live socket => simp [writes] at hw
  | writing w rest le queue writes live socket =>
    obtain ⟨rfl, rfl⟩ := getElem?_singleton_inj (writes ▸ hw)
    refine .writing ⟨w'.buffer, w'.written + n⟩ rest hle queue ?_ live ?_
    · simp [writes]
    · have hrest : (⟨w'.buffer, w'.written + n⟩ : Write).rest = w'.rest.drop n := by
        simp [Write.rest, List.drop_drop]
      rw [hrest, List.append_assoc s.socket, List.take_append_drop]
      exact socket
  | broken queue writes dead socket => simp [writes] at hw

/-- A completion hands the chain to the next node, or breaks it. -/
lemma Phase.complete {s s' : WriteState} {i : ℕ} {ok : Bool} (h : Phase s)
    (hstep : writeStep s (.complete i ok) = some s') : Phase s' := by
  obtain ⟨w', hw, hok, rfl⟩ := writeStep_complete hstep
  cases h with
  | idle queue writes live socket => simp [writes] at hw
  | writing w rest le queue writes live socket =>
    obtain ⟨rfl, rfl⟩ := getElem?_singleton_inj (writes ▸ hw)
    cases ok with
    | false =>
      refine .broken ?_ ?_ rfl ⟨w'.rest ++ rest.flatten, ?_⟩
      · simp [WriteState.handleAsyncWrite, queue]
      · simp [WriteState.handleAsyncWrite, writes]
      · rw [← List.append_assoc]
        exact socket
    | true =>
      rw [hok rfl, List.append_nil] at socket
      cases rest with
      | nil =>
        rw [List.flatten_nil, List.append_nil] at socket
        refine .idle ?_ ?_ ?_ ?_ <;>
          simp [WriteState.handleAsyncWrite, WriteState.startFront, queue, writes, live, socket]
      | cons front rest =>
        refine .writing ⟨front, 0⟩ rest (Nat.zero_le _) ?_ ?_ ?_ ?_ <;>
          simp [WriteState.handleAsyncWrite, WriteState.startFront, queue, writes, live,
            ← socket, Write.rest]
  | broken queue writes dead socket => simp [writes] at hw

@[simp] lemma WriteState.startFront_send_queue (s : WriteState) :
    s.startFront._send_queue = s._send_queue := by
  unfold WriteState.startFront
  split <;> rfl

@[simp] lemma WriteState.startFront_refused (s : WriteState) :
    s.startFront.refused = s.refused := by
  unfold WriteState.startFront
  split <;> rfl

/-- A call of `send` is refused by a full queue only. -/
lemma Chained.send {s : WriteState} (h : Chained s) (msgData : Bytes) :
    Chained (s.send msgData) where
  phase := h.phase.send msgData
  length_le := by
    have hle := h.length_le
    simp only [WriteState.send]
    split_ifs <;> simp <;> omega
  refused := by
    have hrefused := h.refused
    simp only [WriteState.send]
    split_ifs with hfull
    · simpa [or_imp, forall_and] using ⟨hrefused, hfull⟩
    · exact hrefused
    · simpa using hrefused

lemma Chained.transfer {s s' : WriteState} {i n : ℕ} (h : Chained s)
    (hstep : writeStep s (.transfer i n) = some s') : Chained s' := by
  have hphase := h.phase.transfer hstep
  obtain ⟨w, -, -, rfl⟩ := writeStep_transfer hstep
  exact ⟨hphase, h.length_le, h.refused⟩

lemma Chained.complete {s s' : WriteState} {i : ℕ} {ok : Bool} (h : Chained s)
    (hstep : writeStep s (.complete i ok) = some s') : Chained s' := by
  have hphase := h.phase.complete hstep
  have hle := h.length_le
  obtain ⟨w, -, -, rfl⟩ := writeStep_complete hstep
  refine ⟨hphase, ?_, ?_⟩
  · cases ok <;> simp [WriteState.handleAsyncWrite] <;> omega
  · cases ok <;> simpa [WriteState.handleAsyncWrite] using h.refused

/-- Every event keeps the chain. -/
lemma Chained.step {s s' : WriteState} {e : WriteEvent} (h : Chained s)
    (hstep : writeStep s e = some s') : Chained s' := by
  cases e with
  | send msgData => exact Option.some.inj hstep ▸ h.send msgData
  | transfer i n => exact h.transfer hstep
  | complete i ok => exact h.complete hstep

lemma chained_of_run {es : List WriteEvent} {s : WriteState}
    (hrun : run writeStep .init es = some s) : Chained s :=
  run_invariant (fun _ _ _ => Chained.step) hrun chained_init

/-! ## The writes that are outstanding -/

lemma WriteState.startFront_outstanding_eq_nil_iff {s : WriteState} :
    s.startFront.outstanding = [] ↔ s.outstanding = [] ∧ s._send_queue = [] := by
  cases hq : s._send_queue with
  | nil => simp [WriteState.startFront, hq]
  | cons front rest => simp [WriteState.startFront, hq]

/-- A call of `send` ends no write. -/
lemma WriteState.outstanding_of_send {s : WriteState} {msgData : Bytes}
    (h : (s.send msgData).outstanding = []) : s.outstanding = [] := by
  rw [WriteState.send] at h
  dsimp only at h
  split_ifs at h
  · exact h
  · exact h
  · exact (WriteState.startFront_outstanding_eq_nil_iff.1 h).1

lemma outstanding_transfer_eq_nil_iff {s s' : WriteState} {i n : ℕ}
    (h : writeStep s (.transfer i n) = some s') : s'.outstanding = [] ↔ s.outstanding = [] := by
  obtain ⟨w, -, -, rfl⟩ := writeStep_transfer h
  simp only [List.set_eq_nil_iff]

/-- A write that completes is the last one when no node is queued behind it. -/
lemma Chained.outstanding_complete_eq_nil_iff {s s' : WriteState} {i : ℕ} (h : Chained s)
    (hstep : writeStep s (.complete i true) = some s') :
    s'.outstanding = [] ↔ s._send_queue.tail = [] := by
  obtain ⟨w', hw, -, rfl⟩ := writeStep_complete hstep
  cases h.phase with
  | idle queue writes live socket => simp [writes] at hw
  | writing w rest le queue writes live socket =>
    obtain ⟨rfl, rfl⟩ := getElem?_singleton_inj (writes ▸ hw)
    rw [WriteState.handleAsyncWrite, if_pos rfl, WriteState.startFront_outstanding_eq_nil_iff]
    simp [writes]
  | broken queue writes dead socket => simp [writes] at hw

/-! ## After a failed write -/

/-- A broken chain stays broken, and starts no write. -/
lemma Chained.step_of_failed {s s' : WriteState} {e : WriteEvent} (h : Chained s)
    (hdead : s.failed = true) (hstep : writeStep s e = some s') :
    s'.failed = true ∧ s'.started = s.started := by
  cases h.phase with
  | idle queue writes live socket => simp [live] at hdead
  | writing w rest le queue writes live socket => simp [live] at hdead
  | broken queue writes dead socket =>
    cases e with
    | send msgData =>
      obtain rfl := Option.some.inj hstep
      by_cases hfull : queueMaxSize < s._send_queue.length
      · rw [WriteState.send_of_full hfull]
        exact ⟨dead, rfl⟩
      · -- the failed node is still at the front, so the call only queues
        rw [WriteState.send_of_busy (Nat.not_lt.1 hfull) queue]
        exact ⟨dead, rfl⟩
    | transfer i n =>
      obtain ⟨w, hw, -⟩ := writeStep_transfer hstep
      simp [writes] at hw
    | complete i ok =>
      obtain ⟨w, hw, -⟩ := writeStep_complete hstep
      simp [writes] at hw

lemma Chained.run_of_failed {s s' : WriteState} {es : List WriteEvent} (h : Chained s)
    (hdead : s.failed = true) (hrun : run writeStep s es = some s') : s'.started = s.started := by
  have hinv := run_invariant
    (I := fun u : WriteState => Chained u ∧ u.failed = true ∧ u.started = s.started)
    (fun u e u' hu hstep => by
      obtain ⟨hdead', hstarted⟩ := hu.1.step_of_failed hu.2.1 hstep
      exact ⟨hu.1.step hstep, hdead', hstarted.trans hu.2.2⟩)
    hrun ⟨h, hdead, rfl⟩
  exact hinv.2.2

/-- **The discipline of the send queue.**  In every run, as long as no write has failed: one
write is outstanding exactly when the queue is not empty, and it writes the front node; what
is on the socket, what that write has still to transfer and the nodes behind it are the
buffers that `send` has accepted, in their order.  A call is refused by a full queue only, and
the queue holds at most one node more than `QUEUE_MAX_SIZE`.  After a failed write no other
write is started. -/
theorem write_discipline {es : List WriteEvent} {s : WriteState}
    (hrun : run writeStep .init es = some s) :
    (s.failed = false →
      (s.outstanding.length = 1 ↔ s._send_queue ≠ []) ∧
      s.outstanding.map Write.buffer = s._send_queue.take 1 ∧
      s.socket ++ s.outstanding.flatMap Write.rest ++ s._send_queue.tail.flatten =
        s.accepted.flatten) ∧
    (∀ n ∈ s.refused, queueMaxSize < n) ∧
    s._send_queue.length ≤ queueMaxSize + 1 ∧
    (s.failed = true →
      ∀ es' s', run writeStep s es' = some s' → s'.started = s.started) := by
  have h := chained_of_run hrun
  refine ⟨fun hlive => ?_, h.refused, h.length_le, fun hdead es' s' => h.run_of_failed hdead⟩
  cases h.phase with
  | idle queue writes live socket => simp [queue, writes, socket]
  | writing w rest le queue writes live socket => simp [queue, writes, ← socket]
  | broken queue writes dead socket => simp [hlive] at dead

/-- Two nodes, of which the first is written in two pieces. -/
theorem write_discipline_two :
    run writeStep .init [.send [1, 2], .send [3], .transfer 0 1, .transfer 0 1, .complete 0 true] =
      some ⟨[[3]], [⟨[3], 0⟩], [1, 2], [[1, 2], [3]], [], 2, false⟩ ∧
    ([⟨[3], 0⟩] : List Write).map Write.buffer = [[3]] := by
  have hrun : run writeStep .init
      [.send [1, 2], .send [3], .transfer 0 1, .transfer 0 1, .complete 0 true] =
      some ⟨[[3]], [⟨[3], 0⟩], [1, 2], [[1, 2], [3]], [], 2, false⟩ := rfl
  exact ⟨hrun, ((write_discipline hrun).1 rfl).2.1⟩

/-! ## The nodes of the replies -/

/-- The write chain of a send queue: its nodes are the buffers that `async_write` takes, and
it has accepted what the calls of `send` put on the socket. -/
structure ChainOf (t : SendState) (s : WriteState) : Prop where
  chained : Chained s
  live : s.failed = false
  queue : s._send_queue.map some = t._send_queue.map SendNode.wire
  accepted : s.accepted.flatten = t.calls.flatMap Call.wire

lemma ChainOf.length_eq {t : SendState} {s : WriteState} (h : ChainOf t s) :
    s._send_queue.length = t._send_queue.length := by
  simpa using congrArg List.length h.queue

/-- A reply that is short enough is a call of `send` with its frame. -/
lemma ChainOf.reply {t t' : SendState} {s : WriteState} {id : ℤ} {payload : Bytes}
    (h : ChainOf t s) (hfits : Fits t (.reply id payload))
    (hstep : sendStep t (.reply id payload) = some t') :
    ChainOf t' (s.send (header id payload.length ++ payload)) := by
  have hchained := h.chained.send (header id payload.length ++ payload)
  obtain rfl := Option.some.inj hstep
  by_cases hfull : queueMaxSize < t._send_queue.length
  · rw [WriteState.send_of_full (h.length_eq.symm ▸ hfull)] at hchained ⊢
    refine ⟨hchained, h.live, ?_, ?_⟩
    · simpa [send_of_full hfull] using h.queue
    · simpa [send_of_full hfull, Call.wire] using h.accepted
  · have hroom := Nat.not_lt.1 hfull
    have hsent := send_of_le id hroom (hfits hroom)
    by_cases hidle : s._send_queue = []
    · rw [WriteState.send_of_idle hidle] at hchained ⊢
      refine ⟨hchained, h.live, ?_, ?_⟩
      · simp [hsent, wire_node, ← h.queue, hidle]
      · simp [hsent, Call.wire, wire_node, ← h.accepted]
    · rw [WriteState.send_of_busy (h.length_eq.symm ▸ hroom) hidle] at hchained ⊢
      refine ⟨hchained, h.live, ?_, ?_⟩
      · simp [hsent, wire_node, ← h.queue]
      · simp [hsent, Call.wire, wire_node, ← h.accepted]

/-- The write of the front node transfers the bytes that are left, and completes. -/
lemma ChainOf.written {t t' : SendState} {s : WriteState} (h : ChainOf t s)
    (hstep : sendStep t .written = some t') :
    ∃ es s', run writeStep s es = some s' ∧ ChainOf t' s' := by
  obtain ⟨nodes, calls⟩ := t
  cases nodes with
  | nil => cases hstep
  | cons node nodes =>
    obtain rfl := Option.some.inj hstep
    have hlength := h.length_eq
    cases h.chained.phase with
    | idle queue writes live socket => simp [queue] at hlength
    | writing w rest le queue writes live socket =>
      have hrest : w.written + w.rest.length = w.buffer.length := by
        rw [Write.rest, List.length_drop]
        omega
      have hrun : run writeStep s [.transfer 0 w.rest.length, .complete 0 true] =
          some ({ s with
            outstanding := []
            socket := s.socket ++ w.rest }.handleAsyncWrite true) := by
        simp [run, writeStep, writes, hrest]
      refine ⟨_, _, hrun, ?_, ?_, ?_, ?_⟩
      · exact run_invariant (fun _ _ _ => Chained.step) hrun h.chained
      · simp only [WriteState.handleAsyncWrite, WriteState.startFront, if_true]
        split <;> exact live
      · have htail := congrArg List.tail h.queue
        simpa [WriteState.handleAsyncWrite, queue] using htail
      · have haccepted := h.accepted
        simp only [WriteState.handleAsyncWrite, WriteState.startFront, if_true]
        split <;> exact haccepted
    | broken queue writes dead socket => simp [h.live] at dead

lemma ChainOf.step {t t' : SendState} {s : WriteState} {e : SendEvent} (h : ChainOf t s)
    (hfits : Fits t e) (hstep : sendStep t e = some t') :
    ∃ es s', run writeStep s es = some s' ∧ ChainOf t' s' := by
  cases e with
  | reply id payload => exact ⟨[.send _], _, rfl, h.reply hfits hstep⟩
  | written => exact h.written hstep

/-- **The send queue refines the write chain.**  A run of replies that fit is a run of the
write chain over their frames, so what is on the socket of the session is a prefix of what
the calls of `send` have put there. -/
theorem sendStep_refines {es : List SendEvent} {t : SendState}
    (hrun : run sendStep .init es = some t) (hfits : AllSteps sendStep Fits .init es) :
    ∃ es' s, run writeStep .init es' = some s ∧ ChainOf t s ∧
      s.socket <+: t.calls.flatMap Call.wire := by
  have hchain : ∃ es' s, run writeStep .init es' = some s ∧ ChainOf t s := by
    refine run_induction
      (I := fun t => ∃ es' s, run writeStep .init es' = some s ∧ ChainOf t s) ?_ hrun hfits
      ⟨[], .init, rfl, chained_init, rfl, rfl, rfl⟩
    rintro t e t' ⟨es', s, hrun', hchain⟩ hfit hstep
    obtain ⟨es'', s', hrun'', hchain'⟩ := hchain.step hfit hstep
    exact ⟨es' ++ es'', s', (run_append_of hrun').trans hrun'', hchain'⟩
  obtain ⟨es', s, hrun', hchain⟩ := hchain
  exact ⟨es', s, hrun', hchain, hchain.accepted ▸ hchain.chained.phase.socket_prefix⟩

end CSession

end WeChat
