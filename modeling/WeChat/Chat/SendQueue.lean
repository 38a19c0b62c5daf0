/-
# The send queue of a session

`CSession::send` copies a reply behind a header into a new buffer and queues it for the
socket.  On the way its length is a `size_t`, then a `short`, then an `int` and a `short`
again in the `SendNode`, so the conversions are written out here; the undefined writes that a
wrong length leads to are outcomes of their own.
-/
import WeChat.Lib.Transition
import WeChat.Chat.Const
import WeChat.Client.TcpClient

namespace WeChat

namespace CSession

open Wire StreamDecoder Framed Transition

/-- `SendNode`: the buffer, and the fields in which the length is a short. -/
structure SendNode where
  _data : Bytes
  _id : ℤ
  _totalLen : ℤ

/-- What a call of `send` does. -/
inductive Sent
  /-- The queue is full and the call returns. -/
  | full
  /-- `new char[size]` throws, because `size` is negative. -/
  | badAlloc (size : ℤ)
  /-- The copies write outside the `size` bytes that were allocated. -/
  | overrun (size : ℤ)
  /-- `copied` bytes of the payload are copied, and the node is queued. -/
  | queued (copied : ℤ) (node : SendNode)

/-- `CSession::send` on a session with the given queue.  The third `memcpy` takes the short
`totalLen` as a `size_t`, so a negative one is beyond every buffer. -/
def send (_send_queue : List SendNode) (data : Bytes) (totalLen id : ℤ) : Sent :=
  if queueMaxSize < _send_queue.length then .full
  else if totalLen + 4 < 0 then .badAlloc (totalLen + 4)
  else if totalLen < 0 then .overrun (totalLen + 4)
  else .queued totalLen
    ⟨header id totalLen ++ data.take totalLen.toNat, id, toShort (totalLen + 4)⟩

/-- `send` of a text of this length throws while the queue has room: the size of the buffer, which
is computed from the short, is negative. -/
def throws (length : ℕ) : Bool := toShort length + 4 < 0

/-- What `send` does when the queue has room. -/
def frame (data : Bytes) (totalLen id : ℤ) : Sent :=
  if totalLen + 4 < 0 then .badAlloc (totalLen + 4)
  else if totalLen < 0 then .overrun (totalLen + 4)
  else .queued totalLen
    ⟨header id totalLen ++ data.take totalLen.toNat, id, toShort (totalLen + 4)⟩

lemma send_of_room {queue : List SendNode} (hq : queue.length ≤ queueMaxSize) (data : Bytes)
    (totalLen id : ℤ) : send queue data totalLen id = frame data totalLen id :=
  if_neg (Nat.not_lt.2 hq)

/-- The lengths at which `send` throws. -/
lemma throws_iff {length : ℕ} (data : Bytes) (id : ℤ) :
    throws length = true ↔ ∃ size, frame data (toShort length) id = .badAlloc size := by
  rw [throws, decide_eq_true_eq, frame]
  split_ifs with hneg hover
  · exact iff_of_true hneg ⟨_, rfl⟩
  · exact iff_of_false hneg (by simp)
  · exact iff_of_false hneg (by simp)

/-- The bytes that `async_write` takes from a node; a negative `_totalLen` makes the buffer
end far behind the node. -/
def SendNode.wire (node : SendNode) : Option Bytes :=
  if node._totalLen < 0 then none else some (node._data.take node._totalLen.toNat)

/-! ## Sequences of replies -/

/-- A reply of a handler, and what became of it. -/
structure Call where
  id : ℤ
  payload : Bytes
  sent : Sent

/-- The queue of a session, with the history of the calls of `send`. -/
structure SendState where
  _send_queue : List SendNode
  calls : List Call

/-- What happens to the queue. -/
inductive SendEvent
  /-- A handler passes a reply to `send`; its length is converted to a short. -/
  | reply (id : ℤ) (payload : Bytes)
  /-- The write of the front node has completed: `handle_async_write`. -/
  | written

/-- One event at the queue. -/
def sendStep (s : SendState) : SendEvent → Option SendState
  | .reply id payload =>
    let sent := send s._send_queue payload (toShort payload.length) id
    let queue := match sent with
      | .queued _ node => s._send_queue ++ [node]
      | _ => s._send_queue
    some ⟨queue, s.calls ++ [⟨id, payload, sent⟩]⟩
  | .written =>
    match s._send_queue with
    | [] => none
    | _ :: queue => some ⟨queue, s.calls⟩

/-- The session of a new connection. -/
def SendState.init : SendState := ⟨[], []⟩

/-- The state after the first reply of a session. -/
lemma run_reply (id : ℤ) (payload : Bytes) :
    ∃ queue, run sendStep .init [.reply id payload] =
      some ⟨queue, [⟨id, payload, send [] payload (toShort payload.length) id⟩]⟩ :=
  ⟨_, rfl⟩

lemma calls_written {s s' : SendState} (h : sendStep s .written = some s') :
    s'.calls = s.calls := by
  cases hq : s._send_queue with
  | nil => simp [sendStep, hq] at h
  | cons node queue =>
    simp only [sendStep, hq, Option.some.injEq] at h
    exact h ▸ rfl

/-! ## The round trip -/

/-- A call allocates and copies what the payload needs, or refuses it as a whole. -/
def Call.Clean (c : Call) : Prop :=
  match c.sent with
  | .full => True
  | .badAlloc _ => False
  | .overrun _ => False
  | .queued copied node =>
    copied = c.payload.length ∧ node._totalLen = c.payload.length + 4

/-- The bytes that a call puts on the socket. -/
def Call.wire (c : Call) : Bytes :=
  match c.sent with
  | .queued _ node => node.wire.getD []
  | _ => []

/-- The call queued its reply. -/
def Call.isQueued (c : Call) : Bool :=
  match c.sent with
  | .queued _ _ => true
  | _ => false

/-- The replies that were queued, with the sixteen bits of their identifiers. -/
def queuedReplies (calls : List Call) : List (ℕ × Bytes) :=
  (calls.filter Call.isQueued).map fun c => ((c.id % 65536).toNat, c.payload)

/-- No call allocates a negative size, copies another length than the payload's or queues a
node with another length than the frame's, and the client reads back the queued replies. -/
def RoundTrips (s : SendState) : Prop :=
  (∀ c ∈ s.calls, c.Clean) ∧
    TcpClient.readMessage some (s.calls.flatMap Call.wire) = (queuedReplies s.calls, [])

/-- The reply of an event is accepted by the queue only if it has at most 32763 bytes. -/
def Fits (s : SendState) : SendEvent → Prop
  | .reply _ payload => s._send_queue.length ≤ queueMaxSize → payload.length ≤ 32763
  | .written => True

/-- A call in the history is the outcome of `send` on the queue of that moment. -/
def Recorded (c : Call) : Prop :=
  ∃ queue, c.sent = send queue c.payload (toShort c.payload.length) c.id

lemma recorded_step {s s' : SendState} {e : SendEvent} (h : ∀ c ∈ s.calls, Recorded c)
    (hstep : sendStep s e = some s') : ∀ c ∈ s'.calls, Recorded c := by
  cases e with
  | reply id payload =>
    obtain rfl := Option.some.inj hstep
    intro c hc
    rcases List.mem_append.1 hc with hc | hc
    · exact h c hc
    · obtain rfl := List.mem_singleton.1 hc
      exact ⟨s._send_queue, rfl⟩
  | written => exact calls_written hstep ▸ h

/-- The node of a payload that fits holds the frame of the payload. -/
lemma send_of_le {queue : List SendNode} {payload : Bytes} (id : ℤ)
    (hq : queue.length ≤ queueMaxSize) (hlen : payload.length ≤ 32763) :
    send queue payload (toShort payload.length) id =
      .queued payload.length
        ⟨header id payload.length ++ payload, id, payload.length + 4⟩ := by
  have hshort : toShort payload.length = payload.length :=
    toShort_natCast_eq_iff.2 (by omega)
  have htotal : toShort ((payload.length : ℤ) + 4) = payload.length + 4 :=
    toShort_eq_self (by omega) (by omega)
  rw [send, if_neg (by omega), hshort, if_neg (by omega), if_neg (by omega), htotal,
    Int.toNat_natCast, List.take_length]

lemma send_of_full {queue : List SendNode} (hq : queueMaxSize < queue.length) (payload : Bytes)
    (totalLen id : ℤ) : send queue payload totalLen id = .full :=
  if_pos hq

/-- **One call of `send`** is clean exactly when the queue is full or the payload has at most
32763 bytes: from 32764 on the length of the node is negative, from 32768 on the size of the
buffer is, and from 65536 on the copy is shorter than the payload. -/
lemma clean_send_iff (queue : List SendNode) (id : ℤ) (payload : Bytes) :
    (Call.mk id payload (send queue payload (toShort payload.length) id)).Clean ↔
      (queue.length ≤ queueMaxSize → payload.length ≤ 32763) := by
  by_cases hq : queueMaxSize < queue.length
  · rw [send_of_full hq]
    exact iff_of_true trivial (by omega)
  · by_cases hlen : payload.length ≤ 32763
    · rw [send_of_le id (by omega) hlen]
      exact iff_of_true ⟨rfl, rfl⟩ fun _ => hlen
    · refine iff_of_false ?_ (by omega)
      have hle := toShort_lt payload.length
      rw [send, if_neg hq]
      split_ifs with hneg hover
      · exact fun h => h
      · exact fun h => h
      · -- the copied length is the payload's only below `2 ^ 15`, and then the sum wraps
        rintro ⟨hcopied, htotal⟩
        simp only at hcopied htotal
        have := toShort_lt (toShort payload.length + 4)
        omega

/-- `async_write` takes the whole buffer of the node of a payload that fits. -/
lemma wire_node (id id' : ℤ) (payload : Bytes) :
    (⟨header id payload.length ++ payload, id', payload.length + 4⟩ : SendNode).wire =
      some (header id payload.length ++ payload) := by
  have hall : (header id payload.length ++ payload).length =
      ((payload.length : ℤ) + 4).toNat := by
    rw [List.length_append, length_header]
    omega
  simp only [SendNode.wire]
  rw [if_neg (by omega), ← hall, List.take_length]

/-- The bytes of a clean call read back as its reply. -/
lemma next_wire {c : Call} (hrec : Recorded c) (hclean : c.Clean) (hq : c.isQueued = true)
    (t : Bytes) :
    TcpClient.frames.next (c.wire ++ t) = .item ((c.id % 65536).toNat, c.payload) t := by
  obtain ⟨id, payload, sent⟩ := c
  obtain ⟨queue, hsent⟩ := hrec
  simp only at hsent
  subst hsent
  -- a call that queued its reply met a queue with room
  have hroom : queue.length ≤ queueMaxSize := by
    by_contra hfull
    simp only [send_of_full (Nat.lt_of_not_le hfull), Call.isQueued] at hq
    cases hq
  have hlen : payload.length ≤ 32763 := (clean_send_iff queue id payload).1 hclean hroom
  have hwire : Call.wire ⟨id, payload, send queue payload (toShort payload.length) id⟩ =
      header id payload.length ++ payload := by
    simp only [send_of_le id hroom hlen, Call.wire, wire_node, Option.getD_some]
  rw [hwire]
  refine next_frame some id (congrArg some ?_) t
  omega

lemma wire_of_not_isQueued {c : Call} (h : c.isQueued = false) : c.wire = [] := by
  obtain ⟨id, payload, sent⟩ := c
  cases sent with
  | queued copied node => cases h
  | full => rfl
  | badAlloc size => rfl
  | overrun size => rfl

lemma flatMap_wire_filter (calls : List Call) :
    calls.flatMap Call.wire = (calls.filter Call.isQueued).flatMap Call.wire := by
  induction calls with
  | nil => rfl
  | cons c calls ih =>
    cases hq : c.isQueued with
    | true => simp [List.filter_cons_of_pos hq, ih]
    | false => simp [List.filter_cons_of_neg (Bool.not_eq_true _ ▸ hq), ih, wire_of_not_isQueued hq]

/-- The client reads back what clean calls have queued. -/
lemma readMessage_wire {calls : List Call} (hrec : ∀ c ∈ calls, Recorded c)
    (hclean : ∀ c ∈ calls, c.Clean) :
    TcpClient.readMessage some (calls.flatMap Call.wire) = (queuedReplies calls, []) := by
  have hdec := Decoder.decode_flatMap Call.wire
    (fun c : Call => ((c.id % 65536).toNat, c.payload)) (calls.filter Call.isQueued)
    (fun c hc t => next_wire (hrec c (List.mem_of_mem_filter hc))
      (hclean c (List.mem_of_mem_filter hc)) (List.mem_filter.1 hc).2 t) []
  rw [List.append_nil, ← flatMap_wire_filter,
    Decoder.decode_more (show TcpClient.frames.next [] = .more from rfl), List.append_nil] at hdec
  obtain ⟨r, hr, hread⟩ := TcpClient.readMessage_eq_decode some (calls.flatMap Call.wire)
  rw [hdec] at hr hread
  obtain rfl : [] = r := Option.some.inj hr
  rw [hread]
  refine Prod.ext ?_ rfl
  rw [List.filterMap_map, queuedReplies, ← List.filterMap_eq_map]
  rfl

lemma RoundTrips.clean {s : SendState} (h : RoundTrips s) : ∀ c ∈ s.calls, c.Clean := h.1

lemma roundTrips_iff_clean {s : SendState} (hrec : ∀ c ∈ s.calls, Recorded c) :
    RoundTrips s ↔ ∀ c ∈ s.calls, c.Clean :=
  ⟨RoundTrips.clean, fun h => ⟨h, readMessage_wire hrec h⟩⟩

lemma clean_step {s s' : SendState} {e : SendEvent} (hstep : sendStep s e = some s') :
    (∀ c ∈ s'.calls, c.Clean) ↔ (∀ c ∈ s.calls, c.Clean) ∧ Fits s e := by
  cases e with
  | reply id payload =>
    obtain rfl := Option.some.inj hstep
    simp only [List.forall_mem_append, List.forall_mem_singleton]
    rw [clean_send_iff]
    exact Iff.rfl
  | written =>
    rw [calls_written hstep]
    exact (and_iff_left trivial).symm

lemma le_of_roundTrips_reply {id : ℤ} {payload : Bytes}
    (h : ∀ s, run sendStep .init [.reply id payload] = some s → RoundTrips s) :
    payload.length ≤ 32763 := by
  obtain ⟨queue, hrun⟩ := run_reply id payload
  have hclean := (h _ hrun).clean
  rw [List.forall_mem_singleton, clean_send_iff] at hclean
  exact hclean (by simp)

/-- The answer to a heartbeat. -/
def pong : Bytes := utf8 "\x7b\"status\":\"alive\"\x7d"

lemma length_pong : pong.length = 18 := by decide

/-- One row of a chat history whose content is the letter `a`, 8000 times. -/
def historyRow : Bytes :=
  utf8 "\x7b\"content\":\"" ++ List.replicate 8000 97 ++
    utf8 "\",\"from_uid\":\"1\",\"id\":\"7\",\"msg_type\":\"0\"," ++
    utf8 "\"send_time\":\"2025-06-01 12:00:00\",\"status\":\"0\",\"to_uid\":\"2\"\x7d"

/-- The answer to a request for the chat history, with five rows. -/
def historyReply : Bytes :=
  utf8 "\x7b\"contact_uid\":2,\"error\":0,\"messages\":[" ++
    historyRow ++ utf8 "," ++ historyRow ++ utf8 "," ++ historyRow ++ utf8 "," ++
    historyRow ++ utf8 "," ++ historyRow ++ utf8 "]\x7d"

lemma length_historyReply : historyReply.length = 40610 := by
  have h₁ : (utf8 "\x7b\"content\":\"").length = 12 := by decide
  have h₂ : (utf8 "\",\"from_uid\":\"1\",\"id\":\"7\",\"msg_type\":\"0\",").length = 41 := by
    decide
  have h₃ : (utf8
      "\"send_time\":\"2025-06-01 12:00:00\",\"status\":\"0\",\"to_uid\":\"2\"\x7d").length =
        60 := by
    decide
  have h₄ : (utf8 "\x7b\"contact_uid\":2,\"error\":0,\"messages\":[").length = 39 := by decide
  have h₅ : (utf8 ",").length = 1 := by decide
  have h₆ : (utf8 "]\x7d").length = 2 := by decide
  simp only [historyReply, historyRow, List.length_append, List.length_replicate, h₁, h₂, h₃, h₄,
    h₅, h₆]

/-- **Replies survive the way to the client exactly when every reply that finds room in the
queue has at most 32763 bytes.** -/
theorem roundTrips_iff {es : List SendEvent} {s : SendState}
    (hrun : run sendStep .init es = some s) :
    RoundTrips s ↔ AllSteps sendStep Fits .init es := by
  have hrec : ∀ c ∈ s.calls, Recorded c :=
    run_invariant (I := fun s => ∀ c ∈ s.calls, Recorded c)
      (fun _ _ _ h hs => recorded_step h hs) hrun (by simp [SendState.init])
  rw [roundTrips_iff_clean hrec]
  have := final_iff_allSteps (I := fun _ => True) (fun _ _ _ _ _ => trivial)
    (fun _ _ _ _ hs => clean_step hs) hrun trivial
  rw [this]
  simp [SendState.init]

/-- The answer to a heartbeat is queued and written. -/
lemma step_pong : ∃ s calls, sendStep .init (.reply 1021 pong) = some s ∧
    sendStep s .written = some ⟨[], calls⟩ := by
  have hroom : ([] : List SendNode).length ≤ queueMaxSize := Nat.zero_le _
  have hlen : pong.length ≤ 32763 := by rw [length_pong]; norm_num
  have hsend := send_of_le 1021 hroom hlen
  rw [length_pong] at hsend
  have hpong : sendStep .init (.reply 1021 pong) = some ⟨[⟨header 1021 18 ++ pong, 1021, 22⟩],
      [⟨1021, pong, .queued 18 ⟨header 1021 18 ++ pong, 1021, 22⟩⟩]⟩ := by
    simp only [sendStep, SendState.init, length_pong, hsend]
    rfl
  exact ⟨_, _, hpong, rfl⟩

/-- After the answer to a heartbeat the longest reply that fits is read back, and a chat history
that is too long is not. -/
theorem roundTrips_pong :
    (∃ s, run sendStep .init [.reply 1021 pong, .written,
        .reply 1025 (List.replicate 32763 97)] = some s ∧ RoundTrips s) ∧
      ∃ s, run sendStep .init [.reply 1021 pong, .written, .reply 1025 historyReply] = some s ∧
        ¬ RoundTrips s := by
  obtain ⟨s₁, calls, h₁, h₂⟩ := step_pong
  have hrun : ∀ payload, ∃ s,
      run sendStep .init [.reply 1021 pong, .written, .reply 1025 payload] = some s :=
    fun payload => ⟨_, (run_cons h₁ _).trans ((run_cons h₂ _).trans (run_cons rfl []))⟩
  have hfits : ∀ payload,
      AllSteps sendStep Fits .init [.reply 1021 pong, .written, .reply 1025 payload] ↔
        payload.length ≤ 32763 := by
    intro payload
    constructor
    · exact fun h => ((h.2 s₁ h₁).2 _ h₂).1 (Nat.zero_le _)
    · intro hlen
      refine .cons h₁ (fun _ => ?_) (.cons h₂ trivial (.cons rfl (fun _ => hlen) trivial))
      rw [length_pong]
      norm_num
  constructor
  · obtain ⟨s, hs⟩ := hrun (List.replicate 32763 97)
    exact ⟨s, hs, (roundTrips_iff hs).2 ((hfits _).2 (List.length_replicate ..).le)⟩
  · obtain ⟨s, hs⟩ := hrun historyReply
    refine ⟨s, hs, fun h => ?_⟩
    have hlen := (hfits _).1 ((roundTrips_iff hs).1 h)
    rw [length_historyReply] at hlen
    omega

/-- Five rows of 8000 letters are more than a short can count. -/
theorem not_roundTrips_historyReply :
    ¬ ∀ s, run sendStep .init [.reply 1025 historyReply] = some s → RoundTrips s := by
  intro h
  have hlen := le_of_roundTrips_reply h
  rw [length_historyReply] at hlen
  omega

end CSession

end WeChat
