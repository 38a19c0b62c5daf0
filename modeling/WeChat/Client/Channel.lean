/-
# The channel from a session to its client

The bytes of a session go through its write chain, in pieces and until a write fails, and arrive
at the client in chunks that have nothing to do with the frames.  Whatever has arrived so far,
the client has been given a beginning of the replies that the session has accepted, each of them
whole and in the order of the calls of `send`.
-/
import WeChat.Chat.WriteChain
import WeChat.Client.Connections

namespace WeChat

open Wire StreamDecoder Framed Transition CSession

/-- The buffer of a call of `send`, if the event is one. -/
def CSession.WriteEvent.buffer : WriteEvent → Option Bytes
  | .send msgData => some msgData
  | _ => none

/-- The bytes that `CSession::send` queues for a reply. -/
def CSession.queuedBytes (_send_queue : List SendNode) (reply : ℤ × Bytes) : Option Bytes :=
  match CSession.send _send_queue reply.2 (toShort reply.2.length) reply.1 with
  | .queued _ node => node.wire
  | _ => none

/-- The call of `parseMessage` for a reply. -/
def TcpClient.parsedReply {Object : Type*} (fromJson : Bytes → Option Object)
    (reply : ℤ × Bytes) : Option (ℕ × Object) :=
  TcpClient.parsed fromJson ((reply.1 % 65536).toNat, reply.2)

/-- The events of a session have sent the given replies, in this order, and none of them is
longer than `send` can handle. -/
structure Sends (events : List WriteEvent) (replies : List (ℤ × Bytes)) : Prop where
  buffers : events.filterMap WriteEvent.buffer = replies.filterMap (CSession.queuedBytes [])
  short : ∀ r ∈ replies, r.2.length ≤ 32763

section Channel

variable {Object : Type*} {fromJson : Bytes → Option Object} {replies : List (ℤ × Bytes)}
  {s t : WriteState} {es : List WriteEvent}

lemma queuedBytes_of_le {queue : List SendNode} (hq : queue.length ≤ queueMaxSize)
    {r : ℤ × Bytes} (h : r.2.length ≤ 32763) :
    CSession.queuedBytes queue r = some (header r.1 r.2.length ++ r.2) := by
  rw [CSession.queuedBytes, send_of_le r.1 hq h]
  exact wire_node r.1 r.1 r.2

lemma filterMap_queuedBytes (h : ∀ r ∈ replies, r.2.length ≤ 32763) :
    replies.filterMap (CSession.queuedBytes []) =
      replies.map fun r => header r.1 r.2.length ++ r.2 := by
  rw [← List.filterMap_eq_map]
  exact List.filterMap_congr fun r hr => queuedBytes_of_le (Nat.zero_le _) (h r hr)

/-- What one event adds to the buffers that were accepted. -/
lemma accepted_step {e : WriteEvent} (h : writeStep s e = some t) :
    (t.accepted = s.accepted ++ e.buffer.toList ∧ t.refused = s.refused) ∨
      (t.accepted = s.accepted ∧ t.refused ≠ []) := by
  have hstart : ∀ s : WriteState, s.startFront.accepted = s.accepted ∧
      s.startFront.refused = s.refused := by
    intro s
    rw [WriteState.startFront]
    split <;> exact ⟨rfl, rfl⟩
  cases e with
  | send msgData =>
    obtain rfl := Option.some.inj h
    by_cases hfull : queueMaxSize < s._send_queue.length
    · rw [WriteState.send_of_full hfull]
      exact .inr ⟨rfl, by simp⟩
    · by_cases hidle : s._send_queue = []
      · rw [WriteState.send_of_idle hidle]
        exact .inl ⟨rfl, rfl⟩
      · rw [WriteState.send_of_busy (Nat.not_lt.1 hfull) hidle]
        exact .inl ⟨rfl, rfl⟩
  | transfer i n =>
    obtain ⟨w, -, -, rfl⟩ := writeStep_transfer h
    exact .inl ⟨(List.append_nil _).symm, rfl⟩
  | complete i ok =>
    obtain ⟨w, -, -, rfl⟩ := writeStep_complete h
    refine .inl ?_
    rw [show (WriteEvent.complete i ok).buffer.toList = [] from rfl, List.append_nil,
      WriteState.handleAsyncWrite]
    cases ok with
    | true => exact hstart _
    | false => exact ⟨rfl, rfl⟩

/-- A call that was refused is not forgotten. -/
lemma refused_of_run (hrun : run writeStep s es = some t) (h : s.refused ≠ []) :
    t.refused ≠ [] := by
  refine run_invariant (I := fun s : WriteState => s.refused ≠ []) ?_ hrun h
  intro s e s' hs hstep
  rcases accepted_step hstep with ⟨-, heq⟩ | ⟨-, hne⟩
  · rwa [heq]
  · exact hne

/-- The buffers that were accepted are those of the calls, without the refused ones. -/
lemma accepted_of_run (hrun : run writeStep s es = some t) :
    ∃ accepted, accepted.Sublist (es.filterMap WriteEvent.buffer) ∧
      t.accepted = s.accepted ++ accepted ∧
      (t.refused = [] → accepted = es.filterMap WriteEvent.buffer) := by
  induction es generalizing s with
  | nil =>
    obtain rfl := Option.some.inj hrun
    exact ⟨[], List.Sublist.refl _, (List.append_nil _).symm, fun _ => rfl⟩
  | cons e es ih =>
    obtain ⟨s₁, hstep, hrun'⟩ := run_cons_inv hrun
    obtain ⟨accepted, hsub, heq, hall⟩ := ih hrun'
    have hcons : (e :: es).filterMap WriteEvent.buffer =
        e.buffer.toList ++ es.filterMap WriteEvent.buffer := by
      rw [List.filterMap_cons]
      cases e.buffer <;> rfl
    rw [hcons]
    rcases accepted_step hstep with ⟨hone, -⟩ | ⟨hone, hrefused⟩
    · refine ⟨e.buffer.toList ++ accepted, hsub.append_left _, ?_, fun hnone => ?_⟩
      · rw [heq, hone, List.append_assoc]
      · rw [hall hnone]
    · refine ⟨accepted, hsub.trans (List.sublist_append_right _ _), ?_, fun hnone => ?_⟩
      · rw [heq, hone]
      · exact absurd hnone (refused_of_run hrun' hrefused)

/-- What the client makes of a part of a stream is the beginning of what it makes of all. -/
lemma calls_prefix {u v : Bytes} (h : u <+: v) :
    (TcpClient.readMessage fromJson u).1 <+: (TcpClient.readMessage fromJson v).1 := by
  obtain ⟨w, rfl⟩ := h
  rw [TcpClient.readMessage_append]
  exact List.prefix_append _ _

/-- The client reads back the frames of short replies. -/
lemma calls_frames (h : ∀ r ∈ replies, r.2.length ≤ 32763) :
    (TcpClient.readMessage fromJson
      (replies.flatMap fun r => header r.1 r.2.length ++ r.2)).1 =
      replies.filterMap (TcpClient.parsedReply fromJson) := by
  have hdec := Decoder.decode_flatMap (D := TcpClient.frames)
    (fun r : ℤ × Bytes => header r.1 r.2.length ++ r.2)
    (fun r : ℤ × Bytes => ((r.1 % 65536).toNat, r.2)) replies
    (fun r hr t => next_frame some r.1 (congrArg some (by have := h r hr; omega)) t) []
  rw [List.append_nil, Decoder.decode_more (show TcpClient.frames.next [] = .more from rfl),
    List.append_nil] at hdec
  obtain ⟨r, -, hread⟩ := TcpClient.readMessage_eq_decode fromJson
    (replies.flatMap fun r => header r.1 r.2.length ++ r.2)
  rw [hread, hdec, List.filterMap_map]
  rfl

/-- The channel delivers in order.  In every run of the write chain of a session, with any
number of calls of `send`, partial writes and a write that fails at any point: the calls of
`parseMessage` that the client has made for any beginning of what was written, in any chunks, are
a beginning of those for the replies that the session has accepted, and a reply is accepted
unless its call of `send` was refused.  When everything that was accepted is written and has
arrived, they are all of them. -/
lemma delivered_inOrder (hrun : run writeStep .init es = some t) (hsends : Sends es replies)
    {chunks : List Bytes} (hchunks : chunks.flatten <+: t.socket) :
    ∃ accepted, accepted.Sublist replies ∧ (t.refused = [] → accepted = replies) ∧
      (TcpClient.receive fromJson [] chunks).1 <+:
        accepted.filterMap (TcpClient.parsedReply fromJson) ∧
      (t.failed = false → t._send_queue = [] → chunks.flatten = t.socket →
        (TcpClient.receive fromJson [] chunks).1 =
          accepted.filterMap (TcpClient.parsedReply fromJson)) := by
  obtain ⟨buffers, hsub, haccepted, hall⟩ := accepted_of_run hrun
  rw [hsends.buffers, filterMap_queuedBytes hsends.short] at hsub hall
  obtain ⟨accepted, hpart, rfl⟩ := List.sublist_map_iff.1 hsub
  have hshort : ∀ r ∈ accepted, r.2.length ≤ 32763 := fun r hr => hsends.short r (hpart.subset hr)
  have hflatten : t.accepted.flatten =
      accepted.flatMap fun r => header r.1 r.2.length ++ r.2 := by
    rw [haccepted]
    exact (List.flatMap_def ..).symm
  have hread : (TcpClient.receive fromJson [] chunks).1 =
      (TcpClient.readMessage fromJson chunks.flatten).1 := by
    rw [(TcpClient.receive_packetisation fromJson).1 chunks]
    simp [TcpClient.receive, TcpClient.onReadyRead]
  refine ⟨accepted, hpart, fun hnone => ?_, ?_, fun hlive hempty hwhole => ?_⟩
  · have hlength := congrArg List.length (hall hnone)
    rw [List.length_map, List.length_map] at hlength
    exact hpart.eq_of_length hlength
  · rw [hread, ← calls_frames hshort, ← hflatten]
    exact calls_prefix (hchunks.trans (chained_of_run hrun).phase.socket_prefix)
  · -- no write is under way, and no buffer waits for one
    obtain ⟨hone, -, hsocket⟩ := (write_discipline hrun).1 hlive
    have hidle : t.outstanding = [] := by
      cases hwrites : t.outstanding with
      | nil => rfl
      | cons w ws =>
        obtain ⟨-, hbuffers, -⟩ := (write_discipline hrun).1 hlive
        rw [hempty, hwrites] at hbuffers
        cases hbuffers
    rw [hidle, hempty, List.flatMap_nil, List.append_nil, List.tail_nil, List.flatten_nil,
      List.append_nil, hflatten] at hsocket
    rw [hread, hwhole, hsocket, calls_frames hshort]

end Channel

end WeChat
