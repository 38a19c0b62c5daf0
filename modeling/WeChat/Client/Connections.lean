/-
# The connections of the Qt client

`TcpClient` is one object for all the connections of a process.  None of `connectToServer`,
`disconnectFromServer`, `onConnected` and `onDisconnected` touches `m_recvBuffer`, so what is
left of a frame when a connection ends comes before the first bytes of the next one.
-/
import Mathlib.Tactic.IntervalCases
import WeChat.Lib.JsonText
import WeChat.Lib.Transition
import WeChat.Client.TcpClient

namespace WeChat

namespace TcpClient

open Wire StreamDecoder Framed Transition

variable {Object : Type*}

/-- The signals of the socket.  A connection can be ended by either side, after any byte. -/
inductive SocketEvent
  | connected
  | readyRead (chunk : Bytes)
  | disconnected

/-- The client.  The last three fields record its current connection, or the last one: what
`m_recvBuffer` held when it was established, the bytes received on it, and the calls of
`parseMessage`. -/
structure Client (Object : Type*) where
  m_recvBuffer : Bytes
  isConnected : Bool
  inherited : Bytes
  received : Bytes
  calls : List (ℕ × Object)

/-- The client before its first connection. -/
def Client.new : Client Object := ⟨[], false, [], [], []⟩

section Connections

variable (fromJson : Bytes → Option Object)

/-- One signal. -/
def socketStep (c : Client Object) : SocketEvent → Option (Client Object)
  | .connected =>
    if c.isConnected then none
    -- `onConnected` does not clear the buffer
    else some ⟨c.m_recvBuffer, true, c.m_recvBuffer, [], []⟩
  | .readyRead chunk =>
    if c.isConnected then
      let read := onReadyRead fromJson c.m_recvBuffer chunk
      some { c with
        m_recvBuffer := read.2
        received := c.received ++ chunk
        calls := c.calls ++ read.1 }
    else none
  | .disconnected =>
    -- nor does `onDisconnected`
    if c.isConnected then some { c with isConnected := false } else none

/-- A connection that begins now leads to the calls of `parseMessage` that a new client makes
for the bytes received on it. -/
def Client.Isolated (c : Client Object) : Prop :=
  ∀ (chunks : List Bytes) c',
    run (socketStep fromJson) c (.connected :: chunks.map .readyRead) = some c' →
      c'.calls = (receive fromJson [] [chunks.flatten]).1

/-- A connection that ends leaves no part of a frame. -/
def Client.EndsWhole (c : Client Object) : SocketEvent → Prop
  | .disconnected => c.m_recvBuffer = []
  | _ => True

/-- What the buffer holds is what the bytes of the connection leave over. -/
structure ConnectionInv (c : Client Object) : Prop where
  waiting : frames.next c.m_recvBuffer = .more
  inherited : frames.next c.inherited = .more
  read : readMessage fromJson (c.inherited ++ c.received) = (c.calls, c.m_recvBuffer)

end Connections

/-! ## Reading in two parts -/

section Reading

variable {fromJson : Bytes → Option Object} {s t r : Bytes} {frame : ℕ × Bytes}

lemma readMessage_more (h : frames.next s = .more) : readMessage fromJson s = ([], s) := by
  obtain ⟨r, hr, hread⟩ := readMessage_eq_decode fromJson s
  rw [Decoder.decode_more h] at hr hread
  rw [hread, ← Option.some.inj hr]
  rfl

lemma readMessage_item (h : frames.next s = .item frame r) :
    readMessage fromJson s = ((parsed fromJson frame).toList ++ (readMessage fromJson r).1,
      (readMessage fromJson r).2) := by
  obtain ⟨r₁, hr₁, hread⟩ := readMessage_eq_decode fromJson s
  obtain ⟨r₂, hr₂, hread'⟩ := readMessage_eq_decode fromJson r
  rw [Decoder.decode_item h] at hr₁
  rw [hread, hread', Decoder.decode_item h, List.filterMap_cons,
    Option.some.inj (hr₁.symm.trans hr₂)]
  cases parsed fromJson frame <;> rfl

/-- More bytes are read after what the earlier ones left over. -/
lemma readMessage_append : readMessage fromJson (s ++ t) =
    ((readMessage fromJson s).1 ++ (readMessage fromJson ((readMessage fromJson s).2 ++ t)).1,
      (readMessage fromJson ((readMessage fromJson s).2 ++ t)).2) := by
  obtain ⟨r, hr, hread⟩ := readMessage_eq_decode fromJson s
  obtain ⟨r', hr', hread'⟩ := readMessage_eq_decode fromJson (r ++ t)
  obtain ⟨r'', hr'', hread''⟩ := readMessage_eq_decode fromJson (s ++ t)
  rw [Decoder.decode_append s t hr] at hr'' hread''
  rw [hread, hread', hread'', List.filterMap_append, Option.some.inj (hr'.symm.trans hr'')]

/-- The buffer holds no complete frame after a read. -/
lemma next_readMessage : frames.next (readMessage fromJson s).2 = .more := by
  obtain ⟨r, hr, hread⟩ := readMessage_eq_decode fromJson s
  rw [hread]
  exact Decoder.next_residue s hr

end Reading

/-! ## What is left of a frame -/

section Residue

variable {fromJson : Bytes → Option Object} {r : Bytes}

/-- A frame whose body is the empty object, with the two bytes of its identifier. -/
def probe (hi lo : UInt8) : Bytes := [hi, lo, 0, 2, 0x7b, 0x7d]

lemma readMessage_probe {object : Object} (hobject : fromJson [0x7b, 0x7d] = some object)
    (hi lo : UInt8) : readMessage fromJson (probe hi lo) = ([(u16 hi lo, object)], []) := by
  have hitem : frames.next (probe hi lo) = .item (u16 hi lo, [0x7b, 0x7d]) [] := rfl
  rw [readMessage_item hitem, readMessage_more rfl, parsed, hobject]
  rfl

lemma frames_next_of_lt {b₀ b₁ b₂ b₃ : UInt8} (rest : Bytes) (h : rest.length < u16 b₂ b₃) :
    frames.next (b₀ :: b₁ :: b₂ :: b₃ :: rest) = .more := if_pos h

lemma frames_next_of_le {b₀ b₁ b₂ b₃ : UInt8} (rest : Bytes) (h : u16 b₂ b₃ ≤ rest.length) :
    frames.next (b₀ :: b₁ :: b₂ :: b₃ :: rest) =
      .item (u16 b₀ b₁, rest.take (u16 b₂ b₃)) (rest.drop (u16 b₂ b₃)) := if_neg (not_lt.2 h)

/-- After fewer than four bytes of a header the next frame is not complete: its first bytes are
taken for a length. -/
lemma next_short_probe (hlen : r.length < 4) (hne : r ≠ []) {lo : UInt8}
    (hlo : lo = 0xff ∨ lo = 0xfe) : frames.next (r ++ probe 0xff lo) = .more := by
  match r, hne, hlen with
  | [a], _, _ => rcases hlo with rfl | rfl <;> rfl
  | [a, b], _, _ => rcases hlo with rfl | rfl <;> rfl
  | [a, b, c], _, _ =>
    refine frames_next_of_lt [lo, 0, 2, 0x7b, 0x7d] ?_
    have hff : (0xff : UInt8).toNat = 255 := rfl
    rw [u16, hff]
    simp only [List.length_cons, List.length_nil]
    omega

/-- Nor is what remains of the next frame when some of its bytes are taken for the end of a
body. -/
lemma next_drop_probe {lo : UInt8} (hlo : lo = 0xff ∨ lo = 0xfe) {m : ℕ} (hm : 0 < m) :
    frames.next ((probe 0xff lo).drop m) = .more := by
  by_cases h3 : m < 3
  · interval_cases m
    · rcases hlo with rfl | rfl <;> rfl
    · rfl
  · refine next_of_length_lt some ?_
    rw [List.length_drop]
    have hlength : (probe 0xff lo).length = 6 := rfl
    omega

/-- What is left of a frame swallows the next frame: at most one call is made, and it is one for
the old frame. -/
lemma readMessage_residue_probe (hwait : frames.next r = .more) (hne : r ≠ []) {lo : UInt8}
    (hlo : lo = 0xff ∨ lo = 0xfe) {call : ℕ × Object}
    (hcall : call ∈ (readMessage fromJson (r ++ probe 0xff lo)).1) :
    ∃ b₀ b₁ rest, r = b₀ :: b₁ :: rest ∧ call.1 = u16 b₀ b₁ := by
  have hnone : frames.next (r ++ probe 0xff lo) ≠ .more := by
    intro hmore
    rw [readMessage_more hmore] at hcall
    exact absurd hcall List.not_mem_nil
  rcases Nat.lt_or_ge r.length 4 with h4 | h4
  · exact absurd (next_short_probe h4 hne hlo) hnone
  · obtain ⟨b₀, b₁, b₂, b₃, rest, n, rfl, hn, hlt⟩ := header_of_more some hwait h4
    obtain rfl : u16 b₂ b₃ = n := Option.some.inj hn
    refine ⟨b₀, b₁, b₂ :: b₃ :: rest, rfl, ?_⟩
    by_cases hlong : (rest ++ probe 0xff lo).length < u16 b₂ b₃
    · exact absurd (frames_next_of_lt _ hlong) hnone
    · -- the old body is completed, and no call is made for what remains
      have hitem : frames.next (b₀ :: b₁ :: b₂ :: b₃ :: rest ++ probe 0xff lo) = _ :=
        frames_next_of_le (rest ++ probe 0xff lo) (not_lt.1 hlong)
      have hdrop : (rest ++ probe 0xff lo).drop (u16 b₂ b₃) =
          (probe 0xff lo).drop (u16 b₂ b₃ - rest.length) := by
        rw [List.drop_append, List.drop_of_length_le hlt.le, List.nil_append]
      rw [readMessage_item hitem, hdrop, readMessage_more (next_drop_probe hlo (by omega)),
        List.append_nil, Option.mem_toList] at hcall
      obtain ⟨json, -, rfl⟩ := Option.map_eq_some_iff.1 hcall
      rfl

/-- A connection that begins with a part of a frame in the buffer can be told from one that
begins with none. -/
lemma exists_probe {object : Object} (hobject : fromJson [0x7b, 0x7d] = some object)
    (hwait : frames.next r = .more) (hne : r ≠ []) :
    ∃ s, (readMessage fromJson (r ++ s)).1 ≠ (readMessage fromJson s).1 := by
  -- an identifier that is not the one of the old frame
  obtain ⟨lo, hlo, hother⟩ : ∃ lo : UInt8, (lo = 0xff ∨ lo = 0xfe) ∧
      ∀ b₀ b₁ rest, r = b₀ :: b₁ :: rest → u16 b₀ b₁ ≠ u16 0xff lo := by
    by_cases hff : ∃ b₀ b₁ rest, r = b₀ :: b₁ :: rest ∧ u16 b₀ b₁ = u16 0xff 0xff
    · obtain ⟨b₀, b₁, rest, rfl, hid⟩ := hff
      refine ⟨0xfe, .inr rfl, fun b₀' b₁' rest' heq hid' => ?_⟩
      obtain ⟨rfl, heq'⟩ := List.cons.inj heq
      obtain ⟨rfl, -⟩ := List.cons.inj heq'
      exact absurd (hid.symm.trans hid') (by decide)
    · exact ⟨0xff, .inl rfl, fun b₀ b₁ rest heq hid => hff ⟨b₀, b₁, rest, heq, hid⟩⟩
  refine ⟨probe 0xff lo, fun hsame => ?_⟩
  rw [readMessage_probe hobject] at hsame
  obtain ⟨b₀, b₁, rest, heq, hid⟩ := readMessage_residue_probe hwait hne hlo
    (by rw [hsame]; exact List.mem_singleton_self _)
  exact hother b₀ b₁ rest heq hid.symm

end Residue

/-! ## Histories of connections -/

section Histories

variable {fromJson : Bytes → Option Object} {c c' : Client Object} {e : SocketEvent}

lemma connectionInv_new : ConnectionInv fromJson Client.new :=
  ⟨rfl, rfl, readMessage_more rfl⟩

lemma connectionInv_step (h : ConnectionInv fromJson c)
    (hstep : socketStep fromJson c e = some c') : ConnectionInv fromJson c' := by
  cases e with
  | connected =>
    simp only [socketStep] at hstep
    split_ifs at hstep
    obtain rfl := Option.some.inj hstep
    refine ⟨h.waiting, h.waiting, ?_⟩
    rw [List.append_nil]
    exact readMessage_more h.waiting
  | readyRead chunk =>
    simp only [socketStep] at hstep
    split_ifs at hstep
    obtain rfl := Option.some.inj hstep
    refine ⟨next_readMessage, h.inherited, ?_⟩
    rw [← List.append_assoc, readMessage_append, h.read]
    rfl
  | disconnected =>
    simp only [socketStep] at hstep
    split_ifs at hstep
    obtain rfl := Option.some.inj hstep
    exact ⟨h.waiting, h.inherited, h.read⟩

/-- The reads of a connection. -/
lemma run_readyRead (hconnected : c.isConnected = true) (chunks : List Bytes) :
    run (socketStep fromJson) c (chunks.map .readyRead) = some { c with
      m_recvBuffer := (receive fromJson c.m_recvBuffer chunks).2
      received := c.received ++ chunks.flatten
      calls := c.calls ++ (receive fromJson c.m_recvBuffer chunks).1 } := by
  induction chunks generalizing c with
  | nil => simp [receive]
  | cons chunk chunks ih =>
    have hstep : socketStep fromJson c (.readyRead chunk) = some _ := if_pos hconnected
    rw [List.map_cons, run_cons hstep, ih]
    · simp [receive]
    · exact hconnected

/-- The messages of a connection are those of its bytes after what the buffer held. -/
lemma receive_eq_readMessage (hwait : frames.next c.m_recvBuffer = .more)
    (chunks : List Bytes) :
    (receive fromJson c.m_recvBuffer chunks).1 =
      (readMessage fromJson (c.m_recvBuffer ++ chunks.flatten)).1 := by
  obtain ⟨r, hr, hreceive⟩ := receive_eq_feed fromJson c.m_recvBuffer chunks
  obtain ⟨r', hr', hread⟩ := readMessage_eq_decode fromJson (c.m_recvBuffer ++ chunks.flatten)
  rw [Decoder.feed_eq_decode hwait] at hreceive
  rw [hreceive, hread]

/-- The next connection is isolated exactly when the buffer is empty. -/
lemma isolated_iff_empty {object : Object} (hobject : fromJson [0x7b, 0x7d] = some object)
    (hwait : frames.next c.m_recvBuffer = .more) (hclosed : c.isConnected = false) :
    c.Isolated fromJson ↔ c.m_recvBuffer = [] := by
  have hstep : socketStep fromJson c .connected =
      some ⟨c.m_recvBuffer, true, c.m_recvBuffer, [], []⟩ := by
    rw [socketStep, hclosed]
    rfl
  have hnew : ∀ s : Bytes, (receive fromJson [] [s]).1 = (readMessage fromJson s).1 := by
    intro s
    simp [receive, onReadyRead]
  constructor
  · intro hisolated
    by_contra hne
    obtain ⟨s, hs⟩ := exists_probe hobject hwait hne
    have hcalls := hisolated [s] _ ((run_cons hstep _).trans (run_readyRead rfl [s]))
    rw [List.flatten_singleton, hnew, List.nil_append] at hcalls
    refine hs (Eq.trans ?_ hcalls)
    exact (congrArg Prod.fst (by simp [receive, onReadyRead])).symm
  · intro hempty chunks c' hrun
    rw [run_cons hstep, run_readyRead rfl] at hrun
    obtain rfl := Option.some.inj hrun
    rw [hnew]
    refine (List.nil_append _).trans ((receive_eq_readMessage hwait chunks).trans ?_)
    rw [hempty, List.nil_append]

/-- When no connection leaves a part of a frame, every connection begins with an empty buffer. -/
lemma calls_of_endsWhole {es : List SocketEvent} (hrun : run (socketStep fromJson) .new es = some c)
    (hends : AllSteps (socketStep fromJson) Client.EndsWhole .new es) :
    c.calls = (readMessage fromJson c.received).1 := by
  have hinv : ConnectionInv fromJson c ∧ c.inherited = [] ∧
      (c.isConnected = false → c.m_recvBuffer = []) := by
    refine run_induction (I := fun c => ConnectionInv fromJson c ∧ c.inherited = [] ∧
      (c.isConnected = false → c.m_recvBuffer = [])) ?_ hrun hends
      ⟨connectionInv_new, rfl, fun _ => rfl⟩
    rintro c e c' ⟨hinv, hinherited, hempty⟩ hok hstep
    refine ⟨connectionInv_step hinv hstep, ?_⟩
    cases e with
    | connected =>
      simp only [socketStep] at hstep
      split_ifs at hstep with hconnected
      obtain rfl := Option.some.inj hstep
      exact ⟨hempty (Bool.eq_false_iff.2 hconnected), fun hfalse => nomatch hfalse⟩
    | readyRead chunk =>
      simp only [socketStep] at hstep
      split_ifs at hstep with hconnected
      obtain rfl := Option.some.inj hstep
      exact ⟨hinherited, fun hfalse => absurd (hconnected.symm.trans hfalse) (by decide)⟩
    | disconnected =>
      simp only [socketStep] at hstep
      split_ifs at hstep
      obtain rfl := Option.some.inj hstep
      exact ⟨hinherited, fun _ => hok⟩
  obtain ⟨hinv, hinherited, -⟩ := hinv
  have hread := hinv.read
  rw [hinherited, List.nil_append] at hread
  rw [hread]

/-- A signal after which the client is between two connections is the end of one. -/
lemma isolated_step_iff {object : Object} (hobject : fromJson [0x7b, 0x7d] = some object)
    (hinv : ConnectionInv fromJson c) (hstep : socketStep fromJson c e = some c') :
    (c'.isConnected = false → c'.Isolated fromJson) ↔ c.EndsWhole e := by
  cases e with
  | connected =>
    simp only [socketStep] at hstep
    split_ifs at hstep
    obtain rfl := Option.some.inj hstep
    exact iff_of_true (fun hfalse => nomatch hfalse) trivial
  | readyRead chunk =>
    simp only [socketStep] at hstep
    split_ifs at hstep with hconnected
    obtain rfl := Option.some.inj hstep
    exact iff_of_true (fun hfalse => absurd (hconnected.symm.trans hfalse) (by decide)) trivial
  | disconnected =>
    simp only [socketStep] at hstep
    split_ifs at hstep
    obtain rfl := Option.some.inj hstep
    refine (forall_prop_of_true rfl).trans ?_
    exact isolated_iff_empty hobject hinv.waiting rfl

end Histories

/-- **Two histories without a part of a frame left by a connection lead to the same calls of
`parseMessage` on a connection with the same bytes**; and a history lets the messages of each
connection depend on its own bytes only, if and only if no connection of it leaves a part of a
frame. -/
theorem isolated_iff_endsWhole {fromJson : Bytes → Option Object} {object : Object}
    (hobject : fromJson [0x7b, 0x7d] = some object) :
    (∀ (es es' : List SocketEvent) (c c' : Client Object),
      run (socketStep fromJson) .new es = some c → run (socketStep fromJson) .new es' = some c' →
      AllSteps (socketStep fromJson) Client.EndsWhole .new es →
      AllSteps (socketStep fromJson) Client.EndsWhole .new es' →
      c.received = c'.received → c.calls = c'.calls) ∧
    ∀ (es : List SocketEvent) (c : Client Object), run (socketStep fromJson) .new es = some c →
      (AllStates (socketStep fromJson) (fun c => c.isConnected = false → c.Isolated fromJson)
          .new es ↔
        AllSteps (socketStep fromJson) Client.EndsWhole .new es) := by
  constructor
  · intro es es' c c' hrun hrun' hends hends' hsame
    rw [calls_of_endsWhole hrun hends, calls_of_endsWhole hrun' hends', hsame]
  · intro es c hrun
    refine allStates_iff_allSteps (I := ConnectionInv fromJson)
      (fun _ _ _ h hstep => connectionInv_step h hstep)
      (fun _ _ _ hinv _ hstep => isolated_step_iff hobject hinv hstep) hrun connectionInv_new ?_
    exact fun _ => (isolated_iff_empty hobject rfl rfl).2 rfl

/-- The empty object is read from its text. -/
lemma parse_probe : Json.compact.parse [0x7b, 0x7d] = some (.object []) :=
  Json.compact.parse_dump (Json.wf_object fun _ h => absurd h List.not_mem_nil)

/-- A frame is received on a connection that ends after it, and another one on the next. -/
theorem isolated_wholeFrame :
    AllStates (socketStep Json.compact.parse)
      (fun c => c.isConnected = false → c.Isolated Json.compact.parse) .new
      [.connected, .readyRead (probe 3 251), .disconnected, .connected,
        .readyRead (probe 3 251)] := by
  have hread : ((readMessage Json.compact.parse ([] ++ probe 3 251)).2 : Bytes) = [] := by
    rw [List.nil_append, readMessage_probe parse_probe]
  refine ((isolated_iff_endsWhole parse_probe).2 _ _ rfl).2 ?_
  refine ⟨trivial, fun c hc => ?_⟩
  obtain rfl := Option.some.inj hc
  refine ⟨trivial, fun c hc => ?_⟩
  obtain rfl := Option.some.inj hc
  refine ⟨hread, fun c hc => ?_⟩
  obtain rfl := Option.some.inj hc
  refine ⟨trivial, fun c hc => ?_⟩
  obtain rfl := Option.some.inj hc
  exact ⟨trivial, fun _ _ => trivial⟩

/-- The first connection ends after one byte of a header, and the frame that is received on the
next one is not found. -/
theorem not_isolated_partialFrame :
    ¬ ∀ (es es' : List SocketEvent) (c c' : Client Json),
      run (socketStep Json.compact.parse) .new es = some c →
      run (socketStep Json.compact.parse) .new es' = some c' →
      c.received = c'.received → c.calls = c'.calls := by
  intro h
  have hshort : readMessage Json.compact.parse [0] = ([], [0]) := readMessage_more rfl
  have hlost : readMessage Json.compact.parse (0 :: probe 3 251) = ([], 0 :: probe 3 251) :=
    readMessage_more rfl
  have hcalls := h [.connected, .readyRead [0], .disconnected, .connected,
      .readyRead (probe 3 251)] [.connected, .readyRead (probe 3 251)] _ _ rfl rfl rfl
  simp [onReadyRead, Client.new, hshort, hlost, readMessage_probe parse_probe] at hcalls

end TcpClient

end WeChat
