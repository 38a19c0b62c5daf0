/-
# The read chain of a session

`CSession::readHead` and `CSession::readBody` arm one `async_read` after the other: four
header bytes, then as many body bytes as the header says.  Both fields of the header are read
as shorts, and a length that is negative or larger than `MSG_MAX_LEN` ends the chain.  The
chain is related to the frame decoder of `Framed`, and then run on what the client writes.
-/
import WeChat.Chat.Const
import WeChat.Client.TcpClient

namespace WeChat

namespace CSession

open Wire StreamDecoder Framed

/-- The `async_read` that a session has armed. -/
inductive Reading
  /-- `readHead`: the header. -/
  | head
  /-- `readBody`: the body of the message `_msgId` with `_msgLen` bytes. -/
  | body (msgId msgLen : ℤ)
  /-- None: the chain has ended. -/
  | stopped
deriving DecidableEq, Repr

/-- The number of bytes that the armed read asks for. -/
def Reading.want : Reading → Option ℕ
  | head => some msgHeadSize
  | body _ msgLen => some msgLen.toNat
  | stopped => none

/-- The completion handlers of `readHead` and `readBody`, given the bytes asked for: the call
of `handleMessage`, if there is one, and the read armed next. -/
def onRead : Reading → Bytes → Option (ℤ × Bytes) × Reading
  | .head, [b₀, b₁, b₂, b₃] =>
    let msgId := toShort (u16 b₀ b₁)
    let msgLen := toShort (u16 b₂ b₃)
    if msgLen < 0 ∨ msgMaxLen < msgLen then (none, .stopped)
    else if msgLen = 0 then (some (msgId, []), .head)
    else (none, .body msgId msgLen)
  | .body msgId _, bodyBuf => (some (msgId, bodyBuf), .head)
  | _, _ => (none, .stopped)

/-- The outcome of a stream: the calls of `handleMessage`, the read that is armed, and the
bytes that it has not got yet. -/
structure Served where
  handled : List (ℤ × Bytes)
  reading : Reading
  unread : Bytes

/-- The rank that decreases from a header to the next one when a body is empty. -/
def Reading.rank : Reading → ℕ
  | body _ _ => 1
  | _ => 0

lemma rank_onRead {st : Reading} {n : ℕ} {s : Bytes} (hw : st.want = some n)
    (hn : n ≤ s.length) :
    2 * (s.drop n).length + (onRead st (s.take n)).2.rank < 2 * s.length + st.rank := by
  have hrank : (onRead st (s.take n)).2.rank ≤ 1 := by
    cases (onRead st (s.take n)).2 <;> simp [Reading.rank]
  rw [List.length_drop]
  cases st with
  | head =>
    simp only [Reading.want, msgHeadSize, Option.some.injEq] at hw
    omega
  | body msgId msgLen =>
    simp only [onRead, Reading.rank]
    omega
  | stopped => simp [Reading.want] at hw

/-- The chain on the bytes that arrive: `async_read` delivers exactly the bytes asked for. -/
def serve (st : Reading) (s : Bytes) : Served :=
  match _hw : st.want with
  | none => ⟨[], st, s⟩
  | some n =>
    if _hn : s.length < n then ⟨[], st, s⟩
    else
      let read := onRead st (s.take n)
      let later := serve read.2 (s.drop n)
      ⟨read.1.toList ++ later.handled, later.reading, later.unread⟩
termination_by 2 * s.length + st.rank
decreasing_by exact rank_onRead _hw (Nat.le_of_not_lt _hn)

lemma serve_stopped (s : Bytes) : serve .stopped s = ⟨[], .stopped, s⟩ := by
  rw [serve]
  rfl

lemma serve_waiting (st : Reading) {n : ℕ} {s : Bytes} (hw : st.want = some n)
    (hn : s.length < n) : serve st s = ⟨[], st, s⟩ := by
  rw [serve]
  split
  · rfl
  · next m hm =>
    obtain rfl : n = m := Option.some.inj (hw.symm.trans hm)
    exact dif_pos hn

lemma serve_read (st : Reading) {n : ℕ} {s : Bytes} (hw : st.want = some n)
    (hn : n ≤ s.length) :
    serve st s =
      ⟨(onRead st (s.take n)).1.toList ++ (serve (onRead st (s.take n)).2 (s.drop n)).handled,
        (serve (onRead st (s.take n)).2 (s.drop n)).reading,
        (serve (onRead st (s.take n)).2 (s.drop n)).unread⟩ := by
  rw [serve]
  split
  · next hm => exact absurd (hw.symm.trans hm) (by simp)
  · next m hm =>
    obtain rfl : n = m := Option.some.inj (hw.symm.trans hm)
    exact dif_neg (Nat.not_lt.mpr hn)

/-! ## The grammar that the chain accepts -/

/-- The body length that the server takes a raw length field to mean. -/
def bodyLen (field : ℕ) : Option ℕ :=
  if toShort field < 0 ∨ msgMaxLen < toShort field then none else some (toShort field).toNat

/-- The frames that the server accepts. -/
def frames : Decoder (ℕ × Bytes) UInt8 := decoder bodyLen

/-- The arguments of the call of `handleMessage` for a frame. -/
def message (frame : ℕ × Bytes) : ℤ × Bytes := (toShort frame.1, frame.2)

lemma bodyLen_eq_some_iff {field n : ℕ} (h : field < 65536) :
    bodyLen field = some n ↔ field ≤ 8192 ∧ n = field := by
  unfold bodyLen msgMaxLen toShort
  split <;> split <;> simp only [reduceCtorEq, Option.some.injEq, false_iff] <;> omega

lemma bodyLen_eq_none_iff {field : ℕ} (h : field < 65536) :
    bodyLen field = none ↔ 8192 < field := by
  have hsome : ∀ n, bodyLen field = some n ↔ field ≤ 8192 ∧ n = field :=
    fun n => bodyLen_eq_some_iff h
  cases hb : bodyLen field with
  | none =>
    refine ⟨fun _ => ?_, fun _ => rfl⟩
    by_contra hle
    exact absurd ((hsome field).2 ⟨by omega, rfl⟩) (by simp [hb])
  | some n =>
    have := (hsome n).1 hb
    simp only [reduceCtorEq, false_iff]
    omega

section Header

variable {b₀ b₁ b₂ b₃ : UInt8}

lemma onRead_head_of_none (h : bodyLen (u16 b₂ b₃) = none) :
    onRead .head [b₀, b₁, b₂, b₃] = (none, .stopped) := by
  have hcond : toShort (u16 b₂ b₃) < 0 ∨ msgMaxLen < toShort (u16 b₂ b₃) := by
    by_contra hc
    simp [bodyLen, hc] at h
  simp only [onRead, if_pos hcond]

lemma onRead_head_of_some {n : ℕ} (h : bodyLen (u16 b₂ b₃) = some n) :
    onRead .head [b₀, b₁, b₂, b₃] =
      if n = 0 then (some (toShort (u16 b₀ b₁), []), .head)
      else (none, .body (toShort (u16 b₀ b₁)) n) := by
  obtain ⟨hle, rfl⟩ := (bodyLen_eq_some_iff (u16_lt b₂ b₃)).1 h
  have hshort : toShort (u16 b₂ b₃) = u16 b₂ b₃ := toShort_natCast_eq_iff.2 (by omega)
  simp only [onRead, hshort, msgMaxLen]
  rw [if_neg (by omega)]
  simp only [Nat.cast_eq_zero]

/-- What the chain does with a complete frame at the front of the stream. -/
lemma serve_frame {n : ℕ} {rest : Bytes} (h : bodyLen (u16 b₂ b₃) = some n)
    (hle : n ≤ rest.length) :
    serve .head (b₀ :: b₁ :: b₂ :: b₃ :: rest) =
      ⟨(toShort (u16 b₀ b₁), rest.take n) :: (serve .head (rest.drop n)).handled,
        (serve .head (rest.drop n)).reading, (serve .head (rest.drop n)).unread⟩ := by
  rw [serve_read .head rfl (by simp [msgHeadSize])]
  simp only [msgHeadSize, List.take_succ_cons, List.take_zero, List.drop_succ_cons,
    List.drop_zero, onRead_head_of_some h]
  by_cases h0 : n = 0
  · -- an empty message is handled without a read of its body
    subst h0
    simp
  · have hbody : serve (.body (toShort (u16 b₀ b₁)) n) rest = _ :=
      serve_read (.body _ n) rfl hle
    simp only [h0, if_false, hbody, onRead, Option.toList_none, List.nil_append,
      Option.toList_some, List.cons_append]
    rfl

/-- What the chain does with a complete header whose body has not arrived. -/
lemma serve_incomplete {n : ℕ} {rest : Bytes} (h : bodyLen (u16 b₂ b₃) = some n)
    (hlt : rest.length < n) :
    serve .head (b₀ :: b₁ :: b₂ :: b₃ :: rest) = ⟨[], .body (toShort (u16 b₀ b₁)) n, rest⟩ := by
  have hbody : serve (.body (toShort (u16 b₀ b₁)) n) rest = _ :=
    serve_waiting (.body _ n) rfl hlt
  rw [serve_read .head rfl (by simp [msgHeadSize])]
  simp only [msgHeadSize, List.take_succ_cons, List.take_zero, List.drop_succ_cons,
    List.drop_zero, onRead_head_of_some h, if_neg (show n ≠ 0 by omega), hbody]
  rfl

/-- What the chain does with a malformed header. -/
lemma serve_malformed {rest : Bytes} (h : bodyLen (u16 b₂ b₃) = none) :
    serve .head (b₀ :: b₁ :: b₂ :: b₃ :: rest) = ⟨[], .stopped, rest⟩ := by
  rw [serve_read .head rfl (by simp [msgHeadSize])]
  simp only [msgHeadSize, List.take_succ_cons, List.take_zero, List.drop_succ_cons,
    List.drop_zero, onRead_head_of_none h, serve_stopped]
  rfl

end Header

/-- **The chain implements the decoder of frames**: it hands over the frames of the stream,
with the identifier read as a short, and it ends exactly when a frame is malformed. -/
theorem serve_head (s : Bytes) :
    (serve .head s).handled = (frames.decode s).1.map message ∧
      ((serve .head s).reading = .stopped ↔ (frames.decode s).2 = none) := by
  induction s using Decoder.decode_induction frames with
  | more s hs =>
    rw [Decoder.decode_more hs]
    rcases Nat.lt_or_ge s.length 4 with h4 | h4
    · rw [serve_waiting .head rfl h4]
      simp
    · -- the header is complete and the body is not
      obtain ⟨b₀, b₁, b₂, b₃, rest, n, rfl, hn, hlt⟩ := header_of_more bodyLen hs h4
      rw [serve_incomplete hn hlt]
      simp
  | reject s hs =>
    obtain ⟨b₀, b₁, b₂, b₃, rest, rfl, hn⟩ := header_of_reject bodyLen hs
    rw [Decoder.decode_reject hs, serve_malformed hn]
    simp
  | item s a r hs ih =>
    obtain ⟨b₀, b₁, b₂, b₃, rest, n, rfl, hn, hle, rfl, rfl⟩ := item_of_next bodyLen hs
    rw [Decoder.decode_item hs, serve_frame hn hle]
    refine ⟨?_, ih.2⟩
    rw [ih.1]
    rfl

/-! ## The stream of the client -/

section Client

open TcpClient (encodeMessage)

variable {Object : Type*} (toJson : Object → Bytes)

/-- The arguments of `handleMessage` that a message of the client stands for. -/
def sent (m : UInt16 × Object) : ℤ × Bytes := (toShort m.1.toNat, toJson m.2)

/-- The bytes written for a sequence of messages. -/
def written (msgs : List (UInt16 × Object)) : Bytes :=
  msgs.flatMap fun m => encodeMessage toJson m.1 m.2

/-- The server stays in step with the client: it hands over a prefix of the messages, and
either all of them or it stops reading. -/
def InStep (msgs : List (UInt16 × Object)) (r : Served) : Prop :=
  r.handled <+: msgs.map (sent toJson) ∧
    (r.handled = msgs.map (sent toJson) ∨ r.reading = .stopped)

/-- The body of the message is larger than the server accepts. -/
def Oversize (m : UInt16 × Object) : Prop := msgMaxLen < (toJson m.2).length

instance (m : UInt16 × Object) : Decidable (Oversize toJson m) :=
  inferInstanceAs (Decidable (_ < _))

variable {toJson} {m : UInt16 × Object}

lemma not_oversize_iff : ¬ Oversize toJson m ↔ (toJson m.2).length ≤ 8192 := by
  simp only [Oversize, msgMaxLen]
  omega

variable (toJson m) in
/-- The raw fields of an encoded message. -/
lemma encode_fields :
    ((m.1.toNat : ℤ) % 65536).toNat = m.1.toNat ∧
      ((UInt16.ofNat (toJson m.2).length).toNat % 65536 : ℤ).toNat
        = (toJson m.2).length % 65536 := by
  have := m.1.toNat_lt
  rw [UInt16.toNat_ofNat']
  omega

variable (toJson m) in
lemma next_encode (t : Bytes) :
    frames.next (encodeMessage toJson m.1 m.2 ++ t) =
      if (toJson m.2).length % 65536 ≤ 8192 then
        .item (m.1.toNat, (toJson m.2 ++ t).take ((toJson m.2).length % 65536))
          ((toJson m.2 ++ t).drop ((toJson m.2).length % 65536))
      else .reject := by
  obtain ⟨hid, hlen⟩ := encode_fields toJson m
  have hlt : (toJson m.2).length % 65536 < 65536 := Nat.mod_lt _ (by norm_num)
  simp only [frames, decoder_next, encodeMessage, List.append_assoc, next_header, hid, hlen]
  split_ifs with h
  · rw [(bodyLen_eq_some_iff hlt).2 ⟨h, rfl⟩]
    have : (toJson m.2).length % 65536 ≤ (toJson m.2 ++ t).length := by
      rw [List.length_append]
      exact (Nat.mod_le _ _).trans (Nat.le_add_right _ _)
    simp only [if_neg (Nat.not_lt.mpr this)]
  · rw [(bodyLen_eq_none_iff hlt).2 (by omega)]

/-- A message that is not oversize is handed over whole. -/
lemma serve_encode_of_le (h : (toJson m.2).length ≤ 8192) (t : Bytes) :
    (serve .head (encodeMessage toJson m.1 m.2 ++ t)).handled =
        sent toJson m :: (serve .head t).handled ∧
      ((serve .head (encodeMessage toJson m.1 m.2 ++ t)).reading = .stopped ↔
        (serve .head t).reading = .stopped) := by
  have hmod : (toJson m.2).length % 65536 = (toJson m.2).length := Nat.mod_eq_of_lt (by omega)
  have hnext := next_encode toJson m t
  rw [hmod, if_pos h, List.take_left, List.drop_left] at hnext
  rw [(serve_head _).1, (serve_head _).2, (serve_head t).1, (serve_head t).2,
    Decoder.decode_item hnext]
  exact ⟨rfl, Iff.rfl⟩

/-- A message whose length field is out of range ends the chain. -/
lemma serve_encode_of_reject (h : 8192 < (toJson m.2).length % 65536) (t : Bytes) :
    (serve .head (encodeMessage toJson m.1 m.2 ++ t)).handled = [] ∧
      (serve .head (encodeMessage toJson m.1 m.2 ++ t)).reading = .stopped := by
  have hnext := next_encode toJson m t
  rw [if_neg (by omega)] at hnext
  rw [(serve_head _).1, (serve_head _).2, Decoder.decode_reject hnext]
  exact ⟨rfl, rfl⟩

/-- The length field of a large message may be in range after the narrowing; then the first
bytes of the body are handed over as the whole of it. -/
lemma serve_encode_of_wrap (h : 8192 < (toJson m.2).length)
    (hmod : (toJson m.2).length % 65536 ≤ 8192) (t : Bytes) :
    ∃ later, (serve .head (encodeMessage toJson m.1 m.2 ++ t)).handled =
      (toShort m.1.toNat, (toJson m.2).take ((toJson m.2).length % 65536)) :: later := by
  have hnext := next_encode toJson m t
  rw [if_pos hmod, List.take_append_of_le_length (by omega)] at hnext
  rw [(serve_head _).1, Decoder.decode_item hnext]
  exact ⟨_, rfl⟩

lemma not_inStep_of_wrap (h : 8192 < (toJson m.2).length)
    (hmod : (toJson m.2).length % 65536 ≤ 8192) (ms : List (UInt16 × Object)) :
    ¬ InStep toJson (m :: ms) (serve .head (written toJson (m :: ms))) := by
  rintro ⟨hpre, -⟩
  obtain ⟨later, hlater⟩ := serve_encode_of_wrap h hmod (written toJson ms)
  rw [written, List.flatMap_cons, ← written, hlater, List.map_cons,
    List.cons_prefix_cons] at hpre
  -- what is handed over is shorter than the body that was sent
  have hlen := congrArg (fun p => p.2.length) hpre.1
  simp only [sent, List.length_take] at hlen
  omega

/-- **The server stays in step with the client exactly when the length field of the first
oversize message, if there is one, is out of range as well.** -/
theorem inStep_serve_iff (toJson : Object → Bytes) (msgs : List (UInt16 × Object)) :
    InStep toJson msgs (serve .head (written toJson msgs)) ↔
      ∀ m, msgs.find? (fun m => Oversize toJson m) = some m →
        msgMaxLen < (toJson m.2).length % 65536 := by
  induction msgs with
  | nil =>
    rw [written, List.flatMap_nil, serve_waiting .head rfl (by simp [msgHeadSize])]
    simp [InStep]
  | cons m ms ih =>
    by_cases hover : Oversize toJson m
    · rw [List.find?_cons_of_pos (by simpa using hover)]
      have hlen : 8192 < (toJson m.2).length := by
        simp only [Oversize, msgMaxLen] at hover
        omega
      by_cases hmod : 8192 < (toJson m.2).length % 65536
      · -- the header of the oversize message is refused, and the chain ends there
        obtain ⟨hnil, hstop⟩ := serve_encode_of_reject hmod (written toJson ms)
        refine iff_of_true ⟨?_, Or.inr ?_⟩ ?_
        · rw [written, List.flatMap_cons, ← written, hnil]
          exact List.nil_prefix
        · rw [written, List.flatMap_cons, ← written, hstop]
        · intro m' hm'
          obtain rfl : m = m' := Option.some.inj hm'
          simp only [msgMaxLen]
          omega
      · -- the narrowed length is in range, and the server reads on inside the body
        refine iff_of_false (not_inStep_of_wrap hlen (by omega) ms) ?_
        intro h
        have := h m rfl
        simp only [msgMaxLen] at this
        omega
    · rw [List.find?_cons_of_neg (by simpa using hover), ← ih]
      obtain ⟨hhandled, hread⟩ :=
        serve_encode_of_le (not_oversize_iff.1 hover) (written toJson ms)
      rw [written, List.flatMap_cons, ← written, InStep, InStep, hhandled, hread,
        List.map_cons, List.cons_prefix_cons, List.cons.injEq]
      simp only [true_and]

/-- The compact JSON text of a group message from user 1 to group 2 whose content is the
letter `A`, `n` times. -/
def groupText (n : ℕ) : Bytes :=
  utf8 "\x7b\"content\":\"" ++ List.replicate n 65 ++ utf8 "\",\"fromUid\":1,\"groupId\":2\x7d"

lemma length_groupText (n : ℕ) : (groupText n).length = n + 38 := by
  have h₁ : (utf8 "\x7b\"content\":\"").length = 12 := by decide
  have h₂ : (utf8 "\",\"fromUid\":1,\"groupId\":2\x7d").length = 26 := by decide
  rw [groupText, List.length_append, List.length_append, List.length_replicate, h₁, h₂]
  omega

/-- A content of `2 ^ 16` letters has a length field of 38. -/
theorem not_inStep_groupText :
    ¬ InStep groupText [(2007, 65536)] (serve .head (written groupText [(2007, 65536)])) := by
  have hlen : (groupText 65536).length = 65574 := length_groupText 65536
  refine not_inStep_of_wrap ?_ ?_ []
  · rw [hlen]
    norm_num
  · rw [hlen]
    norm_num

end Client

end CSession

end WeChat
