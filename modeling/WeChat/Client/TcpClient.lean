/-
# The framing of the Qt client

`TcpClient::encodeMessage` writes a message as a frame, and `TcpClient::readMessage`, called
from `TcpClient::onReadyRead`, takes the frames off the front of `m_recvBuffer`.  The JSON
library of Qt is a parameter: `toJson` renders an object, and `fromJson` parses a body and
yields an object when the document is one.
-/
import WeChat.Lib.Framed

namespace WeChat

namespace TcpClient

open Wire StreamDecoder Framed

variable {Object : Type*}

/-! ## Writing -/

/-- `TcpClient::encodeMessage`.  The size of the body is narrowed to a `quint16`. -/
def encodeMessage (toJson : Object → Bytes) (msgId : UInt16) (json : Object) : Bytes :=
  let body := toJson json
  let bodyLen := UInt16.ofNat body.length
  header msgId.toNat bodyLen.toNat ++ body

/-! ## Reading -/

section Reading

variable (fromJson : Bytes → Option Object)

/-- The loop of `TcpClient::readMessage`: the calls of `parseMessage` in their order, and
the `m_recvBuffer` that is left.  Every round removes at least the four header bytes. -/
def readMessage (m_recvBuffer : Bytes) : List (ℕ × Object) × Bytes :=
  match m_recvBuffer with
  | b₀ :: b₁ :: b₂ :: b₃ :: rest =>
    let msgId := u16 b₀ b₁
    let msgLen := u16 b₂ b₃
    if rest.length < msgLen then
      ([], b₀ :: b₁ :: b₂ :: b₃ :: rest)
    else
      let msgData := rest.take msgLen
      match fromJson msgData with
      | some json =>
        ((msgId, json) :: (readMessage (rest.drop msgLen)).1, (readMessage (rest.drop msgLen)).2)
      -- a body that is not a JSON object is dropped without a call of `parseMessage`
      | none => readMessage (rest.drop msgLen)
  | short => ([], short)
termination_by m_recvBuffer.length
decreasing_by
  all_goals
    simp only [List.length_drop, List.length_cons]
    omega

/-- `TcpClient::onReadyRead`, when the socket holds the bytes `chunk`. -/
def onReadyRead (m_recvBuffer chunk : Bytes) : List (ℕ × Object) × Bytes :=
  readMessage fromJson (m_recvBuffer ++ chunk)

/-- The successive calls of `onReadyRead` on one connection. -/
def receive : Bytes → List Bytes → List (ℕ × Object) × Bytes
  | m_recvBuffer, [] => ([], m_recvBuffer)
  | m_recvBuffer, chunk :: chunks =>
    let read := onReadyRead fromJson m_recvBuffer chunk
    (read.1 ++ (receive read.2 chunks).1, (receive read.2 chunks).2)

/-! ## The decoder of the client -/

/-- The client takes every length field at its unsigned value. -/
def frames : Decoder (ℕ × Bytes) UInt8 := decoder some

/-- The call of `parseMessage` that a frame leads to, if its body is an object. -/
def parsed (frame : ℕ × Bytes) : Option (ℕ × Object) :=
  (fromJson frame.2).map fun json => (frame.1, json)

lemma frames_next_ne_reject (s : Bytes) : frames.next s ≠ .reject := by
  intro h
  obtain ⟨_, _, _, _, _, _, h⟩ := header_of_reject some h
  cases h

/-- No round of the loop is entered before a header is complete. -/
lemma readMessage_of_length_lt {s : Bytes} (h : s.length < 4) :
    readMessage fromJson s = ([], s) := by
  rw [readMessage]
  rintro b₀ b₁ b₂ b₃ rest rfl
  simp only [List.length_cons] at h
  omega

/-- `readMessage` is the frame decoder followed by the parsing of the bodies. -/
theorem readMessage_eq_decode (s : Bytes) :
    ∃ r, (frames.decode s).2 = some r ∧
      readMessage fromJson s = ((frames.decode s).1.filterMap (parsed fromJson), r) := by
  induction s using Decoder.decode_induction frames with
  | more s hs =>
    refine ⟨s, by rw [Decoder.decode_more hs], ?_⟩
    rw [Decoder.decode_more hs]
    -- the loop ends where the decoder waits: in a header, or in a body
    rcases Nat.lt_or_ge s.length 4 with h4 | h4
    · rw [readMessage_of_length_lt fromJson h4]
      rfl
    · obtain ⟨b₀, b₁, b₂, b₃, rest, n, rfl, hn, hlt⟩ := header_of_more some hs h4
      obtain rfl : u16 b₂ b₃ = n := Option.some.inj hn
      rw [readMessage, if_pos hlt]
      rfl
  | reject s hs => exact absurd hs (frames_next_ne_reject s)
  | item s a r hs ih =>
    obtain ⟨r', hr', hread⟩ := ih
    obtain ⟨b₀, b₁, b₂, b₃, rest, n, rfl, hn, hle, rfl, rfl⟩ := item_of_next some hs
    obtain rfl : u16 b₂ b₃ = n := Option.some.inj hn
    refine ⟨r', by rw [Decoder.decode_item hs]; exact hr', ?_⟩
    rw [readMessage, if_neg (by omega), Decoder.decode_item hs, List.filterMap_cons, hread]
    cases hjson : fromJson (rest.take (u16 b₂ b₃)) <;> simp [parsed, hjson]

/-- The successive reads of a connection are the incremental decoding of its chunks. -/
lemma receive_eq_feed (buf : Bytes) (chunks : List Bytes) :
    ∃ r, (frames.feed buf chunks).2 = some r ∧
      receive fromJson buf chunks =
        ((frames.feed buf chunks).1.filterMap (parsed fromJson), r) := by
  induction chunks generalizing buf with
  | nil => exact ⟨buf, rfl, rfl⟩
  | cons chunk chunks ih =>
    obtain ⟨r, hr, hread⟩ := readMessage_eq_decode fromJson (buf ++ chunk)
    obtain ⟨r', hr', hrest⟩ := ih r
    have hfeed := Decoder.feed_cons_some chunks
      (show frames.decode (buf ++ chunk) = ((frames.decode (buf ++ chunk)).1, some r) from
        Prod.ext rfl hr)
    refine ⟨r', by rw [hfeed]; exact hr', ?_⟩
    simp only [receive, onReadyRead, hread, hrest, hfeed, List.filterMap_append]

/-- A frame of the wire format, with a body that its length field can express. -/
structure Frame where
  msgId : UInt16
  body : Bytes
  length_le : body.length ≤ 65535

/-- The bytes of a frame. -/
def Frame.bytes (f : Frame) : Bytes := header f.msgId.toNat f.body.length ++ f.body

lemma Frame.bodyLen_eq (f : Frame) :
    (some ((f.body.length : ℤ) % 65536).toNat : Option ℕ) = some f.body.length := by
  have := f.length_le
  congr 1
  omega

lemma Frame.next_bytes_append (f : Frame) (t : Bytes) :
    frames.next (f.bytes ++ t) = .item (f.msgId.toNat, f.body) t := by
  have hid : ((f.msgId.toNat : ℤ) % 65536).toNat = f.msgId.toNat := by
    have := f.msgId.toNat_lt
    omega
  have h := next_frame some f.msgId.toNat f.bodyLen_eq t
  rw [hid] at h
  exact h

lemma Frame.next_bytes_take (f : Frame) {k : ℕ} (hk : k < f.bytes.length) :
    frames.next (f.bytes.take k) = .more :=
  next_take some f.msgId.toNat f.bodyLen_eq hk

/-- **The client's decoder does not depend on the packets.**  Whatever the chunks in which a
stream arrives, the calls of `parseMessage` and the residue are those of the whole stream in
one chunk; and a stream of frames followed by a proper prefix of a frame yields exactly the
frames whose body is an object, and leaves exactly the prefix. -/
theorem receive_packetisation :
    (∀ chunks : List Bytes,
      receive fromJson [] chunks = receive fromJson [] [chunks.flatten]) ∧
    ∀ (fs : List Frame) (f : Frame) (k : Fin f.bytes.length),
      receive fromJson [] [fs.flatMap Frame.bytes ++ f.bytes.take k] =
        (fs.filterMap fun f => parsed fromJson (f.msgId.toNat, f.body), f.bytes.take k) := by
  have hnil : frames.next [] = .more := rfl
  constructor
  · -- both sides feed the same stream to the decoder
    intro chunks
    obtain ⟨r, hr, h⟩ := receive_eq_feed fromJson [] chunks
    obtain ⟨r', hr', h'⟩ := receive_eq_feed fromJson [] [chunks.flatten]
    rw [Decoder.feed_eq_decode hnil] at hr h hr' h'
    rw [List.flatten_singleton] at hr' h'
    rw [h, h', Option.some.inj (hr.symm.trans hr')]
  · intro fs f k
    obtain ⟨r, hr, h⟩ := receive_eq_feed fromJson []
      [fs.flatMap Frame.bytes ++ f.bytes.take k]
    have hdec := Decoder.decode_flatMap Frame.bytes (fun f => (f.msgId.toNat, f.body)) fs
      (fun c _ t => c.next_bytes_append t) (f.bytes.take k)
    rw [Decoder.decode_more (f.next_bytes_take k.isLt)] at hdec
    rw [Decoder.feed_eq_decode hnil, List.flatten_singleton, List.nil_append, hdec] at hr h
    rw [h, ← Option.some.inj hr, List.append_nil, List.filterMap_map]
    rfl

end Reading

end TcpClient

end WeChat
