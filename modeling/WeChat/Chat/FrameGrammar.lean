/-
# The grammar of what a session hands over

The read handlers of `CSession` share two buffers and two shorts, which every message
overwrites.  Below they are written with these members; the chain of `ReadChain` is what they
do when the members are forgotten.  What they hand over, for any stream, is the parse of its
longest prefix that is a sequence of frames.
-/
import WeChat.Chat.ReadChain

namespace WeChat

namespace CSession

open Wire StreamDecoder Framed

/-! ## The buffers -/

/-- `std::vector<char>::resize`. -/
def resize (buf : Bytes) (n : ℕ) : Bytes := buf.take n ++ List.replicate (n - buf.length) 0

/-- The buffer after bytes have been written to its front. -/
def overwrite (buf bytes : Bytes) : Bytes := bytes.take buf.length ++ buf.drop bytes.length

/-- `memcpy` of two bytes at offset `i` into a short, and `ntohs` of it. -/
def shortAt (buf : Bytes) (i : ℕ) : ℤ := toShort (u16 (buf.getD i 0) (buf.getD (i + 1) 0))

@[simp] lemma length_resize (buf : Bytes) (n : ℕ) : (resize buf n).length = n := by
  simp only [resize, List.length_append, List.length_take, List.length_replicate]
  omega

@[simp] lemma length_overwrite (buf bytes : Bytes) :
    (overwrite buf bytes).length = buf.length := by
  simp only [overwrite, List.length_append, List.length_take, List.length_drop]
  omega

/-- Nothing of the old contents is left in a buffer that has been filled. -/
lemma overwrite_eq {buf bytes : Bytes} (h : bytes.length = buf.length) :
    overwrite buf bytes = bytes := by
  rw [overwrite, ← h, List.take_length, h, List.drop_length, List.append_nil]

/-! ## The read handlers -/

/-- The completion handler that is pending. -/
inductive Pending
  | readHead
  | readBody
  | none
deriving DecidableEq, Repr

/-- The members of a session that its read handlers use.  The buffer of a pending read is as
large as the read. -/
structure Reader where
  headBuf : Bytes
  bodyBuf : Bytes
  msgId : ℤ
  msgLen : ℤ
  pending : Pending
  length_headBuf : headBuf.length = msgHeadSize
  length_bodyBuf : pending = .readBody → bodyBuf.length = msgLen.toNat

namespace Reader

/-- `CSession::readHead`. -/
def readHead (r : Reader) : Reader :=
  { r with pending := .readHead, length_bodyBuf := by intro h; cases h }

/-- `CSession::readBody`. -/
def readBody (r : Reader) : Reader :=
  { r with
    bodyBuf := resize r.bodyBuf r.msgLen.toNat
    pending := .readBody
    length_bodyBuf := fun _ => length_resize _ _ }

/-- `CSession::start`. -/
def start (r : Reader) : Reader := r.readHead

/-- The header arrives in `_headBuf`, and the handler of `readHead` takes it apart. -/
def onHead (r : Reader) (bytes : Bytes) : Option (ℤ × Bytes) × Reader :=
  let headBuf := overwrite r.headBuf bytes
  let r : Reader :=
    ⟨headBuf, r.bodyBuf, shortAt headBuf 0, shortAt headBuf 2, .none,
      (length_overwrite _ _).trans r.length_headBuf, by intro h; cases h⟩
  if r.msgLen < 0 ∨ msgMaxLen < r.msgLen then (none, r)
  else if r.msgLen = 0 then (some (r.msgId, []), r.readHead)
  else (none, r.readBody)

/-- The body arrives in `_bodyBuf`, and the handler of `readBody` hands over a string made
from its first `_msgLen` bytes. -/
def onBody (r : Reader) (bytes : Bytes) : Option (ℤ × Bytes) × Reader :=
  let r : Reader :=
    ⟨r.headBuf, overwrite r.bodyBuf bytes, r.msgId, r.msgLen, .none, r.length_headBuf,
      by intro h; cases h⟩
  (some (r.msgId, r.bodyBuf.take r.msgLen.toNat), r.readHead)

/-- The number of bytes that `async_read` waits for: `buffer(data, n)` is no larger than the
data. -/
def want (r : Reader) : Option ℕ :=
  match r.pending with
  | .readHead => some (min r.headBuf.length msgHeadSize)
  | .readBody => some (min r.bodyBuf.length r.msgLen.toNat)
  | .none => none

/-- The completion handler of the pending read, given the bytes that it waited for. -/
def complete (r : Reader) (bytes : Bytes) : Option (ℤ × Bytes) × Reader :=
  match r.pending with
  | .readHead => r.onHead bytes
  | .readBody => r.onBody bytes
  | .none => (none, r)

/-- The read that is armed, without the buffers. -/
def reading (r : Reader) : Reading :=
  match r.pending with
  | .readHead => .head
  | .readBody => .body r.msgId r.msgLen
  | .none => .stopped

@[simp] lemma reading_readHead (r : Reader) : r.readHead.reading = .head := rfl

@[simp] lemma reading_readBody (r : Reader) :
    r.readBody.reading = .body r.msgId r.msgLen := rfl

/-- A read is never larger than its buffer, and never smaller than the message. -/
lemma want_eq (r : Reader) : r.want = r.reading.want := by
  unfold want reading
  cases h : r.pending with
  | readHead => simp only [r.length_headBuf, Nat.min_self, Reading.want]
  | readBody => simp only [r.length_bodyBuf h, Nat.min_self, Reading.want]
  | none => rfl

lemma onHead_eq (r : Reader) {bytes : Bytes} (h : bytes.length = 4) :
    (r.onHead bytes).1 = (onRead .head bytes).1 ∧
      (r.onHead bytes).2.reading = (onRead .head bytes).2 := by
  obtain ⟨b₀, b₁, b₂, b₃, rest, rfl⟩ := exists_header h.ge
  obtain rfl : rest = [] := by
    rw [← List.length_eq_zero_iff]
    simp only [List.length_cons] at h
    omega
  have hbuf : overwrite r.headBuf [b₀, b₁, b₂, b₃] = [b₀, b₁, b₂, b₃] :=
    overwrite_eq (h.trans r.length_headBuf.symm)
  simp only [onHead, onRead, hbuf, shortAt, List.getD_cons_zero, List.getD_cons_succ]
  split_ifs with hlen h0
  · exact ⟨rfl, rfl⟩
  · exact ⟨rfl, reading_readHead _⟩
  · simp only [reading_readBody, and_self]

lemma onBody_eq (r : Reader) {bytes : Bytes} (hp : r.pending = .readBody)
    (h : bytes.length = r.msgLen.toNat) :
    (r.onBody bytes).1 = some (r.msgId, bytes) ∧ (r.onBody bytes).2.reading = .head := by
  have hbuf : overwrite r.bodyBuf bytes = bytes :=
    overwrite_eq (h.trans (r.length_bodyBuf hp).symm)
  refine ⟨?_, rfl⟩
  simp only [onBody, hbuf, List.take_of_length_le h.le]

/-- **The handlers do what `onRead` does**, whatever their buffers held before. -/
theorem complete_eq {r : Reader} {bytes : Bytes} (h : r.want = some bytes.length) :
    (r.complete bytes).1 = (onRead r.reading bytes).1 ∧
      (r.complete bytes).2.reading = (onRead r.reading bytes).2 := by
  rw [want_eq] at h
  cases hp : r.pending with
  | readHead =>
    have hr : r.reading = .head := by simp only [reading, hp]
    rw [hr] at h ⊢
    simp only [complete, hp]
    exact r.onHead_eq (Option.some.inj h).symm
  | readBody =>
    have hr : r.reading = .body r.msgId r.msgLen := by simp only [reading, hp]
    rw [hr] at h ⊢
    simp only [complete, hp]
    exact r.onBody_eq hp (Option.some.inj h).symm
  | none => simp [reading, hp, Reading.want] at h

/-! ## A connection -/

lemma rank_complete {r : Reader} {n : ℕ} {s : Bytes} (hw : r.want = some n)
    (hn : n ≤ s.length) :
    2 * (s.drop n).length + (r.complete (s.take n)).2.reading.rank
      < 2 * s.length + r.reading.rank := by
  have hlen : (s.take n).length = n := List.length_take_of_le hn
  rw [(complete_eq (hlen.symm ▸ hw)).2]
  exact rank_onRead (r.want_eq ▸ hw) hn

/-- The calls of `handleMessage` while the bytes `s` arrive: `async_read` delivers exactly the
bytes that it waits for. -/
def receive (r : Reader) (s : Bytes) : List (ℤ × Bytes) :=
  match _hw : r.want with
  | none => []
  | some n =>
    if _hn : s.length < n then []
    else (r.complete (s.take n)).1.toList ++ receive (r.complete (s.take n)).2 (s.drop n)
termination_by 2 * s.length + r.reading.rank
decreasing_by exact rank_complete _hw (Nat.le_of_not_lt _hn)

/-- The buffers do not show in what is handed over. -/
lemma receive_eq (r : Reader) (s : Bytes) : r.receive s = (serve r.reading s).handled := by
  induction r, s using receive.induct with
  | case1 r s hw =>
    rw [receive, serve]
    split
    · split
      · rfl
      · next n hn => exact absurd (hw.symm.trans (want_eq r ▸ hn)) (by simp)
    · next n hn => exact absurd (hw.symm.trans hn) (by simp)
  | case2 r s n hw hn =>
    rw [serve_waiting _ (want_eq r ▸ hw) hn, receive]
    split
    · rfl
    · next m hm =>
      obtain rfl : n = m := Option.some.inj (hw.symm.trans hm)
      exact dif_pos hn
  | case3 r s n hw hn ih =>
    have hn' : n ≤ s.length := Nat.le_of_not_lt hn
    have hlen : (s.take n).length = n := List.length_take_of_le hn'
    have hw' : r.want = some (s.take n).length := hw.trans (congrArg some hlen.symm)
    obtain ⟨hcall, hread⟩ := complete_eq hw'
    rw [serve_read _ (want_eq r ▸ hw) hn', ← hcall, ← hread, ← ih, receive]
    split
    · next hm => exact absurd (hw.symm.trans hm) (by simp)
    · next m hm =>
      obtain rfl : n = m := Option.some.inj (hw.symm.trans hm)
      exact dif_neg hn

end Reader

/-! ## The grammar -/

/-- The identifier of a frame is a short, and its body is not longer than `MSG_MAX_LEN`. -/
def IsFrame (m : ℤ × Bytes) : Prop :=
  (-32768 ≤ m.1 ∧ m.1 < 32768) ∧ m.2.length ≤ msgMaxLen

/-- The bytes of a frame: identifier and length as big-endian fields, then the body. -/
def frameBytes (m : ℤ × Bytes) : Bytes := header m.1 m.2.length ++ m.2

/-- The bytes of a sequence of frames. -/
def streamOf (ms : List (ℤ × Bytes)) : Bytes := ms.flatMap frameBytes

/-- `ms` is the parse of the longest prefix of `s` that is a sequence of frames. -/
structure LongestParse (s : Bytes) (ms : List (ℤ × Bytes)) : Prop where
  isFrame : ∀ m ∈ ms, IsFrame m
  isPrefix : streamOf ms <+: s
  longest : ∀ ms', (∀ m ∈ ms', IsFrame m) → streamOf ms' <+: s → ms' <+: ms

/-! The decoder of frames reads raw identifiers. -/

/-- A frame with a raw identifier. -/
def IsRaw (a : ℕ × Bytes) : Prop := a.1 < 65536 ∧ a.2.length ≤ 8192

/-- The bytes of a frame with a raw identifier. -/
def rawBytes (a : ℕ × Bytes) : Bytes := header a.1 a.2.length ++ a.2

lemma bodyLen_length {body : Bytes} (h : body.length ≤ 8192) :
    bodyLen ((body.length : ℤ) % 65536).toNat = some body.length := by
  rw [bodyLen_eq_some_iff (by omega)]
  omega

lemma next_rawBytes {a : ℕ × Bytes} (h : IsRaw a) (t : Bytes) :
    frames.next (rawBytes a ++ t) = .item a t := by
  have hid : ((a.1 : ℤ) % 65536).toNat = a.1 := by
    have := h.1
    omega
  rw [frames, decoder_next, rawBytes, next_frame bodyLen a.1 (bodyLen_length h.2), hid]

lemma isRaw_of_next {s r : Bytes} {a : ℕ × Bytes} (h : frames.next s = .item a r) :
    IsRaw a ∧ s = rawBytes a ++ r := by
  obtain ⟨b₀, b₁, b₂, b₃, rest, n, rfl, hn, hle, rfl, rfl⟩ := item_of_next bodyLen h
  obtain ⟨hmax, rfl⟩ := (bodyLen_eq_some_iff (u16_lt b₂ b₃)).1 hn
  have hlen : (rest.take (u16 b₂ b₃)).length = u16 b₂ b₃ := List.length_take_of_le hle
  refine ⟨⟨u16_lt b₀ b₁, hlen.trans_le hmax⟩, ?_⟩
  rw [rawBytes, hlen, header, be16_u16, be16_u16, List.append_assoc, List.take_append_drop]
  rfl

/-- The language of the decoder of frames. -/
def grammar : Decoder.Grammar frames := ⟨IsRaw, rawBytes, next_rawBytes, isRaw_of_next⟩

/-- The raw form of a frame. -/
def raw (m : ℤ × Bytes) : ℕ × Bytes := ((m.1 % 65536).toNat, m.2)

lemma isFrame_message {a : ℕ × Bytes} (h : IsRaw a) : IsFrame (message a) := by
  have hlen := h.2
  have hlt := toShort_lt a.1
  have hle : -32768 ≤ toShort a.1 := by
    unfold toShort
    split <;> omega
  simp only [IsFrame, message, msgMaxLen]
  omega

lemma isRaw_raw {m : ℤ × Bytes} (h : IsFrame m) : IsRaw (raw m) := by
  obtain ⟨⟨h₁, h₂⟩, h₃⟩ := h
  simp only [msgMaxLen] at h₃
  exact ⟨by simp only [raw]; omega, by simp only [raw]; omega⟩

lemma message_raw {m : ℤ × Bytes} (h : IsFrame m) : message (raw m) = m := by
  obtain ⟨⟨h₁, h₂⟩, -⟩ := h
  have hshort : toShort ((m.1 % 65536).toNat : ℤ) = m.1 := by
    unfold toShort
    split <;> omega
  simp only [message, raw, hshort]

lemma frameBytes_message (a : ℕ × Bytes) : frameBytes (message a) = rawBytes a := by
  simp only [frameBytes, message, rawBytes, header, be16_toShort]

lemma streamOf_message (as : List (ℕ × Bytes)) :
    streamOf (as.map message) = as.flatMap grammar.enc := by
  simp only [streamOf, List.flatMap_map, frameBytes_message]
  rfl

lemma map_message_raw {ms : List (ℤ × Bytes)} (h : ∀ m ∈ ms, IsFrame m) :
    (ms.map raw).map message = ms := by
  rw [List.map_map]
  exact (List.map_congr_left fun m hm => message_raw (h m hm)).trans ms.map_id

/-- The frames that a stream starts with are handed over, and then what follows them is. -/
lemma handled_streamOf {ms : List (ℤ × Bytes)} (hms : ∀ m ∈ ms, IsFrame m) (t : Bytes) :
    (serve .head (streamOf ms ++ t)).handled = ms ++ (serve .head t).handled := by
  have hvalid : ∀ a ∈ ms.map raw, grammar.Valid a := by
    intro a ha
    obtain ⟨m, hm, rfl⟩ := List.mem_map.1 ha
    exact isRaw_raw (hms m hm)
  have hbytes : streamOf ms = (ms.map raw).flatMap grammar.enc := by
    rw [← streamOf_message, map_message_raw hms]
  rw [(serve_head _).1, (serve_head t).1, hbytes, grammar.prefix_decode hvalid, List.map_append,
    map_message_raw hms]

lemma longestParse_serve (s : Bytes) : LongestParse s (serve .head s).handled where
  isFrame := by
    intro m hm
    rw [(serve_head s).1, List.mem_map] at hm
    obtain ⟨a, ha, rfl⟩ := hm
    exact isFrame_message (grammar.valid_of_mem_decode ha)
  isPrefix := by
    rw [(serve_head s).1, streamOf_message]
    exact grammar.flatMap_decode_prefix s
  longest := by
    rintro ms' hms' ⟨t, rfl⟩
    rw [handled_streamOf hms']
    exact List.prefix_append _ _

/-- Nothing is handed over of a frame that is cut. -/
lemma handled_take {m : ℤ × Bytes} (hm : IsFrame m) {k : ℕ} (hk : k < (frameBytes m).length) :
    (serve .head ((frameBytes m).take k)).handled = [] := by
  have hlen : m.2.length ≤ 8192 := (isRaw_raw hm).2
  have hnext : frames.next ((frameBytes m).take k) = .more := 
    next_take bodyLen m.1 (bodyLen_length hlen) hk
  rw [(serve_head _).1, Decoder.decode_more hnext, List.map_nil]

/-- Nothing is handed over from a length field that is out of range on. -/
lemma handled_malformed (id : ℤ) {len : ℤ} (hshort : -32768 ≤ len ∧ len < 32768)
    (hlen : len < 0 ∨ msgMaxLen < len) (t : Bytes) :
    (serve .head (header id len ++ t)).handled = [] := by
  have hfield : bodyLen (len % 65536).toNat = none := by
    simp only [msgMaxLen] at hlen
    rw [bodyLen_eq_none_iff (by omega)]
    omega
  have hnext : frames.next (header id len ++ t) = .reject := by
    rw [frames, decoder_next, next_header, hfield]
  rw [(serve_head _).1, Decoder.decode_reject hnext, List.map_nil]

/-- **The server accepts exactly the frame grammar.**  What a session hands over of any stream
is the parse of the longest prefix that is a sequence of frames.  A frame that is cut is not
handed over, nor is anything after a length that is out of range. -/
theorem receive_longestParse (session : Reader) (s : Bytes) :
    LongestParse s (session.start.receive s) ∧
      (∀ ms m k, (∀ m' ∈ ms, IsFrame m') → IsFrame m → k < (frameBytes m).length →
        s = streamOf ms ++ (frameBytes m).take k → session.start.receive s = ms) ∧
      ∀ ms id len t, (∀ m' ∈ ms, IsFrame m') → -32768 ≤ len ∧ len < 32768 →
        len < 0 ∨ msgMaxLen < len → s = streamOf ms ++ (header id len ++ t) →
        session.start.receive s = ms := by
  have hserve : session.start.receive s = (serve .head s).handled := Reader.receive_eq _ s
  rw [hserve]
  refine ⟨longestParse_serve s, ?_, ?_⟩
  · rintro ms m k hms hm hk rfl
    rw [handled_streamOf hms, handled_take hm hk, List.append_nil]
  · rintro ms id len t hms hshort hlen rfl
    rw [handled_streamOf hms, handled_malformed id hshort hlen, List.append_nil]

end CSession

end WeChat
