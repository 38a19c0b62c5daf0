/-
# Length-prefixed frames

A frame is a four-byte header, a big-endian 16-bit identifier and a big-endian 16-bit
length field, followed by a body.  A receiver turns the raw length field into the number of
body bytes, or refuses it; this is the parameter `bodyLen` of the decoder below.
-/
import WeChat.Lib.Wire
import WeChat.Lib.StreamDecoder

namespace Framed

open Wire StreamDecoder

/-- The header of a frame with the sixteen low bits of `id` and `len` in its two fields. -/
def header (id len : ℤ) : Bytes := be16 id ++ be16 len

@[simp] lemma length_header (id len : ℤ) : (header id len).length = 4 := rfl

lemma header_append (id len : ℤ) (s : Bytes) :
    header id len ++ s = beHi id :: beLo id :: beHi len :: beLo len :: s := rfl

lemma exists_header {s : Bytes} (h : 4 ≤ s.length) :
    ∃ b₀ b₁ b₂ b₃ rest, s = b₀ :: b₁ :: b₂ :: b₃ :: rest := by
  rcases s with _ | ⟨b₀, _ | ⟨b₁, _ | ⟨b₂, _ | ⟨b₃, rest⟩⟩⟩⟩
  case cons.cons.cons.cons => exact ⟨b₀, b₁, b₂, b₃, rest, rfl⟩
  all_goals
    simp only [List.length_cons, List.length_nil] at h
    omega

section Decoder

variable (bodyLen : ℕ → Option ℕ)

/-- What a receiver that accepts the length fields in the domain of `bodyLen` finds at the
front of a stream: an item is the raw identifier and the body. -/
def next : Bytes → Outcome (ℕ × Bytes) UInt8
  | b₀ :: b₁ :: b₂ :: b₃ :: rest =>
    match bodyLen (u16 b₂ b₃) with
    | none => .reject
    | some n => if rest.length < n then .more else .item (u16 b₀ b₁, rest.take n) (rest.drop n)
  | _ => .more

lemma next_of_length_lt {s : Bytes} (h : s.length < 4) : next bodyLen s = .more := by
  match s, h with
  | [], _ => rfl
  | [_], _ => rfl
  | [_, _], _ => rfl
  | [_, _, _], _ => rfl

/-- What is found after a complete header. -/
lemma next_header (id len : ℤ) (s : Bytes) :
    next bodyLen (header id len ++ s) =
      match bodyLen (len % 65536).toNat with
      | none => .reject
      | some n =>
        if s.length < n then .more else .item ((id % 65536).toNat, s.take n) (s.drop n) := by
  have hid : u16 (beHi id) (beLo id) = (id % 65536).toNat := by have := u16_be id; omega
  have hlen : u16 (beHi len) (beLo len) = (len % 65536).toNat := by have := u16_be len; omega
  rw [header_append, next, hid, hlen]

lemma item_of_next {s r : Bytes} {a : ℕ × Bytes} (h : next bodyLen s = .item a r) :
    ∃ b₀ b₁ b₂ b₃ rest n, s = b₀ :: b₁ :: b₂ :: b₃ :: rest ∧ bodyLen (u16 b₂ b₃) = some n ∧
      n ≤ rest.length ∧ a = (u16 b₀ b₁, rest.take n) ∧ r = rest.drop n := by
  match s, h with
  | b₀ :: b₁ :: b₂ :: b₃ :: rest, h =>
    simp only [next] at h
    cases hn : bodyLen (u16 b₂ b₃) with
    | none => simp [hn] at h
    | some n =>
      by_cases hlt : rest.length < n
      · simp [hn, hlt] at h
      · simp only [hn, hlt, if_false, Outcome.item.injEq] at h
        exact ⟨b₀, b₁, b₂, b₃, rest, n, rfl, hn, by omega, h.1.symm, h.2.symm⟩

lemma header_of_reject {s : Bytes} (h : next bodyLen s = .reject) :
    ∃ b₀ b₁ b₂ b₃ rest, s = b₀ :: b₁ :: b₂ :: b₃ :: rest ∧ bodyLen (u16 b₂ b₃) = none := by
  match s, h with
  | b₀ :: b₁ :: b₂ :: b₃ :: rest, h =>
    simp only [next] at h
    cases hn : bodyLen (u16 b₂ b₃) with
    | none => exact ⟨b₀, b₁, b₂, b₃, rest, rfl, hn⟩
    | some n =>
      simp only [hn] at h
      split at h <;> simp at h

/-- When more is needed after a complete header, the body is incomplete. -/
lemma header_of_more {s : Bytes} (h : next bodyLen s = .more) (h4 : 4 ≤ s.length) :
    ∃ b₀ b₁ b₂ b₃ rest n, s = b₀ :: b₁ :: b₂ :: b₃ :: rest ∧ bodyLen (u16 b₂ b₃) = some n ∧
      rest.length < n := by
  obtain ⟨b₀, b₁, b₂, b₃, rest, rfl⟩ := exists_header h4
  simp only [next] at h
  cases hn : bodyLen (u16 b₂ b₃) with
  | none => simp [hn] at h
  | some n =>
    refine ⟨b₀, b₁, b₂, b₃, rest, n, rfl, hn, ?_⟩
    by_contra hge
    simp [hn, hge] at h

/-- The decoder of frames whose length field `bodyLen` accepts. -/
def decoder : Decoder (ℕ × Bytes) UInt8 where
  next := next bodyLen
  progress h := by
    obtain ⟨b₀, b₁, b₂, b₃, rest, n, rfl, -, -, -, rfl⟩ := item_of_next bodyLen h
    simp only [List.length_drop, List.length_cons]
    omega
  item_append t h := by
    obtain ⟨b₀, b₁, b₂, b₃, rest, n, rfl, hn, hle, rfl, rfl⟩ := item_of_next bodyLen h
    -- a body that has arrived is still there when more follows
    have hlt : ¬ (rest ++ t).length < n := by
      rw [List.length_append]
      omega
    simp only [List.cons_append, next, hn, hlt, if_false, List.take_append_of_le_length hle,
      List.drop_append_of_le_length hle]
  reject_append t h := by
    obtain ⟨b₀, b₁, b₂, b₃, rest, rfl, hn⟩ := header_of_reject bodyLen h
    simp only [List.cons_append, next, hn]

@[simp] lemma decoder_next (s : Bytes) : (decoder bodyLen).next s = next bodyLen s := rfl

/-- A frame whose length field is taken to mean the length of its body is decoded. -/
lemma next_frame (id : ℤ) {len : ℤ} {body : Bytes}
    (h : bodyLen (len % 65536).toNat = some body.length) (t : Bytes) :
    next bodyLen (header id len ++ body ++ t) = .item ((id % 65536).toNat, body) t := by
  rw [List.append_assoc, next_header, h]
  simp

/-- Nothing is decoded from a proper prefix of such a frame. -/
lemma next_take (id : ℤ) {len : ℤ} {body : Bytes}
    (h : bodyLen (len % 65536).toNat = some body.length) {k : ℕ}
    (hk : k < (header id len ++ body).length) :
    next bodyLen ((header id len ++ body).take k) = .more := by
  rcases Nat.lt_or_ge k 4 with h4 | h4
  · exact next_of_length_lt _ (by rw [List.length_take]; omega)
  · -- the header is whole, and the cut is in the body
    have hk' : k - 4 < body.length := by
      rw [List.length_append, length_header] at hk
      omega
    have htake : (header id len ++ body).take k = header id len ++ body.take (k - 4) := by
      rw [List.take_append, length_header, List.take_of_length_le (by simpa using h4)]
    rw [htake, next_header, h]
    simp only [List.length_take, if_pos (show min (k - 4) body.length < body.length by omega)]

end Decoder

end Framed
