/-
# Decoders that take items off the front of a stream

A stream decoder looks at the symbols received so far and says that an item is complete,
that more symbols are needed, or that the stream is malformed.  Its answers may not change
when more symbols arrive; under that law the items decoded from a stream do not depend on
the pieces in which the stream was delivered.
-/
import Mathlib.Data.List.Basic

namespace StreamDecoder

variable {α β γ : Type*}

/-- What a decoder finds at the front of a stream. -/
inductive Outcome (α β : Type*)
  /-- The front of the stream is a proper prefix of an item. -/
  | more
  /-- The stream starts with the item `a`, and `rest` follows. -/
  | item (a : α) (rest : List β)
  /-- No continuation of the stream starts with an item. -/
  | reject

/-- A decoder, with the laws that make it incremental: an item consumes something, and an
item or a rejection is found again when the stream is longer. -/
structure Decoder (α β : Type*) where
  next : List β → Outcome α β
  progress : ∀ {s a r}, next s = .item a r → r.length < s.length
  item_append : ∀ {s a r} (t : List β), next s = .item a r → next (s ++ t) = .item a (r ++ t)
  reject_append : ∀ {s} (t : List β), next s = .reject → next (s ++ t) = .reject

namespace Decoder

variable (D : Decoder α β)

/-- All the items of a stream, and the incomplete item that remains; `none` in its place
says that decoding stopped at a malformed item. -/
def decode (s : List β) : List α × Option (List β) :=
  match _h : D.next s with
  | .more => ([], some s)
  | .reject => ([], none)
  | .item a r => (a :: (decode r).1, (decode r).2)
termination_by s.length
decreasing_by all_goals exact D.progress ‹_›

/-- Induction along the items of a stream. -/
lemma decode_induction {motive : List β → Prop}
    (more : ∀ s, D.next s = .more → motive s)
    (reject : ∀ s, D.next s = .reject → motive s)
    (item : ∀ s a r, D.next s = .item a r → motive r → motive s) (s : List β) : motive s := by
  -- every item makes the stream shorter
  induction hn : s.length using Nat.strongRecOn generalizing s with
  | ind n ih =>
    cases h : D.next s with
    | more => exact more s h
    | reject => exact reject s h
    | item a r => exact item s a r h (ih _ (hn ▸ D.progress h) r rfl)

variable {D}

lemma decode_more {s : List β} (h : D.next s = .more) : D.decode s = ([], some s) := by
  rw [decode]
  split <;> simp_all

lemma decode_reject {s : List β} (h : D.next s = .reject) : D.decode s = ([], none) := by
  rw [decode]
  split <;> simp_all

lemma decode_item {s r : List β} {a : α} (h : D.next s = .item a r) :
    D.decode s = (a :: (D.decode r).1, (D.decode r).2) := by
  rw [decode]
  split <;> simp_all

/-- Nothing can be decoded from what a decoding leaves over. -/
lemma next_residue (s : List β) {r : List β} (h : (D.decode s).2 = some r) :
    D.next r = .more := by
  induction s using decode_induction D with
  | more s hs =>
    rw [decode_more hs] at h
    exact Option.some.inj h ▸ hs
  | reject s hs => simp [decode_reject hs] at h
  | item s a r' hs ih =>
    rw [decode_item hs] at h
    exact ih h

/-- Decoding a longer stream continues from what the shorter one left over. -/
theorem decode_append (s t : List β) {r : List β} (h : (D.decode s).2 = some r) :
    D.decode (s ++ t) = ((D.decode s).1 ++ (D.decode (r ++ t)).1, (D.decode (r ++ t)).2) := by
  induction s using decode_induction D with
  | more s hs =>
    rw [decode_more hs] at h ⊢
    obtain rfl : s = r := Option.some.inj h
    simp
  | reject s hs => simp [decode_reject hs] at h
  | item s a r' hs ih =>
    -- the longer stream starts with the same item
    rw [decode_item hs] at h
    rw [decode_item (D.item_append t hs), decode_item hs, ih h]
    simp

/-- Nothing is decoded after a malformed item. -/
theorem decode_append_of_none (s t : List β) (h : (D.decode s).2 = none) :
    D.decode (s ++ t) = ((D.decode s).1, none) := by
  induction s using decode_induction D with
  | more s hs => simp [decode_more hs] at h
  | reject s hs => rw [decode_reject (D.reject_append t hs), decode_reject hs]
  | item s a r' hs ih =>
    rw [decode_item hs] at h
    rw [decode_item (D.item_append t hs), decode_item hs, ih h]

/-! ## Delivery in pieces -/

variable (D)

/-- Decoding with a buffer: each piece is appended to what the previous one left over. -/
def feed : List β → List (List β) → List α × Option (List β)
  | buf, [] => ([], some buf)
  | buf, c :: cs =>
    match D.decode (buf ++ c) with
    | (as, none) => (as, none)
    | (as, some r) => (as ++ (feed r cs).1, (feed r cs).2)

variable {D}

lemma feed_cons_some {buf c r : List β} {as : List α} (cs : List (List β))
    (h : D.decode (buf ++ c) = (as, some r)) :
    D.feed buf (c :: cs) = (as ++ (D.feed r cs).1, (D.feed r cs).2) := by
  simp only [feed, h]

lemma feed_cons_none {buf c : List β} {as : List α} (cs : List (List β))
    (h : D.decode (buf ++ c) = (as, none)) : D.feed buf (c :: cs) = (as, none) := by
  simp only [feed, h]

/-- The invariant of the buffer is that nothing can be decoded from it. -/
theorem feed_eq_decode {buf : List β} (hbuf : D.next buf = .more) (cs : List (List β)) :
    D.feed buf cs = D.decode (buf ++ cs.flatten) := by
  induction cs generalizing buf with
  | nil => rw [List.flatten_nil, List.append_nil, decode_more hbuf]; rfl
  | cons c cs ih =>
    rw [List.flatten_cons, ← List.append_assoc]
    rcases hd : D.decode (buf ++ c) with ⟨as, _ | r⟩
    · rw [feed_cons_none cs hd, decode_append_of_none _ _ (by rw [hd]), hd]
    · -- the residue is the next buffer, and nothing can be decoded from it
      have hr : (D.decode (buf ++ c)).2 = some r := by rw [hd]
      rw [feed_cons_some cs hd, ih (next_residue _ hr), decode_append _ _ hr, hd]

/-! ## Streams written by an encoder -/

/-- A stream of encoded items decodes to these items. -/
theorem decode_flatMap (enc : γ → List β) (out : γ → α) (cs : List γ)
    (henc : ∀ c ∈ cs, ∀ t, D.next (enc c ++ t) = .item (out c) t) (t : List β) :
    D.decode (cs.flatMap enc ++ t) = (cs.map out ++ (D.decode t).1, (D.decode t).2) := by
  induction cs with
  | nil => simp
  | cons c cs ih =>
    have hc := henc c List.mem_cons_self (cs.flatMap enc ++ t)
    rw [List.flatMap_cons, List.append_assoc, decode_item hc,
      ih fun c' h' => henc c' (List.mem_cons_of_mem c h')]
    simp

/-! ## The language of a decoder -/

/-- What a decoder recognises: the valid items, each with the symbols it is written with. -/
structure Grammar (D : Decoder α β) where
  Valid : α → Prop
  enc : α → List β
  next_enc : ∀ {a}, Valid a → ∀ t, D.next (enc a ++ t) = .item a t
  of_next : ∀ {s a r}, D.next s = .item a r → Valid a ∧ s = enc a ++ r

namespace Grammar

variable (G : Grammar D)

lemma valid_of_mem_decode {s : List β} {a : α} (h : a ∈ (D.decode s).1) : G.Valid a := by
  induction s using decode_induction D with
  | more s hs => simp [decode_more hs] at h
  | reject s hs => simp [decode_reject hs] at h
  | item s b r hs ih =>
    rw [decode_item hs, List.mem_cons] at h
    rcases h with rfl | h
    · exact (G.of_next hs).1
    · exact ih h

/-- A stream starts with the items that are decoded from it. -/
lemma flatMap_decode_prefix (s : List β) : (D.decode s).1.flatMap G.enc <+: s := by
  induction s using decode_induction D with
  | more s hs => simp [decode_more hs]
  | reject s hs => simp [decode_reject hs]
  | item s a r hs ih =>
    obtain ⟨-, rfl⟩ := G.of_next hs
    rw [decode_item hs, List.flatMap_cons]
    exact List.prefix_append_right_inj _ |>.2 ih

/-- Whatever sequence of valid items a stream starts with is decoded. -/
theorem prefix_decode {as : List α} (hvalid : ∀ a ∈ as, G.Valid a) (t : List β) :
    D.decode (as.flatMap G.enc ++ t) = (as ++ (D.decode t).1, (D.decode t).2) := by
  have h := decode_flatMap G.enc id as (fun a ha => G.next_enc (hvalid a ha)) t
  rwa [List.map_id] at h

end Grammar

end Decoder

end StreamDecoder
