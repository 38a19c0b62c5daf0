/-
# Paging through a conversation

A client reads a history in pages, at the offsets `0, count, 2 * count, …`.  The rows are ordered
by `send_time` alone, which has a resolution of one second, and each query may order the rows of
one second in its own way.  This file determines when the pages, read backwards, are the
conversation in the order of its identifiers: no two of its rows may be of one second.
-/
import WeChat.Chat.History

namespace WeChat

open Relational

namespace MySQLMgr

/-- A stored conversation: of two users, or of a group. -/
inductive Conversation
  | between (uid1 uid2 : ℤ)
  | group (groupId : ℤ)

namespace Conversation

/-- The messages of a conversation. -/
def Has : Conversation → Message → Prop
  | between uid1 uid2, m => m.chat_type = 0 ∧ m.Between uid1 uid2
  | group groupId, m => m.chat_type = 1 ∧ m.to_uid = groupId

/-- The rows that the query selects; the one for two users does not look at the type. -/
def Selects : Conversation → Message → Prop
  | between uid1 uid2, m => m.Between uid1 uid2
  | group groupId, m => m.to_uid = groupId ∧ m.chat_type = 1

instance (conv : Conversation) : DecidablePred conv.Selects := fun m =>
  match conv with
  | between uid1 uid2 => inferInstanceAs (Decidable (m.Between uid1 uid2))
  | group _ => inferInstanceAs (Decidable (_ ∧ _))

/-- A page of the history, with the order that this query gives to the rows of one second. -/
def page (conv : Conversation) (tie : TieBreak ℤ) (db : Database) (count offset : ℤ) :
    List HistoryEntry :=
  match conv with
  | between uid1 uid2 => getChatHistory tie true db uid1 uid2 count offset
  | group groupId => getGroupChatHistory tie true db groupId count offset

/-- The first `n` pages, read backwards. -/
def history (conv : Conversation) (ties : ℕ → TieBreak ℤ) (db : Database) (count n : ℕ) :
    List HistoryEntry :=
  (List.range n).reverse.flatMap fun k : ℕ => conv.page (ties k) db count (k * count : ℕ)

end Conversation

/-- The entries are rows in the order of their identifiers, without repetitions, and every
message of the conversation is among them. -/
def InOrder (conv : Conversation) (db : Database) (entries : List HistoryEntry) : Prop :=
  ∃ ms : List Message, entries = ms.map Message.entry ∧ (∀ m ∈ ms, m ∈ db.messages.rows) ∧
    ms.Pairwise (fun m m' => m.id < m'.id) ∧ ∀ m ∈ db.messages.rows, conv.Has m → m ∈ ms

/-- Whatever order the queries give to the rows of one second, the pages until the first empty
one are the conversation in its order. -/
def PagesComplete (conv : Conversation) (db : Database) (count : ℕ) : Prop :=
  ∀ ties n, conv.page (ties n) db count (n * count : ℕ) = [] →
    InOrder conv db (conv.history ties db count n)

/-- The time does not go back from one row to the next. -/
def Chronological (db : Database) : Prop :=
  ∀ m ∈ db.messages.rows, ∀ m' ∈ db.messages.rows, m.id ≤ m'.id → m.send_time ≤ m'.send_time

/-- No two rows that the query selects are of one second. -/
def DistinctTimes (conv : Conversation) (db : Database) : Prop :=
  ∀ m ∈ db.messages.rows, ∀ m' ∈ db.messages.rows, conv.Selects m → conv.Selects m' →
    m.send_time = m'.send_time → m = m'

section Pages

variable {conv : Conversation} {db : Database} {tie : TieBreak ℤ} {ties : ℕ → TieBreak ℤ}
  {count n : ℕ}

/-- The rows of a conversation in the order of a query, the newest first. -/
def selected (conv : Conversation) (tie : TieBreak ℤ) (db : Database) : List Message :=
  orderDesc tie Message.id Message.send_time (db.messages.rows.filter fun m => conv.Selects m)

lemma mem_selected {m : Message} :
    m ∈ selected conv tie db ↔ m ∈ db.messages.rows ∧ conv.Selects m := by
  rw [selected, mem_orderDesc, List.mem_filter, decide_eq_true_eq]

lemma pairwise_selected :
    (selected conv tie db).Pairwise (Precedes tie Message.id Message.send_time) :=
  List.pairwise_insertionSort _ _

lemma page_eq (conv : Conversation) (tie : TieBreak ℤ) (db : Database) (count offset : ℤ) :
    conv.page tie db count offset =
      (limit count offset ((selected conv tie db).map Message.entry)).reverse := by
  cases conv with
  | between uid1 uid2 => rfl
  | group groupId => rfl

/-- Where every query orders the rows alike, the pages are the rows from the oldest. -/
lemma history_eq (rows : List Message) (h : ∀ k, selected conv (ties k) db = rows) :
    conv.history ties db count n =
      (((rows.map Message.entry).take (n * count))).reverse := by
  have hpage : ∀ k : ℕ, conv.page (ties k) db count (k * count : ℕ) =
      (limit count (k * count : ℕ) (rows.map Message.entry)).reverse := by
    intro k
    rw [page_eq, h]
  rw [Conversation.history, ← flatMap_limit, List.reverse_flatMap]
  exact List.flatMap_congr fun k _ => hpage k

/-- The page after the last row is empty. -/
lemma page_eq_nil_iff (hcount : 1 ≤ count) : conv.page tie db count (n * count : ℕ) = [] ↔
    (selected conv tie db).length ≤ n * count := by
  rw [page_eq, List.reverse_eq_nil_iff, limit_natCast, List.take_eq_nil_iff, List.drop_eq_nil_iff,
    List.length_map]
  omega

/-- Rows of different seconds have one order, the reverse of that of the identifiers. -/
lemma pairwise_of_distinctTimes (hchron : Chronological db) (h : DistinctTimes conv db) :
    (selected conv tie db).Pairwise (fun m m' => m'.id < m.id) := by
  have hnodup : (selected conv tie db).Nodup :=
    (List.perm_insertionSort _ _).nodup_iff.2 (db.messages.nodup_rows.filter _)
  refine (pairwise_selected.and hnodup).imp_of_mem fun {m m'} hm hm' hboth => ?_
  obtain ⟨hprec, hne⟩ := hboth
  obtain ⟨hm, hsel⟩ := mem_selected.1 hm
  obtain ⟨hm', hsel'⟩ := mem_selected.1 hm'
  rcases hprec with hlt | ⟨heq, -⟩
  · exact not_le.1 fun hle => absurd (hchron m hm m' hm' hle) (not_le.2 hlt)
  · exact absurd (h m hm m' hm' hsel hsel' heq) hne

lemma selected_eq_of_distinctTimes (hchron : Chronological db) (h : DistinctTimes conv db)
    (tie tie' : TieBreak ℤ) : selected conv tie db = selected conv tie' db := by
  refine List.Perm.eq_of_pairwise ?_ (pairwise_of_distinctTimes hchron h)
    (pairwise_of_distinctTimes hchron h)
    ((List.perm_insertionSort _ _).trans (List.perm_insertionSort _ _).symm)
  intro m m' _ _ hlt hlt'
  omega

lemma Conversation.selects_of_has {m : Message} (h : conv.Has m) : conv.Selects m := by
  cases conv with
  | between uid1 uid2 => exact h.2
  | group groupId => exact h.symm

lemma inOrder_of_distinctTimes (hchron : Chronological db) (h : DistinctTimes conv db) :
    InOrder conv db ((selected conv tie db).map Message.entry).reverse := by
  refine ⟨(selected conv tie db).reverse, (List.map_reverse).symm, fun m hm => ?_, ?_,
    fun m hm hhas => ?_⟩
  · exact (mem_selected.1 (List.mem_reverse.1 hm)).1
  · exact List.pairwise_reverse.2 (pairwise_of_distinctTimes hchron h)
  · exact List.mem_reverse.2 (mem_selected.2 ⟨hm, Conversation.selects_of_has hhas⟩)

/-- Entries that are rows in their order show the identifiers in their order. -/
lemma pairwise_of_inOrder {rows : List Message}
    (h : InOrder conv db (rows.map Message.entry).reverse) :
    rows.Pairwise (fun m m' => m'.id < m.id) := by
  obtain ⟨ms, heq, -, hpair, -⟩ := h
  have hids : rows.reverse.map Message.id = ms.map Message.id := by
    have hentries : rows.reverse.map (fun m => m.entry.id) = ms.map fun m => m.entry.id := by
      have := congrArg (List.map HistoryEntry.id) heq
      rwa [← List.map_reverse, List.map_map, List.map_map] at this
    have hrepr : (rows.reverse.map Message.id).map Int.repr = (ms.map Message.id).map Int.repr := by
      rw [List.map_map, List.map_map]
      exact hentries
    exact List.map_injective_iff.2 (fun _ _ => Int.repr_injective) hrepr
  have hsorted : (ms.map Message.id).Pairwise (· < ·) := List.pairwise_map.2 hpair
  rw [← hids, List.pairwise_map] at hsorted
  exact List.pairwise_reverse.1 hsorted

/-- Rows of one second that the queries order from the older to the newer are not read in the
order of the identifiers. -/
lemma distinctTimes_of_pairwise
    (h : (selected conv .ascending db).Pairwise (fun m m' => m'.id < m.id)) :
    DistinctTimes conv db := by
  intro m hm m' hm' hsel hsel' htime
  by_contra hne
  -- of two rows of one second, the one with the smaller identifier comes first
  let R : Message → Message → Prop := fun a b =>
    (b.id < a.id ∧ Precedes TieBreak.ascending Message.id Message.send_time a b) ∨
      (a.id < b.id ∧ Precedes TieBreak.ascending Message.id Message.send_time b a)
  have hboth : (selected conv .ascending db).Pairwise R := (h.and pairwise_selected).imp .inl
  have hsymm : Std.Symm R := ⟨fun _ _ hab => hab.symm⟩
  have hprec : ∀ a b : Message, a.send_time = b.send_time →
      Precedes TieBreak.ascending Message.id Message.send_time a b → a.id ≤ b.id := by
    rintro a b heq (hlt | ⟨-, hle⟩)
    · exact absurd heq hlt.ne'
    · exact hle
  rcases hboth.forall (mem_selected.2 ⟨hm, hsel⟩) (mem_selected.2 ⟨hm', hsel'⟩) hne with
    ⟨hlt, hp⟩ | ⟨hlt, hp⟩
  · exact absurd (hprec m m' htime hp) (not_le.2 hlt)
  · exact absurd (hprec m' m htime.symm hp) (not_le.2 hlt)

/-- **Paging through a conversation is complete and in order, whatever order the queries give to
the rows of one second, if and only if no two of its rows are of one second.** -/
theorem pagesComplete_iff (hchron : Chronological db) (hcount : 1 ≤ count) :
    PagesComplete conv db count ↔ DistinctTimes conv db := by
  constructor
  · intro h
    let rows := selected conv .ascending db
    have hend : conv.page .ascending db count (rows.length * count : ℕ) = [] :=
      (page_eq_nil_iff hcount).2 (Nat.le_mul_of_pos_right _ hcount)
    have horder := h (fun _ => .ascending) rows.length hend
    rw [history_eq rows fun _ => rfl, List.take_of_length_le] at horder
    · exact distinctTimes_of_pairwise (pairwise_of_inOrder horder)
    · rw [List.length_map]
      exact Nat.le_mul_of_pos_right _ hcount
  · intro h ties n hend
    rw [history_eq _ fun k => selected_eq_of_distinctTimes hchron h (ties k) (ties n),
      List.take_of_length_le]
    · exact inOrder_of_distinctTimes hchron h
    · rw [List.length_map]
      exact (page_eq_nil_iff hcount).1 hend

end Pages

/-! ## Two messages -/

/-- A message from 2 to 1, one second later. -/
def answerHello : Save := ⟨false, true, 0, 2, 1, "hello, alice", "2025-06-01 12:00:01", 0⟩

/-- A message and its answer of the next second are read back in pages of one message. -/
theorem pagesComplete_hello :
    PagesComplete (.between 1 2) (saves twoUsers [hello, answerHello]) 1 := by
  have hchron : Chronological (saves twoUsers [hello, answerHello]) := by
    unfold Chronological
    decide
  refine (pagesComplete_iff hchron (le_refl 1)).2 ?_
  intro m hm m' hm' _ _
  revert m m'
  decide

/-- Two messages of one second are read back in the wrong order. -/
theorem not_pagesComplete_sameSecond :
    ¬ ∀ conv db count, Chronological db → 1 ≤ count → PagesComplete conv db count := by
  intro h
  let db := saves twoUsers [hello, hello]
  have hchron : Chronological db := by
    unfold Chronological
    decide
  have horder := h (.between 1 2) db 1 hchron (le_refl 1) (fun _ => .ascending) 2 (by decide)
  have hread : Conversation.history (.between 1 2) (fun _ => .ascending) db 1 2 =
      (db.messages.rows.map Message.entry).reverse := by decide
  rw [hread] at horder
  have hpair := pairwise_of_inOrder horder
  revert hpair
  decide

end MySQLMgr

end WeChat
