/-
# The recent conversations of a user

`getLastMessages` groups the messages of a user by the other party, joins the largest identifier
of each group with the table, orders the rows by their time and cuts them off at `count`; the
other party is computed a second time from the row.  The result is exact for private messages: an
entry for each party, with the last message, of the latest parties first.
-/
import WeChat.Chat.History

namespace WeChat

open Relational

namespace MySQLMgr

/-- A user has exchanged messages with another, or with itself. -/
def IsParty (db : Database) (uid contact : ℤ) : Prop :=
  ∃ m ∈ db.messages.rows, m.Between uid contact

/-- The message with the largest identifier that two users have exchanged. -/
structure LastBetween (db : Database) (uid contact : ℤ) (m : Message) : Prop where
  mem : m ∈ db.messages.rows
  between : m.Between uid contact
  le : ∀ m' ∈ db.messages.rows, m'.Between uid contact → m'.id ≤ m.id

/-- At most `count` last messages of a user, each with the other party: one for a party, the
latest first, and all that there are, or `count` of which none is earlier than one left out. -/
structure RecentMessages (db : Database) (uid count : ℤ) (ms : List (Message × ℤ)) : Prop where
  last : ∀ p ∈ ms, LastBetween db uid p.2 p.1
  once : (ms.map Prod.snd).Nodup
  ordered : ms.Pairwise fun p q => q.1.send_time ≤ p.1.send_time
  omitted : ∀ contact, IsParty db uid contact → contact ∉ ms.map Prod.snd →
    (ms.length : ℤ) = count ∧
      ∀ m, LastBetween db uid contact m → ∀ p ∈ ms, m.send_time ≤ p.1.send_time

section Recent

variable {tie : TieBreak ℤ} {db : Database} {uid contact count : ℤ} {m m' : Message}

/-- The group of a message is the party that it was exchanged with. -/
lemma between_iff_contactId :
    m.Between uid contact ↔ m.Involves uid ∧ m.contactId uid = contact := by
  rw [Message.Between, Message.Involves, Message.contactId]
  split_ifs
  · omega
  · omega

lemma lastBetween_iff :
    LastBetween db uid contact m ↔ Last db uid m ∧ m.contactId uid = contact := by
  constructor
  · rintro ⟨hm, hbetween, hle⟩
    obtain ⟨hinv, hcontact⟩ := between_iff_contactId.1 hbetween
    refine ⟨⟨hm, hinv, fun m' hm' hinv' hcontact' => ?_⟩, hcontact⟩
    exact hle m' hm' (between_iff_contactId.2 ⟨hinv', hcontact'.trans hcontact⟩)
  · rintro ⟨⟨hm, hinv, hle⟩, hcontact⟩
    refine ⟨hm, between_iff_contactId.2 ⟨hinv, hcontact⟩, fun m' hm' hbetween' => ?_⟩
    obtain ⟨hinv', hcontact'⟩ := between_iff_contactId.1 hbetween'
    exact hle m' hm' hinv' (hcontact'.trans hcontact.symm)

/-- Two users have one last message. -/
lemma LastBetween.unique (h : LastBetween db uid contact m) (h' : LastBetween db uid contact m') :
    m = m' :=
  db.messages.eq_of_key_eq h.mem h'.mem
    (le_antisymm (h'.le m h.mem h.between) (h.le m' h'.mem h'.between))

/-- The last messages of all conversations in the order of the query. -/
def lastMessages (tie : TieBreak ℤ) (db : Database) (uid : ℤ) : List Message :=
  orderDesc tie Message.id Message.send_time
    (db.messages.rows.filter fun m => m.id ∈ maxIds db uid)

lemma mem_lastMessages : m ∈ lastMessages tie db uid ↔ LastBetween db uid (m.contactId uid) m := by
  rw [lastMessages, mem_orderDesc, List.mem_filter, decide_eq_true_eq, ← last_iff, lastBetween_iff,
    and_iff_left rfl]

lemma nodup_contactId : ((lastMessages tie db uid).map (Message.contactId uid)).Nodup := by
  have hnodup : (lastMessages tie db uid).Nodup :=
    (List.perm_insertionSort _ _).nodup_iff.2 (db.messages.nodup_rows.filter _)
  refine hnodup.map_on fun m hm m' hm' heq => ?_
  exact (mem_lastMessages.1 hm).unique (heq ▸ mem_lastMessages.1 hm')

/-- The messages that are shown, with their parties. -/
def shown (tie : TieBreak ℤ) (db : Database) (uid count : ℤ) : List (Message × ℤ) :=
  ((lastMessages tie db uid).take count.toNat).map fun m => (m, m.contactId uid)

lemma map_snd_shown : (shown tie db uid count).map Prod.snd =
    ((lastMessages tie db uid).take count.toNat).map (Message.contactId uid) := by
  rw [shown, List.map_map]
  rfl

lemma getLastMessages_eq (hcount : 0 ≤ count) : getLastMessages tie true db uid count =
    (shown tie db uid count).map fun p => (p.1.entry, p.2.repr) := by
  rw [shown, List.map_map, List.map_take]
  have hnot : ¬(count < 0 ∨ (0 : ℤ) < 0) := by omega
  simp only [getLastMessages, if_true, limit, if_neg hnot]
  rfl

/-- What is left out comes later in the order. -/
lemma precedes_of_omitted {n : ℕ} (hm : m ∈ lastMessages tie db uid)
    (hnot : m ∉ (lastMessages tie db uid).take n) :
    n < (lastMessages tie db uid).length ∧
      ∀ m' ∈ (lastMessages tie db uid).take n, m.send_time ≤ m'.send_time := by
  constructor
  · by_contra hle
    rw [List.take_of_length_le (not_lt.1 hle)] at hnot
    exact hnot hm
  · intro m' hm'
    have hpair : (lastMessages tie db uid).Pairwise (Precedes tie Message.id Message.send_time) :=
      List.pairwise_insertionSort _ _
    rw [← List.take_append_drop n (lastMessages tie db uid), List.mem_append] at hm
    rw [← List.take_append_drop n (lastMessages tie db uid), List.pairwise_append] at hpair
    exact le_of_precedes (hpair.2.2 m' hm' m (hm.resolve_left hnot))

lemma recentMessages_shown (hcount : 0 ≤ count) :
    RecentMessages db uid count (shown tie db uid count) where
  last := by
    rintro _ hp
    obtain ⟨m, hm, rfl⟩ := List.mem_map.1 hp
    exact mem_lastMessages.1 (List.mem_of_mem_take hm)
  once := by
    rw [map_snd_shown]
    exact nodup_contactId.sublist ((List.take_sublist _ _).map _)
  ordered := by
    have hpair : (lastMessages tie db uid).Pairwise (Precedes tie Message.id Message.send_time) :=
      List.pairwise_insertionSort _ _
    exact List.pairwise_map.2 ((hpair.sublist (List.take_sublist _ _)).imp le_of_precedes)
  omitted := by
    rintro contact ⟨m₀, hm₀, hbetween⟩ hnot
    obtain ⟨hinv, hcontact⟩ := between_iff_contactId.1 hbetween
    obtain ⟨m, hlast, hcontact', -⟩ := exists_last hm₀ hinv
    have hm : m ∈ lastMessages tie db uid := mem_lastMessages.2 (lastBetween_iff.2 ⟨hlast, rfl⟩)
    have hmiss : m ∉ (lastMessages tie db uid).take count.toNat := by
      intro hmem
      rw [map_snd_shown] at hnot
      exact hnot (List.mem_map.2 ⟨m, hmem, hcontact'.trans hcontact⟩)
    obtain ⟨hlt, hle⟩ := precedes_of_omitted hm hmiss
    constructor
    · rw [shown, List.length_map, List.length_take]
      omega
    · intro m₁ hm₁ p hp
      -- the last message of a party that is left out is the row that is left out
      obtain rfl := hm₁.unique (lastBetween_iff.2 ⟨hlast, hcontact'.trans hcontact⟩)
      obtain ⟨m', hm', rfl⟩ := List.mem_map.1 hp
      exact hle m' hm'

/-- **Recent conversations are exact.**  The result shows one entry for a party at most: the last
message with it, with the party as `contact_id`.  The entries are in non-increasing order of
time, and when a party is missing there are exactly `count` entries, none of them earlier than
its last message. -/
theorem getLastMessages_exact (tie : TieBreak ℤ) (db : Database) (uid : ℤ) (hcount : 0 ≤ count) :
    ∃ ms, getLastMessages tie true db uid count =
        ms.map (fun p : Message × ℤ => (p.1.entry, p.2.repr)) ∧
      RecentMessages db uid count ms :=
  ⟨shown tie db uid count, getLastMessages_eq hcount, recentMessages_shown hcount⟩

/-- A message of user 1 to itself. -/
def noteToSelf : Save := ⟨false, true, 0, 1, 1, "buy milk", "2025-06-01 12:00:01", 0⟩

/-- User 1 has written to user 2 and to itself, and asks for one conversation. -/
theorem getLastMessages_exact_twoParties :
    ∃ ms, getLastMessages .ascending true (saves twoUsers [hello, noteToSelf]) 1 1 =
        ms.map (fun p : Message × ℤ => (p.1.entry, p.2.repr)) ∧
      RecentMessages (saves twoUsers [hello, noteToSelf]) 1 1 ms :=
  getLastMessages_exact .ascending _ 1 (by decide)

end Recent

end MySQLMgr

end WeChat
