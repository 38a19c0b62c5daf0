/-
# The stored conversations

Private and group messages share the table `messages`: the column `to_uid` holds a user in
a private message and a group in a group message, and `chat_type` tells which.  This file
has the queries that read conversations back, and determines when the group messages that
were saved show up in the results of the private ones.
-/
import Mathlib
import WeChat.Chat.Rows

namespace WeChat

open Relational

/-- An entry of a result, in which every column is a string. -/
structure HistoryEntry where
  id : String
  from_uid : String
  to_uid : String
  content : String
  send_time : String
  msg_type : String
  status : String
deriving DecidableEq

/-- The columns `id, from_uid, to_uid, content, send_time, msg_type, status`. -/
def Message.entry (m : Message) : HistoryEntry :=
  ⟨m.id.repr, m.from_uid.repr, m.to_uid.repr, m.content, m.send_time, m.msg_type.repr,
    m.status.repr⟩

/-- The messages that a private conversation selects. -/
def Message.Between (uid1 uid2 : ℤ) (m : Message) : Prop :=
  (m.from_uid = uid1 ∧ m.to_uid = uid2) ∨ (m.from_uid = uid2 ∧ m.to_uid = uid1)

/-- The messages of which a user is an end. -/
def Message.Involves (uid : ℤ) (m : Message) : Prop :=
  m.from_uid = uid ∨ m.to_uid = uid

instance (uid1 uid2 : ℤ) : DecidablePred (Message.Between uid1 uid2) := fun _ =>
  inferInstanceAs (Decidable (_ ∨ _))

instance (uid : ℤ) : DecidablePred (Message.Involves uid) := fun _ =>
  inferInstanceAs (Decidable (_ ∨ _))

/-- The other end of a message of a user. -/
def Message.contactId (uid : ℤ) (m : Message) : ℤ :=
  if m.from_uid = uid then m.to_uid else m.from_uid

namespace MySQLMgr

variable (tie : TieBreak ℤ) (ok : Bool) (db : Database)

/-! ## The queries -/

/-- The result is in chronological order: the newest messages, reversed. -/
def getChatHistory (uid1 uid2 count offset : ℤ) : List HistoryEntry :=
  if ok then
    (limit count offset ((orderDesc tie Message.id Message.send_time
      (db.messages.rows.filter fun m => m.Between uid1 uid2)).map Message.entry)).reverse
  else []

def getGroupChatHistory (groupId count offset : ℤ) : List HistoryEntry :=
  if ok then
    (limit count offset ((orderDesc tie Message.id Message.send_time
      (db.messages.rows.filter fun m => m.to_uid = groupId ∧ m.chat_type = 1)).map
        Message.entry)).reverse
  else []

/-- The subquery `SELECT MAX(id) … GROUP BY contact_id`. -/
def maxIds (uid : ℤ) : List ℤ :=
  let mine := db.messages.rows.filter fun m => m.Involves uid
  mine.filterMap fun m =>
    ((mine.filter fun m' => m'.contactId uid = m.contactId uid).map Message.id).max?

/-- The last message of every conversation of a user, with the `contact_id`. -/
def getLastMessages (uid count : ℤ) : List (HistoryEntry × String) :=
  if ok then
    limit count 0 ((orderDesc tie Message.id Message.send_time
      (db.messages.rows.filter fun m => m.id ∈ maxIds db uid)).map
        fun m => (m.entry, (m.contactId uid).repr))
  else []

/-- A message is the last one between a user and the other end of it. -/
def Last (uid : ℤ) (m : Message) : Prop :=
  m ∈ db.messages.rows ∧ m.Involves uid ∧
    ∀ m' ∈ db.messages.rows, m'.Involves uid → m'.contactId uid = m.contactId uid → m'.id ≤ m.id

variable {tie db}

/-- The join of `getLastMessages` selects the last messages. -/
lemma last_iff {uid : ℤ} {m : Message} :
    Last db uid m ↔ m ∈ db.messages.rows ∧ m.id ∈ maxIds db uid := by
  simp only [maxIds, List.mem_filterMap, List.max?_eq_some_iff, List.mem_map, List.mem_filter,
    decide_eq_true_eq]
  constructor
  · rintro ⟨hm, hinv, hmax⟩
    refine ⟨hm, m, ⟨hm, hinv⟩, ⟨m, ⟨⟨hm, hinv⟩, rfl⟩, rfl⟩, ?_⟩
    rintro _ ⟨m', ⟨⟨hm', hinv'⟩, hcontact⟩, rfl⟩
    exact hmax m' hm' hinv' hcontact
  · rintro ⟨hm, m₀, -, ⟨m₁, ⟨⟨hm₁, hinv₁⟩, hcontact₁⟩, hid⟩, hmax⟩
    -- the maximum of a group is attained by one row of the table
    obtain rfl : m₁ = m := db.messages.eq_of_key_eq hm₁ hm hid
    refine ⟨hm₁, hinv₁, fun m' hm' hinv' hcontact => ?_⟩
    exact hmax _ ⟨m', ⟨⟨hm', hinv'⟩, hcontact.trans hcontact₁⟩, rfl⟩

/-- Every conversation of a user has a last message. -/
lemma exists_last {uid : ℤ} {m : Message} (hm : m ∈ db.messages.rows) (hinv : m.Involves uid) :
    ∃ m', Last db uid m' ∧ m'.contactId uid = m.contactId uid ∧ m.id ≤ m'.id := by
  let conversation := db.messages.rows.filter fun m' =>
    m'.Involves uid ∧ m'.contactId uid = m.contactId uid
  have hmem : ∀ {m'}, m' ∈ conversation ↔
      m' ∈ db.messages.rows ∧ m'.Involves uid ∧ m'.contactId uid = m.contactId uid := by
    simp [conversation]
  have hself : m ∈ conversation := hmem.2 ⟨hm, hinv, rfl⟩
  cases harg : conversation.argmax Message.id with
  | none => exact absurd (List.argmax_eq_none.1 harg) (List.ne_nil_of_mem hself)
  | some m' =>
    obtain ⟨hm', hinv', hcontact⟩ := hmem.1 (List.argmax_mem harg)
    refine ⟨m', ⟨hm', hinv', fun m'' h'' hinv'' hcontact'' => ?_⟩, hcontact,
      List.le_of_mem_argmax hself harg⟩
    exact List.le_of_mem_argmax (hmem.2 ⟨h'', hinv'', hcontact''.trans hcontact⟩) harg

/-! ## Runs of saves -/

/-- A call of `saveMessage` or of `saveGroupMessage`, and what the database does with it. -/
structure Save where
  group : Bool
  ok : Bool
  gap : ℕ
  fromUid : ℤ
  toId : ℤ
  content : String
  time : String
  msgType : ℤ

/-- The tables after a call. -/
def save (db : Database) (c : Save) : Database :=
  if c.group then (saveGroupMessage c.ok db c.gap c.fromUid c.toId c.content c.time c.msgType).2
  else (saveMessage c.ok db c.gap c.fromUid c.toId c.content c.time c.msgType).2

/-- The tables after a run of calls, from a database that holds no messages. -/
def saves (db : Database) (cs : List Save) : Database :=
  cs.foldl save { db with messages := .empty }

/-- Every message is a private one or a group message. -/
def TwoTypes (db : Database) : Prop :=
  ∀ m ∈ db.messages.rows, m.chat_type = 0 ∨ m.chat_type = 1

lemma twoTypes_insertMessage (h : TwoTypes db) {ok : Bool} {gap : ℕ} {fromUid toUid : ℤ}
    {content time : String} {msgType chatType : ℤ} (htype : chatType = 0 ∨ chatType = 1) :
    TwoTypes (insertMessage ok db gap fromUid toUid content time msgType chatType).2 := by
  rcases hinsert : insertMessage ok db gap fromUid toUid content time msgType chatType
    with ⟨mid, db'⟩
  rcases insertMessage_spec hinsert with ⟨-, rfl⟩ | hstored
  · exact h
  · intro m hm
    rw [hstored.rows_eq] at hm
    rcases List.mem_append.1 hm with hm | hm
    · exact h m hm
    · rw [List.mem_singleton.1 hm]
      exact htype

lemma twoTypes_saves (db : Database) (cs : List Save) : TwoTypes (saves db cs) := by
  rw [saves]
  have hempty : TwoTypes { db with messages := .empty } := fun m hm => absurd hm List.not_mem_nil
  induction cs using List.reverseRecOn with
  | nil => exact hempty
  | append_singleton cs c ih =>
    rw [List.foldl_append, List.foldl_cons, List.foldl_nil, save]
    split_ifs
    · exact twoTypes_insertMessage ih (.inr rfl)
    · exact twoTypes_insertMessage ih (.inl rfl)

/-- The rows that `saveMessage` has inserted. -/
def privateRows (db : Database) : List Message :=
  db.messages.rows.filter fun m => m.chat_type = 0

/-! ## Two databases with the same private messages -/

section TwoRuns

variable {db₁ db₂ : Database} (hpriv : privateRows db₁ = privateRows db₂)
include hpriv

lemma mem_of_private {m : Message} (hm : m ∈ db₁.messages.rows) (htype : m.chat_type = 0) :
    m ∈ db₂.messages.rows := by
  have hmem : m ∈ privateRows db₁ := List.mem_filter.2 ⟨hm, by simpa using htype⟩
  rw [hpriv] at hmem
  exact List.mem_of_mem_filter hmem

/-- Entries tell the rows of the two databases apart, although they do not show the type. -/
lemma eq_of_entry_eq (h₁ : TwoTypes db₁) (h₂ : TwoTypes db₂) {m m' : Message}
    (hm : m ∈ db₁.messages.rows) (hm' : m' ∈ db₂.messages.rows) (h : m.entry = m'.entry) :
    m = m' := by
  simp only [Message.entry, HistoryEntry.mk.injEq] at h
  obtain ⟨hid, hfrom, hto, hcontent, htime, htype, hstatus⟩ := h
  have hid := Int.repr_injective hid
  -- the type of a row is not shown, but a private row is in both databases
  rcases h₁ m hm with ht | ht
  · exact db₂.messages.eq_of_key_eq (mem_of_private hpriv hm ht) hm' hid
  · rcases h₂ m' hm' with ht' | ht'
    · exact db₁.messages.eq_of_key_eq hm (mem_of_private hpriv.symm hm' ht') hid
    · exact Message.ext hid (Int.repr_injective hfrom) (Int.repr_injective hto) hcontent htime
        (Int.repr_injective htype) (Int.repr_injective hstatus) (ht.trans ht'.symm)

/-- Two ordered selections show the same entries exactly when they select the same rows. -/
lemma map_orderDesc_eq_iff (h₁ : TwoTypes db₁) (h₂ : TwoTypes db₂) (tie : TieBreak ℤ)
    (p₁ p₂ : Message → Bool) {β : Type} (f : Message → β)
    (hf : ∀ m m', f m = f m' → m.entry = m'.entry) :
    (orderDesc tie Message.id Message.send_time (db₁.messages.rows.filter p₁)).map f =
        (orderDesc tie Message.id Message.send_time (db₂.messages.rows.filter p₂)).map f ↔
      ∀ m, (m ∈ db₁.messages.rows ∧ p₁ m) ↔ (m ∈ db₂.messages.rows ∧ p₂ m) := by
  constructor
  · intro h m
    constructor
    · rintro ⟨hm, hp⟩
      have hmem := List.mem_map_of_mem (f := f)
        ((mem_orderDesc tie Message.id Message.send_time).2 (List.mem_filter.2 ⟨hm, hp⟩))
      rw [h] at hmem
      obtain ⟨m', hm', heq⟩ := List.mem_map.1 hmem
      obtain ⟨hm', hp'⟩ := List.mem_filter.1 ((mem_orderDesc _ _ _).1 hm')
      obtain rfl := eq_of_entry_eq hpriv h₁ h₂ hm hm' (hf _ _ heq.symm)
      exact ⟨hm', hp'⟩
    · rintro ⟨hm, hp⟩
      have hmem := List.mem_map_of_mem (f := f)
        ((mem_orderDesc tie Message.id Message.send_time).2 (List.mem_filter.2 ⟨hm, hp⟩))
      rw [← h] at hmem
      obtain ⟨m', hm', heq⟩ := List.mem_map.1 hmem
      obtain ⟨hm', hp'⟩ := List.mem_filter.1 ((mem_orderDesc _ _ _).1 hm')
      obtain rfl := eq_of_entry_eq hpriv h₁ h₂ hm' hm (hf _ _ heq)
      exact ⟨hm', hp'⟩
  · intro h
    rw [orderDesc_filter_eq_iff.2 h]

/-- Private messages are selected alike, so only the group messages count. -/
lemma forall_mem_iff_group (h₁ : TwoTypes db₁) (h₂ : TwoTypes db₂) {p : Message → Prop} :
    (∀ m, (m ∈ db₁.messages.rows ∧ p m) ↔ (m ∈ db₂.messages.rows ∧ p m)) ↔
      ∀ m, m.chat_type = 1 → p m → (m ∈ db₁.messages.rows ↔ m ∈ db₂.messages.rows) := by
  constructor
  · intro h m _ hp
    have := h m
    simpa only [hp, and_true] using this
  · intro h m
    refine and_congr_left fun hp => ?_
    by_cases hgroup : m.chat_type = 1
    · exact h m hgroup hp
    · constructor
      · intro hm
        exact mem_of_private hpriv hm ((h₁ m hm).resolve_right hgroup)
      · intro hm
        exact mem_of_private hpriv.symm hm ((h₂ m hm).resolve_right hgroup)

/-- A private message that is the last one in one database is so in the other, unless a group
message comes after it. -/
lemma last_of_private {uid : ℤ} (h₂ : TwoTypes db₂)
    (hgroup : ∀ m, m.chat_type = 1 → Last db₂ uid m → Last db₁ uid m) {m : Message}
    (hlast : Last db₁ uid m) (htype : m.chat_type = 0) : Last db₂ uid m := by
  obtain ⟨hm, hinv, hmax⟩ := hlast
  have hm₂ := mem_of_private hpriv hm htype
  obtain ⟨m₂, hlast₂, hcontact, hle⟩ := exists_last hm₂ hinv
  have hmem : m₂ ∈ db₁.messages.rows := by
    rcases h₂ m₂ hlast₂.1 with ht | ht
    · exact mem_of_private hpriv.symm hlast₂.1 ht
    · exact (hgroup m₂ ht hlast₂).1
  -- it is in the first database too, where nothing comes after `m`
  have hge := hmax m₂ hmem hlast₂.2.1 hcontact
  obtain rfl : m = m₂ := db₂.messages.eq_of_key_eq hm₂ hlast₂.1 (le_antisymm hle hge)
  exact hlast₂

lemma forall_last_iff_group (h₁ : TwoTypes db₁) (h₂ : TwoTypes db₂) {uid : ℤ} :
    (∀ m, Last db₁ uid m ↔ Last db₂ uid m) ↔
      ∀ m, m.chat_type = 1 → (Last db₁ uid m ↔ Last db₂ uid m) := by
  refine ⟨fun h m _ => h m, fun h m => ?_⟩
  by_cases hgroup : m.chat_type = 1
  · exact h m hgroup
  · constructor
    · intro hlast
      exact last_of_private hpriv h₂ (fun m ht => (h m ht).2) hlast
        ((h₁ m hlast.1).resolve_right hgroup)
    · intro hlast
      exact last_of_private hpriv.symm h₁ (fun m ht => (h m ht).1) hlast
        ((h₂ m hlast.1).resolve_right hgroup)

lemma getChatHistory_eq_iff (h₁ : TwoTypes db₁) (h₂ : TwoTypes db₂) (tie : TieBreak ℤ)
    (uid1 uid2 : ℤ) :
    (∀ count offset, getChatHistory tie true db₁ uid1 uid2 count offset =
        getChatHistory tie true db₂ uid1 uid2 count offset) ↔
      ∀ m, m.chat_type = 1 → m.Between uid1 uid2 →
        (m ∈ db₁.messages.rows ↔ m ∈ db₂.messages.rows) := by
  have hsel := map_orderDesc_eq_iff hpriv h₁ h₂ tie
    (fun m => m.Between uid1 uid2) (fun m => m.Between uid1 uid2)
    Message.entry fun _ _ h => h
  simp only [decide_eq_true_eq] at hsel
  rw [forall_mem_iff_group hpriv h₁ h₂] at hsel
  rw [← hsel]
  simp only [getChatHistory, if_true]
  constructor
  · -- a page that is long enough shows the whole history
    intro h
    exact eq_of_limit_eq fun count => List.reverse_injective (h count 0)
  · intro h count offset
    rw [h]

lemma getLastMessages_eq_iff (h₁ : TwoTypes db₁) (h₂ : TwoTypes db₂) (tie : TieBreak ℤ)
    (uid : ℤ) :
    (∀ count, getLastMessages tie true db₁ uid count = getLastMessages tie true db₂ uid count) ↔
      ∀ m, m.chat_type = 1 → (Last db₁ uid m ↔ Last db₂ uid m) := by
  have hsel := map_orderDesc_eq_iff hpriv h₁ h₂ tie
    (fun m => m.id ∈ maxIds db₁ uid) (fun m => m.id ∈ maxIds db₂ uid)
    (fun m => (m.entry, (m.contactId uid).repr)) fun _ _ h => congrArg Prod.fst h
  simp only [decide_eq_true_eq, ← last_iff] at hsel
  rw [forall_last_iff_group hpriv h₁ h₂] at hsel
  rw [← hsel]
  simp only [getLastMessages, if_true]
  constructor
  · intro h
    exact eq_of_limit_eq h
  · intro h count
    rw [h]

end TwoRuns

/-- **What group messages change in private conversations.**  In two runs with the same private
messages, the history of two users is the same on every page and the last messages of a user
are the same for every count exactly when the runs have the same group messages between the
two numbers, and the same group messages are the last ones of a conversation of the user. -/
theorem sameConversations_iff {db : Database} {cs₁ cs₂ : List Save}
    (hpriv : privateRows (saves db cs₁) = privateRows (saves db cs₂)) (tie : TieBreak ℤ)
    (uid1 uid2 uid : ℤ) :
    ((∀ count offset, getChatHistory tie true (saves db cs₁) uid1 uid2 count offset =
        getChatHistory tie true (saves db cs₂) uid1 uid2 count offset) ∧
      ∀ count, getLastMessages tie true (saves db cs₁) uid count =
        getLastMessages tie true (saves db cs₂) uid count) ↔
      (∀ m, m.chat_type = 1 → m.Between uid1 uid2 →
        (m ∈ (saves db cs₁).messages.rows ↔ m ∈ (saves db cs₂).messages.rows)) ∧
      ∀ m, m.chat_type = 1 → (Last (saves db cs₁) uid m ↔ Last (saves db cs₂) uid m) := by
  have h₁ := twoTypes_saves db cs₁
  have h₂ := twoTypes_saves db cs₂
  exact and_congr (getChatHistory_eq_iff hpriv h₁ h₂ tie uid1 uid2)
    (getLastMessages_eq_iff hpriv h₁ h₂ tie uid)

/-! ## Two small databases -/

/-- A database with two users and no group. -/
def twoUsers : Database where
  users := ⟨[⟨1, "alice", "alice@example.com", none, none⟩,
    ⟨2, "bob", "bob@example.com", none, none⟩], by decide⟩
  friendships := .empty
  friend_requests := .empty
  messages := .empty
  groups := .empty
  group_members := .empty

/-- A private message from 1 to 2. -/
def hello : Save := ⟨false, true, 0, 1, 2, "hello", "2025-06-01 12:00:00", 0⟩

/-- A message from 1 to a group. -/
def groupHello (groupId : ℤ) : Save :=
  ⟨true, true, 0, 1, groupId, "hello, group", "2025-06-01 12:00:30", 0⟩

/-- A message to a group with another number than a user's leaves the conversation of 1 and 2,
and the last messages of 2, alone. -/
theorem sameConversations_groupHello :
    (∀ count offset, getChatHistory .ascending true (saves twoUsers [hello, groupHello 7]) 1 2
        count offset = getChatHistory .ascending true (saves twoUsers [hello]) 1 2 count offset) ∧
      ∀ count, getLastMessages .ascending true (saves twoUsers [hello, groupHello 7]) 2 count =
        getLastMessages .ascending true (saves twoUsers [hello]) 2 count := by
  have hgroup : ∀ m ∈ (saves twoUsers [hello, groupHello 7]).messages.rows, m.chat_type = 1 →
      ¬ m.Between 1 2 ∧ ¬ m.Involves 2 := by decide
  have hnone : ∀ m ∈ (saves twoUsers [hello]).messages.rows, m.chat_type ≠ 1 := by decide
  refine (sameConversations_iff (by decide) .ascending 1 2 2).2
    ⟨fun m ht hbetween => ?_, fun m ht => ?_⟩
  · exact iff_of_false (fun hm => (hgroup m hm ht).1 hbetween) fun hm => hnone m hm ht
  · exact iff_of_false (fun hlast => (hgroup m hlast.1 ht).2 hlast.2.1) fun hlast =>
      hnone m hlast.1 ht

/-- A message to the group with the number of user 2 is shown as one to user 2. -/
theorem not_sameConversations_groupHello :
    ¬ ∀ db cs₁ cs₂, privateRows (saves db cs₁) = privateRows (saves db cs₂) →
      ∀ tie uid1 uid2 uid count offset,
        getChatHistory tie true (saves db cs₁) uid1 uid2 count offset =
          getChatHistory tie true (saves db cs₂) uid1 uid2 count offset ∧
        getLastMessages tie true (saves db cs₁) uid count =
          getLastMessages tie true (saves db cs₂) uid count := by
  intro h
  obtain ⟨hsame, -⟩ := h twoUsers [groupHello 2] [] (by decide) .ascending 1 2 1 10 0
  revert hsame
  decide

end MySQLMgr

end WeChat
