/-
# The rows that the server inserts

What the functions of `MySQLMgr` add to the tables of messages, friend requests and groups: a
function adds one row to one of these tables, with the values that it was given, or none.  So
the sender or the owner that a new row names is one that the function was given.
-/
import WeChat.Lib.Wire
import WeChat.Chat.Database

namespace WeChat

open Wire Relational

/-- No row is added to the tables of messages, friend requests and groups; the status of a
friend request may change. -/
structure Keeps (db db' : Database) : Prop where
  messages : db'.messages = db.messages
  friend_requests : db'.friend_requests.rows.map FriendRequest.id =
    db.friend_requests.rows.map FriendRequest.id
  groups : db'.groups = db.groups

lemma Keeps.refl (db : Database) : Keeps db db := ⟨rfl, rfl, rfl⟩

lemma Keeps.trans {db₁ db₂ db₃ : Database} (h : Keeps db₁ db₂) (h' : Keeps db₂ db₃) :
    Keeps db₁ db₃ :=
  ⟨h'.messages.trans h.messages, h'.friend_requests.trans h.friend_requests,
    h'.groups.trans h.groups⟩

/-- The row of a message that has been inserted. -/
structure Stored (db db' : Database) (row : Message) : Prop where
  new : db.messages.last < row.id
  le_max : row.id ≤ maxInt
  last_eq : db'.messages.last = row.id
  rows_eq : db'.messages.rows = db.messages.rows ++ [row]
  friend_requests : db'.friend_requests = db.friend_requests
  groups : db'.groups = db.groups

lemma Stored.id_pos {db db' : Database} {row : Message} (h : Stored db db' row) : 0 < row.id :=
  lt_of_le_of_lt db.messages.last_nonneg h.new

lemma Stored.toInt32_id {db db' : Database} {row : Message} (h : Stored db db' row) :
    toInt32 row.id = row.id := by
  have hpos := h.id_pos
  have hmax := h.le_max
  rw [maxInt] at hmax
  exact toInt32_eq_self (by omega) (by omega)

/-- The row of a friend request that has been inserted. -/
structure Requested (db db' : Database) (row : FriendRequest) : Prop where
  rows_eq : db'.friend_requests.rows = db.friend_requests.rows ++ [row]
  messages : db'.messages = db.messages
  groups : db'.groups = db.groups

/-- The row of a group that has been inserted. -/
structure Founded (db db' : Database) (row : Group) : Prop where
  rows_eq : db'.groups.rows = db.groups.rows ++ [row]
  messages : db'.messages = db.messages
  friend_requests : db'.friend_requests = db.friend_requests

/-! ## Whom new rows name -/

/-- The new rows of messages and friend requests are from one user, and the new rows of groups
are owned by one user. -/
structure Attributed (fromUid ownerUid : Option ℤ) (db db' : Database) : Prop where
  messages : ∀ row ∈ db'.messages.rows, row.id ∉ db.messages.rows.map Message.id →
    fromUid = some row.from_uid
  friend_requests : ∀ row ∈ db'.friend_requests.rows,
    row.id ∉ db.friend_requests.rows.map FriendRequest.id → fromUid = some row.from_uid
  groups : ∀ row ∈ db'.groups.rows, row.group_id ∉ db.groups.rows.map Group.group_id →
    ownerUid = some row.owner_uid

section Attributed

variable {db db' : Database} {fromUid ownerUid : Option ℤ}

/-- Where the keys are the same, no row is new. -/
lemma forall_new_of_keys {Row : Type*} {key : Row → ℤ} {rows rows' : List Row} {P : Row → Prop}
    (h : rows'.map key = rows.map key) : ∀ row ∈ rows', key row ∉ rows.map key → P row := by
  intro row hrow hnew
  exact absurd (h ▸ List.mem_map_of_mem hrow) hnew

/-- Where one row is added, no other row is new. -/
lemma forall_new_of_append {Row : Type*} {key : Row → ℤ} {rows rows' : List Row} {new : Row}
    {P : Row → Prop} (h : rows' = rows ++ [new]) (hP : P new) :
    ∀ row ∈ rows', key row ∉ rows.map key → P row := by
  intro row hrow hnew
  rw [h] at hrow
  rcases List.mem_append.1 hrow with hold | hone
  · exact absurd (List.mem_map_of_mem hold) hnew
  · exact List.mem_singleton.1 hone ▸ hP

lemma Keeps.attributed (h : Keeps db db') : Attributed fromUid ownerUid db db' where
  messages := forall_new_of_keys (congrArg (fun t => t.rows.map Message.id) h.messages)
  friend_requests := forall_new_of_keys h.friend_requests
  groups := forall_new_of_keys (congrArg (fun t => t.rows.map Group.group_id) h.groups)

lemma Stored.attributed {row : Message} (h : Stored db db' row) :
    Attributed (some row.from_uid) ownerUid db db' where
  messages := forall_new_of_append h.rows_eq rfl
  friend_requests := forall_new_of_keys
    (congrArg (fun t => t.rows.map FriendRequest.id) h.friend_requests)
  groups := forall_new_of_keys (congrArg (fun t => t.rows.map Group.group_id) h.groups)

lemma Requested.attributed {row : FriendRequest} (h : Requested db db' row) :
    Attributed (some row.from_uid) ownerUid db db' where
  messages := forall_new_of_keys (congrArg (fun t => t.rows.map Message.id) h.messages)
  friend_requests := forall_new_of_append h.rows_eq rfl
  groups := forall_new_of_keys (congrArg (fun t => t.rows.map Group.group_id) h.groups)

lemma Founded.attributed {row : Group} (h : Founded db db' row) :
    Attributed fromUid (some row.owner_uid) db db' where
  messages := forall_new_of_keys (congrArg (fun t => t.rows.map Message.id) h.messages)
  friend_requests := forall_new_of_keys
    (congrArg (fun t => t.rows.map FriendRequest.id) h.friend_requests)
  groups := forall_new_of_append h.rows_eq rfl

end Attributed

/-! ## What the functions insert -/

namespace MySQLMgr

variable (ok : Bool) (db : Database)

lemma keeps_updateFriendRequestStatus (requestId : ℤ) (accepted : Bool) :
    Keeps db (updateFriendRequestStatus ok db requestId accepted).2 := by
  cases ok with
  | false => exact .refl db
  | true =>
    refine ⟨rfl, ?_, rfl⟩
    show (List.map _ db.friend_requests.rows).map FriendRequest.id = _
    rw [List.map_map]
    refine List.map_congr_left fun r _ => ?_
    show (if r.id = requestId then _ else _ : FriendRequest).id = r.id
    split_ifs <;> rfl

lemma keeps_addFriendRelation (gap : ℕ) (uid1 uid2 : ℤ) :
    Keeps db (addFriendRelation ok db gap uid1 uid2).2 := by
  simp only [addFriendRelation]
  split_ifs
  · exact .refl db
  · split
    · exact ⟨rfl, rfl, rfl⟩
    · exact .refl db
  · exact .refl db
  · exact .refl db

lemma keeps_addGroupMember (groupId uid : ℤ) (role : Role) :
    Keeps db (addGroupMember ok db groupId uid role).2 := by
  rw [addGroupMember]
  split_ifs
  · split
    · exact ⟨rfl, rfl, rfl⟩
    · exact .refl db
  · exact .refl db

lemma keeps_removeGroupMember (groupId uid : ℤ) :
    Keeps db (removeGroupMember ok db groupId uid).2 := by
  rw [removeGroupMember]
  split_ifs
  · exact ⟨rfl, rfl, rfl⟩
  · exact .refl db

/-- A friend request is inserted under the uids that the function was given, or no row is. -/
lemma addFriendRequest_spec (gap : ℕ) (fromUid toUid : ℤ) (message : String) :
    Keeps db (addFriendRequest ok db gap fromUid toUid message).2 ∨
      ∃ id, Requested db (addFriendRequest ok db gap fromUid toUid message).2
        ⟨id, fromUid, toUid, message, .pending⟩ := by
  rw [addFriendRequest]
  split_ifs
  · exact .inl (.refl db)
  · exact .inl (.refl db)
  · split
    · next id requests hins =>
      obtain ⟨-, -, -, hrows⟩ := AutoTable.insert_spec hins
      exact .inr ⟨id, hrows, rfl, rfl⟩
    · exact .inl (.refl db)
  · exact .inl (.refl db)
  · exact .inl (.refl db)

lemma messages_addFriendRequest (gap : ℕ) (fromUid toUid : ℤ) (message : String) :
    (addFriendRequest ok db gap fromUid toUid message).2.messages = db.messages := by
  rcases addFriendRequest_spec ok db gap fromUid toUid message with hkeeps | ⟨id, hrequested⟩
  · exact hkeeps.messages
  · exact hrequested.messages

/-- A group is inserted under the owner that the function was given, or no row is. -/
lemma createGroup_spec (ok' : Bool) (gap : ℕ) (now : String) (ownerUid : ℤ)
    (name avatar : String) :
    Keeps db (createGroup ok db ok' gap now ownerUid name avatar).2 ∨
      ∃ id, Founded db (createGroup ok db ok' gap now ownerUid name avatar).2
        ⟨id, name, ownerUid, avatar, now⟩ := by
  rw [createGroup]
  split_ifs
  · split
    · next id groups hins =>
      obtain ⟨-, -, -, hrows⟩ := AutoTable.insert_spec hins
      -- the owner becomes a member in a second session
      have hunused : ∀ db : Database, (addGroupMember ok' db id ownerUid .owner).2.friend_requests =
          db.friend_requests := by
        intro db
        rw [addGroupMember]
        split_ifs
        · split <;> rfl
        · rfl
      have hkeeps := keeps_addGroupMember ok' { db with groups := groups } id ownerUid .owner
      refine .inr ⟨id, ?_, hkeeps.messages, hunused _⟩
      rw [hkeeps.groups]
      exact hrows
    · exact .inl (.refl db)
  · exact .inl (.refl db)

lemma messages_createGroup (ok' : Bool) (gap : ℕ) (now : String) (ownerUid : ℤ)
    (name avatar : String) :
    (createGroup ok db ok' gap now ownerUid name avatar).2.messages = db.messages := by
  rcases createGroup_spec ok db ok' gap now ownerUid name avatar with hkeeps | ⟨id, hfounded⟩
  · exact hkeeps.messages
  · exact hfounded.messages

/-- A message is inserted with a new key under the uids that the function was given, or nothing
happens. -/
lemma insertMessage_spec {ok : Bool} {db : Database} {gap : ℕ} {fromUid toUid : ℤ}
    {content time : String} {msgType chatType : ℤ} {mid : ℤ} {db' : Database}
    (h : insertMessage ok db gap fromUid toUid content time msgType chatType = (mid, db')) :
    (mid = 0 ∧ db' = db) ∨
      Stored db db' ⟨mid, fromUid, toUid, content, time, msgType, 0, chatType⟩ := by
  rw [insertMessage] at h
  split_ifs at h
  · split at h
    · next id messages hins =>
      obtain ⟨rfl, rfl⟩ := Prod.mk.inj h
      obtain ⟨hnew, hmax, hlast, hrows⟩ := AutoTable.insert_spec hins
      exact .inr ⟨hnew, hmax, hlast, hrows, rfl, rfl⟩
    · obtain ⟨rfl, rfl⟩ := Prod.mk.inj h
      exact .inl ⟨rfl, rfl⟩
  · obtain ⟨rfl, rfl⟩ := Prod.mk.inj h
    exact .inl ⟨rfl, rfl⟩

end MySQLMgr

end WeChat
