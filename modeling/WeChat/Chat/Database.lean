/-
# The database of the chat server

The tables of `chat_tables.sql` and the functions of `MySQLMgr` that the message handlers
call.  A function is given `ok`, which says whether a session was available and its
statements were executed: when it is false the function reports a failure and the tables are
as before.  Columns that no query returns, such as the dates of friendships, are left out.
`NOW()` and the columns that a handler fills with the current time are parameters.
-/
import WeChat.Lib.Table

namespace WeChat

open Relational

/-- The largest value of an `INT` column. -/
def maxInt : ℤ := 2147483647

/-- A row of `users`. -/
structure User where
  uid : ℤ
  name : String
  email : String
  avatar : Option String
  status : Option String

/-- A row of `friendships`. -/
structure Friendship where
  id : ℤ
  user1_id : ℤ
  user2_id : ℤ

/-- The values of the column `friend_requests.status`. -/
inductive RequestStatus
  | pending | accepted | rejected
deriving DecidableEq

/-- A row of `friend_requests`. -/
structure FriendRequest where
  id : ℤ
  from_uid : ℤ
  to_uid : ℤ
  message : String
  status : RequestStatus

/-- A row of `messages`. -/
@[ext]
structure Message where
  id : ℤ
  from_uid : ℤ
  to_uid : ℤ
  content : String
  send_time : String
  msg_type : ℤ
  status : ℤ
  chat_type : ℤ
deriving DecidableEq

/-- A row of `groups`. -/
structure Group where
  group_id : ℤ
  name : String
  owner_uid : ℤ
  avatar : String
  created_at : String

/-- The values of the column `group_members.role`. -/
inductive Role
  | owner | admin | member
deriving DecidableEq

/-- A row of `group_members`. -/
structure GroupMember where
  group_id : ℤ
  uid : ℤ
  role : Role

/-- The tables. -/
structure Database where
  users : Table User.uid
  friendships : AutoTable Friendship.id
  friend_requests : AutoTable FriendRequest.id
  messages : AutoTable Message.id
  groups : AutoTable Group.group_id
  group_members : Table fun m : GroupMember => (m.group_id, m.uid)

/-- `struct UserInfo`. -/
structure UserInfo where
  uid : ℤ := 0
  name : String := ""
  email : String := ""
  avatar : String := ""
  status : String := ""

/-- `struct GroupInfo`. -/
structure GroupInfo where
  groupId : ℤ := 0
  name : String := ""
  ownerUid : ℤ := 0
  avatar : String := ""
  createdAt : String := ""

/-- The columns `uid, name, email, avatar, status`; `NULL` is read as an empty string. -/
def User.info (u : User) : UserInfo :=
  ⟨u.uid, u.name, u.email, u.avatar.getD "", u.status.getD ""⟩

/-- The columns `group_id, name, owner_uid, avatar, created_at`. -/
def Group.info (g : Group) : GroupInfo :=
  ⟨g.group_id, g.name, g.owner_uid, g.avatar, g.created_at⟩

/-- The `LIKE` of MySQL, without the folding of its collation: `%` stands for any text, `_`
for one character, and a backslash takes the next character literally. -/
def like : List Char → List Char → Bool
  | [], t => t.isEmpty
  | '%' :: p, [] => like p []
  | '%' :: p, c :: t => like p (c :: t) || like ('%' :: p) t
  | '_' :: p, _ :: t => like p t
  | '\\' :: c :: p, d :: t => c == d && like p t
  | c :: p, d :: t => c == d && like p t
  | _ :: _, [] => false
termination_by p t => p.length + t.length

namespace MySQLMgr

variable (ok : Bool) (db : Database)

/-- The foreign keys to `users` are satisfied. -/
def hasUser (uid : ℤ) : Bool := db.users.rows.any fun u => u.uid = uid

/-! ## Users -/

def searchUserByName (name : String) : List UserInfo :=
  if ok then
    (db.users.rows.filter fun u => like ('%' :: name.toList ++ ['%']) u.name.toList).map User.info
  else []

def getUserById (uid : ℤ) : UserInfo :=
  if ok then
    match db.users.rows.find? fun u => u.uid = uid with
    | some u => u.info
    | none => {}
  else {}

/-! ## Friends -/

def addFriendRequest (gap : ℕ) (fromUid toUid : ℤ) (message : String) : Bool × Database :=
  if ok then
    if db.friendships.rows.any fun f =>
        (f.user1_id = fromUid ∧ f.user2_id = toUid) ∨
          (f.user1_id = toUid ∧ f.user2_id = fromUid) then
      (false, db)
    else if db.friend_requests.rows.any fun r =>
        r.from_uid = fromUid ∧ r.to_uid = toUid ∧ r.status = .pending then
      (false, db)
    else if hasUser db fromUid && hasUser db toUid then
      match db.friend_requests.insert maxInt gap
          (fun id => ⟨id, fromUid, toUid, message, .pending⟩) (fun _ => rfl) with
      | some (_, friend_requests) => (true, { db with friend_requests := friend_requests })
      | none => (false, db)
    else (false, db)
  else (false, db)

/-- An `UPDATE` that finds no row is a success. -/
def updateFriendRequestStatus (requestId : ℤ) (accepted : Bool) : Bool × Database :=
  if ok then
    let status := if accepted then RequestStatus.accepted else RequestStatus.rejected
    (true, { db with
      friend_requests := db.friend_requests.update
        (fun r => if r.id = requestId then { r with status := status } else r)
        (fun r => by split <;> rfl) })
  else (false, db)

def addFriendRelation (gap : ℕ) (uid1 uid2 : ℤ) : Bool × Database :=
  if ok then
    let user1 := min uid1 uid2
    let user2 := max uid1 uid2
    if db.friendships.rows.any fun f => f.user1_id = user1 ∧ f.user2_id = user2 then
      (true, db)
    else if hasUser db user1 && hasUser db user2 then
      match db.friendships.insert maxInt gap (fun id => ⟨id, user1, user2⟩) (fun _ => rfl) with
      | some (_, friendships) => (true, { db with friendships := friendships })
      | none => (false, db)
    else (false, db)
  else (false, db)

def getFriendList (uid : ℤ) : List UserInfo :=
  if ok then
    db.users.rows.flatMap fun u =>
      (db.friendships.rows.filter fun f =>
        (u.uid = f.user1_id ∨ u.uid = f.user2_id) ∧
          (f.user1_id = uid ∨ f.user2_id = uid) ∧ u.uid ≠ uid).map fun _ => u.info
  else []

/-- The identifiers of the pending requests to a user, with their senders. -/
def getFriendRequests (uid : ℤ) : List (ℤ × UserInfo) :=
  if ok then
    db.friend_requests.rows.flatMap fun r =>
      (db.users.rows.filter fun u =>
        r.from_uid = u.uid ∧ r.to_uid = uid ∧ r.status = .pending).map
          fun u => (r.id, { u.info with status := "" })
  else []

/-! ## Messages -/

/-- The `INSERT` of `saveMessage` and `saveGroupMessage`: the new row, or 0 and no row. -/
def insertMessage (gap : ℕ) (fromUid toUid : ℤ) (content time : String) (msgType chatType : ℤ) :
    ℤ × Database :=
  if ok && hasUser db fromUid then
    match db.messages.insert maxInt gap
        (fun id => ⟨id, fromUid, toUid, content, time, msgType, 0, chatType⟩) (fun _ => rfl) with
    | some (id, messages) => (id, { db with messages := messages })
    | none => (0, db)
  else (0, db)

/-- The `chat_type` of the new row is its default, 0. -/
def saveMessage (gap : ℕ) (fromUid toUid : ℤ) (content time : String) (msgType : ℤ) :
    ℤ × Database :=
  insertMessage ok db gap fromUid toUid content time msgType 0

/-- The new row has the group in the column `to_uid`. -/
def saveGroupMessage (gap : ℕ) (fromUid groupId : ℤ) (content time : String) (msgType : ℤ) :
    ℤ × Database :=
  insertMessage ok db gap fromUid groupId content time msgType 1

/-! ## Groups -/

def addGroupMember (groupId uid : ℤ) (role : Role) : Bool × Database :=
  if ok && hasUser db uid && db.groups.rows.any fun g => g.group_id = groupId then
    match db.group_members.insert ⟨groupId, uid, role⟩ with
    | some group_members => (true, { db with group_members := group_members })
    | none => (false, db)
  else (false, db)

/-- The result of adding the owner, in a second session, is not looked at. -/
def createGroup (ok' : Bool) (gap : ℕ) (now : String) (ownerUid : ℤ) (name avatar : String) :
    ℤ × Database :=
  if ok && hasUser db ownerUid then
    match db.groups.insert maxInt gap (fun id => ⟨id, name, ownerUid, avatar, now⟩)
        (fun _ => rfl) with
    | some (groupId, groups) =>
      (groupId, (addGroupMember ok' { db with groups := groups } groupId ownerUid .owner).2)
    | none => (0, db)
  else (0, db)

/-- A `DELETE` that finds no row is a success. -/
def removeGroupMember (groupId uid : ℤ) : Bool × Database :=
  if ok then
    (true, { db with
      group_members := db.group_members.delete fun m => m.group_id = groupId ∧ m.uid = uid })
  else (false, db)

def getGroupMembers (groupId : ℤ) : List UserInfo :=
  if ok then
    db.users.rows.flatMap fun u =>
      (db.group_members.rows.filter fun m => u.uid = m.uid ∧ m.group_id = groupId).map
        fun _ => u.info
  else []

def getUserGroups (uid : ℤ) : List GroupInfo :=
  if ok then
    db.groups.rows.flatMap fun g =>
      (db.group_members.rows.filter fun m => g.group_id = m.group_id ∧ m.uid = uid).map
        fun _ => g.info
  else []

def getGroupInfo (groupId : ℤ) : GroupInfo :=
  if ok then
    match db.groups.rows.find? fun g => g.group_id = groupId with
    | some g => g.info
    | none => {}
  else {}

end MySQLMgr

end WeChat
