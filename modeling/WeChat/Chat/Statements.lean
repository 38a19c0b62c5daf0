/-
# The statements of the friend operations

`addFriendRequest` and `addFriendRelation` look first and insert later, and nothing keeps other
workers from executing statements in between.  Here an operation executes its SQL statements
one by one, interleaved with those of all others; a statement that fails ends its operation.
The table of friendships has the key `unique_friendship`, the one of requests has no such key.
-/
import WeChat.Chat.FriendAnswer

namespace WeChat

open Transition Relational

namespace MySQLMgr

open LogicSystem (AreFriends hasUser_min_max)

/-! ## What the statements look for -/

/-- A request from one user to another is pending. -/
def HasPending (db : Database) (fromUid toUid : ℤ) : Prop :=
  ∃ r ∈ db.friend_requests.rows,
    r.from_uid = fromUid ∧ r.to_uid = toUid ∧ r.status = .pending

/-- A row has these two entries, which the key `unique_friendship` keeps unique. -/
def HasRelation (db : Database) (user1 user2 : ℤ) : Prop :=
  ∃ f ∈ db.friendships.rows, f.user1_id = user1 ∧ f.user2_id = user2

instance (db : Database) (a b : ℤ) : Decidable (AreFriends db a b) :=
  inferInstanceAs (Decidable (∃ f ∈ db.friendships.rows, _))

instance (db : Database) (a b : ℤ) : Decidable (HasPending db a b) :=
  inferInstanceAs (Decidable (∃ r ∈ db.friend_requests.rows, _))

instance (db : Database) (a b : ℤ) : Decidable (HasRelation db a b) :=
  inferInstanceAs (Decidable (∃ f ∈ db.friendships.rows, _))

/-! ## Statements -/

/-- The statements of the operations, with what they are bound to. -/
inductive Statement
  | selectFriends (fromUid toUid : ℤ) (message : String)
  | selectPending (fromUid toUid : ℤ) (message : String)
  | insertRequest (fromUid toUid : ℤ) (message : String)
  | updateStatus (requestId fromUid toUid : ℤ) (accepted : Bool)
  | selectRelation (uid1 uid2 : ℤ)
  | insertRelation (uid1 uid2 : ℤ)

/-- The operations; `authFriend` is the handler of `ID_AUTH_FRIEND_REQ`, which calls
`addFriendRelation` after an `UPDATE` that accepts. -/
inductive FriendCall
  | addFriendRequest (fromUid toUid : ℤ) (message : String)
  | authFriend (requestId fromUid toUid : ℤ) (accepted : Bool)
  | addFriendRelation (uid1 uid2 : ℤ)

/-- The first statement of an operation. -/
def FriendCall.first : FriendCall → Statement
  | addFriendRequest fromUid toUid message => .selectFriends fromUid toUid message
  | authFriend requestId fromUid toUid accepted => .updateStatus requestId fromUid toUid accepted
  | addFriendRelation uid1 uid2 => .selectRelation uid1 uid2

section Execute

variable (gap : ℕ) (db : Database)

/-- The foreign keys of a new request are satisfied, and it has an identifier. -/
def CanRequest (fromUid toUid : ℤ) : Prop :=
  hasUser db fromUid = true ∧ hasUser db toUid = true ∧
    db.friend_requests.last + gap + 1 ≤ maxInt

/-- The keys of a new friendship are satisfied, and it has an identifier. -/
def CanRelate (uid1 uid2 : ℤ) : Prop :=
  ¬ HasRelation db (min uid1 uid2) (max uid1 uid2) ∧ hasUser db uid1 = true ∧
    hasUser db uid2 = true ∧ db.friendships.last + gap + 1 ≤ maxInt

instance (fromUid toUid : ℤ) : Decidable (CanRequest gap db fromUid toUid) :=
  inferInstanceAs (Decidable (_ ∧ _))

instance (uid1 uid2 : ℤ) : Decidable (CanRelate gap db uid1 uid2) :=
  inferInstanceAs (Decidable (_ ∧ _))

lemma id_request (fromUid toUid : ℤ) (message : String) (id : ℤ) :
    (⟨id, fromUid, toUid, message, .pending⟩ : FriendRequest).id = id := rfl

lemma id_friendship (uid1 uid2 id : ℤ) :
    (⟨id, min uid1 uid2, max uid1 uid2⟩ : Friendship).id = id := rfl

/-- The table after the `INSERT` of a request. -/
def requestsWith (fromUid toUid : ℤ) (message : String) : AutoTable FriendRequest.id :=
  ((db.friend_requests.insert maxInt gap (fun id => ⟨id, fromUid, toUid, message, .pending⟩)
    (id_request fromUid toUid message)).map Prod.snd).getD db.friend_requests

/-- The table after the `INSERT` of a friendship. -/
def friendshipsWith (uid1 uid2 : ℤ) : AutoTable Friendship.id :=
  ((db.friendships.insert maxInt gap (fun id => ⟨id, min uid1 uid2, max uid1 uid2⟩)
    (id_friendship uid1 uid2)).map Prod.snd).getD db.friendships

/-- What a statement does that is executed, and the statement that follows it.  An `INSERT` that
breaks a key is an exception, which ends the operation. -/
def Statement.execute : Statement → Database × Option Statement
  | selectFriends fromUid toUid message =>
    (db, if AreFriends db fromUid toUid then none else some (selectPending fromUid toUid message))
  | selectPending fromUid toUid message =>
    (db, if HasPending db fromUid toUid then none else some (insertRequest fromUid toUid message))
  | insertRequest fromUid toUid message =>
    (if CanRequest gap db fromUid toUid then
      { db with friend_requests := requestsWith gap db fromUid toUid message } else db, none)
  | updateStatus requestId fromUid toUid accepted =>
    ((updateFriendRequestStatus true db requestId accepted).2,
      if accepted then some (selectRelation fromUid toUid) else none)
  | selectRelation uid1 uid2 =>
    (db, if HasRelation db (min uid1 uid2) (max uid1 uid2) then none
      else some (insertRelation uid1 uid2))
  | insertRelation uid1 uid2 =>
    (if CanRelate gap db uid1 uid2 then
      { db with friendships := friendshipsWith gap db uid1 uid2 } else db, none)

/-- The arguments of `addFriendRelation`, when its `INSERT` succeeds. -/
def Statement.relates : Statement → List (ℤ × ℤ)
  | insertRelation uid1 uid2 => if CanRelate gap db uid1 uid2 then [(uid1, uid2)] else []
  | _ => []

end Execute

/-! ## Interleavings -/

/-- The database, the statement that each operation in progress executes next, and the arguments
of the calls of `addFriendRelation` whose `INSERT` has succeeded. -/
structure Statements where
  db : Database
  next : ℕ → Option Statement
  related : List (ℤ × ℤ)

/-- An operation is started, or its next statement is executed or fails. -/
inductive StatementEvent
  | start (i : ℕ) (call : FriendCall)
  | execute (i : ℕ) (gap : ℕ)
  | fail (i : ℕ)

namespace Statements

def init (db : Database) : Statements := ⟨db, fun _ => none, []⟩

/-- One event. -/
def step (s : Statements) : StatementEvent → Option Statements
  | .start i call =>
    match s.next i with
    | none => some { s with next := Function.update s.next i (some call.first) }
    | some _ => none
  | .execute i gap =>
    (s.next i).map fun st =>
      ⟨(st.execute gap s.db).1, Function.update s.next i (st.execute gap s.db).2,
        s.related ++ st.relates gap s.db⟩
  | .fail i => (s.next i).map fun _ => { s with next := Function.update s.next i none }

lemma step_start {s : Statements} {i : ℕ} (call : FriendCall) (hnext : s.next i = none) :
    s.step (.start i call) =
      some { s with next := Function.update s.next i (some call.first) } := by
  rw [step, hnext]

lemma step_execute {s : Statements} {i : ℕ} {st : Statement} (gap : ℕ)
    (hnext : s.next i = some st) :
    s.step (.execute i gap) =
      some ⟨(st.execute gap s.db).1, Function.update s.next i (st.execute gap s.db).2,
        s.related ++ st.relates gap s.db⟩ := by
  rw [step, hnext]
  rfl

end Statements

/-! ## The rows that an `INSERT` adds -/

section Insert

variable {gap : ℕ} {db : Database} {a b : ℤ}

/-- A new request is pending and has a new identifier. -/
lemma requestsWith_spec (h : CanRequest gap db a b) (message : String) :
    ∃ id, db.friend_requests.last < id ∧ (requestsWith gap db a b message).rows =
      db.friend_requests.rows ++ [⟨id, a, b, message, .pending⟩] := by
  obtain ⟨id, requests, hins⟩ := AutoTable.exists_insert h.2.2
  obtain ⟨hid, -, -, hrows⟩ := AutoTable.insert_spec hins
  exact ⟨id, hid, by rw [requestsWith, hins]; exact hrows⟩

/-- A new friendship is that of the smaller uid with the larger. -/
lemma friendshipsWith_spec (h : CanRelate gap db a b) : ∃ id,
    (friendshipsWith gap db a b).rows = db.friendships.rows ++ [⟨id, min a b, max a b⟩] := by
  obtain ⟨id, friendships, hins⟩ := AutoTable.exists_insert h.2.2.2
  obtain ⟨-, -, -, hrows⟩ := AutoTable.insert_spec hins
  exact ⟨id, by rw [friendshipsWith, hins]; exact hrows⟩

end Insert

/-! ## An operation that runs alone -/

/-- What an operation leaves when nothing happens between its statements. -/
inductive Finishes (gap : ℕ) : Database → Statement → Database → Prop
  | last {db db' : Database} {st : Statement} (h : st.execute gap db = (db', none)) :
      Finishes gap db st db'
  | more {db db₁ db' : Database} {st st' : Statement} (h : st.execute gap db = (db₁, some st'))
      (h' : Finishes gap db₁ st' db') : Finishes gap db st db'

/-- The database after a call whose functions all succeed. -/
def FriendCall.result (gap : ℕ) (db : Database) : FriendCall → Database
  | addFriendRequest fromUid toUid message =>
    (MySQLMgr.addFriendRequest true db gap fromUid toUid message).2
  | authFriend requestId fromUid toUid accepted =>
    let updated := (updateFriendRequestStatus true db requestId accepted).2
    if accepted then (MySQLMgr.addFriendRelation true updated gap fromUid toUid).2 else updated
  | addFriendRelation uid1 uid2 => (MySQLMgr.addFriendRelation true db gap uid1 uid2).2

section Alone

variable {gap : ℕ} {db db' : Database}

lemma any_areFriends {a b : ℤ} : (db.friendships.rows.any fun f =>
    (f.user1_id = a ∧ f.user2_id = b) ∨ (f.user1_id = b ∧ f.user2_id = a)) = true ↔
      AreFriends db a b := by
  simp only [List.any_eq_true, decide_eq_true_eq, AreFriends]

lemma any_hasPending {a b : ℤ} : (db.friend_requests.rows.any fun r =>
    r.from_uid = a ∧ r.to_uid = b ∧ r.status = .pending) = true ↔ HasPending db a b := by
  simp only [List.any_eq_true, decide_eq_true_eq, HasPending]

lemma any_hasRelation {a b : ℤ} : (db.friendships.rows.any fun f =>
    f.user1_id = a ∧ f.user2_id = b) = true ↔ HasRelation db a b := by
  simp only [List.any_eq_true, decide_eq_true_eq, HasRelation]

/-- The three statements of `addFriendRequest`. -/
lemma addFriendRequest_eq (fromUid toUid : ℤ) (message : String) :
    (addFriendRequest true db gap fromUid toUid message).2 =
      if AreFriends db fromUid toUid then db
      else if HasPending db fromUid toUid then db
      else if CanRequest gap db fromUid toUid then
        { db with friend_requests := requestsWith gap db fromUid toUid message }
      else db := by
  simp only [addFriendRequest, if_true, any_areFriends, any_hasPending]
  split_ifs with hfriends hpending hboth hcan hcan
  · rfl
  · rfl
  · obtain ⟨id, requests, hins⟩ := AutoTable.exists_insert hcan.2.2
    rw [requestsWith, hins]
    rfl
  · have hmax : maxInt < db.friend_requests.last + gap + 1 := by
      rw [Bool.and_eq_true] at hboth
      exact not_le.1 fun hle => hcan ⟨hboth.1, hboth.2, hle⟩
    rw [AutoTable.insert, if_pos hmax]
  · exact absurd (Bool.and_eq_true _ _ ▸ ⟨hcan.1, hcan.2.1⟩) hboth
  · rfl

/-- The two statements of `addFriendRelation`. -/
lemma addFriendRelation_eq (uid1 uid2 : ℤ) :
    (addFriendRelation true db gap uid1 uid2).2 =
      if HasRelation db (min uid1 uid2) (max uid1 uid2) then db
      else if CanRelate gap db uid1 uid2 then
        { db with friendships := friendshipsWith gap db uid1 uid2 }
      else db := by
  simp only [addFriendRelation, if_true, any_hasRelation, hasUser_min_max]
  split_ifs with hrelation hboth hcan hcan
  · rfl
  · obtain ⟨id, friendships, hins⟩ := AutoTable.exists_insert hcan.2.2.2
    rw [friendshipsWith, hins]
    rfl
  · have hmax : maxInt < db.friendships.last + gap + 1 :=
      not_le.1 fun hle => hcan ⟨hrelation, hboth.1, hboth.2, hle⟩
    rw [AutoTable.insert, if_pos hmax]
  · exact absurd ⟨hcan.2.1, hcan.2.2.1⟩ hboth
  · rfl

lemma finishes_selectRelation (uid1 uid2 : ℤ) :
    Finishes gap db (.selectRelation uid1 uid2)
      (addFriendRelation true db gap uid1 uid2).2 := by
  rw [addFriendRelation_eq]
  split_ifs with hrelation hcan
  · exact .last (by rw [Statement.execute, if_pos hrelation])
  · refine .more (by rw [Statement.execute, if_neg hrelation]) (.last ?_)
    rw [Statement.execute, if_pos hcan]
  · refine .more (by rw [Statement.execute, if_neg hrelation]) (.last ?_)
    rw [Statement.execute, if_neg hcan]

/-- An operation that runs alone leaves what its function leaves. -/
lemma finishes_first (call : FriendCall) : Finishes gap db call.first (call.result gap db) := by
  cases call with
  | addFriendRequest fromUid toUid message =>
    show Finishes gap db (.selectFriends fromUid toUid message)
      (addFriendRequest true db gap fromUid toUid message).2
    rw [addFriendRequest_eq]
    split_ifs with hfriends hpending hcan
    · exact .last (by rw [Statement.execute, if_pos hfriends])
    · refine .more (by rw [Statement.execute, if_neg hfriends]) (.last ?_)
      rw [Statement.execute, if_pos hpending]
    · refine .more (by rw [Statement.execute, if_neg hfriends]) (.more
        (by rw [Statement.execute, if_neg hpending]) (.last ?_))
      rw [Statement.execute, if_pos hcan]
    · refine .more (by rw [Statement.execute, if_neg hfriends]) (.more
        (by rw [Statement.execute, if_neg hpending]) (.last ?_))
      rw [Statement.execute, if_neg hcan]
  | authFriend requestId fromUid toUid accepted =>
    cases accepted with
    | false => exact .last rfl
    | true => exact .more rfl (finishes_selectRelation fromUid toUid)
  | addFriendRelation uid1 uid2 => exact finishes_selectRelation uid1 uid2

/-- The statements of an operation, one after the other. -/
lemma run_of_finishes {st : Statement} (h : Finishes gap db st db') {s : Statements} {i : ℕ}
    (hdb : s.db = db) (hnext : s.next i = some st) : ∃ n related,
      run Statements.step s (List.replicate n (.execute i gap)) =
        some ⟨db', Function.update s.next i none, related⟩ := by
  induction h generalizing s with
  | @last db db' st h =>
    subst hdb
    have hstep := Statements.step_execute gap hnext
    rw [h] at hstep
    exact ⟨1, _, run_cons hstep []⟩
  | @more db db₁ db' st st' h h' ih =>
    subst hdb
    have hstep := Statements.step_execute gap hnext
    rw [h] at hstep
    let s' : Statements :=
      ⟨db₁, Function.update s.next i (some st'), s.related ++ st.relates gap s.db⟩
    obtain ⟨n, related, hrun⟩ := ih (s := s') rfl (Function.update_self i (some st') s.next)
    refine ⟨n + 1, related, ?_⟩
    rw [List.replicate_succ, run_cons hstep, hrun, Function.update_idem]

/-- **An operation whose statements are executed without others in between does what its
function does.** -/
theorem run_alone {s : Statements} {i : ℕ} (hnext : s.next i = none) (call : FriendCall) :
    ∃ n related, run Statements.step s (.start i call :: List.replicate n (.execute i gap)) =
      some ⟨call.result gap s.db, s.next, related⟩ := by
  have hstart := Statements.step_start call hnext
  have hfinishes : Finishes gap s.db call.first (call.result gap s.db) := finishes_first call
  obtain ⟨n, related, hrun⟩ := run_of_finishes hfinishes
    (s := { s with next := Function.update s.next i (some call.first) }) rfl
    (Function.update_self i (some call.first) s.next)
  refine ⟨n, related, ?_⟩
  rw [run_cons hstart, hrun, Function.update_idem, ← hnext, Function.update_eq_self]

end Alone

end MySQLMgr

end WeChat
