/-
# Friend lists and what was accepted

A friendship is inserted when a worker handles an `ID_AUTH_FRIEND_REQ` that accepts one, and is
never removed.  So the friend list that answers a login is known from the past of the servers: it
has, once each, the users of whom a friendship with this user was accepted, by an answer with
success, and nobody else.
-/
import WeChat.Chat.FriendLists
import WeChat.Chat.PendingRequests

namespace WeChat

open Wire Relational Transition Json LogicSystem

namespace LogicSystem

open MySQLMgr

/-- To handle the message is to accept a friendship of the two users, with an answer that says
so. -/
def AcceptsFriend (env : Env) (db : Database) (mgr : ℤ → Option Conn) (session : Conn) (id : ℤ)
    (src : Option Json) (a b : ℤ) : Prop :=
  id = idAuthFriendReq ∧ ∃ requestId fromUid toUid,
    authRequest src = some (requestId, fromUid, toUid, true) ∧
    ((fromUid = a ∧ toUid = b) ∨ (fromUid = b ∧ toUid = a)) ∧
    AnswersWith session (handleMsg env db mgr session id src).2 ErrorCodes.success.code

section Handlers

variable {env : Env} {db db' : Database} {mgr : ℤ → Option Conn} {session : Conn} {id : ℤ}
  {src : Option Json}

lemma areFriends_congr (h : db'.friendships = db.friendships) (a b : ℤ) :
    AreFriends db' a b ↔ AreFriends db a b := by
  rw [AreFriends, AreFriends, h]

/-- Two users are friends after a message exactly when they were before or the message accepts
it. -/
lemma areFriends_handleMsg_iff (a b : ℤ) :
    AreFriends (handleMsg env db mgr session id src).1 a b ↔
      AreFriends db a b ∨ AcceptsFriend env db mgr session id src a b := by
  by_cases hauth : id = idAuthFriendReq
  · subst hauth
    cases hrequest : authRequest src with
    | none =>
      have hnot : ¬ AcceptsFriend env db mgr session idAuthFriendReq src a b := by
        rintro ⟨-, requestId, fromUid, toUid, hsome, -⟩
        rw [hrequest] at hsome
        cases hsome
      rw [handleMsg_of_authRequest_none hrequest, or_iff_left hnot]
    | some request =>
      obtain ⟨requestId, fromUid, toUid, accepted⟩ := request
      have haccepts : AcceptsFriend env db mgr session idAuthFriendReq src a b ↔
          accepted = true ∧ ((fromUid = a ∧ toUid = b) ∨ (fromUid = b ∧ toUid = a)) ∧
            (carryOut env db requestId fromUid toUid accepted).1 = true := by
        have hanswer : AnswersWith session (handleMsg env db mgr session idAuthFriendReq src).2
            ErrorCodes.success.code ↔ ErrorCodes.success.code = _ := answersWith_iff hrequest
        have hcode : (ErrorCodes.success.code =
            if (carryOut env db requestId fromUid toUid accepted).1 then ErrorCodes.success.code
            else ErrorCodes.errNetwork.code) ↔
              (carryOut env db requestId fromUid toUid accepted).1 = true := by
          split_ifs with hdone
          · exact iff_of_true rfl hdone
          · exact iff_of_false (by decide) hdone
        rw [hcode] at hanswer
        simp only [AcceptsFriend, hanswer, hrequest, true_and]
        constructor
        · rintro ⟨_, _, _, hsome, hpair, hdone⟩
          cases hsome
          exact ⟨rfl, hpair, hdone⟩
        · rintro ⟨rfl, hpair, hdone⟩
          exact ⟨_, _, _, rfl, hpair, hdone⟩
      obtain ⟨note, -, hdone⟩ := handleMsg_authRequest env db mgr session hrequest
      rw [haccepts, hdone]
      cases hok : env.ok 0 with
      | false =>
        rw [carryOut_of_not_ok hok]
        exact (or_iff_left fun h => by cases h.2.2).symm
      | true =>
        cases accepted with
        | false =>
          rw [carryOut, hok]
          exact (or_iff_left fun h => by cases h.1).symm
        | true =>
          by_cases hrelates : Relates env db fromUid toUid
          · obtain ⟨htrue, -, hfriends⟩ := carryOut_done requestId hok fun _ => hrelates
            rw [hfriends rfl a b, or_comm, htrue]
            simp
          · rw [carryOut_failed hok hrelates]
            exact (or_iff_left fun h => by cases h.2.2).symm
  · have hnot : ¬ AcceptsFriend env db mgr session id src a b := fun h => hauth h.1
    rw [or_iff_left hnot]
    by_cases hadd : id = idAddFriendReq
    · subst hadd
      exact areFriends_congr addFriend_spec.1 a b
    · exact areFriends_congr (sameFriends_handleMsg hadd hauth).friendships a b

/-- Each friendship is in the table once, with the smaller uid first, and between users. -/
def Listed (db : Database) : Prop :=
  Statements.Ordered ⟨db, fun _ => none, db.friendships.rows.map pairOf⟩

lemma Listed.congr (h : Listed db) (hfriends : db'.friendships = db.friendships)
    (husers : db'.users = db.users) : Listed db' :=
  Statements.Ordered.congr h hfriends husers (by rw [hfriends])

lemma listed_empty (h : db.friendships.rows = []) : Listed db := by
  have hordered := ordered_init h
  exact Statements.Ordered.congr hordered rfl rfl (by rw [h]; rfl)

/-- An `INSERT` of a friendship that is not there. -/
lemma listed_befriends {a b rowId : ℤ} (h : Listed db) (hcan : Befriends env db a b)
    (husers : db'.users = db.users)
    (hrows : db'.friendships.rows = db.friendships.rows ++ [⟨rowId, min a b, max a b⟩]) :
    Listed db' := by
  have hpairs : db'.friendships.rows.map pairOf =
      db.friendships.rows.map pairOf ++ [(min a b, max a b)] := by
    rw [hrows, List.map_append]
    rfl
  have hordered : ordered (min a b, max a b) = (min a b, max a b) := by
    simp [ordered]
  have hold : (db.friendships.rows.map pairOf).map ordered = db.friendships.rows.map pairOf :=
    h.pairs.symm
  constructor
  · simp only [hpairs, List.map_append, hold, List.map_singleton, hordered]
  · simp only [hpairs, List.map_append, hold, List.map_singleton, hordered]
    refine List.nodup_append'.2 ⟨hold ▸ h.nodup, List.nodup_singleton _, ?_⟩
    intro p hp hp'
    obtain rfl := List.mem_singleton.1 hp'
    obtain ⟨f, hf, heq⟩ := List.mem_map.1 hp
    exact hcan.2.1 f hf (Prod.mk.inj heq)
  · intro p hp
    show (db'.users.rows.any _) = true ∧ (db'.users.rows.any _) = true
    rw [husers]
    replace hp : p ∈ db'.friendships.rows.map pairOf := hp
    rw [hpairs] at hp
    rcases List.mem_append.1 hp with hp | hp
    · exact h.users p hp
    · obtain rfl := List.mem_singleton.1 hp
      exact Bool.and_eq_true_iff.1 (hasUser_min_max.2 ⟨hcan.2.2.1, hcan.2.2.2.1⟩)

lemma listed_handleMsg (h : Listed db) : Listed (handleMsg env db mgr session id src).1 := by
  have husers := (extends_handleMsg env db mgr session id src).users
  by_cases hauth : id = idAuthFriendReq
  · subst hauth
    rw [authFriend_spec] at husers ⊢
    cases hrequest : authRequest src with
    | none => exact h
    | some request =>
      obtain ⟨requestId, fromUid, toUid, accepted⟩ := request
      simp only [hrequest] at husers ⊢
      have hupdated : Listed (updateFriendRequestStatus (env.ok 0) db requestId accepted).2 :=
        h.congr (by cases env.ok 0 <;> rfl) (by cases env.ok 0 <;> rfl)
      split_ifs with haccepted
      · rcases (addFriendRelation_spec env _ fromUid toUid).2 with
          ⟨hcan, rowId, hrows⟩ | ⟨-, hfriends⟩
        · refine listed_befriends hupdated hcan ?_ hrows
          exact (extends_addFriendRelation _ _ _ fromUid toUid).users
        · exact hupdated.congr hfriends (extends_addFriendRelation _ _ _ fromUid toUid).users
      · exact hupdated
  · by_cases hadd : id = idAddFriendReq
    · subst hadd
      exact h.congr addFriend_spec.1 husers
    · exact h.congr (sameFriends_handleMsg hadd hauth).friendships husers

end Handlers

end LogicSystem

/-! ## Runs -/

/-- The step accepts a friendship of the two users, with an answer that says so. -/
def State.AcceptsFriend (cfg : Config) (a b : ℤ) : State → Event → Prop :=
  State.Handles cfg fun env db mgr session id src =>
    LogicSystem.AcceptsFriend env db mgr session id src a b

section Runs

open MySQLMgr

variable {cfg : Config} {s s' : State} {e : Event} {db : Database} {es : List Event}

lemma areFriends_step_iff (a b : ℤ) (h : step cfg s e = some s') :
    AreFriends s'.db a b ↔ AreFriends s.db a b ∨ s.AcceptsFriend cfg a b e := by
  rcases step_handles h with ⟨hdb, hnone⟩ | ⟨env, mgr, session, id, src, hdb, hhandles⟩
  · rw [hdb]
    exact (or_iff_left (hnone _)).symm
  · rw [hdb, State.AcceptsFriend, hhandles]
    exact areFriends_handleMsg_iff a b

lemma listed_step (hs : Listed s.db) (h : step cfg s e = some s') : Listed s'.db := by
  rcases db_step h with hdb | ⟨S, i, alive, env, node, queue, -, -, hdb⟩
  · exact hdb ▸ hs
  · exact hdb ▸ listed_handleMsg hs

lemma areFriends_run_iff (hempty : db.friendships.rows = [])
    (hrun : run (step cfg) (.init db) es = some s) (a b : ℤ) :
    AreFriends s.db a b ↔ SomeStep (step cfg) (State.AcceptsFriend cfg a b) (.init db) es := by
  have hiff := final_iff_someStep (P := fun s : State => AreFriends s.db a b)
    (fun _ _ _ h => areFriends_step_iff a b h) hrun
  refine hiff.trans (or_iff_right ?_)
  rintro ⟨f, hf, -⟩
  rw [State.init, hempty] at hf
  exact absurd hf List.not_mem_nil

lemma listed_of_run (hempty : db.friendships.rows = [])
    (hrun : run (step cfg) (.init db) es = some s) : Listed s.db :=
  run_invariant (I := fun s : State => Listed s.db) (fun _ _ _ hs h => listed_step hs h) hrun
    (listed_empty hempty)

/-- The uids of the friend list after a run. -/
lemma mem_friendUids_run_iff (hempty : db.friendships.rows = [])
    (hrun : run (step cfg) (.init db) es = some s) {uid v : ℤ} :
    v ∈ friendUids s.db uid ↔
      v ≠ uid ∧ SomeStep (step cfg) (State.AcceptsFriend cfg uid v) (.init db) es := by
  have hlisted := listed_of_run hempty hrun
  rw [← areFriends_run_iff hempty hrun, mem_friendUids_iff hlisted, areFriends_iff hlisted]

end Runs

/-! ## A friendship that is shown -/

/-- User 1 accepts the request of user 2. -/
def acceptBody : Json :=
  Json.object [("requestId", .num 1), ("fromUid", .num 2), ("toUid", .num 1),
    ("accept", .bool true)]

lemma wf_acceptBody : acceptBody.Wf := Json.wf_object (by simp [Json.Wf])

/-- User 2 has asked user 1. -/
def askedBySecond : Database :=
  (MySQLMgr.addFriendRequest true MySQLMgr.twoUsers 0 2 1 "hello").2

end WeChat
