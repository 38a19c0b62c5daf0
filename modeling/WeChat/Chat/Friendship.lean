/-
# Friendships and requests

A friendship is inserted by the handler of `ID_AUTH_FRIEND_REQ`, which takes the identifier of
a request and two uids from its body.  It updates the request with this identifier, and an
update that finds no row is a success; the friendship is between the two uids of the body, which
need not be those of the request, nor different.
-/
import WeChat.Chat.Attribution

namespace WeChat

open Transition Relational

namespace LogicSystem

open MySQLMgr

/-- The database, and the identifiers of the requests whose status was set to accepted. -/
structure Friends where
  db : Database
  accepted : List ℤ

/-- A worker handles an `ID_ADD_FRIEND_REQ` or an `ID_AUTH_FRIEND_REQ` of a session. -/
structure FriendEvent where
  env : Env
  mgr : ℤ → Option Conn
  session : Conn
  auth : Bool
  src : Option Json

/-- The fields of an `ID_AUTH_FRIEND_REQ`. -/
def authRequest (src : Option Json) : Option (ℤ × ℤ × ℤ × Bool) := do
  let src ← src
  let requestId ← src.getInt "requestId"
  let fromUid ← src.getInt "fromUid"
  let toUid ← src.getInt "toUid"
  let accepted ← src.getBool "accept"
  some (requestId, fromUid, toUid, accepted)

namespace Friends

/-- The requests that the event sets to accepted. -/
def setAccepted (s : Friends) (e : FriendEvent) : List ℤ :=
  match e.auth, authRequest e.src with
  | true, some (requestId, _, _, true) =>
    if e.env.ok 0 then (s.db.friend_requests.rows.map FriendRequest.id).filter (· = requestId)
    else []
  | _, _ => []

/-- One request. -/
def step (s : Friends) (e : FriendEvent) : Option Friends :=
  let id := if e.auth then idAuthFriendReq else idAddFriendReq
  some ⟨(handleMsg e.env s.db e.mgr e.session id e.src).1, s.accepted ++ s.setAccepted e⟩

/-- A database without friendships; the requests that are accepted in it were set so before. -/
def init (db : Database) (_h : db.friendships.rows = []) : Friends :=
  ⟨db, (db.friend_requests.rows.filter fun r => r.status = .accepted).map FriendRequest.id⟩

end Friends

/-- A request between two users, in one of the two directions. -/
def Between (a b : ℤ) (r : FriendRequest) : Prop :=
  (r.from_uid = a ∧ r.to_uid = b) ∨ (r.from_uid = b ∧ r.to_uid = a)

/-- Every friendship is between two users, and a request between them was accepted. -/
def Friends.Agreed (s : Friends) : Prop :=
  ∀ f ∈ s.db.friendships.rows, f.user1_id ≠ f.user2_id ∧
    ∃ r ∈ s.db.friend_requests.rows, Between f.user1_id f.user2_id r ∧ r.id ∈ s.accepted

/-- `addFriendRelation` inserts a row for the two users. -/
def Befriends (env : Env) (db : Database) (fromUid toUid : ℤ) : Prop :=
  env.ok 1 = true ∧
    (∀ f ∈ db.friendships.rows,
      ¬(f.user1_id = min fromUid toUid ∧ f.user2_id = max fromUid toUid)) ∧
    hasUser db fromUid = true ∧ hasUser db toUid = true ∧
    db.friendships.last + env.gap + 1 ≤ maxInt

/-- The event inserts no friendship of a user with itself, and none between users without a
request that has been accepted or that it accepts. -/
def Friends.KeepsAgreed (s : Friends) (e : FriendEvent) : Prop :=
  ∀ requestId fromUid toUid, e.auth = true →
    authRequest e.src = some (requestId, fromUid, toUid, true) → e.env.ok 0 = true →
    Befriends e.env s.db fromUid toUid →
    fromUid ≠ toUid ∧ ∃ r ∈ s.db.friend_requests.rows,
      Between fromUid toUid r ∧ (r.id = requestId ∨ r.id ∈ s.accepted)

section Step

variable {env : Env} {db : Database} {mgr : ℤ → Option Conn} {session : Conn} {src : Option Json}
  {s s' : Friends} {e : FriendEvent}

lemma handleMsg_addFriend :
    (handleMsg env db mgr session idAddFriendReq src).1 =
      ((addFriend env db mgr session src).getD (db, [])).1 := rfl

lemma handleMsg_authFriend :
    (handleMsg env db mgr session idAuthFriendReq src).1 =
      ((authFriend env db mgr session src).getD (db, [])).1 := rfl

/-- A new request leaves the friendships and the earlier requests alone. -/
lemma addFriendRequest_frame (ok : Bool) (db : Database) (gap : ℕ) (fromUid toUid : ℤ)
    (message : String) :
    (addFriendRequest ok db gap fromUid toUid message).2.friendships = db.friendships ∧
      ∃ new, (addFriendRequest ok db gap fromUid toUid message).2.friend_requests.rows =
        db.friend_requests.rows ++ new := by
  have hsame : ∃ new, db.friend_requests.rows = db.friend_requests.rows ++ new :=
    ⟨[], (List.append_nil _).symm⟩
  rw [addFriendRequest]
  split_ifs
  · exact ⟨rfl, hsame⟩
  · exact ⟨rfl, hsame⟩
  · split
    · next id requests hins =>
      obtain ⟨-, -, -, hrows⟩ := AutoTable.insert_spec hins
      exact ⟨rfl, _, hrows⟩
    · exact ⟨rfl, hsame⟩
  · exact ⟨rfl, hsame⟩
  · exact ⟨rfl, hsame⟩

/-- A request for a friendship adds no friendship and keeps the earlier requests. -/
lemma addFriend_spec :
    (handleMsg env db mgr session idAddFriendReq src).1.friendships = db.friendships ∧
      ∃ new, (handleMsg env db mgr session idAddFriendReq src).1.friend_requests.rows =
        db.friend_requests.rows ++ new := by
  rw [handleMsg_addFriend]
  cases hdone : addFriend env db mgr session src with
  | none => exact ⟨rfl, [], (List.append_nil _).symm⟩
  | some done =>
    simp only [addFriend, Option.bind_eq_bind, Option.bind_eq_some_iff] at hdone
    obtain ⟨body, -, fromUid, -, toUid, -, message, -, hdone⟩ := hdone
    have hdb : done.1 = (addFriendRequest (env.ok 0) db env.gap fromUid toUid message).2 := by
      split_ifs at hdone
      · rw [← Option.some.inj hdone]
      · rw [← Option.some.inj hdone]
    rw [Option.getD_some, hdb]
    exact addFriendRequest_frame _ _ _ _ _ _

/-- The database after the answer to a request. -/
lemma authFriend_spec :
    (handleMsg env db mgr session idAuthFriendReq src).1 =
      match authRequest src with
      | none => db
      | some (requestId, fromUid, toUid, accepted) =>
        let updated := updateFriendRequestStatus (env.ok 0) db requestId accepted
        if updated.1 && accepted then
          (addFriendRelation (env.ok 1) updated.2 env.gap fromUid toUid).2
        else updated.2 := by
  rw [handleMsg_authFriend]
  cases hdone : authFriend env db mgr session src with
  | none =>
    cases hrequest : authRequest src with
    | none => rfl
    | some request =>
      -- a body with these fields is answered
      simp only [authRequest, Option.bind_eq_bind, Option.bind_eq_some_iff] at hrequest
      obtain ⟨body, rfl, requestId, hid, fromUid, hfrom, toUid, hto, accepted, hacc, -⟩ := hrequest
      simp only [authFriend, Option.bind_eq_bind, Option.bind_some, hid, hfrom, hto, hacc] at hdone
      split_ifs at hdone
  | some done =>
    simp only [authFriend, Option.bind_eq_bind, Option.bind_eq_some_iff] at hdone
    obtain ⟨body, rfl, requestId, hid, fromUid, hfrom, toUid, hto, accepted, hacc, hdone⟩ := hdone
    have hrequest : authRequest (some body) = some (requestId, fromUid, toUid, accepted) := by
      simp [authRequest, hid, hfrom, hto, hacc]
    rw [hrequest, Option.getD_some]
    simp only
    split_ifs at hdone ⊢
    all_goals rw [← Option.some.inj hdone]

/-- Setting a status changes neither the users of a request nor its identifier. -/
lemma exists_updated_iff {requestId : ℤ} {accepted : Bool} {P : ℤ → Prop} {a b : ℤ} :
    (∃ r ∈ (updateFriendRequestStatus true db requestId accepted).2.friend_requests.rows,
      Between a b r ∧ P r.id) ↔ ∃ r ∈ db.friend_requests.rows, Between a b r ∧ P r.id := by
  have hsame : ∀ (r : FriendRequest) (status : RequestStatus),
      (Between a b (if r.id = requestId then { r with status := status } else r) ∧
        P (if r.id = requestId then { r with status := status } else r).id) ↔
      (Between a b r ∧ P r.id) := by
    intro r status
    split_ifs
    · exact Iff.rfl
    · exact Iff.rfl
  constructor
  · rintro ⟨_, hmem, hP⟩
    obtain ⟨r, hr, rfl⟩ := List.mem_map.1 hmem
    exact ⟨r, hr, (hsame r _).1 hP⟩
  · rintro ⟨r, hr, hP⟩
    exact ⟨_, List.mem_map.2 ⟨r, hr, rfl⟩, (hsame r _).2 hP⟩

lemma hasUser_min_max {a b : ℤ} : (hasUser db (min a b) && hasUser db (max a b)) = true ↔
    hasUser db a = true ∧ hasUser db b = true := by
  rw [Bool.and_eq_true]
  rcases le_total a b with hle | hle
  · rw [min_eq_left hle, max_eq_right hle]
  · rw [min_eq_right hle, max_eq_left hle, and_comm]

/-- What `addFriendRelation` does: the row of the two users is there already, or it is inserted,
for the smaller uid and the larger, or the call fails. -/
lemma addFriendRelation_cases (env : Env) (db : Database) (fromUid toUid : ℤ) :
    ((env.ok 1 = true ∧ ∃ f ∈ db.friendships.rows,
        f.user1_id = min fromUid toUid ∧ f.user2_id = max fromUid toUid) ∧
      addFriendRelation (env.ok 1) db env.gap fromUid toUid = (true, db)) ∨
    (Befriends env db fromUid toUid ∧ ∃ id friendships,
      addFriendRelation (env.ok 1) db env.gap fromUid toUid =
        (true, { db with friendships := friendships }) ∧
      friendships.rows = db.friendships.rows ++ [⟨id, min fromUid toUid, max fromUid toUid⟩]) ∨
    (¬ (env.ok 1 = true ∧ ∃ f ∈ db.friendships.rows,
        f.user1_id = min fromUid toUid ∧ f.user2_id = max fromUid toUid) ∧
      ¬ Befriends env db fromUid toUid ∧
      addFriendRelation (env.ok 1) db env.gap fromUid toUid = (false, db)) := by
  have hexists : (db.friendships.rows.any fun f =>
      f.user1_id = min fromUid toUid ∧ f.user2_id = max fromUid toUid) = true ↔
      ∃ f ∈ db.friendships.rows,
        f.user1_id = min fromUid toUid ∧ f.user2_id = max fromUid toUid := by
    simp [List.any_eq_true]
  simp only [addFriendRelation]
  split_ifs with hok hfriends hboth
  · exact .inl ⟨⟨hok, hexists.1 hfriends⟩, rfl⟩
  · have hnot : ∀ f ∈ db.friendships.rows,
        ¬(f.user1_id = min fromUid toUid ∧ f.user2_id = max fromUid toUid) := by
      intro f hf hsame
      exact hfriends (hexists.2 ⟨f, hf, hsame⟩)
    obtain ⟨hfrom, hto⟩ := hasUser_min_max.1 hboth
    split
    · next id friendships hins =>
      obtain ⟨-, -, -, hrows⟩ := AutoTable.insert_spec hins
      simp only [AutoTable.insert] at hins
      split_ifs at hins with hmax
      exact .inr (.inl ⟨⟨hok, hnot, hfrom, hto, not_lt.1 hmax⟩, id, friendships, rfl, hrows⟩)
    · next hins =>
      refine .inr (.inr ⟨fun h => hfriends (hexists.2 h.2), fun h => ?_, rfl⟩)
      simp only [AutoTable.insert] at hins
      split_ifs at hins with hmax
      exact absurd h.2.2.2.2 (not_le.2 hmax)
  · refine .inr (.inr ⟨fun h => hfriends (hexists.2 h.2), fun h => ?_, rfl⟩)
    exact hboth (hasUser_min_max.2 ⟨h.2.2.1, h.2.2.2.1⟩)
  · exact .inr (.inr ⟨fun h => hok h.1, fun h => hok h.1, rfl⟩)

/-- A friendship is inserted exactly under the condition, for the smaller uid and the larger. -/
lemma addFriendRelation_spec (env : Env) (db : Database) (fromUid toUid : ℤ) :
    (addFriendRelation (env.ok 1) db env.gap fromUid toUid).2.friend_requests =
        db.friend_requests ∧
      ((Befriends env db fromUid toUid ∧ ∃ id,
        (addFriendRelation (env.ok 1) db env.gap fromUid toUid).2.friendships.rows =
          db.friendships.rows ++ [⟨id, min fromUid toUid, max fromUid toUid⟩]) ∨
      (¬ Befriends env db fromUid toUid ∧
        (addFriendRelation (env.ok 1) db env.gap fromUid toUid).2.friendships =
          db.friendships)) := by
  rcases addFriendRelation_cases env db fromUid toUid with
    ⟨⟨-, f, hf, hsame⟩, heq⟩ | ⟨hinserts, id, friendships, heq, hrows⟩ | ⟨-, hnot, heq⟩
  · rw [heq]
    exact ⟨rfl, .inr ⟨fun h => h.2.1 f hf hsame, rfl⟩⟩
  · rw [heq]
    exact ⟨rfl, .inl ⟨hinserts, id, hrows⟩⟩
  · rw [heq]
    exact ⟨rfl, .inr ⟨hnot, rfl⟩⟩

lemma between_min_max {a b : ℤ} {r : FriendRequest} :
    Between (min a b) (max a b) r ↔ Between a b r := by
  rcases le_total a b with hle | hle
  · rw [min_eq_left hle, max_eq_right hle]
  · rw [min_eq_right hle, max_eq_left hle]
    exact or_comm

lemma min_ne_max_iff {a b : ℤ} : min a b ≠ max a b ↔ a ≠ b := by
  rcases le_total a b with hle | hle
  · rw [min_eq_left hle, max_eq_right hle]
  · rw [min_eq_right hle, max_eq_left hle, ne_comm]

/-- More requests and more accepted ones do not matter. -/
lemma Friends.Agreed.mono {s' : Friends} (h : s.Agreed)
    (hfriends : s'.db.friendships = s.db.friendships)
    (hrequests : ∀ {a b} {P : ℤ → Prop}, (∃ r ∈ s.db.friend_requests.rows, Between a b r ∧ P r.id) →
      ∃ r ∈ s'.db.friend_requests.rows, Between a b r ∧ P r.id)
    (haccepted : ∀ id ∈ s.accepted, id ∈ s'.accepted) : s'.Agreed := by
  intro f hf
  rw [hfriends] at hf
  obtain ⟨hne, r, hr, hbetween, hid⟩ := h f hf
  exact ⟨hne, hrequests ⟨r, hr, hbetween, haccepted _ hid⟩⟩

lemma mem_setAccepted {requestId fromUid toUid : ℤ} {r : FriendRequest} (hauth : e.auth = true)
    (hrequest : authRequest e.src = some (requestId, fromUid, toUid, true))
    (hok : e.env.ok 0 = true) (hr : r ∈ s.db.friend_requests.rows) :
    r.id ∈ s.accepted ++ s.setAccepted e ↔ r.id = requestId ∨ r.id ∈ s.accepted := by
  have hmem : r.id ∈ s.setAccepted e ↔ r.id = requestId := by
    simp only [Friends.setAccepted, hauth, hrequest, hok, if_true, List.mem_filter,
      decide_eq_true_eq]
    exact and_iff_right (List.mem_map_of_mem hr)
  rw [List.mem_append, hmem, or_comm]

/-- An answer that accepts no request leaves every friendship as it is. -/
lemma agreed_of_not_accepting {db' : Database} {new : List ℤ} (h : s.Agreed)
    (hdb : db' = s.db ∨ ∃ requestId accepted,
      db' = (updateFriendRequestStatus true s.db requestId accepted).2) :
    Friends.Agreed ⟨db', s.accepted ++ new⟩ := by
  have haccepted : ∀ id ∈ s.accepted, id ∈ s.accepted ++ new := fun _ =>
    List.mem_append_left _
  rcases hdb with rfl | ⟨requestId, accepted, rfl⟩
  · exact h.mono rfl id haccepted
  · exact h.mono rfl exists_updated_iff.2 haccepted

/-- An answer that accepts the request: the friendship it inserts has to be between different
users with an accepted request. -/
lemma agreed_accept_iff {requestId fromUid toUid : ℤ} (h : s.Agreed)
    (he : s.step e = some s') (hauth : e.auth = true)
    (hrequest : authRequest e.src = some (requestId, fromUid, toUid, true))
    (hok : e.env.ok 0 = true) :
    s'.Agreed ↔ (Befriends e.env s.db fromUid toUid → fromUid ≠ toUid ∧
      ∃ r ∈ s.db.friend_requests.rows,
        Between fromUid toUid r ∧ (r.id = requestId ∨ r.id ∈ s.accepted)) := by
  have hdb : s'.db = (addFriendRelation (e.env.ok 1)
      (updateFriendRequestStatus true s.db requestId true).2 e.env.gap fromUid toUid).2 := by
    rw [← Option.some.inj he]
    simp only [hauth, if_true, authFriend_spec, hrequest, hok]
    rfl
  have haccepted : s'.accepted = s.accepted ++ s.setAccepted e := by
    rw [← Option.some.inj he]
  obtain ⟨hrequests, hrelation⟩ := addFriendRelation_spec e.env
    (updateFriendRequestStatus true s.db requestId true).2 fromUid toUid
  -- a request between two users that is accepted now
  have hnow : ∀ a b, (∃ r ∈ s'.db.friend_requests.rows, Between a b r ∧ r.id ∈ s'.accepted) ↔
      ∃ r ∈ s.db.friend_requests.rows, Between a b r ∧ (r.id = requestId ∨ r.id ∈ s.accepted) := by
    intro a b
    rw [hdb, hrequests, haccepted, exists_updated_iff]
    refine exists_congr fun r => and_congr_right fun hr => and_congr_right fun _ => ?_
    exact mem_setAccepted hauth hrequest hok hr
  have hold : ∀ f ∈ s.db.friendships.rows, f.user1_id ≠ f.user2_id ∧
      ∃ r ∈ s'.db.friend_requests.rows, Between f.user1_id f.user2_id r ∧ r.id ∈ s'.accepted := by
    intro f hf
    obtain ⟨hne, r, hr, hbetween, hid⟩ := h f hf
    exact ⟨hne, (hnow _ _).2 ⟨r, hr, hbetween, .inr hid⟩⟩
  rcases hrelation with ⟨hinserts, id, hrows⟩ | ⟨hnot, hsame⟩
  · have hinserts' : Befriends e.env s.db fromUid toUid := hinserts
    have hnew : s'.db.friendships.rows =
        s.db.friendships.rows ++ [⟨id, min fromUid toUid, max fromUid toUid⟩] := by
      rw [hdb]
      exact hrows
    constructor
    · intro hagreed _
      obtain ⟨hne, hbetween⟩ := hagreed ⟨id, min fromUid toUid, max fromUid toUid⟩
        (by rw [hnew]; exact List.mem_append_right _ (List.mem_singleton_self _))
      refine ⟨min_ne_max_iff.1 hne, ?_⟩
      obtain ⟨r, hr, hr', hP⟩ := (hnow _ _).1 hbetween
      exact ⟨r, hr, between_min_max.1 hr', hP⟩
    · intro hkeeps f hf
      rw [hnew] at hf
      rcases List.mem_append.1 hf with hf | hf
      · exact hold f hf
      · obtain rfl := List.mem_singleton.1 hf
        obtain ⟨hne, r, hr, hbetween, hP⟩ := hkeeps hinserts'
        exact ⟨min_ne_max_iff.2 hne, (hnow _ _).2 ⟨r, hr, between_min_max.2 hbetween, hP⟩⟩
  · have hnot' : ¬ Befriends e.env s.db fromUid toUid := hnot
    refine iff_of_true ?_ fun hinserts => absurd hinserts hnot'
    intro f hf
    rw [hdb, hsame] at hf
    exact hold f hf

/-- After a request that meets its condition, and after no other, every friendship has an
accepted request. -/
lemma agreed_step_iff (h : s.Agreed) (he : s.step e = some s') : s'.Agreed ↔ s.KeepsAgreed e := by
  cases hauth : e.auth with
  | false =>
    refine iff_of_true ?_ fun _ _ _ htrue => nomatch hauth.symm.trans htrue
    obtain ⟨hfriends, new, hrequests⟩ : s'.db.friendships = s.db.friendships ∧
        ∃ new, s'.db.friend_requests.rows = s.db.friend_requests.rows ++ new := by
      rw [← Option.some.inj he]
      simp only [hauth]
      exact addFriend_spec
    refine h.mono hfriends (fun ⟨r, hr, hP⟩ => ⟨r, ?_, hP⟩) fun id hid => ?_
    · rw [hrequests]
      exact List.mem_append_left _ hr
    · rw [← Option.some.inj he]
      exact List.mem_append_left _ hid
  | true =>
    by_cases haccepts : ∃ requestId fromUid toUid,
        authRequest e.src = some (requestId, fromUid, toUid, true) ∧ e.env.ok 0 = true
    · obtain ⟨requestId, fromUid, toUid, hrequest, hok⟩ := haccepts
      rw [agreed_accept_iff h he hauth hrequest hok]
      constructor
      · intro hkeeps requestId' fromUid' toUid' _ hrequest' _ hinserts
        obtain ⟨rfl, rfl, rfl, -⟩ : requestId = requestId' ∧ fromUid = fromUid' ∧
            toUid = toUid' ∧ true = true := by
          simpa using hrequest.symm.trans hrequest'
        exact hkeeps hinserts
      · intro hkeeps
        exact hkeeps requestId fromUid toUid hauth hrequest hok
    · have hvacuous : s.KeepsAgreed e := fun _ _ _ _ hrequest hok =>
        absurd ⟨_, _, _, hrequest, hok⟩ haccepts
      refine iff_of_true ?_ hvacuous
      rw [← Option.some.inj he]
      refine agreed_of_not_accepting h ?_
      simp only [hauth, if_true, authFriend_spec]
      cases hrequest : authRequest e.src with
      | none => exact .inl rfl
      | some request =>
        obtain ⟨requestId, fromUid, toUid, accepted⟩ := request
        cases hok : e.env.ok 0 with
        | false => exact .inl rfl
        | true =>
          cases accepted with
          | false => exact .inr ⟨requestId, false, rfl⟩
          | true => exact absurd ⟨_, _, _, hrequest, hok⟩ haccepts

end Step

/-! ## Runs -/

section Runs

variable {db : Database} {s : Friends} {es : List FriendEvent}

lemma agreed_init (h : db.friendships.rows = []) : (Friends.init db h).Agreed := by
  intro f hf
  have hnone : f ∈ db.friendships.rows := hf
  rw [h] at hnone
  exact absurd hnone List.not_mem_nil

/-- **In every state of a run from a database without friendships each friendship is between
two users with an accepted request, if and only if every step of the run keeps it so.** -/
theorem agreed_iff (h : db.friendships.rows = [])
    (hrun : run Friends.step (.init db h) es = some s) :
    AllStates Friends.step Friends.Agreed (.init db h) es ↔
      AllSteps Friends.step Friends.KeepsAgreed (.init db h) es :=
  allStates_iff_allSteps (I := fun _ => True) (fun _ _ _ _ _ => trivial)
    (fun _ _ _ _ hagreed he => agreed_step_iff hagreed he) hrun trivial (agreed_init h)

/-- A step of the servers in which no worker handles another request leaves the database alone
or is such a step. -/
theorem friends_refines {cfg : Config} {t t' : State} {e : Event} (h : step cfg t e = some t')
    (honly : ∀ S i alive env node queue, e = .work S i alive env → t.queues S i = node :: queue →
      node._id = idAddFriendReq ∨ node._id = idAuthFriendReq) (accepted : List ℤ) :
    ∃ es accepted', run Friends.step ⟨t.db, accepted⟩ es = some ⟨t'.db, accepted'⟩ := by
  rcases db_step h with hdb | ⟨S, i, alive, env, node, queue, he, hqueue, hdb⟩
  · exact ⟨[], accepted, by rw [hdb]; rfl⟩
  · rw [hdb]
    rcases honly S i alive env node queue he hqueue with hid | hid
    · rw [hid]
      exact ⟨[⟨env, t.reg.mgr S, node._session, false, cfg.codec.parse node._body⟩], _, rfl⟩
    · rw [hid]
      exact ⟨[⟨env, t.reg.mgr S, node._session, true, cfg.codec.parse node._body⟩], _, rfl⟩

/-- A request of user 1 for a friendship with user 2. -/
def askEvent : FriendEvent :=
  ⟨allSucceed, fun _ => none, client₁, false, some (.object
    [("fromUid", .num 1), ("toUid", .num 2), ("message", .str "hello")])⟩

/-- An answer that accepts the request with the given identifier. -/
def acceptEvent (requestId : ℤ) : FriendEvent :=
  ⟨allSucceed, fun _ => none, client₂, true, some (.object
    [("requestId", .num requestId), ("fromUid", .num 1), ("toUid", .num 2),
      ("accept", .bool true)])⟩

/-- User 1 asks, and user 2 accepts the request. -/
theorem agreed_askedAndAccepted :
    AllStates Friends.step Friends.Agreed (.init MySQLMgr.twoUsers rfl)
      [askEvent, acceptEvent 1] := by
  refine (agreed_iff rfl rfl).2 ⟨fun _ _ _ hauth => (nomatch hauth), fun s hs => ?_⟩
  obtain rfl := Option.some.inj hs
  refine ⟨fun requestId fromUid toUid _ hrequest _ _ => ?_, fun _ _ => trivial⟩
  have hfields : authRequest (acceptEvent 1).src = some (1, 1, 2, true) := by decide
  obtain ⟨rfl, rfl, rfl, -⟩ : 1 = requestId ∧ 1 = fromUid ∧ 2 = toUid ∧ true = true := by
    simpa using hfields.symm.trans hrequest
  have hrows : ((handleMsg allSucceed MySQLMgr.twoUsers (fun _ => none) client₁ idAddFriendReq
      askEvent.src).1).friend_requests.rows = [⟨1, 1, 2, "hello", .pending⟩] := rfl
  exact ⟨by decide, _, hrows ▸ List.mem_singleton_self _, .inl ⟨rfl, rfl⟩, .inl rfl⟩

/-- User 2 accepts a request that does not exist, and is then a friend of user 1. -/
theorem not_agreed_noRequest :
    ∃ s, run Friends.step (.init MySQLMgr.twoUsers rfl) [acceptEvent 7] = some s ∧
      s.db.friendships.rows = [⟨1, 1, 2⟩] ∧ s.db.friend_requests.rows = [] ∧ ¬ s.Agreed := by
  refine ⟨_, rfl, rfl, rfl, fun hagreed => ?_⟩
  obtain ⟨-, r, hr, -⟩ := hagreed ⟨1, 1, 2⟩ (List.mem_singleton_self _)
  exact absurd hr List.not_mem_nil

end Runs

end LogicSystem

end WeChat
