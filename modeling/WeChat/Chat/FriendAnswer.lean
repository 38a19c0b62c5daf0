/-
# The answer to a friend request

The handler of `ID_AUTH_FRIEND_REQ` sets the status of a request and, when the request is
accepted, inserts a friendship.  These are two statements in two sessions and no transaction:
the first one is not taken back when the second fails, and it is a success also when it finds no
row.  So the answer agrees with the tables under a condition on the request and the tables.
-/
import WeChat.Chat.Friendship

namespace WeChat

open Relational

namespace LogicSystem

open MySQLMgr

/-- Two users are friends; a row has them in either order. -/
def AreFriends (db : Database) (a b : ℤ) : Prop :=
  ∃ f ∈ db.friendships.rows,
    (f.user1_id = a ∧ f.user2_id = b) ∨ (f.user1_id = b ∧ f.user2_id = a)

/-- The database with the column `friend_requests.response_time`, by the key of the row. -/
structure FriendTables where
  db : Database
  response_time : ℤ → Option String

/-- The two calls of `MySQLMgr` of the handler. -/
def carryOut (env : Env) (db : Database) (requestId fromUid toUid : ℤ) (accepted : Bool) :
    Bool × Database :=
  let updated := updateFriendRequestStatus (env.ok 0) db requestId accepted
  if updated.1 && accepted then addFriendRelation (env.ok 1) updated.2 env.gap fromUid toUid
  else updated

/-- The column `response_time` after the `UPDATE` of `updateFriendRequestStatus`. -/
def FriendTables.respond (t : FriendTables) (env : Env) (requestId : ℤ) : ℤ → Option String :=
  if env.ok 0 ∧ ∃ r ∈ t.db.friend_requests.rows, r.id = requestId then
    Function.update t.response_time requestId (some env.now)
  else t.response_time

/-- A worker handles an `ID_AUTH_FRIEND_REQ`. -/
def FriendTables.answer (t : FriendTables) (env : Env) (mgr : ℤ → Option Conn) (session : Conn)
    (src : Option Json) : FriendTables × List Output :=
  let done := handleMsg env t.db mgr session idAuthFriendReq src
  (⟨done.1, match authRequest src with
    | some (requestId, _) => t.respond env requestId
    | none => t.response_time⟩, done.2)

/-- The outputs answer the request with an error code. -/
def AnswersWith (session : Conn) (outputs : List Output) (code : ℤ) : Prop :=
  ∃ msg, Output.send session idAuthFriendRsp msg ∈ outputs ∧ msg.get "error" = some (.num code)

/-- The value of the status that a decision stands for. -/
def decisionStatus (accepted : Bool) : RequestStatus := if accepted then .accepted else .rejected

/-- The answer agrees with what was done: nothing when it is an error, and everything when it is
a success. -/
structure AnswersAtomically (t : FriendTables) (env : Env) (mgr : ℤ → Option Conn)
    (session : Conn) (src : Option Json) : Prop where
  error : ∀ code, code ≠ ErrorCodes.success.code →
    AnswersWith session (t.answer env mgr session src).2 code →
    (t.answer env mgr session src).1.db.friend_requests = t.db.friend_requests ∧
      (t.answer env mgr session src).1.response_time = t.response_time ∧
      (t.answer env mgr session src).1.db.friendships = t.db.friendships
  success : AnswersWith session (t.answer env mgr session src).2 ErrorCodes.success.code →
    ∃ requestId fromUid toUid accepted,
      authRequest src = some (requestId, fromUid, toUid, accepted) ∧
      ∃ r ∈ (t.answer env mgr session src).1.db.friend_requests.rows, r.id = requestId ∧
        r.status = decisionStatus accepted ∧
        (accepted = true → AreFriends (t.answer env mgr session src).1.db r.from_uid r.to_uid)

/-- `addFriendRelation` succeeds: the row is there already, or it is inserted. -/
def Relates (env : Env) (db : Database) (fromUid toUid : ℤ) : Prop :=
  (env.ok 1 = true ∧ ∃ f ∈ db.friendships.rows,
    f.user1_id = min fromUid toUid ∧ f.user2_id = max fromUid toUid) ∨
  Befriends env db fromUid toUid

/-- The effect of an `UPDATE` that is executed fits what comes after it: when the request is
rejected, or `addFriendRelation` succeeds, it finds a row, and the friendship is that of the
row; when `addFriendRelation` fails, it changes nothing. -/
structure FriendTables.FitsRequest (t : FriendTables) (env : Env) (requestId fromUid toUid : ℤ)
    (accepted : Bool) : Prop where
  found : (accepted = true → Relates env t.db fromUid toUid) →
    ∃ r ∈ t.db.friend_requests.rows, r.id = requestId ∧
      (accepted = true → Between fromUid toUid r ∨ AreFriends t.db r.from_uid r.to_uid)
  unchanged : accepted = true → ¬ Relates env t.db fromUid toUid →
    ∀ r ∈ t.db.friend_requests.rows, r.id = requestId →
      r.status = .accepted ∧ t.response_time requestId = some env.now

/-- The body has not all the fields of a request, or the `UPDATE` fails, or its effect fits. -/
def FriendTables.Fits (t : FriendTables) (env : Env) (src : Option Json) : Prop :=
  ∀ requestId fromUid toUid accepted,
    authRequest src = some (requestId, fromUid, toUid, accepted) → env.ok 0 = true →
    t.FitsRequest env requestId fromUid toUid accepted

section Answer

variable {env : Env} {db : Database} {mgr : ℤ → Option Conn} {session : Conn} {src : Option Json}
  {t : FriendTables} {requestId fromUid toUid : ℤ} {accepted : Bool}

variable (env db mgr session) in
/-- What the handler does with a body that has its fields. -/
lemma handleMsg_authRequest
    (hrequest : authRequest src = some (requestId, fromUid, toUid, accepted)) :
    ∃ note, (∀ msg, note ≠ Output.send session idAuthFriendRsp msg) ∧
      handleMsg env db mgr session idAuthFriendReq src =
        ((carryOut env db requestId fromUid toUid accepted).2,
          if (carryOut env db requestId fromUid toUid accepted).1 then
            [note, answerError session idAuthFriendRsp .success]
          else [answerError session idAuthFriendRsp .errNetwork]) := by
  simp only [authRequest, Option.bind_eq_bind, Option.bind_eq_some_iff] at hrequest
  obtain ⟨body, rfl, id, hid, uid, hfrom, uid', hto, acc, hacc, hsome⟩ := hrequest
  obtain ⟨rfl, rfl, rfl, rfl⟩ : id = requestId ∧ uid = fromUid ∧ uid' = toUid ∧
      acc = accepted := by simpa using hsome
  obtain ⟨notifyJson, redisMsg, hdone⟩ : ∃ notifyJson redisMsg,
      authFriend env db mgr session (some body) =
        if (carryOut env db id uid uid' acc).1 then
          some ((carryOut env db id uid uid' acc).2,
            [notifyOrPublish mgr uid idNotifyAuthFriendRsp notifyJson redisMsg,
              answerError session idAuthFriendRsp .success])
        else some ((carryOut env db id uid uid' acc).2,
          [answerError session idAuthFriendRsp .errNetwork]) := by
    simp only [authFriend, Option.bind_eq_bind, Option.bind_some, hid, hfrom, hto, hacc]
    by_cases hsuccess : (carryOut env db id uid uid' acc).1 = true
    · simp only [if_pos hsuccess]
      exact ⟨_, _, if_pos hsuccess⟩
    · simp only [if_neg hsuccess]
      exact ⟨.null, .null, if_neg hsuccess⟩
  refine ⟨notifyOrPublish mgr uid idNotifyAuthFriendRsp notifyJson redisMsg, fun msg => ?_, ?_⟩
  · rw [notifyOrPublish]
    cases mgr uid <;> simp [idNotifyAuthFriendRsp, idAuthFriendRsp]
  · show (authFriend env db mgr session (some body)).getD (db, []) = _
    rw [hdone]
    split_ifs <;> rfl

/-- A body without its fields is not answered. -/
lemma handleMsg_of_authRequest_none (hrequest : authRequest src = none) :
    handleMsg env db mgr session idAuthFriendReq src = (db, []) := by
  have hnone : authFriend env db mgr session src = none := by
    rw [Option.eq_none_iff_forall_ne_some]
    intro done hdone
    simp only [authFriend, Option.bind_eq_bind, Option.bind_eq_some_iff] at hdone
    obtain ⟨body, rfl, requestId, hid, fromUid, hfrom, toUid, hto, accepted, hacc, -⟩ := hdone
    simp [authRequest, hid, hfrom, hto, hacc] at hrequest
  show (authFriend env db mgr session src).getD (db, []) = _
  rw [hnone, Option.getD_none]

lemma not_answersWith_nil {code : ℤ} : ¬ AnswersWith session [] code :=
  fun ⟨_, hmem, _⟩ => absurd hmem List.not_mem_nil

/-- The error code of the answer is 0 exactly when both calls succeed. -/
lemma answersWith_iff (hrequest : authRequest src = some (requestId, fromUid, toUid, accepted))
    {code : ℤ} :
    AnswersWith session (handleMsg env db mgr session idAuthFriendReq src).2 code ↔
      code = if (carryOut env db requestId fromUid toUid accepted).1 then ErrorCodes.success.code
        else ErrorCodes.errNetwork.code := by
  obtain ⟨note, hnote, hdone⟩ := handleMsg_authRequest env db mgr session hrequest
  have hget : ∀ error : ErrorCodes,
      (Json.object [("error", .num error.code)]).get "error" = some (.num error.code) := by
    intro error
    simp [Json.get_object]
  -- the notification is no answer, and the answer holds the error code
  have hanswer : ∀ (error : ErrorCodes) (outputs : List Output),
      (∀ o ∈ outputs, o = note ∨ o = answerError session idAuthFriendRsp error) →
      answerError session idAuthFriendRsp error ∈ outputs →
      (AnswersWith session outputs code ↔ code = error.code) := by
    intro error outputs hall hmem
    constructor
    · rintro ⟨msg, hmsg, hcode⟩
      rcases hall _ hmsg with heq | heq
      · exact absurd heq.symm (hnote msg)
      · obtain rfl := (Output.send.inj heq).2.2
        rw [hget] at hcode
        exact (Json.num.inj (Option.some.inj hcode)).symm
    · rintro rfl
      exact ⟨_, hmem, hget error⟩
  rw [hdone]
  split_ifs
  · exact hanswer .success _ (by simp) (by simp)
  · exact hanswer .errNetwork _ (by simp) (by simp)

/-- A row for the two users makes them friends. -/
lemma row_iff_sameUsers {a b x y : ℤ} :
    ((min a b = x ∧ max a b = y) ∨ (min a b = y ∧ max a b = x)) ↔
      ((a = x ∧ b = y) ∨ (a = y ∧ b = x)) := by
  rcases le_total a b with hle | hle
  · rw [min_eq_left hle, max_eq_right hle]
  · rw [min_eq_right hle, max_eq_left hle]
    constructor
    all_goals
      rintro (⟨h₁, h₂⟩ | ⟨h₁, h₂⟩)
      · exact .inr ⟨h₂, h₁⟩
      · exact .inl ⟨h₂, h₁⟩

/-- After `addFriendRelation` has succeeded the two users are friends, and nobody else is who was
not. -/
lemma addFriendRelation_of_relates (h : Relates env db fromUid toUid) :
    (addFriendRelation (env.ok 1) db env.gap fromUid toUid).1 = true ∧
      (addFriendRelation (env.ok 1) db env.gap fromUid toUid).2.friend_requests =
        db.friend_requests ∧
      ∀ a b, AreFriends (addFriendRelation (env.ok 1) db env.gap fromUid toUid).2 a b ↔
        ((fromUid = a ∧ toUid = b) ∨ (fromUid = b ∧ toUid = a)) ∨ AreFriends db a b := by
  rcases addFriendRelation_cases env db fromUid toUid with
    ⟨⟨-, f, hf, h₁, h₂⟩, heq⟩ | ⟨-, id, friendships, heq, hrows⟩ | ⟨hnorow, hnot, -⟩
  · rw [heq]
    refine ⟨rfl, rfl, fun a b => (or_iff_right_of_imp fun hsame => ⟨f, hf, ?_⟩).symm⟩
    rw [h₁, h₂]
    exact row_iff_sameUsers.2 hsame
  · rw [heq]
    refine ⟨rfl, rfl, fun a b => ?_⟩
    rw [← row_iff_sameUsers, or_comm]
    simp only [AreFriends, hrows, List.mem_append, List.mem_singleton, or_and_right, exists_or,
      exists_eq_left]
  · exact absurd h (not_or.2 ⟨hnorow, hnot⟩)

lemma addFriendRelation_of_not_relates (h : ¬ Relates env db fromUid toUid) :
    addFriendRelation (env.ok 1) db env.gap fromUid toUid = (false, db) := by
  rcases addFriendRelation_cases env db fromUid toUid with
    ⟨hrow, -⟩ | ⟨hinserts, -⟩ | ⟨-, -, heq⟩
  · exact absurd (.inl hrow) h
  · exact absurd (.inr hinserts) h
  · exact heq

lemma carryOut_of_not_ok (hok : env.ok 0 = false) :
    carryOut env db requestId fromUid toUid accepted = (false, db) := by
  simp [carryOut, updateFriendRequestStatus, hok]

variable (requestId) in
/-- The `UPDATE` is executed, and nothing fails after it. -/
lemma carryOut_done (hok : env.ok 0 = true)
    (h : accepted = true → Relates env db fromUid toUid) :
    (carryOut env db requestId fromUid toUid accepted).1 = true ∧
      (carryOut env db requestId fromUid toUid accepted).2.friend_requests =
        (updateFriendRequestStatus true db requestId accepted).2.friend_requests ∧
      (accepted = true → ∀ a b,
        AreFriends (carryOut env db requestId fromUid toUid accepted).2 a b ↔
          ((fromUid = a ∧ toUid = b) ∨ (fromUid = b ∧ toUid = a)) ∨ AreFriends db a b) := by
  cases accepted with
  | false =>
    rw [carryOut, hok]
    exact ⟨rfl, rfl, fun hfalse => nomatch hfalse⟩
  | true =>
    -- the `UPDATE` does not touch what `addFriendRelation` looks at
    have hrelates : Relates env (updateFriendRequestStatus true db requestId true).2 fromUid
        toUid := h rfl
    obtain ⟨hdone, hrequests, hfriends⟩ := addFriendRelation_of_relates hrelates
    rw [carryOut, hok]
    exact ⟨hdone, hrequests, fun _ => hfriends⟩

/-- The `UPDATE` is executed, and `addFriendRelation` fails. -/
lemma carryOut_failed (hok : env.ok 0 = true) (h : ¬ Relates env db fromUid toUid) :
    carryOut env db requestId fromUid toUid true =
      (false, (updateFriendRequestStatus true db requestId true).2) := by
  have hrelates : ¬ Relates env (updateFriendRequestStatus true db requestId true).2 fromUid
      toUid := h
  rw [carryOut, hok]
  exact addFriendRelation_of_not_relates hrelates

/-- The addressed row after the `UPDATE`. -/
lemma exists_decided_iff {P : ℤ → ℤ → Prop} :
    (∃ r ∈ (updateFriendRequestStatus true db requestId accepted).2.friend_requests.rows,
      r.id = requestId ∧ r.status = decisionStatus accepted ∧ P r.from_uid r.to_uid) ↔
      ∃ r ∈ db.friend_requests.rows, r.id = requestId ∧ P r.from_uid r.to_uid := by
  constructor
  · rintro ⟨_, hmem, hid, -, hP⟩
    obtain ⟨r, hr, rfl⟩ := List.mem_map.1 hmem
    by_cases heq : r.id = requestId
    · rw [if_pos heq] at hP
      exact ⟨r, hr, heq, hP⟩
    · rw [if_neg heq] at hid
      exact absurd hid heq
  · rintro ⟨r, hr, hid, hP⟩
    refine ⟨_, List.mem_map.2 ⟨r, hr, rfl⟩, ?_⟩
    rw [if_pos hid]
    exact ⟨hid, rfl, hP⟩

/-- The `UPDATE` changes nothing exactly when the row has the status already, or is not there. -/
lemma updateFriendRequestStatus_eq_iff :
    (updateFriendRequestStatus true db requestId true).2.friend_requests = db.friend_requests ↔
      ∀ r ∈ db.friend_requests.rows, r.id = requestId → r.status = .accepted := by
  refine AutoTable.update_eq_self_iff.trans (forall₂_congr fun r _ => ?_)
  by_cases hid : r.id = requestId
  · rw [if_pos hid]
    constructor
    · intro hsame _
      rw [← hsame]
      rfl
    · intro hstatus
      obtain ⟨id, from_uid, to_uid, message, status⟩ := r
      obtain rfl : status = .accepted := hstatus hid
      rfl
  · rw [if_neg hid]
    exact iff_of_true rfl fun heq => absurd heq hid

/-- Nor does it change the column `response_time`, exactly when the row has this time already, or
is not there. -/
lemma respond_eq_iff (hok : env.ok 0 = true) :
    t.respond env requestId = t.response_time ↔
      ∀ r ∈ t.db.friend_requests.rows, r.id = requestId →
        t.response_time requestId = some env.now := by
  rw [FriendTables.respond]
  by_cases hrow : ∃ r ∈ t.db.friend_requests.rows, r.id = requestId
  · rw [if_pos ⟨hok, hrow⟩, Function.update_eq_self_iff, eq_comm]
    obtain ⟨r, hr, hid⟩ := hrow
    exact ⟨fun htime _ _ _ => htime, fun h => h r hr hid⟩
  · rw [if_neg fun h => hrow h.2]
    exact iff_of_true rfl fun r hr hid => absurd ⟨r, hr, hid⟩ hrow

/-- What a body with its fields is answered, and what was done. -/
lemma answersAtomically_of_request
    (hrequest : authRequest src = some (requestId, fromUid, toUid, accepted)) :
    AnswersAtomically t env mgr session src ↔
      if (carryOut env t.db requestId fromUid toUid accepted).1 then
        ∃ r ∈ (carryOut env t.db requestId fromUid toUid accepted).2.friend_requests.rows,
          r.id = requestId ∧ r.status = decisionStatus accepted ∧ (accepted = true →
            AreFriends (carryOut env t.db requestId fromUid toUid accepted).2 r.from_uid r.to_uid)
      else
        (carryOut env t.db requestId fromUid toUid accepted).2.friend_requests =
            t.db.friend_requests ∧ t.respond env requestId = t.response_time ∧
          (carryOut env t.db requestId fromUid toUid accepted).2.friendships =
            t.db.friendships := by
  obtain ⟨note, -, hdone⟩ := handleMsg_authRequest env t.db mgr session hrequest
  have hanswer : t.answer env mgr session src =
      (⟨(carryOut env t.db requestId fromUid toUid accepted).2, t.respond env requestId⟩,
        (handleMsg env t.db mgr session idAuthFriendReq src).2) := by
    rw [FriendTables.answer, hdone, hrequest]
  have hcode : ∀ code, AnswersWith session (t.answer env mgr session src).2 code ↔ _ :=
    fun code => answersWith_iff hrequest
  split_ifs at hcode ⊢ with hsuccess
  · constructor
    · intro h
      obtain ⟨requestId', fromUid', toUid', accepted', hsome, hrow⟩ := h.success ((hcode _).2 rfl)
      obtain ⟨rfl, rfl, rfl, rfl⟩ : requestId = requestId' ∧ fromUid = fromUid' ∧
          toUid = toUid' ∧ accepted = accepted' := by
        simpa using hrequest.symm.trans hsome
      rwa [hanswer] at hrow
    · intro hrow
      refine ⟨fun code hne h => absurd ((hcode code).1 h) hne, fun _ => ?_⟩
      exact ⟨requestId, fromUid, toUid, accepted, hrequest, by rwa [hanswer]⟩
  · constructor
    · intro h
      have hsame := h.error _ (by decide) ((hcode _).2 rfl)
      rwa [hanswer] at hsame
    · intro hsame
      refine ⟨fun _ _ _ => by rwa [hanswer], fun h => ?_⟩
      exact absurd ((hcode _).1 h) (by decide)

/-- The answer agrees with the tables exactly when the `UPDATE` fails or its effect fits. -/
lemma answersAtomically_iff_fitsRequest
    (hrequest : authRequest src = some (requestId, fromUid, toUid, accepted)) :
    AnswersAtomically t env mgr session src ↔
      (env.ok 0 = true → t.FitsRequest env requestId fromUid toUid accepted) := by
  rw [answersAtomically_of_request hrequest]
  cases hok : env.ok 0 with
  | false =>
    rw [carryOut_of_not_ok hok, if_neg (by simp)]
    refine iff_of_true ⟨rfl, ?_, rfl⟩ fun hfalse => nomatch hfalse
    rw [FriendTables.respond, hok, if_neg (by simp)]
  | true =>
    refine Iff.trans ?_ (forall_prop_of_true rfl).symm
    by_cases hfails : accepted = true ∧ ¬ Relates env t.db fromUid toUid
    · obtain ⟨rfl, hnot⟩ := hfails
      rw [carryOut_failed hok hnot, if_neg (by simp)]
      simp only [updateFriendRequestStatus_eq_iff, respond_eq_iff hok]
      constructor
      · rintro ⟨hstatus, htime, -⟩
        exact ⟨fun hrelates => absurd (hrelates rfl) hnot,
          fun _ _ r hr hid => ⟨hstatus r hr hid, htime r hr hid⟩⟩
      · intro h
        have hunchanged := h.unchanged rfl hnot
        exact ⟨fun r hr hid => (hunchanged r hr hid).1, fun r hr hid => (hunchanged r hr hid).2,
          rfl⟩
    · have hrelates : accepted = true → Relates env t.db fromUid toUid := fun hacc =>
        by_contra fun hnot => hfails ⟨hacc, hnot⟩
      obtain ⟨hsuccess, hrequests, hfriends⟩ := carryOut_done requestId hok hrelates
      rw [if_pos hsuccess, hrequests]
      refine (exists_decided_iff (P := fun a b => accepted = true →
        AreFriends (carryOut env t.db requestId fromUid toUid accepted).2 a b)).trans ?_
      have hbetween : ∀ r : FriendRequest, (accepted = true →
          AreFriends (carryOut env t.db requestId fromUid toUid accepted).2 r.from_uid r.to_uid) ↔
          (accepted = true → Between fromUid toUid r ∨ AreFriends t.db r.from_uid r.to_uid) := by
        intro r
        refine forall_congr' fun hacc => ?_
        rw [hfriends hacc, Between]
        refine or_congr_left (or_congr ?_ ?_)
        · exact and_congr eq_comm eq_comm
        · exact (and_congr eq_comm eq_comm).trans and_comm
      simp only [hbetween]
      constructor
      · intro hfound
        exact ⟨fun _ => hfound, fun hacc hnot => absurd (hrelates hacc) hnot⟩
      · intro h
        exact h.found hrelates

end Answer

/-- **The answer to an `ID_AUTH_FRIEND_REQ` agrees with the tables if and only if the effect of
its `UPDATE`, when it is executed, fits the success or the failure of what comes after it.** -/
theorem answersAtomically_iff {t : FriendTables} {env : Env} {mgr : ℤ → Option Conn}
    {session : Conn} {src : Option Json} :
    AnswersAtomically t env mgr session src ↔ t.Fits env src := by
  cases hrequest : authRequest src with
  | none =>
    have hnone : ∀ code, ¬ AnswersWith session (t.answer env mgr session src).2 code := by
      intro code
      rw [FriendTables.answer, handleMsg_of_authRequest_none hrequest]
      exact not_answersWith_nil
    refine iff_of_true ⟨fun code _ h => absurd h (hnone code), fun h => absurd h (hnone _)⟩ ?_
    intro requestId fromUid toUid accepted hsome
    exact nomatch hrequest.symm.trans hsome
  | some request =>
    obtain ⟨requestId, fromUid, toUid, accepted⟩ := request
    rw [answersAtomically_iff_fitsRequest hrequest]
    constructor
    · intro h requestId' fromUid' toUid' accepted' hsome
      obtain ⟨rfl, rfl, rfl, rfl⟩ : requestId = requestId' ∧ fromUid = fromUid' ∧
          toUid = toUid' ∧ accepted = accepted' := by
        simpa using hrequest.symm.trans hsome
      exact h
    · intro h
      exact h requestId fromUid toUid accepted hrequest

/-- The second of the two calls of the handler fails. -/
def relationFails : Env := { allSucceed with ok := fun i => i ≠ 1 }

/-- A request that does not exist is accepted with success; and a request of user 1 is answered
with an error, but it is accepted from then on. -/
theorem not_answersAtomically :
    ¬ AnswersAtomically ⟨MySQLMgr.twoUsers, fun _ => none⟩ allSucceed (fun _ => none) client₂
        (acceptEvent 7).src ∧
      ¬ AnswersAtomically ⟨(handleMsg allSucceed MySQLMgr.twoUsers (fun _ => none) client₁
          idAddFriendReq askEvent.src).1, fun _ => none⟩ relationFails (fun _ => none) client₂
        (acceptEvent 1).src := by
  constructor
  · have hrequest : authRequest (acceptEvent 7).src = some (7, 1, 2, true) := by decide
    rw [answersAtomically_iff_fitsRequest hrequest]
    intro h
    have hrelates : Relates allSucceed MySQLMgr.twoUsers 1 2 :=
      .inr ⟨rfl, fun _ hf => absurd hf List.not_mem_nil, by decide, by decide, by decide⟩
    obtain ⟨r, hr, -⟩ := (h rfl).found fun _ => hrelates
    exact absurd hr List.not_mem_nil
  · have hrequest : authRequest (acceptEvent 1).src = some (1, 1, 2, true) := by decide
    have hrows : ((handleMsg allSucceed MySQLMgr.twoUsers (fun _ => none) client₁ idAddFriendReq
        askEvent.src).1).friend_requests.rows = [⟨1, 1, 2, "hello", .pending⟩] := rfl
    rw [answersAtomically_iff_fitsRequest hrequest]
    intro h
    have hfails : relationFails.ok 1 = false := rfl
    have hnot : ∀ db, ¬ Relates relationFails db 1 2 := by
      rintro db (⟨hok, -⟩ | ⟨hok, -⟩)
      · exact nomatch hfails.symm.trans hok
      · exact nomatch hfails.symm.trans hok
    obtain ⟨hstatus, -⟩ := (h rfl).unchanged rfl (hnot _) ⟨1, 1, 2, "hello", .pending⟩
      (by rw [hrows]; exact List.mem_singleton_self _) rfl
    cases hstatus

end LogicSystem

end WeChat
