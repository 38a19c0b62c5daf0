/-
# Decisions on friend requests

The status of a friend request is set by the handler of `ID_AUTH_FRIEND_REQ`, with an `UPDATE`
that looks at the identifier of the row only.  This file determines when a request that has
been accepted or rejected stays so: the `UPDATE` must not find a row with another decision.
-/
import WeChat.Chat.FriendAnswer

namespace WeChat

open Transition Relational

namespace LogicSystem

open MySQLMgr

/-- The requests that have been decided are in the later state as they were. -/
def StayDecided (s s' : Friends) : Prop :=
  ∀ r ∈ s.db.friend_requests.rows, r.status ≠ .pending → r ∈ s'.db.friend_requests.rows

/-- The status of a request changes at most once, from pending to a decision: in a run, a
request that has been decided is left alone. -/
def DecidedOnce (s : Friends) (es : List FriendEvent) : Prop :=
  AllRelated Friends.step StayDecided s es

/-- A decision whose `UPDATE` is executed finds no request, or one that is pending, or one that
was decided in the same way. -/
def Friends.KeepsDecided (s : Friends) (e : FriendEvent) : Prop :=
  ∀ requestId fromUid toUid accepted, e.auth = true →
    authRequest e.src = some (requestId, fromUid, toUid, accepted) → e.env.ok 0 = true →
    ∀ r ∈ s.db.friend_requests.rows, r.id = requestId →
      r.status = .pending ∨ r.status = decisionStatus accepted

lemma StayDecided.refl (s : Friends) : StayDecided s s := fun _ hr _ => hr

lemma StayDecided.trans {s₁ s₂ s₃ : Friends} (h : StayDecided s₁ s₂) (h' : StayDecided s₂ s₃) :
    StayDecided s₁ s₃ := fun r hr hdecided => h' r (h r hr hdecided) hdecided

/-! ## One step -/

section Step

variable {s s' : Friends} {e : FriendEvent}

lemma setStatus_eq_self_iff {requestId : ℤ} {status : RequestStatus} {r : FriendRequest} :
    (if r.id = requestId then { r with status := status } else r) = r ↔
      (r.id = requestId → r.status = status) := by
  split_ifs with hid
  · constructor
    · intro h _
      exact (congrArg FriendRequest.status h).symm
    · intro h
      rw [← h hid]
  · exact iff_of_true rfl fun h => absurd h hid

/-- The requests after an `ID_AUTH_FRIEND_REQ`. -/
lemma requests_authFriend {env : Env} {db : Database} {mgr : ℤ → Option Conn} {session : Conn}
    {src : Option Json} :
    (handleMsg env db mgr session idAuthFriendReq src).1.friend_requests =
      match authRequest src with
      | none => db.friend_requests
      | some (requestId, _, _, accepted) =>
        (updateFriendRequestStatus (env.ok 0) db requestId accepted).2.friend_requests := by
  rw [authFriend_spec]
  cases authRequest src with
  | none => rfl
  | some request =>
    obtain ⟨requestId, fromUid, toUid, accepted⟩ := request
    simp only
    split_ifs
    · exact (addFriendRelation_spec env _ fromUid toUid).1
    · rfl

/-- A request that has been decided is in the table after a step exactly when the step does not
decide it in the other way. -/
lemma stayDecided_step_iff (he : s.step e = some s') : StayDecided s s' ↔ s.KeepsDecided e := by
  cases hauth : e.auth with
  | false =>
    obtain ⟨new, hrequests⟩ : ∃ new, s'.db.friend_requests.rows =
        s.db.friend_requests.rows ++ new := by
      rw [← Option.some.inj he, hauth]
      exact addFriend_spec.2
    refine iff_of_true (fun r hr _ => ?_) fun _ _ _ _ htrue => ?_
    · rw [hrequests]
      exact List.mem_append_left _ hr
    · rw [hauth] at htrue
      cases htrue
  | true =>
    have hdb : s'.db = (handleMsg e.env s.db e.mgr e.session idAuthFriendReq e.src).1 := by
      rw [← Option.some.inj he, hauth]
      rfl
    rw [StayDecided, hdb, requests_authFriend]
    cases hrequest : authRequest e.src with
    | none =>
      refine iff_of_true (fun r hr _ => hr) fun _ _ _ _ _ hsome => ?_
      rw [hrequest] at hsome
      cases hsome
    | some request =>
      obtain ⟨requestId, fromUid, toUid, accepted⟩ := request
      cases hok : e.env.ok 0 with
      | false =>
        refine iff_of_true (fun r hr _ => hr) fun _ _ _ _ _ _ htrue => ?_
        rw [hok] at htrue
        cases htrue
      | true =>
        have hrow : ∀ r ∈ s.db.friend_requests.rows,
            r ∈ (updateFriendRequestStatus true s.db requestId accepted).2.friend_requests.rows ↔
              (r.id = requestId → r.status = decisionStatus accepted) := by
          intro r hr
          exact (AutoTable.mem_update_iff hr).trans setStatus_eq_self_iff
        constructor
        · intro h requestId' fromUid' toUid' accepted' _ hsome _ r hr hid
          rw [hrequest] at hsome
          cases hsome
          by_cases hpending : r.status = .pending
          · exact .inl hpending
          · exact .inr ((hrow r hr).1 (h r hr hpending) hid)
        · intro h r hr hdecided
          refine (hrow r hr).2 fun hid => ?_
          exact (h requestId fromUid toUid accepted hauth hrequest hok r hr hid).resolve_left
            hdecided

end Step

/-! ## Runs -/

/-- **A friend request is decided once, in a run of requests and decisions with arbitrary
bodies, if and only if no decision of the run finds a request that was decided the other
way.** -/
theorem decidedOnce_iff {s t : Friends} {es : List FriendEvent}
    (hrun : run Friends.step s es = some t) :
    DecidedOnce s es ↔ AllSteps Friends.step Friends.KeepsDecided s es :=
  allRelated_iff_allSteps StayDecided.refl StayDecided.trans
    (fun _ _ _ he => stayDecided_step_iff he) hrun

/-- An answer that rejects the request with the given identifier. -/
def rejectEvent (requestId : ℤ) : FriendEvent :=
  ⟨allSucceed, fun _ => none, client₂, true, some (.object
    [("requestId", .num requestId), ("fromUid", .num 1), ("toUid", .num 2),
      ("accept", .bool false)])⟩

/-- User 1 asks, and user 2 accepts the request. -/
theorem decidedOnce_askedAndAccepted :
    DecidedOnce (.init MySQLMgr.twoUsers rfl) [askEvent, acceptEvent 1] := by
  refine (decidedOnce_iff rfl).2 ⟨fun _ _ _ _ hauth => ?_, fun s hs => ?_⟩
  · cases hauth
  · obtain rfl := Option.some.inj hs
    refine ⟨fun _ _ _ _ _ _ _ r hr _ => .inl ?_, fun _ _ => trivial⟩
    have hrows : ((handleMsg allSucceed MySQLMgr.twoUsers (fun _ => none) client₁ idAddFriendReq
        askEvent.src).1).friend_requests.rows = [⟨1, 1, 2, "hello", .pending⟩] := rfl
    have hmem : r ∈ [(⟨1, 1, 2, "hello", .pending⟩ : FriendRequest)] := hrows ▸ hr
    rw [List.mem_singleton.1 hmem]

/-- User 2 accepts the request of user 1 and then rejects it. -/
theorem not_decidedOnce_rejectedAfterwards :
    ¬ ∀ s t es, run Friends.step s es = some t → DecidedOnce s es := by
  intro h
  have hrun : ∃ t, run Friends.step (.init MySQLMgr.twoUsers rfl)
      [askEvent, acceptEvent 1, rejectEvent 1] = some t := ⟨_, rfl⟩
  obtain ⟨t, hrun⟩ := hrun
  have hstay := h _ t _ hrun [askEvent, acceptEvent 1] [rejectEvent 1] [] _ _ rfl rfl rfl
    ⟨1, 1, 2, "hello", .accepted⟩ (List.mem_singleton_self _) (by decide)
  have hrow : (⟨1, 1, 2, "hello", .accepted⟩ : FriendRequest) = ⟨1, 1, 2, "hello", .rejected⟩ :=
    List.mem_singleton.1 hstay
  cases hrow

end LogicSystem

end WeChat
