/-
# Open friend requests

A request is open while it is pending.  `addFriendRequest` refuses a request between friends and
a second one in the same direction, with two `SELECT`s before its `INSERT`; a request in the
other direction, and one that is made while a friendship is inserted, are not refused.  This
file determines when every state of an interleaving has at most one open request from one user
to another and none between friends.
-/
import WeChat.Chat.Statements

namespace WeChat

open Transition Relational

namespace MySQLMgr

open LogicSystem (AreFriends)

/-- There is at most one pending request for every ordered pair, and none between friends. -/
structure OpenOnce (db : Database) : Prop where
  unique : ∀ r ∈ db.friend_requests.rows, ∀ r' ∈ db.friend_requests.rows,
    r.status = .pending → r'.status = .pending → r.from_uid = r'.from_uid →
    r.to_uid = r'.to_uid → r = r'
  strangers : ∀ a b, HasPending db a b → ¬ AreFriends db a b

/-- When a request is inserted none is pending from this user to the other and they are not
friends; when a friendship is inserted no request between the two is pending. -/
def Statements.KeepsOpenOnce (s : Statements) : StatementEvent → Prop
  | .execute i gap =>
    match s.next i with
    | some (.insertRequest fromUid toUid _) => CanRequest gap s.db fromUid toUid →
        ¬ HasPending s.db fromUid toUid ∧ ¬ AreFriends s.db fromUid toUid
    | some (.insertRelation uid1 uid2) => CanRelate gap s.db uid1 uid2 →
        ¬ HasPending s.db uid1 uid2 ∧ ¬ HasPending s.db uid2 uid1
    | _ => True
  | _ => True

/-! ## One statement -/

section Step

variable {gap : ℕ} {db db' : Database} {a b : ℤ}

/-- After the `INSERT` of a request there is one open request more. -/
lemma openOnce_insertRequest_iff {message : String} (h : OpenOnce db)
    (hcan : CanRequest gap db a b) :
    OpenOnce { db with friend_requests := requestsWith gap db a b message } ↔
      ¬ HasPending db a b ∧ ¬ AreFriends db a b := by
  obtain ⟨id, hid, hrows⟩ := requestsWith_spec hcan message
  let new : FriendRequest := ⟨id, a, b, message, .pending⟩
  have hmem : ∀ {r}, r ∈ (requestsWith gap db a b message).rows ↔
      r ∈ db.friend_requests.rows ∨ r = new := by
    intro r
    rw [hrows, List.mem_append, List.mem_singleton]
  have hnew : new ∉ db.friend_requests.rows := fun hold =>
    absurd (db.friend_requests.key_le new hold) (not_le.2 hid)
  constructor
  · intro h'
    constructor
    · rintro ⟨r, hr, hfrom, hto, hpending⟩
      have heq := h'.unique r (hmem.2 (.inl hr)) new (hmem.2 (.inr rfl)) hpending rfl hfrom hto
      exact hnew (heq ▸ hr)
    · exact h'.strangers a b ⟨new, hmem.2 (.inr rfl), rfl, rfl, rfl⟩
  · rintro ⟨hnone, hstrangers⟩
    constructor
    · intro r hr r' hr' hp hp' hfrom hto
      rcases hmem.1 hr with hr | rfl <;> rcases hmem.1 hr' with hr' | rfl
      · exact h.unique r hr r' hr' hp hp' hfrom hto
      · exact absurd ⟨r, hr, hfrom, hto, hp⟩ hnone
      · exact absurd ⟨r', hr', hfrom.symm, hto.symm, hp'⟩ hnone
      · rfl
    · rintro x y ⟨r, hr, rfl, rfl, hp⟩
      rcases hmem.1 hr with hr | rfl
      · exact h.strangers _ _ ⟨r, hr, rfl, rfl, hp⟩
      · exact hstrangers

/-- After the `INSERT` of a friendship two users more are friends. -/
lemma openOnce_insertRelation_iff (h : OpenOnce db) (hcan : CanRelate gap db a b) :
    OpenOnce { db with friendships := friendshipsWith gap db a b } ↔
      ¬ HasPending db a b ∧ ¬ HasPending db b a := by
  obtain ⟨id, hrows⟩ := friendshipsWith_spec hcan
  have hfriends : ∀ x y, AreFriends { db with friendships := friendshipsWith gap db a b } x y ↔
      AreFriends db x y ∨ (x = a ∧ y = b) ∨ (x = b ∧ y = a) := by
    intro x y
    have hpair : (min a b = x ∧ max a b = y) ∨ (min a b = y ∧ max a b = x) ↔
        (x = a ∧ y = b) ∨ (x = b ∧ y = a) := by omega
    simp only [AreFriends, hrows, List.mem_append, List.mem_singleton, or_and_right, exists_or,
      exists_eq_left, hpair]
  constructor
  · intro h'
    exact ⟨fun hp => h'.strangers a b hp ((hfriends a b).2 (.inr (.inl ⟨rfl, rfl⟩))),
      fun hp => h'.strangers b a hp ((hfriends b a).2 (.inr (.inr ⟨rfl, rfl⟩)))⟩
  · rintro ⟨hab, hba⟩
    refine ⟨h.unique, fun x y hp hare => ?_⟩
    rcases (hfriends x y).1 hare with hare | ⟨rfl, rfl⟩ | ⟨rfl, rfl⟩
    · exact h.strangers x y hp hare
    · exact hab hp
    · exact hba hp

/-- An `UPDATE` opens no request. -/
lemma openOnce_updateStatus (h : OpenOnce db) (requestId : ℤ) (accepted : Bool) :
    OpenOnce (updateFriendRequestStatus true db requestId accepted).2 := by
  -- a row that is pending afterwards is the row that it was
  have hold : ∀ r ∈ (updateFriendRequestStatus true db requestId accepted).2.friend_requests.rows,
      r.status = .pending → r ∈ db.friend_requests.rows := by
    intro r hr hp
    obtain ⟨r', hr', rfl⟩ := List.mem_map.1 hr
    by_cases hid : r'.id = requestId
    · rw [if_pos hid] at hp
      cases accepted <;> cases hp
    · rwa [if_neg hid]
  constructor
  · intro r hr r' hr' hp hp'
    exact h.unique r (hold r hr hp) r' (hold r' hr' hp') hp hp'
  · rintro x y ⟨r, hr, hfrom, hto, hp⟩
    exact h.strangers x y ⟨r, hold r hr hp, hfrom, hto, hp⟩

/-- After an event that meets its condition, and after no other, the open requests are as
required. -/
lemma openOnce_step_iff {s s' : Statements} {e : StatementEvent} (h : OpenOnce s.db)
    (he : s.step e = some s') : OpenOnce s'.db ↔ s.KeepsOpenOnce e := by
  cases e with
  | start i call =>
    cases hnext : s.next i with
    | some st =>
      rw [Statements.step, hnext] at he
      cases he
    | none =>
      rw [Statements.step_start call hnext] at he
      obtain rfl := Option.some.inj he
      exact iff_of_true h trivial
  | fail i =>
    obtain ⟨st, -, rfl⟩ := Option.map_eq_some_iff.1 he
    exact iff_of_true h trivial
  | execute i gap =>
    obtain ⟨st, hnext, rfl⟩ := Option.map_eq_some_iff.1 he
    simp only [Statements.KeepsOpenOnce, hnext]
    cases st with
    | selectFriends fromUid toUid message => exact iff_of_true h trivial
    | selectPending fromUid toUid message => exact iff_of_true h trivial
    | selectRelation uid1 uid2 => exact iff_of_true h trivial
    | updateStatus requestId fromUid toUid accepted =>
      exact iff_of_true (openOnce_updateStatus h requestId accepted) trivial
    | insertRequest fromUid toUid message =>
      by_cases hcan : CanRequest gap s.db fromUid toUid
      · simp only [Statement.execute, if_pos hcan, openOnce_insertRequest_iff h hcan]
        exact (imp_iff_right hcan).symm
      · simp only [Statement.execute, if_neg hcan]
        exact iff_of_true h fun h' => absurd h' hcan
    | insertRelation uid1 uid2 =>
      by_cases hcan : CanRelate gap s.db uid1 uid2
      · simp only [Statement.execute, if_pos hcan, openOnce_insertRelation_iff h hcan]
        exact (imp_iff_right hcan).symm
      · simp only [Statement.execute, if_neg hcan]
        exact iff_of_true h fun h' => absurd h' hcan

end Step

/-! ## Interleavings -/

/-- **In every state of an interleaving there is at most one open request for every ordered pair
and none between friends, if and only if every `INSERT` finds what the `SELECT`s of its
operation were to ensure.** -/
theorem openOnce_iff {s t : Statements} {es : List StatementEvent} (h : OpenOnce s.db)
    (hrun : run Statements.step s es = some t) :
    AllStates Statements.step (fun s => OpenOnce s.db) s es ↔
      AllSteps Statements.step Statements.KeepsOpenOnce s es :=
  allStates_iff_allSteps (I := fun _ => True) (fun _ _ _ _ _ => trivial)
    (fun _ _ _ _ hopen he => openOnce_step_iff hopen he) hrun trivial h

lemma openOnce_twoUsers : OpenOnce twoUsers where
  unique := fun _ hr => absurd hr List.not_mem_nil
  strangers := fun _ _ ⟨_, hr, _⟩ => absurd hr List.not_mem_nil

/-- A worker executes three statements of a request of one user to another. -/
def asks (fromUid toUid : ℤ) : List StatementEvent :=
  .start 0 (.addFriendRequest fromUid toUid "hello") :: List.replicate 3 (.execute 0 0)

/-- A worker executes three statements of an answer that accepts the request of 1 to 2. -/
def accepts : List StatementEvent :=
  .start 0 (.authFriend 1 1 2 true) :: List.replicate 3 (.execute 0 0)

/-- User 1 asks, and user 2 accepts the request. -/
theorem openOnce_askedAndAccepted :
    AllStates Statements.step (fun s => OpenOnce s.db) (.init twoUsers) (asks 1 2 ++ accepts) := by
  refine (openOnce_iff openOnce_twoUsers rfl).2 ?_
  have hasked : AllSteps Statements.step Statements.KeepsOpenOnce (.init twoUsers) (asks 1 2) :=
    .cons rfl trivial (.cons rfl trivial (.cons rfl trivial (.cons rfl (fun _ => by decide)
      trivial)))
  refine hasked.append rfl (.cons rfl trivial (.cons rfl trivial (.cons rfl trivial (.cons rfl
    (fun _ => ?_) trivial))))
  -- the request has been accepted when the friendship is inserted
  decide

/-- Users 1 and 2 ask each other, and one request is accepted: the other stays open. -/
theorem not_openOnce_crossedRequests :
    ¬ ∀ s t es, OpenOnce s.db → run Statements.step s es = some t →
      AllStates Statements.step (fun s => OpenOnce s.db) s es := by
  intro h
  obtain ⟨t, hrun, hpending, hfriends⟩ : ∃ t, run Statements.step (.init twoUsers)
      (asks 1 2 ++ asks 2 1 ++ accepts) = some t ∧ HasPending t.db 2 1 ∧ AreFriends t.db 2 1 :=
    ⟨_, rfl, by decide, by decide⟩
  exact ((h _ t _ openOnce_twoUsers hrun).last hrun).strangers 2 1 hpending hfriends

end MySQLMgr

end WeChat
