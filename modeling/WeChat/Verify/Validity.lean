/-
# How long codes are valid

A code is stored with a `SET` and gets its ten minutes with an `EXPIRE` that comes after it.  A
call that fails between the two leaves a code without an expiry, and later calls only read it.
-/
import WeChat.Verify.Server

namespace WeChat

namespace VerifyServer

open Transition Expiring

namespace Server

variable (s : Server)

/-- A call is about to give the code of an email its expiry. -/
def Pending (email : String) : Prop :=
  ∃ i uniqueId, s.calls i = some ⟨email, .expiring uniqueId⟩

/-- A call other than `i` is. -/
def PendingBesides (i : ℕ) (email : String) : Prop :=
  ∃ j uniqueId, j ≠ i ∧ s.calls j = some ⟨email, .expiring uniqueId⟩

/-- Every stored code expires within ten minutes, or a call is about to see to that. -/
def CodesExpire : Prop :=
  ∀ email entry, s.redis (codePrefix ++ email) = some entry →
    s.Pending email ∨ entry.Within exptime

/-- A stored code has an expiry. -/
def HasExpiry (email : String) : Prop :=
  ∀ entry, s.redis (codePrefix ++ email) = some entry → entry.ttl ≠ none

/-- The event leaves no code without an expiry: a `SET` whose failure comes after it was
executed, and an `EXPIRE` that is not executed, are made up for by another call that is about to
execute its `EXPIRE`, or the code has got its expiry before; and the process does not stop while
a code has none. -/
def KeepsExpiry : VerifyEvent → Prop
  | .set i outcome => outcome = .failed true → ∀ email uniqueId,
      s.calls i = some ⟨email, .storing uniqueId⟩ → s.Pending email
  | .expire i outcome => outcome = .failed false → ∀ email uniqueId,
      s.calls i = some ⟨email, .expiring uniqueId⟩ → s.PendingBesides i email ∨ s.HasExpiry email
  | .stop => ∀ email, s.HasExpiry email
  | _ => True

variable {s} {s' : Server} {i : ℕ} {call : Call} {email : String}

/-! ## Calls that are about to give an expiry -/

lemma pending_iff (i : ℕ) :
    s.Pending email ↔
      (∃ uniqueId, s.calls i = some ⟨email, .expiring uniqueId⟩) ∨ s.PendingBesides i email := by
  constructor
  · rintro ⟨j, uniqueId, hj⟩
    by_cases hji : j = i
    · exact .inl ⟨uniqueId, hji ▸ hj⟩
    · exact .inr ⟨j, uniqueId, hji, hj⟩
  · rintro (⟨uniqueId, hi⟩ | ⟨j, uniqueId, -, hj⟩)
    · exact ⟨i, uniqueId, hi⟩
    · exact ⟨j, uniqueId, hj⟩

lemma pendingBesides_resume : (s.resume i call).PendingBesides i email ↔
    s.PendingBesides i email :=
  exists_congr fun j => exists_congr fun uniqueId => and_congr_right fun hj => by
    rw [calls_resume_of_ne hj]

/-- A call that is past its `EXPIRE`, or not there yet, does not count. -/
lemma pending_resume_of_ne (h : ∀ uniqueId, call.phase ≠ .expiring uniqueId) :
    (s.resume i call).Pending email ↔ s.PendingBesides i email := by
  rw [pending_iff i, pendingBesides_resume, calls_resume_self, or_iff_right]
  rintro ⟨uniqueId, hcall⟩
  obtain rfl := Option.some.inj hcall
  exact h uniqueId rfl

/-- Nor does one for another email. -/
lemma pendingBesides_iff (h : ∀ uniqueId, s.calls i ≠ some ⟨email, .expiring uniqueId⟩) :
    s.PendingBesides i email ↔ s.Pending email := by
  rw [pending_iff i, or_iff_right]
  rintro ⟨uniqueId, hcall⟩
  exact h uniqueId hcall

/-- A call that goes on before or after its `EXPIRE`, and leaves Redis alone. -/
lemma codesExpire_resume (h : s.CodesExpire)
    (hbefore : ∀ email uniqueId, s.calls i ≠ some ⟨email, .expiring uniqueId⟩)
    (hafter : ∀ uniqueId, call.phase ≠ .expiring uniqueId) : (s.resume i call).CodesExpire := by
  intro email entry hentry
  rw [pending_resume_of_ne hafter, pendingBesides_iff (hbefore email)]
  exact h email entry hentry

lemma key_ne {email' : String} (h : email' ≠ email) : codePrefix ++ email' ≠ codePrefix ++ email :=
  fun heq => h ((String.append_right_inj _).1 heq)

/-! ## What a step does to expiries -/

/-- A call that stores something for its email decides about this email only. -/
lemma codesExpire_stored_iff {redis : Store String String} {phase phase' : Phase}
    (h : s.CodesExpire) (hcall : s.calls i = some ⟨email, phase⟩)
    (hredis : ∀ key, key ≠ codePrefix ++ email → redis key = s.redis key) :
    (resume { s with redis := redis } i ⟨email, phase'⟩).CodesExpire ↔
      ∀ entry, redis (codePrefix ++ email) = some entry →
        (s.resume i ⟨email, phase'⟩).Pending email ∨ entry.Within exptime := by
  constructor
  · exact fun h' => h' email
  · intro hself email' entry hentry
    by_cases heq : email' = email
    · subst heq
      exact hself entry hentry
    · -- the entry is as before, and the calls that wait for its `EXPIRE` are too
      have hold : s.redis (codePrefix ++ email') = some entry :=
        (hredis _ (key_ne heq)).symm.trans hentry
      refine (h email' entry hold).imp_left fun hpending => ?_
      have hothers : s.PendingBesides i email' := by
        refine (pendingBesides_iff fun uniqueId hi => heq ?_).2 hpending
        exact (congrArg Call.email (Option.some.inj (hi.symm.trans hcall)))
      exact (pending_iff i).2 (.inr (pendingBesides_resume.2 hothers))

/-- The `SET` of a call. -/
lemma codesExpire_set_iff {outcome : Outcome} {uniqueId : String} (h : s.CodesExpire)
    (hcall : s.calls i = some ⟨email, .storing uniqueId⟩) :
    (resume { s with redis := doSet s.redis outcome (codePrefix ++ email) uniqueId } i
        ⟨email, if outcome = .ok then .expiring uniqueId else .answered .redisError⟩).CodesExpire ↔
      s.KeepsExpiry (.set i outcome) := by
  rw [codesExpire_stored_iff h hcall fun key hkey => doSet_of_ne hkey _]
  have hpending : s.PendingBesides i email ↔ s.Pending email :=
    pendingBesides_iff fun _ hi => nomatch hi.symm.trans hcall
  cases outcome with
  | ok =>
    refine iff_of_true (fun entry _ => .inl ⟨i, uniqueId, calls_resume_self i _⟩) ?_
    rintro ⟨⟩
  | failed executed =>
    rw [if_neg (by simp), pending_resume_of_ne (by simp), hpending]
    cases executed with
    | true =>
      -- the new code has no expiry yet
      have hself : doSet s.redis (.failed true) (codePrefix ++ email) uniqueId
          (codePrefix ++ email) = some ⟨uniqueId, none⟩ := Function.update_self ..
      constructor
      · intro h' _ email' uniqueId' hcall'
        obtain ⟨rfl, -⟩ : email = email' ∧ Phase.storing uniqueId = .storing uniqueId' := by
          simpa using hcall.symm.trans hcall'
        rcases h' _ hself with hp | ⟨n, hn, -⟩
        · exact hp
        · cases hn
      · exact fun hkeeps _ _ => .inl (hkeeps rfl email uniqueId hcall)
    | false =>
      refine iff_of_true (h email) ?_
      rintro ⟨⟩

/-- The `EXPIRE` of a call. -/
lemma codesExpire_expire_iff {outcome : Outcome} {uniqueId : String}
    (hl : Limited exptime s.redis) (h : s.CodesExpire)
    (hcall : s.calls i = some ⟨email, .expiring uniqueId⟩) :
    (resume { s with redis := doExpire s.redis outcome (codePrefix ++ email) exptime } i
        ⟨email, if outcome = .ok then .mailing uniqueId else .answered .redisError⟩).CodesExpire ↔
      s.KeepsExpiry (.expire i outcome) := by
  rw [codesExpire_stored_iff h hcall fun key hkey => doExpire_of_ne hkey _]
  by_cases hexecutes : outcome.executes = true
  · refine iff_of_true (fun entry hentry => .inr ?_) fun hfailed => ?_
    · rw [doExpire, if_pos hexecutes, Expiring.expire, Function.update_self] at hentry
      obtain ⟨entry', -, rfl⟩ := Option.map_eq_some_iff.1 hentry
      exact ⟨exptime, rfl, le_refl _⟩
    · rw [hfailed] at hexecutes
      cases hexecutes
  · obtain rfl : outcome = .failed false := by
      cases outcome with
      | ok => exact absurd rfl hexecutes
      | failed executed =>
        cases executed with
        | true => exact absurd rfl hexecutes
        | false => rfl
    rw [if_neg (by simp), pending_resume_of_ne (by simp)]
    constructor
    · intro h' _ email' uniqueId' hcall'
      obtain ⟨rfl, -⟩ : email = email' ∧ Phase.expiring uniqueId = .expiring uniqueId' := by
        simpa using hcall.symm.trans hcall'
      refine or_iff_not_imp_left.2 fun hnone entry hentry => ?_
      exact (hl.within_iff hentry).1 ((h' entry hentry).resolve_left hnone)
    · intro hkeeps entry hentry
      exact (hkeeps rfl email uniqueId hcall).imp_right fun hexpiry =>
        (hl.within_iff hentry).2 (hexpiry entry hentry)

/-- After an event that meets its condition, and after no other, every code expires. -/
lemma codesExpire_step_iff {e : VerifyEvent} (hl : Limited exptime s.redis) (h : s.CodesExpire)
    (hstep : s.step e = some s') : s'.CodesExpire ↔ s.KeepsExpiry e := by
  cases effect_of_step hstep with
  | call hnew =>
    refine iff_of_true (codesExpire_resume h (fun _ _ hi => ?_) (by simp)) trivial
    exact nomatch hi.symm.trans hnew
  | found hcall =>
    refine iff_of_true (codesExpire_resume h (fun _ _ hi => ?_) (by simp)) trivial
    exact nomatch hi.symm.trans hcall
  | made hcall =>
    refine iff_of_true (codesExpire_resume h (fun _ _ hi => ?_) (by simp)) trivial
    exact nomatch hi.symm.trans hcall
  | set hcall => exact codesExpire_set_iff h hcall
  | expire hcall => exact codesExpire_expire_iff hl h hcall
  | mailed hcall =>
    refine iff_of_true (codesExpire_resume (fun email entry hentry => h email entry hentry)
      (fun _ _ hi => ?_) (by simp)) trivial
    exact nomatch hi.symm.trans hcall
  | refused hcall =>
    refine iff_of_true (codesExpire_resume h (fun _ _ hi => ?_) (by simp)) trivial
    exact nomatch hi.symm.trans hcall
  | tick =>
    refine iff_of_true (fun email entry hentry => ?_) trivial
    obtain ⟨entry', hold, hage⟩ := tick_eq_some hentry
    exact (h email entry' hold).imp_right fun hwithin => hwithin.age hage
  | stop =>
    -- nobody is left to execute an `EXPIRE`
    have hnobody : ∀ email, ¬ Pending { s with calls := fun _ => none } email :=
      fun email ⟨i, uniqueId, hi⟩ => nomatch hi
    refine forall_congr' fun email => forall_congr' fun entry => forall_congr' fun hentry => ?_
    exact (or_iff_right (hnobody email)).trans (hl.within_iff hentry)

lemma limited_step {e : VerifyEvent} (hl : Limited exptime s.redis) (hstep : s.step e = some s') :
    Limited exptime s'.redis := by
  cases effect_of_step hstep with
  | set hcall =>
    rw [redis_resume, doSet]
    split_ifs
    · exact hl.set
    · exact hl
  | expire hcall =>
    rw [redis_resume, doExpire]
    split_ifs
    · exact hl.expire
    · exact hl
  | tick => exact hl.tick
  | call hnew => exact hl
  | found hcall => exact hl
  | made hcall => exact hl
  | mailed hcall => exact hl
  | refused hcall => exact hl
  | stop => exact hl

/-! ## Runs -/

/-- **In every state of a run every stored code expires within ten minutes or is about to be given
its expiry, if and only if every step of the run keeps it so.** -/
theorem codesExpire_iff {es : List VerifyEvent}
    (hrun : run step (.init fun _ => none) es = some s) :
    AllStates step CodesExpire (.init fun _ => none) es ↔
      AllSteps step KeepsExpiry (.init fun _ => none) es :=
  allStates_iff_allSteps (I := fun s => Limited exptime s.redis)
    (fun _ _ _ => limited_step) (fun _ _ _ => codesExpire_step_iff) hrun limited_empty
    fun _ _ hentry => nomatch hentry

/-- The `uuidv4()` of a call. -/
def someUuid : String := "4f9c2b7a-0d3e-4c1f-9a6b-2e8d7f5c1a30"

/-- Two calls for one email store a code: the reply to the `SET` of the second one is lost, and the
first one gives the code its expiry. -/
theorem codesExpire_lostReply :
    AllStates step CodesExpire (.init fun _ => none)
      [.call 0 "alice@example.com", .call 1 "alice@example.com", .get 0 .ok someUuid,
        .get 1 .ok someUuid, .set 0 .ok, .set 1 (.failed true), .expire 0 .ok, .sendMail 0 true,
        .tick] := by
  refine (codesExpire_iff rfl).2 (.cons rfl trivial (.cons rfl trivial (.cons rfl trivial
    (.cons rfl trivial (.cons rfl ?_ (.cons rfl ?_ (.cons rfl ?_ (.cons rfl trivial
      (.cons rfl trivial trivial)))))))))
  · rintro ⟨⟩
  · -- the first call is about to execute its `EXPIRE`
    intro _ email uniqueId hcall
    obtain rfl : "alice@example.com" = email := congrArg Call.email (Option.some.inj hcall)
    exact ⟨0, _, rfl⟩
  · rintro ⟨⟩

/-- The `EXPIRE` of a call fails, and its code stays for good. -/
theorem not_codesExpire_failedExpire :
    ∃ s, run step (.init fun _ => none)
        [.call 0 "alice@example.com", .get 0 .ok someUuid, .set 0 .ok,
          .expire 0 (.failed false)] = some s ∧ ¬ s.CodesExpire := by
  refine ⟨_, rfl, fun h => ?_⟩
  rcases h "alice@example.com" ⟨newCode someUuid, none⟩ rfl with ⟨i, uniqueId, hi⟩ | ⟨n, hn, -⟩
  · cases i with
    | zero => cases hi
    | succ i => cases hi
  · cases hn

end Server

end VerifyServer

end WeChat
