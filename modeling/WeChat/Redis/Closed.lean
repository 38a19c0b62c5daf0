/-
# The Redis connection pool after `close()`

`close()` sets `_isStop` and frees the idle connections, but the fill thread and the reconnect
threads push without a look at the flag, and the fill thread clears it.  A pool stays closed
exactly when these threads are through, and the flag is set at every return of a connection and
at the end of every wait.
-/
import WeChat.Redis.ConnectPool

namespace WeChat

namespace RedisConnectPool

open Transition

/-- A closed pool has no idle connection, and has handed out none since it was closed. -/
def StaysClosed (s : Pool) : Prop := s.closed = true → s._connects = [] ∧ s.late = []

/-- After `close()` no thread pushes a new connection, and `_isStop` is set when a healthy
connection comes back and when a call of `getConnection` ends its wait. -/
def Quiet (s : Pool) : Event → Prop
  | .push => s.closed = false
  | .reconnected => s.closed = false
  | .returnConnection _ broken => s.closed = true → broken = true ∨ s._isStop = true
  | .finish _ _ => s.closed = true → s._isStop = true
  | _ => True

/-- Only a pool that has been constructed is closed, and nothing is late before. -/
structure Closable (s : Pool) : Prop where
  constructed : s.closed = true ∨ s._mutex = some .close → s.construction = .returned
  early : s.closed = false → s.late = []

variable {N : ℕ} {s s' : Pool} {e : Event}

lemma closable_init : Closable .init := ⟨by simp [Pool.init], fun _ => rfl⟩

/-- What a caller does in `getConnection` does not close a pool. -/
lemma Closable.of_caller (h : Closable s) (hclosed : s'.closed = s.closed)
    (hmutex : s'._mutex ≠ some .close) (hconstruction : s'.construction = s.construction)
    (hlate : s.closed = false → s'.late = s.late) : Closable s' := by
  refine ⟨fun hc => ?_, fun hc => ?_⟩
  · rw [hconstruction]
    exact h.constructed (.inl (hclosed ▸ hc.resolve_right hmutex))
  · rw [hclosed] at hc
    rw [hlate hc, h.early hc]

lemma closable_step (h : Closable s) (hstep : step N s e = some s') : Closable s' := by
  have hconstructing : ∀ {c : Construction}, s.construction = c → c ≠ .returned →
      ¬ (s.closed = true ∨ s._mutex = some .close) :=
    fun hc hne hclosed => hne (hc.symm.trans (h.constructed hclosed))
  cases effect_of_step hstep with
  | constructed i construction lt
  | skipped outcome i construction lt
  | measured construction =>
    exact ⟨fun hc => absurd hc (hconstructing construction (by simp)), h.early⟩
  | tested c construction notLooping =>
    exact ⟨fun hc => absurd hc (hconstructing construction (by simp)), h.early⟩
  | stopped construction => exact ⟨fun _ => rfl, h.early⟩
  | entered i q next caller phase
  | woken i q next caller phase => exact h.of_caller rfl (by rintro ⟨⟩) rfl fun _ => rfl
  | slept i q next caller phase
  | refused i q next stale caller phase stop =>
    exact h.of_caller rfl (by rintro ⟨⟩) rfl fun _ => rfl
  | popped i q next stale connect rest caller phase stop connects
  | stale i q next stale caller phase stop connects =>
    refine h.of_caller rfl (by rintro ⟨⟩) rfl fun hc => ?_
    simp only [Pool.hand, Pool.setCaller, hc, Bool.false_eq_true, if_false]
  | closing construction => exact ⟨fun _ => construction, h.early⟩
  | drained mutex => exact ⟨fun _ => h.constructed (.inr mutex), by simp⟩
  | _ => exact ⟨h.constructed, h.early⟩

/-- A connection that is queued spoils a pool that is closed, and no other. -/
lemma staysClosed_iff_of_queued {l : List RedisMgr.Connection} {c : RedisMgr.Connection}
    (hqueued : s'._connects = l ++ [c]) (hclosed : s'.closed = s.closed) :
    StaysClosed s' ↔ s.closed = false := by
  rw [StaysClosed, hclosed, hqueued]
  cases s.closed <;> simp

/-- **One event** at a pool that has stayed closed. -/
lemma staysClosed_step (h : Closable s) (hclosed : StaysClosed s) (hstep : step N s e = some s') :
    StaysClosed s' ↔ Quiet s e := by
  have hopen : ∀ {c : Construction}, s.construction = c → c ≠ .returned → s.closed ≠ true :=
    fun hc hne htrue => hne (hc.symm.trans (h.constructed (.inl htrue)))
  cases effect_of_step hstep with
  | constructed i construction lt =>
    exact iff_of_true (fun hc => absurd hc (hopen construction (by simp))) trivial
  | pushed n fill => exact staysClosed_iff_of_queued rfl rfl
  | reconnected running => exact staysClosed_iff_of_queued rfl rfl
  | refused i q next stale caller phase stop => exact iff_of_true hclosed fun _ => stop
  | popped i q next stale connect rest caller phase stop connects =>
    -- the queue is not empty, so the pool is not closed
    have hfalse : s.closed = false := by
      rw [← Bool.not_eq_true]
      intro hc
      rw [(hclosed hc).1] at connects
      cases connects
    refine iff_of_true (fun hc => ?_) (fun hc => ?_)
    · exact absurd (hfalse.symm.trans hc) Bool.false_ne_true
    · exact absurd (hfalse.symm.trans hc) Bool.false_ne_true
  | stale i q next stale caller phase stop connects =>
    cases hc : s.closed with
    | false =>
      refine iff_of_true (fun hc' => ?_) (fun hc' => ?_)
      · exact absurd (hc.symm.trans hc') Bool.false_ne_true
      · exact absurd (hc.symm.trans hc') Bool.false_ne_true
    | true =>
      refine iff_of_false (fun h' => ?_) (fun h' => ?_)
      · have hlate := (h' hc).2
        simp [Pool.hand, Pool.setCaller, hc] at hlate
      · exact absurd (stop.symm.trans (h' hc)) Bool.false_ne_true
  | broken i q connect next caller phase => exact iff_of_true hclosed fun _ => .inl rfl
  | dropped i q connect next caller phase stop => exact iff_of_true hclosed fun _ => .inr stop
  | returned i q connect next caller phase stop =>
    have hqueued : StaysClosed
        { s.take i q.taken q.returned next connect with
          _connects := s._connects ++ [connect] } ↔ s.closed = false :=
      staysClosed_iff_of_queued rfl rfl
    rw [hqueued]
    simp only [Quiet, stop, Bool.false_eq_true, or_self, imp_false, Bool.not_eq_true]
  | drained mutex =>
    refine iff_of_true (fun _ => ⟨rfl, ?_⟩) trivial
    cases hc : s.closed with
    | false => exact h.early hc
    | true => exact (hclosed hc).2
  | _ => exact iff_of_true hclosed trivial

/-- **A closed Redis pool stays closed exactly when, after `close()`, no background thread
pushes a connection and `_isStop` is set at every return of a healthy connection and at the end
of every wait.** -/
theorem staysClosed_iff_quiet {N : ℕ} {es : List Event} {s : Pool}
    (hrun : run (step N) .init es = some s) :
    AllStates (step N) StaysClosed .init es ↔ AllSteps (step N) Quiet .init es :=
  allStates_iff_allSteps (I := Closable) (fun _ _ _ => closable_step)
    (fun _ _ _ => staysClosed_step) hrun closable_init nofun

/-- A pool of two with one connection is closed while one call holds the connection and another
one waits: then the fill thread fails to connect, the second call wakes up, and the first one
gives its connection back. -/
theorem staysClosed_whileCalled :
    AllStates (step 2) StaysClosed .init
      [.construct .ok, .construct .failed, .measure, .testEmpty, .call (.get [97]),
        .call (.get [97]), .enter 0, .test 0, .finish 0 0, .enter 1, .test 1, .close, .drain,
        .attempt .failed, .wake 1, .test 1, .finish 1 0, .redisCommand 0 none,
        .returnConnection 0 false] := by
  refine (staysClosed_iff_quiet rfl).2 (.cons rfl trivial (.cons rfl trivial (.cons rfl trivial
    (.cons rfl trivial (.cons rfl trivial (.cons rfl trivial (.cons rfl trivial (.cons rfl trivial
      (.cons rfl ?_ (.cons rfl trivial (.cons rfl trivial (.cons rfl trivial (.cons rfl trivial
        (.cons rfl trivial (.cons rfl trivial (.cons rfl trivial (.cons rfl ?_ (.cons rfl trivial
          (.cons rfl ?_ trivial)))))))))))))))))))
  · exact fun h => by cases h
  · exact fun _ => rfl
  · exact fun _ => .inr rfl

/-- The only connection of a pool could not be made.  The fill thread makes it when the pool is
closed already. -/
theorem not_staysClosed :
    ¬ ∀ (N : ℕ) (es : List Event) (s : Pool), run (step N) .init es = some s →
      AllStates (step N) StaysClosed .init es := by
  intro h
  have hall := h 1 [.construct .failed, .measure, .testEmpty, .setStop, .attempt .ok, .close,
    .drain, .push] _ rfl
  have hlast := hall.last rfl
  exact absurd (hlast rfl).1 (List.cons_ne_nil _ _)

end RedisConnectPool

end WeChat
