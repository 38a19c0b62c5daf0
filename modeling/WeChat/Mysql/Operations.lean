/-
# Concurrent database operations on the session pool

Each operation of `MySQLMgr` borrows a session with `getSessionGuard`, and the guard brings it
back at the end of its scope.  Four operations call another one while they hold their own
session: `loginAcconut` calls `queryUser`, `loginEmail` and `resetPassword` call `queryEmail`,
and `createGroup` calls `addGroupMember`.  The sessions are healthy here, so every probe
succeeds and the pool is a semaphore with one permit a session.
-/
import WeChat.Lib.Semaphore
import WeChat.Mysql.ConnectPool

namespace WeChat

namespace MySQLMgr

open Tally Transition Semaphore

/-- A call of an operation of `MySQLMgr`. -/
inductive Operation
  | loginAcconut
  | loginEmail
  | resetPassword
  /-- `inserted` says that the `INSERT` has succeeded, so that the owner is added. -/
  | createGroup (inserted : Bool)
  /-- An operation that takes a single session. -/
  | single

/-- The calls of `getSession` and `returnSession` of an operation that takes one session. -/
def one : List Action := [.acquire, .release]

/-- Those of an operation that calls another one while it holds its session. -/
def nested : List Action := [.acquire] ++ one ++ [.release]

/-- The calls of `getSession` and `returnSession` in an operation, in their order. -/
def Operation.calls : Operation → List Action
  | .loginAcconut => nested
  | .loginEmail => nested
  | .resetPassword => nested
  | .createGroup inserted => if inserted then nested else one
  | .single => one

/-! ## Where an operation stands -/

/-- An operation holds as many sessions as it has still to return, less those that it has still
to take; and it holds at most two. -/
inductive At : Process → Prop
  | outer (waiting : Bool) : At ⟨0, waiting, nested⟩
  | inner (waiting : Bool) : At ⟨1, waiting, [.acquire, .release, .release]⟩
  | both : At ⟨2, false, [.release, .release]⟩
  | alone (waiting : Bool) : At ⟨0, waiting, one⟩
  | last : At ⟨1, false, [.release]⟩
  | finished : At ⟨0, false, []⟩

lemma at_start (op : Operation) : At ⟨0, false, op.calls⟩ := by
  cases op with
  | loginAcconut => exact .outer false
  | loginEmail => exact .outer false
  | resetPassword => exact .outer false
  | createGroup inserted =>
    cases inserted with
    | true => exact .outer false
    | false => exact .alone false
  | single => exact .alone false

lemma at_acted {free free' : ℕ} {q q' : Process} (h : At q) (hacted : Acted free q free' q') :
    At q' := by
  cases hacted with
  | block rest next empty awake =>
    cases h with
    | outer waiting => exact .outer true
    | inner waiting => exact .inner true
    | alone waiting => exact .alone true
    | both => cases next
    | last => cases next
    | finished => cases next
  | take rest next free' permit =>
    cases h with
    | outer waiting =>
      obtain ⟨-, rfl⟩ := List.cons.inj next
      exact .inner false
    | inner waiting =>
      obtain ⟨-, rfl⟩ := List.cons.inj next
      exact .both
    | alone waiting =>
      obtain ⟨-, rfl⟩ := List.cons.inj next
      exact .last
    | both => cases next
    | last => cases next
    | finished => cases next
  | put rest next held permit =>
    cases h with
    | both =>
      obtain ⟨-, rfl⟩ := List.cons.inj next
      obtain rfl := Nat.succ.inj permit
      exact .last
    | last =>
      obtain ⟨-, rfl⟩ := List.cons.inj next
      obtain rfl := Nat.succ.inj permit
      exact .finished
    | outer waiting => cases next
    | inner waiting => cases next
    | alone waiting => cases next
    | finished => cases next

lemma at_step {s s' : Semaphore.State} {e : Semaphore.Event Operation}
    (hs : ∀ q ∈ s.processes, At q)
    (hstep : Semaphore.step Operation.calls s e = some s') : ∀ q ∈ s'.processes, At q :=
  processes_step at_start (fun _ _ _ _ => at_acted) hs hstep

lemma at_of_run {N : ℕ} {es : List (Semaphore.Event Operation)} {s : Semaphore.State}
    (hrun : run (Semaphore.step Operation.calls) (.init N) es = some s) : ∀ q ∈ s.processes, At q :=
  run_invariant (I := fun s => ∀ q ∈ s.processes, At q) (fun _ _ _ => at_step) hrun
    (by simp [Semaphore.State.init])

/-! ## The pool runs as a semaphore -/

/-- A pool whose sessions are healthy, as the operations see it. -/
structure PoolOf (s : Semaphore.State) (p : MySQLConnectPool.Pool) : Prop where
  running : p.running = true
  idle : p.idle = s.free
  borrowed : p.borrowed = tally Process.held s.processes

/-- An action of an operation is a call of `getSession` or of `returnSession`, or it blocks. -/
lemma PoolOf.step {N : ℕ} {s s' : Semaphore.State} {p : MySQLConnectPool.Pool}
    {e : Semaphore.Event Operation}
    (h : PoolOf s p) (hstep : Semaphore.step Operation.calls s e = some s') :
    ∃ es p', run (MySQLConnectPool.step N) p es = some p' ∧ PoolOf s' p' := by
  have hidle := h.idle
  have hborrowed := h.borrowed
  cases e with
  | start op =>
    obtain rfl := Option.some.inj hstep
    exact ⟨[], p, rfl, h.running, hidle, by simp [hborrowed]⟩
  | act i =>
    obtain ⟨q, free', q', hq, hacted, rfl⟩ := step_act hstep
    have hset := tally_set Process.held hq q'
    have hheld := le_tally Process.held (List.mem_of_getElem? hq)
    cases hacted with
    | block rest next empty awake =>
      refine ⟨[], p, rfl, h.running, hidle, ?_⟩
      dsimp only at hset ⊢
      omega
    | take rest next free' permit =>
      refine ⟨[.getSession], { p with idle := p.idle - 1, borrowed := p.borrowed + 1 }, ?_,
        h.running, ?_, ?_⟩
      · have hsome : 0 < p.idle := by omega
        simp [run, MySQLConnectPool.step, h.running, hsome]
      · dsimp only
        omega
      · dsimp only at hset ⊢
        omega
    | put rest next held permit =>
      refine ⟨[.returnSession true], { p with idle := p.idle + 1, borrowed := p.borrowed - 1 }, ?_,
        h.running, ?_, ?_⟩
      · have hsome : 0 < p.borrowed := by omega
        simp [run, MySQLConnectPool.step, hsome]
      · dsimp only
        omega
      · dsimp only at hset ⊢
        omega

/-- **The operations run on the pool.**  A run of operations over `N` permits is a run of the
pool, started with `N` sessions, in which no session fails. -/
theorem operations_refine_pool {N : ℕ} (hN : 1 ≤ N) {es : List (Semaphore.Event Operation)}
    {s : Semaphore.State}
    (hrun : run (Semaphore.step Operation.calls) (.init N) es = some s) :
    ∃ es' p, run (MySQLConnectPool.step N) (.init N N) es' = some p ∧ PoolOf s p := by
  refine run_invariant
    (I := fun s => ∃ es' p, run (MySQLConnectPool.step N) (.init N N) es' = some p ∧ PoolOf s p)
    ?_ hrun ⟨[.constructed], { MySQLConnectPool.Pool.init N N with running := true }, ?_,
      rfl, rfl, rfl⟩
  · rintro s e s' ⟨es', p, hrun', h⟩ hstep
    obtain ⟨es'', p', hrun'', h'⟩ := h.step hstep
    exact ⟨es' ++ es'', p', (run_append_of hrun').trans hrun'', h'⟩
  · have hsome : 0 < N := hN
    simp [run, MySQLConnectPool.step, MySQLConnectPool.Pool.init, hsome]

/-! ## Deadlock -/

/-- A nested operation takes its first session only when, with it, fewer operations than there
are sessions hold one and wait for a second. -/
def Roomy (N : ℕ) (s : Semaphore.State) : Semaphore.Event Operation → Prop
  | .start _ => True
  | .act i => ∀ q, s.processes[i]? = some q → q.rest = nested → 0 < s.free →
      tally Process.wants s.processes + 1 < N

/-- An action makes an operation want a second session only if it gives it the first. -/
lemma wants_acted {free free' : ℕ} {q q' : Process} (h : At q) (hacted : Acted free q free' q') :
    q'.wants ≤ q.wants ∨ q.rest = nested ∧ 0 < free ∧ q'.wants = q.wants + 1 := by
  cases hacted with
  | block rest next empty awake => exact .inl le_rfl
  | take rest next free' permit =>
    cases h with
    | outer waiting =>
      obtain ⟨-, rfl⟩ := List.cons.inj next
      exact .inr ⟨rfl, by omega, rfl⟩
    | inner waiting =>
      obtain ⟨-, rfl⟩ := List.cons.inj next
      exact .inl (Nat.zero_le _)
    | alone waiting =>
      obtain ⟨-, rfl⟩ := List.cons.inj next
      exact .inl (Nat.zero_le _)
    | both => cases next
    | last => cases next
    | finished => cases next
  | put rest next held permit =>
    cases h with
    | both =>
      obtain ⟨-, rfl⟩ := List.cons.inj next
      exact .inl (by simp [Process.wants])
    | last =>
      obtain ⟨-, rfl⟩ := List.cons.inj next
      exact .inl (by simp [Process.wants])
    | outer waiting => cases next
    | inner waiting => cases next
    | alone waiting => cases next
    | finished => cases next

/-- A nested operation that takes its first session wants a second one. -/
lemma wants_take {free free' : ℕ} {q q' : Process} (h : At q) (hacted : Acted free q free' q')
    (hrest : q.rest = nested) (hfree : 0 < free) : q'.wants = q.wants + 1 := by
  cases h with
  | outer waiting =>
    cases hacted with
    | block rest next empty awake => omega
    | take rest next free' permit =>
      obtain ⟨-, rfl⟩ := List.cons.inj next
      rfl
    | put rest next held permit => cases next
  | inner waiting => cases hrest
  | both => cases hrest
  | alone waiting => cases hrest
  | last => cases hrest
  | finished => cases hrest

lemma tally_wants_step {s s' : Semaphore.State} {e : Semaphore.Event Operation}
    (hat : ∀ q ∈ s.processes, At q)
    (hstep : Semaphore.step Operation.calls s e = some s') :
    tally Process.wants s'.processes ≤ tally Process.wants s.processes ∨
      ∃ i q, e = .act i ∧ s.processes[i]? = some q ∧ q.rest = nested ∧ 0 < s.free ∧
        tally Process.wants s'.processes = tally Process.wants s.processes + 1 := by
  cases e with
  | start op =>
    obtain rfl := Option.some.inj hstep
    exact .inl (by simp [Process.wants])
  | act i =>
    obtain ⟨q, free', q', hq, hacted, rfl⟩ := step_act hstep
    have hset := tally_set Process.wants hq q'
    obtain hle | ⟨hrest, hfree, hwants⟩ := wants_acted (hat q (List.mem_of_getElem? hq)) hacted
    · refine .inl ?_
      dsimp only
      omega
    · refine .inr ⟨i, q, rfl, hq, hrest, hfree, ?_⟩
      dsimp only
      omega

lemma tally_wants_lt_step {N : ℕ} {s s' : Semaphore.State} {e : Semaphore.Event Operation}
    (hat : ∀ q ∈ s.processes, At q) (hlt : tally Process.wants s.processes < N)
    (hroomy : Roomy N s e) (hstep : Semaphore.step Operation.calls s e = some s') :
    tally Process.wants s'.processes < N := by
  obtain hle | ⟨i, q, rfl, hq, hrest, hfree, heq⟩ := tally_wants_step hat hstep
  · exact hle.trans_lt hlt
  · exact heq ▸ hroomy q hq hrest hfree

/-- A nested operation that takes its first session in a full house. -/
lemma le_tally_wants_of_not_roomy {N : ℕ} {s s' : Semaphore.State} {e : Semaphore.Event Operation}
    (hat : ∀ q ∈ s.processes, At q) (hstep : Semaphore.step Operation.calls s e = some s')
    (h : ¬ Roomy N s e) : N ≤ tally Process.wants s'.processes := by
  cases e with
  | start op => exact absurd trivial h
  | act i =>
    simp only [Roomy, not_forall, not_lt] at h
    obtain ⟨q, hq, hrest, hfree, hle⟩ := h
    obtain ⟨q₁, free', q', hq₁, hacted, rfl⟩ := step_act hstep
    obtain rfl : q = q₁ := Option.some.inj (hq.symm.trans hq₁)
    have hset := tally_set Process.wants hq q'
    have hwants := wants_take (hat q (List.mem_of_getElem? hq)) hacted hrest hfree
    dsimp only
    omega

/-- In a stop every session is held by an operation that wants a second one. -/
lemma tally_wants_of_stuck {N : ℕ} {es : List (Semaphore.Event Operation)} {s : Semaphore.State}
    (hrun : run (Semaphore.step Operation.calls) (.init N) es = some s) (h : Stuck s) :
    N ≤ tally Process.wants s.processes := by
  have hcons := conserved_of_run hrun
  rw [h.empty, zero_add] at hcons
  rw [← hcons]
  refine tally_le_tally fun q hq => ?_
  have hwaiting := h.waiting q hq
  cases at_of_run hrun q hq with
  | outer waiting => exact Nat.zero_le _
  | inner waiting => exact le_rfl
  | alone waiting => exact Nat.zero_le _
  | finished => exact Nat.zero_le _
  | both => cases hwaiting (by simp)
  | last => cases hwaiting (by simp)

/-- When every session is held by an operation that wants a second one, the operations can
come to a stop. -/
lemma exists_stuck_of_full {N : ℕ} (hN : 1 ≤ N) {es : List (Semaphore.Event Operation)}
    {s : Semaphore.State}
    (hrun : run (Semaphore.step Operation.calls) (.init N) es = some s)
    (hfull : N ≤ tally Process.wants s.processes) :
    ∃ es' t, run (Semaphore.step Operation.calls) s es' = some t ∧ Stuck t := by
  have hcons := conserved_of_run hrun
  have hle := tally_le_tally (l := s.processes) fun q _ => q.wants_le_held
  have heq := eq_of_tally_le (l := s.processes) (fun q _ => q.wants_le_held) (by omega)
  have hpos : tally Process.wants s.processes ≠ 0 := by omega
  obtain ⟨i, q, hi, hwants⟩ := exists_of_tally_ne_zero hpos
  refine exists_run_stuck (by omega) (fun q hq => ?_) ⟨q, List.mem_of_getElem? hi, fun hrest => ?_⟩
  · -- an operation that is about to return a session would hold one that it does not want
    have hq' := heq q hq
    cases at_of_run hrun q hq with
    | outer waiting => exact .inr ⟨_, rfl⟩
    | inner waiting => exact .inr ⟨_, rfl⟩
    | alone waiting => exact .inr ⟨_, rfl⟩
    | finished => exact .inl rfl
    | both => simp [Process.wants] at hq'
    | last => simp [Process.wants] at hq'
  · simp [Process.wants, hrest] at hwants

/-- **The operations cannot come to a stop while a nested one takes its first session only when
fewer operations than there are sessions then hold one and want a second**; a nested operation
that takes it at another moment can lead into a stop. -/
theorem not_stuck_of_roomy {N : ℕ} (hN : 1 ≤ N) {es : List (Semaphore.Event Operation)}
    {s : Semaphore.State}
    (hrun : run (Semaphore.step Operation.calls) (.init N) es = some s) :
    (AllSteps (Semaphore.step Operation.calls) (Roomy N) (.init N) es → ¬ Stuck s) ∧
    ∀ e s', Semaphore.step Operation.calls s e = some s' → ¬ Roomy N s e →
      ∃ es' t, run (Semaphore.step Operation.calls) s' es' = some t ∧ Stuck t := by
  constructor
  · intro hok hstuck
    have hinv := run_induction
      (I := fun s => (∀ q ∈ s.processes, At q) ∧ tally Process.wants s.processes < N)
      (fun s e s' hs hroomy hstep =>
        ⟨at_step hs.1 hstep, tally_wants_lt_step hs.1 hs.2 hroomy hstep⟩)
      hrun hok ⟨by simp [Semaphore.State.init], Nat.lt_of_lt_of_le Nat.zero_lt_one hN⟩
    exact absurd (tally_wants_of_stuck hrun hstuck) (Nat.not_le.2 hinv.2)
  · intro e s' hstep hcrowded
    have hrun' : run (Semaphore.step Operation.calls) (.init N) (es ++ [e]) = some s' :=
      (run_append_of hrun).trans (run_cons hstep [])
    exact exists_stuck_of_full hN hrun'
      (le_tally_wants_of_not_roomy (at_of_run hrun) hstep hcrowded)

/-- Two logins on a pool of three sessions: each holds one, the first one takes the third, and the
second one waits for it. -/
theorem not_stuck_of_roomy_logins :
    ¬ Stuck ⟨0, [⟨2, false, [.release, .release]⟩, ⟨1, true, [.acquire, .release, .release]⟩]⟩ := by
  have hrun : run (Semaphore.step Operation.calls) (.init 3)
      [.start .loginAcconut, .start .loginEmail, .act 0, .act 1, .act 0, .act 1] = some _ := rfl
  refine (not_stuck_of_roomy (by decide) hrun).1 (.cons rfl trivial (.cons rfl trivial
    (.cons rfl ?_ (.cons rfl ?_ (.cons rfl ?_ (.cons rfl ?_ trivial))))))
  all_goals
    intro q hq
    obtain rfl := Option.some.inj hq
    decide

/-- Two logins by account on a pool of two sessions: each holds one and waits for the other's. -/
theorem not_deadlock_free :
    ¬ ∀ (N : ℕ) (es : List (Semaphore.Event Operation)) (s : Semaphore.State), 1 ≤ N →
      run (Semaphore.step Operation.calls) (.init N) es = some s → ¬ Stuck s := by
  intro h
  refine h 2 [.start .loginAcconut, .start .loginAcconut, .act 0, .act 1, .act 0, .act 1] _
    (by decide) rfl ⟨⟨_, List.mem_cons_self, by decide⟩, rfl, ?_⟩
  decide

end MySQLMgr

end WeChat
