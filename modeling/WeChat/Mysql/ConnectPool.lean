/-
# The MySQL connection pool

`MySQLConnectPool` keeps idle sessions in `_sessions`.  A borrowed session is in no list, and
its guard brings it back; a health pass drops the idle sessions that fail `SELECT 1` and starts
one reconnect thread for each.  A session is only counted here: what matters is how many there
are, and which reconnect threads are under way.
-/
import WeChat.Lib.Tally
import WeChat.Lib.Transition

namespace WeChat

namespace MySQLConnectPool

open Tally Transition

/-- A thread of `reconnect()`. -/
inductive Thread
  /-- It has not read the size of `_sessions`. -/
  | started
  /-- Its loop is at `i`. -/
  | adding (i : ℕ)
  /-- A connection has failed, and the exception has ended the loop. -/
  | ended

structure Pool where
  /-- The size of `_sessions`. -/
  idle : ℕ
  borrowed : ℕ
  /-- The entries of `sessionsToReconnect` that the health pass has still to go through. -/
  sessionsToReconnect : ℕ
  threads : List Thread
  /-- The constructor has found a session, so `_isStop` is false. -/
  running : Bool

inductive Event
  /-- The end of the constructor: `_sessions` is not empty, and `checkConnection` is called. -/
  | constructed
  | getSession
  /-- `returnSession` of a guard; `alive` says that `SELECT 1` has succeeded. -/
  | returnSession (alive : Bool)
  /-- A health pass under the lock, in which `failed` idle sessions fail. -/
  | checkConnection (failed : ℕ)
  /-- The call of `reconnect()` for one of the failed sessions. -/
  | reconnect
  /-- `int num = _sessions.size()` in a reconnect thread. -/
  | size (t : ℕ)
  /-- One round of the loop of a reconnect thread. -/
  | connect (t : ℕ) (ok : Bool)

/-- The loops of the constructor have made `connected` of `_poolSize` sessions. -/
def Pool.init (_poolSize connected : ℕ) : Pool where
  idle := connected
  borrowed := 0
  sessionsToReconnect := 0
  threads := if connected < _poolSize then [.started] else []
  running := false

/-- One event at a pool.  The guard never returns a null session, so `returnSession` does not
call `reconnect()`. -/
def step (_poolSize : ℕ) (s : Pool) : Event → Option Pool
  | .constructed =>
    if s.running = false ∧ 0 < s.idle then some { s with running := true } else none
  | .getSession =>
    if s.running = true ∧ 0 < s.idle then
      some { s with idle := s.idle - 1, borrowed := s.borrowed + 1 }
    else none
  | .returnSession alive =>
    if 0 < s.borrowed then
      some { s with
        idle := if alive then s.idle + 1 else s.idle
        borrowed := s.borrowed - 1 }
    else none
  | .checkConnection failed =>
    if s.running = true ∧ s.sessionsToReconnect = 0 ∧ failed ≤ s.idle then
      some { s with idle := s.idle - failed, sessionsToReconnect := failed }
    else none
  | .reconnect =>
    if 0 < s.sessionsToReconnect then
      some { s with
        sessionsToReconnect := s.sessionsToReconnect - 1
        threads := s.threads ++ [.started] }
    else none
  | .size t =>
    match s.threads[t]? with
    | some .started => some { s with threads := s.threads.set t (.adding s.idle) }
    | _ => none
  | .connect t ok =>
    match s.threads[t]? with
    | some (.adding i) =>
      if i < _poolSize then
        if ok then
          some { s with idle := s.idle + 1, threads := s.threads.set t (.adding (i + 1)) }
        else
          some { s with threads := s.threads.set t .ended }
      else none
    | _ => none

variable {N : ℕ}

/-! ## What the events do -/

/-- What an event needs, and the pool after it. -/
inductive Effect (N : ℕ) (s : Pool) : Event → Pool → Prop
  | constructed (idle : 0 < s.idle) : Effect N s .constructed { s with running := true }
  | taken (running : s.running = true) (idle : 0 < s.idle) :
    Effect N s .getSession { s with idle := s.idle - 1, borrowed := s.borrowed + 1 }
  | returned (borrowed : 0 < s.borrowed) :
    Effect N s (.returnSession true) { s with idle := s.idle + 1, borrowed := s.borrowed - 1 }
  | dropped (borrowed : 0 < s.borrowed) :
    Effect N s (.returnSession false) { s with borrowed := s.borrowed - 1 }
  | checked (failed : ℕ) (running : s.running = true) (none : s.sessionsToReconnect = 0)
      (le : failed ≤ s.idle) : Effect N s (.checkConnection failed)
        { s with idle := s.idle - failed, sessionsToReconnect := failed }
  | started (some : 0 < s.sessionsToReconnect) :
    Effect N s .reconnect
      { s with
        sessionsToReconnect := s.sessionsToReconnect - 1
        threads := s.threads ++ [.started] }
  | read (t : ℕ) (thread : s.threads[t]? = some .started) :
    Effect N s (.size t) { s with threads := s.threads.set t (.adding s.idle) }
  | connected (t i : ℕ) (thread : s.threads[t]? = some (.adding i)) (lt : i < N) :
    Effect N s (.connect t true)
      { s with idle := s.idle + 1, threads := s.threads.set t (.adding (i + 1)) }
  | ended (t i : ℕ) (thread : s.threads[t]? = some (.adding i)) (lt : i < N) :
    Effect N s (.connect t false) { s with threads := s.threads.set t .ended }

lemma effect_of_step {s s' : Pool} {e : Event} (h : step N s e = some s') : Effect N s e s' := by
  cases e with
  | constructed =>
    simp only [step, Option.ite_none_right_eq_some] at h
    obtain ⟨⟨-, hidle⟩, hs'⟩ := h
    exact Option.some.inj hs' ▸ .constructed hidle
  | getSession =>
    simp only [step, Option.ite_none_right_eq_some] at h
    obtain ⟨⟨hrunning, hidle⟩, hs'⟩ := h
    exact Option.some.inj hs' ▸ .taken hrunning hidle
  | returnSession alive =>
    simp only [step, Option.ite_none_right_eq_some] at h
    obtain ⟨hborrowed, hs'⟩ := h
    cases alive with
    | true => exact Option.some.inj hs' ▸ .returned hborrowed
    | false => exact Option.some.inj hs' ▸ .dropped hborrowed
  | checkConnection failed =>
    simp only [step, Option.ite_none_right_eq_some] at h
    obtain ⟨⟨hrunning, hnone, hle⟩, hs'⟩ := h
    exact Option.some.inj hs' ▸ .checked failed hrunning hnone hle
  | reconnect =>
    simp only [step, Option.ite_none_right_eq_some] at h
    obtain ⟨hsome, hs'⟩ := h
    exact Option.some.inj hs' ▸ .started hsome
  | size t =>
    simp only [step] at h
    split at h
    · next hthread => exact Option.some.inj h ▸ .read t hthread
    · cases h
  | connect t ok =>
    simp only [step] at h
    split at h
    · next i hthread =>
      split_ifs at h with hlt hok
      · subst hok
        exact Option.some.inj h ▸ .connected t i hthread hlt
      · rw [Bool.not_eq_true] at hok
        subst hok
        exact Option.some.inj h ▸ .ended t i hthread hlt
    · cases h

/-! ## The last session -/

/-- A reconnect thread has still an attempt to make. -/
def Thread.attempt (N : ℕ) : Thread → ℕ
  | .started => 1
  | .adding i => if i < N then 1 else 0
  | .ended => 0

/-- The sessions of a pool, and the attempts at a new one that are pending. -/
def Pool.reserves (N : ℕ) (s : Pool) : ℕ :=
  s.idle + s.borrowed + s.sessionsToReconnect + tally (Thread.attempt N) s.threads

/-- A running pool has a session, or an attempt at one is pending. -/
def Refillable (N : ℕ) (s : Pool) : Prop :=
  s.running = true →
    0 < s.idle ∨ 0 < s.borrowed ∨ 0 < s.sessionsToReconnect ∨
      ∃ thread ∈ s.threads, thread.attempt N ≠ 0

lemma refillable_iff {s : Pool} : Refillable N s ↔ (s.running = true → 0 < s.reserves N) := by
  refine imp_congr_right fun _ => ?_
  have hthreads : (∃ thread ∈ s.threads, thread.attempt N ≠ 0) ↔
      0 < tally (Thread.attempt N) s.threads := by
    rw [Nat.pos_iff_ne_zero, Ne, tally_eq_zero_iff]
    simp
  rw [hthreads, Pool.reserves]
  omega

/-- A session that fails on its return, or a connection that fails, is not the last one. -/
def NotLast (N : ℕ) (s : Pool) : Event → Prop
  | .returnSession alive => alive = false → s.running = true → 1 < s.reserves N
  | .connect _ ok => ok = false → s.running = true → 1 < s.reserves N
  | _ => True

/-- A pool without room never has a session. -/
def Roomless (N : ℕ) (s : Pool) : Prop :=
  N = 0 → s.idle = 0 ∧ s.borrowed = 0 ∧ s.running = false

lemma roomless_step {s s' : Pool} {e : Event} (h : Roomless N s) (hstep : step N s e = some s') :
    Roomless N s' := by
  intro hN
  obtain ⟨hidle, hborrowed, hrunning⟩ := h hN
  cases effect_of_step hstep with
  | constructed idle => exact absurd idle (by omega)
  | taken running idle => exact absurd idle (by omega)
  | returned borrowed => exact absurd borrowed (by omega)
  | dropped borrowed => exact absurd borrowed (by omega)
  | checked failed running none le => rw [hrunning] at running; cases running
  | started some => exact ⟨hidle, hborrowed, hrunning⟩
  | read t thread => exact ⟨hidle, hborrowed, hrunning⟩
  | connected t i thread lt => exact absurd lt (by omega)
  | ended t i thread lt => exact absurd lt (by omega)

/-- A reconnect thread that reads the size of the pool still has an attempt to make, or the
pool has a session. -/
lemma reserves_read {s : Pool} {t : ℕ} (hroom : Roomless N s) (hrunning : s.running = true)
    (ht : s.threads[t]? = some .started) :
    0 < Pool.reserves N { s with threads := s.threads.set t (.adding s.idle) } := by
  have hone := le_tally (Thread.attempt N) (List.mem_of_getElem? ht)
  have hset := tally_set (Thread.attempt N) ht (.adding s.idle)
  have hN : N ≠ 0 := by
    intro hN
    rw [(hroom hN).2.2] at hrunning
    cases hrunning
  simp only [Pool.reserves]
  by_cases hidle : s.idle < N
  · simp only [Thread.attempt, if_pos hidle] at hone hset
    omega
  · omega

/-- A failed connection takes one attempt away. -/
lemma reserves_ended {s : Pool} {t i : ℕ} (ht : s.threads[t]? = some (.adding i)) (hi : i < N) :
    Pool.reserves N { s with threads := s.threads.set t .ended } + 1 = s.reserves N := by
  have hset := tally_set (Thread.attempt N) ht .ended
  simp only [Thread.attempt, if_pos hi] at hset
  simp only [Pool.reserves]
  omega

/-- **One event**: it leaves the pool refillable exactly when it does not lose the last
session. -/
lemma refillable_step {s s' : Pool} {e : Event} (hroom : Roomless N s) (h : Refillable N s)
    (hstep : step N s e = some s') : Refillable N s' ↔ NotLast N s e := by
  rw [refillable_iff] at h ⊢
  cases effect_of_step hstep with
  | constructed idle =>
    refine iff_of_true (fun _ => ?_) trivial
    simp only [Pool.reserves]
    omega
  | taken running idle =>
    refine iff_of_true (fun _ => ?_) trivial
    simp only [Pool.reserves]
    omega
  | returned borrowed =>
    refine iff_of_true (fun _ => ?_) (fun hfalse => by cases hfalse)
    simp only [Pool.reserves]
    omega
  | dropped borrowed =>
    simp only [NotLast, Pool.reserves, forall_const]
    exact imp_congr_right fun _ => by omega
  | checked failed running none le =>
    refine iff_of_true (fun _ => ?_) trivial
    have := h running
    simp only [Pool.reserves] at this ⊢
    omega
  | started some =>
    refine iff_of_true (fun _ => ?_) trivial
    simp only [Pool.reserves, tally_append, tally_cons, Thread.attempt]
    omega
  | read t thread => exact iff_of_true (fun hrunning => reserves_read hroom hrunning thread) trivial
  | connected t i thread lt =>
    refine iff_of_true (fun _ => ?_) (fun hfalse => by cases hfalse)
    simp only [Pool.reserves]
    omega
  | ended t i thread lt =>
    have hless := reserves_ended thread lt
    simp only [NotLast, forall_const]
    exact imp_congr_right fun _ => by omega

lemma refillable_init (k : ℕ) : Refillable N (.init N k) := by
  intro h
  cases h

lemma roomless_init {k : ℕ} (hk : k ≤ N) : Roomless N (.init N k) := by
  intro hN
  exact ⟨Nat.le_zero.1 (hN ▸ hk), rfl, rfl⟩

/-- **The pool keeps a session, or an attempt at one, exactly when neither a failed return nor
a failed connection takes the last.** -/
theorem refillable_iff_notLast {k : ℕ} (hk : k ≤ N) {es : List Event} {s : Pool}
    (hrun : run (step N) (.init N k) es = some s) :
    AllStates (step N) (Refillable N) (.init N k) es ↔
      AllSteps (step N) (NotLast N) (.init N k) es :=
  allStates_iff_allSteps (I := Roomless N) (fun _ _ _ => roomless_step)
    (fun _ _ _ => refillable_step) hrun (roomless_init hk) (refillable_init k)

/-- One of two sessions fails on its return and the other one in a health pass; a thread connects
again, and its next connection fails. -/
theorem refillable_reconnected :
    AllStates (step 2) (Refillable 2) (.init 2 2)
      [.constructed, .getSession, .returnSession false, .checkConnection 1, .reconnect, .size 0,
        .connect 0 true, .connect 0 false] := by
  refine (refillable_iff_notLast le_rfl rfl).2 (.cons rfl trivial (.cons rfl trivial
    (.cons rfl ?_ (.cons rfl trivial (.cons rfl trivial (.cons rfl trivial
      (.cons rfl ?_ (.cons rfl ?_ trivial))))))))
  · exact fun _ _ => by decide
  · exact fun h => by cases h
  · exact fun _ _ => by decide

/-- The only session of a pool fails on its return, and nothing will replace it. -/
theorem not_refillable :
    ¬ ∀ (N k : ℕ) (es : List Event) (s : Pool), k ≤ N → run (step N) (.init N k) es = some s →
      AllStates (step N) (Refillable N) (.init N k) es := by
  intro h
  have hall :=
    h 1 1 [.constructed, .getSession, .returnSession false] ⟨0, 0, 0, [], true⟩ le_rfl rfl
  obtain h' | h' | h' | ⟨thread, hmem, -⟩ :=
    hall.last (t := ⟨0, 0, 0, [], true⟩) rfl rfl
  · cases h'
  · cases h'
  · cases h'
  · cases hmem

/-! ## The size of the pool -/

/-- The sessions that a reconnect thread is still to add, if its connections succeed. -/
def Thread.toAdd (N : ℕ) : Thread → ℕ
  | .adding i => N - i
  | _ => 0

/-- The sessions of a pool, and those that its reconnect threads are still to add. -/
def Pool.committed (N : ℕ) (s : Pool) : ℕ :=
  s.idle + s.borrowed + tally (Thread.toAdd N) s.threads

/-- A reconnect thread reads the size of `_sessions` while no session is borrowed and no other
thread has sessions to add. -/
def Alone (N : ℕ) (s : Pool) : Event → Prop
  | .size _ => s.borrowed = 0 ∧ tally (Thread.toAdd N) s.threads = 0
  | _ => True

/-- Only the moment in which a thread reads the size can raise what the pool is committed to. -/
lemma committed_step {s s' : Pool} {e : Event} (hstep : step N s e = some s') :
    s'.committed N ≤ s.committed N ∨
      ∃ t, e = .size t ∧ s'.committed N = s.committed N + (N - s.idle) := by
  cases effect_of_step hstep with
  | read t thread =>
    have hset := tally_set (Thread.toAdd N) thread (.adding s.idle)
    refine .inr ⟨t, rfl, ?_⟩
    simp only [Thread.toAdd] at hset
    simp only [Pool.committed]
    omega
  | connected t i thread lt =>
    have hset := tally_set (Thread.toAdd N) thread (.adding (i + 1))
    refine .inl ?_
    simp only [Thread.toAdd] at hset
    simp only [Pool.committed]
    omega
  | ended t i thread lt =>
    have hset := tally_set (Thread.toAdd N) thread .ended
    refine .inl ?_
    simp only [Thread.toAdd] at hset
    simp only [Pool.committed]
    omega
  | started some =>
    refine .inl ?_
    simp [Pool.committed, Thread.toAdd]
  | _ =>
    refine .inl ?_
    simp only [Pool.committed]
    omega

/-- While every thread reads the size alone, the pool is committed to at most its size. -/
lemma committed_le_step {s s' : Pool} {e : Event} (h : s.committed N ≤ N) (hok : Alone N s e)
    (hstep : step N s e = some s') : s'.committed N ≤ N := by
  obtain hle | ⟨t, rfl, heq⟩ := committed_step hstep
  · exact hle.trans h
  · obtain ⟨hborrowed, hadd⟩ := hok
    simp only [Pool.committed] at h heq ⊢
    omega

lemma size_le_committed (s : Pool) : s.idle + s.borrowed ≤ s.committed N :=
  Nat.le_add_right _ _

/-- The threads can add all the sessions that the pool is committed to. -/
lemma exists_run_committed (s : Pool) :
    ∃ es u, run (step N) s es = some u ∧ u.idle + u.borrowed = s.committed N := by
  induction hn : tally (Thread.toAdd N) s.threads generalizing s with
  | zero => exact ⟨[], s, rfl, by simp [Pool.committed, hn]⟩
  | succ n ih =>
    have hne : tally (Thread.toAdd N) s.threads ≠ 0 := by omega
    obtain ⟨t, thread, ht, hadd⟩ := exists_of_tally_ne_zero hne
    cases thread with
    | started => exact absurd rfl hadd
    | ended => exact absurd rfl hadd
    | adding i =>
      have hi : i < N := Nat.lt_of_sub_ne_zero hadd
      have hset := tally_set (Thread.toAdd N) ht (.adding (i + 1))
      simp only [Thread.toAdd] at hset
      have hstep : step N s (.connect t true) =
          some { s with idle := s.idle + 1, threads := s.threads.set t (.adding (i + 1)) } := by
        simp [step, ht, hi]
      obtain ⟨es, u, hrun, hu⟩ :=
        ih { s with idle := s.idle + 1, threads := s.threads.set t (.adding (i + 1)) }
          (by dsimp only; omega)
      refine ⟨.connect t true :: es, u, (run_cons hstep es).trans hrun, ?_⟩
      simp only [Pool.committed] at hu ⊢
      omega

/-- A thread that does not read the size alone commits the pool to more than its size. -/
lemma lt_committed_of_not_alone {s s' : Pool} {t : ℕ} (h : ¬ Alone N s (.size t))
    (hstep : step N s (.size t) = some s') : N < s'.committed N := by
  cases effect_of_step hstep with
  | read t thread =>
    have hset := tally_set (Thread.toAdd N) thread (.adding s.idle)
    simp only [Thread.toAdd] at hset
    simp only [Alone] at h
    simp only [Pool.committed]
    omega

lemma committed_init {k : ℕ} (hk : k ≤ N) : (Pool.init N k).committed N ≤ N := by
  simp only [Pool.init, Pool.committed]
  split <;> simpa [Thread.toAdd] using hk

/-- **The pool keeps its size while every reconnect thread reads the size alone**: as long as
no session is borrowed and no other thread has sessions to add.  A thread that reads the size
at another moment can take the pool beyond its size. -/
theorem size_le_poolSize {k : ℕ} (hk : k ≤ N) {es : List Event} {s : Pool}
    (hrun : run (step N) (.init N k) es = some s) :
    (AllSteps (step N) (Alone N) (.init N k) es → s.idle + s.borrowed ≤ N) ∧
    ∀ t s', step N s (.size t) = some s' → ¬ Alone N s (.size t) →
      ∃ es' u, run (step N) s' es' = some u ∧ N < u.idle + u.borrowed := by
  constructor
  · intro hok
    have hle : s.committed N ≤ N :=
      run_induction (I := fun s => s.committed N ≤ N) (fun _ _ _ => committed_le_step) hrun hok
        (committed_init hk)
    exact (size_le_committed s).trans hle
  · intro t s' hstep halone
    obtain ⟨es', u, hrun', hu⟩ := exists_run_committed (N := N) s'
    exact ⟨es', u, hrun', hu ▸ lt_committed_of_not_alone halone hstep⟩

/-- A pool of two of which the constructor has made one: its thread adds the other. -/
theorem size_le_poolSize_two :
    ∃ s, run (step 2) (.init 2 1) [.size 0, .connect 0 true, .constructed] = some s ∧
      s.idle + s.borrowed ≤ 2 :=
  ⟨⟨2, 0, 0, [.adding 2], true⟩, rfl, (size_le_poolSize (N := 2) (k := 1) (by decide)
    (show run _ _ [.size 0, .connect 0 true, .constructed] = some _ from rfl)).1
    ⟨⟨rfl, rfl⟩, fun _ _ => ⟨trivial, fun _ _ => ⟨trivial, fun _ _ => trivial⟩⟩⟩⟩

/-- One session of two is borrowed while the other fails: the thread adds two. -/
theorem not_size_le_poolSize :
    ¬ ∀ (N k : ℕ) (es : List Event) (s : Pool), k ≤ N → run (step N) (.init N k) es = some s →
      s.idle + s.borrowed ≤ N := by
  intro h
  have hle := h 2 2
    [.constructed, .getSession, .checkConnection 1, .reconnect, .size 0, .connect 0 true,
      .connect 0 true] ⟨2, 1, 0, [.adding 2], true⟩ le_rfl rfl
  simp at hle

end MySQLConnectPool

end WeChat
