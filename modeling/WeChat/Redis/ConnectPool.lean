/-
# The Redis connection pool

`RedisConnectPool` keeps idle connections in `_connects`, under `_mutex`.  Callers take one and
give it back; a connection that has failed is freed and a reconnect thread makes another one; a
detached thread fills what the constructor could not connect.  The flag `_isStop` is atomic: the
fill thread and the constructor read and write it without the mutex, in between the tests of a
call of `getConnection`.
-/
import WeChat.Lib.Tally
import WeChat.Lib.Transition
import WeChat.Redis.RedisMgr

namespace WeChat

namespace RedisConnectPool

open Tally Transition RedisMgr

/-! ## The pool -/

/-- Where a call of an operation stands. -/
inductive Phase
  /-- Before the next action of the program. -/
  | run (p : Program Unit)
  /-- In `getConnection` with the mutex, before the predicate of the wait. -/
  | testing (next : Option Connection → Program Unit)
  /-- In the wait, without the mutex. -/
  | sleeping (next : Option Connection → Program Unit)
  /-- After the wait, with the mutex. -/
  | passed (next : Option Connection → Program Unit)

/-- A call of an operation, with the connections that it has taken and given back. -/
structure Caller where
  phase : Phase
  taken : List Connection
  returned : List Connection

/-- The connections that a call holds. -/
def Caller.held (q : Caller) : List Connection := q.taken.diff q.returned

/-- The constructor. -/
inductive Construction
  /-- Its loop is at `i`. -/
  | looping (i : ℕ)
  /-- It has read the size, and started the fill thread if that was too small. -/
  | measured
  /-- It has found `_connects` empty. -/
  | stopping
  | returned
deriving DecidableEq

/-- The fill thread, with the attempts that are left. -/
inductive Fill
  | attempting (left : ℕ)
  /-- It has a connection to push. -/
  | connected (left : ℕ)
  /-- It has pushed one, and tests `_isStop`. -/
  | pushed (left : ℕ)
  /-- It has found `_isStop` set, and clears it. -/
  | clearing (left : ℕ)
deriving DecidableEq

/-- The attempts that are left, with the one that has a connection to push. -/
def Fill.remaining : Fill → ℕ
  | attempting n => n
  | connected n => n + 1
  | pushed n => n
  | clearing n => n

/-- Who has `_mutex` for more than one step. -/
inductive Owner
  | caller (i : ℕ)
  | close
deriving DecidableEq

structure Pool where
  _connects : List Connection
  _isStop : Bool
  _mutex : Option Owner
  callers : List Caller
  construction : Construction
  fill : Fill
  /-- The reconnect threads that are running. -/
  reconnects : ℕ
  freed : List Connection
  /-- The next connection that `redisConnect` makes. -/
  fresh : Connection
  /-- `close()` has finished. -/
  closed : Bool
  /-- The connections that `getConnection` has returned since then. -/
  late : List Connection

/-- The pool at the beginning of its constructor. -/
def Pool.init : Pool where
  _connects := []
  _isStop := false
  _mutex := none
  callers := []
  construction := .looping 0
  fill := .attempting 0
  reconnects := 0
  freed := []
  fresh := 0
  closed := false
  late := []

/-- The outcome of `redisConnect` and `auth`.  In the constructor and in the fill thread a
connection that is refused is not freed, and a null reply to `auth` ends the process. -/
inductive Attempt
  | failed
  | refused
  | ok
deriving DecidableEq

inductive Event
  /-- A round of the loop of the constructor. -/
  | construct (outcome : Attempt)
  /-- The constructor reads the size of `_connects`, and starts the fill thread. -/
  | measure
  /-- The constructor reads `_connects.empty()`. -/
  | testEmpty
  /-- The constructor sets `_isStop`. -/
  | setStop
  /-- An attempt of the fill thread. -/
  | attempt (outcome : Attempt)
  /-- The fill thread pushes its connection. -/
  | push
  /-- The fill thread reads `_isStop`. -/
  | readStop
  /-- The fill thread clears `_isStop`. -/
  | clearStop
  /-- A reconnect thread has connected: it pushes the connection and ends. -/
  | reconnected
  /-- A thread calls an operation. -/
  | call (op : Operation)
  /-- `getConnection` locks the mutex and tests `_isStop`. -/
  | enter (i : ℕ)
  /-- The predicate of the wait. -/
  | test (i : ℕ)
  /-- A call that sleeps in the wait wakes up. -/
  | wake (i : ℕ)
  /-- The second test of `_isStop`, and `front` and `pop`; `stale` is what `front` finds in an
  empty queue. -/
  | finish (i : ℕ) (stale : Connection)
  | redisCommand (i : ℕ) (reply : Option RedisData.Reply)
  /-- `returnConnection`; `broken` says that the connection has failed. -/
  | returnConnection (i : ℕ) (broken : Bool)
  /-- `close()` locks the mutex and sets `_isStop`. -/
  | close
  /-- `close()` frees the connections and unlocks the mutex. -/
  | drain

/-- The pool in which the call `i` stands as `q`. -/
def Pool.setCaller (s : Pool) (i : ℕ) (q : Caller) : Pool :=
  { s with callers := s.callers.set i q }

/-- The pool with a new connection in `_connects`. -/
def Pool.push (s : Pool) : Pool :=
  { s with _connects := s._connects ++ [s.fresh], fresh := s.fresh + 1 }

/-- `getConnection` returns a connection to the call `i`. -/
def Pool.hand (s : Pool) (i : ℕ) (taken returned : List Connection)
    (next : Option Connection → Program Unit) (connect : Connection) : Pool :=
  { s.setCaller i ⟨.run (next (some connect)), taken ++ [connect], returned⟩ with
    _mutex := none
    late := if s.closed then s.late ++ [connect] else s.late }

/-- The call `i` gives back a connection. -/
def Pool.take (s : Pool) (i : ℕ) (taken returned : List Connection) (next : Program Unit)
    (connect : Connection) : Pool :=
  s.setCaller i ⟨.run next, taken, returned ++ [connect]⟩

/-- One event at a pool of `_poolSize` connections. -/
def step (_poolSize : ℕ) (s : Pool) : Event → Option Pool
  | .construct outcome =>
    match s.construction with
    | .looping i =>
      if i < _poolSize ∧ s._mutex = none then
        if outcome = .ok then some { s.push with construction := .looping (i + 1) }
        else some { s with construction := .looping (i + 1) }
      else none
    | _ => none
  | .measure =>
    if s.construction = .looping _poolSize ∧ s._mutex = none then
      some { s with
        construction := .measured
        fill := .attempting (_poolSize - s._connects.length) }
    else none
  | .testEmpty =>
    if s.construction = .measured then
      some { s with construction := if s._connects = [] then .stopping else .returned }
    else none
  | .setStop =>
    if s.construction = .stopping then
      some { s with construction := .returned, _isStop := true }
    else none
  | .attempt outcome =>
    match s.fill with
    | .attempting (n + 1) =>
      some { s with fill := if outcome = .ok then .connected n else .attempting n }
    | _ => none
  | .push =>
    match s.fill with
    | .connected n => if s._mutex = none then some { s.push with fill := .pushed n } else none
    | _ => none
  | .readStop =>
    match s.fill with
    | .pushed n => some { s with fill := if s._isStop then .clearing n else .attempting n }
    | _ => none
  | .clearStop =>
    match s.fill with
    | .clearing n => some { s with fill := .attempting n, _isStop := false }
    | _ => none
  | .reconnected =>
    if 0 < s.reconnects ∧ s._mutex = none then
      some { s.push with reconnects := s.reconnects - 1 }
    else none
  | .call op =>
    if s.construction = .returned then
      some { s with callers := s.callers ++ [⟨.run op.program, [], []⟩] }
    else none
  | .enter i =>
    match s.callers[i]? with
    | some ⟨.run (.getConnection next), taken, returned⟩ =>
      if s._mutex = none then
        if s._isStop then some (s.setCaller i ⟨.run (next none), taken, returned⟩)
        else some { s.setCaller i ⟨.testing next, taken, returned⟩ with _mutex := some (.caller i) }
      else none
    | _ => none
  | .test i =>
    match s.callers[i]? with
    | some ⟨.testing next, taken, returned⟩ =>
      if s._isStop = true ∨ s._connects ≠ [] then
        some (s.setCaller i ⟨.passed next, taken, returned⟩)
      else some { s.setCaller i ⟨.sleeping next, taken, returned⟩ with _mutex := none }
    | _ => none
  | .wake i =>
    match s.callers[i]? with
    | some ⟨.sleeping next, taken, returned⟩ =>
      if s._mutex = none then
        some { s.setCaller i ⟨.testing next, taken, returned⟩ with _mutex := some (.caller i) }
      else none
    | _ => none
  | .finish i stale =>
    match s.callers[i]? with
    | some ⟨.passed next, taken, returned⟩ =>
      if s._isStop then
        some { s.setCaller i ⟨.run (next none), taken, returned⟩ with _mutex := none }
      else
        match s._connects with
        | connect :: rest =>
          some { s.hand i taken returned next connect with _connects := rest }
        | [] => some (s.hand i taken returned next stale)
    | _ => none
  | .redisCommand i reply =>
    match s.callers[i]? with
    | some ⟨.run (.redisCommand _ _ next), taken, returned⟩ =>
      some (s.setCaller i ⟨.run (next reply), taken, returned⟩)
    | _ => none
  | .returnConnection i broken =>
    match s.callers[i]? with
    | some ⟨.run (.returnConnection connect next), taken, returned⟩ =>
      if s._mutex = none then
        let s' := s.take i taken returned next connect
        if broken then
          some { s' with freed := connect :: s.freed, reconnects := s.reconnects + 1 }
        else if s._isStop then some s'
        else some { s' with _connects := s._connects ++ [connect] }
      else none
    | _ => none
  | .close =>
    if s.construction = .returned ∧ s._mutex = none then
      some { s with _isStop := true, _mutex := some .close }
    else none
  | .drain =>
    if s._mutex = some .close then
      some { s with
        _connects := []
        freed := s._connects ++ s.freed
        _mutex := none
        closed := true }
    else none

/-! ## What the events do -/

/-- What an event needs, and the pool after it. -/
inductive Effect (N : ℕ) (s : Pool) : Event → Pool → Prop
  | constructed (i : ℕ) (construction : s.construction = .looping i) (lt : i < N) :
    Effect N s (.construct .ok) { s.push with construction := .looping (i + 1) }
  | skipped (outcome : Attempt) (i : ℕ) (construction : s.construction = .looping i)
      (lt : i < N) :
    Effect N s (.construct outcome) { s with construction := .looping (i + 1) }
  | measured (construction : s.construction = .looping N) :
    Effect N s .measure
      { s with construction := .measured, fill := .attempting (N - s._connects.length) }
  | tested (c : Construction) (construction : s.construction = .measured)
      (notLooping : ∀ i, c ≠ .looping i) :
    Effect N s .testEmpty { s with construction := c }
  | stopped (construction : s.construction = .stopping) :
    Effect N s .setStop { s with construction := .returned, _isStop := true }
  | attempted (outcome : Attempt) (n : ℕ) (f : Fill) (fill : s.fill = .attempting (n + 1))
      (le : f.remaining ≤ n + 1) :
    Effect N s (.attempt outcome) { s with fill := f }
  | pushed (n : ℕ) (fill : s.fill = .connected n) :
    Effect N s .push { s.push with fill := .pushed n }
  | readStop (n : ℕ) (f : Fill) (fill : s.fill = .pushed n) (le : f.remaining ≤ n) :
    Effect N s .readStop { s with fill := f }
  | cleared (n : ℕ) (fill : s.fill = .clearing n) :
    Effect N s .clearStop { s with fill := .attempting n, _isStop := false }
  | reconnected (running : 0 < s.reconnects) :
    Effect N s .reconnected { s.push with reconnects := s.reconnects - 1 }
  | called (op : Operation) (construction : s.construction = .returned) :
    Effect N s (.call op) { s with callers := s.callers ++ [⟨.run op.program, [], []⟩] }
  | turnedAway (i : ℕ) (q : Caller) (next : Option Connection → Program Unit)
      (caller : s.callers[i]? = some q) (phase : q.phase = .run (.getConnection next)) :
    Effect N s (.enter i) (s.setCaller i ⟨.run (next none), q.taken, q.returned⟩)
  | entered (i : ℕ) (q : Caller) (next : Option Connection → Program Unit)
      (caller : s.callers[i]? = some q) (phase : q.phase = .run (.getConnection next)) :
    Effect N s (.enter i)
      { s.setCaller i ⟨.testing next, q.taken, q.returned⟩ with _mutex := some (.caller i) }
  | passed (i : ℕ) (q : Caller) (next : Option Connection → Program Unit)
      (caller : s.callers[i]? = some q) (phase : q.phase = .testing next) :
    Effect N s (.test i) (s.setCaller i ⟨.passed next, q.taken, q.returned⟩)
  | slept (i : ℕ) (q : Caller) (next : Option Connection → Program Unit)
      (caller : s.callers[i]? = some q) (phase : q.phase = .testing next) :
    Effect N s (.test i)
      { s.setCaller i ⟨.sleeping next, q.taken, q.returned⟩ with _mutex := none }
  | woken (i : ℕ) (q : Caller) (next : Option Connection → Program Unit)
      (caller : s.callers[i]? = some q) (phase : q.phase = .sleeping next) :
    Effect N s (.wake i)
      { s.setCaller i ⟨.testing next, q.taken, q.returned⟩ with _mutex := some (.caller i) }
  | refused (i : ℕ) (q : Caller) (next : Option Connection → Program Unit) (stale : Connection)
      (caller : s.callers[i]? = some q) (phase : q.phase = .passed next)
      (stop : s._isStop = true) :
    Effect N s (.finish i stale)
      { s.setCaller i ⟨.run (next none), q.taken, q.returned⟩ with _mutex := none }
  | popped (i : ℕ) (q : Caller) (next : Option Connection → Program Unit)
      (stale connect : Connection) (rest : List Connection)
      (caller : s.callers[i]? = some q) (phase : q.phase = .passed next)
      (stop : s._isStop = false) (connects : s._connects = connect :: rest) :
    Effect N s (.finish i stale) { s.hand i q.taken q.returned next connect with _connects := rest }
  | stale (i : ℕ) (q : Caller) (next : Option Connection → Program Unit) (stale : Connection)
      (caller : s.callers[i]? = some q) (phase : q.phase = .passed next)
      (stop : s._isStop = false) (connects : s._connects = []) :
    Effect N s (.finish i stale) (s.hand i q.taken q.returned next stale)
  | replied (i : ℕ) (q : Caller) (connect : Connection) (command : RedisData.Command)
      (next : Option RedisData.Reply → Program Unit) (reply : Option RedisData.Reply)
      (caller : s.callers[i]? = some q)
      (phase : q.phase = .run (.redisCommand connect command next)) :
    Effect N s (.redisCommand i reply) (s.setCaller i ⟨.run (next reply), q.taken, q.returned⟩)
  | broken (i : ℕ) (q : Caller) (connect : Connection) (next : Program Unit)
      (caller : s.callers[i]? = some q)
      (phase : q.phase = .run (.returnConnection connect next)) :
    Effect N s (.returnConnection i true)
      { s.take i q.taken q.returned next connect with
        freed := connect :: s.freed, reconnects := s.reconnects + 1 }
  | dropped (i : ℕ) (q : Caller) (connect : Connection) (next : Program Unit)
      (caller : s.callers[i]? = some q)
      (phase : q.phase = .run (.returnConnection connect next)) (stop : s._isStop = true) :
    Effect N s (.returnConnection i false) (s.take i q.taken q.returned next connect)
  | returned (i : ℕ) (q : Caller) (connect : Connection) (next : Program Unit)
      (caller : s.callers[i]? = some q)
      (phase : q.phase = .run (.returnConnection connect next)) (stop : s._isStop = false) :
    Effect N s (.returnConnection i false)
      { s.take i q.taken q.returned next connect with _connects := s._connects ++ [connect] }
  | closing (construction : s.construction = .returned) :
    Effect N s .close { s with _isStop := true, _mutex := some .close }
  | drained (mutex : s._mutex = some .close) :
    Effect N s .drain
      { s with
        _connects := [], freed := s._connects ++ s.freed, _mutex := none, closed := true }

variable {N : ℕ} {s s' : Pool} {e : Event}

lemma effect_of_step (h : step N s e = some s') : Effect N s e s' := by
  cases e with
  | construct outcome =>
    simp only [step] at h
    split at h
    · next i hi =>
      simp only [Option.ite_none_right_eq_some] at h
      obtain ⟨⟨hlt, -⟩, h⟩ := h
      split_ifs at h with hok
      · subst hok
        exact Option.some.inj h ▸ .constructed i hi hlt
      · exact Option.some.inj h ▸ .skipped outcome i hi hlt
    · cases h
  | measure =>
    simp only [step, Option.ite_none_right_eq_some] at h
    obtain ⟨⟨hmeasured, -⟩, h⟩ := h
    exact Option.some.inj h ▸ .measured hmeasured
  | testEmpty =>
    simp only [step, Option.ite_none_right_eq_some] at h
    obtain ⟨hmeasured, h⟩ := h
    refine Option.some.inj h ▸ .tested _ hmeasured ?_
    split_ifs <;> nofun
  | setStop =>
    simp only [step, Option.ite_none_right_eq_some] at h
    obtain ⟨hstopping, h⟩ := h
    exact Option.some.inj h ▸ .stopped hstopping
  | attempt outcome =>
    simp only [step] at h
    split at h
    · next n hn =>
      refine Option.some.inj h ▸ .attempted outcome n _ hn ?_
      split_ifs <;> simp [Fill.remaining]
    · cases h
  | push =>
    simp only [step] at h
    split at h
    · next n hn =>
      simp only [Option.ite_none_right_eq_some] at h
      exact Option.some.inj h.2 ▸ .pushed n hn
    · cases h
  | readStop =>
    simp only [step] at h
    split at h
    · next n hn =>
      refine Option.some.inj h ▸ .readStop n _ hn ?_
      split_ifs <;> exact le_rfl
    · cases h
  | clearStop =>
    simp only [step] at h
    split at h
    · next n hn => exact Option.some.inj h ▸ .cleared n hn
    · cases h
  | reconnected =>
    simp only [step, Option.ite_none_right_eq_some] at h
    obtain ⟨⟨hrunning, -⟩, h⟩ := h
    exact Option.some.inj h ▸ .reconnected hrunning
  | call op =>
    simp only [step, Option.ite_none_right_eq_some] at h
    exact Option.some.inj h.2 ▸ .called op h.1
  | enter i =>
    simp only [step] at h
    split at h
    · next next taken returned hq =>
      simp only [Option.ite_none_right_eq_some] at h
      obtain ⟨-, h⟩ := h
      split_ifs at h
      · exact Option.some.inj h ▸ .turnedAway i _ next hq rfl
      · exact Option.some.inj h ▸ .entered i _ next hq rfl
    · cases h
  | test i =>
    simp only [step] at h
    split at h
    · next next taken returned hq =>
      split_ifs at h
      · exact Option.some.inj h ▸ .passed i _ next hq rfl
      · exact Option.some.inj h ▸ .slept i _ next hq rfl
    · cases h
  | wake i =>
    simp only [step] at h
    split at h
    · next next taken returned hq =>
      simp only [Option.ite_none_right_eq_some] at h
      exact Option.some.inj h.2 ▸ .woken i _ next hq rfl
    · cases h
  | finish i stale =>
    simp only [step] at h
    split at h
    · next next taken returned hq =>
      split_ifs at h with hstop
      · exact Option.some.inj h ▸ .refused i _ next stale hq rfl hstop
      · rw [Bool.not_eq_true] at hstop
        split at h
        · next connect rest hconnects =>
          exact Option.some.inj h ▸ .popped i _ next stale connect rest hq rfl hstop hconnects
        · next hconnects => exact Option.some.inj h ▸ .stale i _ next stale hq rfl hstop hconnects
    · cases h
  | redisCommand i reply =>
    simp only [step] at h
    split at h
    · next connect command next taken returned hq =>
      exact Option.some.inj h ▸ .replied i _ connect command next reply hq rfl
    · cases h
  | returnConnection i broken =>
    simp only [step] at h
    split at h
    · next connect next taken returned hq =>
      simp only [Option.ite_none_right_eq_some] at h
      obtain ⟨-, h⟩ := h
      split_ifs at h with hbroken hstop
      · subst hbroken
        exact Option.some.inj h ▸ .broken i _ connect next hq rfl
      · rw [Bool.not_eq_true] at hbroken
        subst hbroken
        exact Option.some.inj h ▸ .dropped i _ connect next hq rfl hstop
      · rw [Bool.not_eq_true] at hbroken hstop
        subst hbroken
        exact Option.some.inj h ▸ .returned i _ connect next hq rfl hstop
    · cases h
  | close =>
    simp only [step, Option.ite_none_right_eq_some] at h
    obtain ⟨⟨hconstructed, -⟩, h⟩ := h
    exact Option.some.inj h ▸ .closing hconstructed
  | drain =>
    simp only [step, Option.ite_none_right_eq_some] at h
    exact Option.some.inj h.2 ▸ .drained h.1

/-! ## One call -/

/-- What is left of a call in `getConnection`. -/
def Single (next : Option Connection → Program Unit) : Prop :=
  Program.Single .after (next none) ∧ ∀ c, Program.Single (.holding c) (next (some c))

/-- How far a call is with its connection. -/
def Phase.At (stage : Program.Stage) : Phase → Prop
  | run p => Program.Single stage p
  | testing next => stage = .before ∧ Single next
  | sleeping next => stage = .before ∧ Single next
  | passed next => stage = .before ∧ Single next

/-- A call has taken one connection, if it has got one, and has given it back in the end. -/
structure Caller.At (q : Caller) (stage : Program.Stage) : Prop where
  phase : q.phase.At stage
  taken : q.taken = q.returned ++ stage.held
  few : q.taken.length ≤ 1
  unused : stage = .before → q.taken = []

/-- Every call uses one connection. -/
def Balanced (s : Pool) : Prop := ∀ q ∈ s.callers, ∃ stage, q.At stage

section Call

variable {q : Caller} {stage : Program.Stage} {next : Option Connection → Program Unit}

lemma append_diff (l l' : List Connection) : (l ++ l').diff l = l' := by
  induction l with
  | nil => rfl
  | cons a l ih => rw [List.cons_append, List.diff_cons, List.erase_cons_head, ih]

lemma Caller.At.held (h : q.At stage) : q.held = stage.held := by
  rw [Caller.held, h.taken, append_diff]

/-- A call that is in `getConnection` has taken nothing, and goes on with whatever it gets. -/
lemma Caller.At.waiting (h : q.At stage)
    (hphase : q.phase = .run (.getConnection next) ∨ q.phase = .testing next ∨
      q.phase = .sleeping next ∨ q.phase = .passed next) :
    q.taken = [] ∧ q.returned = [] ∧ Single next := by
  have hbefore : stage = .before ∧ Single next := by
    have hat := h.phase
    rcases hphase with hp | hp | hp | hp
    · rw [hp] at hat
      cases hat with
      | getConnection _ refused taken => exact ⟨rfl, refused, taken⟩
    all_goals
      rw [hp] at hat
      exact hat
  obtain ⟨rfl, hnext⟩ := hbefore
  have htaken := h.unused rfl
  refine ⟨htaken, ?_, hnext⟩
  have := h.taken
  rw [htaken, Program.Stage.held, List.append_nil] at this
  exact this.symm

/-- A call in `getConnection` that has not got a connection yet. -/
lemma Caller.At.wait (h : q.At stage) {phase : Phase}
    (hphase : q.phase = .run (.getConnection next) ∨ q.phase = .testing next ∨
      q.phase = .sleeping next ∨ q.phase = .passed next)
    (hat : Single next → phase.At .before) : Caller.At ⟨phase, q.taken, q.returned⟩ .before := by
  obtain ⟨htaken, hreturned, hnext⟩ := h.waiting hphase
  refine ⟨hat hnext, ?_, h.few, fun _ => htaken⟩
  rw [htaken, hreturned]
  rfl

/-- `getConnection` returns a null pointer. -/
lemma Caller.At.refuse (h : q.At stage)
    (hphase : q.phase = .run (.getConnection next) ∨ q.phase = .testing next ∨
      q.phase = .sleeping next ∨ q.phase = .passed next) :
    Caller.At ⟨.run (next none), q.taken, q.returned⟩ .after := by
  obtain ⟨htaken, hreturned, hnext⟩ := h.waiting hphase
  refine ⟨hnext.1, ?_, h.few, nofun⟩
  rw [htaken, hreturned]
  rfl

/-- `getConnection` returns a connection. -/
lemma Caller.At.hand (h : q.At stage) (hphase : q.phase = .passed next) (connect : Connection) :
    Caller.At ⟨.run (next (some connect)), q.taken ++ [connect], q.returned⟩
      (.holding connect) := by
  obtain ⟨htaken, hreturned, hnext⟩ := h.waiting (.inr (.inr (.inr hphase)))
  refine ⟨hnext.2 connect, ?_, ?_, nofun⟩
  · rw [htaken, hreturned]
    rfl
  · rw [htaken]
    exact le_rfl

/-- A call that gives a connection back holds it. -/
lemma Caller.At.give {connect : Connection} {rest : Program Unit} (h : q.At stage)
    (hphase : q.phase = .run (.returnConnection connect rest)) :
    stage = .holding connect ∧
      Caller.At ⟨.run rest, q.taken, q.returned ++ [connect]⟩ .after := by
  have hat := h.phase
  rw [hphase] at hat
  cases hat with
  | returnConnection _ _ hrest =>
    refine ⟨rfl, hrest, ?_, h.few, nofun⟩
    rw [h.taken]
    exact (List.append_nil _).symm

lemma balanced_init : Balanced .init := nofun

/-- **One event** keeps the calls balanced, whatever the pool hands out. -/
lemma balanced_step (h : Balanced s) (hstep : step N s e = some s') : Balanced s' := by
  have hset : ∀ {i : ℕ} {q q' : Caller}, s.callers[i]? = some q →
      (∀ stage, q.At stage → ∃ stage', q'.At stage') →
        ∀ r ∈ s.callers.set i q', ∃ stage, r.At stage := by
    intro i q q' hq hat
    obtain ⟨stage, hstage⟩ := h q (List.mem_of_getElem? hq)
    exact forall_mem_set h (hat stage hstage) i
  cases effect_of_step hstep with
  | called op construction =>
    intro q hq
    rcases List.mem_append.1 hq with hq | hq
    · exact h q hq
    · rw [List.mem_singleton.1 hq]
      exact ⟨.before, single_program op, rfl, Nat.zero_le 1, fun _ => rfl⟩
  | turnedAway i q next caller phase =>
    exact hset caller fun stage hat => ⟨.after, hat.refuse (.inl phase)⟩
  | entered i q next caller phase =>
    exact hset caller fun stage hat => ⟨.before, hat.wait (.inl phase) fun h => ⟨rfl, h⟩⟩
  | passed i q next caller phase
  | slept i q next caller phase =>
    exact hset caller fun stage hat => ⟨.before, hat.wait (.inr (.inl phase)) fun h => ⟨rfl, h⟩⟩
  | woken i q next caller phase =>
    exact hset caller fun stage hat =>
      ⟨.before, hat.wait (.inr (.inr (.inl phase))) fun h => ⟨rfl, h⟩⟩
  | refused i q next stale caller phase stop =>
    exact hset caller fun stage hat => ⟨.after, hat.refuse (.inr (.inr (.inr phase)))⟩
  | popped i q next stale connect rest caller phase stop connects =>
    exact hset caller fun stage hat => ⟨.holding connect, hat.hand phase connect⟩
  | stale i q next stale caller phase stop connects =>
    exact hset caller fun stage hat => ⟨.holding stale, hat.hand phase stale⟩
  | replied i q connect command next reply caller phase =>
    refine hset caller fun stage hat => ?_
    have hp := hat.phase
    rw [phase] at hp
    cases hp with
    | redisCommand _ _ _ hrest => exact ⟨_, hrest reply, hat.taken, hat.few, nofun⟩
  | broken i q connect next caller phase
  | dropped i q connect next caller phase stop
  | returned i q connect next caller phase stop =>
    exact hset caller fun stage hat => ⟨.after, (hat.give phase).2⟩
  | _ => exact h

end Call

/-! ## Where the connections are -/

/-- How often a connection is held by a call. -/
def Pool.holders (s : Pool) (c : Connection) : ℕ := tally (fun q => q.held.count c) s.callers

/-- The connections that are held by calls. -/
def Pool.held (s : Pool) : ℕ := tally (fun q => q.held.length) s.callers

/-- How often a connection is queued, held or freed. -/
def Pool.copies (s : Pool) (c : Connection) : ℕ :=
  s._connects.count c + s.holders c + s.freed.count c

/-- The connections of a pool, and those that its threads are still to make. -/
def Pool.load (s : Pool) : ℕ :=
  s._connects.length + s.held + s.reconnects + s.fill.remaining

/-- A call that has left the wait and finds `_isStop` unset has a connection to take. -/
def Served (s : Pool) : Event → Prop
  | .finish _ _ => s._isStop = true ∨ s._connects ≠ []
  | _ => True

section Move

variable {i : ℕ} {q : Caller}

/-- A call that stands elsewhere, without a connection changing hands. -/
lemma callers_move (hq : s.callers[i]? = some q) {phase : Phase}
    (hcallers : s'.callers = s.callers.set i ⟨phase, q.taken, q.returned⟩) :
    (∀ c, s'.holders c = s.holders c) ∧ s'.held = s.held := by
  refine ⟨fun c => ?_, ?_⟩
  · have := tally_set (fun q => q.held.count c) hq ⟨phase, q.taken, q.returned⟩
    simp only [Pool.holders, Caller.held, hcallers] at *
    omega
  · have := tally_set (fun q => q.held.length) hq ⟨phase, q.taken, q.returned⟩
    simp only [Pool.held, Caller.held, hcallers] at *
    omega

/-- A call that takes a connection. -/
lemma held_hand {next : Option Connection → Program Unit} (hbal : Balanced s)
    (hq : s.callers[i]? = some q) (hphase : q.phase = .passed next) (connect : Connection) :
    q.held = [] ∧
      Caller.held ⟨.run (next (some connect)), q.taken ++ [connect], q.returned⟩ = [connect] := by
  obtain ⟨stage, hat⟩ := hbal q (List.mem_of_getElem? hq)
  refine ⟨?_, (hat.hand hphase connect).held⟩
  rw [Caller.held, (hat.waiting (.inr (.inr (.inr hphase)))).1, List.nil_diff]

/-- A call that gives a connection back. -/
lemma held_take {next : Program Unit} {connect : Connection} (hbal : Balanced s)
    (hq : s.callers[i]? = some q) (hphase : q.phase = .run (.returnConnection connect next)) :
    q.held = [connect] ∧
      Caller.held ⟨.run next, q.taken, q.returned ++ [connect]⟩ = [] := by
  obtain ⟨stage, hat⟩ := hbal q (List.mem_of_getElem? hq)
  obtain ⟨rfl, hrest⟩ := hat.give hphase
  exact ⟨hat.held, hrest.held⟩

lemma holders_hand {next : Option Connection → Program Unit} (hbal : Balanced s)
    (hq : s.callers[i]? = some q) (hphase : q.phase = .passed next) (connect c : Connection) :
    (s.hand i q.taken q.returned next connect).holders c =
      s.holders c + [connect].count c := by
  obtain ⟨hbefore, hafter⟩ := held_hand hbal hq hphase connect
  have := tally_set (fun q => q.held.count c) hq
    ⟨.run (next (some connect)), q.taken ++ [connect], q.returned⟩
  simp only [hbefore, hafter, List.count_nil] at this
  simp only [Pool.holders, Pool.hand, Pool.setCaller]
  omega

lemma holders_take {next : Program Unit} {connect : Connection} (hbal : Balanced s)
    (hq : s.callers[i]? = some q) (hphase : q.phase = .run (.returnConnection connect next))
    (c : Connection) :
    (s.take i q.taken q.returned next connect).holders c + [connect].count c =
      s.holders c := by
  obtain ⟨hbefore, hafter⟩ := held_take hbal hq hphase
  have := tally_set (fun q => q.held.count c) hq ⟨.run next, q.taken, q.returned ++ [connect]⟩
  simp only [hbefore, hafter, List.count_nil] at this
  simp only [Pool.holders, Pool.take, Pool.setCaller]
  omega

lemma held_hand_length {next : Option Connection → Program Unit} (hbal : Balanced s)
    (hq : s.callers[i]? = some q) (hphase : q.phase = .passed next) (connect : Connection) :
    (s.hand i q.taken q.returned next connect).held = s.held + 1 := by
  obtain ⟨hbefore, hafter⟩ := held_hand hbal hq hphase connect
  have := tally_set (fun q => q.held.length) hq
    ⟨.run (next (some connect)), q.taken ++ [connect], q.returned⟩
  simp only [hbefore, hafter, List.length_nil, List.length_singleton] at this
  simp only [Pool.held, Pool.hand, Pool.setCaller]
  omega

lemma held_take_length {next : Program Unit} {connect : Connection} (hbal : Balanced s)
    (hq : s.callers[i]? = some q) (hphase : q.phase = .run (.returnConnection connect next)) :
    (s.take i q.taken q.returned next connect).held + 1 = s.held := by
  obtain ⟨hbefore, hafter⟩ := held_take hbal hq hphase
  have := tally_set (fun q => q.held.length) hq ⟨.run next, q.taken, q.returned ++ [connect]⟩
  simp only [hbefore, hafter, List.length_nil, List.length_singleton] at this
  simp only [Pool.held, Pool.take, Pool.setCaller]
  omega

end Move

lemma copies_push (s : Pool) (c : Connection) :
    s.push.copies c = s.copies c + [s.fresh].count c := by
  simp only [Pool.copies, Pool.push, Pool.holders, List.count_append]
  omega

/-- **One event**: a connection goes from one place to another, is dropped, or is new. -/
lemma copies_step (hbal : Balanced s) (hserved : Served s e) (hstep : step N s e = some s') :
    (s'.fresh = s.fresh ∧ ∀ c, s'.copies c ≤ s.copies c) ∨
      (s'.fresh = s.fresh + 1 ∧ ∀ c, s'.copies c = s.copies c + [s.fresh].count c) := by
  cases effect_of_step hstep with
  | constructed i construction lt => exact .inr ⟨rfl, copies_push s⟩
  | pushed n fill => exact .inr ⟨rfl, copies_push s⟩
  | reconnected running => exact .inr ⟨rfl, copies_push s⟩
  | called op construction =>
    refine .inl ⟨rfl, fun c => ?_⟩
    simp [Pool.copies, Pool.holders, Caller.held]
  | turnedAway i q next caller phase
  | entered i q next caller phase
  | passed i q next caller phase
  | slept i q next caller phase
  | woken i q next caller phase
  | refused i q next stale caller phase stop
  | replied i q connect command next reply caller phase =>
    refine .inl ⟨rfl, fun c => ?_⟩
    rw [Pool.copies, (callers_move caller rfl).1 c]
    exact le_rfl
  | popped i q next stale connect rest caller phase stop connects =>
    refine .inl ⟨rfl, fun c => ?_⟩
    have hhand := holders_hand hbal caller phase connect c
    have hcopies : Pool.copies
        { s.hand i q.taken q.returned next connect with _connects := rest } c =
          rest.count c + (s.hand i q.taken q.returned next connect).holders c + s.freed.count c :=
      rfl
    rw [hcopies, hhand, Pool.copies, connects]
    simp only [List.count_cons, List.count_nil]
    omega
  | stale i q next stale caller phase stop connects =>
    rcases hserved with h | h
    · rw [stop] at h
      cases h
    · exact absurd connects h
  | broken i q connect next caller phase =>
    refine .inl ⟨rfl, fun c => ?_⟩
    have htake := holders_take hbal caller phase c
    have hcopies : Pool.copies
        { s.take i q.taken q.returned next connect with
          freed := connect :: s.freed, reconnects := s.reconnects + 1 } c =
          s._connects.count c + (s.take i q.taken q.returned next connect).holders c +
            (connect :: s.freed).count c := rfl
    rw [hcopies, Pool.copies, ← htake]
    simp only [List.count_cons, List.count_nil]
    omega
  | dropped i q connect next caller phase stop =>
    refine .inl ⟨rfl, fun c => ?_⟩
    have htake := holders_take hbal caller phase c
    have hcopies : (s.take i q.taken q.returned next connect).copies c =
        s._connects.count c + (s.take i q.taken q.returned next connect).holders c +
          s.freed.count c := rfl
    rw [hcopies, Pool.copies]
    omega
  | returned i q connect next caller phase stop =>
    refine .inl ⟨rfl, fun c => ?_⟩
    have htake := holders_take hbal caller phase c
    have hcopies : Pool.copies
        { s.take i q.taken q.returned next connect with
          _connects := s._connects ++ [connect] } c =
          (s._connects ++ [connect]).count c +
            (s.take i q.taken q.returned next connect).holders c + s.freed.count c := rfl
    rw [hcopies, Pool.copies, ← htake, List.count_append]
    omega
  | drained mutex =>
    refine .inl ⟨rfl, fun c => ?_⟩
    simp only [Pool.copies, Pool.holders, List.count_append, List.count_nil]
    omega
  | _ => exact .inl ⟨rfl, fun c => le_rfl⟩

/-- The constructor is in its loop, and there is nothing but what it has connected. -/
def Starting (N : ℕ) (s : Pool) : Prop :=
  ∀ i, s.construction = .looping i →
    s._connects.length ≤ i ∧ i ≤ N ∧ s.callers = [] ∧ s.reconnects = 0 ∧ s.fill.remaining = 0

lemma starting_step (h : Starting N s) (hstep : step N s e = some s') : Starting N s' := by
  cases effect_of_step hstep with
  | constructed i construction lt =>
    intro j hj
    obtain rfl : i + 1 = j := Construction.looping.inj hj
    obtain ⟨hlen, -, hcallers, hreconnects, hfill⟩ := h i construction
    refine ⟨?_, lt, hcallers, hreconnects, hfill⟩
    simp only [Pool.push, List.length_append, List.length_singleton]
    omega
  | skipped outcome i construction lt =>
    intro j hj
    obtain rfl : i + 1 = j := Construction.looping.inj hj
    obtain ⟨hlen, -, hrest⟩ := h i construction
    exact ⟨hlen.trans (Nat.le_succ i), lt, hrest⟩
  | measured construction => exact nofun
  | tested c construction notLooping => exact fun j hj => absurd hj (notLooping j)
  | stopped construction => exact nofun
  | attempted outcome n f fill le =>
    intro j hj
    have := (h j hj).2.2.2.2
    rw [fill] at this
    cases this
  | pushed n fill =>
    intro j hj
    have := (h j hj).2.2.2.2
    rw [fill] at this
    cases this
  | readStop n f fill le =>
    intro j hj
    obtain ⟨hlen, hle, hcallers, hreconnects, hfill⟩ := h j hj
    rw [fill] at hfill
    exact ⟨hlen, hle, hcallers, hreconnects, Nat.le_zero.1 (le.trans hfill.le)⟩
  | cleared n fill =>
    intro j hj
    obtain ⟨hlen, hle, hcallers, hreconnects, hfill⟩ := h j hj
    rw [fill] at hfill
    exact ⟨hlen, hle, hcallers, hreconnects, hfill⟩
  | reconnected running =>
    intro j hj
    exact absurd (h j hj).2.2.2.1 (by omega)
  | called op construction =>
    intro j hj
    exact absurd (construction.symm.trans hj) nofun
  | turnedAway i q next caller phase
  | entered i q next caller phase
  | passed i q next caller phase
  | slept i q next caller phase
  | woken i q next caller phase
  | refused i q next stale caller phase stop
  | popped i q next stale connect rest caller phase stop connects
  | stale i q next stale caller phase stop connects
  | replied i q connect command next reply caller phase
  | broken i q connect next caller phase
  | dropped i q connect next caller phase stop
  | returned i q connect next caller phase stop =>
    intro j hj
    -- there are no calls yet
    rw [(h j hj).2.2.1] at caller
    cases caller
  | closing construction =>
    intro j hj
    exact absurd (construction.symm.trans hj) nofun
  | drained mutex =>
    intro j hj
    obtain ⟨-, hrest⟩ := h j hj
    exact ⟨Nat.zero_le j, hrest⟩

/-- **One event** does not raise the load of the pool. -/
lemma load_step (hbal : Balanced s) (hstart : Starting N s) (hserved : Served s e)
    (hload : s.load ≤ N) (hstep : step N s e = some s') : s'.load ≤ N := by
  cases effect_of_step hstep with
  | constructed i construction lt =>
    obtain ⟨hlen, -, hcallers, hreconnects, hfill⟩ := hstart i construction
    simp only [Pool.load, Pool.push, Pool.held, hcallers, hreconnects, hfill, tally_nil,
      List.length_append, List.length_singleton]
    omega
  | measured construction =>
    obtain ⟨hlen, -, hcallers, hreconnects, -⟩ := hstart N construction
    simp only [Pool.load, Pool.held, hcallers, hreconnects, tally_nil, Fill.remaining]
    omega
  | attempted outcome n f fill le =>
    simp only [Pool.load, Pool.held, fill, Fill.remaining] at *
    omega
  | pushed n fill =>
    simp only [Pool.load, Pool.push, Pool.held, fill, Fill.remaining, List.length_append,
      List.length_singleton] at *
    omega
  | readStop n f fill le =>
    simp only [Pool.load, Pool.held, fill, Fill.remaining] at *
    omega
  | cleared n fill =>
    simp only [Pool.load, Pool.held, fill, Fill.remaining] at *
    omega
  | reconnected running =>
    simp only [Pool.load, Pool.push, Pool.held, List.length_append, List.length_singleton] at *
    omega
  | called op construction =>
    simp only [Pool.load, Pool.held, tally_append, tally_cons, tally_nil, Caller.held,
      List.diff_nil, List.length_nil] at *
    omega
  | turnedAway i q next caller phase
  | entered i q next caller phase
  | passed i q next caller phase
  | slept i q next caller phase
  | woken i q next caller phase
  | refused i q next stale caller phase stop
  | replied i q connect command next reply caller phase =>
    rw [Pool.load, (callers_move caller rfl).2]
    exact hload
  | popped i q next stale connect rest caller phase stop connects =>
    have hheld := held_hand_length hbal caller phase connect
    have hlength := congrArg List.length connects
    have hafter : Pool.load { s.hand i q.taken q.returned next connect with _connects := rest } =
        rest.length + (s.hand i q.taken q.returned next connect).held + s.reconnects +
          s.fill.remaining := rfl
    rw [List.length_cons] at hlength
    rw [Pool.load] at hload
    omega
  | stale i q next stale caller phase stop connects =>
    rcases hserved with h | h
    · rw [stop] at h
      cases h
    · exact absurd connects h
  | broken i q connect next caller phase =>
    have hheld := held_take_length hbal caller phase
    have hafter : Pool.load
        { s.take i q.taken q.returned next connect with
          freed := connect :: s.freed, reconnects := s.reconnects + 1 } =
          s._connects.length + (s.take i q.taken q.returned next connect).held +
            (s.reconnects + 1) + s.fill.remaining := rfl
    rw [Pool.load] at hload
    omega
  | dropped i q connect next caller phase stop =>
    have hheld := held_take_length hbal caller phase
    have hafter : (s.take i q.taken q.returned next connect).load =
        s._connects.length + (s.take i q.taken q.returned next connect).held + s.reconnects +
          s.fill.remaining := rfl
    rw [Pool.load] at hload
    omega
  | returned i q connect next caller phase stop =>
    have hheld := held_take_length hbal caller phase
    have hafter : Pool.load
        { s.take i q.taken q.returned next connect with
          _connects := s._connects ++ [connect] } =
          (s._connects ++ [connect]).length +
            (s.take i q.taken q.returned next connect).held + s.reconnects + s.fill.remaining :=
      rfl
    rw [List.length_append, List.length_singleton] at hafter
    rw [Pool.load] at hload
    omega
  | drained mutex =>
    simp only [Pool.load, Pool.held, List.length_nil] at *
    omega
  | _ => exact hload

/-! ## Conservation -/

/-- The connections of a pool are conserved. -/
structure Conserved (N : ℕ) (s : Pool) : Prop where
  /-- None is queued twice, held by two calls, or queued and held. -/
  single : ∀ c, s._connects.count c + s.holders c ≤ 1
  /-- None is queued or held after it was freed. -/
  notFreed : ∀ c ∈ s.freed, s._connects.count c + s.holders c = 0
  /-- Idle and held connections, reconnect threads and attempts fit in the size of the pool. -/
  bounded : s._connects.length + s.held + s.reconnects + s.fill.remaining ≤ N
  /-- A call that has ended has given back once what it has taken, which is at most one. -/
  once : ∀ q ∈ s.callers, q.phase = .run (.done ()) →
    q.returned = q.taken ∧ q.taken.length ≤ 1

/-- The invariant of the pool. -/
structure Sound (N : ℕ) (s : Pool) : Prop where
  copies : ∀ c, s.copies c ≤ 1
  /-- A connection that has not been made is nowhere. -/
  fresh : ∀ c, s.fresh ≤ c → s.copies c = 0
  load : s.load ≤ N
  balanced : Balanced s
  starting : Starting N s

lemma sound_init (N : ℕ) : Sound N .init where
  copies c := Nat.zero_le 1
  fresh c _ := rfl
  load := Nat.zero_le N
  balanced := balanced_init
  starting := by
    intro i hi
    obtain rfl : 0 = i := Construction.looping.inj hi
    exact ⟨le_rfl, Nat.zero_le N, rfl, rfl, rfl⟩

/-- **One event** keeps the pool sound, if it does not take from an empty queue. -/
lemma sound_step (h : Sound N s) (hserved : Served s e) (hstep : step N s e = some s') :
    Sound N s' := by
  have hcopies := copies_step h.balanced hserved hstep
  refine ⟨?_, ?_, load_step h.balanced h.starting hserved h.load hstep,
    balanced_step h.balanced hstep, starting_step h.starting hstep⟩
  · intro c
    rcases hcopies with ⟨-, hle⟩ | ⟨-, heq⟩
    · exact (hle c).trans (h.copies c)
    · rw [heq]
      by_cases hc : s.fresh = c
      · rw [h.fresh c hc.le, hc, List.count_singleton_self]
      · rw [List.count_singleton, if_neg (by simpa using hc)]
        exact h.copies c
  · intro c hc
    rcases hcopies with ⟨hfresh, hle⟩ | ⟨hfresh, heq⟩
    · rw [hfresh] at hc
      exact Nat.le_zero.1 ((hle c).trans (h.fresh c hc).le)
    · rw [hfresh] at hc
      have hne : s.fresh ≠ c := Nat.ne_of_lt hc
      rw [heq, h.fresh c (Nat.le_of_succ_le hc), List.count_singleton, if_neg (by simpa using hne)]

lemma Sound.conserved (h : Sound N s) : Conserved N s where
  single c := by
    have := h.copies c
    rw [Pool.copies] at this
    omega
  notFreed c hc := by
    have hcopies := h.copies c
    have hpos := List.count_pos_iff.2 hc
    rw [Pool.copies] at hcopies
    omega
  bounded := h.load
  once q hq hdone := by
    obtain ⟨stage, hat⟩ := h.balanced q hq
    have hp := hat.phase
    rw [hdone] at hp
    cases hp with
    | done _ => exact ⟨(hat.taken.trans (List.append_nil _)).symm, hat.few⟩

/-- **The Redis pool conserves its connections** in every run in which no call of
`getConnection` that has left its wait finds `_isStop` unset and the queue empty. -/
theorem conserved_of_served {N : ℕ} {es : List Event} {s : Pool}
    (hrun : run (step N) .init es = some s) (hserved : AllSteps (step N) Served .init es) :
    Conserved N s :=
  (run_induction (I := Sound N) (fun _ _ _ => sound_step) hrun hserved (sound_init N)).conserved

/-- A call takes the only connection of a pool, which fails, and another one is made. -/
theorem conserved_of_served_one :
    ∃ s, run (step 1) .init [.construct .ok, .measure, .testEmpty, .call (.get [97]), .enter 0,
      .test 0, .finish 0 0, .redisCommand 0 none, .returnConnection 0 true, .reconnected] =
        some s ∧ Conserved 1 s := by
  have hserved : AllSteps (step 1) Served .init [.construct .ok, .measure, .testEmpty,
      .call (.get [97]), .enter 0, .test 0, .finish 0 0, .redisCommand 0 none,
      .returnConnection 0 true, .reconnected] := by
    refine .cons rfl trivial (.cons rfl trivial (.cons rfl trivial (.cons rfl trivial
      (.cons rfl trivial (.cons rfl trivial (.cons rfl (.inr ?_) (.cons rfl trivial
        (.cons rfl trivial (.cons rfl trivial trivial)))))))))
    exact List.cons_ne_nil _ _
  exact ⟨_, rfl, conserved_of_served rfl hserved⟩

/-- The first connection of a pool of two is held, and a second call waits for the one that the
fill thread makes.  The pool is closed when the fill thread has pushed it: the call that waits
wakes up because `_isStop` is set, and the fill thread clears the flag before the second test. -/
def closedWhileFilling : List Event :=
  [.construct .ok, .construct .failed, .measure, .testEmpty, .call (.get [97]), .enter 0, .test 0,
    .finish 0 0, .call (.get [97]), .enter 1, .test 1, .attempt .ok, .push, .close, .drain,
    .wake 1, .test 1, .readStop, .clearStop, .finish 1 1]

/-- The second call finds the connection that `close` has freed. -/
theorem not_conserved :
    ¬ ∀ (N : ℕ) (es : List Event) (s : Pool), run (step N) .init es = some s →
      Conserved N s := by
  intro h
  have hconserved := h 2 closedWhileFilling _ rfl
  exact absurd (hconserved.notFreed 1 (by decide)) (by decide)

end RedisConnectPool

end WeChat
