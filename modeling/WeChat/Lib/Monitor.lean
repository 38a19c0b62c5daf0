/-
# Workers that wait on condition variables

Workers take tasks from queues, each of which has a mutex and a condition variable.  A worker
waits with a predicate: it tests the predicate with the mutex, and if the test fails it releases
the mutex and sleeps until a notification, in one step.  A stop flag is part of the predicate,
and the shutdown sets it without a mutex and then notifies all sleepers of one condition variable
after the other.  A worker that has failed its test at the last of these notifications sleeps for
ever; this file shows that otherwise all workers can return.
-/
import Mathlib.Algebra.Order.BigOperators.Group.Finset
import WeChat.Lib.Transition

namespace Monitor

open Transition

/-- Workers, and the queues that they take their tasks from. -/
structure Layout where
  workers : ℕ
  queues : ℕ
  queueOf : ℕ → ℕ
  queueOf_lt : ∀ i < workers, queueOf i < queues
  /-- A queue that is longer takes no other task. -/
  bound : ℕ

/-- Where a worker stands. -/
inductive Phase
  /-- At the head of its loop, before it reads the flag. -/
  | looping
  /-- It has found the flag unset, and has still to lock the mutex. -/
  | entering
  /-- With the mutex, before the test of the predicate. -/
  | testing
  /-- With the mutex, after a test that has failed. -/
  | failed
  | sleeping
  /-- It has been notified, and has still to lock the mutex again. -/
  | notified
  /-- With the mutex, behind the wait. -/
  | passed
  /-- With a task, without the mutex. -/
  | working
  /-- Behind its loop, before it locks the mutex. -/
  | leaving
  /-- Behind its loop, with the mutex, while it empties its queue. -/
  | draining
  | exited
deriving DecidableEq

/-- The worker has the mutex of its queue. -/
def Phase.locks : Phase → Bool
  | testing => true
  | failed => true
  | passed => true
  | draining => true
  | _ => false

/-- The worker has failed its test, or sleeps already. -/
def Phase.stuck : Phase → Bool
  | failed => true
  | sleeping => true
  | _ => false

structure State (Task : Type*) where
  stop : Bool
  queue : ℕ → List Task
  mutex : ℕ → Option ℕ
  phase : ℕ → Phase
  /-- The notifications that the posts at a queue have still to make. -/
  posted : ℕ → ℕ
  /-- The shutdown has set the flag, and notified so many condition variables. -/
  closing : Option ℕ

inductive Event (Task : Type*)
  /-- A task is put in a queue, with the mutex. -/
  | post (q : ℕ) (task : Task)
  /-- The notification of a post, which wakes a worker if one sleeps. -/
  | notifyOne (q : ℕ) (woken : Option ℕ)
  /-- A worker reads the flag at the head of its loop. -/
  | loop (i : ℕ)
  | lock (i : ℕ)
  | test (i : ℕ)
  | sleep (i : ℕ)
  /-- A worker behind its wait reads the flag again, takes a task and releases the mutex. -/
  | take (i : ℕ)
  | finish (i : ℕ)
  /-- A worker behind its loop handles a task, or finds its queue empty and returns. -/
  | drain (i : ℕ)
  /-- The shutdown sets the flag. -/
  | close
  /-- The shutdown notifies the next condition variable. -/
  | notifyAll

/-- The step is one of a worker. -/
def Event.Own {Task : Type*} : Event Task → Prop
  | post _ _ => False
  | notifyOne _ _ => False
  | close => False
  | notifyAll => False
  | _ => True

section Machine

variable {Task : Type*}

/-- Every worker is at the head of its loop. -/
def State.init : State Task where
  stop := false
  queue _ := []
  mutex _ := none
  phase _ := .looping
  posted _ := 0
  closing := none

/-- The worker goes on without a change of the mutex. -/
def State.goto (s : State Task) (i : ℕ) (p : Phase) : State Task :=
  { s with phase := Function.update s.phase i p }

variable (L : Layout)

/-- The worker goes on with the mutex of its queue. -/
def State.acquire (s : State Task) (i : ℕ) (p : Phase) : State Task :=
  { s.goto i p with mutex := Function.update s.mutex (L.queueOf i) (some i) }

/-- The worker goes on without the mutex. -/
def State.release (s : State Task) (i : ℕ) (p : Phase) : State Task :=
  { s.goto i p with mutex := Function.update s.mutex (L.queueOf i) none }

def step (s : State Task) : Event Task → Option (State Task)
  | .post q task =>
    if q < L.queues ∧ s.mutex q = none then
      if L.bound < (s.queue q).length then some s
      else
        some { s with
          queue := Function.update s.queue q (s.queue q ++ [task])
          posted := Function.update s.posted q (s.posted q + 1) }
    else none
  | .notifyOne q woken =>
    if 0 < s.posted q then
      let s' := { s with posted := Function.update s.posted q (s.posted q - 1) }
      match woken with
      | some i =>
        if i < L.workers ∧ L.queueOf i = q ∧ s.phase i = .sleeping then some (s'.goto i .notified)
        else none
      | none =>
        if ∀ i < L.workers, L.queueOf i = q → s.phase i ≠ .sleeping then some s' else none
    else none
  | .loop i =>
    if i < L.workers ∧ s.phase i = .looping then
      some (s.goto i (if s.stop then .leaving else .entering))
    else none
  | .lock i =>
    if i < L.workers ∧ s.mutex (L.queueOf i) = none then
      match s.phase i with
      | .entering => some (s.acquire L i .testing)
      | .notified => some (s.acquire L i .testing)
      | .leaving => some (s.acquire L i .draining)
      | _ => none
    else none
  | .test i =>
    if i < L.workers ∧ s.phase i = .testing then
      some (s.goto i (if s.stop ∨ s.queue (L.queueOf i) ≠ [] then .passed else .failed))
    else none
  | .sleep i =>
    if i < L.workers ∧ s.phase i = .failed then some (s.release L i .sleeping) else none
  | .take i =>
    if i < L.workers ∧ s.phase i = .passed then
      if s.stop then some (s.release L i .leaving)
      else
        match s.queue (L.queueOf i) with
        | [] => some (s.release L i .looping)
        | _ :: rest =>
          some { s.release L i .working with
            queue := Function.update s.queue (L.queueOf i) rest }
    else none
  | .finish i =>
    if i < L.workers ∧ s.phase i = .working then some (s.goto i .looping) else none
  | .drain i =>
    if i < L.workers ∧ s.phase i = .draining then
      match s.queue (L.queueOf i) with
      | [] => some (s.release L i .exited)
      | _ :: rest => some { s with queue := Function.update s.queue (L.queueOf i) rest }
    else none
  | .close => if s.closing = none then some { s with stop := true, closing := some 0 } else none
  | .notifyAll =>
    match s.closing with
    | none => none
    | some k =>
      if k < L.queues then
        some { s with
          closing := some (k + 1)
          phase := fun i =>
            if i < L.workers ∧ L.queueOf i = k ∧ s.phase i = .sleeping then .notified
            else s.phase i }
      else none

/-! ## What the shutdown is for -/

/-- The workers, left to themselves, can all return. -/
def CanJoin (s : State Task) : Prop :=
  ∃ es s', (∀ e ∈ es, e.Own) ∧ run (step L) s es = some s' ∧ ∀ i < L.workers, s'.phase i = .exited

/-- When the shutdown has made its last notification, no worker sleeps while the flag is set, and
all workers can return. -/
def Woken (s : State Task) : Prop :=
  s.closing = some L.queues →
    (∀ i < L.workers, s.stop = true → s.phase i ≠ .sleeping) ∧ CanJoin L s

/-- At the last notification no worker is between a test that has failed and its sleep, and none
sleeps on a condition variable that was notified before. -/
def InTime (s : State Task) : Event Task → Prop
  | .notifyAll => ∀ k, s.closing = some k → k + 1 = L.queues → ∀ i < L.workers,
      s.phase i ≠ .failed ∧ (s.phase i = .sleeping → L.queueOf i = k)
  | _ => True

/-- No worker has failed its test or sleeps. -/
def Clear (s : State Task) : Prop := ∀ i < L.workers, (s.phase i).stuck = false

/-- A mutex is held by a worker of its queue, and the shutdown has set the flag. -/
structure Sound (s : State Task) : Prop where
  mutex : ∀ q i, s.mutex q = some i → i < L.workers ∧ L.queueOf i = q ∧ (s.phase i).locks = true
  stop : s.closing ≠ none → s.stop = true

/-! ## What one step does -/

/-- The worker `i` goes on to the phase `p`.  A worker that is stuck stays so, and none gets
stuck when the flag is set. -/
structure Moved (s s' : State Task) (i : ℕ) (p : Phase) : Prop where
  lt : i < L.workers
  phase : s'.phase = Function.update s.phase i p
  mutex : s'.mutex = s.mutex ∧ p.locks = (s.phase i).locks ∨
    s'.mutex = Function.update s.mutex (L.queueOf i) (some i) ∧ p.locks = true ∨
    s'.mutex = Function.update s.mutex (L.queueOf i) none
  stuck : (s.phase i).stuck = true → p.stuck = true
  clear : s.stop = true → (s.phase i).stuck = false → p.stuck = false
  stop : s'.stop = s.stop
  closing : s'.closing = s.closing

variable {L} {s s' : State Task} {e : Event Task} {i : ℕ} {p : Phase}

@[simp] lemma State.phase_goto_self (s : State Task) (i : ℕ) (p : Phase) :
    (s.goto i p).phase i = p := Function.update_self ..

lemma State.phase_goto_of_ne (s : State Task) {i j : ℕ} (hj : j ≠ i) (p : Phase) :
    (s.goto i p).phase j = s.phase j := Function.update_of_ne hj ..

lemma moved_goto (hi : i < L.workers) (hlocks : p.locks = (s.phase i).locks)
    (hstuck : (s.phase i).stuck = false) (hclear : s.stop = true → p.stuck = false) :
    Moved L s (s.goto i p) i p :=
  ⟨hi, rfl, .inl ⟨rfl, hlocks⟩, fun h => absurd (hstuck.symm.trans h) Bool.false_ne_true,
    fun h _ => hclear h, rfl, rfl⟩

lemma moved_acquire (hi : i < L.workers) (hlocks : p.locks = true)
    (hstuck : (s.phase i).stuck = false) (hclear : p.stuck = false) :
    Moved L s (s.acquire L i p) i p :=
  ⟨hi, rfl, .inr (.inl ⟨rfl, hlocks⟩), fun h => absurd (hstuck.symm.trans h) Bool.false_ne_true,
    fun _ _ => hclear, rfl, rfl⟩

lemma moved_release (hi : i < L.workers) (hstuck : p.stuck = (s.phase i).stuck) :
    Moved L s (s.release L i p) i p :=
  ⟨hi, rfl, .inr (.inr rfl), fun h => hstuck.trans h, fun _ h => hstuck.trans h, rfl, rfl⟩

/-- A move that takes a task as well. -/
lemma Moved.take (h : Moved L s s' i p) (queue : ℕ → List Task) :
    Moved L s { s' with queue := queue } i p :=
  ⟨h.lt, h.phase, h.mutex, h.stuck, h.clear, h.stop, h.closing⟩

/-- A step of a worker is a move of this worker. -/
lemma moved_of_own (hown : e.Own) (hstep : step L s e = some s') : ∃ i p, Moved L s s' i p := by
  cases e with
  | loop i =>
    simp only [step] at hstep
    split at hstep
    · rename_i h
      obtain rfl := Option.some.inj hstep
      refine ⟨i, _, moved_goto h.1 ?_ ?_ fun _ => ?_⟩
      · rw [h.2]
        split <;> rfl
      · rw [h.2]
        rfl
      · split <;> rfl
    · cases hstep
  | lock i =>
    simp only [step] at hstep
    split at hstep
    · rename_i h
      split at hstep
      · rename_i hphase
        obtain rfl := Option.some.inj hstep
        exact ⟨i, _, moved_acquire h.1 rfl (by rw [hphase]; rfl) rfl⟩
      · rename_i hphase
        obtain rfl := Option.some.inj hstep
        exact ⟨i, _, moved_acquire h.1 rfl (by rw [hphase]; rfl) rfl⟩
      · rename_i hphase
        obtain rfl := Option.some.inj hstep
        exact ⟨i, _, moved_acquire h.1 rfl (by rw [hphase]; rfl) rfl⟩
      · cases hstep
    · cases hstep
  | test i =>
    simp only [step] at hstep
    split at hstep
    · rename_i h
      obtain rfl := Option.some.inj hstep
      refine ⟨i, _, moved_goto h.1 ?_ ?_ fun hstop => ?_⟩
      · rw [h.2]
        split <;> rfl
      · rw [h.2]
        rfl
      · -- the flag lets the test pass
        rw [if_pos (.inl hstop)]
        rfl
    · cases hstep
  | sleep i =>
    simp only [step] at hstep
    split at hstep
    · rename_i h
      obtain rfl := Option.some.inj hstep
      exact ⟨i, _, moved_release h.1 (by rw [h.2]; rfl)⟩
    · cases hstep
  | take i =>
    simp only [step] at hstep
    split at hstep
    · rename_i h
      split at hstep
      · obtain rfl := Option.some.inj hstep
        exact ⟨i, _, moved_release h.1 (by rw [h.2]; rfl)⟩
      · split at hstep
        · obtain rfl := Option.some.inj hstep
          exact ⟨i, _, moved_release h.1 (by rw [h.2]; rfl)⟩
        · obtain rfl := Option.some.inj hstep
          exact ⟨i, .working, (moved_release h.1 (by rw [h.2]; rfl)).take _⟩
    · cases hstep
  | finish i =>
    simp only [step] at hstep
    split at hstep
    · rename_i h
      obtain rfl := Option.some.inj hstep
      exact ⟨i, _, moved_goto h.1 (by rw [h.2]; rfl) (by rw [h.2]; rfl) fun _ => rfl⟩
    · cases hstep
  | drain i =>
    simp only [step] at hstep
    split at hstep
    · rename_i h
      split at hstep
      · obtain rfl := Option.some.inj hstep
        exact ⟨i, _, moved_release h.1 (by rw [h.2]; rfl)⟩
      · obtain rfl := Option.some.inj hstep
        have hself : s.goto i (s.phase i) = s := by
          rw [State.goto, Function.update_eq_self]
        have hmoved := moved_goto (s := s) h.1 rfl (by rw [h.2]; rfl) fun _ => by rw [h.2]; rfl
        rw [hself] at hmoved
        exact ⟨i, _, hmoved.take _⟩
    · cases hstep
  | post q task => cases hown
  | notifyOne q woken => cases hown
  | close => cases hown
  | notifyAll => cases hown

lemma Moved.phase_of_ne (h : Moved L s s' i p) {j : ℕ} (hj : j ≠ i) : s'.phase j = s.phase j := by
  rw [h.phase, Function.update_of_ne hj]

lemma Moved.phase_self (h : Moved L s s' i p) : s'.phase i = p := by
  rw [h.phase, Function.update_self]

/-- What an event needs, and the state after it. -/
inductive Effect (L : Layout) (s : State Task) : Event Task → State Task → Prop
  | moved (e : Event Task) (s' : State Task) (i : ℕ) (p : Phase) (own : e.Own)
      (moved : Moved L s s' i p) : Effect L s e s'
  | dropped (q : ℕ) (task : Task) : Effect L s (.post q task) s
  | posted (q : ℕ) (task : Task) (queue : ℕ → List Task) (posted : ℕ → ℕ) :
    Effect L s (.post q task) { s with queue := queue, posted := posted }
  | woken (q i : ℕ) (posted : ℕ → ℕ) (sleeping : s.phase i = .sleeping) :
    Effect L s (.notifyOne q (some i)) ({ s with posted := posted }.goto i .notified)
  | unheard (q : ℕ) (posted : ℕ → ℕ) : Effect L s (.notifyOne q none) { s with posted := posted }
  | closed (closing : s.closing = none) :
    Effect L s .close { s with stop := true, closing := some 0 }
  | notified (k : ℕ) (closing : s.closing = some k) :
    Effect L s .notifyAll { s with
      closing := some (k + 1)
      phase := fun i =>
        if i < L.workers ∧ L.queueOf i = k ∧ s.phase i = .sleeping then .notified
        else s.phase i }

lemma effect_of_step (hstep : step L s e = some s') : Effect L s e s' := by
  by_cases hown : e.Own
  · obtain ⟨i, p, h⟩ := moved_of_own hown hstep
    exact .moved e s' i p hown h
  · cases e with
    | post q task =>
      simp only [step] at hstep
      split at hstep
      · split at hstep
        · exact Option.some.inj hstep ▸ .dropped q task
        · exact Option.some.inj hstep ▸ .posted q task _ _
      · cases hstep
    | notifyOne q woken =>
      simp only [step] at hstep
      split at hstep
      · split at hstep
        · split at hstep
          · rename_i i h
            exact Option.some.inj hstep ▸ .woken q i _ h.2.2
          · cases hstep
        · split at hstep
          · exact Option.some.inj hstep ▸ .unheard q _
          · cases hstep
      · cases hstep
    | close =>
      simp only [step] at hstep
      split at hstep
      · rename_i h
        exact Option.some.inj hstep ▸ .closed h
      · cases hstep
    | notifyAll =>
      simp only [step] at hstep
      split at hstep
      · cases hstep
      · rename_i k hk
        split at hstep
        · exact Option.some.inj hstep ▸ .notified k hk
        · cases hstep
    | _ => exact absurd trivial hown

lemma Moved.sound (h : Moved L s s' i p) (hs : Sound L s) : Sound L s' where
  mutex q j hj := by
    have hother : s.mutex q = some j → j ≠ i →
        j < L.workers ∧ L.queueOf j = q ∧ (s'.phase j).locks = true := by
      intro hheld hne
      rw [h.phase_of_ne hne]
      exact hs.mutex q j hheld
    rcases h.mutex with ⟨hmutex, hlocks⟩ | ⟨hmutex, hlocks⟩ | hmutex
    · rw [hmutex] at hj
      by_cases hji : j = i
      · subst hji
        rw [h.phase_self, hlocks]
        exact hs.mutex q j hj
      · exact hother hj hji
    · rw [hmutex] at hj
      by_cases hq : q = L.queueOf i
      · rw [hq, Function.update_self] at hj
        obtain rfl := Option.some.inj hj
        rw [h.phase_self]
        exact ⟨h.lt, hq.symm, hlocks⟩
      · rw [Function.update_of_ne hq] at hj
        refine hother hj fun hji => hq ?_
        rw [← hji, (hs.mutex q j hj).2.1]
    · rw [hmutex] at hj
      by_cases hq : q = L.queueOf i
      · rw [hq, Function.update_self] at hj
        cases hj
      · rw [Function.update_of_ne hq] at hj
        refine hother hj fun hji => hq ?_
        rw [← hji, (hs.mutex q j hj).2.1]
  stop hclosing := by
    rw [h.closing] at hclosing
    rw [h.stop]
    exact hs.stop hclosing

/-- A worker that sleeps has no mutex, so its notification keeps the invariant. -/
lemma Sound.notified (hs : Sound L s) (hmutex : s'.mutex = s.mutex)
    (hphase : ∀ j, s'.phase j = s.phase j ∨ s.phase j = .sleeping)
    (hstop : s'.closing ≠ none → s'.stop = true) : Sound L s' := by
  refine ⟨fun q j hj => ?_, hstop⟩
  rw [hmutex] at hj
  obtain ⟨hlt, hq, hlocks⟩ := hs.mutex q j hj
  rcases hphase j with heq | hsleeping
  · exact ⟨hlt, hq, by rwa [heq]⟩
  · rw [hsleeping] at hlocks
    cases hlocks

lemma sound_init : Sound L (State.init : State Task) := ⟨nofun, fun h => absurd rfl h⟩

lemma sound_step (hs : Sound L s) (hstep : step L s e = some s') : Sound L s' := by
  cases effect_of_step hstep with
  | moved e s' i p own moved => exact moved.sound hs
  | dropped q task => exact hs
  | posted q task queue posted => exact hs.notified rfl (fun _ => .inl rfl) hs.stop
  | woken q i posted sleeping =>
    refine hs.notified rfl (fun j => ?_) hs.stop
    by_cases hj : j = i
    · exact .inr (hj ▸ sleeping)
    · exact .inl (State.phase_goto_of_ne _ hj _)
  | unheard q posted => exact hs.notified rfl (fun _ => .inl rfl) hs.stop
  | closed closing => exact hs.notified rfl (fun _ => .inl rfl) fun _ => rfl
  | notified k closing =>
    refine hs.notified rfl (fun j => ?_) fun _ => hs.stop (by rw [closing]; simp)
    dsimp only
    split
    · rename_i h
      exact .inr h.2.2
    · exact .inl rfl

/-! ## A worker that is stuck -/

/-- A worker that has failed its test or sleeps is not helped by the workers. -/
lemma stuck_of_run {es : List (Event Task)} (hown : ∀ e ∈ es, e.Own)
    (hrun : run (step L) s es = some s') (hstuck : (s.phase i).stuck = true) :
    (s'.phase i).stuck = true := by
  have hall : AllSteps (step L) (fun _ e => e.Own) s es := .of_forall (fun _ => hown) s
  refine run_induction (I := fun u => (u.phase i).stuck = true) ?_ hrun hall hstuck
  intro u e u' hu hok hstep
  obtain ⟨j, p, h⟩ := moved_of_own hok hstep
  by_cases hij : i = j
  · subst hij
    rw [h.phase_self]
    exact h.stuck hu
  · rwa [h.phase_of_ne hij]

lemma CanJoin.clear (h : CanJoin L s) : Clear L s := by
  obtain ⟨es, s', hown, hrun, hexited⟩ := h
  intro i hi
  refine Bool.eq_false_iff.2 fun hstuck => ?_
  have := stuck_of_run hown hrun hstuck
  rw [hexited i hi] at this
  cases this

/-! ## The return of the workers -/

/-- The number of steps that a worker has before it under the flag, without those for the tasks
in its queue. -/
def Phase.rank : Phase → ℕ
  | notified => 5
  | entering => 5
  | testing => 4
  | working => 4
  | looping => 3
  | passed => 3
  | leaving => 2
  | draining => 1
  | _ => 0

variable (L) in
/-- What the workers have before them. -/
def remaining (s : State Task) : ℕ :=
  ∑ i ∈ Finset.range L.workers, (s.phase i).rank + ∑ q ∈ Finset.range L.queues, (s.queue q).length

lemma sum_update_lt {α : Type*} {n i : ℕ} (f : α → ℕ) (g : ℕ → α) {a : α} (hi : i < n)
    (ha : f a < f (g i)) :
    ∑ j ∈ Finset.range n, f (Function.update g i a j) < ∑ j ∈ Finset.range n, f (g j) := by
  refine Finset.sum_lt_sum (fun j _ => ?_) ⟨i, Finset.mem_range.2 hi, ?_⟩
  · by_cases hj : j = i
    · rw [hj, Function.update_self]
      exact ha.le
    · rw [Function.update_of_ne hj]
  · rwa [Function.update_self]

/-- A worker goes on to a lower phase. -/
lemma remaining_lt_of_phase (hi : i < L.workers) (hphase : s'.phase = Function.update s.phase i p)
    (hqueue : s'.queue = s.queue) (hrank : p.rank < (s.phase i).rank) :
    remaining L s' < remaining L s := by
  rw [remaining, remaining, hphase, hqueue]
  exact Nat.add_lt_add_right (sum_update_lt Phase.rank s.phase hi hrank) _

/-- A worker takes a task out of its queue. -/
lemma remaining_lt_of_queue {q : ℕ} {task : Task} {rest : List Task} (hq : q < L.queues)
    (hphase : s'.phase = s.phase) (hqueue : s'.queue = Function.update s.queue q rest)
    (hrest : s.queue q = task :: rest) : remaining L s' < remaining L s := by
  rw [remaining, remaining, hphase, hqueue]
  refine Nat.add_lt_add_left (sum_update_lt List.length s.queue hq ?_) _
  rw [hrest]
  exact Nat.lt_succ_self _

/-- A worker with the mutex can go on. -/
lemma exists_step_of_locks (hstop : s.stop = true) (hclear : Clear L s) (hi : i < L.workers)
    (hlocks : (s.phase i).locks = true) :
    ∃ e s', e.Own ∧ step L s e = some s' ∧ remaining L s' < remaining L s := by
  have hstuck := hclear i hi
  cases hphase : s.phase i with
  | testing =>
    refine ⟨.test i, s.goto i .passed, trivial, ?_, remaining_lt_of_phase hi rfl rfl ?_⟩
    · simp only [step, if_pos (And.intro hi hphase), hstop, true_or, if_true]
    · rw [hphase]
      decide
  | passed =>
    refine ⟨.take i, s.release L i .leaving, trivial, ?_, remaining_lt_of_phase hi rfl rfl ?_⟩
    · simp only [step, if_pos (And.intro hi hphase), hstop, if_true]
    · rw [hphase]
      decide
  | draining =>
    cases hqueue : s.queue (L.queueOf i) with
    | nil =>
      refine ⟨.drain i, s.release L i .exited, trivial, ?_, remaining_lt_of_phase hi rfl rfl ?_⟩
      · simp only [step, if_pos (And.intro hi hphase), hqueue]
      · rw [hphase]
        decide
    | cons task rest =>
      refine ⟨.drain i, { s with queue := Function.update s.queue (L.queueOf i) rest }, trivial,
        ?_, remaining_lt_of_queue (L.queueOf_lt i hi) rfl rfl hqueue⟩
      simp only [step, if_pos (And.intro hi hphase), hqueue]
  | failed =>
    rw [hphase] at hstuck
    cases hstuck
  | _ =>
    rw [hphase] at hlocks
    cases hlocks

/-- A worker whose mutex is free can go on until it has returned. -/
lemma exists_step_of_free (hstop : s.stop = true) (hclear : Clear L s) (hi : i < L.workers)
    (hfree : s.mutex (L.queueOf i) = none) (hlocks : (s.phase i).locks = false)
    (hexited : s.phase i ≠ .exited) :
    ∃ e s', e.Own ∧ step L s e = some s' ∧ remaining L s' < remaining L s := by
  have hstuck := hclear i hi
  cases hphase : s.phase i with
  | looping =>
    refine ⟨.loop i, s.goto i .leaving, trivial, ?_, remaining_lt_of_phase hi rfl rfl ?_⟩
    · simp only [step, if_pos (And.intro hi hphase), hstop, if_true]
    · rw [hphase]
      decide
  | entering =>
    refine ⟨.lock i, s.acquire L i .testing, trivial, ?_, remaining_lt_of_phase hi rfl rfl ?_⟩
    · simp only [step, if_pos (And.intro hi hfree), hphase]
    · rw [hphase]
      decide
  | notified =>
    refine ⟨.lock i, s.acquire L i .testing, trivial, ?_, remaining_lt_of_phase hi rfl rfl ?_⟩
    · simp only [step, if_pos (And.intro hi hfree), hphase]
    · rw [hphase]
      decide
  | leaving =>
    refine ⟨.lock i, s.acquire L i .draining, trivial, ?_, remaining_lt_of_phase hi rfl rfl ?_⟩
    · simp only [step, if_pos (And.intro hi hfree), hphase]
    · rw [hphase]
      decide
  | working =>
    refine ⟨.finish i, s.goto i .looping, trivial, ?_, remaining_lt_of_phase hi rfl rfl ?_⟩
    · simp only [step, if_pos (And.intro hi hphase)]
    · rw [hphase]
      decide
  | sleeping =>
    rw [hphase] at hstuck
    cases hstuck
  | exited => exact absurd hphase hexited
  | _ =>
    rw [hphase] at hlocks
    cases hlocks

/-- Under the flag the workers get on as long as one of them has not returned: a worker with a
mutex if there is one, and any worker otherwise. -/
lemma exists_step (hs : Sound L s) (hstop : s.stop = true) (hclear : Clear L s)
    (hleft : ∃ i < L.workers, s.phase i ≠ .exited) :
    ∃ e s', e.Own ∧ step L s e = some s' ∧ remaining L s' < remaining L s := by
  by_cases hlocked : ∃ i < L.workers, (s.phase i).locks = true
  · obtain ⟨i, hi, hlocks⟩ := hlocked
    exact exists_step_of_locks hstop hclear hi hlocks
  · obtain ⟨i, hi, hexited⟩ := hleft
    have hunlocked : ∀ j < L.workers, (s.phase j).locks = false :=
      fun j hj => Bool.eq_false_iff.2 fun h => hlocked ⟨j, hj, h⟩
    have hfree : s.mutex (L.queueOf i) = none := by
      cases hmutex : s.mutex (L.queueOf i) with
      | none => rfl
      | some j =>
        obtain ⟨hj, -, hlocks⟩ := hs.mutex _ j hmutex
        exact absurd ((hunlocked j hj).symm.trans hlocks) Bool.false_ne_true
    exact exists_step_of_free hstop hclear hi hfree (hunlocked i hi) hexited

lemma Moved.clear_of (h : Moved L s s' i p) (hstop : s.stop = true) (hclear : Clear L s) :
    Clear L s' := by
  intro j hj
  by_cases hji : j = i
  · rw [hji, h.phase_self]
    exact h.clear hstop (hclear i h.lt)
  · rw [h.phase_of_ne hji]
    exact hclear j hj

/-- **When no worker has failed its test or sleeps, all workers can return.** -/
theorem canJoin_of_clear (hs : Sound L s) (hstop : s.stop = true) (hclear : Clear L s) :
    CanJoin L s := by
  induction hn : remaining L s using Nat.strong_induction_on generalizing s with
  | _ n ih =>
    by_cases hleft : ∃ i < L.workers, s.phase i ≠ .exited
    · obtain ⟨e, s₁, hown, hstep, hlt⟩ := exists_step hs hstop hclear hleft
      obtain ⟨i, p, hmoved⟩ := moved_of_own hown hstep
      obtain ⟨es, s₂, hes, hrun, hexited⟩ := ih _ (hn ▸ hlt) (hmoved.sound hs)
        (hmoved.stop.trans hstop) (hmoved.clear_of hstop hclear) rfl
      refine ⟨e :: es, s₂, ?_, (run_cons hstep es).trans hrun, hexited⟩
      simpa only [List.forall_mem_cons] using ⟨hown, hes⟩
    · refine ⟨[], s, nofun, rfl, fun i hi => ?_⟩
      by_contra hexited
      exact hleft ⟨i, hi, hexited⟩

/-- After the last notification the workers are awake and can return when none is stuck. -/
lemma woken_iff (hs : Sound L s) : Woken L s ↔ (s.closing = some L.queues → Clear L s) := by
  refine forall_congr' fun hclosing => ⟨fun h => h.2.clear, fun hclear => ⟨fun i hi _ => ?_, ?_⟩⟩
  · intro hsleeping
    have := hclear i hi
    rw [hsleeping] at this
    cases this
  · exact canJoin_of_clear hs (hs.stop (by rw [hclosing]; simp)) hclear

/-! ## One step of the shutdown -/

lemma inTime_of_own (h : e.Own) : InTime L s e := by
  cases e with
  | notifyAll => cases h
  | _ => trivial

lemma clear_goto (hclear : Clear L s) (hp : p.stuck = false) : Clear L (s.goto i p) := by
  intro j hj
  by_cases hji : j = i
  · rw [hji, State.phase_goto_self]
    exact hp
  · rw [s.phase_goto_of_ne hji]
    exact hclear j hj

lemma clear_notifyAll_iff {k : ℕ} :
    Clear L { s with
        closing := some (k + 1)
        phase := fun i =>
          if i < L.workers ∧ L.queueOf i = k ∧ s.phase i = .sleeping then .notified
          else s.phase i } ↔
      ∀ i < L.workers, s.phase i ≠ .failed ∧ (s.phase i = .sleeping → L.queueOf i = k) := by
  refine forall_congr' fun i => forall_congr' fun hi => ?_
  dsimp only
  split
  · rename_i h
    refine iff_of_true rfl ⟨?_, fun _ => h.2.1⟩
    rw [h.2.2]
    simp
  · rename_i h
    constructor
    · intro hstuck
      constructor
      · intro hfailed
        rw [hfailed] at hstuck
        cases hstuck
      · intro hsleeping
        rw [hsleeping] at hstuck
        cases hstuck
    · rintro ⟨hfailed, hsleeping⟩
      cases hphase : s.phase i with
      | failed => exact absurd hphase hfailed
      | sleeping => exact absurd ⟨hi, hsleeping hphase, hphase⟩ h
      | _ => rfl

/-- **One step** leaves no worker asleep for ever exactly when the last notification comes in
time. -/
lemma woken_step (hs : Sound L s) (hwoken : Woken L s) (hstep : step L s e = some s') :
    Woken L s' ↔ InTime L s e := by
  rw [woken_iff hs] at hwoken
  rw [woken_iff (sound_step hs hstep)]
  cases effect_of_step hstep with
  | moved e s' i p own moved =>
    rw [moved.closing]
    refine iff_of_true (fun hclosing => ?_) (inTime_of_own own)
    exact moved.clear_of (hs.stop (by rw [hclosing]; simp)) (hwoken hclosing)
  | woken q i posted sleeping =>
    exact iff_of_true (fun hclosing => clear_goto (hwoken hclosing) rfl) trivial
  | closed closing =>
    refine iff_of_true (fun hclosing i hi => ?_) trivial
    -- without a condition variable there is no worker
    have hqueues : 0 = L.queues := Option.some.inj hclosing
    exact absurd (L.queueOf_lt i hi) (by omega)
  | notified k closing =>
    simp only [InTime, closing, Option.some.injEq, forall_eq']
    exact forall_congr' fun _ => clear_notifyAll_iff
  | _ => exact iff_of_true hwoken trivial

/-- **A shutdown wakes every worker, so that all of them can return, exactly when its last
notification comes in time.** -/
theorem allStates_woken_iff {es : List (Event Task)} (hrun : run (step L) .init es = some s) :
    AllStates (step L) (Woken L) .init es ↔ AllSteps (step L) (InTime L) .init es :=
  allStates_iff_allSteps (I := Sound L) (fun _ _ _ => sound_step) (fun _ _ _ => woken_step)
    hrun sound_init nofun

end Machine

end Monitor
