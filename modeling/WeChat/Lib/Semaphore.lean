/-
# Processes over a counting semaphore

A process is started with a program of acquisitions and releases, and runs it over permits
that all processes share.  An acquisition that finds no permit blocks.  This file has the
steps of such processes, the conservation of the permits, and how the processes can come to a
stop: every one of them blocked, and no permit left.
-/
import WeChat.Lib.Tally
import WeChat.Lib.Transition

namespace Semaphore

open Tally Transition

inductive Action
  | acquire | release
deriving DecidableEq, Repr

/-- A process: the permits it holds, whether it is blocked, and what it has still to do. -/
structure Process where
  held : ℕ
  waiting : Bool
  rest : List Action

structure State where
  free : ℕ
  processes : List Process

inductive Event (Program : Type*)
  | start (p : Program)
  | act (i : ℕ)

/-- The next action of a process, and the permits that are free afterwards.  A blocked
process moves on as soon as there is a permit. -/
def Process.act (free : ℕ) (q : Process) : Option (ℕ × Process) :=
  match q.rest with
  | [] => none
  | .acquire :: rest =>
    match free with
    | 0 => if q.waiting then none else some (0, { q with waiting := true })
    | free + 1 => some (free, ⟨q.held + 1, false, rest⟩)
  | .release :: rest =>
    match q.held with
    | 0 => none
    | held + 1 => some (free + 1, ⟨held, false, rest⟩)

/-- One step of the processes, whose programs are given by `actions`. -/
def step {Program : Type*} (actions : Program → List Action) (s : State) :
    Event Program → Option State
  | .start p => some { s with processes := s.processes ++ [⟨0, false, actions p⟩] }
  | .act i =>
    match s.processes[i]? with
    | none => none
    | some q => (q.act s.free).map fun r => ⟨r.1, s.processes.set i r.2⟩

/-- No process has been started. -/
def State.init (permits : ℕ) : State := ⟨permits, []⟩

/-! ## What one step does -/

/-- The three things that a process can do. -/
inductive Acted (free : ℕ) (q : Process) : ℕ → Process → Prop
  | block (rest : List Action) (next : q.rest = .acquire :: rest) (empty : free = 0)
      (awake : q.waiting = false) : Acted free q free { q with waiting := true }
  | take (rest : List Action) (next : q.rest = .acquire :: rest) (free' : ℕ)
      (permit : free = free' + 1) : Acted free q free' ⟨q.held + 1, false, rest⟩
  | put (rest : List Action) (next : q.rest = .release :: rest) (held : ℕ)
      (permit : q.held = held + 1) : Acted free q (free + 1) ⟨held, false, rest⟩

lemma Process.acted_of_act {free free' : ℕ} {q q' : Process}
    (h : q.act free = some (free', q')) : Acted free q free' q' := by
  obtain ⟨held, waiting, rest⟩ := q
  match rest, h with
  | .acquire :: rest, h =>
    cases free with
    | zero =>
      cases waiting with
      | true => cases h
      | false =>
        obtain ⟨rfl, rfl⟩ := Prod.mk.inj (Option.some.inj h)
        exact .block rest rfl rfl rfl
    | succ free =>
      obtain ⟨rfl, rfl⟩ := Prod.mk.inj (Option.some.inj h)
      exact .take rest rfl _ rfl
  | .release :: rest, h =>
    cases held with
    | zero => cases h
    | succ held =>
      obtain ⟨rfl, rfl⟩ := Prod.mk.inj (Option.some.inj h)
      exact .put rest rfl _ rfl

variable {Program : Type*} {actions : Program → List Action}

lemma step_act {s s' : State} {i : ℕ} (h : step actions s (.act i) = some s') :
    ∃ q free' q', s.processes[i]? = some q ∧ Acted s.free q free' q' ∧
      s' = ⟨free', s.processes.set i q'⟩ := by
  simp only [step] at h
  split at h
  · cases h
  · rename_i q hq
    obtain ⟨⟨free', q'⟩, hact, rfl⟩ := Option.map_eq_some_iff.1 h
    exact ⟨q, free', q', hq, Process.acted_of_act hact, rfl⟩

/-! ## Invariants -/

/-- What holds of every process when it is started and is kept by its actions is kept by every
step. -/
lemma processes_step {P : Process → Prop} (hstart : ∀ p, P ⟨0, false, actions p⟩)
    (hact : ∀ free q free' q', P q → Acted free q free' q' → P q') {s s' : State}
    {e : Event Program} (hs : ∀ q ∈ s.processes, P q) (hstep : step actions s e = some s') :
    ∀ q ∈ s'.processes, P q := by
  cases e with
  | start p =>
    obtain rfl := Option.some.inj hstep
    simpa [or_imp, forall_and] using ⟨hs, hstart p⟩
  | act i =>
    obtain ⟨q, free', q', hq, hacted, rfl⟩ := step_act hstep
    exact forall_mem_set hs (hact _ q _ q' (hs q (List.mem_of_getElem? hq)) hacted) i

/-- The permits are conserved. -/
lemma conserved_step {s s' : State} {e : Event Program} (h : step actions s e = some s') :
    s'.free + tally Process.held s'.processes = s.free + tally Process.held s.processes := by
  cases e with
  | start p =>
    obtain rfl := Option.some.inj h
    simp
  | act i =>
    obtain ⟨q, free', q', hq, hacted, rfl⟩ := step_act h
    have hset := tally_set Process.held hq q'
    cases hacted with
    | block rest next empty awake =>
      dsimp only at hset ⊢
      omega
    | take rest next free' permit =>
      dsimp only at hset ⊢
      omega
    | put rest next held permit =>
      dsimp only at hset ⊢
      omega

lemma conserved_of_run {N : ℕ} {es : List (Event Program)} {s : State}
    (hrun : run (step actions) (.init N) es = some s) :
    s.free + tally Process.held s.processes = N :=
  run_invariant (I := fun s => s.free + tally Process.held s.processes = N)
    (fun _ _ _ hs hstep => (conserved_step hstep).trans hs) hrun rfl

/-! ## Coming to a stop -/

/-- A process has not come to its end, and every such process is blocked for want of a
permit. -/
structure Stuck (s : State) : Prop where
  unfinished : ∃ q ∈ s.processes, q.rest ≠ []
  empty : s.free = 0
  waiting : ∀ q ∈ s.processes, q.rest ≠ [] → q.waiting = true

/-- One if the process holds a permit and its next action is an acquisition. -/
def Process.wants (q : Process) : ℕ :=
  if 0 < q.held ∧ q.rest.head? = some .acquire then 1 else 0

lemma Process.wants_le_held (q : Process) : q.wants ≤ q.held := by
  unfold Process.wants
  split <;> omega

/-- One if the process can still go on or block. -/
def Process.awake (q : Process) : ℕ :=
  if q.rest ≠ [] ∧ q.waiting = false then 1 else 0

/-- Processes that all come to an acquisition when no permit is left can run into a stop. -/
theorem exists_run_stuck {s : State} (hempty : s.free = 0)
    (hnext : ∀ q ∈ s.processes, q.rest = [] ∨ ∃ rest, q.rest = .acquire :: rest)
    (hunfinished : ∃ q ∈ s.processes, q.rest ≠ []) :
    ∃ es t, run (step actions) s es = some t ∧ Stuck t := by
  induction hn : tally Process.awake s.processes generalizing s with
  | zero =>
    refine ⟨[], s, rfl, hunfinished, hempty, fun q hq hrest => ?_⟩
    have hawake := tally_eq_zero_iff.1 hn q hq
    by_contra hwaiting
    simp [Process.awake, hrest, hwaiting] at hawake
  | succ n ih =>
    -- some process is awake, and its next action blocks it
    have hne : tally Process.awake s.processes ≠ 0 := by omega
    obtain ⟨i, q, hi, hawake⟩ := exists_of_tally_ne_zero hne
    have hq := List.mem_of_getElem? hi
    have hq' : q.rest ≠ [] ∧ q.waiting = false := by
      by_contra hcontra
      exact hawake (if_neg hcontra)
    obtain ⟨rest, hrest⟩ := (hnext q hq).resolve_left hq'.1
    have hstep : step actions s (.act i) =
        some ⟨0, s.processes.set i { q with waiting := true }⟩ := by
      simp [step, hi, Process.act, hrest, hempty, hq'.2]
    have hset := tally_set Process.awake hi { q with waiting := true }
    have hone : q.awake = 1 := if_pos hq'
    have hzero : Process.awake { q with waiting := true } = 0 := if_neg (by simp)
    have hlt : i < s.processes.length := (List.getElem?_eq_some_iff.1 hi).1
    obtain ⟨es, t, hrun, hstuck⟩ := ih (s := ⟨0, s.processes.set i { q with waiting := true }⟩) rfl
      (forall_mem_set hnext (b := { q with waiting := true }) (hnext q hq) i)
      ⟨{ q with waiting := true }, List.mem_set hlt _, hq'.1⟩ (by dsimp only; omega)
    exact ⟨.act i :: es, t, (run_cons hstep es).trans hrun, hstuck⟩

end Semaphore
