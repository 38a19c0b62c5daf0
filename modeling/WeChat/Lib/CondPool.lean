/-
# Objects behind a condition variable

Callers share the objects of a pool.  Under one mutex a caller takes the first object; when there
is none it sleeps on a condition variable, which lets go of the mutex.  It uses its object without
the mutex, which has a result, and gives it back.  That notifies one sleeper, closing the pool
notifies all of them, and a sleeper may wake up for no reason; one that has woken up takes the
mutex again and looks once more, and another caller may have been faster.  As long as the pool is
open no object is lost or handed out twice, no notification comes to nothing, and the callers,
left to themselves, are all served.
-/
import WeChat.Lib.Tally
import WeChat.Lib.Transition

namespace CondPool

open Tally Transition

variable {α β : Type*}

/-- Where a caller stands. -/
inductive Phase (α β : Type*)
  /-- Before the mutex. -/
  | asking
  | sleeping
  /-- It has woken up, and needs the mutex. -/
  | woken
  | busy (x : α)
  /-- It has used its object, with a result. -/
  | used (x : α) (r : β)
  /-- It has given its object back. -/
  | returned (r : β)
  /-- It has found the pool closed. -/
  | refused
deriving DecidableEq

structure State (α β : Type*) where
  free : List α
  callers : List (Phase α β)
  stopped : Bool

inductive Event (β : Type*)
  /-- There is one more caller. -/
  | start
  /-- A caller gets the mutex, and looks for an object. -/
  | enter (i : ℕ)
  /-- A sleeper wakes up for no reason. -/
  | wake (i : ℕ)
  | use (i : ℕ) (r : β)
  /-- A caller gives its object back, and a sleeper is notified, if there is one. -/
  | giveBack (i : ℕ) (notified : Option ℕ)
  | close

/-- The object that a caller has. -/
def Phase.item : Phase α β → Option α
  | busy x => some x
  | used x _ => some x
  | _ => none

/-- What the use of its object has come to. -/
def Phase.result : Phase α β → Option β
  | used _ r => some r
  | returned r => some r
  | _ => none

/-- A notification of all. -/
def Phase.notify : Phase α β → Phase α β
  | sleeping => woken
  | p => p

def Phase.sleeps : Phase α β → ℕ
  | sleeping => 1
  | _ => 0

def Phase.awake : Phase α β → ℕ
  | woken => 1
  | _ => 0

/-- The caller has come to its end. -/
def Phase.Over : Phase α β → Prop
  | returned _ => True
  | refused => True
  | _ => False

namespace State

def init (items : List α) : State α β := ⟨items, [], false⟩

def goto (s : State α β) (i : ℕ) (p : Phase α β) : State α β :=
  { s with callers := s.callers.set i p }

def sleepers (s : State α β) : ℕ := tally Phase.sleeps s.callers

def woken (s : State α β) : ℕ := tally Phase.awake s.callers

/-- The objects that callers have. -/
def held (s : State α β) : List α := s.callers.filterMap Phase.item

/-- The body of the wait and what follows, under the mutex. -/
def look (s : State α β) (i : ℕ) : State α β :=
  if s.stopped then s.goto i .refused
  else
    match s.free with
    | [] => s.goto i .sleeping
    | x :: free => { s with free := free }.goto i (.busy x)

end State

def step (s : State α β) : Event β → Option (State α β)
  | .start => some { s with callers := s.callers ++ [.asking] }
  | .enter i =>
    match s.callers[i]? with
    | some .asking => some (s.look i)
    | some .woken => some (s.look i)
    | _ => none
  | .wake i =>
    match s.callers[i]? with
    | some .sleeping => some (s.goto i .woken)
    | _ => none
  | .use i r =>
    match s.callers[i]? with
    | some (.busy x) => some (s.goto i (.used x r))
    | _ => none
  | .giveBack i notified =>
    match s.callers[i]? with
    | some (.used x r) =>
      if s.stopped then
        if notified = none then some (s.goto i (.returned r)) else none
      else
        let s := { s with free := s.free ++ [x] }.goto i (.returned r)
        match notified with
        | none => if s.sleepers = 0 then some s else none
        | some j =>
          match s.callers[j]? with
          | some .sleeping => some (s.goto j .woken)
          | _ => none
    | _ => none
  | .close => some { s with stopped := true, callers := s.callers.map Phase.notify }

/-! ## What a step does -/

/-- The events with what they find. -/
inductive Effect (s : State α β) : Event β → State α β → Prop
  | start : Effect s .start { s with callers := s.callers ++ [.asking] }
  | refuse {i : ℕ} {p : Phase α β} (hp : s.callers[i]? = some p) (hlooks : p = .asking ∨ p = .woken)
      (hstop : s.stopped = true) : Effect s (.enter i) (s.goto i .refused)
  | sleep {i : ℕ} {p : Phase α β} (hp : s.callers[i]? = some p) (hlooks : p = .asking ∨ p = .woken)
      (hopen : s.stopped = false) (hnone : s.free = []) :
      Effect s (.enter i) (s.goto i .sleeping)
  | take {i : ℕ} {p : Phase α β} {x : α} {free : List α} (hp : s.callers[i]? = some p)
      (hlooks : p = .asking ∨ p = .woken) (hopen : s.stopped = false)
      (hfree : s.free = x :: free) :
      Effect s (.enter i) ({ s with free := free }.goto i (.busy x))
  | wake {i : ℕ} (hp : s.callers[i]? = some .sleeping) : Effect s (.wake i) (s.goto i .woken)
  | use {i : ℕ} {x : α} {r : β} (hp : s.callers[i]? = some (.busy x)) :
      Effect s (.use i r) (s.goto i (.used x r))
  | drop {i : ℕ} {x : α} {r : β} (hp : s.callers[i]? = some (.used x r))
      (hstop : s.stopped = true) : Effect s (.giveBack i none) (s.goto i (.returned r))
  | put {i : ℕ} {x : α} {r : β} (hp : s.callers[i]? = some (.used x r))
      (hopen : s.stopped = false) (hnone : (s.goto i (.returned r)).sleepers = 0) :
      Effect s (.giveBack i none) ({ s with free := s.free ++ [x] }.goto i (.returned r))
  | hand {i j : ℕ} {x : α} {r : β} (hp : s.callers[i]? = some (.used x r))
      (hopen : s.stopped = false) (hj : (s.goto i (.returned r)).callers[j]? = some .sleeping) :
      Effect s (.giveBack i (some j))
        (({ s with free := s.free ++ [x] }.goto i (.returned r)).goto j .woken)
  | close : Effect s .close { s with stopped := true, callers := s.callers.map Phase.notify }

lemma effect_look {s : State α β} {i : ℕ} {p : Phase α β} (hp : s.callers[i]? = some p)
    (hlooks : p = .asking ∨ p = .woken) : Effect s (.enter i) (s.look i) := by
  rw [State.look]
  by_cases hstop : s.stopped = true
  · rw [if_pos hstop]
    exact .refuse hp hlooks hstop
  · rw [if_neg hstop]
    have hopen := Bool.eq_false_iff.2 hstop
    split
    · next hnone => exact .sleep hp hlooks hopen hnone
    · next hfree => exact .take hp hlooks hopen hfree

lemma effect_of_step {s s' : State α β} {e : Event β} (h : step s e = some s') : Effect s e s' := by
  cases e with
  | start =>
    obtain rfl := Option.some.inj h
    exact .start
  | enter i =>
    simp only [step] at h
    split at h
    · next hp => exact Option.some.inj h ▸ effect_look hp (.inl rfl)
    · next hp => exact Option.some.inj h ▸ effect_look hp (.inr rfl)
    · cases h
  | wake i =>
    simp only [step] at h
    split at h
    · next hp => exact Option.some.inj h ▸ .wake hp
    · cases h
  | use i r =>
    simp only [step] at h
    split at h
    · next hp => exact Option.some.inj h ▸ .use hp
    · cases h
  | giveBack i notified =>
    simp only [step] at h
    split at h
    · next x r hp =>
      by_cases hstop : s.stopped = true
      · rw [if_pos hstop] at h
        split_ifs at h with hnone
        obtain rfl := hnone
        exact Option.some.inj h ▸ .drop hp hstop
      · rw [if_neg hstop] at h
        have hopen := Bool.eq_false_iff.2 hstop
        cases notified with
        | none =>
          simp only at h
          split_ifs at h with hnone
          exact Option.some.inj h ▸ .put hp hopen hnone
        | some j =>
          simp only at h
          split at h
          · next hj => exact Option.some.inj h ▸ .hand hp hopen hj
          · cases h
    · cases h
  | close =>
    obtain rfl := Option.some.inj h
    exact .close

/-! ## What is kept -/

section Kept

variable {s s' : State α β} {e : Event β} {i : ℕ} {p q : Phase α β} {items : List α}

/-- Replacing an entry trades what it yields for what the new one yields. -/
lemma perm_filterMap_set {β : Type*} (f : β → Option α) {l : List β} {i : ℕ} {a : β}
    (h : l[i]? = some a) (b : β) :
    ((l.set i b).filterMap f ++ (f a).toList).Perm (l.filterMap f ++ (f b).toList) := by
  induction l generalizing i with
  | nil => cases h
  | cons c l ih =>
    have hcons : ∀ (c : β) (l : List β), (c :: l).filterMap f = (f c).toList ++ l.filterMap f := by
      intro c l
      rw [List.filterMap_cons]
      cases f c <;> rfl
    cases i with
    | zero =>
      obtain rfl : c = a := Option.some.inj h
      rw [List.set_cons_zero, hcons, hcons, List.append_assoc]
      exact List.perm_append_comm.trans (List.perm_append_comm.append_right _)
    | succ i =>
      rw [List.set_cons_succ, hcons, hcons, List.append_assoc, List.append_assoc]
      exact (ih h).append_left _

lemma held_goto (hp : s.callers[i]? = some p) (q : Phase α β) :
    ((s.goto i q).held ++ p.item.toList).Perm (s.held ++ q.item.toList) :=
  perm_filterMap_set Phase.item hp q

lemma sleepers_goto (hp : s.callers[i]? = some p) (q : Phase α β) :
    (s.goto i q).sleepers + p.sleeps = s.sleepers + q.sleeps :=
  tally_set Phase.sleeps hp q

lemma woken_goto (hp : s.callers[i]? = some p) (q : Phase α β) :
    (s.goto i q).woken + p.awake = s.woken + q.awake :=
  tally_set Phase.awake hp q

/-- What is free and what callers have. -/
def State.objects (s : State α β) : List α := s.free ++ s.held

/-- A caller without an object goes on without one. -/
lemma objects_goto (hp : s.callers[i]? = some p) (hitem : p.item = none) (hitem' : q.item = none) :
    (s.goto i q).objects.Perm s.objects := by
  have hheld := held_goto hp q
  rw [hitem, hitem', Option.toList_none, List.append_nil, List.append_nil] at hheld
  exact hheld.append_left _

lemma item_of_looks (hlooks : p = .asking ∨ p = .woken) : p.item = none := by
  rcases hlooks with rfl | rfl <;> rfl

/-- A caller that has given its object back. -/
lemma held_returned {x : α} {r : β} (hp : s.callers[i]? = some (.used x r)) :
    ((s.goto i (.returned r)).held ++ [x]).Perm s.held := by
  have hheld := held_goto hp (.returned r)
  rw [show Phase.item (α := α) (.returned r) = none from rfl, Option.toList_none,
    List.append_nil] at hheld
  exact hheld

lemma objects_put {x : α} {r : β} (hp : s.callers[i]? = some (.used x r)) :
    ({ s with free := s.free ++ [x] }.goto i (.returned r)).objects.Perm s.objects := by
  show (s.free ++ [x] ++ (s.goto i (.returned r)).held).Perm (s.free ++ s.held)
  rw [List.append_assoc]
  exact (List.perm_append_comm.trans (held_returned hp)).append_left _

/-- **No object is lost or doubled**; a closed pool throws away what is given back. -/
lemma objects_step (h : step s e = some s') :
    s'.objects.Perm s.objects ∨ s.stopped = true ∧ s'.objects.Subperm s.objects := by
  cases effect_of_step h with
  | start =>
    refine .inl (.of_eq ?_)
    show s.free ++ List.filterMap _ (s.callers ++ [_]) = s.free ++ s.held
    rw [List.filterMap_append]
    exact congrArg _ (List.append_nil _)
  | refuse hp hlooks => exact .inl (objects_goto hp (item_of_looks hlooks) rfl)
  | sleep hp hlooks => exact .inl (objects_goto hp (item_of_looks hlooks) rfl)
  | wake hp => exact .inl (objects_goto hp rfl rfl)
  | @take i p x free hp hlooks hopen hfree =>
    have hheld := held_goto hp (.busy x)
    rw [item_of_looks hlooks, Option.toList_none, List.append_nil] at hheld
    refine .inl ?_
    show (free ++ (s.goto i (.busy x)).held).Perm (s.free ++ s.held)
    rw [hfree]
    exact (hheld.append_left free).trans
      ((List.perm_append_comm.append_left free).trans List.perm_middle)
  | @use i x r hp =>
    have hheld := held_goto hp (.used x r)
    exact .inl (((List.perm_append_right_iff [x]).1 hheld).append_left _)
  | drop hp hstop =>
    refine .inr ⟨hstop, (List.subperm_append_left _).2 ?_⟩
    exact (List.sublist_append_left _ _).subperm.trans (held_returned hp).subperm
  | put hp => exact .inl (objects_put hp)
  | @hand i j x r hp hopen hj =>
    have hwoken := objects_goto (s := { s with free := s.free ++ [x] }.goto i (.returned r))
      (q := .woken) hj rfl rfl
    exact .inl (hwoken.trans (objects_put hp))
  | close =>
    refine .inl (.of_eq (congrArg (s.free ++ ·) ?_))
    show (s.callers.map Phase.notify).filterMap Phase.item = s.held
    rw [List.filterMap_map]
    exact List.filterMap_congr fun p _ => by cases p <;> rfl

/-- What holds in every reachable state of a pool that began with some objects. -/
structure Sound (items : List α) (s : State α β) : Prop where
  subperm : s.objects.Subperm items
  perm : s.stopped = false → s.objects.Perm items
  /-- No notification comes to nothing: while a caller sleeps, one that has woken up is on its way
  to each free object. -/
  noticed : s.stopped = false → s.sleepers ≠ 0 → s.free.length ≤ s.woken
  closed : s.stopped = true → s.sleepers = 0
  refused : ∀ p ∈ s.callers, p = .refused → s.stopped = true

lemma sound_init (items : List α) : Sound items (State.init items : State α β) where
  subperm := by
    show (items ++ []).Subperm items
    rw [List.append_nil]
  perm _ := .of_eq (List.append_nil _)
  noticed _ h := absurd rfl h
  closed _ := rfl
  refused _ h := absurd h List.not_mem_nil

/-- A step opens no pool. -/
lemma stopped_step (h : step s e = some s') (hopen : s'.stopped = false) : s.stopped = false := by
  cases effect_of_step h with
  | close => cases hopen
  | _ => exact hopen

lemma noticed_step (hs : Sound items s) (h : step s e = some s') (hopen' : s'.stopped = false)
    (hsleep : s'.sleepers ≠ 0) : s'.free.length ≤ s'.woken := by
  have hopen := stopped_step h hopen'
  have hnoticed := hs.noticed hopen
  cases effect_of_step h with
  | start =>
    have hsleepers : State.sleepers { s with callers := s.callers ++ [.asking] } = s.sleepers := by
      simp [State.sleepers, Phase.sleeps]
    have hwoken : State.woken { s with callers := s.callers ++ [.asking] } = s.woken := by
      simp [State.woken, Phase.awake]
    rw [hwoken]
    exact hnoticed (hsleepers ▸ hsleep)
  | refuse _ _ hstop => exact absurd hopen (by simp [hstop])
  | sleep _ _ _ hnone =>
    show s.free.length ≤ _
    rw [hnone]
    exact Nat.zero_le _
  | @take i p x free hp hlooks _ hfree =>
    have hsleepers := sleepers_goto hp (.busy x)
    have hwoken := woken_goto hp (.busy x)
    have hlength := congrArg List.length hfree
    replace hsleep : (s.goto i (.busy x)).sleepers ≠ 0 := hsleep
    show free.length ≤ (s.goto i (.busy x)).woken
    rw [List.length_cons] at hlength
    rcases hlooks with rfl | rfl <;> simp only [Phase.sleeps, Phase.awake] at hsleepers hwoken <;>
      have := hnoticed (by omega) <;> omega
  | @wake i hp =>
    have hsleepers := sleepers_goto hp .woken
    have hwoken := woken_goto hp .woken
    simp only [Phase.sleeps, Phase.awake] at hsleepers hwoken
    have := hnoticed (by omega)
    show s.free.length ≤ _
    omega
  | @use i x r hp =>
    have hsleepers := sleepers_goto hp (.used x r)
    have hwoken := woken_goto hp (.used x r)
    simp only [Phase.sleeps, Phase.awake] at hsleepers hwoken
    have := hnoticed (by omega)
    show s.free.length ≤ _
    omega
  | drop _ hstop => exact absurd hopen (by simp [hstop])
  | put _ _ hnone => exact absurd hnone hsleep
  | @hand i j x r hp _ hj =>
    have hsleepers := sleepers_goto hp (.returned r)
    have hwoken := woken_goto hp (.returned r)
    have hsleepers' := sleepers_goto hj .woken
    have hwoken' := woken_goto hj .woken
    simp only [Phase.sleeps, Phase.awake] at hsleepers hwoken hsleepers' hwoken'
    have := hnoticed (by omega)
    show (s.free ++ [x]).length ≤ ((s.goto i (.returned r)).goto j .woken).woken
    rw [List.length_append, List.length_singleton]
    omega
  | close => cases hopen'

lemma closed_step (hs : Sound items s) (h : step s e = some s') (hstop' : s'.stopped = true) :
    s'.sleepers = 0 := by
  have hclosed := hs.closed
  cases effect_of_step h with
  | start =>
    have hsleepers : State.sleepers { s with callers := s.callers ++ [.asking] } = s.sleepers := by
      simp [State.sleepers, Phase.sleeps]
    exact hsleepers.trans (hclosed hstop')
  | @refuse i p hp hlooks =>
    have hsleepers := sleepers_goto hp .refused
    have := hclosed hstop'
    simp only [Phase.sleeps] at hsleepers
    omega
  | @wake i hp =>
    have hsleepers := sleepers_goto hp .woken
    have := hclosed hstop'
    simp only [Phase.sleeps] at hsleepers
    omega
  | @use i x r hp =>
    have hsleepers := sleepers_goto hp (.used x r)
    have := hclosed hstop'
    simp only [Phase.sleeps] at hsleepers
    omega
  | @drop i x r hp =>
    have hsleepers := sleepers_goto hp (.returned r)
    have := hclosed hstop'
    simp only [Phase.sleeps] at hsleepers
    omega
  | close =>
    refine tally_eq_zero_iff.2 fun p hp => ?_
    obtain ⟨p', -, rfl⟩ := List.mem_map.1 hp
    cases p' <;> rfl
  | sleep _ _ hopen => exact absurd hstop' (by simp [State.goto, hopen])
  | take _ _ hopen => exact absurd hstop' (by simp [State.goto, hopen])
  | put _ hopen => exact absurd hstop' (by simp [State.goto, hopen])
  | hand _ hopen => exact absurd hstop' (by simp [State.goto, hopen])

lemma mem_goto (hq : q ∈ (s.goto i p).callers) : q ∈ s.callers ∨ q = p :=
  List.mem_or_eq_of_mem_set hq

lemma refused_step (hs : Sound items s) (h : step s e = some s') :
    ∀ p ∈ s'.callers, p = .refused → s'.stopped = true := by
  have hkeep : ∀ {p i}, ¬ p = .refused → ∀ q ∈ (s.goto i p).callers, q = .refused →
      s.stopped = true := by
    intro p i hne q hq hrefused
    rcases mem_goto hq with hq | rfl
    · exact hs.refused q hq hrefused
    · exact absurd hrefused hne
  cases effect_of_step h with
  | start =>
    intro p hp hrefused
    rcases List.mem_append.1 hp with hp | hp
    · exact hs.refused p hp hrefused
    · obtain rfl := List.mem_singleton.1 hp
      cases hrefused
  | refuse _ _ hstop => exact fun _ _ _ => hstop
  | hand =>
    intro q hq hrefused
    rcases mem_goto hq with hq | rfl
    · exact hkeep (by simp) q hq hrefused
    · cases hrefused
  | close => exact fun _ _ _ => rfl
  | _ => exact hkeep (by simp)

lemma sound_step (hs : Sound items s) (h : step s e = some s') : Sound items s' where
  subperm := by
    rcases objects_step h with hperm | ⟨-, hsub⟩
    · exact hperm.subperm.trans hs.subperm
    · exact hsub.trans hs.subperm
  perm hopen' := by
    have hopen := stopped_step h hopen'
    rcases objects_step h with hperm | ⟨hstop, -⟩
    · exact hperm.trans (hs.perm hopen)
    · rw [hopen] at hstop
      cases hstop
  noticed := noticed_step hs h
  closed := closed_step hs h
  refused := refused_step hs h

lemma sound_of_run {es : List (Event β)} (hrun : run step (.init items) es = some s) :
    Sound items s :=
  run_invariant (fun _ _ _ hs h => sound_step hs h) hrun (sound_init items)

end Kept

/-! ## Callers that are left to themselves -/

/-- A step of a caller that is there and does not sleep. -/
def Event.Own : Event β → Prop
  | enter _ => True
  | use _ _ => True
  | giveBack _ _ => True
  | _ => False

/-- A bound on the steps that a caller has before it; a sleeper will be notified once more. -/
def Phase.rank : Phase α β → ℕ
  | asking => 5
  | woken => 4
  | sleeping => 3
  | busy _ => 3
  | used _ _ => 2
  | returned _ => 0
  | refused => 0

/-- What the callers have before them. -/
def State.remaining (s : State α β) : ℕ := tally Phase.rank s.callers

/-- No caller has a step to do. -/
def State.Quiet (s : State α β) : Prop := ∀ e : Event β, e.Own → step s e = none

section Served

variable {s s' t : State α β} {e : Event β} {items : List α} {es es' : List (Event β)}

lemma rank_of_looks {p : Phase α β} (hlooks : p = .asking ∨ p = .woken) : 3 < p.rank := by
  rcases hlooks with rfl | rfl
  · show 3 < 5
    omega
  · show 3 < 4
    omega

lemma remaining_goto {i : ℕ} {p : Phase α β} (hp : s.callers[i]? = some p) (q : Phase α β) :
    (s.goto i q).remaining + p.rank = s.remaining + q.rank :=
  tally_set Phase.rank hp q

lemma remaining_step (hown : e.Own) (h : step s e = some s') : s'.remaining < s.remaining := by
  cases effect_of_step h with
  | refuse hp hlooks =>
    have := remaining_goto hp .refused
    have := rank_of_looks hlooks
    simp only [Phase.rank] at *
    omega
  | sleep hp hlooks =>
    have := remaining_goto hp .sleeping
    have := rank_of_looks hlooks
    simp only [Phase.rank] at *
    omega
  | @take i p x free hp hlooks =>
    have := remaining_goto hp (.busy x)
    have := rank_of_looks hlooks
    show (s.goto i (.busy x)).remaining < _
    simp only [Phase.rank] at *
    omega
  | @use i x r hp =>
    have := remaining_goto hp (.used x r)
    simp only [Phase.rank] at this
    omega
  | @drop i x r hp =>
    have := remaining_goto hp (.returned r)
    simp only [Phase.rank] at this
    omega
  | @put i x r hp =>
    have := remaining_goto hp (.returned r)
    simp only [Phase.rank] at this
    show (s.goto i (.returned r)).remaining < _
    omega
  | @hand i j x r hp _ hj =>
    -- the one that gives back pays for the one that it wakes
    have := remaining_goto hp (.returned r)
    have := remaining_goto hj .woken
    show ((s.goto i (.returned r)).goto j .woken).remaining < _
    simp only [Phase.rank] at *
    omega
  | _ => exact hown.elim

lemma remaining_run (hown : ∀ e ∈ es, e.Own) (hrun : run step s es = some t) :
    es.length + t.remaining ≤ s.remaining := by
  induction es generalizing s with
  | nil =>
    obtain rfl := Option.some.inj hrun
    exact (Nat.zero_add _).le
  | cons e es ih =>
    obtain ⟨s', he, hrun'⟩ := run_cons_inv hrun
    have hone := remaining_step (hown e List.mem_cons_self) he
    have hrest := ih (fun e he => hown e (List.mem_cons_of_mem _ he)) hrun'
    rw [List.length_cons]
    omega

/-- A caller that can be given the mutex is not quiet. -/
lemma not_quiet_of_looks {i : ℕ} {p : Phase α β} (hp : s.callers[i]? = some p)
    (hlooks : p = .asking ∨ p = .woken) : ¬ s.Quiet := by
  intro hquiet
  have hnone := hquiet (.enter i) trivial
  rcases hlooks with rfl | rfl <;> simp [step, hp] at hnone

/-- Neither is one that has an object to use. -/
lemma not_quiet_of_busy [Nonempty β] {i : ℕ} {x : α} (hp : s.callers[i]? = some (.busy x)) :
    ¬ s.Quiet := by
  intro hquiet
  have hnone := hquiet (.use i (Classical.arbitrary β)) trivial
  simp [step, hp] at hnone

/-- Neither is one that can give its object back. -/
lemma not_quiet_of_used {i : ℕ} {x : α} {r : β} (hp : s.callers[i]? = some (.used x r)) :
    ¬ s.Quiet := by
  intro hquiet
  by_cases hstop : s.stopped = true
  · have hnone := hquiet (.giveBack i none) trivial
    simp [step, hp, hstop] at hnone
  · let s₁ := { s with free := s.free ++ [x] }.goto i (.returned r)
    by_cases hsleepers : s₁.sleepers = 0
    · have hnone := hquiet (.giveBack i none) trivial
      simp only [step, hp, if_neg hstop] at hnone
      rw [if_pos hsleepers] at hnone
      cases hnone
    · obtain ⟨j, p, hj, hsleeps⟩ := exists_of_tally_ne_zero hsleepers
      have hsleeping : p = .sleeping := by cases p <;> first | rfl | exact absurd rfl hsleeps
      subst hsleeping
      have hnone := hquiet (.giveBack i (some j)) trivial
      simp only [step, hp, if_neg hstop] at hnone
      rw [hj] at hnone
      cases hnone

/-- **Nobody is left behind.**  When no caller has a step to do, all of them have come to their
end. -/
lemma over_of_quiet [Nonempty β] (hs : Sound items s) (hitems : items ≠ []) (hquiet : s.Quiet) :
    ∀ p ∈ s.callers, p.Over := by
  intro p hp
  obtain ⟨i, hi⟩ := List.mem_iff_getElem?.1 hp
  cases p with
  | asking => exact (not_quiet_of_looks hi (.inl rfl) hquiet).elim
  | woken => exact (not_quiet_of_looks hi (.inr rfl) hquiet).elim
  | busy x => exact (not_quiet_of_busy hi hquiet).elim
  | used x r => exact (not_quiet_of_used hi hquiet).elim
  | sleeping =>
    have hsleepers : s.sleepers ≠ 0 := by
      have hle : 1 ≤ s.sleepers := le_tally Phase.sleeps hp
      omega
    have hopen : s.stopped = false := by
      by_contra hstop
      exact hsleepers (hs.closed (Bool.eq_true_of_not_eq_false hstop))
    have hwoken : s.woken = 0 := by
      by_contra hne
      obtain ⟨j, p, hj, hawake⟩ := exists_of_tally_ne_zero hne
      cases p with
      | woken => exact not_quiet_of_looks hj (.inr rfl) hquiet
      | _ => exact hawake rfl
    have hheld : s.held = [] := by
      refine List.filterMap_eq_nil_iff.2 fun p hp => ?_
      obtain ⟨j, hj⟩ := List.mem_iff_getElem?.1 hp
      cases p with
      | busy x => exact (not_quiet_of_busy hj hquiet).elim
      | used x r => exact (not_quiet_of_used hj hquiet).elim
      | _ => rfl
    -- an object is free, but nobody is on its way to it
    have hfree : s.free = [] := by
      have hle := hs.noticed hopen hsleepers
      rw [hwoken] at hle
      exact List.length_eq_zero_iff.1 (Nat.le_zero.1 hle)
    have hperm := hs.perm hopen
    rw [State.objects, hfree, hheld] at hperm
    exact absurd hperm.nil_eq.symm hitems
  | returned r => trivial
  | refused => trivial

/-- Callers that have all come to their ends have nothing left to do. -/
lemma quiet_of_over (h : ∀ p ∈ s.callers, p.Over) : s.Quiet := by
  have hnot : ∀ {i : ℕ} {p : Phase α β}, s.callers[i]? = some p → ¬ p.Over → False :=
    fun hp hover => hover (h _ (List.mem_of_getElem? hp))
  intro e hown
  cases e with
  | start => exact hown.elim
  | wake i => exact hown.elim
  | close => exact hown.elim
  | enter i =>
    simp only [step]
    split
    · next hp => exact (hnot hp id).elim
    · next hp => exact (hnot hp id).elim
    · rfl
  | use i r =>
    simp only [step]
    split
    · next hp => exact (hnot hp id).elim
    · rfl
  | giveBack i notified =>
    simp only [step]
    split
    · next hp => exact (hnot hp id).elim
    · rfl

/-- **The callers of a pool are served.**  From any state that a pool with an object reaches, the
callers that are there take a bounded number of steps, and none of them is left behind. -/
theorem served_of_run [Nonempty β] (hitems : items ≠ []) (hrun : run step (.init items) es = some s)
    (hown : ∀ e ∈ es', e.Own) (hrun' : run step s es' = some t) :
    es'.length ≤ s.remaining ∧ (t.Quiet → ∀ p ∈ t.callers, p.Over) := by
  refine ⟨(Nat.le_add_right _ _).trans (remaining_run hown hrun'), over_of_quiet ?_ hitems⟩
  have hs : Sound items s := sound_of_run hrun
  exact run_invariant (fun _ _ _ hs h => sound_step hs h) hrun' hs

end Served

/-! ## Where results come from -/

section Results

variable {s s' : State α β} {e : Event β} {i : ℕ} {r : β}

/-- The use of the object of the `i`-th caller has come to this. -/
def State.Came (s : State α β) (i : ℕ) (r : β) : Prop := s.callers[i]?.bind Phase.result = some r

/-- A caller that goes on without a new result. -/
lemma came_of_goto {j : ℕ} {p q : Phase α β} (hp : s.callers[j]? = some p)
    (hresult : ∀ r, q.result = some r → p.result = some r) (h : (s.goto j q).Came i r) :
    s.Came i r := by
  rw [State.Came, State.goto, List.getElem?_set] at h
  by_cases hij : j = i
  · subst hij
    obtain ⟨hlt, -⟩ := List.getElem?_eq_some_iff.1 hp
    rw [if_pos rfl, if_pos hlt, Option.bind_some] at h
    rw [State.Came, hp, Option.bind_some]
    exact hresult r h
  · rwa [if_neg hij] at h

lemma came_of_step (h : step s e = some s') (hcame : s'.Came i r) : s.Came i r ∨ e = .use i r := by
  cases effect_of_step h with
  | start =>
    refine .inl ?_
    rw [State.Came, List.getElem?_append] at hcame
    split_ifs at hcame with hlt
    · exact hcame
    · obtain ⟨p, hp, hresult⟩ := Option.bind_eq_some_iff.1 hcame
      obtain rfl := List.mem_singleton.1 (List.mem_of_getElem? hp)
      cases hresult
  | refuse hp => exact .inl (came_of_goto hp (fun _ h => by cases h) hcame)
  | sleep hp => exact .inl (came_of_goto hp (fun _ h => by cases h) hcame)
  | @take j p x free hp => exact .inl (came_of_goto (q := .busy x) hp (fun _ h => by cases h) hcame)
  | wake hp => exact .inl (came_of_goto hp (fun _ h => by cases h) hcame)
  | @use j x r' hp =>
    by_cases hij : j = i
    · subst hij
      obtain ⟨hlt, -⟩ := List.getElem?_eq_some_iff.1 hp
      rw [State.Came, State.goto, List.getElem?_set_self hlt] at hcame
      obtain rfl := Option.some.inj hcame
      exact .inr rfl
    · rw [State.Came, State.goto, List.getElem?_set_ne hij] at hcame
      exact .inl hcame
  | @drop j x r' hp =>
    exact .inl (came_of_goto (q := .returned r') hp (fun _ h => h) hcame)
  | @put j x r' hp => exact .inl (came_of_goto (q := .returned r') hp (fun _ h => h) hcame)
  | @hand j k x r' hp _ hk =>
    refine .inl (came_of_goto (q := .returned r') hp (fun _ h => h) ?_)
    exact came_of_goto (q := .woken) hk (fun _ h => by cases h) hcame
  | close =>
    refine .inl ?_
    rw [State.Came, List.getElem?_map] at hcame
    cases hi : s.callers[i]? with
    | none =>
      rw [hi] at hcame
      cases hcame
    | some p =>
      rw [hi] at hcame
      rw [State.Came, hi]
      cases p <;> exact hcame

/-- A result is one that the use of the object has come to. -/
lemma came_of_run {items : List α} {es : List (Event β)}
    (hrun : run step (.init items) es = some s) (hcame : s.Came i r) :
    SomeStep step (fun _ e => e = .use i r) (State.init items) es :=
  (someStep_of_run (P := (State.Came · i r)) (fun _ _ _ h => came_of_step h) hrun
    hcame).resolve_left fun h => by cases h

end Results

end CondPool
