/-
# Runs of a labelled transition system

A system is a partial function `step` from a state and an event to the next state; `none`
says that the event cannot happen.  All the nondeterminism is in the events.  This file has
the runs of such a system, the rules that carry a fact about one step to a whole run, and
rules for conditions on steps that are exact: the property holds along a run if and only if
every step of the run meets the condition.
-/
import Mathlib.Data.List.Basic
import Mathlib.Data.List.Induction
import Mathlib.Data.Option.Basic

namespace Transition

variable {S E : Type*} {step : S → E → Option S}

/-- The state after a sequence of events. -/
def run (step : S → E → Option S) : S → List E → Option S
  | s, [] => some s
  | s, e :: es => (step s e).bind fun s' => run step s' es

/-- Every step of a run meets a condition on the state before it and its event. -/
def AllSteps (step : S → E → Option S) (ok : S → E → Prop) : S → List E → Prop
  | _, [] => True
  | s, e :: es => ok s e ∧ ∀ s', step s e = some s' → AllSteps step ok s' es

/-- A property holds in every state that a run visits. -/
def AllStates (step : S → E → Option S) (P : S → Prop) : S → List E → Prop
  | s, [] => P s
  | s, e :: es => P s ∧ ∀ s', step s e = some s' → AllStates step P s' es

/-- Some step of a run meets a condition on the state before it and its event. -/
def SomeStep (step : S → E → Option S) (ok : S → E → Prop) : S → List E → Prop
  | _, [] => False
  | s, e :: es => ok s e ∨ ∃ s', step s e = some s' ∧ SomeStep step ok s' es

/-- The first condition of a list is met by a step of the run, the next one by an earlier step,
and so on: what led to a step, from the end to the beginning. -/
def GoesBack (step : S → E → Option S) : List (S → E → Prop) → S → List E → Prop
  | [], _, _ => True
  | ok :: oks, s, es => ∃ es₁ e es₂ s₁, es = es₁ ++ e :: es₂ ∧ run step s es₁ = some s₁ ∧
      ok s₁ e ∧ GoesBack step oks s es₁

/-- How many steps of a run meet a condition. -/
def countSteps (step : S → E → Option S) (ok : S → E → Bool) : S → List E → ℕ
  | _, [] => 0
  | s, e :: es => (if ok s e then 1 else 0) +
      match step s e with
      | some s' => countSteps step ok s' es
      | none => 0

/-- A relation holds between any two states of a run, the earlier and the later one. -/
def AllRelated (step : S → E → Option S) (R : S → S → Prop) (s : S) (es : List E) : Prop :=
  ∀ es₁ es₂ es₃ s₁ s₂, es = es₁ ++ es₂ ++ es₃ → run step s es₁ = some s₁ →
    run step s₁ es₂ = some s₂ → R s₁ s₂

@[simp] lemma run_nil (s : S) : run step s [] = some s := rfl

lemma run_cons {s s' : S} {e : E} (h : step s e = some s') (es : List E) :
    run step s (e :: es) = run step s' es := by
  rw [run, h, Option.bind_some]

lemma run_cons_inv {s t : S} {e : E} {es : List E} (h : run step s (e :: es) = some t) :
    ∃ s', step s e = some s' ∧ run step s' es = some t :=
  Option.bind_eq_some_iff.1 h

lemma run_append {s : S} {es es' : List E} :
    run step s (es ++ es') = (run step s es).bind fun s' => run step s' es' := by
  induction es generalizing s with
  | nil => rfl
  | cons e es ih =>
    rw [List.cons_append, run, run]
    cases step s e with
    | none => rfl
    | some s' => exact ih

lemma run_append_of {s t : S} {es es' : List E} (h : run step s es = some t) :
    run step s (es ++ es') = run step t es' := by
  rw [run_append, h, Option.bind_some]

lemma AllStates.head {P : S → Prop} {s : S} {es : List E} (h : AllStates step P s es) : P s := by
  cases es with
  | nil => exact h
  | cons e es => exact h.1

lemma AllStates.last {P : S → Prop} {s t : S} {es : List E} (h : AllStates step P s es)
    (hrun : run step s es = some t) : P t := by
  induction es generalizing s with
  | nil => exact Option.some.inj hrun ▸ h
  | cons e es ih =>
    obtain ⟨s', he, hrun'⟩ := run_cons_inv hrun
    exact ih (h.2 s' he) hrun'

lemma AllSteps.of_forall {ok : S → E → Prop} {es : List E} (h : ∀ s, ∀ e ∈ es, ok s e) (s : S) :
    AllSteps step ok s es := by
  induction es generalizing s with
  | nil => trivial
  | cons e es ih =>
    exact ⟨h s e List.mem_cons_self,
      fun s' _ => ih (fun s e he => h s e (List.mem_cons_of_mem _ he)) s'⟩

lemma AllSteps.mono {ok ok' : S → E → Prop} {es : List E} (h : ∀ s e, ok s e → ok' s e) {s : S}
    (hs : AllSteps step ok s es) : AllSteps step ok' s es := by
  induction es generalizing s with
  | nil => trivial
  | cons e es ih => exact ⟨h s e hs.1, fun s' he => ih (hs.2 s' he)⟩

lemma AllSteps.and {ok ok' : S → E → Prop} {s : S} {es : List E} (h : AllSteps step ok s es)
    (h' : AllSteps step ok' s es) : AllSteps step (fun s e => ok s e ∧ ok' s e) s es := by
  induction es generalizing s with
  | nil => trivial
  | cons e es ih => exact ⟨⟨h.1, h'.1⟩, fun s' he => ih (h.2 s' he) (h'.2 s' he)⟩

lemma AllSteps.cons {ok : S → E → Prop} {s s' : S} {e : E} {es : List E}
    (h : step s e = some s') (hok : ok s e) (hs : AllSteps step ok s' es) :
    AllSteps step ok s (e :: es) :=
  ⟨hok, fun _ h₁ => Option.some.inj (h.symm.trans h₁) ▸ hs⟩

/-- Two conditions that agree wherever an invariant holds agree along every run from there. -/
lemma AllSteps.congr {I : S → Prop} {ok ok' : S → E → Prop}
    (hI : ∀ s e s', I s → step s e = some s' → I s')
    (h : ∀ s e, I s → (ok s e ↔ ok' s e)) {s : S} (hs : I s) (es : List E) :
    AllSteps step ok s es ↔ AllSteps step ok' s es := by
  induction es generalizing s with
  | nil => exact Iff.rfl
  | cons e es ih =>
    refine and_congr (h s e hs) (forall_congr' fun s' => forall_congr' fun he => ?_)
    exact ih (hI s e s' hs he)

/-- Two conditions that agree on the steps that can be made agree along every run. -/
lemma AllSteps.congr_of_run {ok ok' : S → E → Prop}
    (h : ∀ s e s', step s e = some s' → (ok s e ↔ ok' s e)) {s t : S} {es : List E}
    (hrun : run step s es = some t) : AllSteps step ok s es ↔ AllSteps step ok' s es := by
  induction es generalizing s with
  | nil => exact Iff.rfl
  | cons e es ih =>
    obtain ⟨s', he, hrun'⟩ := run_cons_inv hrun
    refine and_congr (h s e s' he) (forall_congr' fun s₁ => forall_congr' fun h₁ => ?_)
    obtain rfl : s' = s₁ := Option.some.inj (he.symm.trans h₁)
    exact ih hrun'

lemma AllSteps.append {ok : S → E → Prop} {s t : S} {es es' : List E}
    (h : AllSteps step ok s es) (hrun : run step s es = some t) (h' : AllSteps step ok t es') :
    AllSteps step ok s (es ++ es') := by
  induction es generalizing s with
  | nil => exact Option.some.inj hrun ▸ h'
  | cons e es ih =>
    obtain ⟨s', he, hrun'⟩ := run_cons_inv hrun
    refine ⟨h.1, fun s₁ h₁ => ?_⟩
    obtain rfl : s' = s₁ := Option.some.inj (he.symm.trans h₁)
    exact ih (h.2 s' he) hrun'

lemma SomeStep.mono {ok ok' : S → E → Prop} {es : List E} (h : ∀ s e, ok s e → ok' s e) {s : S}
    (hs : SomeStep step ok s es) : SomeStep step ok' s es := by
  induction es generalizing s with
  | nil => exact hs
  | cons e es ih =>
    rcases hs with hs | ⟨s', he, hs⟩
    · exact .inl (h s e hs)
    · exact .inr ⟨s', he, ih hs⟩

lemma SomeStep.append {ok : S → E → Prop} {s : S} {es : List E} (h : SomeStep step ok s es)
    (es' : List E) : SomeStep step ok s (es ++ es') := by
  induction es generalizing s with
  | nil => exact h.elim
  | cons e es ih =>
    rcases h with h | ⟨s', he, h⟩
    · exact .inl h
    · exact .inr ⟨s', he, ih h⟩

lemma SomeStep.right {ok : S → E → Prop} {s t : S} {es es' : List E}
    (hrun : run step s es = some t) (h : SomeStep step ok t es') :
    SomeStep step ok s (es ++ es') := by
  induction es generalizing s with
  | nil => exact Option.some.inj hrun ▸ h
  | cons e es ih =>
    obtain ⟨s', he, hrun'⟩ := run_cons_inv hrun
    exact .inr ⟨s', he, ih hrun'⟩

/-- The step is one that follows a beginning of the run. -/
lemma someStep_iff {ok : S → E → Prop} {s : S} {es : List E} :
    SomeStep step ok s es ↔
      ∃ es₁ e es₂ s₁, es = es₁ ++ e :: es₂ ∧ run step s es₁ = some s₁ ∧ ok s₁ e := by
  constructor
  · intro h
    induction es generalizing s with
    | nil => exact h.elim
    | cons e es ih =>
      rcases h with h | ⟨s', he, h⟩
      · exact ⟨[], e, es, s, rfl, rfl, h⟩
      · obtain ⟨es₁, e₁, es₂, s₁, rfl, hrun, hok⟩ := ih h
        exact ⟨e :: es₁, e₁, es₂, s₁, rfl, (run_cons he es₁).trans hrun, hok⟩
  · rintro ⟨es₁, e, es₂, s₁, rfl, hrun, hok⟩
    exact SomeStep.right hrun (.inl hok)

/-! ## A part of the state -/

section Part

variable {T : Type*} {step' : T → E → Option T} {part : T → S}

/-- A system that a part of the state follows runs when the part does. -/
lemma run_map (hpart : ∀ t e, (step' t e).map part = step (part t) e) (t : T) (es : List E) :
    (run step' t es).map part = run step (part t) es := by
  induction es generalizing t with
  | nil => rfl
  | cons e es ih =>
    rw [run, run, ← hpart]
    cases step' t e with
    | none => rfl
    | some t' => exact ih t'

/-- A condition on the part is met along the runs of both systems. -/
lemma allSteps_map_iff (hpart : ∀ t e, (step' t e).map part = step (part t) e)
    {ok : S → E → Prop} {t : T} {es : List E} :
    AllSteps step' (fun t e => ok (part t) e) t es ↔ AllSteps step ok (part t) es := by
  induction es generalizing t with
  | nil => exact Iff.rfl
  | cons e es ih =>
    refine and_congr_right fun _ => ⟨fun h s' hs' => ?_, fun h t' ht' => ?_⟩
    · rw [← hpart] at hs'
      obtain ⟨t', ht', rfl⟩ := Option.map_eq_some_iff.1 hs'
      exact ih.1 (h t' ht')
    · exact ih.2 (h (part t') (by rw [← hpart, ht']; rfl))

end Part

/-! ## From one step to a run -/

/-- **The invariant rule.**  What every step under a condition preserves holds at the end of
every run whose steps meet the condition. -/
theorem run_induction {I : S → Prop} {ok : S → E → Prop}
    (hstep : ∀ s e s', I s → ok s e → step s e = some s' → I s')
    {s t : S} {es : List E} (hrun : run step s es = some t) (hok : AllSteps step ok s es)
    (hs : I s) : I t := by
  induction es generalizing s with
  | nil => exact Option.some.inj hrun ▸ hs
  | cons e es ih =>
    obtain ⟨s', he, hrun'⟩ := run_cons_inv hrun
    exact ih hrun' (hok.2 s' he) (hstep s e s' hs hok.1 he)

/-- The invariant rule for what every step preserves. -/
theorem run_invariant {I : S → Prop} (hstep : ∀ s e s', I s → step s e = some s' → I s')
    {s t : S} {es : List E} (hrun : run step s es = some t) (hs : I s) : I t := by
  induction es generalizing s with
  | nil => exact Option.some.inj hrun ▸ hs
  | cons e es ih =>
    obtain ⟨s', he, hrun'⟩ := run_cons_inv hrun
    exact ih hrun' (hstep s e s' hs he)

/-- **The history rule.**  A fact about a run and its last state holds of all runs when it holds
of the empty one and each further step keeps it. -/
theorem run_history {P : List E → S → Prop} {s : S} (hnil : P [] s)
    (hsnoc : ∀ es s₁ e t, run step s es = some s₁ → step s₁ e = some t → P es s₁ →
      P (es ++ [e]) t)
    {t : S} {es : List E} (hrun : run step s es = some t) : P es t := by
  induction es using List.reverseRecOn generalizing t with
  | nil => exact Option.some.inj hrun ▸ hnil
  | append_singleton es e ih =>
    rw [run_append] at hrun
    obtain ⟨s₁, hrun₁, hlast⟩ := Option.bind_eq_some_iff.1 hrun
    obtain ⟨t', hstep, ht⟩ := run_cons_inv hlast
    obtain rfl := Option.some.inj ht
    exact hsnoc es s₁ e t' hrun₁ hstep (ih hrun₁)

/-- **The origin rule.**  What only steps under a condition bring about was there before the run
or was brought about by such a step of it. -/
theorem someStep_of_run {P : S → Prop} {ok : S → E → Prop}
    (hstep : ∀ s e s', step s e = some s' → P s' → P s ∨ ok s e)
    {s t : S} {es : List E} (hrun : run step s es = some t) (hP : P t) :
    P s ∨ SomeStep step ok s es := by
  induction es generalizing s with
  | nil => exact .inl (Option.some.inj hrun ▸ hP)
  | cons e es ih =>
    obtain ⟨s', he, hrun'⟩ := run_cons_inv hrun
    rcases ih hrun' with hs' | hsome
    · exact (hstep s e s' he hs').imp_right Or.inl
    · exact .inr (.inr ⟨s', he, hsome⟩)

/-- What only steps under a condition bring about, and was not there before the run, was brought
about by such a step after a beginning of the run. -/
lemma exists_step_of_run {P : S → Prop} {ok : S → E → Prop}
    (hstep : ∀ s e s', step s e = some s' → P s' → P s ∨ ok s e)
    {s t : S} {es : List E} (hrun : run step s es = some t) (hs : ¬ P s) (hP : P t) :
    ∃ es₁ e es₂ s₁, es = es₁ ++ e :: es₂ ∧ run step s es₁ = some s₁ ∧ ok s₁ e :=
  someStep_iff.1 ((someStep_of_run hstep hrun hP).resolve_left hs)

/-- **The exact origin rule.**  What holds after a step exactly when it held before or the step
meets a condition holds at the end of a run exactly when it held at the beginning or some step of
the run meets the condition. -/
theorem final_iff_someStep {P : S → Prop} {ok : S → E → Prop}
    (hexact : ∀ s e s', step s e = some s' → (P s' ↔ P s ∨ ok s e))
    {s t : S} {es : List E} (hrun : run step s es = some t) :
    P t ↔ P s ∨ SomeStep step ok s es := by
  refine ⟨someStep_of_run (fun s e s' he => (hexact s e s' he).1) hrun, ?_⟩
  have hkept : ∀ {s t : S} {es : List E}, run step s es = some t → P s → P t :=
    fun hrun => run_invariant (fun s e s' hs he => (hexact s e s' he).2 (.inl hs)) hrun
  rintro (hs | hsome)
  · exact hkept hrun hs
  · obtain ⟨es₁, e, es₂, s₁, rfl, hrun₁, hok⟩ := someStep_iff.1 hsome
    rw [run_append_of hrun₁] at hrun
    obtain ⟨s₂, he, hrun₂⟩ := run_cons_inv hrun
    exact hkept hrun₂ ((hexact s₁ e s₂ he).2 (.inr hok))

/-- **The rule of balance.**  What comes in and what is still there differ, after a run, by the
number of the steps that take something out. -/
theorem balance_of_run {f g : S → ℕ} {ok : S → E → Bool}
    (hstep : ∀ s e s', step s e = some s' →
      f s' + g s = f s + g s' + if ok s e then 1 else 0)
    {s t : S} {es : List E} (hrun : run step s es = some t) :
    f t + g s = f s + g t + countSteps step ok s es := by
  induction es generalizing s with
  | nil =>
    obtain rfl := Option.some.inj hrun
    rfl
  | cons e es ih =>
    obtain ⟨s', he, hrun'⟩ := run_cons_inv hrun
    have hone := hstep s e s' he
    have hrest := ih hrun'
    rw [countSteps, he]
    simp only
    omega

/-- **The rule of bounds.**  A number that a step raises by one at most, and only when it meets a
condition, has grown after a run by the number of these steps at most. -/
theorem bounded_of_run {I : S → Prop} {known : S → E → Prop} {f : S → ℕ} (ok : S → E → Bool)
    (hI : ∀ s e s', I s → step s e = some s' → I s')
    (hstep : ∀ s e s', I s → known s e → step s e = some s' →
      f s' ≤ f s + if ok s e then 1 else 0)
    {s t : S} {es : List E} (hrun : run step s es = some t) (hknown : AllSteps step known s es)
    (hs : I s) : f t ≤ f s + countSteps step ok s es := by
  induction es generalizing s with
  | nil =>
    obtain rfl := Option.some.inj hrun
    exact Nat.le_add_right _ _
  | cons e es ih =>
    obtain ⟨s', he, hrun'⟩ := run_cons_inv hrun
    have hone := hstep s e s' hs hknown.1 he
    have hrest := ih hrun' (hknown.2 s' he) (hI s e s' hs he)
    rw [countSteps, he]
    simp only
    omega

/-! ## Exact conditions -/

/-- A property that holds after a step exactly when the step meets a condition holds in every
state of a run exactly when every step of the run meets the condition. -/
theorem allStates_iff_allSteps {I P : S → Prop} {ok : S → E → Prop}
    (hI : ∀ s e s', I s → step s e = some s' → I s')
    (hexact : ∀ s e s', I s → P s → step s e = some s' → (P s' ↔ ok s e))
    {s t : S} {es : List E} (hrun : run step s es = some t) (hs : I s) (hP : P s) :
    AllStates step P s es ↔ AllSteps step ok s es := by
  induction es generalizing s with
  | nil => exact iff_of_true hP trivial
  | cons e es ih =>
    obtain ⟨s', he, hrun'⟩ := run_cons_inv hrun
    have hIs' := hI s e s' hs he
    constructor
    · -- the property after the step gives its condition
      rintro ⟨-, hall⟩
      have hall' := hall s' he
      refine ⟨(hexact s e s' hs hP he).1 hall'.head, fun s₁ h₁ => ?_⟩
      obtain rfl : s' = s₁ := Option.some.inj (he.symm.trans h₁)
      exact (ih hrun' hIs' hall'.head).1 hall'
    · rintro ⟨hok, hall⟩
      have hP' := (hexact s e s' hs hP he).2 hok
      refine ⟨hP, fun s₁ h₁ => ?_⟩
      obtain rfl : s' = s₁ := Option.some.inj (he.symm.trans h₁)
      exact (ih hrun' hIs' hP').2 (hall s' he)

/-- A property of the history, which a step can only break for good, holds at the end of a
run exactly when every step of the run meets the condition that keeps it; the steps of the run
may be known to meet another condition. -/
theorem final_iff_allSteps_of {I P : S → Prop} {known ok : S → E → Prop}
    (hI : ∀ s e s', I s → known s e → step s e = some s' → I s')
    (hexact : ∀ s e s', I s → known s e → step s e = some s' → (P s' ↔ P s ∧ ok s e))
    {s t : S} {es : List E} (hrun : run step s es = some t) (hknown : AllSteps step known s es)
    (hs : I s) : P t ↔ P s ∧ AllSteps step ok s es := by
  induction es generalizing s with
  | nil =>
    obtain rfl : s = t := Option.some.inj hrun
    exact (and_iff_left trivial).symm
  | cons e es ih =>
    obtain ⟨s', he, hrun'⟩ := run_cons_inv hrun
    rw [ih hrun' (hknown.2 s' he) (hI s e s' hs hknown.1 he), hexact s e s' hs hknown.1 he,
      AllSteps, and_assoc]
    refine and_congr_right fun _ => and_congr_right fun _ => ?_
    constructor
    · intro hall s₁ h₁
      exact Option.some.inj (he.symm.trans h₁) ▸ hall
    · intro hall
      exact hall s' he

/-- The same without a condition that is known. -/
theorem final_iff_allSteps {I P : S → Prop} {ok : S → E → Prop}
    (hI : ∀ s e s', I s → step s e = some s' → I s')
    (hexact : ∀ s e s', I s → step s e = some s' → (P s' ↔ P s ∧ ok s e))
    {s t : S} {es : List E} (hrun : run step s es = some t) (hs : I s) :
    P t ↔ P s ∧ AllSteps step ok s es := by
  have hknown : AllSteps step (fun _ _ => True) s es := .of_forall (fun _ _ _ => trivial) s
  exact final_iff_allSteps_of (fun s e s' hs _ => hI s e s' hs)
    (fun s e s' hs _ => hexact s e s' hs) hrun hknown hs

/-! ## Earlier and later states -/

section Related

variable {R : S → S → Prop} {ok : S → E → Prop}

/-- What every step of a run relates, its first and its last state are related by. -/
lemma related_of_allSteps (hrefl : ∀ s, R s s) (htrans : ∀ {s₁ s₂ s₃}, R s₁ s₂ → R s₂ s₃ → R s₁ s₃)
    (hstep : ∀ s e s', step s e = some s' → ok s e → R s s') {s t : S} {es : List E}
    (hrun : run step s es = some t) (hok : AllSteps step ok s es) : R s t := by
  induction es generalizing s with
  | nil => exact Option.some.inj hrun ▸ hrefl s
  | cons e es ih =>
    obtain ⟨s', he, hrun'⟩ := run_cons_inv hrun
    exact htrans (hstep s e s' he hok.1) (ih hrun' (hok.2 s' he))

lemma AllSteps.right {s t : S} {es es' : List E} (h : AllSteps step ok s (es ++ es'))
    (hrun : run step s es = some t) : AllSteps step ok t es' := by
  induction es generalizing s with
  | nil => exact Option.some.inj hrun ▸ h
  | cons e es ih =>
    obtain ⟨s', he, hrun'⟩ := run_cons_inv hrun
    exact ih (h.2 s' he) hrun'

lemma AllSteps.left {s : S} {es es' : List E} (h : AllSteps step ok s (es ++ es')) :
    AllSteps step ok s es := by
  induction es generalizing s with
  | nil => trivial
  | cons e es ih => exact ⟨h.1, fun s' he => ih (h.2 s' he)⟩

/-- A preorder relates all states of a run with the later ones exactly when every step of the
run meets the condition under which it relates the states before and after the step. -/
theorem allRelated_iff_allSteps (hrefl : ∀ s, R s s)
    (htrans : ∀ {s₁ s₂ s₃}, R s₁ s₂ → R s₂ s₃ → R s₁ s₃)
    (hexact : ∀ s e s', step s e = some s' → (R s s' ↔ ok s e)) {s t : S} {es : List E}
    (hrun : run step s es = some t) : AllRelated step R s es ↔ AllSteps step ok s es := by
  constructor
  · intro h
    induction es generalizing s with
    | nil => trivial
    | cons e es ih =>
      obtain ⟨s', he, hrun'⟩ := run_cons_inv hrun
      have hone : run step s [e] = some s' := run_cons he []
      refine AllSteps.cons he ?_ (ih hrun' ?_)
      · exact (hexact s e s' he).1 (h [] [e] es s s' rfl rfl hone)
      · -- the states after the first step are states of the whole run
        intro es₁ es₂ es₃ s₁ s₂ hes h₁ h₂
        exact h (e :: es₁) es₂ es₃ s₁ s₂ (by rw [hes]; rfl) ((run_cons he es₁).trans h₁) h₂
  · rintro h es₁ es₂ es₃ s₁ s₂ rfl h₁ h₂
    exact related_of_allSteps hrefl htrans (fun s e s' he => (hexact s e s' he).2) h₂
      (h.left.right h₁)

end Related

end Transition
