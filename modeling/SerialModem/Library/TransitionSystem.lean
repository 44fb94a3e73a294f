import Mathlib.Data.Option.Basic
import Mathlib.Logic.Relation

/-!
# Runs of a partial step function

A system is a partial step function on states, labelled by actions.  A run may
be constrained by a condition on each state and the action taken there, which
is how a theorem speaks about the runs that keep to some discipline.

A step that is too large for one case analysis is cut into labelled effects.
What the step as a whole preserves then follows from what each effect does.
-/

namespace SerialModem.Library

open List Option

universe u v

variable {State : Type u} {Action : Type v}

inductive Reachable
    (step : Action → State → Option State)
    (allowed : State → Action → Prop)
    (initial : State → Prop) : State → Prop
  | start {state : State} : initial state → Reachable step allowed initial state
  | next {state after : State} (action : Action) : Reachable step allowed initial state →
      allowed state action →
      step action state = some after →
      Reachable step allowed initial after

namespace Reachable

variable {step : Action → State → Option State}
  {allowed : State → Action → Prop} {initial : State → Prop}

theorem invariant {property : State → Prop} (initially : ∀ state, initial state → property state)
    (preserved : ∀ state action after, property state → allowed state action →
        step action state = some after →
        property after)
    {state : State}
    (reachable : Reachable step allowed initial state) :
    property state := by
  induction reachable with
  | start isInitial => exact initially _ isInitial
  | next action _ isAllowed taken ih =>
    exact preserved _ action _ ih isAllowed taken

end Reachable

inductive Execution
    (step : Action → State → Option State)
    (allowed : State → Action → Prop) (start : State) :
    List (State × Action × State) → State → Prop
  | refl : Execution step allowed start [] start
  | next {taken : List (State × Action × State)} {state after : State} {action : Action} :
      Execution step allowed start taken state →
      allowed state action →
      step action state = some after →
      Execution step allowed start (taken ++ [(state, action, after)]) after

theorem Execution.step_of_mem {step : Action → State → Option State}
    {allowed : State → Action → Prop} {start final : State}
    {taken : List (State × Action × State)}
    (execution : Execution step allowed start taken final)
    {state after : State} {action : Action}
    (member : (state, action, after) ∈ taken) :
    step action state = some after := by
  induction execution with
  | refl => cases member
  | next _ _ isStep ih =>
    rcases mem_append.mp member with earlier | isLast
    · exact ih earlier
    · cases mem_singleton.mp isLast
      exact isStep

def runActions (step : Action → State → Option State) : List Action → State → Option State
  | [], state => some state
  | action :: rest, state => (step action state).bind (runActions step rest)

theorem runActions_append (step : Action → State → Option State) :
    ∀ (first second : List Action) (state : State), runActions step (first ++ second) state =
        (runActions step first state).bind (runActions step second)
  | [], second, state => rfl
  | action :: rest, second, state => by
    simp only [cons_append, runActions]
    cases step action state with
    | none => rfl
    | some after => exact runActions_append step rest second after

theorem runActions_next {step : Action → State → Option State} {action : Action} {count : Nat}
    {state middle : State} {result : Type*} {look : State → result}
    {value : result}
    (reached : runActions step (replicate count action) state = some middle)
    (evaluated : (runActions step (replicate (count + 1) action) state).map look = some value) :
    ∃ after, step action middle = some after ∧
      runActions step (replicate (count + 1) action) state = some after ∧
      look after = value := by
  obtain ⟨after, ran, seen⟩ := map_eq_some_iff.mp evaluated
  refine ⟨after, ?_, ran, seen⟩
  rw [replicate_succ', runActions_append, reached] at ran
  simpa [runActions] using ran

theorem reachable_of_runActions {step : Action → State → Option State} {initial : State → Prop}
    {allowed : State → Action → Prop} :
    ∀ (actions : List Action) {state after : State},
      (∀ before action, action ∈ actions → allowed before action) →
      Reachable step allowed initial state →
      runActions step actions state = some after →
      Reachable step allowed initial after
  | [], state, after, _, reachable, ran => by
    cases ran
    exact reachable
  | action :: rest, state, after, permitted, reachable, ran => by
    obtain ⟨middle, taken, remaining⟩ :=
      bind_eq_some_iff.mp ran
    exact reachable_of_runActions rest (fun before later member =>
        permitted before later (mem_cons_of_mem _ member))
      (reachable.next action (permitted state action (mem_cons_self ..)) taken) remaining

/-- Nothing is asked of the actions. -/
theorem reachable_of_run {step : Action → State → Option State} {initial : State → Prop}
    (actions : List Action) {start after : State} (starts : initial start)
    (ran : runActions step actions start = some after) :
    Reachable step (fun _ _ => True) initial after :=
  reachable_of_runActions actions (fun _ _ _ => trivial) (.start starts) ran

def runChecked (step : Action → State → Option State) (check : State → Action → Bool) :
    List Action → State → Option State
  | [], state => some state
  | action :: rest, state =>
    if check state action then
      (step action state).bind (runChecked step check rest)
    else
      none

variable {check : State → Action → Bool}

theorem reachable_of_runChecked {step : Action → State → Option State} {initial : State → Prop}
    {allowed : State → Action → Prop} :
    ∀ (actions : List Action) {state after : State},
      (∀ before action, action ∈ actions → check before action = true → allowed before action) →
      Reachable step allowed initial state →
      runChecked step check actions state = some after →
      Reachable step allowed initial after
  | [], state, after, _, reachable, ran => by
    cases ran
    exact reachable
  | action :: rest, state, after, permitted, reachable, ran => by
    rw [runChecked] at ran
    split at ran
    · rename_i passed
      obtain ⟨middle, taken, remaining⟩ :=
        bind_eq_some_iff.mp ran
      exact reachable_of_runChecked rest (fun before later member =>
          permitted before later (mem_cons_of_mem _ member))
        (reachable.next action (permitted state action (mem_cons_self ..) passed) taken) remaining
    · cases ran

/-- A checked run from a start reaches a state in which it can be seen what is
looked at. -/
theorem exists_reachable {step : Action → State → Option State} {initial : State → Prop}
    {allowed : State → Action → Prop} {start : State} {actions : List Action}
    {Result : Type*} {look : State → Result} {value : Result} (starts : initial start)
    (permitted : ∀ before action, action ∈ actions →
      check before action = true → allowed before action)
    (evaluated : (runChecked step check actions start).map look = some value) :
    ∃ state, Reachable step allowed initial state ∧ look state = value := by
  obtain ⟨state, ran, seen⟩ := map_eq_some_iff.mp evaluated
  exact ⟨state, reachable_of_runChecked actions permitted (.start starts) ran, seen⟩

theorem execution_of_runChecked {step : Action → State → Option State}
    {allowed : State → Action → Prop}
    (permitted : ∀ before action, check before action = true → allowed before action) :
    ∀ (actions : List Action) {start state after : State} {taken : List (State × Action × State)},
      Execution step allowed start taken state →
      runChecked step check actions state = some after →
      ∃ longer, Execution step allowed start longer after
  | [], start, state, after, taken, run, ran => by
    cases ran
    exact ⟨taken, run⟩
  | action :: rest, start, state, after, taken, run, ran => by
    rw [runChecked] at ran
    split at ran
    · rename_i passed
      obtain ⟨middle, stepped, remaining⟩ :=
        bind_eq_some_iff.mp ran
      exact execution_of_runChecked permitted rest
        (run.next (permitted state action passed) stepped) remaining
    · cases ran

def Composed {Label : Type*} (performs : Label → State → State → Prop) (allowed : Label → Prop) :
    State → State → Prop :=
  Relation.ReflTransGen fun before after =>
    ∃ label, allowed label ∧ performs label before after

namespace Composed

variable {Label : Type*} {performs : Label → State → State → Prop} {allowed : Label → Prop}

theorem refl (state : State) : Composed performs allowed state state :=
  Relation.ReflTransGen.refl

variable {before after : State}

theorem single {label : Label}
    (performed : performs label before after) (isAllowed : allowed label) :
    Composed performs allowed before after :=
  Relation.ReflTransGen.single ⟨label, isAllowed, performed⟩

theorem trans {first second third : State} (left : Composed performs allowed first second)
    (right : Composed performs allowed second third) :
    Composed performs allowed first third :=
  Relation.ReflTransGen.trans left right

theorem mono {wider : Label → Prop} (composed : Composed performs allowed before after)
    (widens : ∀ label, allowed label → wider label) :
    Composed performs wider before after := by
  apply Relation.ReflTransGen.mono ?_ before after composed
  rintro _ _ ⟨label, isAllowed, performed⟩
  exact ⟨label, widens label isAllowed, performed⟩

theorem relates {relation : State → State → Prop} (reflexive : ∀ state, relation state state)
    (transitive : ∀ {first second third}, relation first second →
      relation second third → relation first third)
    (effects : ∀ {label before after}, allowed label →
      performs label before after → relation before after)
    (composed : Composed performs allowed before after) :
    relation before after := by
  induction composed with
  | refl => exact reflexive before
  | tail _ last ih =>
    obtain ⟨label, isAllowed, performed⟩ := last
    exact transitive ih (effects isAllowed performed)

theorem preserves {property : State → Prop} (effects : ∀ {label before after}, allowed label →
      performs label before after → property before → property after)
    {before after : State}
    (composed : Composed performs allowed before after)
    (holds : property before) : property after := by
  induction composed with
  | refl => exact holds
  | tail _ last ih =>
    obtain ⟨label, isAllowed, performed⟩ := last
    exact effects isAllowed performed ih

end Composed

end SerialModem.Library
