import Mathlib.Control.Lawful

/-!
# Programs on a state

Code that reads and writes one state and may fail to return is a program in
`StateT` over `Option`.  What a program guarantees is stated about its runs:
`Ends` says how the run from one state ends if it returns, `Returns` that it
returns as well, and both are pushed through a program from its first
instruction to its last.  `Achieves` says of all runs that they return and
relate the states before and after.
-/

namespace SerialModem.Library

universe u

abbrev Program (State : Type u) (Value : Type u) : Type u :=
  StateT State Option Value

namespace Program

variable {State Value Result : Type u}

/-- Every run from `state` that returns ends as required. -/
def Ends (state : State) (program : Program State Value) (required : Value → State → Prop) : Prop :=
  ∀ value after, program state = some (value, after) → required value after

def Returns (state : State) (program : Program State Value)
    (required : Value → State → Prop) : Prop :=
  ∃ value after, program state = some (value, after) ∧ required value after

def Achieves (relation : State → State → Prop) (program : Program State Value) :
    Prop :=
  ∀ state, Returns state program fun _ after => relation state after

section Run

variable (state : State)

theorem run_bind (program : Program State Value) (next : Value → Program State Result) :
    (program >>= next) state = (program state).bind fun ended => next ended.1 ended.2 :=
  rfl

theorem run_get : (get : Program State State) state = some (state, state) :=
  rfl

theorem run_modify (change : State → State) : (modify change : Program State PUnit) state =
      some (PUnit.unit, change state) :=
  rfl

end Run

section Ends

variable {state : State} {program : Program State Value} {next : Value → Program State Result}

@[simp] theorem ends_pure (value : Value) (required : Value → State → Prop) :
    Ends state (pure value) required ↔ required value state := by
  constructor
  · intro ends
    exact ends value state rfl
  · intro holds after final ran
    cases ran
    exact holds

@[simp] theorem ends_bind (required : Result → State → Prop) :
    Ends state (program >>= next) required ↔ Ends state program fun value middle =>
        Ends middle (next value) required := by
  constructor
  · intro ends value middle first result after second
    apply ends result after
    change (program state).bind _ = _
    rw [first]
    exact second
  · intro ends result after ran
    obtain ⟨⟨value, middle⟩, first, second⟩ :=
      Option.bind_eq_some_iff.mp ran
    exact ends value middle first result after second

@[simp] theorem ends_get (required : State → State → Prop) :
    Ends state (get : Program State State) required ↔ required state state :=
  ends_pure state required

@[simp] theorem ends_set (written : State) (required : PUnit → State → Prop) :
    Ends state (set written : Program State PUnit) required ↔ required PUnit.unit written := by
  constructor
  · intro ends
    exact ends PUnit.unit written rfl
  · intro holds value after ran
    cases ran
    exact holds

@[simp] theorem ends_modify (change : State → State) (required : PUnit → State → Prop) :
    Ends state (modify change : Program State PUnit) required ↔
      required PUnit.unit (change state) := by
  constructor
  · intro ends
    exact ends PUnit.unit (change state) rfl
  · intro holds value after ran
    cases ran
    exact holds

@[simp] theorem ends_failure (required : Value → State → Prop) :
    Ends state (failure : Program State Value) required := by
  intro value after ran
  cases ran

theorem Ends.mono {required weaker : Value → State → Prop} (ends : Ends state program required)
    (weakens : ∀ value after, required value after → weaker value after) :
    Ends state program weaker :=
  fun value after ran => weakens value after (ends value after ran)

/-- Use the specification of a call and go on after it. -/
theorem Ends.call {required : Value → State → Prop} {finally' : Result → State → Prop}
    (called : Ends state program required)
    (continues : ∀ value middle, required value middle → Ends middle (next value) finally') :
    Ends state (program >>= next) finally' :=
  (ends_bind finally').mpr (called.mono continues)

theorem ends_forM {Element : Type*} {State : Type u} {state : State}
    {property : State → Prop} {body : Element → Program State PUnit}
    (elements : List Element)
    (kept : ∀ element, element ∈ elements → ∀ before, property before →
      Ends before (body element) fun _ after => property after)
    (holds : property state) :
    Ends state (elements.forM body) fun _ after => property after := by
  induction elements generalizing state with
  | nil =>
    exact (ends_pure PUnit.unit _).mpr holds
  | cons element rest ih =>
    refine (kept element (by simp) state holds).call ?_
    intro _ after holdsAfter
    exact ih (fun later member => kept later (List.mem_cons_of_mem _ member)) holdsAfter

end Ends

section Returns

variable {state : State} {program : Program State Value} {next : Value → Program State Result}

@[simp] theorem returns_pure (value : Value) (required : Value → State → Prop) :
    Returns state (pure value) required ↔ required value state := by
  constructor
  · rintro ⟨_, _, ran, holds⟩
    cases ran
    exact holds
  · intro holds
    exact ⟨value, state, rfl, holds⟩

@[simp] theorem returns_bind (required : Result → State → Prop) :
    Returns state (program >>= next) required ↔ Returns state program fun value middle =>
        Returns middle (next value) required := by
  constructor
  · rintro ⟨result, after, ran, holds⟩
    obtain ⟨⟨value, middle⟩, first, second⟩ :=
      Option.bind_eq_some_iff.mp ran
    exact ⟨value, middle, first, result, after, second, holds⟩
  · rintro ⟨value, middle, first, result, after, second, holds⟩
    refine ⟨result, after, ?_, holds⟩
    change (program state).bind _ = _
    rw [first]
    exact second

@[simp] theorem returns_get (required : State → State → Prop) :
    Returns state (get : Program State State) required ↔ required state state :=
  returns_pure state required

@[simp] theorem returns_set (written : State) (required : PUnit → State → Prop) :
    Returns state (set written : Program State PUnit) required ↔ required PUnit.unit written := by
  constructor
  · rintro ⟨_, _, ran, holds⟩
    cases ran
    exact holds
  · intro holds
    exact ⟨PUnit.unit, written, rfl, holds⟩

@[simp] theorem returns_modify (change : State → State) (required : PUnit → State → Prop) :
    Returns state (modify change : Program State PUnit) required ↔
      required PUnit.unit (change state) := by
  constructor
  · rintro ⟨_, _, ran, holds⟩
    cases ran
    exact holds
  · intro holds
    exact ⟨PUnit.unit, change state, rfl, holds⟩

theorem Returns.mono {required weaker : Value → State → Prop}
    (returns : Returns state program required)
    (weakens : ∀ value after, required value after → weaker value after) :
    Returns state program weaker := by
  obtain ⟨value, after, ran, holds⟩ := returns
  exact ⟨value, after, ran, weakens value after holds⟩

theorem Returns.ends {required : Value → State → Prop} (returns : Returns state program required) :
    Ends state program required := by
  obtain ⟨_, _, ran, holds⟩ := returns
  intro value after again
  rw [ran] at again
  cases again
  exact holds

/-- Use the specification of a call and go on after it. -/
theorem Returns.call {required : Value → State → Prop} {finally' : Result → State → Prop}
    (called : Returns state program required)
    (continues : ∀ value middle, required value middle → Returns middle (next value) finally') :
    Returns state (program >>= next) finally' :=
  (returns_bind finally').mpr (called.mono continues)

end Returns

section Achieves

variable {relation : State → State → Prop} (reflexive : ∀ state, relation state state)
  (transitive : ∀ {first second third}, relation first second →
    relation second third → relation first third)

include reflexive in
theorem achieves_pure (value : Value) : Achieves relation (pure value : Program State Value) :=
  fun state => (returns_pure value _).mpr (reflexive state)

theorem achieves_modify {change : State → State}
    (changes : ∀ state, relation state (change state)) :
    Achieves relation (modify change : Program State PUnit) :=
  fun state => (returns_modify change _).mpr (changes state)

theorem achieves_read {next : State → Program State Result}
    (achieves : ∀ state, Returns state (next state) fun _ after => relation state after) :
    Achieves relation (get >>= next) := by
  intro state
  rw [returns_bind, returns_get]
  exact achieves state

include transitive in
theorem Achieves.bind {program : Program State Value} {next : Value → Program State Result}
    (achieves : Achieves relation program)
    (continues : ∀ value, Achieves relation (next value)) :
    Achieves relation (program >>= next) := by
  intro state
  refine (achieves state).call ?_
  intro value middle related
  exact (continues value middle).mono fun _ _ later =>
    transitive related later

end Achieves

end Program

end SerialModem.Library
