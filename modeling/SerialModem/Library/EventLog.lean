import Mathlib.Data.List.Induction

/-!
# Logs of events

A log that is only appended to is the history of a system.  An event is judged
by what was logged before it, and what a system remembers is compared with the
latest event that says something about it.

Something that may be used once and can be renewed is followed through a log by
a phase: an event uses it, renews it, or does neither.
-/

namespace SerialModem.Library

open List

universe u v

variable {Event : Type u} {Value : Type v}

def Always (allowed : List Event → Event → Prop) (log : List Event) : Prop :=
  ∀ earlier event later, log = earlier ++ event :: later → allowed earlier event

namespace Always

variable {allowed : List Event → Event → Prop}

theorem nil : Always allowed [] := by
  intro earlier event later split
  simp at split

theorem of_append {first second : List Event}
    (always : Always allowed (first ++ second)) : Always allowed first := by
  intro earlier event later split
  apply always earlier event (later ++ second)
  simp [split]

theorem concat_iff (log : List Event) (event : Event) : Always allowed (log ++ [event]) ↔
      Always allowed log ∧ allowed log event := by
  constructor
  · intro always
    exact ⟨always.of_append, always log event [] rfl⟩
  · rintro ⟨always, isAllowed⟩ earlier other later split
    rcases eq_nil_or_concat later with rfl | ⟨front, last, rfl⟩
    · obtain ⟨rfl, same⟩ := append_inj' split rfl
      cases same
      exact isAllowed
    · rw [concat_eq_append, ← cons_append, ← append_assoc] at split
      exact always earlier other front (append_inj' split rfl).1

theorem iff_forall_fin (log : List Event) : Always allowed log ↔
      ∀ index : Fin log.length, allowed (log.take index) log[index] := by
  constructor
  · intro always index
    apply always (log.take index) log[index] (log.drop (index + 1))
    simp
  · rintro each earlier event later rfl
    have here := each ⟨earlier.length, by simp⟩
    simpa using here

instance [∀ earlier event, Decidable (allowed earlier event)]
    (log : List Event) : Decidable (Always allowed log) :=
  decidable_of_iff _ (iff_forall_fin log).symm

end Always

def latest (value : Event → Option Value) (log : List Event) : Option Value :=
  log.reverse.findSome? value

section

variable (value : Event → Option Value)

theorem latest_append (earlier later : List Event) : latest value (earlier ++ later) =
      (latest value later).or (latest value earlier) := by
  simp only [latest, reverse_append, findSome?_append]

theorem latest_concat (log : List Event) (event : Event) :
    latest value (log ++ [event]) = (value event).or (latest value log) := by
  rw [latest_append]
  simp [latest]

end

theorem split_of_getElem? {log : List Event} {index : Nat} {event : Event}
    (found : log[index]? = some event) :
    log = log.take index ++ event :: log.drop (index + 1) := by
  obtain ⟨short, isEvent⟩ := List.getElem?_eq_some_iff.mp found
  rw [← isEvent, getElem_cons_drop, take_append_drop]

theorem split_of_two_getElem? {log : List Event} {index between : Nat}
    {earlier later : Event} (found : log[index]? = some earlier)
    (foundLater : (log.drop (index + 1))[between]? = some later) :
    log = log.take index ++ earlier :: (log.drop (index + 1)).take between ++
        later :: (log.drop (index + 1)).drop (between + 1) := by
  rw [append_assoc, cons_append, ← split_of_getElem? foundLater]
  exact split_of_getElem? found

def OncePerRenewal (phase : Event → Option Bool) (earlier : List Event) (event : Event) :
    Prop :=
  phase event = some true → latest phase earlier ≠ some true

/-- Nothing was used twice without being renewed, and `spent` holds where it
was used last. -/
structure UsedOnce
    (phase : Event → Option Bool) (log : List Event) (spent : Prop) :
    Prop where
  once : Always (OncePerRenewal phase) log
  spent : latest phase log = some true → spent

namespace UsedOnce

variable {phase : Event → Option Bool} {log : List Event} {spent spentAfter : Prop}

theorem start : UsedOnce phase [] spent where
  once := Always.nil
  spent := by
    intro isUsed
    cases isUsed

theorem keep (used : UsedOnce phase log spent)
    (kept : spent → spentAfter) : UsedOnce phase log spentAfter where
  once := used.once
  spent isUsed := kept (used.spent isUsed)

theorem silent {events : List Event} (used : UsedOnce phase log spent)
    (silent : ∀ event, event ∈ events → phase event = none) :
    UsedOnce phase (log ++ events) spent := by
  induction events using reverseRecOn with
  | nil =>
    rw [append_nil]
    exact used
  | append_singleton front last ih =>
    have before := ih fun event member =>
      silent event (mem_append_left _ member)
    have nothing : phase last = none := silent last (by simp)
    rw [← append_assoc]
    constructor
    · refine (Always.concat_iff _ _).mpr ⟨before.once, ?_⟩
      intro isUse
      rw [nothing] at isUse
      cases isUse
    · rw [latest_concat, nothing, Option.none_or]
      exact before.spent

theorem renew {event : Event} (used : UsedOnce phase log spent)
    (renews : phase event = some false) :
    UsedOnce phase (log ++ [event]) spentAfter where
  once := by
    refine (Always.concat_iff _ _).mpr ⟨used.once, ?_⟩
    intro isUse
    rw [renews] at isUse
    cases isUse
  spent := by
    rw [latest_concat, renews, Option.some_or]
    intro isUsed
    cases isUsed

theorem use {event : Event} (used : UsedOnce phase log spent)
    (unspent : ¬spent) (spentNow : spentAfter) :
    UsedOnce phase (log ++ [event]) spentAfter where
  once :=
    (Always.concat_iff _ _).mpr ⟨used.once, fun _ isUsed => unspent (used.spent isUsed)⟩
  spent _ := spentNow

end UsedOnce

theorem renewed_between {phase : Event → Option Bool} {first middle last : List Event}
    {earlier later : Event}
    (once : Always (OncePerRenewal phase) (first ++ earlier :: middle ++ later :: last))
    (usedEarlier : phase earlier = some true)
    (usedLater : phase later = some true) :
    ∃ event, event ∈ middle ∧ phase event = some false := by
  have unused : latest phase (first ++ earlier :: middle) ≠ some true :=
    once _ later last rfl usedLater
  by_contra none
  push Not at none
  apply unused
  have stillUsed : ∀ events : List Event, (∀ event, event ∈ events → phase event ≠ some false) →
      latest phase (earlier :: events) = some true := by
    intro events
    induction events using reverseRecOn with
    | nil =>
      intro _
      simpa [latest] using usedEarlier
    | append_singleton front final ih =>
      intro noRenewal
      have before := ih fun event member =>
        noRenewal event (mem_append_left _ member)
      rw [← cons_append, latest_concat, before]
      cases found : phase final with
      | none => rfl
      | some isUse =>
        cases isUse with
        | true => rfl
        | false => exact absurd found (noRenewal final (by simp))
  rw [latest_append, stillUsed middle none, Option.some_or]

end SerialModem.Library
