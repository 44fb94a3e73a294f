import Mathlib.Data.List.Nodup
import Mathlib.Logic.Function.Basic

/-!
# Tables of resources

A table of slots stands for the resources that were obtained and not handed
back.  It accounts for them when every one is in exactly one slot and no slot
holds anything else.  Taking a new resource into a free slot and handing back
the resource of a slot keep the account.
-/

namespace SerialModem.Library

universe u v

variable {Slot : Type u} {Resource : Type v}

structure Accounted
    (held : Slot → Option Resource) (obtained : List Resource) : Prop where
  nodup : obtained.Nodup
  distinct : ∀ {first second resource}, held first = some resource →
    held second = some resource → first = second
  exact : ∀ resource, resource ∈ obtained ↔ ∃ slot, held slot = some resource

namespace Accounted

variable {held after : Slot → Option Resource} {obtained : List Resource}

theorem nothing (free : ∀ slot, held slot = none) : Accounted held [] where
  nodup := List.nodup_nil
  distinct := by
    intro first second resource holdsFirst
    rw [free first] at holdsFirst
    cases holdsFirst
  exact := by
    intro resource
    simp [free]

theorem take (accounted : Accounted held obtained) {slot : Slot} {resource : Resource}
    (free : held slot = none) (fresh : resource ∉ obtained)
    (taken : after slot = some resource)
    (others : ∀ other, other ≠ slot → after other = held other) :
    Accounted after (resource :: obtained) where
  nodup := List.nodup_cons.mpr ⟨fresh, accounted.nodup⟩
  distinct := by
    have unheld : ∀ other, other ≠ slot → after other ≠ some resource := by
      intro other different holds
      rw [others other different] at holds
      exact fresh ((accounted.exact resource).mpr ⟨other, holds⟩)
    intro first second shared holdsFirst holdsSecond
    by_cases isFirst : first = slot
    · rw [isFirst, taken, Option.some.injEq] at holdsFirst
      rw [← holdsFirst] at holdsSecond
      by_contra different
      exact unheld second (fun isSecond =>
        different (isFirst.trans isSecond.symm)) holdsSecond
    · by_cases isSecond : second = slot
      · rw [isSecond, taken, Option.some.injEq] at holdsSecond
        rw [← holdsSecond] at holdsFirst
        exact absurd holdsFirst (unheld first isFirst)
      · rw [others first isFirst] at holdsFirst
        rw [others second isSecond] at holdsSecond
        exact accounted.distinct holdsFirst holdsSecond
  exact := by
    intro other
    rw [List.mem_cons, accounted.exact]
    constructor
    · rintro (rfl | ⟨holder, holds⟩)
      · exact ⟨slot, taken⟩
      · have different : holder ≠ slot := by
          rintro rfl
          rw [free] at holds
          cases holds
        exact ⟨holder, by rw [others holder different, holds]⟩
    · rintro ⟨holder, holds⟩
      by_cases isSlot : holder = slot
      · rw [isSlot, taken, Option.some.injEq] at holds
        exact .inl holds.symm
      · rw [others holder isSlot] at holds
        exact .inr ⟨holder, holds⟩

theorem handBack [DecidableEq Resource] (accounted : Accounted held obtained)
    {slot : Slot} {resource : Resource}
    (holds : held slot = some resource) (freed : after slot = none)
    (others : ∀ other, other ≠ slot → after other = held other) :
    Accounted after (obtained.erase resource) where
  nodup := accounted.nodup.erase resource
  distinct := by
    intro first second shared holdsFirst holdsSecond
    have old : ∀ {holder}, after holder = some shared → held holder = some shared := by
      intro holder holdsAfter
      rw [← others holder]
      · exact holdsAfter
      · rintro rfl
        rw [freed] at holdsAfter
        cases holdsAfter
    exact accounted.distinct (old holdsFirst) (old holdsSecond)
  exact := by
    intro other
    rw [accounted.nodup.mem_erase_iff, accounted.exact]
    constructor
    · rintro ⟨different, holder, holdsOther⟩
      have isOther : holder ≠ slot := by
        rintro rfl
        rw [holds, Option.some.injEq] at holdsOther
        exact different holdsOther.symm
      exact ⟨holder, by rw [others holder isOther, holdsOther]⟩
    · rintro ⟨holder, holdsAfter⟩
      have isOther : holder ≠ slot := by
        rintro rfl
        rw [freed] at holdsAfter
        cases holdsAfter
      rw [others holder isOther] at holdsAfter
      refine ⟨?_, holder, holdsAfter⟩
      rintro rfl
      exact isOther (accounted.distinct holdsAfter holds)

end Accounted

end SerialModem.Library
