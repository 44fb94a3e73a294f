import Mathlib.Data.BitVec

/-!
# Bit masks as sets

A machine word that is used as a set of flags is read bit by bit: one mask lies
within another when every bit of the one is a bit of the other.
-/

namespace SerialModem.Library.BitMask

variable {w : Nat} {first second third : BitVec w}

def Within (inner outer : BitVec w) : Prop :=
  inner &&& outer = inner

instance (inner outer : BitVec w) : Decidable (Within inner outer) :=
  inferInstanceAs (Decidable (inner &&& outer = inner))

theorem within_iff : Within first second ↔
      ∀ index, first.getLsbD index = true → second.getLsbD index = true := by
  constructor
  · intro within index set
    have both : (first &&& second).getLsbD index = true := by
      rw [within]
      exact set
    rw [BitVec.getLsbD_and, Bool.and_eq_true] at both
    exact both.2
  · intro subset
    apply BitVec.eq_of_getLsbD_eq
    intro index _
    rw [BitVec.getLsbD_and, Bool.and_eq_left_iff_imp]
    exact subset index

theorem Within.bit (within : Within first second) {index : Nat}
    (set : first.getLsbD index = true) : second.getLsbD index = true :=
  within_iff.mp within index set

namespace Within

theorem refl (mask : BitVec w) : Within mask mask :=
  within_iff.mpr fun _ set => set

theorem trans (left : Within first second) (right : Within second third) : Within first third :=
  within_iff.mpr fun _ set => right.bit (left.bit set)

theorem zero (mask : BitVec w) : Within 0#w mask :=
  within_iff.mpr fun _ set => by simp at set

theorem allOnes (mask : BitVec w) : Within mask (BitVec.allOnes w) :=
  BitVec.and_allOnes

theorem and_left (left right : BitVec w) : Within (left &&& right) left :=
  within_iff.mpr fun _ set => by simp_all

theorem and_right (left right : BitVec w) : Within (left &&& right) right :=
  within_iff.mpr fun _ set => by simp_all

theorem or (left : Within first third) (right : Within second third) :
    Within (first ||| second) third := by
  apply within_iff.mpr
  intro index set
  rcases (by simpa using set :
      first.getLsbD index = true ∨ second.getLsbD index = true) with
    inFirst | inSecond
  · exact left.bit inFirst
  · exact right.bit inSecond

end Within

end SerialModem.Library.BitMask
