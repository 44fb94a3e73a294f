import Mathlib.Data.Nat.ModEq

/-!
# One's complement sums

Words of a base are added with an end-around carry.  The sum is the total modulo
the base less one, where a total that is not zero is never represented by zero.
So it does not depend on the order or on the size of the words in which a total
is added up.
-/

namespace SerialModem.Library

/-- The same number modulo `modulus`, where zero stands for zero only. -/
structure OnesCongr (modulus left right : Nat) : Prop where
  modEq : left ≡ right [MOD modulus]
  zero_iff : left = 0 ↔ right = 0

namespace OnesCongr

variable {modulus left right other : Nat}

theorem refl (modulus number : Nat) : OnesCongr modulus number number :=
  ⟨Nat.ModEq.refl number, Iff.rfl⟩

theorem symm (same : OnesCongr modulus left right) : OnesCongr modulus right left :=
  ⟨same.modEq.symm, same.zero_iff.symm⟩

theorem trans (first : OnesCongr modulus left right)
    (second : OnesCongr modulus right other) : OnesCongr modulus left other :=
  ⟨first.modEq.trans second.modEq, first.zero_iff.trans second.zero_iff⟩

theorem add {leftMore rightMore : Nat} (first : OnesCongr modulus left right)
    (second : OnesCongr modulus leftMore rightMore) :
    OnesCongr modulus (left + leftMore) (right + rightMore) where
  modEq := first.modEq.add second.modEq
  zero_iff := by
    rw [Nat.add_eq_zero_iff, Nat.add_eq_zero_iff, first.zero_iff, second.zero_iff]

theorem of_dvd {divisor : Nat} (divides : divisor ∣ modulus)
    (same : OnesCongr modulus left right) : OnesCongr divisor left right :=
  ⟨same.modEq.of_dvd divides, same.zero_iff⟩

theorem eq_of_le (same : OnesCongr modulus left right)
    (leftLe : left ≤ modulus) (rightLe : right ≤ modulus) : left = right := by
  by_cases isZero : right = 0
  · rw [isZero, same.zero_iff.mpr isZero]
  · have notZero : left ≠ 0 := mt same.zero_iff.mp isZero
    obtain ⟨first, rfl⟩ := Nat.exists_eq_succ_of_ne_zero notZero
    obtain ⟨second, rfl⟩ := Nat.exists_eq_succ_of_ne_zero isZero
    have predecessors : first ≡ second [MOD modulus] :=
      Nat.ModEq.add_right_cancel' 1 same.modEq
    rw [predecessors.eq_of_lt_of_lt leftLe rightLe]

theorem add_complement (positive : 0 < modulus) (most : left ≤ modulus)
    (same : OnesCongr modulus left right) :
    OnesCongr modulus (right + (modulus - left)) modulus where
  modEq := by
    have whole : left + (modulus - left) = modulus := by omega
    have added := same.modEq.symm.add_right (modulus - left)
    rwa [whole] at added
  zero_iff := by
    have isZero := same.zero_iff
    omega

/-- A multiple of a power of the base counts like the number itself. -/
theorem mul_succ (modulus number : Nat) : OnesCongr modulus (number * (modulus + 1)) number where
  modEq := by
    rw [Nat.mul_add, Nat.mul_one]
    exact (Nat.modEq_zero_iff_dvd.mpr (Nat.dvd_mul_left modulus number)).add_right
      number |>.trans (by rw [Nat.zero_add])
  zero_iff := by
    rw [Nat.mul_eq_zero]
    omega

theorem carry (modulus number : Nat) : OnesCongr modulus
      (number % (modulus + 1) + number / (modulus + 1)) number := by
  have parts := Nat.mod_add_div number (modulus + 1)
  have upper := (mul_succ modulus (number / (modulus + 1))).symm
  have carried := (refl modulus (number % (modulus + 1))).add upper
  rwa [Nat.mul_comm (number / (modulus + 1)), parts] at carried

end OnesCongr

/-- The sum of two words up to `modulus`, with the carry added at the other
end. -/
def onesAdd (modulus left right : Nat) : Nat :=
  (left + right) % (modulus + 1) + (left + right) / (modulus + 1)

def onesSum (modulus : Nat) (words : List Nat) : Nat :=
  words.foldl (onesAdd modulus) 0

theorem onesAdd_congr (modulus left right : Nat) :
    OnesCongr modulus (onesAdd modulus left right) (left + right) :=
  OnesCongr.carry modulus (left + right)

theorem onesAdd_le {modulus left right : Nat} (leftLe : left ≤ modulus)
    (rightLe : right ≤ modulus) : onesAdd modulus left right ≤ modulus := by
  unfold onesAdd
  by_cases small : left + right < modulus + 1
  · rw [Nat.mod_eq_of_lt small, Nat.div_eq_of_lt small]
    omega
  · have carried : (left + right) / (modulus + 1) = 1 :=
      Nat.div_eq_of_lt_le (by omega) (by omega)
    have parts := Nat.mod_add_div (left + right) (modulus + 1)
    rw [carried] at parts ⊢
    omega

variable {words : List Nat}

theorem foldl_onesAdd {modulus : Nat} (small : ∀ word ∈ words, word ≤ modulus) :
    ∀ {start : Nat}, start ≤ modulus → words.foldl (onesAdd modulus) start ≤ modulus ∧
        OnesCongr modulus (words.foldl (onesAdd modulus) start) (start + words.sum) := by
  induction words with
  | nil =>
    intro start startLe
    exact ⟨startLe, OnesCongr.refl modulus start⟩
  | cons word rest ih =>
    intro start startLe
    obtain ⟨wordLe, restSmall⟩ := List.forall_mem_cons.mp small
    obtain ⟨most, same⟩ :=
      ih restSmall (onesAdd_le startLe wordLe)
    refine ⟨most, same.trans ?_⟩
    rw [List.sum_cons, ← Nat.add_assoc]
    exact (onesAdd_congr modulus start word).add (OnesCongr.refl _ _)

theorem onesSum_le {modulus : Nat} (small : ∀ word ∈ words, word ≤ modulus) :
    onesSum modulus words ≤ modulus :=
  (foldl_onesAdd small (Nat.zero_le modulus)).1

theorem onesSum_congr {modulus : Nat} (small : ∀ word ∈ words, word ≤ modulus) :
    OnesCongr modulus (onesSum modulus words) words.sum := by
  have same := (foldl_onesAdd small (Nat.zero_le modulus)).2
  rwa [Nat.zero_add] at same

end SerialModem.Library
