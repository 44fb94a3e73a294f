import Mathlib.Data.List.Infix
import Mathlib.Data.Nat.Find

/-!
# Occurrences in a text

A search that stops at a bound sees the occurrences that end before it, and no
others.  So what is found in a prefix of a text is what ends in the prefix.
-/

namespace SerialModem.Library

open List

universe u

variable {Symbol : Type u} {needle text : List Symbol} {start bound : Nat}

def OccursAt (needle text : List Symbol) (start : Nat) : Prop :=
  needle <+: text.drop start

instance [DecidableEq Symbol] : Decidable (OccursAt needle text start) :=
  inferInstanceAs (Decidable (needle <+: text.drop start))

/-- `needle` stands in `text` at an index, and nowhere before it. -/
def FirstAt (needle text : List Symbol) (start : Nat) : Prop :=
  OccursAt needle text start ∧ ∀ earlier, earlier < start → ¬OccursAt needle text earlier

instance [DecidableEq Symbol] : Decidable (FirstAt needle text start) :=
  inferInstanceAs (Decidable (_ ∧ _))

/-- `needle` stands in `text` at an index, and nowhere behind it. -/
def LastAt (needle text : List Symbol) (start : Nat) : Prop :=
  OccursAt needle text start ∧ ∀ later, start < later → ¬OccursAt needle text later

theorem occursAt_iff_getElem? : OccursAt needle text start ↔
      ∀ offset (inside : offset < needle.length), text[start + offset]? = some needle[offset] := by
  rw [OccursAt, prefix_iff_getElem?]
  simp only [getElem?_drop]

theorem OccursAt.within (occurs : OccursAt needle text start)
    (nonempty : needle ≠ []) : start + needle.length ≤ text.length := by
  have shorter := occurs.length_le
  have positive := length_pos_iff.mpr nonempty
  rw [length_drop] at shorter
  omega

theorem occursAt_take_iff (within : start + needle.length ≤ bound) :
    OccursAt needle (text.take bound) start ↔ OccursAt needle text start := by
  rw [OccursAt, OccursAt, drop_take, prefix_take_iff]
  constructor
  · exact And.left
  · intro occurs
    exact ⟨occurs, by omega⟩

theorem occursAt_drop_iff {skipped : Nat} : OccursAt needle (text.drop skipped) start ↔
      OccursAt needle text (skipped + start) := by
  rw [OccursAt, OccursAt, drop_drop]

theorem occursAt_append_iff {front : List Symbol} :
    OccursAt needle (front ++ text) (front.length + start) ↔ OccursAt needle text start := by
  rw [OccursAt, OccursAt, ← drop_drop, drop_left]

theorem OccursAt.append (occurs : OccursAt needle text start) (more : List Symbol) :
    OccursAt needle (text ++ more) start := by
  by_cases inside : start ≤ text.length
  · rw [OccursAt, drop_append_of_le_length inside]
    exact List.IsPrefix.trans occurs (prefix_append ..)
  · have none : needle = [] := by
      rw [OccursAt, drop_of_length_le (by omega)] at occurs
      exact prefix_nil.mp occurs
    rw [none]
    exact nil_prefix

/-- Where no occurrence begins in `front`, the first one is behind it. -/
theorem firstAt_append_iff {front : List Symbol}
    (apart : ∀ index, index < front.length → ¬OccursAt needle (front ++ text) index) :
    FirstAt needle (front ++ text) (front.length + start) ↔ FirstAt needle text start := by
  rw [FirstAt, FirstAt, occursAt_append_iff]
  refine and_congr_right fun _ => ⟨fun notBefore earlier isEarlier here => ?_, ?_⟩
  · exact notBefore (front.length + earlier) (by omega) (occursAt_append_iff.mpr here)
  · intro notBefore earlier isEarlier here
    by_cases inFront : earlier < front.length
    · exact apart earlier inFront here
    · rw [← Nat.add_sub_cancel' (Nat.le_of_not_lt inFront)] at here
      exact notBefore (earlier - front.length) (by omega) (occursAt_append_iff.mp here)

theorem firstAt_take_iff (within : start + needle.length ≤ bound) :
    FirstAt needle (text.take bound) start ↔ FirstAt needle text start := by
  rw [FirstAt, FirstAt, occursAt_take_iff within]
  apply and_congr_right
  intro _
  apply forall₂_congr
  intro earlier isEarlier
  rw [occursAt_take_iff (by omega)]

theorem OccursAt.exists_first (occurs : OccursAt needle text start) :
    ∃ first, first ≤ start ∧ FirstAt needle text first := by
  classical
  have occurring : ∃ index, OccursAt needle text index := ⟨start, occurs⟩
  refine ⟨Nat.find occurring, Nat.find_min' occurring occurs, Nat.find_spec occurring, ?_⟩
  intro earlier isEarlier
  exact Nat.find_min occurring isEarlier

theorem exists_occursAt_iff : (∃ index, OccursAt needle text index) ↔ needle <:+: text := by
  constructor
  · rintro ⟨index, tail, isDrop⟩
    refine ⟨text.take index, tail, ?_⟩
    rw [append_assoc, isDrop, take_append_drop]
  · rintro ⟨front, tail, rfl⟩
    refine ⟨front.length, tail, ?_⟩
    rw [append_assoc, drop_left]

theorem lastAt_of_notMem {first : Symbol} {front rest tail : List Symbol}
    (own : first ∉ rest ++ tail) :
    LastAt (first :: rest) (front ++ (first :: rest ++ tail)) front.length := by
  refine ⟨⟨tail, by rw [drop_left]⟩, ?_⟩
  rintro later isLater ⟨behind, isDrop⟩
  have member : first ∈ (rest ++ tail).drop (later - front.length - 1) := by
    have isBehind : (front ++ (first :: rest ++ tail)).drop later =
        (rest ++ tail).drop (later - front.length - 1) := by
      rw [drop_append, drop_of_length_le (Nat.le_of_lt isLater),
        show later - front.length = later - front.length - 1 + 1 by omega]
      rfl
    rw [← isBehind, ← isDrop]
    exact mem_cons_self ..
  exact own (mem_of_mem_drop member)

theorem infix_append_of_separator {separator : Symbol}
    {front tail : List Symbol} (within : separator ∉ needle.dropLast)
    (separated : front.getLast? = some separator) :
    needle <:+: front ++ tail ↔ needle <:+: front ∨ needle <:+: tail := by
  rw [infix_append_iff_ne_nil, ← or_assoc, or_iff_left]
  rintro ⟨left, right, someLeft, someRight, rfl, isSuffix, -⟩
  apply within
  rw [dropLast_append_of_ne_nil someRight]
  have isLast : left.getLast? = some separator := by
    obtain ⟨before, rfl⟩ := isSuffix
    rw [getLast?_append_of_ne_nil _ someLeft] at separated
    exact separated
  exact mem_append_left _ (mem_of_getLast? isLast)

end SerialModem.Library
