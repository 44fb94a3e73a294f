import Mathlib.Data.List.TakeWhile
import SerialModem.Library.Occurrence
import SerialModem.Socket.Http

/-!
# Strings in buffers

What `strstr` finds in a string, and where the string of a buffer ends.
-/

namespace SerialModem.Socket

open Library AtHost List

variable {haystack needle text : List Byte} {index : Nat}

theorem strstr_eq_some_iff (nonempty : needle ≠ []) :
    strstr haystack needle = some index ↔ FirstAt needle haystack index := by
  have same (start : Nat) : ((haystack.drop start).take needle.length == needle) = true ↔
        OccursAt needle haystack start := by
    rw [beq_iff_eq, OccursAt, prefix_iff_eq_take]
    exact eq_comm
  rw [strstr, find?_range_eq_some, FirstAt, same]
  constructor
  · rintro ⟨occurs, _, earlier⟩
    refine ⟨occurs, fun before isBefore here => ?_⟩
    have missing := earlier before isBefore
    rw [(same before).mpr here] at missing
    cases missing
  · rintro ⟨occurs, earlier⟩
    have inside := occurs.within nonempty
    refine ⟨occurs, mem_range.mpr (by omega), fun before isBefore => ?_⟩
    rw [Bool.not_eq_true', ← Bool.not_eq_true, same]
    exact earlier before isBefore

theorem strstr_eq_none_iff (nonempty : needle ≠ []) :
    strstr haystack needle = none ↔ ∀ start, ¬OccursAt needle haystack start := by
  rw [Option.eq_none_iff_forall_ne_some]
  constructor
  · intro missing start occurs
    obtain ⟨first, -, isFirst⟩ := occurs.exists_first
    exact missing first ((strstr_eq_some_iff nonempty).mpr isFirst)
  · intro missing first found
    exact missing first ((strstr_eq_some_iff nonempty).mp found).1

theorem length_cString_le (text : List Byte) : (cString text).length ≤ text.length :=
  (takeWhile_sublist _).length_le

theorem cString_of_notMem (noNul : 0 ∉ text) : cString text = text := by
  apply takeWhile_eq_self_iff.mpr
  intro byte member
  rw [bne_iff_ne]
  rintro rfl
  exact noNul member

theorem cString_append_of_notMem (noNul : 0 ∉ text) (more : List Byte) :
    cString (text ++ more) = text ++ cString more := by
  have whole := cString_of_notMem noNul
  unfold cString at whole ⊢
  rw [takeWhile_append, whole, if_pos rfl]

end SerialModem.Socket
