import Mathlib.Data.List.Basic

/-!
# Cutting a sequence into pieces

Code that passes on a long sequence in pieces takes a piece from the front as
long as something is left.  Every piece but the last has the full size.

Code that reads pieces as they come may stop after the first one that passes a
test.
-/

namespace SerialModem.Library

open List

universe u

variable {Item : Type u}

def cutPieces (size : Nat) : Nat → List Item → List (List Item)
  | 0, _ => []
  | _ + 1, [] => []
  | fuel + 1, item :: rest =>
    (item :: rest).take size :: cutPieces size fuel ((item :: rest).drop size)

def pieces (size : Nat) (items : List Item) : List (List Item) :=
  cutPieces size items.length items

variable {size : Nat}

variable {items : List Item}

theorem cutPieces_of_enough (positive : 0 < size) {fuel : Nat} (enough : items.length ≤ fuel) :
    cutPieces size fuel items = pieces size items := by
  induction fuel using Nat.strongRecOn generalizing items with
  | ind fuel ih =>
    unfold pieces
    cases items with
    | nil =>
      cases fuel with
      | zero | succ fuel => rfl
    | cons item rest =>
      cases fuel with
      | zero => simp at enough
      | succ fuel =>
        have shorter : ((item :: rest).drop size).length ≤ rest.length := by
          rw [length_drop, length_cons]
          omega
        have within : rest.length ≤ fuel := by simpa using enough
        rw [length_cons, cutPieces, cutPieces,
          ih fuel (Nat.lt_succ_self _) (Nat.le_trans shorter within),
          ih rest.length (by omega) shorter]

@[simp] theorem pieces_nil : pieces size ([] : List Item) = [] :=
  rfl

theorem pieces_of_ne_nil (positive : 0 < size) (nonempty : items ≠ []) :
    pieces size items = items.take size :: pieces size (items.drop size) := by
  cases items with
  | nil => exact absurd rfl nonempty
  | cons item rest =>
    have shorter : ((item :: rest).drop size).length ≤ rest.length := by
      rw [length_drop, length_cons]
      omega
    rw [← cutPieces_of_enough positive shorter]
    rfl

theorem pieces_ne_nil (nonempty : items ≠ []) : pieces size items ≠ [] := by
  cases items with
  | nil => exact absurd rfl nonempty
  | cons item rest => exact cons_ne_nil _ _

theorem pieces_induction (positive : 0 < size) {property : List Item → Prop} (nil : property [])
    (step : ∀ items, items ≠ [] → property (items.drop size) →
      property items) (items : List Item) : property items := by
  induction measured : items.length using Nat.strongRecOn generalizing items
    with
  | ind length ih =>
    by_cases empty : items = []
    · rw [empty]
      exact nil
    · apply step items empty
      apply ih _ _ _ rfl
      have notNil := length_pos_iff.mpr empty
      rw [length_drop]
      omega

theorem flatten_pieces (positive : 0 < size) (items : List Item) :
    (pieces size items).flatten = items := by
  induction items using pieces_induction positive with
  | nil => rfl
  | step items nonempty ih =>
    rw [pieces_of_ne_nil positive nonempty, flatten_cons, ih, take_append_drop]

theorem length_of_mem_pieces (positive : 0 < size) {items piece : List Item}
    (member : piece ∈ pieces size items) :
    0 < piece.length ∧ piece.length ≤ size := by
  induction items using pieces_induction positive with
  | nil => cases member
  | step items nonempty ih =>
    rw [pieces_of_ne_nil positive nonempty] at member
    rcases mem_cons.mp member with rfl | later
    · have notNil := length_pos_iff.mpr nonempty
      rw [length_take]
      omega
    · exact ih later

def markLast : List Item → List (Item × Bool)
  | [] => []
  | [item] => [(item, true)]
  | item :: next :: rest => (item, false) :: markLast (next :: rest)

theorem markLast_pieces_of_ne_nil (positive : 0 < size) (nonempty : items ≠ []) :
    markLast (pieces size items) = (items.take size, decide (items.length ≤ size)) ::
        markLast (pieces size (items.drop size)) := by
  rw [pieces_of_ne_nil positive nonempty]
  by_cases short : items.length ≤ size
  · rw [drop_of_length_le short, pieces_nil, decide_eq_true short]
    rfl
  · have more : items.drop size ≠ [] := by
      intro nothing
      exact short (drop_eq_nil_iff.mp nothing)
    rw [pieces_of_ne_nil positive more, decide_eq_false short]
    rfl

theorem exists_marked (nonempty : items ≠ []) : ∃ item, (item, true) ∈ markLast items := by
  induction items with
  | nil => exact absurd rfl nonempty
  | cons first rest ih =>
    cases rest with
    | nil => exact ⟨first, mem_singleton_self _⟩
    | cons next later =>
      obtain ⟨item, marked⟩ := ih (cons_ne_nil _ _)
      exact ⟨item, mem_cons_of_mem _ marked⟩

theorem eq_nil_of_marked {front back : List (Item × Bool)}
    {item : Item} (split : markLast items = front ++ back)
    (marked : (item, true) ∈ front) : back = [] := by
  induction items generalizing front with
  | nil =>
    cases front with
    | nil => cases marked
    | cons first rest => cases split
  | cons first rest ih =>
    cases front with
    | nil => cases marked
    | cons head tail =>
      cases rest with
      | nil =>
        injection split with _ nothing
        exact (append_eq_nil_iff.mp nothing.symm).2
      | cons next later =>
        injection split with isHead isTail
        apply ih isTail
        rcases mem_cons.mp marked with same | inTail
        · rw [← isHead] at same
          cases same
        · exact inTail

/-- How many items are read when a reader stops after the first piece that
passes a test; the test may look at how many items came before. -/
def stopAfter (stops : Nat → List Item → Bool) : Nat → List (List Item) → Option Nat
  | _, [] => none
  | read, piece :: rest =>
    if stops read piece then
      some (read + piece.length)
    else
      stopAfter stops (read + piece.length) rest

/-- A piece holds the items from `start` to `stop` of the whole; the first piece
begins at `offset`. -/
def IsPiece (offset : Nat) (all : List (List Item)) (start stop : Nat) : Prop :=
  ∃ front piece back, all = front ++ piece :: back ∧
    start = offset + front.flatten.length ∧ stop = start + piece.length

variable {offset start stop : Nat} {piece : List Item} {rest all : List (List Item)}

theorem IsPiece.le (isPiece : IsPiece offset all start stop) : offset ≤ start ∧ start ≤ stop := by
  obtain ⟨front, piece, back, -, rfl, rfl⟩ := isPiece
  omega

variable {stops : Nat → List Item → Bool}

theorem stopAfter_le {read : Nat} (stopped : stopAfter stops read all = some stop) :
    read ≤ stop ∧ stop ≤ read + all.flatten.length := by
  induction all generalizing read with
  | nil => cases stopped
  | cons piece rest ih =>
    rw [flatten_cons, length_append]
    rw [stopAfter] at stopped
    split at stopped
    · cases stopped
      omega
    · have later := ih stopped
      omega

end SerialModem.Library
