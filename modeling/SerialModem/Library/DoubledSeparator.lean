import SerialModem.Library.Occurrence

/-!
# Cutting a text between two separators

Where an item of a text both starts and ends with a separator, two separators in a
row mark the end of one item and the start of the next.  Code that looks for the
doubled separator, cuts between its halves and goes on from there sees every
occurrence, also those that overlap.
-/

namespace SerialModem.Library

open List

universe u

variable {Symbol : Type u} {half text piece : List Symbol}
  {pieces : List (List Symbol)} {start position : Nat}

/-- The text is cut between the halves of the first doubled separator, and what
follows is cut in the same way. -/
inductive Cut (half : List Symbol) :
    List Symbol → List (List Symbol) → Prop
  | empty : Cut half [] []
  | last {text : List Symbol} : text ≠ [] → (∀ start, ¬OccursAt (half ++ half) text start) →
      Cut half text [text]
  | next {text : List Symbol} {pieces : List (List Symbol)} {start : Nat} :
      FirstAt (half ++ half) text start →
      Cut half (text.drop (start + half.length)) pieces →
      Cut half text (text.take (start + half.length) :: pieces)

def Boundary (pieces : List (List Symbol)) (position : Nat) : Prop :=
  ∃ front back, pieces = front ++ back ∧ front ≠ [] ∧ back ≠ [] ∧ front.flatten.length = position

/-- The pieces make up the text, and meet between the halves of the doubled
separators. -/
structure CutBetween (half text : List Symbol)
    (pieces : List (List Symbol)) : Prop where
  flatten : pieces.flatten = text
  nonempty : ∀ piece ∈ pieces, piece ≠ []
  boundary_iff : ∀ position, Boundary pieces position ↔
    ∃ start, OccursAt (half ++ half) text start ∧ position = start + half.length

def Primitive (half : List Symbol) : Prop :=
  ∀ shift, 0 < shift → shift < half.length → ¬OccursAt half (half ++ half) shift

theorem boundary_nil : ¬Boundary ([] : List (List Symbol)) position := by
  rintro ⟨front, back, split, someFront, -, -⟩
  exact someFront (append_eq_nil_iff.mp split.symm).1

theorem boundary_cons : Boundary (piece :: pieces) position ↔
      pieces ≠ [] ∧ position = piece.length ∨
        ∃ later, Boundary pieces later ∧ position = piece.length + later := by
  constructor
  · rintro ⟨front, back, split, someFront, someBack, isLength⟩
    cases front with
    | nil => exact absurd rfl someFront
    | cons first front =>
      rw [cons_append, List.cons.injEq] at split
      obtain ⟨rfl, rfl⟩ := split
      rw [flatten_cons, length_append] at isLength
      by_cases isFirst : front = []
      · subst isFirst
        exact .inl ⟨someBack, isLength.symm⟩
      · exact .inr ⟨front.flatten.length, ⟨front, back, rfl, isFirst, someBack, rfl⟩, isLength.symm⟩
  · rintro (⟨somePieces, rfl⟩ | ⟨later, boundary, rfl⟩)
    · refine ⟨[piece], pieces, rfl, cons_ne_nil _ _, somePieces, ?_⟩
      rw [flatten_cons, flatten_nil, append_nil]
    · obtain ⟨front, back, rfl, someFront, someBack, rfl⟩ := boundary
      refine ⟨piece :: front, back, rfl, cons_ne_nil _ _, someBack, ?_⟩
      rw [flatten_cons, length_append]

theorem Primitive.not_occursAt (primitive : Primitive half)
    (occurs : OccursAt (half ++ half) text start) {shift : Nat}
    (positive : 0 < shift) (inside : shift < half.length) :
    ¬OccursAt (half ++ half) text (start + shift) := by
  intro shifted
  have within : shift + half.length ≤ (half ++ half).length := by
    rw [length_append]
    omega
  apply primitive shift positive inside
  rw [occursAt_iff_getElem?] at occurs shifted ⊢
  intro offset isInside
  have seen := shifted offset (by rw [length_append]; omega)
  have also := occurs (shift + offset) (by omega)
  rw [Nat.add_assoc, also] at seen
  rw [getElem?_eq_getElem (by omega), Option.some.inj seen, getElem_append_left isInside]

theorem FirstAt.occursAt_iff (primitive : Primitive half)
    (first : FirstAt (half ++ half) text start) {other : Nat} :
    OccursAt (half ++ half) text other ↔ other = start ∨ ∃ later, OccursAt (half ++ half)
          (text.drop (start + half.length)) later ∧ other = start + half.length + later := by
  constructor
  · intro occurs
    by_cases earlier : other < start
    · exact absurd occurs (first.2 other earlier)
    · by_cases same : other = start
      · exact .inl same
      · by_cases inside : other < start + half.length
        · have isShift : other = start + (other - start) := by omega
          rw [isShift] at occurs
          exact absurd occurs (primitive.not_occursAt first.1 (by omega) (by omega))
        · refine .inr ⟨other - (start + half.length), ?_, by omega⟩
          rw [occursAt_drop_iff, Nat.add_sub_cancel' (by omega)]
          exact occurs
  · rintro (rfl | ⟨later, occurs, rfl⟩)
    · exact first.1
    · exact occursAt_drop_iff.mp occurs

theorem Cut.ne_nil (cut : Cut half text pieces) (nonempty : text ≠ []) : pieces ≠ [] := by
  cases cut with
  | empty => exact absurd rfl nonempty
  | last | next => exact cons_ne_nil _ _

theorem Cut.cutBetween (cut : Cut half text pieces) (someHalf : half ≠ [])
    (primitive : Primitive half) : CutBetween half text pieces := by
  have positive := length_pos_iff.mpr someHalf
  have someDouble : half ++ half ≠ [] := by simp [someHalf]
  induction cut with
  | empty =>
    refine ⟨rfl, nofun, fun position => iff_of_false boundary_nil ?_⟩
    rintro ⟨start, occurs, -⟩
    have within := occurs.within someDouble
    rw [length_append, length_nil] at within
    omega
  | last nonempty missing =>
    refine ⟨append_nil _, ?_, fun position => iff_of_false ?_ ?_⟩
    · refine forall_mem_singleton.mpr ?_
      exact nonempty
    · rw [boundary_cons]
      rintro (⟨somePieces, -⟩ | ⟨later, boundary, -⟩)
      · exact somePieces rfl
      · exact boundary_nil boundary
    · rintro ⟨start, occurs, -⟩
      exact missing start occurs
  | @next text pieces start first rest ih =>
    have within := first.1.within someDouble
    rw [length_append] at within
    have isLength : (text.take (start + half.length)).length = start + half.length :=
      length_take_of_le (by omega)
    have someRest : text.drop (start + half.length) ≠ [] := by
      rw [← length_pos_iff, length_drop]
      omega
    refine ⟨?_, ?_, fun position => ?_⟩
    · rw [flatten_cons, ih.flatten, take_append_drop]
    · intro piece member
      rcases mem_cons.mp member with rfl | later
      · rw [← length_pos_iff, isLength]
        omega
      · exact ih.nonempty piece later
    · rw [boundary_cons, isLength]
      constructor
      · rintro (⟨-, rfl⟩ | ⟨later, boundary, rfl⟩)
        · exact ⟨start, first.1, rfl⟩
        · obtain ⟨behind, occurs, rfl⟩ :=
            (ih.boundary_iff later).mp boundary
          refine ⟨start + half.length + behind, (first.occursAt_iff primitive).mpr
              (.inr ⟨behind, occurs, rfl⟩), by omega⟩
      · rintro ⟨other, occurs, rfl⟩
        rcases (first.occursAt_iff primitive).mp occurs with
          rfl | ⟨behind, later, rfl⟩
        · exact .inl ⟨rest.ne_nil someRest, rfl⟩
        · refine .inr ⟨behind + half.length, ?_, by omega⟩
          exact (ih.boundary_iff _).mpr ⟨behind, later, rfl⟩

end SerialModem.Library
