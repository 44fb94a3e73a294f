import Mathlib.Data.List.Basic

/-!
# Texts in buffers of a fixed size

A text ends with the symbol zero.  Writing puts it, with its end, over a part
of a buffer and is undefined when that part is not inside the buffer; reading
follows the symbols up to the first zero, or up to a limit.

`TextAt` says that a text stands at a position with its end.  It survives every
write elsewhere, and appending extends it.
-/

namespace SerialModem.Library

open List

universe u

structure CharBuffer (Symbol : Type u) where
  size : Nat
  contents : Nat → Symbol

namespace CharBuffer

variable {Symbol : Type u}

def overlay (contents : Nat → Symbol) (position : Nat) (text : List Symbol) :
    Nat → Symbol := fun index =>
  if position ≤ index then
    (text[index - position]?).getD (contents index)
  else
    contents index

def write (position : Nat) (text : List Symbol) (buffer : CharBuffer Symbol) :
    Option (CharBuffer Symbol) :=
  if position + text.length ≤ buffer.size then
    some { buffer with contents := overlay buffer.contents position text }
  else
    none

variable [DecidableEq Symbol] [Zero Symbol]

/-- `calloc`. -/
def zeroed (size : Nat) : CharBuffer Symbol where
  size := size
  contents _ := 0

def readFrom (contents : Nat → Symbol) : Nat → Nat → List Symbol
  | _, 0 => []
  | position, limit + 1 =>
    if contents position = 0 then
      []
    else
      contents position :: readFrom contents (position + 1) limit

/-- `strlen`; undefined when the text does not end inside the buffer. -/
def strlen (buffer : CharBuffer Symbol) : Option Nat :=
  let text := readFrom buffer.contents 0 buffer.size
  if text.length < buffer.size then some text.length else none

def snprintf (position : Nat) (room : Nat) (text : List Symbol)
    (buffer : CharBuffer Symbol) : Option (CharBuffer Symbol) :=
  match room with
  | 0 => some buffer
  | room + 1 => buffer.write position (text.take room ++ [0])

def strcat (text : List Symbol) (buffer : CharBuffer Symbol) : Option (CharBuffer Symbol) :=
  buffer.strlen.bind fun length => buffer.write length (text ++ [0])

/-- `strncat` of the text at a position to the text at the start.  The source
is read first: where the two overlap, the destination must not reach it. -/
def strncat (position limit : Nat) (buffer : CharBuffer Symbol) : Option (CharBuffer Symbol) :=
  buffer.strcat (readFrom buffer.contents position limit)

omit [DecidableEq Symbol] [Zero Symbol] in
theorem overlay_of_outside {contents : Nat → Symbol} {position index : Nat} {text : List Symbol}
    (outside : index < position ∨ position + text.length ≤ index) :
    overlay contents position text index = contents index := by
  unfold overlay
  split
  · rw [getElem?_eq_none (by omega)]
    rfl
  · rfl

omit [DecidableEq Symbol] [Zero Symbol] in
theorem overlay_of_inside {contents : Nat → Symbol} {position offset : Nat}
    {text : List Symbol} (inside : offset < text.length) :
    overlay contents position text (position + offset) = text[offset] := by
  unfold overlay
  rw [if_pos (Nat.le_add_right _ _), Nat.add_sub_cancel_left, getElem?_eq_getElem inside]
  rfl

theorem readFrom_congr {contents changed : Nat → Symbol} {position limit : Nat}
    (same : ∀ index, position ≤ index → index < position + limit →
      changed index = contents index) :
    readFrom changed position limit = readFrom contents position limit := by
  induction limit generalizing position with
  | zero => rfl
  | succ limit ih =>
    rw [readFrom, readFrom, same position (Nat.le_refl _) (by omega), ih fun index low high =>
        same index (by omega) (by omega)]

theorem readFrom_of_end {contents : Nat → Symbol} {position : Nat}
    (ends : contents position = 0) (limit : Nat) :
    readFrom contents position limit = [] := by
  cases limit with
  | zero => rfl
  | succ limit => rw [readFrom, if_pos ends]

theorem length_readFrom_le (contents : Nat → Symbol) (position limit : Nat) :
    (readFrom contents position limit).length ≤ limit := by
  induction limit generalizing position with
  | zero => exact Nat.le_refl 0
  | succ limit ih =>
    rw [readFrom]
    split
    · exact Nat.zero_le _
    · exact Nat.succ_le_succ (ih _)

theorem readFrom_nonzero (contents : Nat → Symbol) (position limit : Nat) :
    ∀ symbol, symbol ∈ readFrom contents position limit → symbol ≠ 0 := by
  induction limit generalizing position with
  | zero => exact fun _ member => absurd member not_mem_nil
  | succ limit ih =>
    intro symbol member
    rw [readFrom] at member
    split at member
    · exact absurd member not_mem_nil
    · rename_i nonzero
      rcases mem_cons.mp member with rfl | later
      · exact nonzero
      · exact ih _ symbol later

def TextAt (contents : Nat → Symbol) : Nat → List Symbol → Prop
  | position, [] => contents position = 0
  | position, symbol :: rest =>
    contents position = symbol ∧ symbol ≠ 0 ∧ TextAt contents (position + 1) rest

namespace TextAt

variable {contents changed : Nat → Symbol} {position : Nat} {text : List Symbol}

omit [DecidableEq Symbol] in
theorem congr (textAt : TextAt contents position text)
    (same : ∀ index, position ≤ index → index ≤ position + text.length →
      changed index = contents index) : TextAt changed position text := by
  induction text generalizing position with
  | nil => exact (same position (Nat.le_refl _) (Nat.le_refl _)).trans textAt
  | cons symbol rest ih =>
    obtain ⟨first, nonzero, later⟩ := textAt
    refine ⟨?_, nonzero, ?_⟩
    · exact (same position (Nat.le_refl _) (by omega)).trans first
    · apply ih later
      intro index low high
      rw [length_cons] at same
      exact same index (by omega) (by omega)

theorem read (textAt : TextAt contents position text) {limit : Nat} (short : text.length ≤ limit) :
    readFrom contents position limit = text := by
  induction text generalizing position limit with
  | nil => exact readFrom_of_end textAt limit
  | cons symbol rest ih =>
    obtain ⟨first, nonzero, later⟩ := textAt
    cases limit with
    | zero => simp at short
    | succ limit =>
      rw [readFrom, first, if_neg nonzero, ih later (by simpa using short)]

theorem strlen {buffer : CharBuffer Symbol} (textAt : TextAt buffer.contents 0 text)
    (inside : text.length < buffer.size) :
    buffer.strlen = some text.length := by
  rw [CharBuffer.strlen, textAt.read (Nat.le_of_lt inside)]
  exact if_pos inside

end TextAt

def Stored (contents : Nat → Symbol) (position : Nat) (text : List Symbol) :
    Prop :=
  ∀ offset (inside : offset < text.length), contents (position + offset) = text[offset]

namespace Stored

variable {contents : Nat → Symbol} {position : Nat} {text more : List Symbol}

omit [DecidableEq Symbol] [Zero Symbol] in
theorem nil : Stored contents position ([] : List Symbol) :=
  fun _ inside => absurd inside (Nat.not_lt_zero _)

omit [DecidableEq Symbol] [Zero Symbol] in
theorem append (stored : Stored contents position text) :
    Stored (overlay contents (position + text.length) more) position (text ++ more) := by
  intro offset inside
  rcases Nat.lt_or_ge offset text.length with before | behind
  · rw [overlay_of_outside (.inl (Nat.add_lt_add_left before position)), getElem_append_left before]
    exact stored offset before
  · obtain ⟨further, rfl⟩ := Nat.exists_eq_add_of_le behind
    rw [length_append] at inside
    rw [← Nat.add_assoc, overlay_of_inside (Nat.lt_of_add_lt_add_left inside),
      getElem_append_right behind]
    congr 1
    exact (Nat.add_sub_cancel_left ..).symm

omit [DecidableEq Symbol] [Zero Symbol] in
theorem left (stored : Stored contents position (text ++ more)) :
    Stored contents position text := by
  intro offset inside
  rw [stored offset (by rw [length_append]; omega), getElem_append_left inside]

end Stored

omit [DecidableEq Symbol] in
theorem textAt_of_stored {contents : Nat → Symbol} {position : Nat}
    {text : List Symbol} (nonzero : ∀ symbol, symbol ∈ text → symbol ≠ 0)
    (stored : Stored contents position text)
    (ends : contents (position + text.length) = 0) :
    TextAt contents position text := by
  induction text generalizing position with
  | nil => exact ends
  | cons symbol rest ih =>
    refine ⟨?_, nonzero symbol (mem_cons_self ..), ?_⟩
    · exact stored 0 (Nat.zero_lt_succ _)
    · apply ih
      · exact fun other member =>
          nonzero other (mem_cons_of_mem _ member)
      · intro offset inside
        have shifted := stored (offset + 1) (Nat.succ_lt_succ inside)
        rw [Nat.add_right_comm, Nat.add_assoc]
        exact shifted
      · rw [length_cons] at ends
        rw [Nat.add_right_comm, Nat.add_assoc]
        exact ends

omit [DecidableEq Symbol] in
theorem textAt_overlay (contents : Nat → Symbol) (position : Nat)
    {text : List Symbol} (nonzero : ∀ symbol, symbol ∈ text → symbol ≠ 0) :
    TextAt (overlay contents position (text ++ [0])) position text := by
  apply textAt_of_stored nonzero
  · intro offset inside
    rw [overlay_of_inside (by simp; omega), getElem_append_left inside]
  · rw [overlay_of_inside (by simp)]
    simp

namespace TextAt

variable {contents : Nat → Symbol} {position : Nat} {text more : List Symbol}

omit [DecidableEq Symbol] in
theorem append (textAt : TextAt contents position text)
    (nonzero : ∀ symbol, symbol ∈ more → symbol ≠ 0) :
    TextAt (overlay contents (position + text.length) (more ++ [0])) position (text ++ more) := by
  induction text generalizing position with
  | nil => exact textAt_overlay contents position nonzero
  | cons symbol rest ih =>
    obtain ⟨first, notZero, later⟩ := textAt
    have moved : position + (symbol :: rest).length = position + 1 + rest.length := by
      rw [length_cons]
      omega
    refine ⟨?_, notZero, ?_⟩
    · rw [overlay_of_outside (by
        left
        rw [moved]
        omega)]
      exact first
    · rw [moved]
      exact ih later

theorem strcat {buffer : CharBuffer Symbol} (textAt : TextAt buffer.contents 0 text)
    (inside : text.length < buffer.size) (more : List Symbol) :
    buffer.strcat more =
      if text.length + more.length + 1 ≤ buffer.size then
        some { buffer with
          contents := overlay buffer.contents text.length (more ++ [0]) }
      else
        none := by
  rw [CharBuffer.strcat, textAt.strlen inside, Option.bind_some,
    CharBuffer.write, length_append, length_singleton,
    ← Nat.add_assoc]

end TextAt

end CharBuffer

end SerialModem.Library
