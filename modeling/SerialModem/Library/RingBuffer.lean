import Mathlib.Data.List.Basic

/-!
# Bounded ring buffers with contiguous claims

A ring buffer is seen as the list of the items that it holds, oldest first,
together with the place of the oldest item inside the backing array.  The
place matters to a reader that claims items instead of copying them: one claim
never runs past the end of the array, so a wrapped content needs two claims.

The invariants are fields: the content fits in the array and the place of the
oldest item is inside it.
-/

namespace SerialModem.Library

open List

universe u

/-- A ring buffer over an array of `size` items whose oldest item stands at
index `offset`. -/
structure RingBuffer (alpha : Type u) where
  size : Nat
  offset : Nat
  content : List alpha
  offset_lt : 0 < size → offset < size
  content_le : content.length ≤ size

namespace RingBuffer

variable {alpha : Type u}

/-- An empty ring whose next item is stored at the start of the array. -/
def init (size : Nat) : RingBuffer alpha where
  size := size
  offset := 0
  content := []
  offset_lt := fun positive => positive
  content_le := Nat.zero_le size

def reset (ring : RingBuffer alpha) : RingBuffer alpha :=
  init ring.size

def isEmpty (ring : RingBuffer alpha) : Bool :=
  ring.content.isEmpty

def sizeGet (ring : RingBuffer alpha) : Nat :=
  ring.content.length

def spaceGet (ring : RingBuffer alpha) : Nat :=
  ring.size - ring.content.length

def putCount (ring : RingBuffer alpha) (items : List alpha) : Nat :=
  min items.length ring.spaceGet

def put (ring : RingBuffer alpha) (items : List alpha) : RingBuffer alpha where
  size := ring.size
  offset := ring.offset
  content := ring.content ++ items.take ring.spaceGet
  offset_lt := ring.offset_lt
  content_le := by
    have fits := ring.content_le
    simp only [length_append, length_take, spaceGet]
    omega

/-- The oldest items, at most `limit` of them and none past the end of the
array. -/
def getClaim (ring : RingBuffer alpha) (limit : Nat) : List alpha :=
  ring.content.take (min limit (ring.size - ring.offset))

/-- Release the `count` oldest items.  A count larger than the content is
refused and leaves the ring as it is. -/
def getFinish (ring : RingBuffer alpha) (count : Nat) : RingBuffer alpha :=
  if count ≤ ring.content.length then
    { size := ring.size
      offset := (ring.offset + count) % ring.size
      content := ring.content.drop count
      offset_lt := fun positive => Nat.mod_lt _ positive
      content_le := by
        have fits := ring.content_le
        simp only [length_drop]
        omega }
  else
    ring

@[simp]
theorem init_content (size : Nat) : (init size : RingBuffer alpha).content = [] := rfl

@[simp]
theorem init_size (size : Nat) : (init size : RingBuffer alpha).size = size := rfl

variable (ring : RingBuffer alpha)

@[simp]
theorem reset_content : ring.reset.content = [] := rfl

@[simp]
theorem reset_size : ring.reset.size = ring.size := rfl

@[simp]
theorem reset_offset : ring.reset.offset = 0 := rfl

theorem put_content (items : List alpha) : (ring.put items).content =
      ring.content ++ items.take (ring.putCount items) := by
  simp [put, putCount, take_eq_take_iff, Nat.min_comm]

theorem put_of_full (items : List alpha)
    (full : ring.content.length = ring.size) : ring.put items = ring := by
  cases ring
  simp_all [put, spaceGet]

theorem put_content_of_fits {items : List alpha}
    (fits : ring.content.length + items.length ≤ ring.size) :
    (ring.put items).content = ring.content ++ items := by
  have all : items.take ring.spaceGet = items := by
    apply take_of_length_le
    unfold spaceGet
    omega
  simp [put, all]

@[simp]
theorem getFinish_size (count : Nat) : (ring.getFinish count).size = ring.size := by
  unfold getFinish
  split <;> rfl

theorem getFinish_content {count : Nat} (within : count ≤ ring.content.length) :
    (ring.getFinish count).content = ring.content.drop count := by
  simp [getFinish, within]

theorem getFinish_offset {count : Nat} (within : count ≤ ring.content.length) :
    (ring.getFinish count).offset = (ring.offset + count) % ring.size := by
  simp [getFinish, within]

theorem isEmpty_iff :
    ring.isEmpty = true ↔ ring.content = [] := by
  simp [isEmpty]

theorem putCount_eq_length {items : List alpha}
    (fits : ring.content.length + items.length ≤ ring.size) :
    ring.putCount items = items.length := by
  unfold putCount spaceGet
  omega

theorem getClaim_length_le (limit : Nat) : (ring.getClaim limit).length ≤ ring.content.length := by
  rw [getClaim, length_take]
  exact Nat.min_le_right _ _

/-- A claim is a nonempty part of a nonempty content: the oldest item is never
past the end of the array. -/
theorem getClaim_eq_nil_iff {limit : Nat} (positive : 0 < limit) :
    ring.getClaim limit = [] ↔ ring.content = [] := by
  constructor
  · intro empty
    by_contra nonempty
    have stored : 0 < ring.content.length := length_pos_iff.mpr nonempty
    have inside : ring.offset < ring.size :=
      ring.offset_lt (Nat.lt_of_lt_of_le stored ring.content_le)
    have claimed := congrArg List.length empty
    simp only [getClaim, length_take, length_nil] at claimed
    omega
  · intro empty
    simp [getClaim, empty]

theorem getClaim_append_drop (limit : Nat) :
    ring.getClaim limit ++
        ring.content.drop (ring.getClaim limit).length =
      ring.content := by
  have split := take_append_drop (min limit (ring.size - ring.offset)) ring.content
  rcases Nat.le_total (min limit (ring.size - ring.offset))
      ring.content.length with short | long
  · rw [getClaim, length_take, Nat.min_eq_left short]
    exact split
  · rw [getClaim, take_of_length_le long, drop_length, append_nil]

def Rewound (ring : RingBuffer alpha) : Prop :=
  ring.content = [] ∨ ring.offset = 0

theorem Rewound.getClaim_eq_content {ring : RingBuffer alpha}
    (rewound : ring.Rewound) {limit : Nat} (enough : ring.size ≤ limit) :
    ring.getClaim limit = ring.content := by
  have fits := ring.content_le
  rcases rewound with empty | start
  · simp [getClaim, empty]
  · apply take_of_length_le
    omega

end RingBuffer

end SerialModem.Library
