import SerialModem.Library.RingBuffer

/-!
# Ring buffers with a claimed part

A reader that claims items leaves them in the ring until it finishes.  Until
then the oldest items are claimed; finishing releases some of them and returns
the claim on the others.

The ring is said to be empty when all of it is claimed.
-/

namespace SerialModem.Library

universe u

/-- A ring whose oldest `claimed` items are claimed. -/
structure ClaimedRing (alpha : Type u) where
  ring : RingBuffer alpha
  claimed : Nat
  claimed_le : claimed ≤ ring.content.length

namespace ClaimedRing

variable {alpha : Type u}

def init (size : Nat) : ClaimedRing alpha where
  ring := RingBuffer.init size
  claimed := 0
  claimed_le := Nat.zero_le _

def content (ring : ClaimedRing alpha) : List alpha :=
  ring.ring.content

/-- Store as many of `items` as fit. -/
def put (ring : ClaimedRing alpha) (items : List alpha) : ClaimedRing alpha where
  ring := ring.ring.put items
  claimed := ring.claimed
  claimed_le := by
    rw [RingBuffer.put_content, List.length_append]
    exact Nat.le_add_right_of_le ring.claimed_le

def isEmpty (ring : ClaimedRing alpha) : Bool :=
  ring.claimed == ring.content.length

/-- How many items a claim of at most `limit` items takes: none past the end of
the array. -/
def claimCount (ring : ClaimedRing alpha) (limit : Nat) : Nat :=
  min (min limit (ring.content.length - ring.claimed))
    (ring.ring.size - (ring.ring.offset + ring.claimed) % ring.ring.size)

def getClaim (ring : ClaimedRing alpha) (limit : Nat) : List alpha :=
  (ring.content.drop ring.claimed).take (ring.claimCount limit)

def afterClaim (ring : ClaimedRing alpha) (limit : Nat) : ClaimedRing alpha where
  ring := ring.ring
  claimed := ring.claimed + ring.claimCount limit
  claimed_le := by
    have within := ring.claimed_le
    have short : ring.claimCount limit ≤
        ring.ring.content.length - ring.claimed :=
      Nat.le_trans (Nat.min_le_left _ _) (Nat.min_le_right _ _)
    omega

/-- Release the `count` oldest items and return the claim on the others.  More
than what is claimed is refused. -/
def getFinish (ring : ClaimedRing alpha) (count : Nat) : ClaimedRing alpha :=
  if count ≤ ring.claimed then
    { ring := ring.ring.getFinish count
      claimed := 0
      claimed_le := Nat.zero_le _ }
  else
    ring

variable (ring : ClaimedRing alpha)

theorem claimed_le_content :
    ring.claimed ≤ ring.content.length :=
  ring.claimed_le

@[simp]
theorem put_claimed (items : List alpha) : (ring.put items).claimed = ring.claimed := rfl

theorem put_content (items : List alpha) : (ring.put items).content =
      ring.content ++ items.take (ring.ring.putCount items) :=
  RingBuffer.put_content ring.ring items

theorem afterClaim_claimed (limit : Nat) : (ring.afterClaim limit).claimed =
      ring.claimed + ring.claimCount limit := rfl

@[simp]
theorem afterClaim_content (limit : Nat) : (ring.afterClaim limit).content = ring.content := rfl

theorem getClaim_of_unclaimed (limit : Nat) (unclaimed : ring.claimed = 0) :
    ring.getClaim limit =
      ring.content.take (ring.afterClaim limit).claimed := by
  rw [getClaim, afterClaim_claimed, unclaimed, List.drop_zero, Nat.zero_add]

theorem getClaim_length (limit : Nat) : (ring.getClaim limit).length = ring.claimCount limit := by
  have short : ring.claimCount limit ≤ ring.content.length - ring.claimed :=
    Nat.le_trans (Nat.min_le_left _ _) (Nat.min_le_right _ _)
  rw [getClaim, List.length_take, List.length_drop, Nat.min_eq_left short]

theorem getFinish_of_le {ring : ClaimedRing alpha} {count : Nat} (within : count ≤ ring.claimed) :
    (ring.getFinish count).content = ring.content.drop count ∧
      (ring.getFinish count).claimed = 0 := by
  rw [getFinish, if_pos within]
  exact ⟨ring.ring.getFinish_content (Nat.le_trans within ring.claimed_le), rfl⟩

end ClaimedRing

end SerialModem.Library
