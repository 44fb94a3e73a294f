import SerialModem.Library.ClaimedRing
import SerialModem.AtHost.Command

/-!
# A transmitter with a semaphore

`sm_uart_handler.c` and `sm_at_client.c` send in the same way.  What is written
is stored in a ring.  `tx_start` claims the oldest of it for the driver, and the
event that answers it releases what was sent.  A binary semaphore is meant to be
free when nothing is being sent.
-/

namespace SerialModem.Uart

open Library List Option
open AtHost (Byte)

structure Transmitter where
  txBuf : ClaimedRing Byte
  txDoneSem : Bool
  /-- The bit for TX in `uart_state`. -/
  txEnabled : Bool
  inFlight : Option (List Byte)
  completed : List Byte
  written : List Byte

inductive TxStart where
  | started
  /-- `-EAGAIN`. -/
  | again
  /-- The error of `uart_tx`. -/
  | failed
  deriving DecidableEq

namespace Transmitter

/-- `ring_buf_put`. -/
def put (data : List Byte) (tx : Transmitter) : Transmitter :=
  { tx with
    txBuf := tx.txBuf.put data
    written := tx.written ++ data.take (tx.txBuf.ring.putCount data) }

/-- `tx_start`.  The driver is busy while it sends, and may fail otherwise. -/
def txStart (accepts : Bool) (tx : Transmitter) : TxStart × Transmitter :=
  if tx.txEnabled then
    let data := tx.txBuf.getClaim tx.txBuf.ring.size
    let claimed := tx.txBuf.afterClaim tx.txBuf.ring.size
    if accepts && tx.inFlight.isNone then
      (.started, { tx with txBuf := claimed, inFlight := some data })
    else
      (.failed, { tx with txBuf := claimed.getFinish 0 })
  else
    (.again, tx)

/-- `k_sem_give(&tx_done_sem)`. -/
def give (tx : Transmitter) : Transmitter :=
  { tx with txDoneSem := true }

/-- `k_sem_take(&tx_done_sem, ..)`, whether or not it succeeds. -/
def take (tx : Transmitter) : Transmitter :=
  { tx with txDoneSem := false }

def txEnable (tx : Transmitter) : Transmitter :=
  if tx.txEnabled then
    tx
  else
    { tx with txEnabled := true, txDoneSem := true }

/-- The driver has sent the first `len` bytes, and the event is answered with
`ring_buf_get_finish`. -/
def finish (len : Nat) (data : List Byte) (tx : Transmitter) : Transmitter :=
  { tx with
    txBuf := tx.txBuf.getFinish len
    inFlight := none
    completed := tx.completed ++ data.take len }

def fresh (size : Nat) : Transmitter where
  txBuf := ClaimedRing.init size
  txDoneSem := true
  txEnabled := true
  inFlight := none
  completed := []
  written := []

structure Sound (tx : Transmitter) : Prop where
  claimed : tx.txBuf.claimed = (tx.inFlight.getD []).length
  oldest : tx.inFlight.getD [] = tx.txBuf.content.take tx.txBuf.claimed
  whole : tx.completed ++ tx.txBuf.content = tx.written

variable {tx : Transmitter} {data : List Byte}

theorem fresh_sound (size : Nat) : (fresh size).Sound where
  claimed := rfl
  oldest := rfl
  whole := rfl

theorem Sound.put (sound : tx.Sound) (data : List Byte) : (tx.put data).Sound where
  claimed := sound.claimed
  oldest := by
    rw [Transmitter.put]
    simp only [ClaimedRing.put_content, ClaimedRing.put_claimed]
    rw [take_append_of_le_length tx.txBuf.claimed_le_content]
    exact sound.oldest
  whole := by
    rw [Transmitter.put]
    simp only [ClaimedRing.put_content]
    rw [← append_assoc, sound.whole]

theorem Sound.give (sound : tx.Sound) : tx.give.Sound :=
  ⟨sound.claimed, sound.oldest, sound.whole⟩

theorem Sound.take (sound : tx.Sound) : tx.take.Sound :=
  ⟨sound.claimed, sound.oldest, sound.whole⟩

theorem Sound.txEnable (sound : tx.Sound) : tx.txEnable.Sound := by
  rw [Transmitter.txEnable]
  split
  · exact sound
  · exact ⟨sound.claimed, sound.oldest, sound.whole⟩

theorem Sound.unclaimed (sound : tx.Sound) (idle : tx.inFlight = none) : tx.txBuf.claimed = 0 := by
  rw [sound.claimed, idle]
  rfl

variable (accepts : Bool)

@[simp]
theorem txStart_txDoneSem (tx : Transmitter) : (tx.txStart accepts).2.txDoneSem = tx.txDoneSem := by
  rw [Transmitter.txStart]
  split
  · dsimp only
    split <;> rfl
  · rfl

@[simp]
theorem txStart_txEnabled (tx : Transmitter) : (tx.txStart accepts).2.txEnabled = tx.txEnabled := by
  rw [Transmitter.txStart]
  split
  · dsimp only
    split <;> rfl
  · rfl

theorem txStart_cases (tx : Transmitter) :
    ((tx.txStart accepts).1 = .started ∧ accepts = true ∧ tx.inFlight = none ∧
        ∃ data, (tx.txStart accepts).2.inFlight = some data) ∨
      ((tx.txStart accepts).1 ≠ .started ∧ (tx.txStart accepts).2.inFlight = tx.inFlight) := by
  rw [Transmitter.txStart]
  split
  · dsimp only
    split
    · rename_i accepted
      rw [Bool.and_eq_true, isNone_iff_eq_none] at accepted
      exact .inl ⟨rfl, accepted.1, accepted.2, _, rfl⟩
    · exact .inr ⟨by simp, rfl⟩
  · exact .inr ⟨by simp, rfl⟩

theorem refused_of_failed {accepts : Bool} {tx : Transmitter}
    (idle : tx.inFlight = none) (failed : (tx.txStart accepts).1 = .failed) :
    tx.txEnabled = true ∧ accepts = false := by
  rw [Transmitter.txStart] at failed
  split at failed
  · rename_i enabled
    refine ⟨enabled, ?_⟩
    cases accepts with
    | false => rfl
    | true =>
      rw [idle] at failed
      cases failed
  · cases failed

theorem disabled_of_again {accepts : Bool} {tx : Transmitter}
    (again : (tx.txStart accepts).1 = .again) : tx.txEnabled = false := by
  rw [Transmitter.txStart] at again
  split at again
  · dsimp only at again
    split at again <;> cases again
  · rename_i disabled
    exact Bool.eq_false_iff.mpr disabled

@[simp]
theorem txStart_written (tx : Transmitter) : (tx.txStart accepts).2.written = tx.written := by
  rw [Transmitter.txStart]
  split
  · dsimp only
    split <;> rfl
  · rfl

theorem txStart_of_disabled {tx : Transmitter}
    (disabled : tx.txEnabled = false) : tx.txStart accepts = (.again, tx) := by
  rw [Transmitter.txStart, if_neg]
  rw [disabled]
  exact Bool.false_ne_true

theorem Sound.txStart (sound : tx.Sound) (idle : tx.inFlight = none)
    (accepts : Bool) : (tx.txStart accepts).2.Sound := by
  have unclaimed := sound.unclaimed idle
  rw [Transmitter.txStart]
  split
  · dsimp only
    split
    · exact {
        claimed := by
          simp only [getD_some, ClaimedRing.getClaim_length,
            ClaimedRing.afterClaim, unclaimed, Nat.zero_add]
        oldest := by
          simp only [getD_some, ClaimedRing.getClaim_of_unclaimed _ _ unclaimed,
            ClaimedRing.afterClaim_content]
        whole := sound.whole }
    · obtain ⟨sameContent, noClaim⟩ := ClaimedRing.getFinish_of_le
        (Nat.zero_le (tx.txBuf.afterClaim tx.txBuf.ring.size).claimed)
      exact {
        claimed := by
          simp only [noClaim, idle]
          rfl
        oldest := by
          simp only [noClaim, idle]
          rfl
        whole := by
          simp only [sameContent]
          exact sound.whole }
  · exact sound

theorem Sound.finish (sound : tx.Sound) (busy : tx.inFlight = some data)
    {len : Nat} (within : len ≤ data.length) : (tx.finish len data).Sound := by
  have claimed := sound.claimed
  have oldest := sound.oldest
  rw [busy, getD_some] at claimed oldest
  obtain ⟨released, noClaim⟩ :=
    ClaimedRing.getFinish_of_le (Nat.le_trans within (Nat.le_of_eq claimed.symm))
  exact {
    claimed := by
      simp only [Transmitter.finish, noClaim]
      rfl
    oldest := by
      simp only [Transmitter.finish, noClaim]
      rfl
    whole := by
      simp only [Transmitter.finish, released]
      rw [oldest, take_take, claimed, Nat.min_eq_left within, append_assoc, take_append_drop]
      exact sound.whole }

end Transmitter

end SerialModem.Uart
