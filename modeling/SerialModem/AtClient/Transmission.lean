import SerialModem.Uart.Transmitter
import SerialModem.Library.TransitionSystem

/-!
# Sending commands

Threads that write take `tx_done_sem` before they start a transmission.
`dtr_uart_enable` enables the transmitter, which gives `tx_done_sem`, and starts
what is left in the ring without taking it.

A thread can be interrupted after it took `tx_done_sem`, after a start that
failed, between the two halves of `tx_disable` and between `tx_enable` and the
start that follows it.  A transmission is never aborted here.
-/

namespace SerialModem.AtClient

open Library Option
open AtHost (Byte ascii)
open Uart (Transmitter TxStart)

structure TxSystem where
  tx : Transmitter
  /-- The threads that have taken `tx_done_sem` and not called `tx_start`. -/
  starting : Nat
  /-- The threads that are to give `tx_done_sem` after a start that failed. -/
  giving : Nat
  /-- The threads in `dtr_uart_enable`, after `tx_enable`. -/
  enabling : Nat
  /-- The threads in `tx_disable` that have cleared the bit. -/
  disabling : Nat

inductive TxAction where
  /-- `ring_buf_put` in `tx_write`. -/
  | write (data : List Byte)
  /-- `k_sem_take` in `tx_write` succeeds. -/
  | takeSem
  /-- `tx_start` in `tx_write`, and whether the driver accepts. -/
  | start (accepts : Bool)
  /-- `k_sem_give` in `tx_write`. -/
  | giveSem
  /-- `tx_enable` in `dtr_uart_enable`. -/
  | enable
  /-- The end of `dtr_uart_enable`. -/
  | enableStart (accepts : Bool)
  /-- `tx_disable` clears the bit. -/
  | disable
  /-- `tx_disable` takes `tx_done_sem`, or does not get it and `uart_tx_abort`
  fails. -/
  | disableTake
  /-- `UART_TX_DONE`, and whether the driver accepts what is started then. -/
  | txDone (accepts : Bool)
  deriving DecidableEq

namespace TxSystem

/-- `tx_start` in `tx_write`. -/
def startTx (accepts : Bool) (system : TxSystem) : TxSystem :=
  let started := system.tx.txStart accepts
  { system with
    tx := started.2
    starting := system.starting - 1
    giving :=
      if started.1 = .started then system.giving else system.giving + 1 }

/-- The end of `dtr_uart_enable`. -/
def startPending (accepts : Bool) (system : TxSystem) : TxSystem :=
  { system with
    tx :=
      if system.tx.txBuf.isEmpty then
        system.tx
      else
        (system.tx.txStart accepts).2
    enabling := system.enabling - 1 }

end TxSystem

/-- `UART_TX_DONE` in `uart_callback`. -/
def txDoneCallback (accepts : Bool) (data : List Byte) (tx : Transmitter) :
    Transmitter :=
  let finished := tx.finish data.length data
  if finished.txBuf.isEmpty then
    finished.give
  else
    let started := finished.txStart accepts
    if started.1 = .started then started.2 else started.2.give

def txStep (action : TxAction) (system : TxSystem) : Option TxSystem :=
  match action with
  | .write data => some { system with tx := system.tx.put data }
  | .takeSem =>
    if system.tx.txDoneSem then
      some { system with
        tx := system.tx.take
        starting := system.starting + 1 }
    else
      none
  | .start accepts =>
    if 0 < system.starting then some (system.startTx accepts) else none
  | .giveSem =>
    if 0 < system.giving then
      some { system with
        tx := system.tx.give
        giving := system.giving - 1 }
    else
      none
  | .enable =>
    some { system with
      tx := system.tx.txEnable
      enabling := system.enabling + 1 }
  | .enableStart accepts =>
    if 0 < system.enabling then
      some (system.startPending accepts)
    else
      none
  | .disable =>
    if system.tx.txEnabled then
      some { system with
        tx := { system.tx with txEnabled := false }
        disabling := system.disabling + 1 }
    else
      none
  | .disableTake =>
    if 0 < system.disabling then
      some { system with
        tx := system.tx.take
        disabling := system.disabling - 1 }
    else
      none
  | .txDone accepts =>
    system.tx.inFlight.map fun data =>
      { system with tx := txDoneCallback accepts data system.tx }

/-- The state after `uart_init`. -/
def freshTx (size : Nat) : TxSystem where
  tx := Transmitter.fresh size
  starting := 0
  giving := 0
  enabling := 0
  disabling := 0

/-- The transmitter is enabled again when no transmission is in flight or being
started, and `dtr_uart_enable` has nothing to start.  What it starts may fail
when nothing is in flight. -/
def NothingToStart (system : TxSystem) (action : TxAction) : Prop :=
  match action with
  | .enable => system.tx.txEnabled = false →
      system.tx.inFlight = none ∧ system.starting = 0 ∧ system.giving = 0
  | .enableStart accepts => system.tx.txBuf.isEmpty = true ∨ system.tx.txEnabled = false ∨
        (accepts = false ∧ system.tx.inFlight = none)
  | _ => True

instance {system : TxSystem} {action : TxAction} : Decidable (NothingToStart system action) :=
  match action with
  | .enable => inferInstanceAs (Decidable (_ → _ ∧ _))
  | .enableStart _ => inferInstanceAs (Decidable (_ ∨ _))
  | .write _ | .takeSem | .start _ | .giveSem | .disable | .disableTake
  | .txDone _ => inferInstanceAs (Decidable True)

/-- Runs in which no transmission is started with nothing to send. -/
abbrev TxReachable (size : Nat) : TxSystem → Prop :=
  Reachable txStep NothingToStart (fun system => system = freshTx size)

/-- Who may use the transmitter: the semaphore when it is free, a thread that
starts it or has failed to, and what is in flight. -/
def TxSystem.users (system : TxSystem) : Nat :=
  system.tx.txDoneSem.toNat + system.starting + system.giving + system.tx.inFlight.isSome.toNat

structure TxSystem.Consistent (system : TxSystem) : Prop where
  sound : system.tx.Sound
  users : system.users ≤ 1

variable {system after : TxSystem} {size : Nat}

theorem consistent_fresh (size : Nat) : (freshTx size).Consistent where
  sound := Transmitter.fresh_sound size
  users := Nat.le_refl 1

variable {data : Option (List Byte)}

theorem isSome_toNat_none (none : data = none) : data.isSome.toNat = 0 := by
  rw [none]
  rfl

theorem isSome_toNat_some (some : ∃ sent, data = some sent) : data.isSome.toNat = 1 := by
  obtain ⟨sent, rfl⟩ := some
  rfl

theorem idle_of_users (few : system.users ≤ 1)
    (used : 0 < system.tx.txDoneSem.toNat + system.starting + system.giving) :
    system.tx.inFlight = none := by
  rw [TxSystem.users] at few
  cases isSent : system.tx.inFlight with
  | none => rfl
  | some data =>
    have one := isSome_toNat_some ⟨data, isSent⟩
    omega

theorem consistent_start (accepts : Bool) (consistent : system.Consistent)
    (isStarting : 0 < system.starting) :
    (system.startTx accepts).Consistent := by
  have few := consistent.users
  have idle := idle_of_users few (by omega)
  refine ⟨consistent.sound.txStart idle accepts, ?_⟩
  rw [TxSystem.users] at few ⊢
  have sameSem := Transmitter.txStart_txDoneSem accepts system.tx
  have before := isSome_toNat_none idle
  simp only [TxSystem.startTx, sameSem]
  rcases Transmitter.txStart_cases accepts system.tx with
    ⟨isStarted, _, _, busy⟩ | ⟨failed, sameFlight⟩
  · rw [if_pos isStarted, isSome_toNat_some busy]
    omega
  · rw [if_neg failed, sameFlight]
    omega

/-- `dtr_uart_enable` does no harm when it has nothing to start. -/
theorem consistent_enableStart (accepts : Bool) (consistent : system.Consistent)
    (nothing : NothingToStart system (.enableStart accepts)) :
    (system.startPending accepts).Consistent := by
  have few := consistent.users
  suffices kept : system.tx.txBuf.isEmpty = false → (system.tx.txStart accepts).2.Sound ∧
        (system.tx.txStart accepts).2.inFlight = system.tx.inFlight by
    have sameSem := Transmitter.txStart_txDoneSem accepts system.tx
    rw [TxSystem.startPending]
    split
    · exact ⟨consistent.sound, few⟩
    · rename_i nonempty
      have ⟨sound, sameFlight⟩ := kept (Bool.eq_false_iff.mpr nonempty)
      refine ⟨sound, ?_⟩
      rw [TxSystem.users] at few ⊢
      simp only [sameSem, sameFlight]
      exact few
  intro nonempty
  rcases nothing with empty | disabled | ⟨refuses, idle⟩
  · rw [empty] at nonempty
    cases nonempty
  · rw [Transmitter.txStart_of_disabled accepts disabled]
    exact ⟨consistent.sound, rfl⟩
  · refine ⟨consistent.sound.txStart idle accepts, ?_⟩
    rcases Transmitter.txStart_cases accepts system.tx with
      ⟨_, isAccepted, _⟩ | ⟨_, sameFlight⟩
    · rw [refuses] at isAccepted
      cases isAccepted
    · exact sameFlight

theorem consistent_txDone (accepts : Bool) {data : List Byte}
    (consistent : system.Consistent) (busy : system.tx.inFlight = some data) :
    TxSystem.Consistent { system with
      tx := txDoneCallback accepts data system.tx } := by
  have few := consistent.users
  have sound := consistent.sound.finish busy (Nat.le_refl _)
  have idle : (system.tx.finish data.length data).inFlight = none := rfl
  rw [TxSystem.users, isSome_toNat_some ⟨data, busy⟩] at few
  rw [txDoneCallback]
  dsimp only
  split
  · refine ⟨sound.give, ?_⟩
    rw [TxSystem.users]
    simp only [Transmitter.give, idle, isSome_none, Bool.toNat_true, Bool.toNat_false]
    omega
  · have started := sound.txStart idle accepts
    have sameSem := Transmitter.txStart_txDoneSem accepts (system.tx.finish data.length data)
    rcases Transmitter.txStart_cases accepts (system.tx.finish data.length data) with
      ⟨isStarted, _, _, busyAgain⟩ | ⟨failed, sameFlight⟩
    · rw [if_pos isStarted]
      refine ⟨started, ?_⟩
      rw [TxSystem.users]
      simp only [sameSem, isSome_toNat_some busyAgain]
      exact few
    · rw [if_neg failed]
      refine ⟨started.give, ?_⟩
      rw [TxSystem.users]
      simp only [Transmitter.give, sameFlight, idle, isSome_none, Bool.toNat_true, Bool.toNat_false]
      omega

theorem consistent_txStep {action : TxAction} (consistent : system.Consistent)
    (nothing : NothingToStart system action)
    (taken : txStep action system = some after) : after.Consistent := by
  have sound := consistent.sound
  have few := consistent.users
  rw [TxSystem.users] at few
  cases action with
  | write data =>
    cases taken
    exact ⟨sound.put data, few⟩
  | takeSem =>
    rw [txStep] at taken
    split at taken
    · rename_i free
      cases taken
      refine ⟨sound.take, ?_⟩
      rw [free] at few
      rw [TxSystem.users]
      simp only [Transmitter.take]
      simp only [Bool.toNat_true, Bool.toNat_false] at few ⊢
      omega
    · cases taken
  | start accepts =>
    rw [txStep] at taken
    split at taken
    · rename_i isStarting
      cases taken
      exact consistent_start accepts consistent isStarting
    · cases taken
  | giveSem =>
    rw [txStep] at taken
    split at taken
    · cases taken
      refine ⟨sound.give, ?_⟩
      rw [TxSystem.users]
      simp only [Transmitter.give, Bool.toNat_true]
      omega
    · cases taken
  | enable =>
    cases taken
    refine ⟨sound.txEnable, ?_⟩
    rw [TxSystem.users, Transmitter.txEnable]
    split
    · exact few
    · rename_i disabled
      obtain ⟨idle, noneStarts, noneGives⟩ :=
        nothing (Bool.eq_false_iff.mpr disabled)
      simp only [idle, noneStarts, noneGives, isSome_none, Bool.toNat_true, Bool.toNat_false]
      omega
  | enableStart accepts =>
    rw [txStep] at taken
    split at taken
    · cases taken
      exact consistent_enableStart accepts consistent nothing
    · cases taken
  | disable =>
    rw [txStep] at taken
    split at taken
    · cases taken
      exact ⟨⟨sound.claimed, sound.oldest, sound.whole⟩, few⟩
    · cases taken
  | disableTake =>
    rw [txStep] at taken
    split at taken
    · cases taken
      refine ⟨sound.take, ?_⟩
      rw [TxSystem.users]
      simp only [Transmitter.take, Bool.toNat_false]
      omega
    · cases taken
  | txDone accepts =>
    rw [txStep, map_eq_some_iff] at taken
    obtain ⟨data, busy, rfl⟩ := taken
    exact consistent_txDone accepts consistent busy

/-- In every run at most one caller uses the transmitter. -/
theorem consistent_of_reachable (reachable : TxReachable size system) : system.Consistent := by
  induction reachable with
  | start isFresh =>
    rw [isFresh]
    exact consistent_fresh size
  | next action _ nothing taken ih => exact consistent_txStep ih nothing taken

/-- In every run in which `dtr_uart_enable` has nothing to start, and the
transmitter is enabled again only when nothing is sent, what was sent and what
is stored is what was written, and `tx_done_sem` is free only when nothing is in
flight. -/
theorem transmission_in_order (reachable : TxReachable size system) :
    system.tx.completed ++ system.tx.txBuf.content = system.tx.written ∧
      (system.tx.txDoneSem = true → system.tx.inFlight = none) := by
  have consistent := consistent_of_reachable reachable
  refine ⟨consistent.sound.whole, fun free => ?_⟩
  apply idle_of_users consistent.users
  rw [free, Bool.toNat_true]
  omega

def commandsAroundPause : List TxAction :=
  [.write (ascii "AT"), .takeSem, .start true, .disable, .txDone true,
    .disableTake, .enable, .enableStart true, .write (ascii "+B"), .takeSem,
    .start true]

theorem commands_in_order : ∃ system, runChecked txStep
        (fun system action => decide (NothingToStart system action))
        commandsAroundPause (freshTx 16) = some system ∧
      system.tx.inFlight = some (ascii "+B") ∧
      system.tx.completed ++ system.tx.txBuf.content = system.tx.written := by
  have evaluated : (runChecked txStep (fun system action => decide (NothingToStart system action))
      commandsAroundPause (freshTx 16)).map (fun system =>
        system.tx.inFlight) = some (some (ascii "+B")) := by
    decide
  obtain ⟨system, ran, busy⟩ := map_eq_some_iff.mp evaluated
  refine ⟨system, ran, busy, ?_⟩
  have inOrder := transmission_in_order (reachable_of_runChecked
    commandsAroundPause (fun before action _ passed => of_decide_eq_true passed)
    (.start rfl) ran)
  exact inOrder.1

/-- What was written while the transmitter was disabled is started by
`dtr_uart_enable`, and the next command starts as well. -/
def commandAfterEnable : List TxAction :=
  [.disable, .disableTake, .write (ascii "AT"), .enable, .enableStart true,
    .write (ascii "+B"), .takeSem, .start true, .giveSem]

theorem started_twice : (∃ system, Reachable txStep (fun _ _ => True)
        (fun system => system = freshTx 16) system ∧
      system.tx.txDoneSem = true ∧ system.tx.inFlight = some (ascii "AT")) ∧
    ∃ system, Reachable txStep (fun _ _ => True) (fun system => system = freshTx 16) system ∧
      system.tx.written = ascii "AT+B" ∧
      system.tx.completed = ascii "ATAT+B" := by
  constructor
  · exact ⟨_, reachable_of_run commandAfterEnable rfl rfl, by decide, by decide⟩
  · exact ⟨_, reachable_of_run (commandAfterEnable ++ [.txDone true, .txDone true]) rfl rfl, by decide, by decide⟩

end SerialModem.AtClient
