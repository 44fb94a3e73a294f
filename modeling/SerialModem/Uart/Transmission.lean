import Mathlib.Algebra.GroupWithZero.Nat
import SerialModem.Uart.Transmitter
import SerialModem.Library.TransitionSystem

/-!
# Sending over the UART pipe

Any number of threads may be in `pipe_transmit`, `pipe_open` and `pipe_close`.
They can be interrupted between two accesses to what they share: after each
`ring_buf_put`, after `tx_done_sem` was taken, after a start that failed, and
before `tx_enable` and the wait in `tx_disable`.
-/

namespace SerialModem.Uart

open Library List Option
open AtHost (Byte ascii)

/-! ## A call of `pipe_transmit` -/

inductive TransmitPc where
  | storing (rest : List Byte)
  /-- Before `k_sem_take`. -/
  | stored
  /-- Before `tx_start`. -/
  | starting
  /-- Before `k_sem_give`, after `-EAGAIN` or after another error. -/
  | giving (error : Bool)
  /-- `none` is an error. -/
  | returned (result : Option Nat)
  deriving DecidableEq

structure TransmitCall where
  pc : TransmitPc
  sent : Nat
  deriving DecidableEq

/-- What a call of `pipe_transmit` does next. -/
inductive CallAction where
  | store
  | takeSem
  /-- `tx_start`, and whether the driver accepts. -/
  | start (accepts : Bool)
  | giveSem
  deriving DecidableEq

def TransmitCall.store (rest : List Byte) (call : TransmitCall)
    (tx : Transmitter) : TransmitCall × Transmitter :=
  let ret := tx.txBuf.ring.putCount rest
  ({ pc :=
      if ret = 0 ∨ ret = rest.length then .stored else .storing (rest.drop ret)
     sent := call.sent + ret }, tx.put rest)

/-- `k_sem_take(&tx_done_sem, K_NO_WAIT)`. -/
def TransmitCall.takeSem (call : TransmitCall) (tx : Transmitter) : TransmitCall × Transmitter :=
  if tx.txDoneSem then
    ({ call with pc := .starting }, tx.take)
  else
    ({ call with pc := .returned (some call.sent) }, tx)

def TransmitCall.start (accepts : Bool) (call : TransmitCall)
    (tx : Transmitter) : TransmitCall × Transmitter :=
  let started := tx.txStart accepts
  match started.1 with
  | .started => ({ call with pc := .returned (some call.sent) }, started.2)
  | .again => ({ call with pc := .giving false }, started.2)
  | .failed => ({ call with pc := .giving true }, started.2)

def TransmitCall.giveSem (error : Bool) (call : TransmitCall)
    (tx : Transmitter) : TransmitCall × Transmitter :=
  ({ call with pc := .returned (if error then none else some call.sent) }, tx.give)

def callStep (action : CallAction) (call : TransmitCall) (tx : Transmitter) :
    Option (TransmitCall × Transmitter) :=
  match action, call.pc with
  | .store, .storing rest => some (call.store rest tx)
  | .takeSem, .stored => some (call.takeSem tx)
  | .start accepts, .starting => some (call.start accepts tx)
  | .giveSem, .giving error => some (call.giveSem error tx)
  | _, _ => none

/-! ## The handler -/

structure UartSystem where
  tx : Transmitter
  /-- `SM_PIPE_STATE_OPEN_BIT`. -/
  isOpen : Bool
  /-- All calls of `pipe_transmit`. -/
  calls : List TransmitCall
  /-- The threads in `pipe_open`, before `tx_enable`. -/
  opening : Nat
  /-- The threads in `tx_disable` that have cleared the bit. -/
  disabling : Nat
  aborting : Bool

inductive UartAction where
  /-- `pipe_transmit` is called. -/
  | transmit (data : List Byte)
  | call (index : Nat) (action : CallAction)
  | pipeOpen
  /-- `rx_enable` in `pipe_open` fails. -/
  | openFails
  /-- `tx_enable` in `pipe_open`. -/
  | openEnable
  | pipeClose
  /-- `tx_disable` clears the bit. -/
  | disable
  /-- `tx_disable` takes `tx_done_sem`. -/
  | disableTake
  /-- `tx_disable` waited in vain, and calls `uart_tx_abort`. -/
  | disableAbort (accepts : Bool)
  /-- `UART_TX_DONE`, and whether the driver accepts what is started then. -/
  | txDone (accepts : Bool)
  /-- `UART_TX_ABORTED` after the first `len` bytes. -/
  | txAborted (len : Nat) (accepts : Bool)
  deriving DecidableEq

/-- `UART_TX_DONE` and `UART_TX_ABORTED` in `uart_callback`. -/
def txCallback (aborted : Bool) (len : Nat) (accepts : Bool)
    (data : List Byte) (tx : Transmitter) : Transmitter :=
  let finished := tx.finish len data
  if finished.txBuf.isEmpty || (aborted && !finished.txEnabled) then
    finished.give
  else
    (finished.txStart accepts).2

/-- The call that `pipe_transmit` starts with: an error when the pipe is not
open or there is nothing to send. -/
def transmitCall (isOpen : Bool) (data : List Byte) : TransmitCall where
  pc := if isOpen && !data.isEmpty then .storing data else .returned none
  sent := 0

def uartStep (action : UartAction) (system : UartSystem) : Option UartSystem :=
  match action with
  | .transmit data =>
    some { system with
      calls := system.calls ++ [transmitCall system.isOpen data] }
  | .call index action =>
    system.calls[index]?.bind fun call =>
      (callStep action call system.tx).map fun result =>
        { system with
          calls := system.calls.set index result.1
          tx := result.2 }
  | .pipeOpen =>
    if system.isOpen then
      none
    else
      some { system with isOpen := true, opening := system.opening + 1 }
  | .openFails =>
    if 0 < system.opening then
      some { system with opening := system.opening - 1 }
    else
      none
  | .openEnable =>
    if 0 < system.opening then
      some { system with
        tx := system.tx.txEnable
        opening := system.opening - 1 }
    else
      none
  | .pipeClose =>
    if system.isOpen then some { system with isOpen := false } else none
  | .disable =>
    if system.tx.txEnabled then
      some { system with
        tx := { system.tx with txEnabled := false }
        disabling := system.disabling + 1 }
    else
      none
  | .disableTake =>
    if 0 < system.disabling ∧ system.tx.txDoneSem = true then
      some { system with
        tx := system.tx.take
        disabling := system.disabling - 1 }
    else
      none
  | .disableAbort accepts =>
    if 0 < system.disabling ∧ system.tx.txDoneSem = false then
      some { system with
        disabling := system.disabling - 1
        aborting :=
          system.aborting || (accepts && system.tx.inFlight.isSome) }
    else
      none
  | .txDone accepts =>
    system.tx.inFlight.map fun data =>
      { system with
        tx := txCallback false data.length accepts data system.tx
        aborting := false }
  | .txAborted len accepts =>
    system.tx.inFlight.bind fun data =>
      if system.aborting = true ∧ len ≤ data.length then
        some { system with
          tx := txCallback true len accepts data system.tx
          aborting := false }
      else
        none

/-- The state after `sm_uart_handler_enable`. -/
def freshUart (size : Nat) : UartSystem where
  tx := { Transmitter.fresh size with txDoneSem := false, txEnabled := false }
  isOpen := false
  calls := []
  opening := 0
  disabling := 0
  aborting := false

/-! ## Runs in which starts are accepted -/

/-- The call has taken `tx_done_sem`. -/
def TransmitCall.holds (call : TransmitCall) : Bool :=
  match call.pc with
  | .starting | .giving _ => true
  | _ => false

structure TransmitCall.Honest (call : TransmitCall) : Prop where
  reported : ∀ result, call.pc = .returned result → call.sent = result.getD 0
  refused : call.pc = .giving true → call.sent = 0

def CallAction.Accepted (action : CallAction) (call : TransmitCall) (tx : Transmitter) : Prop :=
  match action with
  | .start accepts => tx.txEnabled = true → call.sent ≠ 0 → accepts = true
  | _ => True

/-- The driver accepts what is started, and `pipe_open` enables the transmitter
when nothing is in flight and no thread holds `tx_done_sem` or waits for it in
`tx_disable`. -/
def StartsAccepted (system : UartSystem) (action : UartAction) : Prop :=
  match action with
  | .call index action =>
    ∀ call ∈ system.calls[index]?, action.Accepted call system.tx
  | .openEnable => system.tx.txEnabled = false → system.tx.inFlight = none ∧ system.disabling = 0 ∧
        ∀ call ∈ system.calls, call.holds = false
  | .txDone accepts => system.tx.txEnabled = true → accepts = true
  | .txAborted _ accepts => system.tx.txEnabled = true → accepts = true
  | _ => True

instance {action : CallAction} {call : TransmitCall} {tx : Transmitter} :
    Decidable (action.Accepted call tx) :=
  match action with
  | .start _ => inferInstanceAs (Decidable (_ → _ → _))
  | .store | .takeSem | .giveSem => inferInstanceAs (Decidable True)

instance {system : UartSystem} {action : UartAction} : Decidable (StartsAccepted system action) :=
  match action with
  | .call _ _ => inferInstanceAs (Decidable (∀ call ∈ _, _))
  | .openEnable => inferInstanceAs (Decidable (_ → _ ∧ _))
  | .txDone _ => inferInstanceAs (Decidable (_ → _))
  | .txAborted _ _ => inferInstanceAs (Decidable (_ → _))
  | .transmit _ | .pipeOpen | .openFails | .pipeClose | .disable | .disableTake
  | .disableAbort _ => inferInstanceAs (Decidable True)

abbrev UartReachable (size : Nat) : UartSystem → Prop :=
  Reachable uartStep StartsAccepted (fun system => system = freshUart size)

/-! ## Who uses the transmitter -/

def Transmitter.users (tx : Transmitter) : Nat :=
  tx.txDoneSem.toNat + tx.inFlight.isSome.toNat

def holders (calls : List TransmitCall) : Nat :=
  (calls.map fun call => call.holds.toNat).sum

/-- The bytes that the calls have reported as sent. -/
def appended (calls : List TransmitCall) : Nat :=
  (calls.map fun call => call.sent).sum

structure UartSystem.Consistent (system : UartSystem) : Prop where
  sound : system.tx.Sound
  users : system.tx.users + holders system.calls ≤ 1
  someone : system.tx.txEnabled = true → system.tx.users + holders system.calls = 1
  disabled : 0 < system.disabling → system.tx.txEnabled = false
  honest : ∀ call ∈ system.calls, call.Honest
  total : system.tx.written.length = appended system.calls

variable {system after : UartSystem} {size : Nat} {call : TransmitCall} {tx : Transmitter}

variable {index : Nat}

theorem sum_map_set {Item : Type*} (value : Item → Nat) {items : List Item}
    {item : Item} (found : items[index]? = some item) (other : Item) :
    ((items.set index other).map value).sum + value item = (items.map value).sum + value other := by
  induction items generalizing index with
  | nil => cases found
  | cons first items ih =>
    cases index with
    | zero =>
      rw [getElem?_cons_zero] at found
      cases found
      simp only [set_cons_zero, map_cons, sum_cons]
      omega
    | succ index =>
      rw [getElem?_cons_succ] at found
      have rest := ih found
      simp only [set_cons_succ, map_cons, sum_cons]
      omega

variable {calls : List TransmitCall}

theorem holders_eq_zero (none : ∀ call ∈ calls, call.holds = false) : holders calls = 0 := by
  induction calls with
  | nil => rfl
  | cons call calls ih =>
    have rest := ih fun other member =>
      none other (mem_cons_of_mem _ member)
    rw [holders] at rest
    rw [holders, map_cons, sum_cons, rest, none call mem_cons_self]
    rfl

theorem exists_holder (held : holders calls ≠ 0) : ∃ call ∈ calls, call.holds = true := by
  by_contra none
  apply held
  apply holders_eq_zero
  intro call member
  rw [← Bool.not_eq_true]
  exact fun holds => none ⟨call, member, holds⟩

/-! ## What a call keeps -/

structure CallKeeps (call after : TransmitCall) (tx txAfter : Transmitter) :
    Prop where
  sound : txAfter.Sound
  users : txAfter.users + after.holds.toNat = tx.users + call.holds.toNat
  sameEnabled : txAfter.txEnabled = tx.txEnabled
  honest : after.Honest
  total : txAfter.written.length + call.sent = tx.written.length + after.sent

theorem put_written_length (data : List Byte) (tx : Transmitter) :
    (tx.put data).written.length = tx.written.length + tx.txBuf.ring.putCount data := by
  rw [Transmitter.put, length_append, length_take]
  have within : tx.txBuf.ring.putCount data ≤ data.length :=
    Nat.min_le_left _ _
  omega

theorem store_pc (rest : List Byte) (call : TransmitCall) (tx : Transmitter) :
    (call.store rest tx).1.pc = .stored ∨ ∃ left, (call.store rest tx).1.pc = .storing left := by
  rw [TransmitCall.store]
  dsimp only
  split
  · exact .inl rfl
  · exact .inr ⟨_, rfl⟩

theorem callKeeps_store {rest : List Byte} (isStoring : call.pc = .storing rest)
    (sound : tx.Sound) :
    CallKeeps call (call.store rest tx).1 tx (call.store rest tx).2 := by
  have noHold : call.holds = false := by
    rw [TransmitCall.holds, isStoring]
  have noHoldAfter : (call.store rest tx).1.holds = false := by
    rw [TransmitCall.holds]
    rcases store_pc rest call tx with stored | ⟨left, storing⟩
    · rw [stored]
    · rw [storing]
  exact {
    sound := sound.put rest
    users := by
      rw [noHold, noHoldAfter]
      rfl
    sameEnabled := rfl
    honest := by
      rcases store_pc rest call tx with stored | ⟨left, storing⟩
      · exact ⟨by simp [stored], by simp [stored]⟩
      · exact ⟨by simp [storing], by simp [storing]⟩
    total := by
      rw [TransmitCall.store]
      dsimp only
      rw [put_written_length]
      omega }

theorem callKeeps_takeSem (isStored : call.pc = .stored) (sound : tx.Sound) :
    CallKeeps call (call.takeSem tx).1 tx (call.takeSem tx).2 := by
  have noHold : call.holds = false := by
    rw [TransmitCall.holds, isStored]
  rw [TransmitCall.takeSem]
  split
  · rename_i free
    exact {
      sound := sound.take
      users := by
        rw [noHold, Transmitter.users, Transmitter.users, free]
        simp [Transmitter.take, TransmitCall.holds]
        omega
      sameEnabled := rfl
      honest := ⟨nofun, nofun⟩
      total := rfl }
  · exact {
      sound := sound
      users := by
        rw [noHold]
        rfl
      sameEnabled := rfl
      honest := ⟨by rintro result ⟨⟩; rfl, nofun⟩
      total := rfl }

theorem Transmitter.idle_of_users (unused : tx.users = 0) :
    tx.inFlight = none ∧ tx.txDoneSem = false := by
  rw [Transmitter.users] at unused
  constructor
  · cases isSent : tx.inFlight with
    | none => rfl
    | some data =>
      rw [isSent] at unused
      simp at unused
  · cases isFree : tx.txDoneSem with
    | false => rfl
    | true =>
      rw [isFree] at unused
      simp at unused

variable {accepts : Bool}

theorem txStart_users_of_started (started : (tx.txStart accepts).1 = .started) :
    (tx.txStart accepts).2.users = tx.users + 1 := by
  rcases Transmitter.txStart_cases accepts tx with
    ⟨_, _, idle, data, busy⟩ | ⟨failed, _⟩
  · rw [Transmitter.users, Transmitter.users, busy, idle, Transmitter.txStart_txDoneSem]
    rfl
  · exact absurd started failed

theorem txStart_users_of_not_started (notStarted : (tx.txStart accepts).1 ≠ .started) :
    (tx.txStart accepts).2.users = tx.users := by
  rcases Transmitter.txStart_cases accepts tx with
    ⟨started, _⟩ | ⟨_, sameFlight⟩
  · exact absurd started notStarted
  · rw [Transmitter.users, Transmitter.users, sameFlight, Transmitter.txStart_txDoneSem]

theorem callKeeps_start (isStarting : call.pc = .starting) (sound : tx.Sound)
    (few : tx.users + call.holds.toNat ≤ 1)
    (accepted : (CallAction.start accepts).Accepted call tx) :
    CallKeeps call (call.start accepts tx).1 tx (call.start accepts tx).2 := by
  have held : call.holds = true := by
    rw [TransmitCall.holds, isStarting]
  rw [held, Bool.toNat_true] at few
  have unused : tx.users = 0 := by omega
  have idle := (Transmitter.idle_of_users unused).1
  have started := sound.txStart idle accepts
  have sameEnabled := Transmitter.txStart_txEnabled accepts tx
  have sameWritten := Transmitter.txStart_written accepts tx
  cases outcome : (tx.txStart accepts).1 with
  | started =>
    simp only [TransmitCall.start, outcome]
    exact {
      sound := started
      users := by
        rw [txStart_users_of_started outcome, held]
        rfl
      sameEnabled := sameEnabled
      honest := ⟨by rintro result ⟨⟩; rfl, nofun⟩
      total := by rw [sameWritten] }
  | again =>
    have sameUsers := txStart_users_of_not_started (by rw [outcome]; exact nofun)
    simp only [TransmitCall.start, outcome]
    exact {
      sound := started
      users := by
        rw [sameUsers, held]
        rfl
      sameEnabled := sameEnabled
      honest := ⟨nofun, nofun⟩
      total := by rw [sameWritten] }
  | failed =>
    have sameUsers := txStart_users_of_not_started (by rw [outcome]; exact nofun)
    obtain ⟨enabled, isRefused⟩ :=
      Transmitter.refused_of_failed idle outcome
    have nothingSent : call.sent = 0 := by
      by_contra something
      have isAccepted := accepted enabled something
      rw [isRefused] at isAccepted
      cases isAccepted
    simp only [TransmitCall.start, outcome]
    exact {
      sound := started
      users := by
        rw [sameUsers, held]
        rfl
      sameEnabled := sameEnabled
      honest := ⟨nofun, fun _ => nothingSent⟩
      total := by rw [sameWritten] }

theorem callKeeps_giveSem {error : Bool} (isGiving : call.pc = .giving error)
    (sound : tx.Sound) (few : tx.users + call.holds.toNat ≤ 1)
    (honest : call.Honest) :
    CallKeeps call (call.giveSem error tx).1 tx (call.giveSem error tx).2 := by
  have held : call.holds = true := by
    rw [TransmitCall.holds, isGiving]
  rw [held, Bool.toNat_true] at few
  have unused : tx.users = 0 := by omega
  obtain ⟨idle, notFree⟩ := Transmitter.idle_of_users unused
  exact {
    sound := sound.give
    users := by
      rw [unused, held, Transmitter.users]
      simp only [TransmitCall.giveSem, Transmitter.give, idle, TransmitCall.holds]
      rfl
    sameEnabled := rfl
    honest := by
      refine ⟨?_, nofun⟩
      rintro result ⟨⟩
      cases error with
      | false => rfl
      | true => exact honest.refused isGiving
    total := rfl }

variable {result : TransmitCall × Transmitter}

theorem callKeeps_of_step {action : CallAction}
    (taken : callStep action call tx = some result) (sound : tx.Sound)
    (few : tx.users + call.holds.toNat ≤ 1) (honest : call.Honest)
    (accepted : action.Accepted call tx) :
    CallKeeps call result.1 tx result.2 := by
  unfold callStep at taken
  split at taken
  · rename_i rest isStoring
    cases taken
    exact callKeeps_store isStoring sound
  · rename_i isStored
    cases taken
    exact callKeeps_takeSem isStored sound
  · rename_i accepts isStarting
    cases taken
    exact callKeeps_start isStarting sound few accepted
  · rename_i error isGiving
    cases taken
    exact callKeeps_giveSem isGiving sound few honest
  · cases taken

/-! ## What the handler keeps -/

theorem consistent_fresh (size : Nat) : (freshUart size).Consistent where
  sound := ⟨rfl, rfl, rfl⟩
  users := Nat.zero_le _
  someone := nofun
  disabled := nofun
  honest := nofun
  total := rfl

theorem honest_set (honest : ∀ call ∈ calls, call.Honest) (isHonest : call.Honest) :
    ∀ other ∈ calls.set index call, other.Honest := by
  intro other member
  rcases mem_or_eq_of_mem_set member with isOld | rfl
  · exact honest other isOld
  · exact isHonest

theorem holds_le_holders (found : calls[index]? = some call) :
    call.holds.toNat ≤ holders calls := by
  have without := sum_map_set (fun call => call.holds.toNat) found { call with pc := .stored }
  rw [holders]
  simp only [TransmitCall.holds, Bool.toNat_false] at without ⊢
  omega

theorem consistent_call {action : CallAction} (consistent : system.Consistent)
    (accepted : StartsAccepted system (.call index action))
    (found : system.calls[index]? = some call)
    (taken : callStep action call system.tx = some result) :
    UartSystem.Consistent { system with
      calls := system.calls.set index result.1
      tx := result.2 } := by
  have few := consistent.users
  have one := consistent.someone
  have within := holds_le_holders found
  have member := mem_of_getElem? found
  have keeps := callKeeps_of_step taken consistent.sound (by omega)
    (consistent.honest call member) (accepted call found)
  have sameUsers := keeps.users
  have sameHolders :=
    sum_map_set (fun call => call.holds.toNat) found result.1
  have sameTotal := sum_map_set (fun call => call.sent) found result.1
  have total := consistent.total
  have grows := keeps.total
  rw [← holders, ← holders] at sameHolders
  rw [← appended, ← appended] at sameTotal
  exact {
    sound := keeps.sound
    users := by
      dsimp only
      omega
    someone := by
      dsimp only
      intro enabled
      rw [keeps.sameEnabled] at enabled
      have oneUser := one enabled
      omega
    disabled := by
      dsimp only
      rw [keeps.sameEnabled]
      exact consistent.disabled
    honest := honest_set consistent.honest keeps.honest
    total := by
      dsimp only
      omega }

theorem txCallback_written (aborted : Bool) (len : Nat) (accepts : Bool)
    (data : List Byte) (tx : Transmitter) :
    (txCallback aborted len accepts data tx).written = tx.written := by
  rw [txCallback]
  split
  · rfl
  · exact Transmitter.txStart_written _ _

theorem txCallback_txEnabled (aborted : Bool) (len : Nat) (accepts : Bool)
    (data : List Byte) (tx : Transmitter) :
    (txCallback aborted len accepts data tx).txEnabled = tx.txEnabled := by
  rw [txCallback]
  split
  · rfl
  · exact Transmitter.txStart_txEnabled _ _

/-- What was in flight is answered: `tx_done_sem` is free then, or what is left
is in flight.  Only of a transmitter that is disabled neither may be. -/
theorem txCallback_keeps (aborted : Bool) {len : Nat} {data : List Byte}
    (sound : tx.Sound) (few : tx.users ≤ 1) (busy : tx.inFlight = some data)
    (within : len ≤ data.length)
    (accepted : tx.txEnabled = true → accepts = true) :
    (txCallback aborted len accepts data tx).Sound ∧
      (txCallback aborted len accepts data tx).users ≤ 1 ∧
      (tx.txEnabled = true → (txCallback aborted len accepts data tx).users = 1) := by
  have finished := sound.finish busy within
  have idle : (tx.finish len data).inFlight = none := rfl
  have notFree : tx.txDoneSem = false := by
    rw [Transmitter.users, busy] at few
    cases isFree : tx.txDoneSem with
    | false => rfl
    | true =>
      rw [isFree] at few
      simp at few
  have unused : (tx.finish len data).users = 0 := by
    rw [Transmitter.users, idle]
    simp only [Transmitter.finish, notFree]
    rfl
  rw [txCallback]
  split
  · have one : (tx.finish len data).give.users = 1 := by
      rw [Transmitter.users]
      simp only [Transmitter.give, idle]
      rfl
    exact ⟨finished.give, Nat.le_of_eq one, fun _ => one⟩
  · refine ⟨finished.txStart idle accepts, ?_⟩
    cases outcome : ((tx.finish len data).txStart accepts).1 with
    | started =>
      rw [txStart_users_of_started outcome, unused]
      exact ⟨Nat.le_refl _, fun _ => rfl⟩
    | again =>
      have isDisabled : (tx.finish len data).txEnabled = false :=
        Transmitter.disabled_of_again outcome
      rw [txStart_users_of_not_started (by rw [outcome]; decide), unused]
      refine ⟨Nat.zero_le _, fun enabled => ?_⟩
      rw [show tx.txEnabled = false from isDisabled] at enabled
      cases enabled
    | failed =>
      obtain ⟨enabled, isRefused⟩ :=
        Transmitter.refused_of_failed idle outcome
      have isAccepted := accepted enabled
      rw [isRefused] at isAccepted
      cases isAccepted

/-- An event of the driver, as `uart_callback` answers it. -/
theorem consistent_txCallback {aborted : Bool} {len : Nat} {data : List Byte}
    (consistent : system.Consistent) (busy : system.tx.inFlight = some data)
    (within : len ≤ data.length)
    (accepted : system.tx.txEnabled = true → accepts = true) :
    UartSystem.Consistent { system with
      tx := txCallback aborted len accepts data system.tx
      aborting := false } := by
  have few := consistent.users
  have busyUsers : 1 ≤ system.tx.users := by
    rw [Transmitter.users, busy]
    exact Nat.le_add_left _ _
  obtain ⟨sound, atMostOne, one⟩ := txCallback_keeps aborted consistent.sound
    (by omega) busy within accepted
  have sameEnabled := txCallback_txEnabled aborted len accepts data system.tx
  exact {
    sound := sound
    users := by
      dsimp only
      omega
    someone := by
      dsimp only
      rw [sameEnabled]
      intro enabled
      have isOne := one enabled
      omega
    disabled := by
      dsimp only
      rw [sameEnabled]
      exact consistent.disabled
    honest := consistent.honest
    total := by
      dsimp only
      rw [txCallback_written]
      exact consistent.total }

theorem transmitCall_pc (isOpen : Bool) (data : List Byte) :
    (transmitCall isOpen data).pc = .storing data ∨
      (transmitCall isOpen data).pc = .returned none := by
  rw [transmitCall]
  dsimp only
  split
  · exact .inl rfl
  · exact .inr rfl

theorem consistent_transmit (data : List Byte) (consistent : system.Consistent) :
    UartSystem.Consistent { system with
      calls := system.calls ++ [transmitCall system.isOpen data] } := by
  have noHold : (transmitCall system.isOpen data).holds = false := by
    rw [TransmitCall.holds]
    rcases transmitCall_pc system.isOpen data with storing | returned
    · rw [storing]
    · rw [returned]
  have sameHolders : holders (system.calls ++ [transmitCall system.isOpen data]) =
        holders system.calls := by
    rw [holders, map_append, sum_append, map_singleton, noHold]
    rfl
  have sameTotal : appended (system.calls ++ [transmitCall system.isOpen data]) =
        appended system.calls := by
    rw [appended, map_append, sum_append]
    rfl
  have isHonest : (transmitCall system.isOpen data).Honest := by
    rw [transmitCall]
    split
    · exact ⟨nofun, nofun⟩
    · exact ⟨by rintro result ⟨⟩; rfl, nofun⟩
  exact {
    sound := consistent.sound
    users := by
      dsimp only
      rw [sameHolders]
      exact consistent.users
    someone := by
      dsimp only
      rw [sameHolders]
      exact consistent.someone
    disabled := consistent.disabled
    honest := by
      intro call member
      rcases mem_append.mp member with isOld | isNew
      · exact consistent.honest call isOld
      · rw [mem_singleton.mp isNew]
        exact isHonest
    total := by
      dsimp only
      rw [sameTotal]
      exact consistent.total }

theorem consistent_openEnable (consistent : system.Consistent)
    (accepted : StartsAccepted system .openEnable) :
    UartSystem.Consistent { system with
      tx := system.tx.txEnable
      opening := system.opening - 1 } := by
  rw [Transmitter.txEnable]
  split
  · exact ⟨consistent.sound, consistent.users, consistent.someone,
      consistent.disabled, consistent.honest, consistent.total⟩
  · rename_i disabled
    obtain ⟨idle, noneWaits, noneHolds⟩ :=
      accepted (Bool.eq_false_iff.mpr disabled)
    have sound := consistent.sound
    have one : Transmitter.users { system.tx with
        txEnabled := true
        txDoneSem := true } + holders system.calls = 1 := by
      rw [holders_eq_zero noneHolds, Transmitter.users]
      simp only [idle]
      rfl
    exact {
      sound := ⟨sound.claimed, sound.oldest, sound.whole⟩
      users := Nat.le_of_eq one
      someone := fun _ => one
      disabled := by
        dsimp only
        intro someWait
        rw [noneWaits] at someWait
        exact absurd someWait (Nat.lt_irrefl 0)
      honest := consistent.honest
      total := consistent.total }

theorem consistent_disableTake (consistent : system.Consistent) (waits : 0 < system.disabling) :
    UartSystem.Consistent { system with
      tx := system.tx.take
      disabling := system.disabling - 1 } := by
  have isDisabled := consistent.disabled waits
  have few := consistent.users
  exact {
    sound := consistent.sound.take
    users := by
      rw [Transmitter.users] at few ⊢
      simp only [Transmitter.take, Bool.toNat_false]
      omega
    someone := by
      intro enabled
      rw [show system.tx.take.txEnabled = false from isDisabled] at enabled
      cases enabled
    disabled := fun _ => isDisabled
    honest := consistent.honest
    total := consistent.total }

theorem consistent_step {action : UartAction} (consistent : system.Consistent)
    (accepted : StartsAccepted system action)
    (taken : uartStep action system = some after) : after.Consistent := by
  have sound := consistent.sound
  cases action with
  | transmit data =>
    cases taken
    exact consistent_transmit data consistent
  | call index action =>
    rw [uartStep, bind_eq_some_iff] at taken
    obtain ⟨call, found, taken⟩ := taken
    obtain ⟨result, isStep, rfl⟩ := map_eq_some_iff.mp taken
    exact consistent_call consistent accepted found isStep
  | pipeOpen =>
    rw [uartStep] at taken
    split at taken
    · cases taken
    · cases taken
      exact ⟨sound, consistent.users, consistent.someone,
        consistent.disabled, consistent.honest, consistent.total⟩
  | openFails =>
    rw [uartStep] at taken
    split at taken
    · cases taken
      exact ⟨sound, consistent.users, consistent.someone,
        consistent.disabled, consistent.honest, consistent.total⟩
    · cases taken
  | openEnable =>
    rw [uartStep] at taken
    split at taken
    · cases taken
      exact consistent_openEnable consistent accepted
    · cases taken
  | pipeClose =>
    rw [uartStep] at taken
    split at taken
    · cases taken
      exact ⟨sound, consistent.users, consistent.someone,
        consistent.disabled, consistent.honest, consistent.total⟩
    · cases taken
  | disable =>
    rw [uartStep] at taken
    split at taken
    · cases taken
      exact ⟨⟨sound.claimed, sound.oldest, sound.whole⟩, consistent.users,
        nofun, fun _ => rfl, consistent.honest, consistent.total⟩
    · cases taken
  | disableTake =>
    rw [uartStep] at taken
    split at taken
    · rename_i waits
      cases taken
      exact consistent_disableTake consistent waits.1
    · cases taken
  | disableAbort accepts =>
    rw [uartStep] at taken
    split at taken
    · rename_i waits
      cases taken
      exact ⟨sound, consistent.users, consistent.someone,
        fun _ => consistent.disabled waits.1, consistent.honest,
        consistent.total⟩
    · cases taken
  | txDone accepts =>
    rw [uartStep, map_eq_some_iff] at taken
    obtain ⟨data, busy, rfl⟩ := taken
    exact consistent_txCallback consistent busy (Nat.le_refl _) accepted
  | txAborted len accepts =>
    rw [uartStep, bind_eq_some_iff] at taken
    obtain ⟨data, busy, taken⟩ := taken
    split at taken
    · rename_i aborts
      cases taken
      exact consistent_txCallback consistent busy aborts.2 accepted
    · cases taken

/-- In every run at most one caller uses the transmitter. -/
theorem consistent_of_reachable (reachable : UartReachable size system) : system.Consistent := by
  induction reachable with
  | start isFresh =>
    rw [isFresh]
    exact consistent_fresh size
  | next action _ accepted taken ih =>
    exact consistent_step ih accepted taken

/-- In every run in which the driver accepts what is started, and the pipe is
opened again only when nothing is in flight and no thread holds `tx_done_sem` or
waits for it: each call has appended what it reports, and the calls have
appended what was written; what was sent and what is stored is what was written;
`tx_done_sem` is free only when nothing is in flight; and what is stored in an
enabled transmitter without one of these is about to be started. -/
theorem transmission_reported (reachable : UartReachable size system) :
    (∀ call ∈ system.calls, ∀ result, call.pc = .returned result → call.sent = result.getD 0) ∧
    system.tx.written.length = appended system.calls ∧
    system.tx.completed ++ system.tx.txBuf.content = system.tx.written ∧
    (system.tx.txDoneSem = true → system.tx.inFlight = none) ∧
    (system.tx.txEnabled = true → system.tx.txDoneSem = false →
      system.tx.inFlight = none → system.tx.txBuf.content ≠ [] →
        ∃ call ∈ system.calls, call.holds = true) := by
  have consistent := consistent_of_reachable reachable
  have few := consistent.users
  refine ⟨fun call member => (consistent.honest call member).reported,
    consistent.total, consistent.sound.whole, ?_, ?_⟩
  · intro free
    cases isSent : system.tx.inFlight with
    | none => rfl
    | some data =>
      rw [Transmitter.users, free, isSent] at few
      simp only [Bool.toNat_true, isSome_some] at few
      omega
  · intro enabled notFree idle _
    have one := consistent.someone enabled
    apply exists_holder
    rw [Transmitter.users, notFree, idle] at one
    simp at one
    omega

def openedPipe : List UartAction :=
  [.pipeOpen, .openEnable]

/-- A call of `pipe_transmit` from its start to `tx_start`. -/
def transmitUpTo (index : Nat) (data : List Byte) : List UartAction :=
  [.transmit data, .call index .store, .call index .takeSem]

/-- `uart_tx` fails for the first transmission. -/
def refusedStart : List UartAction :=
  openedPipe ++ transmitUpTo 0 (ascii "AB") ++ [.call 0 (.start false), .call 0 .giveSem]

/-- `uart_tx` fails for what is started when a transmission is done. -/
def refusedRestart : List UartAction :=
  openedPipe ++ transmitUpTo 0 (ascii "AB") ++ [UartAction.call 0 (.start true)] ++
    transmitUpTo 1 (ascii "C") ++ [UartAction.txDone false]

/-- The pipe is closed and opened again, while `uart_tx_abort` fails for what is
in flight; then more is sent. -/
def reopened : List UartAction :=
  openedPipe ++ transmitUpTo 0 (ascii "AB") ++ [UartAction.call 0 (.start true)] ++
    [UartAction.pipeClose, .disable, .disableAbort false] ++ openedPipe

/-- A call that returns an error has appended its bytes; an enabled transmitter
with something to send is idle for good, with `tx_done_sem` taken; and after the
pipe was closed and opened again `tx_done_sem` is free while something is in
flight, which is then sent again. -/
theorem transmission_goes_wrong : (∃ system, Reachable uartStep (fun _ _ => True)
        (fun system => system = freshUart 16) system ∧
      system.calls = [{ pc := .returned none, sent := 2 }]) ∧
    (∃ system, Reachable uartStep (fun _ _ => True) (fun system => system = freshUart 16) system ∧
      system.tx.txEnabled = true ∧ system.tx.txDoneSem = false ∧
      system.tx.inFlight = none ∧ system.tx.txBuf.content = ascii "C" ∧
      ∀ call ∈ system.calls, call.holds = false) ∧
    (∃ system, Reachable uartStep (fun _ _ => True) (fun system => system = freshUart 16) system ∧
      system.tx.txDoneSem = true ∧ system.tx.inFlight = some (ascii "AB")) ∧
    ∃ system, Reachable uartStep (fun _ _ => True) (fun system => system = freshUart 16) system ∧
      system.tx.written = ascii "ABC" ∧
      system.tx.completed = ascii "ABABC" := by
  refine ⟨?_, ?_, ?_, ?_⟩
  · exact ⟨_, reachable_of_run refusedStart rfl rfl, by decide⟩
  · exact ⟨_, reachable_of_run refusedRestart rfl rfl, by decide, by decide, by decide, by decide, by decide⟩
  · exact ⟨_, reachable_of_run reopened rfl rfl, by decide, by decide⟩
  · exact ⟨_, reachable_of_run (reopened ++ transmitUpTo 1 (ascii "C") ++
      [.call 1 (.start true), .call 1 .giveSem, .txDone true, .txDone true]) rfl rfl, by decide, by decide⟩

/-- Two calls, the second while the first is being sent, and the pipe is closed
and opened again afterwards. -/
def twoTransmissions : List UartAction :=
  openedPipe ++ transmitUpTo 0 (ascii "AB") ++ [UartAction.call 0 (.start true)] ++
    transmitUpTo 1 (ascii "C") ++ [.txDone true, .txDone true, .pipeClose,
      .disable, .disableTake] ++ openedPipe

theorem two_transmissions_reported : ∃ system, runChecked uartStep
        (fun system action => decide (StartsAccepted system action))
        twoTransmissions (freshUart 16) = some system ∧
      system.tx.completed = ascii "ABC" ∧
      system.tx.written.length = appended system.calls := by
  have evaluated : (runChecked uartStep (fun system action => decide (StartsAccepted system action))
      twoTransmissions (freshUart 16)).map (fun system =>
        system.tx.completed) = some (ascii "ABC") := by
    decide
  obtain ⟨system, ran, completed⟩ := map_eq_some_iff.mp evaluated
  have reported := transmission_reported (reachable_of_runChecked
    twoTransmissions (fun before action _ passed => of_decide_eq_true passed)
    (.start rfl) ran)
  exact ⟨system, ran, completed, reported.2.1⟩

end SerialModem.Uart
