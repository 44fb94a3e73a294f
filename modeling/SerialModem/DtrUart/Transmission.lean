import SerialModem.DtrUart.Transmitter
import SerialModem.Library.TransitionSystem

/-!
# The transmissions of the DTR UART

The user waits for the answer to one transmission before it starts the next.
Then it gets one answer for each, as long as nobody acts on a buffer that
somebody else has found as well.
-/

namespace SerialModem.DtrUart

open Library List Option

/-! ## Runs in which a buffer is taken once -/

def TxWorkerPc.takes : TxWorkerPc → List Nat
  | .starting buf | .aborting buf => [buf]
  | _ => []

def TxSystem.takers (system : TxSystem) : List Nat :=
  system.aborts ++ system.worker.takes

/-- What is seen of the transmitter still holds when it is acted on.  When
`deactivate_tx` or `activate_tx` finds a buffer that is not started, nobody else
has found it.  When `activate_tx` looks at `tx_buf`, `api_tx` is not about to set
it, and the physical UART has answered what was started before. -/
def TakenOnce (system : TxSystem) (action : TxAction) : Prop :=
  match action with
  | .activateTx => (∀ call ∈ system.calls, call.pc ≠ .parking) ∧
      (system.txBuf ≠ none → system.txInProgress = false ∧ system.takers = [])
  | .txAbort => system.buffered ≠ none → system.takers = []
  | .deactivateTx => system.buffered ≠ none → system.takers = []
  | _ => True

instance {system : TxSystem} {action : TxAction} : Decidable (TakenOnce system action) :=
  match action with
  | .activateTx =>
    inferInstanceAs (Decidable ((∀ call ∈ _, _) ∧ (_ → _ ∧ _)))
  | .txAbort => inferInstanceAs (Decidable (_ → _))
  | .deactivateTx => inferInstanceAs (Decidable (_ → _))
  | .tx _ | .txEnd _ _ | .txAbortEnd _ | .start _ | .setInProgress
  | .startTx _ | .deactivateTxEnd | .txDone | .txAborted _ =>
    inferInstanceAs (Decidable True)

abbrev TxReachable (allowed : TxSystem → TxAction → Prop) : TxSystem → Prop :=
  Reachable txStep allowed (fun system => system = .init)

def TxCall.Answered (call : TxCall) : Prop :=
  call.pc = .returned true ∧ call.answers = [] ∨
    call.pc = .returned false ∧ call.answers = [call.sent]

structure TxCall.Pending (call : TxCall) : Prop where
  accepted : call.pc ≠ .returned true
  answers : call.answers = []
  sent : call.sent = 0

def TxWorkerPc.Expects : TxWorkerPc → Bool → Prop
  | .idle, _ => True
  | .asserted, level | .starting _, level | .started _, level => level = true
  | .deasserted, level | .aborting _, level => level = false

namespace TxSystem

def Waiting (system : TxSystem) (buf : Nat) : Prop :=
  ∃ call, system.calls[buf]? = some call ∧ call.Pending ∧ call.pc = .returned false

/-- The driver keeps the buffer, or the physical UART has it. -/
def Holds (system : TxSystem) (buf : Nat) : Prop :=
  system.txBuf = some buf ∨ ∃ len, system.inFlight = some (buf, len)

structure Sound (system : TxSystem) : Prop where
  calls : ∀ index call, system.calls[index]? = some call →
    call.Answered ∨ index + 1 = system.calls.length ∧ call.Pending ∧
      (call.pc = .returned false → system.Holds index)
  parked : ∀ buf, system.txBuf = some buf → system.Waiting buf
  flying : ∀ buf len, system.inFlight = some (buf, len) →
    system.Waiting buf ∧ (system.txBuf = none ∨
      system.txBuf = some buf ∧ system.txInProgress = true)
  progress : system.txInProgress = true → ∃ buf, system.txBuf = some buf ∧
    ((∃ len, system.inFlight = some (buf, len)) ∨ system.worker = .started buf)
  started : ∀ buf, system.worker = .started buf → system.txBuf = some buf ∧
    system.txInProgress = true ∧ system.inFlight = none
  taken : ∀ buf ∈ system.takers, system.txBuf = some buf ∧ system.txInProgress = false
  once : system.takers.length ≤ 1
  left : system.dtrState = true → system.worker = .idle →
    system.txBuf ≠ none → system.txInProgress = true
  expected : system.worker.Expects system.dtrState
  parking : ∀ call ∈ system.calls, call.pc = .parking →
    system.dtrState = true → system.worker = .asserted
  stray : system.stray = 0

end TxSystem

variable {system after : TxSystem} {call : TxCall} {buf : Nat}

theorem TxCall.Answered.not_pending (answered : call.Answered) : ¬ call.Pending := by
  intro pending
  rcases answered with ⟨isError, _⟩ | ⟨_, isAnswered⟩
  · exact pending.accepted isError
  · rw [pending.answers] at isAnswered
    cases isAnswered

theorem TxCall.Answered.not_parking (answered : call.Answered) : call.pc ≠ .parking := by
  intro isParking
  rcases answered with ⟨returned, _⟩ | ⟨returned, _⟩
  · rw [isParking] at returned
    cases returned
  · rw [isParking] at returned
    cases returned

theorem TxCall.Pending.outstanding (pending : call.Pending) : call.outstanding = true := by
  rw [TxCall.outstanding, pending.answers]
  cases isPc : call.pc with
  | passing | parking => rfl
  | returned error =>
    cases error with
    | true => exact absurd isPc pending.accepted
    | false => rfl

namespace TxSystem

theorem Sound.waiting_last (sound : system.Sound)
    (waiting : system.Waiting buf) : buf + 1 = system.calls.length := by
  obtain ⟨call, found, pending, _⟩ := waiting
  rcases sound.calls buf call found with answered | ⟨isLast, _⟩
  · exact absurd pending answered.not_pending
  · exact isLast

structure Quiet (system : TxSystem) : Prop where
  parked : system.txBuf = none
  flying : system.inFlight = none
  progress : system.txInProgress = false
  taken : system.takers = []
  started : ∀ buf, system.worker ≠ .started buf

theorem Sound.quiet (sound : system.Sound)
    (noneWaits : ∀ buf, ¬ system.Waiting buf) : system.Quiet := by
  have notParked : system.txBuf = none := by
    cases isParked : system.txBuf with
    | none => rfl
    | some buf => exact absurd (sound.parked buf isParked) (noneWaits buf)
  exact {
    parked := notParked
    flying := by
      cases isFlying : system.inFlight with
      | none => rfl
      | some flight =>
        have waits := (sound.flying flight.1 flight.2 isFlying).1
        exact absurd waits (noneWaits flight.1)
    progress := by
      cases inProgress : system.txInProgress with
      | false => rfl
      | true =>
        obtain ⟨buf, isParked, _⟩ := sound.progress inProgress
        rw [notParked] at isParked
        cases isParked
    taken := by
      apply eq_nil_iff_forall_not_mem.mpr
      intro buf isTaken
      have isParked := (sound.taken buf isTaken).1
      rw [notParked] at isParked
      cases isParked
    started := by
      intro buf isStarted
      have isParked := (sound.started buf isStarted).1
      rw [notParked] at isParked
      cases isParked }

theorem Sound.answered_modify {change : TxCall → TxCall}
    (sound : system.Sound) (waiting : system.Waiting buf)
    (answers : ∀ call : TxCall, call.Pending → call.pc = .returned false → (change call).Answered) :
    ∀ call ∈ system.calls.modify buf change, call.Answered := by
  intro call member
  obtain ⟨index, found⟩ := mem_iff_getElem?.mp member
  rw [getElem?_modify] at found
  obtain ⟨old, wasFound, changed⟩ := map_eq_some_iff.mp found
  have isLast := sound.waiting_last waiting
  split at changed
  · rename_i same
    subst same
    obtain ⟨waits, isWaiting, pending, returned⟩ := waiting
    rw [wasFound] at isWaiting
    cases isWaiting
    rw [← changed]
    exact answers old pending returned
  · rename_i isOther
    cases changed
    rcases sound.calls index call wasFound with answered | ⟨alsoLast, _⟩
    · exact answered
    · omega

theorem sound_of_quiet (quiet : system.Quiet)
    (calls : ∀ index call, system.calls[index]? = some call →
      call.Answered ∨ index + 1 = system.calls.length ∧ call.Pending ∧ call.pc ≠ .returned false)
    (expected : system.worker.Expects system.dtrState)
    (parking : ∀ call ∈ system.calls, call.pc = .parking →
      system.dtrState = true → system.worker = .asserted)
    (noStray : system.stray = 0) : system.Sound where
  calls := by
    intro index call found
    rcases calls index call found with answered | ⟨isLast, pending, isCalled⟩
    · exact .inl answered
    · exact .inr ⟨isLast, pending, fun returned =>
        absurd returned isCalled⟩
  parked := by
    rw [quiet.parked]
    nofun
  flying := by
    rw [quiet.flying]
    nofun
  progress := by
    rw [quiet.progress]
    nofun
  started := fun buf isStarted => absurd isStarted (quiet.started buf)
  taken := by
    rw [quiet.taken]
    nofun
  once := by
    rw [quiet.taken]
    exact Nat.zero_le 1
  left := fun _ _ isParked => absurd quiet.parked isParked
  expected := expected
  parking := parking
  stray := noStray

theorem sound_of_answered (answered : ∀ call ∈ system.calls, call.Answered) (quiet : system.Quiet)
    (expected : system.worker.Expects system.dtrState)
    (noStray : system.stray = 0) : system.Sound := by
  apply sound_of_quiet quiet _ expected _ noStray
  · intro index call found
    exact .inl (answered call (mem_of_getElem? found))
  · intro call member isParking
    exact absurd isParking (answered call member).not_parking

/-! ## Answers -/

theorem Sound.not_flying (sound : system.Sound) (isTaken : buf ∈ system.takers) :
    system.inFlight = none := by
  obtain ⟨isParked, notStarted⟩ := sound.taken buf isTaken
  cases isFlying : system.inFlight with
  | none => rfl
  | some flight =>
    rcases (sound.flying flight.1 flight.2 isFlying).2 with
      notParked | ⟨_, isStarted⟩
    · rw [isParked] at notParked
      cases notParked
    · rw [notStarted] at isStarted
      cases isStarted

variable {worker : TxWorkerPc}

theorem Sound.abortBuffered {aborts : List Nat} (sound : system.Sound)
    (isParked : system.txBuf = some buf) (notFlying : system.inFlight = none)
    (notTaken : aborts ++ worker.takes = [])
    (notStarted : ∀ buf, worker ≠ .started buf)
    (expected : worker.Expects system.dtrState) :
    ({ system with worker := worker, aborts := aborts }.abortBuffered (some buf)).Sound := by
  apply sound_of_answered
  · apply sound.answered_modify (sound.parked buf isParked)
    intro call pending returned
    right
    refine ⟨returned, ?_⟩
    rw [pending.answers, pending.sent]
    rfl
  · exact {
      parked := rfl
      flying := notFlying
      progress := rfl
      taken := notTaken
      started := notStarted }
  · exact expected
  · exact sound.stray

theorem Sound.flying_takers {flight : Nat × Nat} (sound : system.Sound)
    (isFlying : system.inFlight = some flight) : system.takers = [] := by
  apply eq_nil_iff_forall_not_mem.mpr
  intro buf isTaken
  have notFlying := sound.not_flying isTaken
  rw [isFlying] at notFlying
  cases notFlying

variable {len : Nat}

theorem Sound.txAnswered {sent : Nat} (sound : system.Sound)
    (isFlying : system.inFlight = some (buf, len)) :
    (system.txAnswered buf sent).Sound := by
  apply sound_of_answered
  · rw [TxSystem.txAnswered, txComplete, answer]
    dsimp only
    rw [modify_modify_eq]
    apply sound.answered_modify (sound.flying buf len isFlying).1
    intro call pending returned
    right
    refine ⟨returned, ?_⟩
    dsimp only [Function.comp]
    rw [pending.answers, pending.sent, Nat.zero_add]
    rfl
  · exact {
      parked := rfl
      flying := rfl
      progress := rfl
      taken := sound.flying_takers isFlying
      started := by
        intro buf isStarted
        have notFlying := (sound.started buf isStarted).2.2
        rw [isFlying] at notFlying
        cases notFlying }
  · exact sound.expected
  · exact sound.stray

/-! ## Calls of the user -/

theorem Sound.all_answered (sound : system.Sound)
    (isIdle : ∀ call ∈ system.calls, call.outstanding = false) :
    ∀ call ∈ system.calls, call.Answered := by
  intro call member
  obtain ⟨index, found⟩ := mem_iff_getElem?.mp member
  rcases sound.calls index call found with answered | ⟨_, pending, _⟩
  · exact answered
  · have waits := pending.outstanding
    rw [isIdle call member] at waits
    cases waits

theorem not_waiting (answered : ∀ call ∈ system.calls, call.Answered)
    (buf : Nat) : ¬ system.Waiting buf := by
  rintro ⟨call, found, pending, _⟩
  exact (answered call (mem_of_getElem? found)).not_pending pending

theorem sound_of_pending {calls : List TxCall} (answered : ∀ call ∈ calls, call.Answered)
    (isCalls : system.calls = calls ++ [call]) (pending : call.Pending)
    (isCalled : call.pc ≠ .returned false) (quiet : system.Quiet)
    (expected : system.worker.Expects system.dtrState)
    (parking : call.pc = .parking → system.dtrState = true → system.worker = .asserted)
    (noStray : system.stray = 0) : system.Sound := by
  apply sound_of_quiet quiet _ expected _ noStray
  · intro index other found
    rw [isCalls] at found ⊢
    rcases Nat.lt_or_ge index calls.length with isOld | isNew
    · rw [getElem?_append_left isOld] at found
      exact .inl (answered other (mem_of_getElem? found))
    · rw [getElem?_append_right isNew, getElem?_singleton] at found
      split at found
      · rename_i isLast
        cases found
        refine .inr ⟨?_, pending, isCalled⟩
        rw [length_append, length_singleton]
        omega
      · cases found
  · intro other member isParking
    rw [isCalls] at member
    rcases mem_append.mp member with isOld | isNew
    · exact absurd isParking (answered other isOld).not_parking
    · rw [mem_singleton.mp isNew] at isParking
      exact parking isParking

theorem Sound.apiTx (sound : system.Sound)
    (isIdle : ∀ call ∈ system.calls, call.outstanding = false) :
    (system.apiTx len).Sound := by
  have answered := sound.all_answered isIdle
  have quiet := sound.quiet (not_waiting answered)
  have isAnswered (call : TxCall) (isDone : call.Answered) :
      TxSystem.Sound { system with calls := system.calls ++ [call] } := by
    refine sound_of_answered ?_ ⟨quiet.parked, quiet.flying, quiet.progress,
      quiet.taken, quiet.started⟩ sound.expected sound.stray
    intro other member
    rcases mem_append.mp member with isOld | isNew
    · exact answered other isOld
    · rw [mem_singleton.mp isNew]
      exact isDone
  have isPending (call : TxCall) (pending : call.Pending) (isCalled : call.pc ≠ .returned false)
      (parking : call.pc = .parking → system.dtrState = true → system.worker = .asserted) :
      TxSystem.Sound { system with calls := system.calls ++ [call] } :=
    sound_of_pending answered rfl pending isCalled
      ⟨quiet.parked, quiet.flying, quiet.progress, quiet.taken,
        quiet.started⟩ sound.expected parking sound.stray
  rw [TxSystem.apiTx]
  dsimp only
  split
  · exact isAnswered _ (.inr ⟨rfl, rfl⟩)
  · split
    · exact isAnswered _ (.inl ⟨rfl, rfl⟩)
    · split
      · exact isPending _ ⟨nofun, rfl, rfl⟩ nofun nofun
      · rename_i notAsserted
        exact isPending _ ⟨nofun, rfl, rfl⟩ nofun fun _ isAsserted =>
          absurd isAsserted notAsserted

variable {index : Nat}

theorem Sound.none_waits (sound : system.Sound)
    (found : system.calls[index]? = some call) (notAnswered : ¬ call.Answered)
    (isCalled : call.pc ≠ .returned false) :
    ∀ buf, ¬ system.Waiting buf := by
  intro buf waiting
  have isLast := sound.waiting_last waiting
  obtain ⟨other, isOther, _, returned⟩ := waiting
  rcases sound.calls index call found with answered | ⟨alsoLast, _⟩
  · exact notAnswered answered
  · have same : buf = index := by omega
    rw [same, found] at isOther
    cases isOther
    exact isCalled returned

theorem Sound.quiet_calling (sound : system.Sound)
    (found : system.calls[index]? = some call) (pending : call.Pending)
    (isCalled : call.pc ≠ .returned false) : system.Quiet :=
  sound.quiet (sound.none_waits found (fun answered => answered.not_pending pending) isCalled)

theorem Sound.setPc_calls {position : Nat} {other : TxCall} {pc : TxPc}
    (sound : system.Sound) (found : system.calls[index]? = some call)
    (notAnswered : ¬ call.Answered)
    (isCall : (system.calls.modify index fun call =>
      { call with pc := pc })[position]? = some other) :
    position = index ∧ other = { call with pc := pc } ∨ other.Answered := by
  rw [getElem?_modify] at isCall
  obtain ⟨old, wasFound, changed⟩ := map_eq_some_iff.mp isCall
  split at changed
  · rename_i same
    rw [← same, found] at wasFound
    cases wasFound
    exact .inl ⟨same.symm, changed.symm⟩
  · rename_i isOther
    cases changed
    right
    rcases sound.calls index call found with answered | ⟨isLast, _⟩
    · exact absurd answered notAnswered
    · rcases sound.calls position other wasFound with answered | ⟨alsoLast, _⟩
      · exact answered
      · omega

theorem Sound.accept {txLen : Nat} {txBuf : Option Nat}
    {inFlight : Option (Nat × Nat)} (sound : system.Sound)
    (found : system.calls[index]? = some call) (pending : call.Pending)
    (isCalled : call.pc ≠ .returned false)
    (held : txBuf = some index ∧ inFlight = none ∨
      txBuf = none ∧ ∃ len, inFlight = some (index, len))
    (left : system.dtrState = true → system.worker = .idle → txBuf = none) :
    ({ system with txBuf := txBuf, txLen := txLen, inFlight := inFlight }.setPc
      index (.returned false)).Sound := by
  have notAnswered := fun answered : call.Answered =>
    answered.not_pending pending
  have quiet := sound.quiet_calling found pending isCalled
  have waiting : ({ system with
      txBuf := txBuf, txLen := txLen, inFlight := inFlight }.setPc index
        (.returned false)).Waiting index := by
    refine ⟨{ call with pc := .returned false }, ?_, ⟨nofun, pending.answers, pending.sent⟩, rfl⟩
    rw [setPc]
    dsimp only
    rw [getElem?_modify_eq, found]
    rfl
  have isLast : index + 1 = system.calls.length := by
    rcases sound.calls index call found with answered | ⟨isLast, _⟩
    · exact absurd answered notAnswered
    · exact isLast
  exact {
    calls := by
      intro position other isCall
      rcases sound.setPc_calls found notAnswered isCall with
        ⟨rfl, rfl⟩ | answered
      · refine .inr ⟨?_, ⟨nofun, pending.answers, pending.sent⟩, fun _ => ?_⟩
        · rw [setPc]
          dsimp only
          rw [length_modify]
          exact isLast
        · rcases held with ⟨isParked, _⟩ | ⟨_, isFlying⟩
          · exact .inl isParked
          · exact .inr isFlying
      · exact .inl answered
    parked := by
      intro buf isParked
      rcases held with ⟨isIndex, _⟩ | ⟨notParked, _⟩
      · cases isIndex.symm.trans isParked
        exact waiting
      · cases notParked.symm.trans isParked
    flying := by
      intro buf len isFlying
      rcases held with ⟨_, notFlying⟩ | ⟨notParked, _, isIndex⟩
      · cases notFlying.symm.trans isFlying
      · cases isIndex.symm.trans isFlying
        exact ⟨waiting, .inl notParked⟩
    progress := fun inProgress =>
      absurd (quiet.progress.symm.trans inProgress) nofun
    started := fun buf isStarted => absurd isStarted (quiet.started buf)
    taken := by
      intro buf isTaken
      have isTaker : buf ∈ system.takers := isTaken
      rw [quiet.taken] at isTaker
      cases isTaker
    once := by
      have noTaker : system.takers.length ≤ 1 := by
        rw [quiet.taken]
        exact Nat.zero_le 1
      exact noTaker
    left := fun isUp isIdle isParked => absurd (left isUp isIdle) isParked
    expected := sound.expected
    parking := by
      intro other member isParking
      obtain ⟨position, isCall⟩ := mem_iff_getElem?.mp member
      rcases sound.setPc_calls found notAnswered isCall with
        ⟨_, rfl⟩ | answered
      · cases isParking
      · exact absurd isParking answered.not_parking
    stray := sound.stray }

theorem Sound.refuse (sound : system.Sound)
    (found : system.calls[index]? = some call) (pending : call.Pending)
    (isCalled : call.pc ≠ .returned false) :
    (system.setPc index (.returned true)).Sound := by
  have notAnswered := fun answered : call.Answered =>
    answered.not_pending pending
  have quiet := sound.quiet_calling found pending isCalled
  refine sound_of_answered ?_ ⟨quiet.parked, quiet.flying, quiet.progress,
    quiet.taken, quiet.started⟩ sound.expected sound.stray
  intro other member
  obtain ⟨position, isCall⟩ := mem_iff_getElem?.mp member
  rcases sound.setPc_calls found notAnswered isCall with ⟨_, rfl⟩ | answered
  · exact .inl ⟨rfl, pending.answers⟩
  · exact answered

theorem Sound.apiTxEnd {accepts : Bool} (sound : system.Sound)
    (found : system.calls[index]? = some call)
    (taken : system.apiTxEnd index accepts call = some after) :
    after.Sound := by
  have pending (isCalled : ∀ error, call.pc ≠ .returned error) : call.Pending := by
    rcases sound.calls index call found with
      (⟨returned, _⟩ | ⟨returned, _⟩) | ⟨_, pending, _⟩
    · exact absurd returned (isCalled true)
    · exact absurd returned (isCalled false)
    · exact pending
  unfold TxSystem.apiTxEnd at taken
  split at taken
  · rename_i isPassing
    have isCalled : ∀ error, call.pc ≠ .returned error := by
      rw [isPassing]
      nofun
    have quiet := sound.quiet_calling found (pending isCalled) (isCalled false)
    cases taken
    rw [uartTx]
    split
    · exact sound.accept found (pending isCalled) (isCalled false)
        (.inr ⟨quiet.parked, call.len, rfl⟩) fun _ _ => quiet.parked
    · exact sound.refuse found (pending isCalled) (isCalled false)
  · rename_i isParking
    have isCalled : ∀ error, call.pc ≠ .returned error := by
      rw [isParking]
      nofun
    have quiet := sound.quiet_calling found (pending isCalled) (isCalled false)
    cases taken
    apply sound.accept found (pending isCalled) (isCalled false) (.inl ⟨rfl, quiet.flying⟩)
    intro isUp isIdle
    have asserts := sound.parking call (mem_of_getElem? found) isParking isUp
    rw [isIdle] at asserts
    cases asserts
  · cases taken

/-! ## Starting and aborting what is kept -/

theorem buffered_eq_some (isBuffered : system.buffered = some buf) :
    system.txBuf = some buf ∧ system.txInProgress = false := by
  rw [buffered] at isBuffered
  split at isBuffered
  · cases isBuffered
  · rename_i notStarted
    exact ⟨isBuffered, Bool.eq_false_iff.mpr notStarted⟩

theorem Sound.not_started (sound : system.Sound)
    (notStarted : system.txInProgress = false) (buf : Nat) :
    system.worker ≠ .started buf := by
  intro isStarted
  have inProgress := (sound.started buf isStarted).2.1
  rw [notStarted] at inProgress
  cases inProgress

/-- Somebody finds a buffer that is not started. -/
theorem Sound.take {aborts : List Nat} (sound : system.Sound) (isParked : system.txBuf = some buf)
    (notStarted : system.txInProgress = false)
    (isTaken : aborts ++ worker.takes = [buf])
    (isWorker : ∀ buf, worker ≠ .started buf)
    (left : system.dtrState = true → worker ≠ .idle)
    (expected : worker.Expects system.dtrState)
    (parking : ∀ call ∈ system.calls, call.pc = .parking →
      system.dtrState = true → worker = .asserted) :
    TxSystem.Sound { system with worker := worker, aborts := aborts } where
  calls := sound.calls
  parked := sound.parked
  flying := sound.flying
  progress := fun inProgress =>
    absurd (notStarted.symm.trans inProgress) nofun
  started := fun buf isStarted => absurd isStarted (isWorker buf)
  taken := by
    intro other isTaker
    rw [takers, isTaken] at isTaker
    rw [mem_singleton.mp isTaker]
    exact ⟨isParked, notStarted⟩
  once := by
    rw [takers, isTaken]
    exact Nat.le_refl 1
  left := fun isUp isIdle => absurd isIdle (left isUp)
  expected := expected
  parking := parking
  stray := sound.stray

theorem Sound.move {dtrState : Bool} (sound : system.Sound)
    (takes : worker.takes = []) (took : system.worker.takes = [])
    (isWorker : ∀ buf, worker ≠ .started buf)
    (wasWorker : ∀ buf, system.worker ≠ .started buf)
    (left : dtrState = true → worker = .idle → system.txBuf ≠ none →
      system.txInProgress = true) (expected : worker.Expects dtrState)
    (parking : ∀ call ∈ system.calls, call.pc = .parking → dtrState = true → worker = .asserted) :
    TxSystem.Sound { system with worker := worker, dtrState := dtrState } where
  calls := sound.calls
  parked := sound.parked
  flying := sound.flying
  progress := by
    intro inProgress
    obtain ⟨buf, isParked, isFlying | isStarted⟩ := sound.progress inProgress
    · exact ⟨buf, isParked, .inl isFlying⟩
    · exact absurd isStarted (wasWorker buf)
  started := fun buf isStarted => absurd isStarted (isWorker buf)
  taken := by
    have taken := sound.taken
    rw [takers, took] at taken
    rw [takers, takes]
    exact taken
  once := by
    have once := sound.once
    rw [takers, took] at once
    rw [takers, takes]
    exact once
  left := left
  expected := expected
  parking := parking
  stray := sound.stray

variable {found : Option Nat}

theorem Sound.txAbort (sound : system.Sound) (once : TakenOnce system .txAbort)
    (isBuffered : system.buffered = found) :
    TxSystem.Sound { system with
      aborts := found.toList ++ system.aborts } := by
  cases found with
  | none => exact sound
  | some buf =>
    obtain ⟨isParked, notStarted⟩ := buffered_eq_some isBuffered
    have noTaker : system.takers = [] := by
      apply once
      rw [isBuffered]
      nofun
    obtain ⟨noAborts, takes⟩ := append_eq_nil_iff.mp noTaker
    apply sound.take isParked notStarted
    · rw [noAborts, takes]
      rfl
    · exact sound.not_started notStarted
    · intro isUp isIdle
      have inProgress := sound.left isUp isIdle (by
        rw [isParked]
        nofun)
      rw [notStarted] at inProgress
      cases inProgress
    · exact sound.expected
    · exact sound.parking

theorem Sound.txAbortEnd (sound : system.Sound) (isAbort : buf ∈ system.aborts) :
    ({ system with aborts := system.aborts.erase buf }.abortBuffered (some buf)).Sound := by
  have isTaken : buf ∈ system.takers := mem_append_left _ isAbort
  obtain ⟨isParked, notStarted⟩ := sound.taken buf isTaken
  have once := sound.once
  rw [takers, length_append] at once
  have some := length_pos_of_mem isAbort
  apply sound.abortBuffered isParked (sound.not_flying isTaken)
  · apply append_eq_nil_iff.mpr
    constructor
    · apply length_eq_zero_iff.mp
      rw [length_erase_of_mem isAbort]
      omega
    · apply length_eq_zero_iff.mp
      omega
  · exact sound.not_started notStarted
  · exact sound.expected

/-! ## Steps of the worker -/

theorem Sound.start {asserted : Bool} (sound : system.Sound) (isIdle : system.worker = .idle) :
    TxSystem.Sound { system with
      dtrState := asserted
      worker := if asserted then .asserted else .deasserted } := by
  have took : system.worker.takes = [] := by
    rw [isIdle]
    rfl
  have wasWorker : ∀ buf, system.worker ≠ .started buf := by
    rw [isIdle]
    nofun
  cases asserted with
  | true =>
    exact sound.move rfl took nofun wasWorker nofun rfl fun _ _ _ _ => rfl
  | false => exact sound.move rfl took nofun wasWorker nofun rfl nofun

theorem Sound.activateTx (sound : system.Sound) (isAsserted : system.worker = .asserted)
    (once : TakenOnce system .activateTx) (isParked : system.txBuf = found) :
    TxSystem.Sound { system with worker := .activateTx found } := by
  obtain ⟨noneParks, once⟩ := once
  have expected := sound.expected
  rw [isAsserted] at expected
  cases found with
  | none =>
    apply sound.move rfl
    · rw [isAsserted]
      rfl
    · nofun
    · rw [isAsserted]
      nofun
    · intro _ _ isBuffered
      exact absurd isParked isBuffered
    · trivial
    · intro call member isParking
      exact absurd isParking (noneParks call member)
  | some buf =>
    obtain ⟨notStarted, noTaker⟩ := once (by
      rw [isParked]
      nofun)
    apply sound.take isParked notStarted
    · rw [(append_eq_nil_iff.mp noTaker).1]
      rfl
    · nofun
    · nofun
    · exact expected
    · intro call member isParking
      exact absurd isParking (noneParks call member)

theorem Sound.setInProgress (sound : system.Sound) (isStarting : system.worker = .starting buf) :
    TxSystem.Sound { system with worker := .started buf, txInProgress := true } := by
  have isTaken : buf ∈ system.takers := by
    rw [takers, isStarting]
    exact mem_append_right _ mem_cons_self
  have isParked := (sound.taken buf isTaken).1
  have notFlying := sound.not_flying isTaken
  have noAborts : system.aborts = [] := by
    have once := sound.once
    rw [takers, isStarting, length_append] at once
    apply length_eq_zero_iff.mp
    have isOne : (TxWorkerPc.starting buf).takes.length = 1 := rfl
    omega
  have expected := sound.expected
  rw [isStarting] at expected
  exact {
    calls := sound.calls
    parked := sound.parked
    flying := fun _ _ isFlying => absurd (notFlying.symm.trans isFlying) nofun
    progress := fun _ => ⟨buf, isParked, .inr rfl⟩
    started := by
      rintro other ⟨⟩
      exact ⟨isParked, rfl, notFlying⟩
    taken := by
      rw [takers, noAborts]
      nofun
    once := by
      rw [takers, noAborts]
      exact Nat.zero_le 1
    left := fun _ _ _ => rfl
    expected := expected
    parking := by
      intro call member isParking isUp
      have asserts := sound.parking call member isParking isUp
      rw [isStarting] at asserts
      cases asserts
    stray := sound.stray }

theorem Sound.started_aborts (sound : system.Sound)
    (isStarted : system.worker = .started buf) : system.aborts = [] := by
  apply eq_nil_iff_forall_not_mem.mpr
  intro other isAbort
  have notStarted := (sound.taken other (mem_append_left _ isAbort)).2
  rw [(sound.started buf isStarted).2.1] at notStarted
  cases notStarted

theorem Sound.uartTx (sound : system.Sound) (isStarted : system.worker = .started buf) :
    TxSystem.Sound { system with inFlight := some (buf, len), worker := .idle } := by
  obtain ⟨isParked, inProgress, notFlying⟩ := sound.started buf isStarted
  have noAborts := sound.started_aborts isStarted
  exact {
    calls := by
      intro index call found
      rcases sound.calls index call found with
        answered | ⟨isLast, pending, holds⟩
      · exact .inl answered
      · refine .inr ⟨isLast, pending, fun returned => ?_⟩
        rcases holds returned with isBuf | ⟨_, isFlying⟩
        · exact .inl isBuf
        · cases notFlying.symm.trans isFlying
    parked := sound.parked
    flying := by
      rintro _ _ ⟨⟩
      exact ⟨sound.parked buf isParked, .inr ⟨isParked, inProgress⟩⟩
    progress := fun _ => ⟨buf, isParked, .inl ⟨len, rfl⟩⟩
    started := nofun
    taken := by
      rw [takers, noAborts]
      nofun
    once := by
      rw [takers, noAborts]
      exact Nat.zero_le 1
    left := fun _ _ _ => inProgress
    expected := trivial
    parking := by
      intro call member isParking isUp
      have asserts := sound.parking call member isParking isUp
      rw [isStarted] at asserts
      cases asserts
    stray := sound.stray }

theorem Sound.activateTxEnd {accepts : Bool} (sound : system.Sound)
    (isStarted : system.worker = .started buf) :
    (system.activateTxEnd buf accepts).Sound := by
  obtain ⟨isParked, _, notFlying⟩ := sound.started buf isStarted
  rw [TxSystem.activateTxEnd, TxSystem.uartTx]
  split
  · exact sound.uartTx isStarted
  · dsimp only
    rw [isParked]
    refine sound.abortBuffered isParked notFlying ?_ nofun trivial
    rw [sound.started_aborts isStarted]
    rfl

theorem Sound.deactivateTx (sound : system.Sound) (isDeasserted : system.worker = .deasserted)
    (once : TakenOnce system .deactivateTx)
    (isBuffered : system.buffered = found) :
    TxSystem.Sound { system with worker := .deactivateTx found } := by
  have isDown := sound.expected
  rw [isDeasserted] at isDown
  have notUp (isUp : system.dtrState = true) : False := by
    rw [show system.dtrState = false from isDown] at isUp
    cases isUp
  cases found with
  | none =>
    apply sound.move rfl
    · rw [isDeasserted]
      rfl
    · nofun
    · rw [isDeasserted]
      nofun
    · exact fun isUp => (notUp isUp).elim
    · trivial
    · exact fun _ _ _ isUp => (notUp isUp).elim
  | some buf =>
    obtain ⟨isParked, notStarted⟩ := buffered_eq_some isBuffered
    have noTaker : system.takers = [] := by
      apply once
      rw [isBuffered]
      nofun
    apply sound.take isParked notStarted
    · rw [(append_eq_nil_iff.mp noTaker).1]
      rfl
    · nofun
    · nofun
    · exact isDown
    · exact fun _ _ _ isUp => (notUp isUp).elim

theorem Sound.deactivateTxEnd (sound : system.Sound) (isAborting : system.worker = .aborting buf) :
    ({ system with worker := .idle }.abortBuffered (some buf)).Sound := by
  have isTaken : buf ∈ system.takers := by
    rw [takers, isAborting]
    exact mem_append_right _ mem_cons_self
  have once := sound.once
  rw [takers, isAborting, length_append] at once
  have isOne : (TxWorkerPc.aborting buf).takes.length = 1 := rfl
  apply sound.abortBuffered (sound.taken buf isTaken).1 (sound.not_flying isTaken)
  · rw [length_eq_zero_iff.mp (show system.aborts.length = 0 by omega)]
    rfl
  · nofun
  · trivial

end TxSystem

/-! ## Runs -/

theorem sound_init : TxSystem.init.Sound :=
  TxSystem.sound_of_answered nofun ⟨rfl, rfl, rfl, rfl, nofun⟩ trivial rfl

theorem sound_step {action : TxAction} (sound : system.Sound) (once : TakenOnce system action)
    (taken : txStep action system = some after) : after.Sound := by
  cases action with
  | tx len =>
    rw [txStep] at taken
    split at taken
    · rename_i isIdle
      cases taken
      exact sound.apiTx isIdle
    · cases taken
  | txEnd index accepts =>
    obtain ⟨call, found, ends⟩ := bind_eq_some_iff.mp taken
    exact sound.apiTxEnd found ends
  | txAbort =>
    cases taken
    exact sound.txAbort once rfl
  | txAbortEnd buf =>
    rw [txStep] at taken
    split at taken
    · rename_i isAbort
      cases taken
      exact sound.txAbortEnd isAbort
    · cases taken
  | start asserted =>
    rw [txStep] at taken
    split at taken
    · rename_i isIdle
      split at taken
      · cases taken
        exact sound
      · cases taken
        exact sound.start isIdle
    · cases taken
  | activateTx =>
    rw [txStep] at taken
    split at taken
    · rename_i isAsserted
      cases taken
      exact sound.activateTx isAsserted once rfl
    · cases taken
  | setInProgress =>
    rw [txStep] at taken
    split at taken
    · rename_i buf isStarting
      cases taken
      exact sound.setInProgress isStarting
    · cases taken
  | startTx accepts =>
    rw [txStep] at taken
    split at taken
    · rename_i buf isStarted
      cases taken
      exact sound.activateTxEnd isStarted
    · cases taken
  | deactivateTx =>
    rw [txStep] at taken
    split at taken
    · rename_i isDeasserted
      cases taken
      exact sound.deactivateTx isDeasserted once rfl
    · cases taken
  | deactivateTxEnd =>
    rw [txStep] at taken
    split at taken
    · rename_i buf isAborting
      cases taken
      exact sound.deactivateTxEnd isAborting
    · cases taken
  | txDone =>
    obtain ⟨⟨buf, len⟩, isFlying, rfl⟩ := map_eq_some_iff.mp taken
    exact sound.txAnswered isFlying
  | txAborted len =>
    obtain ⟨⟨buf, total⟩, isFlying, aborts⟩ :=
      bind_eq_some_iff.mp taken
    split at aborts
    · cases aborts
      exact sound.txAnswered isFlying
    · cases aborts

/-- Every transmission is answered once, or is still pending. -/
theorem sound_of_reachable (reachable : TxReachable TakenOnce system) : system.Sound := by
  induction reachable with
  | start isInitial =>
    rw [isInitial]
    exact sound_init
  | next action _ once taken ih => exact sound_step ih once taken

/-- In every run in which a buffer is taken once, a call of `api_tx` that has not
returned, or has returned an error, got no answer.  One that has returned 0 got
one answer, with the number of bytes that were sent, or it got none and the
driver keeps its buffer or the physical UART has it.  Each answer is for a
buffer.  When DTR is asserted and the worker has finished, the physical UART has
the buffer that the driver keeps. -/
theorem transmission_answered_once (reachable : TxReachable TakenOnce system) :
    (∀ index call, system.calls[index]? = some call →
      (call.pc ≠ .returned false → call.answers = []) ∧
      (call.pc = .returned false → call.answers = [call.sent] ∨
        call.answers = [] ∧ system.Holds index)) ∧
    system.stray = 0 ∧
    (system.dtrState = true → system.worker = .idle → ∀ buf, system.txBuf = some buf →
        ∃ len, system.inFlight = some (buf, len)) := by
  have sound := sound_of_reachable reachable
  refine ⟨?_, sound.stray, ?_⟩
  · intro index call found
    rcases sound.calls index call found with
      (⟨isError, noAnswer⟩ | ⟨returned, isAnswered⟩) | ⟨_, pending, holds⟩
    · refine ⟨fun _ => noAnswer, fun returned => ?_⟩
      rw [isError] at returned
      cases returned
    · exact ⟨fun notReturned => absurd returned notReturned, fun _ => .inl isAnswered⟩
    · exact ⟨fun _ => pending.answers, fun returned => .inr ⟨pending.answers, holds returned⟩⟩
  · intro isUp isIdle buf isParked
    have inProgress := sound.left isUp isIdle (by
      rw [isParked]
      nofun)
    obtain ⟨other, isOther, isFlying | isStarted⟩ := sound.progress inProgress
    · cases isParked.symm.trans isOther
      exact isFlying
    · rw [isIdle] at isStarted
      cases isStarted

/-- DTR is deasserted, and two bytes are to be transmitted. -/
def keptTransmission : List TxAction :=
  [.start false, .deactivateTx, .tx 2]

def keptStart : List TxAction :=
  [.txEnd 0 true, .start true, .activateTx, .setInProgress, .startTx true]

theorem kept_transmission_answered : ∃ system, runChecked txStep
        (fun system action => decide (TakenOnce system action))
        (keptTransmission ++ keptStart ++ [TxAction.txDone]) .init = some system ∧
      ∃ call, system.calls[0]? = some call ∧
        (call.answers = [call.sent] ∨ call.answers = [] ∧ system.Holds 0) := by
  have evaluated : (runChecked txStep (fun system action => decide (TakenOnce system action))
      (keptTransmission ++ keptStart ++ [TxAction.txDone]) .init).map
        (fun system => (system.calls[0]?).map fun call => call.pc) =
      some (some (.returned false)) := by
    decide
  obtain ⟨system, ran, seen⟩ := map_eq_some_iff.mp evaluated
  obtain ⟨call, found, returned⟩ := map_eq_some_iff.mp seen
  have reachable : TxReachable TakenOnce system :=
    reachable_of_runChecked _ (fun _ _ _ passed => of_decide_eq_true passed) (.start rfl) ran
  exact ⟨system, ran, call, found,
    ((transmission_answered_once reachable).1 0 call found).2 returned⟩

/-- DTR is deasserted and asserted again, before the physical UART has answered
what was aborted. -/
def startedAgain : List TxAction :=
  [.start false, .deactivateTx, .start true, .activateTx, .setInProgress,
    .startTx true, .txAborted 1]

/-- DTR is asserted between the check of `dtr_state` in `api_tx` and the
assignment to `tx_buf`. -/
def keptTooLate : List TxAction :=
  [.start true, .activateTx, .txEnd 0 true]

/-- What `activate_tx` starts once more is refused, so it sends
`UART_TX_ABORTED`, and so does the physical UART afterwards.  What is kept too
late is not started. -/
theorem transmission_answered_twice_or_kept : (∃ system call, runActions txStep
        (keptTransmission ++ keptStart ++ startedAgain) .init = some system ∧
      TxReachable (fun _ _ => True) system ∧
      system.calls[0]? = some call ∧ call.pc = .returned false ∧
      call.sent = 1 ∧ call.answers = [0, 1]) ∧
    ∃ system, runActions txStep (keptTransmission ++ keptTooLate) .init = some system ∧
      TxReachable (fun _ _ => True) system ∧
      system.dtrState = true ∧ system.worker = .idle ∧
      system.txBuf = some 0 ∧ system.inFlight = none := by
  have twice : (runActions txStep (keptTransmission ++ keptStart ++ startedAgain) .init).map
        (fun system => system.calls[0]?) =
      some (some {
        len := 2
        pc := .returned false
        answers := [0, 1]
        sent := 1 }) := by
    decide
  have kept : (runActions txStep (keptTransmission ++ keptTooLate) .init).map (fun system =>
          (system.dtrState, system.worker, system.txBuf, system.inFlight)) =
      some (true, .idle, some 0, none) := by
    decide
  obtain ⟨first, firstRun, seen⟩ := map_eq_some_iff.mp twice
  obtain ⟨second, secondRun, left⟩ := map_eq_some_iff.mp kept
  simp only [Prod.mk.injEq] at left
  obtain ⟨isUp, isIdle, isParked, notFlying⟩ := left
  exact ⟨⟨first, _, firstRun, reachable_of_run _ rfl firstRun, seen, rfl, rfl, rfl⟩, second, secondRun,
    reachable_of_run _ rfl secondRun,
    isUp, isIdle, isParked, notFlying⟩

end SerialModem.DtrUart
