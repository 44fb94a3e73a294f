import SerialModem.AtHost.Effects
import SerialModem.AtHost.OpenSession

/-!
# Command lines

Up to the label `handle_echo`, `cmd_rx_handler` is a line editor: it filters
what comes before `AT`, grows its buffer, erases, watches quotes and recognises
the end of the line.  `lineStep` is that part on its own, so that a line can be
followed without the answers, the echo and the environment around it.
-/

namespace SerialModem.AtHost

open Library List Option

/-- How `cmd_rx_handler` goes on after the character. -/
inductive LineEnd where
  /-- To `handle_echo`, with `send` not set. -/
  | typing
  /-- To `handle_echo`, with `send` set. -/
  | ended
  /-- To `cmd_finnish_or_fail`, because the buffer cannot grow. -/
  | rejected
  deriving DecidableEq

def filtered (byte : Byte) (command : CommandState) : Prop :=
  (command.atCmdLen = 0 ∧ toupper byte ≠ 65) ∨ (command.atCmdLen = 1 ∧ toupper byte ≠ 84)

instance (byte : Byte) (command : CommandState) : Decidable (filtered byte command) :=
  inferInstanceAs (Decidable (_ ∨ _))

def storeStep (cfg : Config) (byte : Byte) (command : CommandState) : CommandState × LineEnd :=
  if (byte = 8 ∨ byte = 127) ∧ 0 < command.atCmdLen then
    let shorter := command.atCmdLen - 1
    ({ command with
        atCmdLen := shorter
        insideQuotes :=
          if command.prevCharacter = 34 then
            !command.insideQuotes
          else
            command.insideQuotes
        prevCharacter :=
          if 0 < shorter then command.atBuf.getD (shorter - 1) 0 else 0 },
      .typing)
  else if !command.insideQuotes && isTermination cfg command byte then
    ({ command with
        atCmdLen :=
          if cfg.termination = .crLf then command.atCmdLen - 1
          else command.atCmdLen },
      .ended)
  else
    ({ command with
        atBuf :=
          if command.atCmdLen < command.atBufSize - 1 then
            command.atBuf.take command.atCmdLen ++ [byte]
          else
            command.atBuf
        atCmdLen := command.atCmdLen + 1
        insideQuotes :=
          if byte = 34 then !command.insideQuotes else command.insideQuotes
        prevCharacter := byte },
      .typing)

/-- The editor; `grows` is the answer of the heap to a larger buffer. -/
def lineStep (cfg : Config) (grows : Nat → Bool) (byte : Byte)
    (command : CommandState) : CommandState × LineEnd :=
  if filtered byte command then
    ({ command with insideQuotes := false, atCmdLen := 0 }, .typing)
  else if command.atBufSize - 2 ≤ command.atCmdLen then
    if command.atBufSize * 2 > atBufMaxSize ∨ grows (command.atBufSize * 2) = false then
      (command, .rejected)
    else
      storeStep cfg byte { command with atBufSize := command.atBufSize * 2 }
  else
    storeStep cfg byte command

variable (cfg : Config) (env : Environment) (c : CtxId)

/-- The rest of `cmd_rx_handler`. -/
def endLine (byte : Byte) (host : Host) (result : CommandState × LineEnd) : Option Host :=
  match result.2 with
  | .typing => cmdRxEnd cfg env c byte false (host.setCommand c result.1)
  | .ended => cmdRxEnd cfg env c byte true (host.setCommand c result.1)
  | .rejected => some (cmdFinnishOrFail env c (rspSendError cfg host))

def lineStepOf (byte : Byte) (host : Host) : CommandState × LineEnd :=
  lineStep cfg (env.alloc host.history c) byte (host.command c)

theorem cmdRxStore_eq (byte : Byte) (host : Host) (command : CommandState) :
    cmdRxStore cfg env c byte (host.setCommand c command) =
      endLine cfg env c byte host (storeStep cfg byte command) := by
  unfold cmdRxStore storeStep
  rw [Host.command_setCommand_self]
  dsimp only
  split
  · rw [Host.setCommand_setCommand]
    rfl
  · split
    · rw [Host.setCommand_setCommand]
      rfl
    · rw [Host.setCommand_setCommand]
      rfl

theorem cmdRxHandler_eq (byte : Byte) (host : Host) : cmdRxHandler cfg env c byte host =
      endLine cfg env c byte (checkIdleTimer c true host) (lineStepOf cfg env c byte host) := by
  have timed : checkIdleTimer c true host =
      host.setCtx c { host.ctx c with idleTimer := true } := by
    rw [checkIdleTimer, if_pos (by simp)]
  have sameCommand : (checkIdleTimer c true host).command c =
      host.command c := SameCommands.checkIdleTimer c true host c
  have sameHistory : (checkIdleTimer c true host).history = host.history := by
    rw [timed]
    rfl
  unfold cmdRxHandler lineStepOf lineStep
  dsimp only
  rw [sameCommand, sameHistory]
  generalize checkIdleTimer c true host = state at sameCommand
  by_cases isFiltered : filtered byte (host.command c)
  · rw [if_pos isFiltered]
    exact if_pos isFiltered
  · rw [if_neg isFiltered]
    refine (if_neg isFiltered).trans ?_
    by_cases full : (host.command c).atBufSize - 2 ≤ (host.command c).atCmdLen
    · rw [if_pos full, if_pos full]
      by_cases fails : (host.command c).atBufSize * 2 > atBufMaxSize ∨
          env.alloc host.history c ((host.command c).atBufSize * 2) = false
      · rw [if_pos fails, if_pos fails]
        rfl
      · rw [if_neg fails, if_neg fails]
        exact cmdRxStore_eq cfg env c byte state _
    · rw [if_neg full, if_neg full, ← cmdRxStore_eq, ← sameCommand, Host.setCommand_command]

def quoted (text : List Byte) : Bool :=
  text.foldl (fun inside byte => if byte = 34 then !inside else inside) false

def endsLine (termination : Termination) (text : List Byte) (byte : Byte) :
    Bool :=
  match termination with
  | .cr => byte == 13
  | .lf => byte == 10
  | .crLf => byte == 10 && text.getLast? == some 13

def edit (termination : Termination) (text : List Byte) (byte : Byte) : List Byte × LineEnd :=
  if (text.length = 0 ∧ toupper byte ≠ 65) ∨ (text.length = 1 ∧ toupper byte ≠ 84) then
    ([], .typing)
  else if atBufMaxSize - 2 ≤ text.length then
    (text, .rejected)
  else if byte = 8 ∨ byte = 127 then
    (text.dropLast, .typing)
  else if !quoted text && endsLine termination text byte then
    (if termination = .crLf then text.dropLast else text, .ended)
  else
    (text ++ [byte], .typing)

structure CommandState.Holds (command : CommandState) (text : List Byte) :
    Prop where
  fits : command.Fits
  length : command.atCmdLen = text.length
  buffer : command.atBuf.take text.length = text

structure CommandState.Typed (command : CommandState) (text : List Byte) :
    Prop extends CommandState.Holds command text where
  last : text ≠ [] → text.getLast? = some command.prevCharacter
  quotes : command.insideQuotes = quoted text

theorem quoted_append_singleton (text : List Byte) (byte : Byte) : quoted (text ++ [byte]) =
      if byte = 34 then !quoted text else quoted text := by
  simp [quoted]

theorem quoted_dropLast {text : List Byte} {last : Byte} (isLast : text.getLast? = some last) :
    quoted text.dropLast =
      if last = 34 then !quoted text else quoted text := by
  obtain ⟨shorter, rfl⟩ := List.getLast?_eq_some_iff.mp isLast
  rw [dropLast_concat, quoted_append_singleton]
  split <;> simp

namespace CommandState

variable {command : CommandState}

theorem Typed.nil (fits : command.Fits) (empty : command.atCmdLen = 0) : command.Typed [] where
  fits := fits
  length := empty
  buffer := rfl
  last nonempty := absurd rfl nonempty
  quotes := fits.unquoted empty

variable {text : List Byte}

theorem Typed.grown (typed : command.Typed text) (within : command.atBufSize * 2 ≤ atBufMaxSize) :
    Typed { command with atBufSize := command.atBufSize * 2 } text where
  fits := typed.fits.grown within
  length := typed.length
  buffer := typed.buffer
  last := typed.last
  quotes := typed.quotes

theorem Typed.isTermination (typed : command.Typed text) (cfg : Config) (byte : Byte) :
    isTermination cfg command byte = endsLine cfg.termination text byte := by
  unfold AtHost.isTermination endsLine
  cases cfg.termination with
  | cr | lf => rfl
  | crLf =>
    dsimp only
    rw [typed.length]
    cases text with
    | nil => simp
    | cons first rest =>
      rw [typed.last (cons_ne_nil _ _)]
      simp

theorem Typed.filtered_iff (typed : command.Typed text) (byte : Byte) :
    filtered byte command ↔ (text.length = 0 ∧ toupper byte ≠ 65) ∨
        (text.length = 1 ∧ toupper byte ≠ 84) := by
  rw [filtered, typed.length]

theorem Holds.take (holds : command.Holds text) {count : Nat} (within : count ≤ text.length) :
    command.atBuf.take count = text.take count := by
  calc command.atBuf.take count
      = (command.atBuf.take text.length).take count := by
        rw [take_take, Nat.min_eq_left within]
    _ = text.take count := by rw [holds.buffer]

theorem Holds.getElem? (holds : command.Holds text) {index : Nat} (within : index < text.length) :
    command.atBuf[index]? = text[index]? := by
  calc command.atBuf[index]?
      = (command.atBuf.take text.length)[index]? :=
        (getElem?_take_of_lt within).symm
    _ = text[index]? := by rw [holds.buffer]

theorem Fits.size_le (fits : command.Fits) : command.atBufSize ≤ atBufMaxSize := by
  obtain ⟨doublings, bound, size⟩ := fits.size
  have doubled : 2 ^ doublings ≤ 2 ^ 6 := Nat.pow_le_pow_right (by omega) bound
  calc command.atBufSize
      = atBufMinSize * 2 ^ doublings := size
    _ ≤ atBufMinSize * 2 ^ 6 := Nat.mul_le_mul_left _ doubled
    _ = atBufMaxSize := by decide

theorem Fits.size_eq (fits : command.Fits) (large : atBufMaxSize < command.atBufSize * 2) :
    command.atBufSize = atBufMaxSize := by
  obtain ⟨doublings, bound, size⟩ := fits.size
  by_cases most : doublings = 6
  · rw [size, most]
    decide
  · have doubled : 2 ^ doublings ≤ 2 ^ 5 :=
      Nat.pow_le_pow_right (by omega) (by omega)
    have small : command.atBufSize ≤ atBufMinSize * 2 ^ 5 := by
      rw [size]
      exact Nat.mul_le_mul_left _ doubled
    have half : atBufMinSize * 2 ^ 5 * 2 = atBufMaxSize := by decide
    omega

end CommandState

section Editing

variable {cfg : Config} {byte : Byte} {command : CommandState} {text : List Byte}

theorem two_le_of_erase (passes : ¬((text.length = 0 ∧ toupper byte ≠ 65) ∨
      (text.length = 1 ∧ toupper byte ≠ 84)))
    (erases : byte = 8 ∨ byte = 127) : 2 ≤ text.length := by
  have others : toupper byte ≠ 65 ∧ toupper byte ≠ 84 := by
    rcases erases with rfl | rfl <;> decide
  by_contra short
  apply passes
  have shortest : text.length = 0 ∨ text.length = 1 := by omega
  exact shortest.imp (⟨·, others.1⟩) (⟨·, others.2⟩)

theorem storeStep_erase (typed : command.Typed text) (long : 2 ≤ text.length)
    (erases : byte = 8 ∨ byte = 127) :
    (storeStep cfg byte command).2 = .typing ∧
      (storeStep cfg byte command).1.Typed text.dropLast := by
  have nonempty : text ≠ [] := by
    intro empty
    rw [empty] at long
    exact absurd long (by decide)
  have positive : 0 < command.atCmdLen := by
    rw [typed.length]
    omega
  unfold storeStep
  rw [if_pos ⟨erases, positive⟩]
  refine ⟨rfl, ⟨⟨typed.fits.size, ?_, ?_⟩, ?_, ?_⟩, ?_, ?_⟩
  · have room := typed.fits.room
    dsimp only
    omega
  · intro nothing
    have single := typed.length
    dsimp only at nothing
    omega
  · simp [typed.length]
  · rw [length_dropLast, dropLast_eq_take]
    exact typed.take (by omega)
  · intro _
    dsimp only
    rw [typed.length, if_pos (by omega), List.getLast?_eq_getElem?,
      length_dropLast, getElem?_dropLast, if_pos (by omega)]
    have inside : text.length - 1 - 1 < text.length := by omega
    rw [getD_eq_getElem?_getD, typed.getElem? inside, getElem?_eq_getElem inside]
    rfl
  · dsimp only
    rw [quoted_dropLast (typed.last nonempty), typed.quotes]

theorem storeStep_end (typed : command.Typed text) (plain : ¬(byte = 8 ∨ byte = 127))
    (ends : (!quoted text && endsLine cfg.termination text byte) = true) :
    (storeStep cfg byte command).2 = .ended ∧ (storeStep cfg byte command).1.Holds
        (if cfg.termination = .crLf then text.dropLast else text) := by
  have outside : quoted text = false := by
    simpa using (Bool.and_eq_true_iff.mp ends).1
  unfold storeStep
  rw [if_neg (fun erases => plain erases.1), typed.isTermination, typed.quotes, if_pos ends]
  have room := typed.fits.room
  have typedLength := typed.length
  refine ⟨rfl, ⟨typed.fits.size, ?_, fun _ => outside⟩, ?_, ?_⟩
  · dsimp only
    split <;> omega
  · dsimp only
    split
    · rw [length_dropLast, typedLength]
    · exact typedLength
  · dsimp only
    split
    · rw [length_dropLast, dropLast_eq_take]
      exact typed.take (by omega)
    · exact typed.buffer

theorem storeStep_type (typed : command.Typed text) (room : text.length + 3 ≤ command.atBufSize)
    (plain : ¬(byte = 8 ∨ byte = 127))
    (continues : (!quoted text && endsLine cfg.termination text byte) ≠ true) :
    (storeStep cfg byte command).2 = .typing ∧
      (storeStep cfg byte command).1.Typed (text ++ [byte]) := by
  have typedLength := typed.length
  unfold storeStep
  rw [if_neg (fun erases => plain erases.1), typed.isTermination, typed.quotes, if_neg continues]
  refine ⟨rfl, ⟨⟨typed.fits.size, ?_, ?_⟩, ?_, ?_⟩, ?_, ?_⟩
  · dsimp only
    omega
  · intro nothing
    exact absurd nothing (Nat.succ_ne_zero _)
  · simp [typedLength]
  · dsimp only
    rw [typedLength, if_pos (by omega), typed.buffer, take_length]
  · intro _
    simp
  · rw [quoted_append_singleton]

theorem storeStep_edit (typed : command.Typed text) (room : text.length + 3 ≤ command.atBufSize)
    (passes : ¬((text.length = 0 ∧ toupper byte ≠ 65) ∨ (text.length = 1 ∧ toupper byte ≠ 84))) :
    (storeStep cfg byte command).2 = (edit cfg.termination text byte).2 ∧
      (storeStep cfg byte command).1.Holds (edit cfg.termination text byte).1 ∧
      ((edit cfg.termination text byte).2 = .typing → (storeStep cfg byte command).1.Typed
          (edit cfg.termination text byte).1) := by
  have large := typed.fits.size_le
  unfold edit
  rw [if_neg passes, if_neg (by omega)]
  split
  · rename_i erases
    obtain ⟨outcome, after⟩ :=
      storeStep_erase typed (two_le_of_erase passes erases) erases
    exact ⟨outcome, after.toHolds, fun _ => after⟩
  · rename_i plain
    split
    · rename_i ends
      obtain ⟨outcome, after⟩ := storeStep_end typed plain ends
      refine ⟨outcome, after, ?_⟩
      intro impossible
      cases impossible
    · rename_i continues
      obtain ⟨outcome, after⟩ := storeStep_type typed room plain continues
      exact ⟨outcome, after.toHolds, fun _ => after⟩

variable {grows : Nat → Bool}

theorem lineStep_edit (typed : command.Typed text)
    (accepts : (lineStep cfg grows byte command).2 ≠ .rejected) :
    (lineStep cfg grows byte command).2 = (edit cfg.termination text byte).2 ∧
      (lineStep cfg grows byte command).1.Holds (edit cfg.termination text byte).1 ∧
      ((edit cfg.termination text byte).2 = .typing →
        (lineStep cfg grows byte command).1.Typed (edit cfg.termination text byte).1) := by
  have typedLength := typed.length
  have smallest := typed.fits.le_size
  have minimum : 2 ≤ atBufMinSize := by decide
  unfold lineStep at accepts ⊢
  by_cases isFiltered : filtered byte command
  · rw [if_pos isFiltered, edit, if_pos ((typed.filtered_iff byte).mp isFiltered)]
    have cleared : CommandState.Typed { command with insideQuotes := false, atCmdLen := 0 } [] := by
      refine CommandState.Typed.nil ⟨typed.fits.size, ?_, fun _ => rfl⟩ rfl
      dsimp only
      omega
    exact ⟨rfl, cleared.toHolds, fun _ => cleared⟩
  · have passes := fun refused =>
      isFiltered ((typed.filtered_iff byte).mpr refused)
    rw [if_neg isFiltered] at accepts ⊢
    split
    · rename_i full
      rw [if_pos full] at accepts
      split
      · rename_i fails
        rw [if_pos fails] at accepts
        exact absurd rfl accepts
      · rename_i succeeds
        have within : command.atBufSize * 2 ≤ atBufMaxSize :=
          Nat.le_of_not_gt fun large => succeeds (.inl large)
        apply storeStep_edit (typed.grown within)
        · have room := typed.fits.room
          dsimp only
          omega
        · exact passes
    · apply storeStep_edit typed
      · omega
      · exact passes

theorem storeStep_ne_rejected (cfg : Config) (byte : Byte)
    (command : CommandState) : (storeStep cfg byte command).2 ≠ .rejected := by
  unfold storeStep
  split
  · simp
  · split <;> simp

theorem lineStep_rejected (typed : command.Typed text)
    (rejects : (lineStep cfg grows byte command).2 = .rejected) :
    (∃ size, size ≤ atBufMaxSize ∧ grows size = false) ∨
      (edit cfg.termination text byte).2 = .rejected := by
  have typedLength := typed.length
  unfold lineStep at rejects
  split at rejects
  · cases rejects
  · rename_i passes
    split at rejects
    · rename_i full
      split at rejects
      · rename_i fails
        by_cases large : atBufMaxSize < command.atBufSize * 2
        · right
          have size := typed.fits.size_eq large
          rw [edit, if_neg (fun refused => passes
            ((typed.filtered_iff byte).mpr refused)), if_pos (by omega)]
        · left
          exact ⟨command.atBufSize * 2, Nat.le_of_not_gt large, fails.resolve_left large⟩
      · exact absurd rejects (storeStep_ne_rejected cfg byte _)
    · exact absurd rejects (storeStep_ne_rejected cfg byte _)

theorem lineStep_rejects (typed : command.Typed text)
    (rejects : (edit cfg.termination text byte).2 = .rejected) :
    (lineStep cfg grows byte command).2 = .rejected := by
  by_contra accepts
  have same := (lineStep_edit typed accepts).1
  rw [rejects] at same
  exact accepts same

end Editing

/-- The line that `cmd_rx_handler` hands to `cmd_send` for this character. -/
def sentLine (byte : Byte) (host : Host) : Option (List Byte) :=
  let result := lineStepOf cfg env c byte host
  if result.2 = .ended ∧ result.1.atCmdLen ≤ result.1.atBufSize - 1 ∧ 0 < result.1.atCmdLen then
    some (result.1.atBuf.take result.1.atCmdLen)
  else
    none

def feedCmd : List Byte → Host → Option Host
  | [], host => some host
  | byte :: rest, host =>
    (cmdRxHandler cfg env c byte host).bind (feedCmd rest)

/-- The lines that `cmd_send` is called with while the bytes are received. -/
def cmdSendCalls : List Byte → Host → List (List Byte)
  | [], _ => []
  | byte :: rest, host =>
    (sentLine cfg env c byte host).toList ++
      ((cmdRxHandler cfg env c byte host).map (cmdSendCalls rest)).getD []

variable {cfg env c}

theorem handleEcho_command (byte : Byte) (send : Bool) (host : Host) :
    ∃ echoLen, (handleEcho cfg c byte send host).command c =
      { host.command c with echoLen := echoLen } := by
  unfold handleEcho
  dsimp only
  split
  · refine ⟨(host.command c).echoLen + 1, ?_⟩
    split
    · exact Host.command_setCommand_self _ _ _
    · split <;> exact Host.command_setCommand_self _ _ _
  · exact ⟨(host.command c).echoLen, rfl⟩

def IsEcho : Event → Prop
  | .echoed _ _ => True
  | _ => False

structure Echoes (before after : Host) : Prop where
  history : Appends IsEcho before after
  current : after.currentCtx = before.currentCtx
  instanceList : after.instanceList = before.instanceList

namespace Echoes

theorem refl (host : Host) : Echoes host host :=
  ⟨Appends.refl host, rfl, rfl⟩

theorem trans {first second third : Host} (left : Echoes first second)
    (right : Echoes second third) : Echoes first third where
  history := left.history.trans right.history
  current := right.current.trans left.current
  instanceList := right.instanceList.trans left.instanceList

theorem setCommand (c : CtxId) (command : CommandState) (host : Host) :
    Echoes host (host.setCommand c command) :=
  ⟨Appends.of_eq rfl, rfl, rfl⟩

theorem checkIdleTimer (c : CtxId) (reschedule : Bool) (host : Host) :
    Echoes host (checkIdleTimer c reschedule host) := by
  unfold AtHost.checkIdleTimer
  split
  · exact ⟨Appends.of_eq rfl, rfl, rfl⟩
  · exact refl host

theorem handleEcho (byte : Byte) (send : Bool) (host : Host) :
    Echoes host (handleEcho cfg c byte send host) := by
  have counted := setCommand c { host.command c with echoLen := (host.command c).echoLen + 1 } host
  have sends : ∀ (state : Host) (content : List Byte),
      Echoes state (state.record (.echoed c content)) := by
    intro state content
    refine ⟨Appends.record state ?_, rfl, rfl⟩
    trivial
  unfold AtHost.handleEcho
  dsimp only
  split
  · split
    · exact counted.trans (sends _ _)
    · split
      · exact counted.trans (sends _ _)
      · exact counted
  · exact refl host

end Echoes

variable {byte : Byte} {host : Host}

theorem cmdRxHandler_typing (typing : (lineStepOf cfg env c byte host).2 = .typing) :
    ∃ after echoLen, cmdRxHandler cfg env c byte host = some after ∧ after.command c =
        { (lineStepOf cfg env c byte host).1 with echoLen := echoLen } ∧
      Echoes host after := by
  rw [cmdRxHandler_eq, endLine, typing]
  dsimp only
  generalize (lineStepOf cfg env c byte host).1 = command
  obtain ⟨echoLen, after⟩ : ∃ echoLen, (handleEcho cfg c byte false
        ((checkIdleTimer c true host).setCommand c command)).command c =
        { ((checkIdleTimer c true host).setCommand c command).command c with
          echoLen := echoLen } :=
    handleEcho_command byte false _
  refine ⟨_, echoLen, rfl, ?_, ?_⟩
  · rw [after, Host.command_setCommand_self]
  · exact (Echoes.checkIdleTimer c true host).trans
      ((Echoes.setCommand c command _).trans (Echoes.handleEcho byte false _))

theorem cmdFinnishOrFail_command (host : Host) :
    ((cmdFinnishOrFail env c host).command c).atCmdLen = 0 ∧
      ((cmdFinnishOrFail env c host).command c).insideQuotes = false := by
  have stopped : ∀ state : Host,
      (state.setCtx c { state.ctx c with idleTimer := false }).command c = state.command c :=
    fun state => SameCommands.setCtx state (by rfl) c
  rw [cmdFinnishOrFail]
  dsimp only
  rw [smAtHostEventNotify, SameCommands.sendMsg _ _ c, stopped, Host.command_setCommand_self]
  exact ⟨rfl, rfl⟩

theorem cmdRxHandler_rejected (rejected : (lineStepOf cfg env c byte host).2 = .rejected) :
    cmdRxHandler cfg env c byte host = some (cmdFinnishOrFail env c
        (rspSendError cfg (checkIdleTimer c true host))) := by
  rw [cmdRxHandler_eq, endLine, rejected]

theorem cmdRxHandler_settled {after : Host} (settles : (lineStepOf cfg env c byte host).2 ≠ .typing)
    (ran : cmdRxHandler cfg env c byte host = some after) :
    (after.command c).atCmdLen = 0 ∧ (after.command c).insideQuotes = false := by
  rw [cmdRxHandler_eq, endLine] at ran
  cases outcome : (lineStepOf cfg env c byte host).2 with
  | typing => exact absurd outcome settles
  | ended =>
    rw [outcome] at ran
    obtain ⟨finished, _, rfl⟩ := map_eq_some_iff.mp ran
    exact cmdFinnishOrFail_command finished
  | rejected =>
    rw [outcome] at ran
    cases ran
    exact cmdFinnishOrFail_command _

theorem AllFit.cmdRxHandler {after : Host} (fit : AllFit host)
    (ran : cmdRxHandler cfg env c byte host = some after) :
    AllFit after :=
  Wakes.allFit (cmdRxHandler_wakes rfl ran) fit

theorem sentLine_of_not_ended (continues : (lineStepOf cfg env c byte host).2 ≠ .ended) :
    sentLine cfg env c byte host = none := by
  rw [sentLine]
  exact if_neg fun sends => continues sends.1

theorem cmdSendCalls_append {first : List Byte} (second : List Byte) :
    ∀ {host after : Host}, feedCmd cfg env c first host = some after →
      cmdSendCalls cfg env c (first ++ second) host = cmdSendCalls cfg env c first host ++
          cmdSendCalls cfg env c second after := by
  induction first with
  | nil =>
    intro host after fed
    cases fed
    rfl
  | cons byte rest ih =>
    intro host after fed
    obtain ⟨middle, ran, remaining⟩ := bind_eq_some_iff.mp fed
    simp only [cons_append, cmdSendCalls, ran, map_some, getD_some, ih remaining, append_assoc]

theorem feedCmd_append (first second : List Byte) (host : Host) :
    feedCmd cfg env c (first ++ second) host =
      (feedCmd cfg env c first host).bind (feedCmd cfg env c second) := by
  induction first generalizing host with
  | nil => rfl
  | cons byte rest ih =>
    simp only [cons_append, feedCmd]
    cases cmdRxHandler cfg env c byte host with
    | none => rfl
    | some after => exact ih after

end SerialModem.AtHost
