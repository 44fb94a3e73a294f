import SerialModem.AtHost.CommandLine
import Mathlib.Data.List.Induction

/-!
# The command buffer in memory

`cmd_rx_handler` writes single bytes to a block of the heap, which grows and
shrinks through `realloc`.  `LineBuffer` is that block with the variables that
describe it.  An access outside the block has no result here, so a run that has
one accesses nothing else.
-/

namespace SerialModem.AtHost

open List

/-- What the heap answers to `realloc`: nothing, or a block whose new part
holds anything. -/
abbrev ReallocAnswer := Option (Nat → Byte)

def realloc (block : List Byte) (size : Nat) : ReallocAnswer → Option (List Byte)
  | none => none
  | some heap =>
    some ((List.range size).map fun index => block.getD index (heap index))

/-- The part of `struct sm_at_host_ctx` that holds the command line. -/
structure LineBuffer where
  atBuf : List Byte
  atBufSize : Nat
  insideQuotes : Bool
  atCmdLen : Nat
  prevCharacter : Byte

/-- How `cmd_rx_handler` goes on after the character. -/
inductive LineOutcome where
  | typing
  /-- The guard at the write fails, the character is only counted. -/
  | skipped
  | rejected
  | overflow
  | ignored
  /-- `cmd_send(ctx, ctx->at_buf, ctx->at_cmd_len)`. -/
  | cmdSend (buf : List Byte) (cmdLength : Nat)

/-- A received character, with what `realloc` answers while it is handled. -/
structure Received where
  byte : Byte
  grow : ReallocAnswer
  release : ReallocAnswer

namespace LineBuffer

/-- `sm_at_host_ctx_init`, with what `malloc` left in the block. -/
def ctxInit (heap : Nat → Byte) : LineBuffer where
  atBuf := (List.range atBufMinSize).map heap
  atBufSize := atBufMinSize
  insideQuotes := false
  atCmdLen := 0
  prevCharacter := 0

def write (index : Nat) (value : Byte) (buffer : LineBuffer) : Option LineBuffer :=
  if index < buffer.atBuf.length then
    some { buffer with atBuf := buffer.atBuf.set index value }
  else
    none

/-- The label `cmd_finnish_or_fail`. -/
def finnishOrFail (release : ReallocAnswer) (buffer : LineBuffer) :
    LineBuffer :=
  let cleared := { buffer with insideQuotes := false, atCmdLen := 0 }
  if atBufMinSize < cleared.atBufSize then
    match realloc cleared.atBuf atBufMinSize release with
    | none => cleared
    | some block => { cleared with atBuf := block, atBufSize := atBufMinSize }
  else
    cleared

/-- The end of `cmd_rx_handler` with `send` set. -/
def complete (release : ReallocAnswer) (buffer : LineBuffer) : Option (LineBuffer × LineOutcome) :=
  if buffer.atCmdLen > buffer.atBufSize - 1 then
    some (buffer.finnishOrFail release, .overflow)
  else if 0 < buffer.atCmdLen then
    (buffer.write buffer.atCmdLen 0).map fun terminated =>
      (terminated.finnishOrFail release, .cmdSend terminated.atBuf terminated.atCmdLen)
  else
    some (buffer.finnishOrFail release, .ignored)

def erase (buffer : LineBuffer) : Option LineBuffer :=
  let shorter :=
    { buffer with
      atCmdLen := buffer.atCmdLen - 1
      insideQuotes :=
        if buffer.prevCharacter = 34 then
          !buffer.insideQuotes
        else
          buffer.insideQuotes }
  if 0 < shorter.atCmdLen then
    (shorter.atBuf[shorter.atCmdLen - 1]?).map fun previous =>
      { shorter with prevCharacter := previous }
  else
    some { shorter with prevCharacter := 0 }

/-- Whether the character sets `send`. -/
def ends (cfg : Config) (byte : Byte) (buffer : LineBuffer) : Bool :=
  !buffer.insideQuotes &&
    match cfg.termination with
    | .cr => byte == 13
    | .lf => byte == 10
    | .crLf =>
      byte == 10 && 0 < buffer.atCmdLen && buffer.prevCharacter == 13

def append (byte : Byte) (buffer : LineBuffer) : Option (LineBuffer × LineOutcome) :=
  let counted (written : LineBuffer) : LineBuffer :=
    { written with
      atCmdLen := written.atCmdLen + 1
      insideQuotes :=
        if byte = 34 then !written.insideQuotes else written.insideQuotes
      prevCharacter := byte }
  if buffer.atCmdLen < buffer.atBufSize - 1 then
    (buffer.write buffer.atCmdLen byte).map fun written =>
      (counted written, .typing)
  else
    some (counted buffer, .skipped)

/-- `cmd_rx_handler` once there is room for the character. -/
def store (cfg : Config) (received : Received) (buffer : LineBuffer) :
    Option (LineBuffer × LineOutcome) :=
  if (received.byte = 8 ∨ received.byte = 127) ∧ 0 < buffer.atCmdLen then
    buffer.erase.map fun shorter => (shorter, .typing)
  else if buffer.ends cfg received.byte then
    -- With CR+LF the CR was stored and is trimmed here.
    complete received.release
      { buffer with
        atCmdLen :=
          if cfg.termination = .crLf then buffer.atCmdLen - 1
          else buffer.atCmdLen }
  else
    buffer.append received.byte

/-- `cmd_rx_handler`, without the echo and the answers. -/
def cmdRxHandler (cfg : Config) (received : Received) (buffer : LineBuffer) :
    Option (LineBuffer × LineOutcome) :=
  if (buffer.atCmdLen = 0 ∧ toupper received.byte ≠ 65) ∨
      (buffer.atCmdLen = 1 ∧ toupper received.byte ≠ 84) then
    some ({ buffer with insideQuotes := false, atCmdLen := 0 }, .typing)
  else if buffer.atBufSize - 2 ≤ buffer.atCmdLen then
    let newSize := buffer.atBufSize * 2
    if newSize > atBufMaxSize then
      some (buffer.finnishOrFail received.release, .rejected)
    else
      match realloc buffer.atBuf newSize received.grow with
      | none => some (buffer.finnishOrFail received.release, .rejected)
      | some block =>
        store cfg received { buffer with atBuf := block, atBufSize := newSize }
  else
    store cfg received buffer

/-- `cmd_rx_handler` for one character after the other. -/
def receive (cfg : Config) : List Received → LineBuffer → Option LineBuffer
  | [], buffer => some buffer
  | received :: rest, buffer =>
    (buffer.cmdRxHandler cfg received).bind fun result =>
      receive cfg rest result.1

end LineBuffer

variable {block : List Byte} {size : Nat} {answer : ReallocAnswer}

theorem length_realloc {moved : List Byte} (succeeded : realloc block size answer = some moved) :
    moved.length = size := by
  cases answer with
  | none => cases succeeded
  | some heap =>
    cases succeeded
    simp

theorem take_realloc {moved : List Byte} {count : Nat}
    (succeeded : realloc block size answer = some moved)
    (held : count ≤ block.length) (kept : count ≤ size) :
    moved.take count = block.take count := by
  cases answer with
  | none => cases succeeded
  | some heap =>
    cases succeeded
    apply ext_getElem
    · simp
      omega
    · intro index inMoved inBlock
      have below : index < block.length := by
        rw [length_take] at inBlock
        omega
      simp [below]

theorem realloc_eq_none_iff : realloc block size answer = none ↔ answer.isSome = false := by
  cases answer <;> simp [realloc]

structure LineBuffer.Represents (buffer : LineBuffer) (command : CommandState) :
    Prop where
  block : buffer.atBuf.length = buffer.atBufSize
  size : buffer.atBufSize = command.atBufSize
  length : buffer.atCmdLen = command.atCmdLen
  quotes : buffer.insideQuotes = command.insideQuotes
  previous : buffer.prevCharacter = command.prevCharacter
  text : buffer.atBuf.take buffer.atCmdLen = command.atBuf.take command.atCmdLen

namespace LineBuffer.Represents

variable {buffer : LineBuffer} {command : CommandState} {cfg : Config} {received : Received}

theorem filtered_iff (represents : buffer.Represents command) (byte : Byte) :
    filtered byte command ↔ (buffer.atCmdLen = 0 ∧ toupper byte ≠ 65) ∨
        (buffer.atCmdLen = 1 ∧ toupper byte ≠ 84) := by
  rw [filtered, represents.length]

theorem ends_eq (represents : buffer.Represents command) (byte : Byte) :
    buffer.ends cfg byte = (!command.insideQuotes && isTermination cfg command byte) := by
  cases termination : cfg.termination <;>
    simp only [LineBuffer.ends, isTermination, termination,
      represents.quotes, represents.length, represents.previous]

theorem shorten (represents : buffer.Represents command) {count : Nat}
    (within : count ≤ command.atCmdLen) :
    Represents { buffer with atCmdLen := count } { command with atCmdLen := count } where
  block := represents.block
  size := represents.size
  length := rfl
  quotes := represents.quotes
  previous := represents.previous
  text := by
    have same := congrArg (List.take count) represents.text
    rw [take_take, take_take, represents.length, Nat.min_eq_left within] at same
    exact same

theorem grown (represents : buffer.Represents command) (fits : command.Fits)
    {block : List Byte} {size : Nat}
    (succeeded : realloc buffer.atBuf size received.grow = some block)
    (larger : buffer.atBufSize ≤ size) :
    Represents { buffer with atBuf := block, atBufSize := size }
      { command with atBufSize := size } where
  block := length_realloc succeeded
  size := rfl
  length := represents.length
  quotes := represents.quotes
  previous := represents.previous
  text := by
    have room := fits.room
    have sameSize := represents.size
    have sameLength := represents.length
    have sameBlock := represents.block
    have held : buffer.atCmdLen ≤ buffer.atBuf.length := by omega
    have kept : buffer.atCmdLen ≤ size := by omega
    exact (take_realloc succeeded held kept).trans represents.text

theorem finnishOrFail (represents : buffer.Represents command) (release : ReallocAnswer) :
    ∃ size, (size = command.atBufSize ∨ size = atBufMinSize) ∧
      (buffer.finnishOrFail release).Represents
        { command with
          insideQuotes := false
          atCmdLen := 0
          atBufSize := size } := by
  unfold LineBuffer.finnishOrFail
  dsimp only
  split
  · split
    · exact ⟨command.atBufSize, .inl rfl, represents.block, represents.size,
        rfl, rfl, represents.previous, rfl⟩
    · rename_i block succeeded
      exact ⟨atBufMinSize, .inr rfl, length_realloc succeeded, rfl, rfl, rfl,
        represents.previous, rfl⟩
  · exact ⟨command.atBufSize, .inl rfl, represents.block, represents.size,
      rfl, rfl, represents.previous, rfl⟩

theorem erase (represents : buffer.Represents command) (cfg : Config)
    (room : command.atCmdLen ≤ command.atBufSize) (byte : Byte)
    (erases : (byte = 8 ∨ byte = 127) ∧ 0 < command.atCmdLen) :
    ∃ after, buffer.erase = some after ∧ (storeStep cfg byte command).2 = .typing ∧
      after.Represents (storeStep cfg byte command).1 := by
  have shorter := represents.shorten (Nat.sub_le command.atCmdLen 1)
  have quotes := represents.quotes
  have previous := represents.previous
  have sameLength := represents.length
  unfold LineBuffer.erase storeStep
  rw [if_pos erases]
  dsimp only
  rw [sameLength, quotes, previous]
  by_cases more : 0 < command.atCmdLen - 1
  · have inside : command.atCmdLen - 1 - 1 < buffer.atBuf.length := by
      rw [represents.block, represents.size]
      omega
    have character : command.atBuf.getD (command.atCmdLen - 1 - 1) 0 =
        buffer.atBuf[command.atCmdLen - 1 - 1] := by
      have same := congrArg (fun text => text[command.atCmdLen - 1 - 1]?) represents.text
      rw [sameLength] at same
      rw [getElem?_take_of_lt (by omega), getElem?_take_of_lt (by omega),
        getElem?_eq_getElem inside] at same
      rw [getD_eq_getElem?_getD, ← same]
      rfl
    rw [if_pos more, if_pos more, getElem?_eq_getElem inside, character]
    exact ⟨_, rfl, rfl, shorter.block, shorter.size, rfl, rfl, rfl, shorter.text⟩
  · rw [if_neg more, if_neg more]
    exact ⟨_, rfl, rfl, shorter.block, shorter.size, rfl, rfl, rfl, shorter.text⟩

theorem append (represents : buffer.Represents command)
    (room : command.atCmdLen + 3 ≤ command.atBufSize) {byte : Byte}
    (plain : ¬((byte = 8 ∨ byte = 127) ∧ 0 < command.atCmdLen))
    (continues : (!command.insideQuotes && isTermination cfg command byte) ≠ true) :
    ∃ after, buffer.append byte = some (after, .typing) ∧ (storeStep cfg byte command).2 = .typing ∧
      after.Represents (storeStep cfg byte command).1 := by
  have held := represents.text
  have inBlock : buffer.atCmdLen < buffer.atBuf.length := by
    rw [represents.block, represents.size, represents.length]
    omega
  have guard : buffer.atCmdLen < buffer.atBufSize - 1 := by
    rw [represents.size, represents.length]
    omega
  have sameGuard : command.atCmdLen < command.atBufSize - 1 := by omega
  have extended : (buffer.atBuf.set buffer.atCmdLen byte).take (buffer.atCmdLen + 1) =
        (command.atBuf.take command.atCmdLen ++ [byte]).take (command.atCmdLen + 1) := by
    have short : (command.atBuf.take command.atCmdLen ++ [byte]).length ≤ command.atCmdLen + 1 := by
      rw [length_append, length_take, length_singleton]
      omega
    rw [take_add_one, take_set_of_le (Nat.le_refl _), held,
      getElem?_set_self inBlock, take_of_length_le short]
    rfl
  unfold LineBuffer.append LineBuffer.write storeStep
  dsimp only
  rw [if_pos guard, if_pos inBlock, if_neg plain, if_neg continues, if_pos sameGuard]
  refine ⟨_, rfl, rfl, ?_, represents.size, ?_, ?_, rfl, extended⟩
  · rw [length_set]
    exact represents.block
  · dsimp only
    rw [represents.length]
  · dsimp only
    rw [represents.quotes]

theorem complete (represents : buffer.Represents command)
    (room : command.atCmdLen + 2 ≤ command.atBufSize)
    (nonempty : 0 < command.atCmdLen) (release : ReallocAnswer) :
    ∃ terminated : LineBuffer, buffer.complete release = some (terminated.finnishOrFail release,
          .cmdSend terminated.atBuf command.atCmdLen) ∧
      terminated.Represents command ∧
      terminated.atBuf[command.atCmdLen]? = some 0 := by
  have sameLength := represents.length
  have inBlock : buffer.atCmdLen < buffer.atBuf.length := by
    rw [represents.block, represents.size]
    omega
  have fits : ¬ buffer.atCmdLen > buffer.atBufSize - 1 := by
    rw [represents.size]
    omega
  unfold LineBuffer.complete LineBuffer.write
  rw [if_neg fits, if_pos (by omega), if_pos inBlock]
  refine ⟨{ buffer with atBuf := buffer.atBuf.set buffer.atCmdLen 0 }, ?_,
    ⟨?_, represents.size, sameLength, represents.quotes, represents.previous, ?_⟩, ?_⟩
  · rw [← sameLength]
    rfl
  · rw [length_set]
    exact represents.block
  · exact (take_set_of_le (Nat.le_refl _)).trans represents.text
  · rw [← sameLength]
    exact getElem?_set_self inBlock

/-- What `cmd_rx_handler` does on the block is what the editor does. -/
inductive Follows (buffer : LineBuffer) (release : ReallocAnswer)
    (result : CommandState × LineEnd) :
    Option (LineBuffer × LineOutcome) → Prop
  | typing {after : LineBuffer} : result.2 = .typing → after.Represents result.1 →
      Follows buffer release result (some (after, .typing))
  | ended {terminated : LineBuffer} : result.2 = .ended → terminated.Represents result.1 →
      terminated.atBuf[result.1.atCmdLen]? = some 0 →
      Follows buffer release result (some (terminated.finnishOrFail release,
          .cmdSend terminated.atBuf result.1.atCmdLen))
  | rejected : result.2 = .rejected → Follows buffer release result
        (some (buffer.finnishOrFail release, .rejected))

theorem Follows.of_other {other : LineBuffer} {release : ReallocAnswer}
    {result : CommandState × LineEnd}
    {outcome : Option (LineBuffer × LineOutcome)}
    (accepts : result.2 ≠ .rejected)
    (follows : Follows other release result outcome) :
    Follows buffer release result outcome := by
  cases follows with
  | typing isTyping represents => exact .typing isTyping represents
  | ended isEnded represents closed => exact .ended isEnded represents closed
  | rejected isRejected => exact absurd isRejected accepts

theorem store_follows (represents : buffer.Represents command)
    (room : command.atCmdLen + 3 ≤ command.atBufSize)
    (leaves : (storeStep cfg received.byte command).2 = .ended →
      0 < (storeStep cfg received.byte command).1.atCmdLen) :
    Follows buffer received.release (storeStep cfg received.byte command)
      (buffer.store cfg received) := by
  have sameLength := represents.length
  unfold LineBuffer.store
  rw [represents.ends_eq, sameLength]
  by_cases erases : (received.byte = 8 ∨ received.byte = 127) ∧ 0 < command.atCmdLen
  · obtain ⟨after, ran, outcome, represented⟩ :=
      represents.erase cfg (by omega) received.byte erases
    rw [if_pos erases, ran]
    exact .typing outcome represented
  · by_cases ends : (!command.insideQuotes && isTermination cfg command received.byte) = true
    · have stored : storeStep cfg received.byte command =
          ({ command with
            atCmdLen :=
              if cfg.termination = .crLf then command.atCmdLen - 1
              else command.atCmdLen }, .ended) := by
        rw [storeStep, if_neg erases, if_pos ends]
      have within : (if cfg.termination = .crLf then command.atCmdLen - 1
          else command.atCmdLen) ≤ command.atCmdLen := by
        split <;> omega
      rw [if_neg erases, if_pos ends]
      rw [stored] at leaves ⊢
      obtain ⟨terminated, completed, represented, closed⟩ :=
        (represents.shorten within).complete (by dsimp only; omega) (leaves rfl) received.release
      rw [completed]
      exact .ended rfl represented closed
    · obtain ⟨after, ran, outcome, represented⟩ :=
        represents.append room erases ends
      rw [if_neg erases, if_neg ends, ran]
      exact .typing outcome represented

theorem cmdRxHandler_follows (represents : buffer.Represents command) (fits : command.Fits)
    (leaves : (lineStep cfg (fun _ => received.grow.isSome) received.byte command).2 = .ended →
      0 < (lineStep cfg (fun _ => received.grow.isSome) received.byte command).1.atCmdLen) :
    Follows buffer received.release
      (lineStep cfg (fun _ => received.grow.isSome) received.byte command)
      (buffer.cmdRxHandler cfg received) := by
  have enough := fits.room
  have large := fits.le_size
  have small : 2 ≤ atBufMinSize := by decide
  have sameFilter := represents.filtered_iff received.byte
  unfold LineBuffer.cmdRxHandler lineStep at *
  by_cases isFiltered : filtered received.byte command
  · rw [if_pos (sameFilter.mp isFiltered), if_pos isFiltered]
    exact .typing rfl ⟨represents.block, represents.size, rfl, rfl, represents.previous, rfl⟩
  · rw [if_neg (fun refused => isFiltered (sameFilter.mpr refused)), if_neg isFiltered]
    rw [if_neg isFiltered] at leaves
    have sameLength := represents.length
    rw [represents.size]
    by_cases full : command.atBufSize - 2 ≤ command.atCmdLen
    · have bufferFull : command.atBufSize - 2 ≤ buffer.atCmdLen := by omega
      rw [if_pos full, if_pos bufferFull]
      rw [if_pos full] at leaves
      dsimp only
      by_cases most : command.atBufSize * 2 > atBufMaxSize
      · rw [if_pos most, if_pos (.inl most)]
        exact .rejected rfl
      · rw [if_neg most]
        cases answered : realloc buffer.atBuf (command.atBufSize * 2) received.grow with
        | none =>
          rw [if_pos (.inr (realloc_eq_none_iff.mp answered))]
          exact .rejected rfl
        | some block =>
          have granted : received.grow.isSome ≠ false := by
            intro refused
            rw [realloc_eq_none_iff.mpr refused] at answered
            cases answered
          have accepts : ¬(command.atBufSize * 2 > atBufMaxSize ∨ received.grow.isSome = false) :=
            fun fails => fails.elim most granted
          rw [if_neg accepts] at leaves ⊢
          have grown := represents.grown fits answered (by rw [represents.size]; omega)
          refine Follows.of_other (storeStep_ne_rejected cfg _ _) (grown.store_follows ?_ leaves)
          dsimp only
          omega
    · have bufferFree : ¬ command.atBufSize - 2 ≤ buffer.atCmdLen := by omega
      rw [if_neg full, if_neg bufferFree]
      rw [if_neg full] at leaves
      exact represents.store_follows (by omega) leaves

end LineBuffer.Represents

/-- The text begins with `AT`, in either case, as far as it goes. -/
structure StartsAt (text : List Byte) : Prop where
  first : ∀ byte, text[0]? = some byte → toupper byte = 65
  second : ∀ byte, text[1]? = some byte → toupper byte = 84

theorem StartsAt.nil : StartsAt [] :=
  ⟨by simp, by simp⟩

theorem StartsAt.take {text : List Byte} (starts : StartsAt text)
    (count : Nat) : StartsAt (text.take count) := by
  constructor
  · intro byte isFirst
    rw [getElem?_take] at isFirst
    split at isFirst
    · exact starts.first byte isFirst
    · cases isFirst
  · intro byte isSecond
    rw [getElem?_take] at isSecond
    split at isSecond
    · exact starts.second byte isSecond
    · cases isSecond

theorem StartsAt.dropLast {text : List Byte} (starts : StartsAt text) : StartsAt text.dropLast := by
  rw [dropLast_eq_take]
  exact starts.take _

theorem StartsAt.append {text : List Byte} {byte : Byte} (starts : StartsAt text)
    (passes : ¬((text.length = 0 ∧ toupper byte ≠ 65) ∨ (text.length = 1 ∧ toupper byte ≠ 84))) :
    StartsAt (text ++ [byte]) := by
  obtain ⟨notFirst, notSecond⟩ := not_or.mp passes
  constructor
  · intro character isFirst
    rcases Nat.eq_zero_or_pos text.length with empty | some
    · rw [getElem?_append_right (by omega), empty] at isFirst
      cases isFirst
      by_contra other
      exact notFirst ⟨empty, other⟩
    · rw [getElem?_append_left some] at isFirst
      exact starts.first character isFirst
  · intro character isSecond
    rcases Nat.lt_or_ge 1 text.length with long | short
    · rw [getElem?_append_left long] at isSecond
      exact starts.second character isSecond
    · rw [getElem?_append_right short] at isSecond
      by_cases single : text.length = 1
      · rw [single] at isSecond
        cases isSecond
        by_contra other
        exact notSecond ⟨single, other⟩
      · have empty : text.length = 0 := by omega
        rw [empty] at isSecond
        cases isSecond

theorem quoted_eq_odd (text : List Byte) : quoted text = (text.count 34 % 2 == 1) := by
  induction text using reverseRecOn with
  | nil => rfl
  | append_singleton text byte ih =>
    rw [quoted_append_singleton, ih, count_append, count_singleton]
    by_cases quote : byte = 34
    · subst quote
      rcases Nat.mod_two_eq_zero_or_one (text.count 34) with even | odd
      · simp [even, Nat.add_mod]
      · simp [odd, Nat.add_mod]
    · simp [quote]

variable {termination : Termination}

theorem StartsAt.edit {text : List Byte} {byte : Byte} (starts : StartsAt text) :
    StartsAt (edit termination text byte).1 := by
  unfold AtHost.edit
  split
  · exact StartsAt.nil
  · rename_i passes
    split
    · exact starts
    · split
      · exact starts.dropLast
      · split
        · dsimp only
          split
          · exact starts.dropLast
          · exact starts
        · exact starts.append passes

/-- A line that ends has at least the two characters of `AT` and all its quotes
closed; with CR+LF the text is the line and the CR. -/
theorem edit_ended {text : List Byte} {byte : Byte}
    (starts : StartsAt text) (ended : (edit termination text byte).2 = .ended) :
    2 ≤ (edit termination text byte).1.length ∧ quoted (edit termination text byte).1 = false ∧
      text = (edit termination text byte).1 ++ (if termination = .crLf then [13] else []) := by
  unfold edit at ended ⊢
  split at ended
  · cases ended
  · rename_i passes
    split at ended
    · cases ended
    · rename_i short
      split at ended
      · cases ended
      · rename_i plain
        split at ended
        · rename_i ends
          rw [if_neg passes, if_neg short, if_neg plain, if_pos ends]
          obtain ⟨closed, isEnd⟩ := Bool.and_eq_true_iff.mp ends
          rw [Bool.not_eq_true'] at closed
          have control : byte = 13 ∨ byte = 10 := by
            cases termination with
            | cr => exact .inl (by simpa [endsLine] using isEnd)
            | lf => exact .inr (by simpa [endsLine] using isEnd)
            | crLf =>
              simp only [endsLine, Bool.and_eq_true, beq_iff_eq] at isEnd
              exact .inr isEnd.1
          have others : toupper byte ≠ 65 ∧ toupper byte ≠ 84 := by
            rcases control with rfl | rfl <;> decide
          have long : 2 ≤ text.length := by
            by_contra few
            apply passes
            have fewer : text.length = 0 ∨ text.length = 1 := by omega
            exact fewer.imp (⟨·, others.1⟩) (⟨·, others.2⟩)
          by_cases crLf : termination = .crLf
          · subst crLf
            simp only [endsLine, Bool.and_eq_true, beq_iff_eq] at isEnd
            obtain ⟨line, rfl⟩ := List.getLast?_eq_some_iff.mp isEnd.2
            simp only [if_true, dropLast_concat]
            refine ⟨?_, ?_, trivial⟩
            · -- The CR is not the second character, which is a T.
              rw [length_append, length_singleton] at long
              by_contra few
              have single : line.length = 1 := by omega
              have second := starts.second 13
              rw [getElem?_append_right (by omega), single] at second
              exact absurd (second rfl) (by decide)
            · rw [quoted_append_singleton, if_neg (by decide)] at closed
              exact closed
          · rw [if_neg crLf, if_neg crLf, append_nil]
            exact ⟨long, closed, rfl⟩
        · cases ended

/-- What `cmd_send` is handed, after `text` has been typed. -/
structure SentLine (termination : Termination) (text buf : List Byte)
    (cmdLength : Nat) : Prop where
  terminated : buf[cmdLength]? = some 0
  long : 2 ≤ cmdLength
  starts : StartsAt (buf.take cmdLength)
  closed : (buf.take cmdLength).count 34 % 2 = 0
  trimmed : text = buf.take cmdLength ++ (if termination = .crLf then [13] else [])

namespace LineBuffer

def Holds (buffer : LineBuffer) (text : List Byte) : Prop :=
  ∃ command : CommandState, buffer.Represents command ∧ command.Typed text ∧ StartsAt text

theorem ctxInit_holds (heap : Nat → Byte) : (ctxInit heap).Holds [] := by
  refine ⟨(Ctx.init none).command, ⟨?_, rfl, rfl, rfl, rfl, rfl⟩,
    CommandState.Typed.nil ?_ rfl, StartsAt.nil⟩
  · rw [ctxInit, length_map, length_range]
  · exact ⟨⟨0, Nat.zero_le _, rfl⟩, by decide, fun _ => rfl⟩

variable {buffer : LineBuffer}

/-- After the label `cmd_finnish_or_fail` the line is empty. -/
theorem Represents.finished {command : CommandState}
    (represents : buffer.Represents command) (fits : command.Fits)
    (release : ReallocAnswer) : (buffer.finnishOrFail release).Holds [] := by
  obtain ⟨size, isSize, represented⟩ := represents.finnishOrFail release
  have large := fits.le_size
  have small : 2 ≤ atBufMinSize := by decide
  refine ⟨_, represented, CommandState.Typed.nil ⟨?_, ?_, fun _ => rfl⟩ rfl, StartsAt.nil⟩
  · rcases isSize with rfl | rfl
    · exact fits.size
    · exact ⟨0, Nat.zero_le _, rfl⟩
  · dsimp only
    omega

theorem Holds.text {text : List Byte} (holds : buffer.Holds text) :
    buffer.atBuf.take buffer.atCmdLen = text := by
  obtain ⟨command, represents, typed, _⟩ := holds
  rw [represents.text, typed.length, typed.buffer]

/-- One character: the block holds the next text, and `cmd_send` is called for
whole lines only. -/
theorem Holds.cmdRxHandler {text : List Byte} (holds : buffer.Holds text)
    (cfg : Config) (received : Received) :
    ∃ after outcome, buffer.cmdRxHandler cfg received = some (after, outcome) ∧
      (∃ next, after.Holds next) ∧
      (outcome = .typing ∨ outcome = .rejected ∨ ∃ buf cmdLength, outcome = .cmdSend buf cmdLength ∧
          SentLine cfg.termination text buf cmdLength) := by
  obtain ⟨command, represents, typed, starts⟩ := holds
  let grows : Nat → Bool := fun _ => received.grow.isSome
  have edited : (lineStep cfg grows received.byte command).2 ≠ .rejected →
      _ := lineStep_edit typed
  have follows : (_ → _) → Represents.Follows buffer received.release
      (lineStep cfg grows received.byte command)
      (buffer.cmdRxHandler cfg received) :=
    represents.cmdRxHandler_follows typed.fits
  generalize lineStep cfg grows received.byte command = result at edited follows
  have lineEnded : result.2 = .ended → result.1.Holds (edit cfg.termination text received.byte).1 ∧
        (edit cfg.termination text received.byte).2 = .ended := by
    intro ended
    obtain ⟨outcome, held, _⟩ := edited (by rw [ended]; simp)
    exact ⟨held, outcome.symm.trans ended⟩
  have leaves : result.2 = .ended → 0 < result.1.atCmdLen := by
    intro ended
    obtain ⟨held, isEnded⟩ := lineEnded ended
    have long := (edit_ended starts isEnded).1
    rw [held.length]
    omega
  have followed := follows leaves
  generalize buffer.cmdRxHandler cfg received = ran at followed
  cases followed with
  | typing typing represented =>
    obtain ⟨outcome, _, next⟩ := edited (by rw [typing]; simp)
    exact ⟨_, _, rfl, ⟨_, result.1, represented,
      next (outcome.symm.trans typing), starts.edit⟩, .inl rfl⟩
  | ended ended represented closed =>
    obtain ⟨held, isEnded⟩ := lineEnded ended
    obtain ⟨long, unquoted, trimmed⟩ := edit_ended starts isEnded
    have line := represented.text
    rw [represented.length, held.length, held.buffer] at line
    rw [held.length] at closed
    refine ⟨_, _, rfl, ⟨_, represented.finished held.fits _⟩, .inr (.inr ⟨_, _, rfl, ?_⟩)⟩
    rw [held.length]
    refine ⟨closed, long, ?_, ?_, ?_⟩
    · rw [line]
      exact starts.edit
    · rw [line]
      rw [quoted_eq_odd] at unquoted
      simpa using unquoted
    · rw [line]
      exact trimmed
  | rejected rejected =>
    exact ⟨_, _, rfl, ⟨_, represents.finished typed.fits _⟩, .inr (.inl rfl)⟩

theorem Holds.receive (cfg : Config) (stream : List Received) :
    ∀ {buffer : LineBuffer} {text : List Byte}, buffer.Holds text →
      ∃ after, receive cfg stream buffer = some after ∧ ∃ next, after.Holds next := by
  induction stream with
  | nil =>
    intro buffer text holds
    exact ⟨buffer, rfl, text, holds⟩
  | cons received rest ih =>
    intro buffer text holds
    obtain ⟨middle, outcome, ran, ⟨next, held⟩, _⟩ :=
      holds.cmdRxHandler cfg received
    obtain ⟨after, remaining, last⟩ := ih held
    refine ⟨after, ?_, last⟩
    rw [LineBuffer.receive, ran]
    exact remaining

/-- What `cmd_rx_handler` finds when it is entered. -/
structure Edited (buffer : LineBuffer) : Prop where
  held : buffer.atCmdLen ≤ buffer.atBuf.length
  quotes : buffer.insideQuotes = true ↔ (buffer.atBuf.take buffer.atCmdLen).count 34 % 2 = 1
  previous : 0 < buffer.atCmdLen →
    (buffer.atBuf.take buffer.atCmdLen).getLast? = some buffer.prevCharacter
  starts : StartsAt (buffer.atBuf.take buffer.atCmdLen)

/-- The block has a size between the smallest and the largest, and two more characters fit. -/
structure Bounded (buffer : LineBuffer) : Prop where
  block : buffer.atBuf.length = buffer.atBufSize
  size : ∃ doublings, buffer.atBufSize = atBufMinSize * Nat.pow 2 doublings
  most : buffer.atBufSize ≤ atBufMaxSize
  room : buffer.atCmdLen ≤ buffer.atBufSize - 2

theorem Holds.bounded {text : List Byte} (holds : buffer.Holds text) : buffer.Bounded := by
  obtain ⟨command, represents, typed, _⟩ := holds
  obtain ⟨doublings, _, size⟩ := typed.fits.size
  have room := typed.fits.room
  refine ⟨represents.block, ⟨doublings, represents.size.trans size⟩, ?_, ?_⟩
  · rw [represents.size]
    exact typed.fits.size_le
  · rw [represents.size, represents.length]
    omega

theorem Holds.edited {text : List Byte} (holds : buffer.Holds text) : buffer.Edited := by
  have bounded := holds.bounded
  have isText := holds.text
  obtain ⟨command, represents, typed, starts⟩ := holds
  refine ⟨?_, ?_, ?_, ?_⟩
  · have block := bounded.block
    have room := bounded.room
    omega
  · rw [isText, represents.quotes, typed.quotes, quoted_eq_odd]
    simp
  · intro nonempty
    rw [isText, represents.previous]
    apply typed.last
    rintro rfl
    rw [represents.length, typed.length] at nonempty
    exact absurd nonempty (Nat.lt_irrefl 0)
  · rw [isText]
    exact starts

end LineBuffer

/-- Whatever is received and whatever the heap answers, the variables describe
the line in the buffer, and `cmd_send` is called with whole lines only. -/
theorem line_editor_invariant (cfg : Config) (heap : Nat → Byte) (stream : List Received) :
    ∃ buffer, LineBuffer.receive cfg stream (LineBuffer.ctxInit heap) = some buffer ∧
      buffer.Edited ∧
      ∀ received after buf cmdLength, buffer.cmdRxHandler cfg received =
          some (after, .cmdSend buf cmdLength) →
        SentLine cfg.termination (buffer.atBuf.take buffer.atCmdLen) buf
          cmdLength := by
  obtain ⟨buffer, ran, text, holds⟩ :=
    (LineBuffer.ctxInit_holds heap).receive cfg stream
  refine ⟨buffer, ran, holds.edited, ?_⟩
  intro received after buf cmdLength sends
  obtain ⟨_, outcome, stepped, _, cases⟩ := holds.cmdRxHandler cfg received
  rw [sends] at stepped
  cases stepped
  rw [holds.text]
  rcases cases with typing | rejected | ⟨_, _, same, sent⟩
  · cases typing
  · cases rejected
  · cases same
    exact sent

/-- Whatever is received and whatever the heap answers, the line leaves room in
the buffer, every access is inside the block, every character is stored and the
last check before `cmd_send` never fails. -/
theorem line_buffer_bounds (cfg : Config) (heap : Nat → Byte) (stream : List Received) :
    ∃ buffer, LineBuffer.receive cfg stream (LineBuffer.ctxInit heap) = some buffer ∧
      buffer.Bounded ∧
      ∀ received, ∃ after outcome, buffer.cmdRxHandler cfg received = some (after, outcome) ∧
        outcome ≠ .skipped ∧ outcome ≠ .overflow := by
  obtain ⟨buffer, ran, text, holds⟩ :=
    (LineBuffer.ctxInit_holds heap).receive cfg stream
  refine ⟨buffer, ran, holds.bounded, fun received => ?_⟩
  obtain ⟨after, outcome, stepped, _, cases⟩ :=
    holds.cmdRxHandler cfg received
  refine ⟨after, outcome, stepped, ?_⟩
  rcases cases with rfl | rfl | ⟨_, _, rfl, _⟩
  · simp
  · simp
  · simp

end SerialModem.AtHost
