import SerialModem.Dfu.Answers
import SerialModem.AtHost.LineRecognition

/-!
# The commands of the script on the device

A command of the script is a line that the editor of the AT host stores as it is.
With each of its characters the device collects the line, gives it up because its
buffer cannot grow, or executes the command.
-/

namespace SerialModem.Dfu

open Library AtHost List

/-- Neither a control character nor a quote, and no `K`. -/
def Printable (byte : Byte) : Prop :=
  33 ≤ byte ∧ byte < 127 ∧ byte ≠ 34 ∧ byte ≠ 75

instance (byte : Byte) : Decidable (Printable byte) :=
  inferInstanceAs (Decidable (_ ∧ _ ∧ _ ∧ _))

/-- A command line without its end.  Behind what the smallest buffer holds, only
numbers and commas follow. -/
structure CommandText (body : List Byte) : Prop where
  starts : ∃ rest, body = 65 :: 84 :: rest
  printable : ∀ byte ∈ body, Printable byte
  later : ∀ byte ∈ body.drop 126, byte ≤ 57

/-- What `send_command` sends before the end of the line. -/
def commandBody (command : String) (params : List Nat) : List Byte :=
  ascii command ++ 61 :: encodeAscii ([','].intercalate (params.map decimal))

theorem sendCommand_eq (command : String) (params : List Nat) :
    sendCommand command params = commandBody command params ++ [13] := by
  simp [sendCommand, commandBody, encodeAscii, ascii]

variable {byte : Byte}

theorem params_bytes {params : List Nat} (member : byte ∈
      encodeAscii ([','].intercalate (params.map decimal))) :
    44 ≤ byte ∧ byte ≤ 57 := by
  obtain ⟨character, inText, rfl⟩ := mem_encodeAscii member
  have range : 44 ≤ character.toNat ∧ character.toNat ≤ 57 := by
    rcases mem_of_mem_intercalate inText with rfl | ⟨part, isPart, inside⟩
    · decide
    · obtain ⟨number, _, rfl⟩ := List.mem_map.mp isPart
      have digit := isDigit_toNat (isDigit_of_mem_decimal inside)
      omega
  rw [UInt8.le_iff_toNat_le, UInt8.le_iff_toNat_le, UInt8.toNat_ofNat']
  have exact : character.toNat % 2 ^ 8 = character.toNat :=
    Nat.mod_eq_of_lt (by omega)
  rw [exact]
  exact range

theorem commandText {command : String} (params : List Nat)
    (starts : ∃ rest, ascii command = 65 :: 84 :: rest)
    (printable : ∀ byte ∈ ascii command, Printable byte)
    (short : (ascii command).length ≤ 125) :
    CommandText (commandBody command params) where
  starts := by
    obtain ⟨rest, equality⟩ := starts
    exact ⟨_, by rw [commandBody, equality]; rfl⟩
  printable := by
    intro byte member
    rcases mem_append.mp member with inName | inRest
    · exact printable byte inName
    · rcases mem_cons.mp inRest with rfl | inParams
      · decide
      · have range := params_bytes inParams
        refine ⟨?_, ?_, ?_, ?_⟩
        · exact UInt8.le_trans (by decide) range.1
        · exact UInt8.lt_of_le_of_lt range.2 (by decide)
        · rintro rfl
          exact absurd range (by decide)
        · rintro rfl
          exact absurd range (by decide)
  later := by
    intro byte member
    have behind : byte ∈ encodeAscii ([','].intercalate (params.map decimal)) := by
      rw [commandBody, drop_append, drop_eq_nil_of_le (by omega), nil_append,
        show 126 - (ascii command).length = (125 - (ascii command).length) + 1 by omega,
        drop_succ_cons] at member
      exact mem_of_mem_drop member
    exact (params_bytes behind).2

theorem quoted_eq_false {text : List Byte} (plain : (34 : Byte) ∉ text) : quoted text = false := by
  induction text using reverseRecOn with
  | nil => rfl
  | append_singleton text byte ih =>
    rw [mem_append, not_or, mem_singleton] at plain
    rw [quoted_append_singleton, if_neg fun same => plain.2 same.symm]
    exact ih plain.1

section Editing

variable {body typed rest : List Byte} {byte : Byte}

theorem CommandText.mem (isCommand : CommandText body)
    (member : byte ∈ body ++ [13]) : Printable byte ∨ byte = 13 := by
  rcases mem_append.mp member with inBody | isEnd
  · exact .inl (isCommand.printable byte inBody)
  · exact .inr (mem_singleton.mp isEnd)

theorem CommandText.edit (isCommand : CommandText body)
    (whole : typed ++ byte :: rest = body ++ [13])
    (termination : Termination) :
    (edit termination typed byte).2 = .rejected ∨
      AtHost.edit termination typed byte = (typed ++ [byte], .typing) ∨
      (rest = [] ∧ typed = body ∧ AtHost.edit termination typed byte = (body, .ended)) := by
  have members : ∀ other ∈ typed ++ byte :: rest, Printable other ∨ other = 13 := by
    intro other member
    exact isCommand.mem (whole ▸ member)
  have own := members byte (by simp)
  have passes : ¬((typed.length = 0 ∧ toupper byte ≠ 65) ∨
      (typed.length = 1 ∧ toupper byte ≠ 84)) := by
    obtain ⟨tail, starts⟩ := isCommand.starts
    rw [starts] at whole
    rintro (⟨empty, other⟩ | ⟨single, other⟩)
    · rw [eq_nil_of_length_eq_zero empty] at whole
      rw [(List.cons.inj whole).1] at other
      exact other (by decide)
    · obtain ⟨only, rfl⟩ := length_eq_one_iff.mp single
      rw [(List.cons.inj (List.cons.inj whole).2).1] at other
      exact other (by decide)
  have unquoted : quoted typed = false := by
    apply quoted_eq_false
    intro member
    rcases members 34 (mem_append_left _ member) with printable | isEnd
    · exact printable.2.2.1 rfl
    · exact absurd isEnd (by decide)
  have plain : ¬(byte = 8 ∨ byte = 127) := by
    rintro (rfl | rfl)
    · exact absurd own (by decide)
    · exact absurd own (by decide)
  have notLf : byte ≠ 10 := by
    rintro rfl
    exact absurd own (by decide)
  unfold AtHost.edit
  rw [if_neg passes]
  by_cases full : atBufMaxSize - 2 ≤ typed.length
  · rw [if_pos full]
    exact .inl rfl
  · rw [if_neg full, if_neg plain, unquoted]
    by_cases ends : termination = .cr ∧ byte = 13
    · obtain ⟨rfl, rfl⟩ := ends
      -- The body has no carriage return, so this is the end of the command.
      have last : rest = [] ∧ typed = body := by
        rcases eq_nil_or_concat rest with rfl | ⟨front, final, rfl⟩
        · exact ⟨rfl, (append_inj' whole rfl).1⟩
        · rw [concat_eq_append, ← cons_append, ← append_assoc] at whole
          have inBody := (append_inj' whole rfl).1
          have printable := isCommand.printable 13 (by rw [← inBody]; simp)
          exact absurd printable (by decide)
      refine .inr (.inr ⟨last.1, last.2, ?_⟩)
      rw [last.2]
      simp [endsLine]
    · have continues : endsLine termination typed byte = false := by
        cases termination with
        | cr => simpa [endsLine] using ends
        | lf => simpa [endsLine] using notLf
        | crLf => simp [endsLine, notLf]
      refine .inr (.inl ?_)
      simp [continues]

end Editing

structure NoLine (command : CommandState) : Prop where
  fits : command.Fits
  empty : command.atCmdLen = 0

variable {command : CommandState}

theorem NoLine.typed (noLine : NoLine command) : command.Typed [] :=
  CommandState.Typed.nil noLine.fits noLine.empty

theorem NoLine.echoed (noLine : NoLine command) (echoLen : Nat) :
    NoLine { command with echoLen := echoLen } :=
  ⟨⟨noLine.fits.size, noLine.fits.room, noLine.fits.unquoted⟩, noLine.empty⟩

theorem Fits.echoed (fits : command.Fits) (echoLen : Nat) :
    CommandState.Fits { command with echoLen := echoLen } :=
  ⟨fits.size, fits.room, fits.unquoted⟩

theorem length_of_rejected {cfg : AtHost.Config} {grows : Nat → Bool} (fits : command.Fits)
    (rejects : (lineStep cfg grows byte command).2 = .rejected) :
    126 ≤ command.atCmdLen := by
  have size := fits.le_size
  have smallest : atBufMinSize = 128 := rfl
  have stores : ∀ state : CommandState, (storeStep cfg byte state).2 ≠ .rejected := by
    intro state
    unfold storeStep
    split
    · simp
    · split <;> simp
  unfold lineStep at rejects
  split at rejects
  · cases rejects
  · split at rejects
    · omega
    · exact absurd rejects (stores _)

theorem lineStep_filtered (cfg : AtHost.Config) (grows : Nat → Bool)
    (noLine : NoLine command) (other : toupper byte ≠ 65) :
    (lineStep cfg grows byte command).2 = .typing ∧ NoLine (lineStep cfg grows byte command).1 := by
  have isFiltered : filtered byte command := .inl ⟨noLine.empty, other⟩
  unfold lineStep
  rw [if_pos isFiltered]
  refine ⟨rfl, ⟨noLine.fits.size, ?_, fun _ => rfl⟩, rfl⟩
  have size := noLine.fits.le_size
  have smallest : atBufMinSize = 128 := rfl
  dsimp only
  omega

section Receiving

variable {cfg : Config} {env : Environment} {device : Device}
  {body typed rest : List Byte} {byte : Byte}

theorem withoutK_echoText (other : byte ≠ 75) : WithoutK (Device.echoText byte) := by
  intro member
  unfold Device.echoText at member
  split at member
  · rename_i small
    have same := congrArg Char.toNat (mem_singleton.mp member)
    rw [toNat_ofNat_of_ascii (UInt8.lt_iff_toNat_lt.mp small)] at same
    exact other (UInt8.toNat_inj.mp same.symm)
  · cases member

variable (cfg) in
theorem handleEcho_spec (other : byte ≠ 75) (send : Bool) (device : Device) :
    ∃ echoLen text, device.handleEcho cfg byte send =
        ({ device with
          command := { device.command with echoLen := echoLen } }, text) ∧
      WithoutK text := by
  unfold Device.handleEcho
  dsimp only
  split
  · refine ⟨device.command.echoLen + 1, _, rfl, ?_⟩
    split
    · exact withoutK_echoText other
    · split
      · cases cfg.termination <;> decide
      · decide
  · exact ⟨device.command.echoLen, [], rfl, by decide⟩

theorem cmdFinnishOrFail_noLine (fits : device.command.Fits) :
    NoLine (device.cmdFinnishOrFail env).command := by
  have size := fits.le_size
  have smallest : atBufMinSize = 128 := rfl
  refine ⟨⟨?_, ?_, fun _ => rfl⟩, rfl⟩
  · unfold Device.cmdFinnishOrFail
    dsimp only
    split
    · exact ⟨0, by omega, rfl⟩
    · exact fits.size
  · unfold Device.cmdFinnishOrFail
    dsimp only
    split <;> omega

inductive Takes (cfg : Config) (env : Environment) (body typed rest : List Byte)
    (byte : Byte) (device : Device) : Device × Text → Prop
  | stores {command : CommandState} {text : Text} :
      command.Typed (typed ++ [byte]) → WithoutK text →
      Takes cfg env body typed rest byte device ({ device with command := command }, text)
  | givesUp {command : CommandState} {text : Text} :
      NoLine command → (∀ later ∈ rest, later ≤ 57) → WithoutK text →
      Takes cfg env body typed rest byte device ({ device with command := command }, text)
  | executes {command : CommandState} {echo : Text} : rest = [] → command.Fits → WithoutK echo →
      Takes cfg env body typed rest byte device
        ((({ device with command := command }.cmdSend cfg env body).1.cmdFinnishOrFail env),
          echo ++ ({ device with command := command }.cmdSend cfg env body).2)

theorem CommandText.later_of_length (isCommand : CommandText body)
    (whole : typed ++ byte :: rest = body ++ [13])
    (long : 126 ≤ typed.length) : ∀ later ∈ rest, later ≤ 57 := by
  intro later member
  have behind : later ∈ (body ++ [13]).drop 126 := by
    rw [← whole, drop_append]
    apply mem_append_right
    rw [show 126 - typed.length = 0 by omega, drop_zero]
    exact mem_cons_of_mem _ member
  rw [drop_append] at behind
  rcases mem_append.mp behind with inBody | isEnd
  · exact isCommand.later later inBody
  · rw [mem_singleton.mp (mem_of_mem_drop isEnd)]
    decide

variable (cfg env) in
theorem cmdRxHandler_takes (isCommand : CommandText body) (isTyped : device.command.Typed typed)
    (whole : typed ++ byte :: rest = body ++ [13]) :
    Takes cfg env body typed rest byte device (device.cmdRxHandler cfg env byte) := by
  have notK : byte ≠ 75 := by
    have member : byte ∈ body ++ [13] := by rw [← whole]; simp
    rcases isCommand.mem member with
      printable | rfl
    · exact printable.2.2.2
    · decide
  have length := isTyped.length
  unfold Device.cmdRxHandler
  by_cases rejects : (lineStep cfg.toConfig (env.alloc device.handled) byte
      device.command).2 = .rejected
  · have long := length_of_rejected isTyped.fits rejects
    simp only [rejects]
    exact Takes.givesUp (cmdFinnishOrFail_noLine isTyped.fits)
      (isCommand.later_of_length whole (by omega)) withoutK_error
  · obtain ⟨outcome, holds, stores⟩ := lineStep_edit isTyped rejects
    have edited := isCommand.edit whole cfg.termination
    generalize lineStep cfg.toConfig (env.alloc device.handled) byte
      device.command = result at rejects outcome holds stores
    rcases edited with refused | typing | ⟨nothing, complete, ended⟩
    · rw [refused] at outcome
      exact absurd outcome rejects
    · rw [typing] at outcome holds stores
      obtain ⟨echoLen, text, echoed, without⟩ := handleEcho_spec
        cfg notK false { device with command := result.1 }
      simp only [outcome, echoed]
      exact Takes.stores (CommandState.Typed.echo (stores rfl) echoLen) without
    · rw [ended] at outcome holds
      obtain ⟨echoLen, text, echoed, without⟩ := handleEcho_spec
        cfg notK true { device with command := result.1 }
      have positive : 0 < body.length := by
        obtain ⟨tail, starts⟩ := isCommand.starts
        rw [starts]
        exact Nat.succ_pos _
      have room := holds.fits.room
      have bodyLength : result.1.atCmdLen = body.length := holds.length
      simp only [outcome, echoed]
      have ran : Device.endLine cfg env
          { device with command := { result.1 with echoLen := echoLen } } =
          Device.cmdSend cfg env body
            { device with command := { result.1 with echoLen := echoLen } } := by
        unfold Device.endLine
        dsimp only
        rw [if_neg (by omega), if_pos (by omega), bodyLength, holds.buffer]
      rw [ran]
      exact Takes.executes nothing (Fits.echoed holds.fits echoLen) without

variable (cfg env) in
theorem cmdRxHandler_between (noLine : NoLine device.command) (small : byte ≤ 57) :
    ∃ command text, device.cmdRxHandler cfg env byte = ({ device with command := command }, text) ∧
      NoLine command ∧ WithoutK text := by
  have other : toupper byte ≠ 65 ∧ byte ≠ 75 := by
    rw [UInt8.le_iff_toNat_le] at small
    have bound : byte.toNat ≤ 57 := small
    constructor
    · intro same
      unfold toupper at same
      split at same
      · rename_i letter
        have large : 97 ≤ byte.toNat := UInt8.le_iff_toNat_le.mp letter.1
        omega
      · rw [same] at bound
        exact absurd bound (by decide)
    · rintro rfl
      exact absurd bound (by decide)
  obtain ⟨outcome, stays⟩ := lineStep_filtered cfg.toConfig
    (env.alloc device.handled) noLine other.1
  obtain ⟨echoLen, text, echoed, without⟩ := handleEcho_spec cfg other.2 false
    { device with
      command := (lineStep cfg.toConfig (env.alloc device.handled) byte
        device.command).1 }
  refine ⟨_, text, ?_, stays.echoed echoLen, without⟩
  unfold Device.cmdRxHandler
  simp only [outcome, echoed]

end Receiving

end SerialModem.Dfu
