import SerialModem.AtHost.CommandLine
import Mathlib.Data.List.Induction

/-!
# Recognising lines

Two characters stand between the noise on a line and its first command: nothing
is buffered until `AT` is received.  The filter forgets a refused character and
does not try it as the start of the next match.  The same filter is what is
left of the editor after it has rejected a line, although the rest of that line
is still to come.
-/

namespace SerialModem.AtHost

open Library List Option

variable {cfg : Config} {env : Environment} {c : CtxId}

theorem storeStep_length (cfg : Config) (byte : Byte) (command : CommandState) :
    (storeStep cfg byte command).1.atCmdLen ≤ command.atCmdLen + 1 ∧
      ((storeStep cfg byte command).2 = .ended →
        (storeStep cfg byte command).1.atCmdLen ≤ command.atCmdLen) := by
  unfold storeStep
  split
  · refine ⟨?_, fun _ => ?_⟩ <;> dsimp only <;> omega
  · split
    · refine ⟨?_, fun _ => ?_⟩ <;> dsimp only <;> split <;> omega
    · refine ⟨Nat.le_refl _, ?_⟩
      intro impossible
      cases impossible

theorem lineStep_length (cfg : Config) (grows : Nat → Bool) (byte : Byte) (command : CommandState) :
    (lineStep cfg grows byte command).1.atCmdLen ≤ command.atCmdLen + 1 ∧
      ((lineStep cfg grows byte command).2 = .ended →
        (lineStep cfg grows byte command).1.atCmdLen ≤ command.atCmdLen) := by
  unfold lineStep
  split
  · exact ⟨Nat.zero_le _, fun _ => Nat.zero_le _⟩
  · split
    · split
      · exact ⟨Nat.le_succ _, fun _ => Nat.le_refl _⟩
      · exact storeStep_length cfg byte _
    · exact storeStep_length cfg byte command

theorem cmdSendCalls_length {bytes : List Byte} : ∀ {host : Host} {line : List Byte},
      line ∈ cmdSendCalls cfg env c bytes host →
      line.length + 1 ≤ (host.command c).atCmdLen + bytes.length := by
  induction bytes with
  | nil =>
    intro host line sent
    exact absurd sent (not_mem_nil)
  | cons byte rest ih =>
    intro host line sent
    have bounds := lineStep_length cfg (env.alloc host.history c) byte (host.command c)
    rcases mem_append.mp sent with now | later
    · rw [mem_toList, sentLine] at now
      split at now
      · rename_i sends
        cases now
        have shorter := bounds.2 sends.1
        have taken := length_take_le (lineStepOf cfg env c byte host).1.atCmdLen
          (lineStepOf cfg env c byte host).1.atBuf
        rw [lineStepOf] at taken
        rw [lineStepOf, length_cons]
        omega
      · cases now
    · cases ran : cmdRxHandler cfg env c byte host with
      | none =>
        rw [ran] at later
        exact absurd later (not_mem_nil)
      | some after =>
        rw [ran] at later
        have bound := ih later
        rw [length_cons]
        by_cases typing : (lineStepOf cfg env c byte host).2 = .typing
        · obtain ⟨_, echoLen, sameStep, typed, _⟩ :=
            cmdRxHandler_typing typing
          rw [ran] at sameStep
          cases sameStep
          rw [typed, lineStepOf] at bound
          have longer := bounds.1
          dsimp only at bound
          omega
        · have empty := (cmdRxHandler_settled typing ran).1
          omega

variable {text : List Byte}

theorem CommandState.Typed.echo {command : CommandState}
    (typed : command.Typed text) (echoLen : Nat) :
    CommandState.Typed { command with echoLen := echoLen } text where
  fits := ⟨typed.fits.size, typed.fits.room, typed.fits.unquoted⟩
  length := typed.length
  buffer := typed.buffer
  last := typed.last
  quotes := typed.quotes

variable {byte : Byte} {host : Host}

theorem cmdRxHandler_types (typed : (host.command c).Typed text)
    (accepts : (lineStepOf cfg env c byte host).2 ≠ .rejected)
    (typing : (edit cfg.termination text byte).2 = .typing) :
    ∃ after, cmdRxHandler cfg env c byte host = some after ∧
      (after.command c).Typed (edit cfg.termination text byte).1 ∧
      sentLine cfg env c byte host = none ∧ Echoes host after := by
  obtain ⟨outcome, _, edited⟩ := lineStep_edit typed accepts
  have stays : (lineStepOf cfg env c byte host).2 = .typing :=
    outcome.trans typing
  obtain ⟨after, echoLen, ran, command, echoes⟩ :=
    cmdRxHandler_typing stays
  refine ⟨after, ran, ?_, sentLine_of_not_ended ?_, echoes⟩
  · rw [command]
    exact (edited typing).echo echoLen
  · rw [stays]
    simp

/-- Every `realloc` up to the largest buffer succeeds. -/
def HeapGrants (env : Environment) (c : CtxId) : Prop :=
  ∀ history size, size ≤ atBufMaxSize → env.alloc history c size = true

theorem HeapGrants.accepts (grants : HeapGrants env c) (typed : (host.command c).Typed text)
    (accepts : (edit cfg.termination text byte).2 ≠ .rejected) :
    (lineStepOf cfg env c byte host).2 ≠ .rejected := by
  intro rejects
  rcases lineStep_rejected typed rejects with ⟨size, within, refused⟩ | long
  · rw [grants host.history size within] at refused
    cases refused
  · exact accepts long

/-- A text that neither ends nor edits the line, typed after `text`. -/
def Extends (termination : Termination) (text word : List Byte) : Prop :=
  ∀ typed byte rest, word = typed ++ byte :: rest →
    edit termination (text ++ typed) byte = (text ++ typed ++ [byte], .typing)

variable {termination : Termination}

theorem Extends.tail {rest : List Byte} (extending : Extends termination text (byte :: rest)) :
    Extends termination (text ++ [byte]) rest := by
  intro typed next remaining equality
  have longer := extending (byte :: typed) next remaining (by rw [equality]; rfl)
  simpa using longer

theorem feedCmd_types (grants : HeapGrants env c) {word : List Byte} :
    ∀ {text : List Byte} {host : Host}, (host.command c).Typed text →
      Extends cfg.termination text word →
      ∃ after, feedCmd cfg env c word host = some after ∧ cmdSendCalls cfg env c word host = [] ∧
        (after.command c).Typed (text ++ word) := by
  induction word with
  | nil =>
    intro text host typed _
    refine ⟨host, rfl, rfl, ?_⟩
    rwa [append_nil]
  | cons byte rest ih =>
    intro text host typed extending
    have first := extending [] byte rest rfl
    rw [append_nil] at first
    obtain ⟨middle, ran, longer, silent, _⟩ :=
      cmdRxHandler_types typed (grants.accepts typed (by rw [first]; simp)) (by rw [first])
    rw [first] at longer
    obtain ⟨after, fed, calls, whole⟩ :=
      ih longer extending.tail
    refine ⟨after, ?_, ?_, ?_⟩
    · rw [feedCmd, ran]
      exact fed
    · rw [cmdSendCalls, silent, ran]
      exact calls
    · simpa using whole

theorem SameCommands.idleWork (d : CtxId) (host : Host) :
    SameCommands host (idleWork cfg d host) := by
  have flushed : SameCommands (host.setCurrentCtx (some d))
      (AtHost.flushPipeUrcs cfg d (host.setCurrentCtx (some d))) :=
    SameCommands.flushPipeUrcs d _
  exact flushed

theorem SameCommands.handleMessage (message : Message) (host : Host) :
    SameCommands host (handleMessage cfg message host) := by
  unfold AtHost.handleMessage
  split
  · split
    · split
      · exact SameCommands.idleWork _ host
      · exact SameCommands.checkIdleTimer _ false host
    · exact SameCommands.refl host
  · exact SameCommands.refl host

theorem SameCommands.smAtHostWorkFn (host : Host) :
    SameCommands host (smAtHostWorkFn cfg host) := by
  have handled : ∀ (messages : List Message) (state : Host), SameCommands state (messages.foldl
        (fun current message => AtHost.handleMessage cfg message current)
        state) := by
    intro messages
    induction messages with
    | nil => exact SameCommands.refl
    | cons message rest ih =>
      intro state
      exact (SameCommands.handleMessage message state).trans
        (ih (AtHost.handleMessage cfg message state))
  unfold AtHost.smAtHostWorkFn
  exact SameCommands.trans (SameCommands.of_ctx rfl) (handled _ _)

theorem SameCommands.enterWork (work : Work) (host : Host) :
    SameCommands host (enterWork cfg work host) := by
  cases work with
  | rx d =>
    simp only [AtHost.enterWork]
    unfold enterRxWork
    split
    · split
      · exact SameCommands.refl host
      · split
        · exact SameCommands.refl host
        · exact SameCommands.of_ctx rfl
    · exact SameCommands.refl host
  | rawSendScheduled d mark => exact SameCommands.of_ctx rfl
  | atHost => exact SameCommands.smAtHostWorkFn host
  | poll d => exact SameCommands.refl host

theorem step_allFit {action : Action} {after : Host}
    (taken : step cfg env action host = some after) (fit : AllFit host) :
    AllFit after := by
  cases step_cases taken with
  | pipeReceive d content pipe _ _ =>
    refine fit.of_same (SameCommands.trans ?_ (SameCommands.submitWork _ _))
    exact SameCommands.of_ctx rfl
  | inactivityExpiry d _ =>
    have stopped : SameCommands host (setInactivityTimer d false host) :=
      SameCommands.setCtx host rfl
    refine fit.of_same (stopped.trans ?_)
    unfold inactivityTimerHandler
    split
    · exact SameCommands.refl _
    · exact SameCommands.submitWork _ _
  | idleExpiry d _ =>
    refine fit.of_same (SameCommands.trans ?_ (SameCommands.sendMsg _ _))
    exact SameCommands.setCtx host rfl
  | dispatch work rest _ _ =>
    exact fit.of_same (SameCommands.trans (SameCommands.of_ctx rfl) (SameCommands.enterWork work _))
  | receiveByte d pipe byte rest handled _ _ received =>
    have handledFit : AllFit handled :=
      smAtReceive_allFit received fit
    unfold continueRxWork
    split
    · exact handledFit
    · exact handledFit
  | receiveEnd d pipe _ => exact fit
  | flush d mark flushed _ ran =>
    have flushedFit : AllFit flushed :=
      (rawSendScheduled_effects ran).allFit fit
    exact flushedFit
  | exitDatamodeHandler d result _ =>
    have effects : Effects cfg env Effect.inDataMode host
        (exitDatamodeHandler cfg env d result host) :=
      exitDatamodeHandler_effects d result host
    exact effects.allFit fit
  | call hostCall _ => exact fit.of_same (SameCommands.performCall hostCall host)

/-- No command outgrows its buffer in any run. -/
theorem reachable_allFit (reachable : ReachableState cfg env host) : AllFit host := by
  refine Reachable.invariant ?_ ?_ reachable
  · intro start initial d
    obtain ⟨pipe, isInit⟩ := initial.ctx d
    rw [Host.command, isInit]
    refine ⟨⟨0, Nat.zero_le _, ?_⟩, ?_, fun _ => rfl⟩
    · rfl
    · exact (by decide : 0 + 2 ≤ atBufMinSize)
  · intro state action next fit _ taken
    exact step_allFit taken fit

/-- `AT`, in either case of its letters, stands somewhere in the text. -/
def ContainsAt (text : List Byte) : Prop :=
  ∃ before first second rest, text = before ++ first :: second :: rest ∧
    toupper first = 65 ∧ toupper second = 84

theorem containsAt_iff_skipToAt (text : List Byte) : ContainsAt text ↔ skipToAt text ≠ none := by
  fun_induction skipToAt text with
  | case1 first second rest isAt =>
    refine iff_of_true ⟨[], first, second, rest, rfl, isAt⟩ (by simp)
  | case2 first second rest other ih =>
    rw [← ih]
    constructor
    · rintro ⟨before, a, t, tail, equality, isA, isT⟩
      cases before with
      | nil =>
        cases equality
        exact absurd ⟨isA, isT⟩ other
      | cons head before =>
        exact ⟨before, a, t, tail, (List.cons.inj equality).2, isA, isT⟩
    · rintro ⟨before, a, t, tail, equality, isA, isT⟩
      exact ⟨first :: before, a, t, tail, by rw [equality]; rfl, isA, isT⟩
  | case3 text short =>
    refine iff_of_false ?_ (by simp)
    rintro ⟨before, a, t, tail, rfl, isA, isT⟩
    cases before with
    | nil => exact short a t tail rfl
    | cons head before =>
      cases before with
      | nil => exact short head a (t :: tail) rfl
      | cons next before => exact short head next _ rfl

instance (text : List Byte) : Decidable (ContainsAt text) :=
  decidable_of_iff _ (containsAt_iff_skipToAt text).symm

/-- A text that the editor stores as it is: it begins with `AT`, has no erase
character and no line end outside quotes. -/
structure LineText (termination : Termination) (text : List Byte) : Prop where
  starts : ∃ first second rest, text = first :: second :: rest ∧
    toupper first = 65 ∧ toupper second = 84
  plain : ∀ byte, byte ∈ text → ¬(byte = 8 ∨ byte = 127)
  unended : ∀ typed byte rest, text = typed ++ byte :: rest →
    (!quoted typed && endsLine termination typed byte) ≠ true

/-- A line that begins with `AT`, has no erase character, and ends at its terminator. -/
structure CommandLine (termination : Termination) (line : List Byte) :
    Prop extends LineText termination line where
  closed : quoted line = false

def lineTerminator (termination : Termination) : List Byte :=
  (lineEnd termination).1 ++ [(lineEnd termination).2]

theorem CommandLine.body {termination : Termination} {line : List Byte}
    (isLine : CommandLine termination line) :
    LineText termination (line ++ (lineEnd termination).1) := by
  cases termination with
  | cr | lf => simpa [lineEnd] using isLine.toLineText
  | crLf =>
    obtain ⟨first, second, rest, equality, isA, isT⟩ := isLine.starts
    refine ⟨⟨first, second, rest ++ [13], by rw [equality]; rfl, isA, isT⟩, ?_, ?_⟩
    · intro byte member
      rcases mem_append.mp member with inLine | isCr
      · exact isLine.plain byte inLine
      · rw [mem_singleton.mp isCr]
        decide
    · intro typed byte remaining split
      rcases eq_nil_or_concat remaining with rfl | ⟨front, last, rfl⟩
      · have isCr := (append_inj' split rfl).2
        cases isCr
        simp [endsLine]
      · rw [concat_eq_append, ← cons_append, ← append_assoc] at split
        exact isLine.unended typed byte front (append_inj' split rfl).1

theorem LineText.extending (isText : LineText termination text)
    {word more : List Byte} (isPrefix : text = word ++ more)
    (short : word.length ≤ atBufMaxSize - 2) :
    Extends termination [] word := by
  intro typed byte rest equality
  have split : text = typed ++ byte :: (rest ++ more) := by
    rw [isPrefix, equality, append_assoc, cons_append]
  have shorter : typed.length < word.length := by
    rw [equality, length_append, length_cons]
    omega
  have plain := isText.plain byte (by rw [split]; simp)
  obtain ⟨first, second, tail, starts, isA, isT⟩ := isText.starts
  rw [nil_append, edit, if_neg ?_, if_neg (by omega), if_neg plain,
    if_neg (isText.unended typed byte _ split)]
  rintro (⟨empty, other⟩ | ⟨single, other⟩)
  · rw [eq_nil_of_length_eq_zero empty, starts] at split
    rw [← (List.cons.inj split).1] at other
    exact other isA
  · obtain ⟨only, rfl⟩ := length_eq_one_iff.mp single
    rw [starts] at split
    rw [← (List.cons.inj (List.cons.inj split).2).1] at other
    exact other isT

variable {line : List Byte}

theorem edit_end (isLine : CommandLine termination line)
    (short : (line ++ (lineEnd termination).1).length < atBufMaxSize - 2) :
    edit termination (line ++ (lineEnd termination).1)
      (lineEnd termination).2 = (line, .ended) := by
  obtain ⟨first, second, tail, starts, _, _⟩ := isLine.starts
  have long : 2 ≤ line.length := by
    rw [starts]
    simp
  have outside := isLine.closed
  cases termination with
  | cr | lf =>
    rw [lineEnd, append_nil] at short ⊢
    rw [edit, if_neg (by omega), if_neg (by omega), if_neg (by decide)]
    simp [endsLine, outside]
  | crLf =>
    simp only [lineEnd] at short ⊢
    have length : (line ++ [(13 : Byte)]).length = line.length + 1 := by simp
    rw [edit, if_neg (by omega), if_neg (by omega), if_neg (by decide)]
    simp [endsLine, quoted_append_singleton, outside]

/-- The number of `A`s, in either case, at the end of the noise. -/
def trailingAs (noise : List Byte) : Nat :=
  (noise.reverse.takeWhile fun byte => toupper byte = 65).length

theorem trailingAs_append_singleton (noise : List Byte) (byte : Byte) :
    trailingAs (noise ++ [byte]) =
      if toupper byte = 65 then trailingAs noise + 1 else 0 := by
  rw [trailingAs, reverse_append, reverse_singleton, singleton_append, takeWhile_cons]
  split
  · rename_i isA
    rw [if_pos (of_decide_eq_true isA), length_cons, trailingAs]
  · rename_i other
    rw [if_neg (fun isA => other (decide_eq_true isA)), length_nil]

theorem trailingAs_eq_zero_of_noAt {noise : List Byte}
    (noAt : ¬ContainsAt (noise ++ [byte])) (isT : toupper byte = 84) :
    trailingAs noise = 0 := by
  rcases eq_nil_or_concat noise with rfl | ⟨front, last, rfl⟩
  · rfl
  · rw [concat_eq_append] at noAt ⊢
    rw [trailingAs_append_singleton]
    apply if_neg
    intro isA
    exact noAt ⟨front, last, byte, [], by simp, isA, isT⟩

theorem ContainsAt.append {first : List Byte} (contains : ContainsAt first)
    (second : List Byte) : ContainsAt (first ++ second) := by
  obtain ⟨before, isFirst, isSecond, rest, rfl, isA, isT⟩ := contains
  exact ⟨before, isFirst, isSecond, rest ++ second, by simp, isA, isT⟩

theorem edit_letter (termination : Termination) (isLetter : toupper byte = 65 ∨ toupper byte = 84)
    (passes : ¬((text.length = 0 ∧ toupper byte ≠ 65) ∨
      (text.length = 1 ∧ toupper byte ≠ 84))) (short : text.length ≤ 1) :
    edit termination text byte = (text ++ [byte], .typing) := by
  have others : ∀ other : Byte, toupper other ≠ 65 → toupper other ≠ 84 → byte ≠ other := by
    rintro other notA notT rfl
    exact isLetter.elim notA notT
  have plain : ¬(byte = 8 ∨ byte = 127) := by
    rintro (isErase | isErase)
    · exact others 8 (by decide) (by decide) isErase
    · exact others 127 (by decide) (by decide) isErase
  have unended : endsLine termination text byte = false := by
    have notCr := others 13 (by decide) (by decide)
    have notLf := others 10 (by decide) (by decide)
    cases termination with
    | cr => simpa [endsLine] using notCr
    | lf => simpa [endsLine] using notLf
    | crLf => simp [endsLine, notLf]
  have room : ¬atBufMaxSize - 2 ≤ text.length := by
    have maximum : atBufMaxSize = 8192 := rfl
    omega
  rw [edit, if_neg passes, if_neg room, if_neg plain, if_neg (by simp [unended])]

theorem edit_noise (termination : Termination) {noise : List Byte}
    (remembered : text.length = trailingAs noise % 2)
    (noAt : ¬ContainsAt (noise ++ [byte])) :
    (edit termination text byte).2 = .typing ∧ (edit termination text byte).1.length =
        trailingAs (noise ++ [byte]) % 2 := by
  rw [trailingAs_append_singleton]
  rcases Nat.mod_two_eq_zero_or_one (trailingAs noise) with even | odd
  · rw [even] at remembered
    rw [eq_nil_of_length_eq_zero remembered]
    split
    · rename_i isA
      have typed : edit termination [] byte = ([byte], .typing) :=
        edit_letter termination (.inl isA) (by simp [isA]) (by simp)
      rw [typed]
      refine ⟨rfl, ?_⟩
      rw [length_singleton]
      omega
    · rename_i other
      rw [edit, if_pos (.inl ⟨rfl, other⟩)]
      exact ⟨rfl, rfl⟩
  · have notT : toupper byte ≠ 84 := by
      intro isT
      rw [trailingAs_eq_zero_of_noAt noAt isT] at odd
      exact absurd odd (by decide)
    rw [odd] at remembered
    rw [edit, if_pos (.inr ⟨remembered, notT⟩)]
    refine ⟨rfl, ?_⟩
    rw [length_nil]
    split
    · omega
    · rfl

theorem feedCmd_noise (grants : HeapGrants env c)
    (typed : (host.command c).Typed []) (noise : List Byte) :
    ¬ContainsAt noise →
    ∃ after text, feedCmd cfg env c noise host = some after ∧
      cmdSendCalls cfg env c noise host = [] ∧
      (after.command c).Typed text ∧
      text.length = trailingAs noise % 2 := by
  induction noise using reverseRecOn with
  | nil =>
    intro _
    exact ⟨host, [], rfl, rfl, typed, rfl⟩
  | append_singleton noise byte ih =>
    intro noAt
    obtain ⟨middle, text, fed, calls, stored, remembered⟩ :=
      ih fun contains => noAt (contains.append [byte])
    obtain ⟨typing, length⟩ := edit_noise cfg.termination remembered noAt
    obtain ⟨after, ran, edited, silent, _⟩ :=
      cmdRxHandler_types stored (grants.accepts stored (by rw [typing]; simp)) typing
    refine ⟨after, _, ?_, ?_, edited, length⟩
    · rw [feedCmd_append, fed, bind_some, feedCmd, ran]
      rfl
    · rw [cmdSendCalls_append [byte] fed, calls, cmdSendCalls, silent, ran]
      rfl

theorem sentLine_of_ended (ended : (lineStepOf cfg env c byte host).2 = .ended)
    (holds : (lineStepOf cfg env c byte host).1.Holds line)
    (nonempty : line ≠ []) :
    sentLine cfg env c byte host = some line := by
  have room := holds.fits.room
  have length := holds.length
  have positive := length_pos_iff.mpr nonempty
  rw [sentLine, if_pos ⟨ended, by omega, by omega⟩, length, holds.buffer]

theorem cmdSendCalls_line (grants : HeapGrants env c) (typed : (host.command c).Typed [])
    (isLine : CommandLine cfg.termination line)
    (short : line.length + (lineEnd cfg.termination).1.length < atBufMaxSize - 2) :
    cmdSendCalls cfg env c (line ++ lineTerminator cfg.termination) host = [line] := by
  have within : (line ++ (lineEnd cfg.termination).1).length < atBufMaxSize - 2 := by
    rw [length_append]
    exact short
  obtain ⟨middle, fed, calls, stored⟩ :=
    feedCmd_types grants typed (isLine.body.extending (append_nil _).symm (Nat.le_of_lt within))
  rw [nil_append] at stored
  have ends := edit_end isLine within
  obtain ⟨outcome, holds, _⟩ := lineStep_edit stored (grants.accepts stored (by rw [ends]; simp))
  rw [ends] at outcome holds
  rw [lineTerminator, ← append_assoc, cmdSendCalls_append _ fed, calls, nil_append]
  have nonempty : line ≠ [] := by
    obtain ⟨first, second, rest, starts, _, _⟩ := isLine.starts
    rw [starts]
    exact cons_ne_nil _ _
  have sent : sentLine cfg env c (lineEnd cfg.termination).2 middle = some line :=
    sentLine_of_ended outcome holds nonempty
  rw [cmdSendCalls, sent]
  cases cmdRxHandler cfg env c (lineEnd cfg.termination).2 middle with
  | none | some after => rfl

theorem overlong_split (isLine : CommandLine termination line)
    (long : atBufMaxSize - 2 ≤ line.length + (lineEnd termination).1.length) :
    ∃ word byte rest, line ++ lineTerminator termination = word ++ byte :: rest ∧
      Extends termination [] word ∧ word.length = atBufMaxSize - 2 ∧
      word.length + rest.length = line.length + (lineEnd termination).1.length := by
  obtain ⟨word, more, isPrefix, length⟩ : ∃ word more,
      line ++ (lineEnd termination).1 = word ++ more ∧ word.length = atBufMaxSize - 2 := by
    refine ⟨(line ++ (lineEnd termination).1).take (atBufMaxSize - 2), _,
      (take_append_drop _ _).symm, length_take_of_le ?_⟩
    rw [length_append]
    exact long
  obtain ⟨byte, rest, remaining⟩ : ∃ byte rest, more ++ [(lineEnd termination).2] = byte :: rest :=
    exists_cons_of_ne_nil (by simp)
  have lengths := congrArg List.length isPrefix
  have restLength := congrArg List.length remaining
  rw [length_append, length_append] at lengths
  rw [length_append, length_singleton, length_cons] at restLength
  refine ⟨word, byte, rest, ?_,
    isLine.body.extending isPrefix (Nat.le_of_eq length), length, by omega⟩
  rw [lineTerminator, ← append_assoc, isPrefix, append_assoc, remaining]

theorem edit_overlong (termination : Termination) (byte : Byte)
    (length : text.length = atBufMaxSize - 2) :
    (edit termination text byte).2 = .rejected := by
  have maximum : atBufMaxSize - 2 = 8190 := by decide
  rw [edit, if_neg (by omega), if_pos (Nat.le_of_eq length.symm)]

theorem cmdSendCalls_overlong (grants : HeapGrants env c) (typed : (host.command c).Typed [])
    (isLine : CommandLine cfg.termination line)
    (long : atBufMaxSize - 2 ≤ line.length + (lineEnd cfg.termination).1.length) {sent : List Byte}
    (isSent : sent ∈ cmdSendCalls cfg env c (line ++ lineTerminator cfg.termination) host) :
    sent.length < line.length := by
  have terminatorLength : (lineEnd cfg.termination).1.length ≤ 1 := by
    cases cfg.termination <;> decide
  have maximum : atBufMaxSize - 2 = 8190 := by decide
  obtain ⟨word, byte, rest, split, extending, length, lengths⟩ :=
    overlong_split isLine long
  obtain ⟨middle, fed, calls, stored⟩ := feedCmd_types grants typed extending
  have rejects : (lineStepOf cfg env c byte middle).2 = .rejected :=
    lineStep_rejects stored (edit_overlong cfg.termination byte length)
  have ran := cmdRxHandler_rejected rejects
  have empty := (cmdRxHandler_settled (by rw [rejects]; simp) ran).1
  rw [split, cmdSendCalls_append _ fed, calls, nil_append, cmdSendCalls,
    sentLine_of_not_ended (by rw [rejects]; simp), ran] at isSent
  have bound := cmdSendCalls_length isSent
  omega

theorem cmdSendCalls_swallowed (grants : HeapGrants env c)
    (typed : (host.command c).Typed text) (single : text.length = 1)
    (isLine : CommandLine cfg.termination line) {sent : List Byte}
    (isSent : sent ∈ cmdSendCalls cfg env c (line ++ lineTerminator cfg.termination) host) :
    sent.length < line.length := by
  obtain ⟨first, second, rest, rfl, isA, isT⟩ := isLine.starts
  have firstRefused : edit cfg.termination text first = ([], .typing) := by
    rw [edit, if_pos (.inr ⟨single, by rw [isA]; decide⟩)]
  have secondRefused : edit cfg.termination [] second = ([], .typing) := by
    rw [edit, if_pos (.inl ⟨rfl, by rw [isT]; decide⟩)]
  obtain ⟨middle, firstExecuted, cleared, firstSilent, _⟩ :=
    cmdRxHandler_types typed (grants.accepts typed (by rw [firstRefused]; simp))
      (by rw [firstRefused])
  rw [firstRefused] at cleared
  obtain ⟨after, secondExecuted, stillCleared, secondSilent, _⟩ :=
    cmdRxHandler_types cleared (grants.accepts cleared (by rw [secondRefused]; simp))
      (by rw [secondRefused])
  rw [secondRefused] at stillCleared
  rw [cons_append, cmdSendCalls, firstSilent, firstExecuted] at isSent
  simp only [toList_none, nil_append, map_some, getD_some] at isSent
  rw [cons_append, cmdSendCalls, secondSilent, secondExecuted] at isSent
  have bound := cmdSendCalls_length isSent
  have terminatorLength : (lineTerminator cfg.termination).length ≤ 2 := by
    cases cfg.termination <;> decide
  rw [stillCleared.length, length_append, length_nil] at bound
  simp only [length_cons]
  omega

/-- A command after noise is executed if and only if an even number of `A`s
stands before it and it fits the buffer. -/
theorem command_after_noise_iff {host : Host} (reachable : ReachableState cfg env host)
    (grants : HeapGrants env c) (empty : (host.command c).atCmdLen = 0)
    {noise line : List Byte} (noAt : ¬ContainsAt (noise ++ line.take 1))
    (isLine : CommandLine cfg.termination line) :
    cmdSendCalls cfg env c (noise ++ line ++ lineTerminator cfg.termination) host = [line] ↔
      trailingAs noise % 2 = 0 ∧ line.length + (lineEnd cfg.termination).1.length <
          atBufMaxSize - 2 := by
  have typed := CommandState.Typed.nil (reachable_allFit reachable c) empty
  obtain ⟨after, text, fed, calls, stored, remembered⟩ :=
    feedCmd_noise grants typed noise fun contains =>
      noAt (contains.append (line.take 1))
  have split : cmdSendCalls cfg env c (noise ++ line ++ lineTerminator cfg.termination) host =
        cmdSendCalls cfg env c (line ++ lineTerminator cfg.termination)
          after := by
    rw [append_assoc, cmdSendCalls_append _ fed, calls, nil_append]
  have notShorter : (∀ sent, sent ∈ cmdSendCalls cfg env c
      (line ++ lineTerminator cfg.termination) after → sent.length < line.length) →
      cmdSendCalls cfg env c (line ++ lineTerminator cfg.termination) after ≠ [line] := by
    intro shorter equality
    exact absurd (shorter line (by rw [equality]; simp)) (Nat.lt_irrefl _)
  rw [split]
  rcases Nat.mod_two_eq_zero_or_one (trailingAs noise) with even | odd
  · rw [even] at remembered
    rw [eq_nil_of_length_eq_zero remembered] at stored
    constructor
    · intro ran
      refine ⟨even, ?_⟩
      by_contra long
      exact notShorter (fun sent => cmdSendCalls_overlong grants stored isLine
        (Nat.le_of_not_lt long)) ran
    · rintro ⟨-, short⟩
      exact cmdSendCalls_line grants stored isLine short
  · rw [odd] at remembered
    constructor
    · intro ran
      exact absurd ran (notShorter fun sent =>
        cmdSendCalls_swallowed grants stored remembered isLine)
    · rintro ⟨even, -⟩
      rw [even] at odd
      cases odd

theorem commandLine_of_plain (starts : ∃ first second rest, line = first :: second :: rest ∧
      toupper first = 65 ∧ toupper second = 84)
    (plain : ∀ byte, byte ∈ line → ¬(byte = 8 ∨ byte = 127))
    (unended : ∀ byte, byte ∈ line → byte ≠ 13) (closed : quoted line = false) :
    CommandLine .cr line where
  starts := starts
  plain := plain
  unended := by
    intro typed byte rest split
    have other := unended byte (by rw [split]; simp)
    simp [endsLine, other]
  closed := closed

theorem commandLine_at : CommandLine .cr [65, 84] := by
  apply commandLine_of_plain ⟨65, 84, [], rfl, by decide, by decide⟩
  · intro byte member
    rcases mem_pair.mp member with rfl | rfl
    · decide
    · decide
  · intro byte member
    rcases mem_pair.mp member with rfl | rfl
    · decide
    · decide
  · decide

theorem sessionEnv_heapGrants (dataLen : UInt32) (send : SendBehaviour)
    (c : CtxId) : HeapGrants (sessionEnv dataLen send) c :=
  fun _ _ _ => rfl

/-- The noise `Aa` is dropped as a whole, so that the command behind it is found. -/
theorem command_after_two_as : cmdSendCalls plusConfig (sessionEnv 0 consumeAll) 0
      ([65, 97] ++ [65, 84] ++ lineTerminator plusConfig.termination)
      (freshHost [0]) = [[65, 84]] :=
  (command_after_noise_iff (Reachable.start (freshHost_initial [0]))
    (sessionEnv_heapGrants 0 consumeAll 0) rfl (by decide)
    commandLine_at).mpr ⟨by decide, by decide⟩

/-- `AAT` is not recognised. -/
theorem command_swallowed_after_a :
    ReachableState plusConfig (sessionEnv 0 consumeAll) (freshHost [0]) ∧
      ((freshHost [0]).command 0).atCmdLen = 0 ∧
      ¬ContainsAt ([65] ++ [65]) ∧
      CommandLine plusConfig.termination [65, 84] ∧
      cmdSendCalls plusConfig (sessionEnv 0 consumeAll) 0
        ([65] ++ [65, 84] ++ lineTerminator plusConfig.termination)
        (freshHost [0]) = [] :=
  ⟨Reachable.start (freshHost_initial [0]), rfl, by decide, commandLine_at, by decide⟩

end SerialModem.AtHost
