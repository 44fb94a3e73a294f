import Mathlib.Data.List.TakeDrop
import SerialModem.AtHost.LineRecognition

/-!
# The echo of a command line

Every byte of a line counts towards `CONFIG_SM_AT_ECHO_MAX_LEN`, and so does
every byte in front of it since the counter was cleared.  A byte that reaches
the limit is not echoed; at the end of the line the termination characters are
sent in its place.
-/

namespace SerialModem.AtHost

open Library List Option

def Event.echo (c : CtxId) : Event → List Byte
  | .echoed d content => if d = c then content else []
  | _ => []

def echoes (c : CtxId) (history : History) : List Byte :=
  history.flatMap (Event.echo c)

def echoOf (c : CtxId) (before after : Host) : List Byte :=
  echoes c (after.history.drop before.history.length)

/-- A line up to the limit is echoed whole, a longer one cut and with its terminator. -/
def EchoLaw (termination : Termination) (limit : Nat) (line echo : List Byte) :
    Prop :=
  if line.length ≤ limit then
    echo = line
  else
    ∃ count, echo = line.take count ++ lineTerminator termination ∧ echo.length ≤ limit

/-- When the echo obeys the law, after `echoLen` counted bytes. -/
def EchoFits (limit echoLen : Nat) (line : List Byte) : Termination → Prop
  | .crLf =>
    echoLen + line.length < limit ∨ (limit < line.length ∧ 0 < echoLen) ∨
      (line.length ≤ limit ∧ echoLen + line.length = limit + 1 ∧ [13, 10] <:+ line)
  | _ => echoLen + line.length ≤ limit ∨ limit < line.length

variable {cfg : Config} {env : Environment} {c : CtxId}

variable (cfg env c) in
/-- The bytes of a line are handed to `cmd_rx_handler` until it sends the line,
and meanwhile the line never becomes empty.  Other work between two bytes leaves
the line as it is. -/
inductive TypesLine : Host → List Byte → List Byte → Prop
  | last {byte : Byte} {host after : Host} (ends : (lineStepOf cfg env c byte host).2 = .ended)
      (handled : cmdRxHandler cfg env c byte host = some after) :
      TypesLine host [byte] (echoOf c host after)
  | next {byte : Byte} {host after resumed : Host} {rest echo : List Byte}
      (types : (lineStepOf cfg env c byte host).2 = .typing)
      (handled : cmdRxHandler cfg env c byte host = some after)
      (begun : 0 < (after.command c).atCmdLen)
      (same : resumed.command c = after.command c)
      (remaining : TypesLine resumed rest echo) :
      TypesLine host (byte :: rest) (echoOf c host after ++ echo)

variable (cfg env c) in
/-- A whole line is typed with the echo on, and `echo` comes back. -/
structure ReceivesLine (host : Host) (line echo : List Byte) : Prop where
  fresh : (host.command c).atCmdLen = 0
  /-- `ATE1`. -/
  enabled : (host.command c).echoEnabled = true
  typed : TypesLine cfg env c host line echo

variable {after : Host}

theorem echoOf_of_appends {before : Host}
    (appends : Appends (fun event => ¬IsEcho event) before after) :
    echoOf c before after = [] := by
  obtain ⟨events, history, quiet⟩ := appends
  rw [echoOf, history, drop_left, echoes, flatMap_eq_nil_iff]
  intro event member
  cases event with
  | echoed d content => exact absurd trivial (quiet _ member)
  | _ => rfl

theorem echoOf_trans {first second third : Host} {property weaker : Event → Prop}
    (left : Appends property first second)
    (right : Appends weaker second third) :
    echoOf c first third = echoOf c first second ++ echoOf c second third := by
  obtain ⟨leftEvents, leftHistory, -⟩ := left
  obtain ⟨rightEvents, rightHistory, -⟩ := right
  unfold echoOf
  rw [rightHistory, drop_left, leftHistory, append_assoc, drop_left, drop_left]
  exact flatMap_append

theorem echoOf_record (host : Host) (content : List Byte) :
    echoOf c host (host.record (.echoed c content)) = content := by
  rw [echoOf, Host.history_record, drop_left, echoes, flatMap_singleton, Event.echo, if_pos rfl]

theorem IsReply.not_isEcho {current : Option CtxId} {event : Event}
    (reply : IsReply current event) : ¬IsEcho event := by
  cases event with
  | echoed d content => exact absurd reply (by rintro ⟨⟩)
  | _ => rintro ⟨⟩

theorem Undisturbed.unechoed {before : Host} (undisturbed : Undisturbed cfg before after) :
    Appends (fun event => ¬IsEcho event) before after :=
  undisturbed.replies.mono fun _ => IsReply.not_isEcho

variable {host : Host}

theorem performAction_unechoed {action : CommandAction}
    (performed : performAction cfg env action host = some after) :
    Appends (fun event => ¬IsEcho event) host after := by
  cases action with
  | call hostCall =>
    cases performed
    exact (performCall_undisturbed hostCall host).unechoed
  | enterDatamode handler dataLen =>
    obtain ⟨⟨entered, state⟩, isEntered, rfl⟩ :=
      map_eq_some_iff.mp performed
    rcases enterDatamode_cases isEntered with rfl | ⟨d, data, _, _, _, rfl⟩
    · exact Appends.refl _
    · have sameHistory : Appends (fun event => ¬IsEcho event) host
          (host.setData d data) := Appends.of_eq rfl
      refine sameHistory.trans (Appends.record _ ?_)
      rintro ⟨⟩
  | echo enable =>
    obtain ⟨d, _, rfl⟩ := map_eq_some_iff.mp performed
    exact Appends.of_eq rfl
  | datactrl timeLimit =>
    obtain ⟨d, _, rfl⟩ := map_eq_some_iff.mp performed
    dsimp only
    split
    · exact Appends.refl host
    · exact Appends.of_eq rfl

theorem performActions_unechoed {actions : List CommandAction} :
    ∀ {host after : Host}, performActions cfg env actions host = some after →
      Appends (fun event => ¬IsEcho event) host after := by
  induction actions with
  | nil =>
    intro host after performed
    cases performed
    exact Appends.refl host
  | cons action rest ih =>
    intro host after performed
    obtain ⟨middle, first, remaining⟩ := bind_eq_some_iff.mp performed
    exact (performAction_unechoed first).trans (ih remaining)

theorem rspSend_unechoed (response : Response) (host : Host) :
    Appends (fun event => ¬IsEcho event) host (rspSend cfg response host) :=
  (rspSend_undisturbed response host).unechoed

theorem handleBootloaderAtCmd_unechoed {atCmd : List Byte}
    (executed : handleBootloaderAtCmd cfg env c atCmd host = some after) :
    Appends (fun event => ¬IsEcho event) host after := by
  unfold handleBootloaderAtCmd at executed
  split at executed
  · obtain ⟨performed, isPerformed, rfl⟩ := map_eq_some_iff.mp executed
    refine (performActions_unechoed isPerformed).trans ?_
    split
    · exact rspSend_unechoed _ performed
    · exact rspSend_unechoed _ performed
  · split at executed
    · cases executed
      exact Appends.refl _
    · cases executed
      exact rspSend_unechoed _ host

theorem addExecutingLock_unechoed (d : CtxId) (amount : Int) (host : Host) :
    Appends (fun event => ¬IsEcho event) host (addExecutingLock d amount host) := by
  have moved : Appends (fun event => ¬IsEcho event) host
      (host.setCtx d { host.ctx d with
        executingLock := (host.ctx d).executingLock + amount }) :=
    Appends.of_eq rfl
  refine moved.trans (Appends.record _ ?_)
  split <;> rintro ⟨⟩

variable {line : List Byte}

theorem cmdSend_unechoed (executed : cmdSend cfg env c line host = some after) :
    Appends (fun event => ¬IsEcho event) host after := by
  have called : Appends (fun event => ¬IsEcho event) host (host.record (.cmdSend c line)) := by
    apply Appends.record
    rintro ⟨⟩
  have released : ∀ state : Host, Appends (fun event => ¬IsEcho event) state
      (addExecutingLock c (-1) state) :=
    addExecutingLock_unechoed c (-1)
  unfold cmdSend at executed
  dsimp only at executed
  refine called.trans ?_
  split at executed
  · cases executed
    exact rspSend_unechoed .error _
  · split at executed
    · exact handleBootloaderAtCmd_unechoed executed
    · obtain ⟨performed, actions, rfl⟩ := map_eq_some_iff.mp executed
      refine (addExecutingLock_unechoed c 1 _).trans ((performActions_unechoed actions).trans ?_)
      split
      · exact Appends.refl performed
      · exact released performed
      · exact (rspSend_unechoed .error performed).trans (released _)
      · refine Appends.trans ?_ (released _)
        split
        · apply Appends.record
          rintro ⟨⟩
        · exact Appends.refl performed

theorem cmdFinnishOrFail_unechoed (host : Host) :
    Appends (fun event => ¬IsEcho event) host (cmdFinnishOrFail env c host) := by
  have posted : ∀ (message : Message) (state : Host),
      Appends (fun event => ¬IsEcho event) state (sendMsg message state) := by
    intro message state
    unfold sendMsg submitWork
    dsimp only
    split <;> exact Appends.of_eq rfl
  unfold cmdFinnishOrFail smAtHostEventNotify
  refine Appends.trans ?_ (posted _ _)
  exact Appends.of_eq rfl

def echoedByte (cfg : Config) (echoLen : Nat) (byte : Byte) (send : Bool) : List Byte :=
  if echoLen + 1 < cfg.atEchoMaxLen then
    [byte]
  else if send then
    lineTerminator cfg.termination
  else
    []

theorem handleEcho_echoOf {byte : Byte} {send : Bool} {host : Host}
    (enabled : (host.command c).echoEnabled = true) :
    echoOf c host (handleEcho cfg c byte send host) =
        echoedByte cfg (host.command c).echoLen byte send ∧
      (handleEcho cfg c byte send host).command c =
        { host.command c with echoLen := (host.command c).echoLen + 1 } := by
  unfold handleEcho echoedByte
  dsimp only
  rw [if_pos enabled]
  split
  · exact ⟨echoOf_record _ _, Host.command_setCommand_self _ _ _⟩
  · split
    · refine ⟨(echoOf_record _ _).trans ?_, Host.command_setCommand_self _ _ _⟩
      cases cfg.termination <;> rfl
    · refine ⟨echoOf_of_appends (Appends.of_eq rfl), Host.command_setCommand_self _ _ _⟩

theorem storeStep_echo (byte : Byte) (command : CommandState) :
    (storeStep cfg byte command).1.echoLen = command.echoLen ∧
      (storeStep cfg byte command).1.echoEnabled = command.echoEnabled := by
  unfold storeStep
  split
  · exact ⟨rfl, rfl⟩
  · split <;> exact ⟨rfl, rfl⟩

theorem lineStep_echo (grows : Nat → Bool) (byte : Byte) (command : CommandState) :
    (lineStep cfg grows byte command).1.echoLen = command.echoLen ∧
      (lineStep cfg grows byte command).1.echoEnabled = command.echoEnabled := by
  unfold lineStep
  split
  · exact ⟨rfl, rfl⟩
  · split
    · split
      · exact ⟨rfl, rfl⟩
      · exact storeStep_echo byte _
    · exact storeStep_echo byte command

variable {byte : Byte}

theorem lineStep_ended {grows : Nat → Bool} {command : CommandState}
    (ends : (lineStep cfg grows byte command).2 = .ended) :
    byte = (lineEnd cfg.termination).2 := by
  have stored : ∀ command : CommandState, (storeStep cfg byte command).2 = .ended →
      byte = (lineEnd cfg.termination).2 := by
    intro command ends
    unfold storeStep at ends
    split at ends
    · cases ends
    · split at ends
      · rename_i isEnd
        have terminates := (Bool.and_eq_true_iff.mp isEnd).2
        unfold isTermination at terminates
        cases isMode : cfg.termination with
        | cr | lf => simpa [isMode, lineEnd] using terminates
        | crLf =>
          simp only [isMode, Bool.and_eq_true, beq_iff_eq] at terminates
          exact terminates.1.1
      · cases ends
  unfold lineStep at ends
  split at ends
  · cases ends
  · split at ends
    · split at ends
      · cases ends
      · exact stored _ ends
    · exact stored _ ends

theorem handleEcho_typed {byte : Byte} {send : Bool} {host : Host} {command : CommandState}
    (sameLen : command.echoLen = (host.command c).echoLen)
    (sameEnabled : command.echoEnabled = (host.command c).echoEnabled)
    (enabled : (host.command c).echoEnabled = true) :
    echoOf c host (handleEcho cfg c byte send ((checkIdleTimer c true host).setCommand c command)) =
        echoedByte cfg (host.command c).echoLen byte send ∧
      (handleEcho cfg c byte send ((checkIdleTimer c true host).setCommand c command)).command c =
        { command with echoLen := (host.command c).echoLen + 1 } := by
  have sameHistory : ((checkIdleTimer c true host).setCommand c command).history =
      host.history := by
    rw [checkIdleTimer, if_pos (by simp)]
    rfl
  generalize isState : (checkIdleTimer c true host).setCommand c command = state at sameHistory ⊢
  have isCommand : state.command c = command := by
    rw [← isState, Host.command_setCommand_self]
  obtain ⟨isEcho, after⟩ := @handleEcho_echoOf cfg c byte send state
    (by rw [isCommand, sameEnabled, enabled])
  rw [isCommand, sameLen] at isEcho after
  refine ⟨?_, after⟩
  rw [← isEcho, echoOf, echoOf, sameHistory]

theorem cmdRxHandler_typing_echoOf (types : (lineStepOf cfg env c byte host).2 = .typing)
    (handled : cmdRxHandler cfg env c byte host = some after)
    (enabled : (host.command c).echoEnabled = true) :
    echoOf c host after = echoedByte cfg (host.command c).echoLen byte false ∧
      (after.command c).echoLen = (host.command c).echoLen + 1 ∧
      (after.command c).echoEnabled = true := by
  obtain ⟨sameLen, sameEnabled⟩ := @lineStep_echo cfg
    (env.alloc host.history c) byte (host.command c)
  rw [cmdRxHandler_eq, endLine, types] at handled
  cases handled
  obtain ⟨isEcho, isCommand⟩ :=
    @handleEcho_typed cfg c byte false host _ sameLen sameEnabled enabled
  refine ⟨isEcho, ?_, ?_⟩
  · exact congrArg CommandState.echoLen isCommand
  · exact (congrArg CommandState.echoEnabled isCommand).trans (sameEnabled.trans enabled)

theorem cmdRxEnd_echoOf {send : Bool} (executed : cmdRxEnd cfg env c byte send host = some after) :
    echoOf c host after = echoOf c host (handleEcho cfg c byte send host) := by
  have echoes : Appends IsEcho host (handleEcho cfg c byte send host) :=
    (Echoes.handleEcho byte send host).history
  unfold cmdRxEnd at executed
  dsimp only at executed
  generalize handleEcho cfg c byte send host = state at echoes executed ⊢
  split at executed
  · obtain ⟨finished, ran, rfl⟩ := map_eq_some_iff.mp executed
    have quiet : Appends (fun event => ¬IsEcho event) state (cmdFinnishOrFail env c finished) := by
      refine Appends.trans ?_ (cmdFinnishOrFail_unechoed finished)
      split at ran
      · cases ran
        exact rspSend_unechoed .error state
      · split at ran
        · exact cmdSend_unechoed ran
        · cases ran
          exact Appends.refl state
    rw [echoOf_trans echoes quiet, echoOf_of_appends quiet, append_nil]
  · cases executed
    rfl

theorem cmdRxHandler_ended_echoOf (ends : (lineStepOf cfg env c byte host).2 = .ended)
    (handled : cmdRxHandler cfg env c byte host = some after)
    (enabled : (host.command c).echoEnabled = true) :
    echoOf c host after = echoedByte cfg (host.command c).echoLen byte true := by
  obtain ⟨sameLen, sameEnabled⟩ := @lineStep_echo cfg
    (env.alloc host.history c) byte (host.command c)
  obtain ⟨isEcho, -⟩ :=
    @handleEcho_typed cfg c byte true host _ sameLen sameEnabled enabled
  rw [cmdRxHandler_eq, endLine, ends] at handled
  have sameHistory : ((checkIdleTimer c true host).setCommand c
      (lineStepOf cfg env c byte host).1).history = host.history := by
    rw [checkIdleTimer, if_pos (by simp)]
    rfl
  have sameEcho := cmdRxEnd_echoOf handled
  unfold echoOf at sameEcho isEcho ⊢
  rw [sameHistory] at sameEcho
  exact sameEcho.trans isEcho

def echoedLine (cfg : Config) (echoLen : Nat) (typed : List Byte) (last : Byte) : List Byte :=
  typed.take (cfg.atEchoMaxLen - 1 - echoLen) ++ echoedByte cfg (echoLen + typed.length) last true

theorem echoedLine_cons (echoLen : Nat) (byte : Byte) (typed : List Byte) (last : Byte) :
    echoedLine cfg echoLen (byte :: typed) last = echoedByte cfg echoLen byte false ++
        echoedLine cfg (echoLen + 1) typed last := by
  have counted : echoLen + (byte :: typed).length = echoLen + 1 + typed.length := by
    rw [length_cons]
    omega
  unfold echoedLine
  rw [counted, ← append_assoc]
  congr 1
  rw [echoedByte]
  by_cases short : echoLen + 1 < cfg.atEchoMaxLen
  · rw [if_pos short, show cfg.atEchoMaxLen - 1 - echoLen =
      cfg.atEchoMaxLen - 1 - (echoLen + 1) + 1 by omega, take_succ_cons]
    rfl
  · have none : cfg.atEchoMaxLen - 1 - echoLen = 0 := by omega
    have still : cfg.atEchoMaxLen - 1 - (echoLen + 1) = 0 := by omega
    rw [if_neg short, none, still, take_zero, take_zero]
    rfl

theorem TypesLine.echo_eq {echo : List Byte} (types : TypesLine cfg env c host line echo) :
    (host.command c).echoEnabled = true →
    ∃ typed, line = typed ++ [(lineEnd cfg.termination).2] ∧
      echo = echoedLine cfg (host.command c).echoLen typed (lineEnd cfg.termination).2 := by
  induction types with
  | last ends handled =>
    intro enabled
    refine ⟨[], by rw [lineStep_ended ends]; rfl, ?_⟩
    rw [cmdRxHandler_ended_echoOf ends handled enabled, lineStep_ended ends, echoedLine, take_nil]
    rfl
  | next types handled begun same remaining ih =>
    intro enabled
    obtain ⟨isEcho, isLen, stillEnabled⟩ :=
      cmdRxHandler_typing_echoOf types handled enabled
    rw [same] at ih
    obtain ⟨typed, rfl, rfl⟩ := ih stillEnabled
    refine ⟨_ :: typed, rfl, ?_⟩
    rw [echoedLine_cons, isEcho, isLen]

theorem ReceivesLine.echo_eq {echo : List Byte} (receives : ReceivesLine cfg env c host line echo) :
    ∃ first rest, toupper first = 65 ∧ line = first :: rest ++ [(lineEnd cfg.termination).2] ∧
      echo = echoedLine cfg (host.command c).echoLen (first :: rest)
        (lineEnd cfg.termination).2 := by
  obtain ⟨typed, isLine, isEcho⟩ := receives.typed.echo_eq receives.enabled
  have passes : ∀ byte, line.head? = some byte → toupper byte = 65 := by
    intro byte isFirst
    by_contra other
    have isFiltered : filtered byte (host.command c) :=
      .inl ⟨receives.fresh, other⟩
    have step : lineStepOf cfg env c byte host =
        ({ host.command c with insideQuotes := false, atCmdLen := 0 }, .typing) := by
      rw [lineStepOf, lineStep, if_pos isFiltered]
    cases receives.typed with
    | last ends handled =>
      cases isFirst
      rw [step] at ends
      cases ends
    | next types handled begun _ _ =>
      cases isFirst
      obtain ⟨_, echoLen, isAfter, isCommand, _⟩ := cmdRxHandler_typing types
      rw [handled] at isAfter
      cases isAfter
      rw [isCommand, step] at begun
      exact absurd begun (Nat.lt_irrefl 0)
  cases typed with
  | nil =>
    have others : toupper (lineEnd cfg.termination).2 ≠ 65 := by
      cases cfg.termination <;> decide
    exact absurd (passes _ (by rw [isLine]; rfl)) others
  | cons first rest =>
    exact ⟨first, rest, passes first (by rw [isLine]; rfl), isLine, isEcho⟩

section Limit

variable {limit echoLen : Nat} {typed : List Byte} {last : Byte}

theorem echoLaw_single {termination : Termination}
    (isTerminator : lineTerminator termination = [last])
    (positive : 0 < limit) (begun : typed ≠ []) :
    EchoLaw termination limit (typed ++ [last]) (typed.take (limit - 1 - echoLen) ++ [last]) ↔
      echoLen + (typed ++ [last]).length ≤ limit ∨ limit < (typed ++ [last]).length := by
  have some := length_pos_iff.mpr begun
  rw [EchoLaw, isTerminator, length_append, length_singleton]
  by_cases short : typed.length + 1 ≤ limit
  · rw [if_pos short, append_left_inj, take_eq_self_iff]
    omega
  · have fits : (typed.take (limit - 1 - echoLen) ++ [last]).length ≤ limit := by
      rw [length_append, length_take, length_singleton]
      omega
    rw [if_neg short]
    refine ⟨fun _ => .inr (by omega), fun _ =>
      ⟨limit - 1 - echoLen, ?_, fits⟩⟩
    rw [take_append_of_le_length (by omega)]

/-- The termination characters come twice unless the limit falls between
them. -/
theorem take_append_crLf_iff {count : Nat} (within : count ≤ typed.length) :
    typed.take count ++ [13, 10] = typed ++ [10] ↔
      count + 1 = typed.length ∧ [13, 10] <:+ typed ++ [10] := by
  constructor
  · intro same
    have lengths := congrArg List.length same
    simp only [length_append, length_take, length_cons, length_nil] at lengths
    refine ⟨by omega, ?_⟩
    rw [← same]
    exact suffix_append _ _
  · rintro ⟨isCount, front, isLine⟩
    have lengths := congrArg List.length isLine
    simp only [length_append, length_cons, length_nil] at lengths
    have isTyped : typed = front ++ [13] := by
      rw [← append_left_inj [10], ← isLine, append_assoc]
      rfl
    rw [isTyped, take_append_of_le_length (by omega), take_of_length_le (by omega), append_assoc]
    rfl

theorem echoLaw_truncated (two : 2 ≤ limit) (begun : typed ≠ []) (notCr : typed ≠ [13])
    (truncated : limit ≤ echoLen + (typed ++ [10]).length) :
    EchoLaw .crLf limit (typed ++ [10]) (typed.take (limit - 1 - echoLen) ++ [13, 10]) ↔
      EchoFits limit echoLen (typed ++ [10]) .crLf := by
  have some := length_pos_iff.mpr begun
  rw [length_append, length_singleton] at truncated
  rw [EchoLaw, EchoFits, length_append, length_singleton]
  by_cases short : typed.length + 1 ≤ limit
  · rw [if_pos short, take_append_crLf_iff (by omega)]
    constructor
    · rintro ⟨isCount, ends⟩
      have long : typed.length ≠ 1 := by
        intro single
        obtain ⟨byte, rfl⟩ := length_eq_one_iff.mp single
        have isSuffix := ends.eq_of_length rfl
        cases isSuffix
        exact notCr rfl
      exact .inr (.inr ⟨short, by omega, ends⟩)
    · rintro (room | ⟨long, _⟩ | ⟨_, isLimit, ends⟩)
      · omega
      · omega
      · exact ⟨by omega, ends⟩
  · have length : (typed.take (limit - 1 - echoLen) ++ [13, 10]).length =
        limit - 1 - echoLen + 2 := by
      simp only [length_append, length_take, length_cons, length_nil]
      omega
    rw [if_neg short]
    constructor
    · rintro ⟨count, _, fits⟩
      rw [length] at fits
      exact .inr (.inl ⟨by omega, by omega⟩)
    · rintro (room | ⟨_, counted⟩ | ⟨short', _⟩)
      · omega
      · refine ⟨limit - 1 - echoLen, ?_, by rw [length]; omega⟩
        rw [take_append_of_le_length (by omega)]
        rfl
      · omega

end Limit

theorem echoedLine_law_iff (two : 2 ≤ cfg.atEchoMaxLen) (echoLen : Nat)
    {first : Byte} (isA : toupper first = 65) (rest : List Byte) :
    EchoLaw cfg.termination cfg.atEchoMaxLen (first :: rest ++ [(lineEnd cfg.termination).2])
        (echoedLine cfg echoLen (first :: rest) (lineEnd cfg.termination).2) ↔
      EchoFits cfg.atEchoMaxLen echoLen (first :: rest ++ [(lineEnd cfg.termination).2])
        cfg.termination := by
  have begun : first :: rest ≠ [] := cons_ne_nil first rest
  have notCr : first :: rest ≠ [13] := by
    intro same
    cases same
    exact absurd isA (by decide)
  unfold echoedLine echoedByte
  generalize first :: rest = typed at begun notCr ⊢
  cases cfg.termination with
  | cr =>
    have isEnd : (if echoLen + typed.length + 1 < cfg.atEchoMaxLen then
        [(lineEnd .cr).2] else lineTerminator .cr) =
        [(lineEnd .cr).2] := ite_self _
    simp only [if_true, isEnd]
    exact echoLaw_single rfl (by omega) begun
  | lf =>
    have isEnd : (if echoLen + typed.length + 1 < cfg.atEchoMaxLen then
        [(lineEnd .lf).2] else lineTerminator .lf) =
        [(lineEnd .lf).2] := ite_self _
    simp only [if_true, isEnd]
    exact echoLaw_single rfl (by omega) begun
  | crLf =>
    simp only [if_true]
    by_cases room : echoLen + typed.length + 1 < cfg.atEchoMaxLen
    · have fits : (typed ++ [(lineEnd .crLf).2]).length ≤ cfg.atEchoMaxLen := by
        rw [length_append, length_singleton]
        omega
      have whole : typed.take (cfg.atEchoMaxLen - 1 - echoLen) = typed :=
        take_of_length_le (by omega)
      rw [if_pos room, whole]
      refine ⟨fun _ => Or.inl ?_, fun _ => ?_⟩
      · rw [length_append, length_singleton]
        omega
      · rw [EchoLaw, if_pos fits]
    · rw [if_neg room]
      apply echoLaw_truncated two begun notCr
      rw [length_append, length_singleton]
      omega

/-- The exact condition under which the echo of a line is the line, or its
beginning and the termination characters within the limit. -/
theorem echoLaw_iff (two : 2 ≤ cfg.atEchoMaxLen) {host : Host} {line echo : List Byte}
    (receives : ReceivesLine cfg env c host line echo) :
    EchoLaw cfg.termination cfg.atEchoMaxLen line echo ↔
      EchoFits cfg.atEchoMaxLen (host.command c).echoLen line cfg.termination := by
  obtain ⟨first, rest, isA, rfl, rfl⟩ := receives.echo_eq
  exact echoedLine_law_iff two _ isA rest

def lineEcho? (cfg : Config) (env : Environment) (c : CtxId) : List Byte → Host → Option (List Byte)
  | [], _ => none
  | byte :: rest, host =>
    match (lineStepOf cfg env c byte host).2 with
    | .ended =>
      if rest = [] then
        (cmdRxHandler cfg env c byte host).map (echoOf c host)
      else
        none
    | .typing =>
      (cmdRxHandler cfg env c byte host).bind fun after =>
        if 0 < (after.command c).atCmdLen then
          (lineEcho? cfg env c rest after).map (echoOf c host after ++ ·)
        else
          none
    | .rejected => none

theorem typesLine_of_lineEcho? : ∀ {host : Host} {echo : List Byte},
      lineEcho? cfg env c line host = some echo →
      TypesLine cfg env c host line echo := by
  induction line with
  | nil => rintro host echo ⟨⟩
  | cons byte rest ih =>
    intro host echo evaluated
    rw [lineEcho?] at evaluated
    split at evaluated
    · rename_i ends
      split at evaluated
      · rename_i isLast
        obtain ⟨after, handled, rfl⟩ := map_eq_some_iff.mp evaluated
        rw [isLast]
        exact .last ends handled
      · cases evaluated
    · rename_i types
      obtain ⟨after, handled, remaining⟩ :=
        bind_eq_some_iff.mp evaluated
      split at remaining
      · rename_i begun
        obtain ⟨echo, isEcho, rfl⟩ := map_eq_some_iff.mp remaining
        exact .next types handled begun rfl (ih isEcho)
      · cases remaining
    · cases evaluated

def echoEnv : Environment :=
  { sessionEnv 0 consumeAll with
    atCommand := fun _ _ _ => ⟨[.echo true], .responded (ascii "OK\r\n")⟩ }

def echoConfig (termination : Termination) (limit : Nat) : Config :=
  { plusConfig with termination := termination, atEchoMaxLen := limit }

structure EchoView where
  atCmdLen : Nat
  enabled : Bool
  echoLen : Nat
  echo : Option (List Byte)
  deriving DecidableEq

def echoView (cfg : Config) (junk line : List Byte) (host : Host) : Option EchoView :=
  (feedCmd cfg echoEnv 0 junk host).map fun before =>
    { atCmdLen := (before.command 0).atCmdLen
      enabled := (before.command 0).echoEnabled
      echoLen := (before.command 0).echoLen
      echo := lineEcho? cfg echoEnv 0 line before }

theorem exists_receivesLine (termination : Termination) (limit echoLen : Nat)
    (junk line echo : List Byte)
    (evaluated : (runActions (step (echoConfig termination limit) echoEnv)
      ([.pipeReceive 0 (ascii "ATE1" ++ lineTerminator termination),
        .dispatch] ++ replicate (4 + (lineTerminator termination).length)
          .receiveByte) (freshHost [0])).map
        (echoView (echoConfig termination limit) junk line) =
          some (some ⟨0, true, echoLen, some echo⟩)) :
    ∃ start host, ReachableState (echoConfig termination limit) echoEnv start ∧
      feedCmd (echoConfig termination limit) echoEnv 0 junk start = some host ∧
      (host.command 0).echoLen = echoLen ∧
      ReceivesLine (echoConfig termination limit) echoEnv 0 host line echo := by
  obtain ⟨start, reachable, view⟩ := exists_run _ _ [0] _ _ _ evaluated
  obtain ⟨host, fed, view⟩ := map_eq_some_iff.mp view
  exact ⟨start, host, reachable, fed, congrArg EchoView.echoLen view,
    congrArg EchoView.atCmdLen view, congrArg EchoView.enabled view,
    typesLine_of_lineEcho? (congrArg EchoView.echo view)⟩

/-- A line that is shorter than the limit. -/
theorem echoLaw_iff_short_line : ∃ start host, ReachableState (echoConfig .crLf 5) echoEnv start ∧
      feedCmd (echoConfig .crLf 5) echoEnv 0 [] start = some host ∧
      EchoLaw .crLf 5 (ascii "AT\r\n") (ascii "AT\r\n") := by
  obtain ⟨start, host, reachable, fed, counted, receives⟩ :=
    exists_receivesLine .crLf 5 0 [] (ascii "AT\r\n") (ascii "AT\r\n") (by decide)
  refine ⟨start, host, reachable, fed, (echoLaw_iff ?_ receives).mpr ?_⟩
  · decide
  · rw [counted]
    left
    decide

/-- A line that is as long as the limit ends with `CR` twice, and a line behind
junk loses its beginning. -/
theorem echo_exceeds_line : (∃ start host, ReachableState (echoConfig .crLf 4) echoEnv start ∧
      feedCmd (echoConfig .crLf 4) echoEnv 0 [] start = some host ∧
      ReceivesLine (echoConfig .crLf 4) echoEnv 0 host (ascii "AT\r\n") (ascii "AT\r\r\n") ∧
      ¬EchoLaw .crLf 4 (ascii "AT\r\n") (ascii "AT\r\r\n")) ∧
    ∃ start host, ReachableState (echoConfig .cr 4) echoEnv start ∧
      feedCmd (echoConfig .cr 4) echoEnv 0 (ascii "xxx") start = some host ∧
      ReceivesLine (echoConfig .cr 4) echoEnv 0 host (ascii "AT\r") (ascii "\r") ∧
      ¬EchoLaw .cr 4 (ascii "AT\r") (ascii "\r") := by
  obtain ⟨first, line, reachable, fed, -, receives⟩ :=
    exists_receivesLine .crLf 4 0 [] (ascii "AT\r\n") (ascii "AT\r\r\n") (by decide)
  obtain ⟨second, behind, reachable', fed', -, receives'⟩ :=
    exists_receivesLine .cr 4 3 (ascii "xxx") (ascii "AT\r") (ascii "\r") (by decide)
  obtain ⟨ends, differs, ends', differs'⟩ :
      (ascii "AT\r\n").length ≤ 4 ∧ ascii "AT\r\r\n" ≠ ascii "AT\r\n" ∧
        (ascii "AT\r").length ≤ 4 ∧ ascii "\r" ≠ ascii "AT\r" := by
    decide
  refine ⟨⟨first, line, reachable, fed, receives, ?_⟩,
    second, behind, reachable', fed', receives', ?_⟩
  · rw [EchoLaw, if_pos ends]
    exact differs
  · rw [EchoLaw, if_pos ends']
    exact differs'

end SerialModem.AtHost
