import SerialModem.AtHost.LineRecognition

/-!
# Rejected lines

A line that does not fit its buffer is answered by one `ERROR` at the character
that overflows it.  The editor starts afresh at that character and not at the
end of the line, so the rest of the line is read as if it were the start of the
next one.
-/

namespace SerialModem.AtHost

open Library List Option

section

variable (cfg : Config) (env : Environment) (c : CtxId)

/-- Hand characters to `cmd_rx_handler` up to the first one that it rejects,
and return those that remain.  A line that ends is not rejected. -/
def rejection : List Byte → Host → Option (List Byte)
  | [], _ => none
  | byte :: rest, host =>
    match (lineStepOf cfg env c byte host).2 with
    | .typing => (cmdRxHandler cfg env c byte host).bind (rejection rest)
    | .ended => none
    | .rejected => some rest

/-- Whether the filter passes an `AT`; `pending` tells whether it has just
passed the `A`. -/
def passesAt : Bool → List Byte → Bool
  | _, [] => false
  | true, byte :: rest => toupper byte == 84 || passesAt false rest
  | false, byte :: rest => passesAt (toupper byte == 65) rest

/-- The number of `ERROR`s sent to a context. -/
def errorsSent (history : History) : Nat :=
  history.countP fun event => event == .rspSend c .error

/-- The characters are answered by one `ERROR`, nothing of them is executed and
the next line starts with an empty buffer, outside quotes. -/
structure RejectedWhole (bytes : List Byte) (host : Host) : Prop where
  silent : cmdSendCalls cfg env c bytes host = []
  settled : ∃ after, feedCmd cfg env c bytes host = some after ∧
    errorsSent c after.history = errorsSent c host.history + 1 ∧
    (after.command c).atCmdLen = 0 ∧
    (after.command c).insideQuotes = false

end

variable {cfg : Config} {env : Environment} {c : CtxId}

theorem errorsSent_append (history events : History) : errorsSent c (history ++ events) =
      errorsSent c history + errorsSent c events :=
  countP_append

variable {before after : Host}

theorem errorsSent_of_appends {property : Event → Prop} (appends : Appends property before after) :
    errorsSent c before.history ≤ errorsSent c after.history := by
  obtain ⟨events, history, _⟩ := appends
  rw [history, errorsSent_append]
  exact Nat.le_add_right _ _

theorem Echoes.sameErrors (echoes : Echoes before after) :
    errorsSent c after.history = errorsSent c before.history := by
  obtain ⟨events, history, echoed⟩ := echoes.history
  have none : errorsSent c events = 0 := by
    rw [errorsSent, countP_eq_zero]
    intro event member isError
    have isEcho := echoed event member
    rw [beq_iff_eq.mp isError] at isEcho
    exact isEcho
  rw [history, errorsSent_append, none, Nat.add_zero]

theorem feedCmd_errorsSent {bytes : List Byte} :
    ∀ {host after : Host}, feedCmd cfg env c bytes host = some after →
      errorsSent c host.history ≤ errorsSent c after.history := by
  induction bytes with
  | nil =>
    intro host after fed
    cases fed
    exact Nat.le_refl _
  | cons byte rest ih =>
    intro host after fed
    obtain ⟨middle, ran, remaining⟩ := bind_eq_some_iff.mp fed
    exact Nat.le_trans (errorsSent_of_appends (cmdRxHandler_commanded cfg env ran).notReceived)
      (ih remaining)

/-- The context is served, as `at_pipe_rx_work_fn` arranges it. -/
structure Receiving (c : CtxId) (host : Host) : Prop where
  current : host.currentCtx = some c
  live : c ∈ host.instanceList

theorem Echoes.receiving (echoes : Echoes before after)
    (receiving : Receiving c before) : Receiving c after where
  current := echoes.current.trans receiving.current
  live := by
    rw [echoes.instanceList]
    exact receiving.live

variable {host : Host}

theorem rspSendError_eq (receiving : Receiving c host) (timed : (host.ctx c).idleTimer = true) :
    rspSendError cfg host = host.record (.rspSend c .error) := by
  have live : smAtCtxCheck c host = true := by
    simpa [smAtCtxCheck] using receiving.live
  have busy : isIdleCtx c host = false := by
    simp [isIdleCtx, timed]
  rw [rspSendError, rspSend, smAtHostGetCurrent_of_current receiving.current]
  dsimp only
  rw [if_pos live, flushIfIdle, if_neg (by simp [busy])]
  rfl

theorem cmdFinnishOrFail_echoes (host : Host) : Echoes host (cmdFinnishOrFail env c host) := by
  have posted : ∀ (message : Message) (state : Host), Echoes state (sendMsg message state) := by
    intro message state
    unfold sendMsg submitWork
    dsimp only
    split
    · exact ⟨Appends.of_eq rfl, rfl, rfl⟩
    · exact ⟨Appends.of_eq rfl, rfl, rfl⟩
  unfold cmdFinnishOrFail smAtHostEventNotify
  refine Echoes.trans ?_ (posted _ _)
  exact ⟨Appends.of_eq rfl, rfl, rfl⟩

variable {byte : Byte}

theorem cmdRxHandler_rejects (receiving : Receiving c host) (fit : AllFit host)
    (rejected : (lineStepOf cfg env c byte host).2 = .rejected) :
    ∃ after, cmdRxHandler cfg env c byte host = some after ∧
      errorsSent c after.history = errorsSent c host.history + 1 ∧
      Receiving c after ∧ AllFit after ∧ (after.command c).Typed [] := by
  have ran := cmdRxHandler_rejected rejected
  have afterFit := fit.cmdRxHandler ran
  have empty := (cmdRxHandler_settled (by rw [rejected]; simp) ran).1
  have timed := (Echoes.checkIdleTimer c true host)
  have runs : ((checkIdleTimer c true host).ctx c).idleTimer = true := by
    rw [checkIdleTimer, if_pos (by simp)]
    simp [Host.setCtx]
  have answered : rspSendError cfg (checkIdleTimer c true host) =
      (checkIdleTimer c true host).record (.rspSend c .error) :=
    rspSendError_eq (timed.receiving receiving) runs
  rw [answered] at ran afterFit empty
  have finished : Echoes ((checkIdleTimer c true host).record (.rspSend c .error))
      (cmdFinnishOrFail env c ((checkIdleTimer c true host).record (.rspSend c .error))) :=
    cmdFinnishOrFail_echoes _
  refine ⟨_, ran, ?_, ?_, afterFit, CommandState.Typed.nil (afterFit c) empty⟩
  · rw [finished.sameErrors, Host.history_record, errorsSent_append, timed.sameErrors]
    simp [errorsSent]
  · apply finished.receiving
    have before := timed.receiving receiving
    exact ⟨before.current, before.live⟩

theorem rejection_spec {line : List Byte} : ∀ {host : Host} {text tail : List Byte},
      Receiving c host → AllFit host → (host.command c).Typed text →
      rejection cfg env c line host = some tail →
      ∃ front after, line = front ++ tail ∧ feedCmd cfg env c front host = some after ∧
        cmdSendCalls cfg env c front host = [] ∧
        errorsSent c after.history = errorsSent c host.history + 1 ∧
        Receiving c after ∧ AllFit after ∧ (after.command c).Typed [] := by
  induction line with
  | nil =>
    intro host text tail _ _ _ rejects
    cases rejects
  | cons byte rest ih =>
    intro host text tail receiving fit typed rejects
    rw [rejection] at rejects
    cases outcome : (lineStepOf cfg env c byte host).2 with
    | typing =>
      rw [outcome] at rejects
      obtain ⟨middle, ran, remaining⟩ :=
        bind_eq_some_iff.mp rejects
      have same := (lineStep_edit typed (by
        intro rejected
        rw [lineStepOf, rejected] at outcome
        cases outcome)).1
      have typing : (edit cfg.termination text byte).2 = .typing :=
        same.symm.trans outcome
      obtain ⟨_, sameStep, longer, silent, echoes⟩ :=
        cmdRxHandler_types typed (by rw [outcome]; simp) typing
      rw [ran] at sameStep
      cases sameStep
      obtain ⟨front, after, split, fed, calls, errors, ready⟩ :=
        ih (echoes.receiving receiving) (fit.cmdRxHandler ran) longer remaining
      refine ⟨byte :: front, after, by rw [split]; rfl, ?_, ?_, ?_, ready⟩
      · rw [feedCmd, ran]
        exact fed
      · rw [cmdSendCalls, silent, ran]
        exact calls
      · rw [errors, echoes.sameErrors]
    | ended =>
      rw [outcome] at rejects
      cases rejects
    | rejected =>
      rw [outcome] at rejects
      cases rejects
      obtain ⟨after, ran, errors, ready⟩ :=
        cmdRxHandler_rejects receiving fit outcome
      refine ⟨[byte], after, rfl, ?_, ?_, errors, ready⟩
      · rw [feedCmd, ran]
        rfl
      · rw [cmdSendCalls, sentLine_of_not_ended (by rw [outcome]; simp), ran]
        rfl

variable {text : List Byte}

theorem lineStep_accepts_short {grows : Nat → Bool} {command : CommandState}
    (typed : command.Typed text) (short : text.length ≤ 1) :
    (lineStep cfg grows byte command).2 ≠ .rejected := by
  intro rejects
  have smallest := typed.fits.le_size
  have minimum : atBufMinSize = 128 := rfl
  have length := typed.length
  unfold lineStep at rejects
  split at rejects
  · cases rejects
  · rw [if_neg (by omega)] at rejects
    unfold storeStep at rejects
    split at rejects
    · cases rejects
    · split at rejects
      · cases rejects
      · cases rejects

theorem edit_filter (termination : Termination) (short : text.length ≤ 1)
    (refuses : text.length = 1 → toupper byte ≠ 84) :
    (edit termination text byte).2 = .typing ∧ (edit termination text byte).1.length =
        if text.length = 0 ∧ toupper byte = 65 then 1 else 0 := by
  rcases Nat.le_one_iff_eq_zero_or_eq_one.mp short with empty | single
  · rw [eq_nil_of_length_eq_zero empty]
    by_cases isA : toupper byte = 65
    · have typed : edit termination [] byte = ([byte], .typing) :=
        edit_letter termination (.inl isA) (by simp [isA]) (by simp)
      rw [typed, if_pos ⟨rfl, isA⟩]
      exact ⟨rfl, rfl⟩
    · rw [edit, if_pos (.inl ⟨rfl, isA⟩), if_neg (fun both => isA both.2)]
      exact ⟨rfl, rfl⟩
  · rw [edit, if_pos (.inr ⟨single, refuses single⟩), if_neg (fun both => by omega)]
    exact ⟨rfl, rfl⟩

theorem passesAt_tail {kept rest : List Byte} (short : text.length ≤ 1)
    (refuses : text.length = 1 → toupper byte ≠ 84)
    (length : kept.length =
      if text.length = 0 ∧ toupper byte = 65 then 1 else 0) :
    passesAt (text.length == 1) (byte :: rest) = passesAt (kept.length == 1) rest := by
  rcases Nat.le_one_iff_eq_zero_or_eq_one.mp short with empty | single
  · have remembers : (kept.length == 1) = (toupper byte == 65) := by
      by_cases isA : toupper byte = 65
      · simp [length, empty, isA]
      · simp [length, isA]
    rw [remembers, empty]
    rfl
  · have forgets : (kept.length == 1) = false := by
      simp [length, single]
    have other := refuses single
    rw [forgets, single]
    simp [passesAt, other]

variable {tail : List Byte}

theorem feedCmd_filter : ∀ {host : Host} {text : List Byte},
      (host.command c).Typed text → text.length ≤ 1 →
      passesAt (text.length == 1) tail = false →
      ∃ after kept, feedCmd cfg env c tail host = some after ∧
        cmdSendCalls cfg env c tail host = [] ∧ Echoes host after ∧
        (after.command c).Typed kept ∧ kept.length ≤ 1 := by
  induction tail with
  | nil =>
    intro host text typed short _
    exact ⟨host, text, rfl, rfl, Echoes.refl host, typed, short⟩
  | cons byte rest ih =>
    intro host text typed short refused
    have refuses : text.length = 1 → toupper byte ≠ 84 := by
      intro single isT
      rw [single] at refused
      simp [passesAt, isT] at refused
    obtain ⟨typing, length⟩ :=
      edit_filter cfg.termination short refuses
    obtain ⟨middle, ran, edited, silent, echoes⟩ :=
      cmdRxHandler_types typed (lineStep_accepts_short typed short) typing
    obtain ⟨after, kept, fed, calls, moreEchoes, ends⟩ :=
      ih edited (by rw [length]; split <;> omega)
        ((passesAt_tail short refuses length).symm.trans refused)
    refine ⟨after, kept, ?_, ?_, echoes.trans moreEchoes, ends⟩
    · rw [feedCmd, ran]
      exact fed
    · rw [cmdSendCalls, silent, ran]
      exact calls

theorem feedCmd_begun : ∀ {host : Host} {text : List Byte},
      Receiving c host → AllFit host → (host.command c).Typed text →
      2 ≤ text.length → (∀ byte, byte ∈ tail → ¬(byte = 8 ∨ byte = 127)) →
      cmdSendCalls cfg env c tail host = [] →
      ∀ after, feedCmd cfg env c tail host = some after →
        errorsSent c host.history < errorsSent c after.history ∨
          0 < (after.command c).atCmdLen := by
  induction tail with
  | nil =>
    intro host text _ _ typed long _ _ after fed
    cases fed
    right
    rw [typed.length]
    omega
  | cons byte rest ih =>
    intro host text receiving fit typed long plain calls after fed
    obtain ⟨middle, ran, remaining⟩ := bind_eq_some_iff.mp fed
    obtain ⟨unsent, laterCalls⟩ := append_eq_nil_iff.mp calls
    rw [ran] at laterCalls
    by_cases rejected : (lineStepOf cfg env c byte host).2 = .rejected
    · left
      obtain ⟨_, sameStep, errors, _⟩ :=
        cmdRxHandler_rejects receiving fit rejected
      rw [ran] at sameStep
      cases sameStep
      have later := feedCmd_errorsSent remaining
      omega
    · obtain ⟨outcome, holds, _⟩ := lineStep_edit typed rejected
      have isPlain := plain byte (mem_cons_self ..)
      have accepts : ¬atBufMaxSize - 2 ≤ text.length := by
        intro overlong
        apply rejected
        apply lineStep_rejects typed
        rw [edit, if_neg (by omega), if_pos overlong]
      by_cases ends : (!quoted text && endsLine cfg.termination text byte) = true
      · have edited : edit cfg.termination text byte =
            (if cfg.termination = .crLf then text.dropLast else text, .ended) := by
          rw [edit, if_neg (by omega), if_neg accepts, if_neg isPlain, if_pos ends]
        rw [edited] at outcome holds
        have nonempty : (if cfg.termination = .crLf then text.dropLast
            else text) ≠ [] := by
          apply ne_nil_of_length_pos
          split
          · rw [length_dropLast]
            omega
          · omega
        rw [sentLine_of_ended outcome holds nonempty] at unsent
        cases unsent
      · have edited : edit cfg.termination text byte = (text ++ [byte], .typing) := by
          rw [edit, if_neg (by omega), if_neg accepts, if_neg isPlain, if_neg ends]
        obtain ⟨_, sameStep, longer, _, echoes⟩ :=
          cmdRxHandler_types typed rejected (by rw [edited])
        rw [ran] at sameStep
        cases sameStep
        rw [edited] at longer
        rw [← echoes.sameErrors]
        exact ih (echoes.receiving receiving) (fit.cmdRxHandler ran) longer
          (by rw [length_append]; omega)
          (fun later member => plain later (mem_cons_of_mem _ member))
          laterCalls after remaining

theorem feedCmd_passes : ∀ {host : Host} {text : List Byte},
      Receiving c host → AllFit host → (host.command c).Typed text →
      text.length ≤ 1 →
      (∀ byte, byte ∈ tail → ¬(byte = 8 ∨ byte = 127)) →
      passesAt (text.length == 1) tail = true →
      cmdSendCalls cfg env c tail host = [] →
      ∀ after, feedCmd cfg env c tail host = some after →
        errorsSent c host.history < errorsSent c after.history ∨
          0 < (after.command c).atCmdLen := by
  induction tail with
  | nil =>
    intro host text _ _ _ _ _ passes
    cases text with
    | nil => cases passes
    | cons first rest =>
      cases rest with
      | nil | cons second rest => cases passes
  | cons byte rest ih =>
    intro host text receiving fit typed short plain passes calls after fed
    have accepts : (lineStepOf cfg env c byte host).2 ≠ .rejected :=
      lineStep_accepts_short typed short
    have laterPlain := fun later member =>
      plain later (mem_cons_of_mem byte member)
    obtain ⟨middle, ran, remaining⟩ := bind_eq_some_iff.mp fed
    obtain ⟨_, laterCalls⟩ := append_eq_nil_iff.mp calls
    rw [ran] at laterCalls
    by_cases completes : text.length = 1 ∧ toupper byte = 84
    · have edited := edit_letter cfg.termination (.inr completes.2) (by simp [completes]) short
      obtain ⟨_, sameStep, longer, _, echoes⟩ :=
        cmdRxHandler_types typed accepts (by rw [edited])
      rw [ran] at sameStep
      cases sameStep
      rw [edited] at longer
      rw [← echoes.sameErrors]
      exact feedCmd_begun (echoes.receiving receiving) (fit.cmdRxHandler ran) longer
        (by simp [completes.1])
        laterPlain laterCalls after remaining
    · have refuses : text.length = 1 → toupper byte ≠ 84 :=
        fun single isT => completes ⟨single, isT⟩
      obtain ⟨typing, length⟩ :=
        edit_filter cfg.termination short refuses
      obtain ⟨_, sameStep, edited, _, echoes⟩ :=
        cmdRxHandler_types typed accepts typing
      rw [ran] at sameStep
      cases sameStep
      rw [← echoes.sameErrors]
      exact ih (echoes.receiving receiving) (fit.cmdRxHandler ran) edited
        (by rw [length]; split <;> omega) laterPlain
        ((passesAt_tail short refuses length).symm.trans passes)
        laterCalls after remaining

theorem passesAt_append (front rest : List Byte) :
    ∀ {pending : Bool}, passesAt pending (front ++ rest) = false →
      passesAt pending front = false := by
  induction front with
  | nil =>
    intro pending _
    cases pending <;> rfl
  | cons byte front ih =>
    intro pending refused
    cases pending with
    | true =>
      obtain ⟨other, later⟩ := Bool.or_eq_false_iff.mp refused
      exact Bool.or_eq_false_iff.mpr ⟨other, ih later⟩
    | false => exact ih refused

theorem feedCmd_terminator {front : List Byte}
    (typed : (host.command c).Typed []) (refused : passesAt false front = false) :
    ∃ after, feedCmd cfg env c (front ++ [(lineEnd cfg.termination).2]) host = some after ∧
      cmdSendCalls cfg env c (front ++ [(lineEnd cfg.termination).2]) host = [] ∧
      Echoes host after ∧ (after.command c).Typed [] := by
  obtain ⟨middle, kept, fed, calls, echoes, stored, short⟩ :
      ∃ middle kept, feedCmd cfg env c front host = some middle ∧
        cmdSendCalls cfg env c front host = [] ∧ Echoes host middle ∧
        (middle.command c).Typed kept ∧ kept.length ≤ 1 :=
    feedCmd_filter typed (Nat.zero_le 1) refused
  have noLetter : toupper (lineEnd cfg.termination).2 ≠ 65 ∧
      toupper (lineEnd cfg.termination).2 ≠ 84 := by
    cases cfg.termination <;> decide
  obtain ⟨typing, length⟩ :=
    edit_filter cfg.termination short fun _ => noLetter.2
  rw [if_neg (fun both => noLetter.1 both.2)] at length
  obtain ⟨after, ran, edited, silent, lastEcho⟩ :=
    cmdRxHandler_types stored (lineStep_accepts_short stored short) typing
  rw [eq_nil_of_length_eq_zero length] at edited
  refine ⟨after, ?_, ?_, echoes.trans lastEcho, edited⟩
  · rw [feedCmd_append, fed, bind_some, feedCmd, ran]
    rfl
  · rw [cmdSendCalls_append _ fed, calls, cmdSendCalls, silent, ran]
    rfl

/-- A line in which some character is rejected is rejected as a whole when no
`AT` passes the filter in what follows that character.  Without erase
characters it is so in no other case. -/
theorem rejected_whole {host : Host} (reachable : ReachableState cfg env host)
    (receiving : Receiving c host) {line tail : List Byte}
    (empty : (host.command c).atCmdLen = 0)
    (rejects : rejection cfg env c (line ++ lineTerminator cfg.termination) host = some tail) :
    (passesAt false tail = false →
      RejectedWhole cfg env c (line ++ lineTerminator cfg.termination) host) ∧
    ((∀ byte, byte ∈ tail → ¬(byte = 8 ∨ byte = 127)) →
      RejectedWhole cfg env c (line ++ lineTerminator cfg.termination) host →
      passesAt false tail = false) := by
  have fit := reachable_allFit reachable
  have typed := CommandState.Typed.nil (fit c) empty
  obtain ⟨front, middle, split, fed, calls, errors, ready, fits, cleared⟩ :=
    rejection_spec receiving fit typed rejects
  rw [split]
  constructor
  · intro refused
    obtain ⟨after, fedTail, tailCalls, echoes, ends⟩ :
        ∃ after, feedCmd cfg env c tail middle = some after ∧
          cmdSendCalls cfg env c tail middle = [] ∧
          Echoes middle after ∧ (after.command c).Typed [] := by
      rcases eq_nil_or_concat tail with rfl | ⟨start, last, rfl⟩
      · exact ⟨middle, rfl, rfl, Echoes.refl middle, cleared⟩
      · rw [concat_eq_append] at split refused ⊢
        have isLast : (lineEnd cfg.termination).2 = last := by
          rw [lineTerminator, ← append_assoc, ← append_assoc] at split
          exact (List.cons.inj (append_inj' split rfl).2).1
        rw [← isLast] at refused ⊢
        exact feedCmd_terminator cleared (passesAt_append start _ refused)
    refine ⟨?_, after, ?_, ?_, ends.length, ends.quotes⟩
    · rw [cmdSendCalls_append _ fed, calls, tailCalls]
      rfl
    · rw [feedCmd_append, fed]
      exact fedTail
    · rw [echoes.sameErrors, errors]
  · rintro plain ⟨silent, after, fedWhole, oneError, noText, -⟩
    rw [cmdSendCalls_append _ fed, calls, nil_append] at silent
    rw [feedCmd_append, fed] at fedWhole
    by_contra passes
    rcases feedCmd_passes ready fits cleared (Nat.zero_le 1) plain
      (Bool.not_eq_false _ ▸ passes) silent after fedWhole with
      more | begun
    · omega
    · omega

def tightEnv : Environment :=
  { sessionEnv 0 consumeAll with alloc := fun _ _ size => size ≤ 128 }

structure LineView where
  current : Option CtxId
  instanceList : List CtxId
  typed : Nat
  tail : Option (List Byte)
  sent : List (List Byte)
  deriving DecidableEq

def lineView (bytes : List Byte) (host : Host) : LineView where
  current := host.currentCtx
  instanceList := host.instanceList
  typed := (host.command 0).atCmdLen
  tail := rejection plusConfig tightEnv 0 bytes host
  sent := cmdSendCalls plusConfig tightEnv 0 bytes host

/-- The buffer of 128 bytes is full one character before the end of this text;
what follows is appended. -/
def overfull (ending : List Byte) : List Byte :=
  [65, 84] ++ replicate 125 120 ++ ending

theorem exists_receiving (ending tail : List Byte) (sent : List (List Byte))
    (evaluated : (runActions (step plusConfig tightEnv)
      [.pipeReceive 0 [65], .dispatch] (freshHost [0])).map
        (lineView (overfull ending ++ lineTerminator .cr)) =
          some ⟨some 0, [0], 0, some tail, sent⟩) :
    ∃ host, ReachableState plusConfig tightEnv host ∧ Receiving 0 host ∧
      (host.command 0).atCmdLen = 0 ∧
      rejection plusConfig tightEnv 0 (overfull ending ++ lineTerminator .cr) host = some tail ∧
      cmdSendCalls plusConfig tightEnv 0 (overfull ending ++ lineTerminator .cr) host = sent := by
  obtain ⟨host, reachable, view⟩ :=
    exists_run plusConfig tightEnv [0] _ _ _ evaluated
  have contexts : host.instanceList = [0] :=
    congrArg LineView.instanceList view
  refine ⟨host, reachable, ⟨congrArg LineView.current view, ?_⟩,
    congrArg LineView.typed view, congrArg LineView.tail view,
    congrArg LineView.sent view⟩
  rw [contexts]
  exact mem_singleton_self 0

theorem rejected_whole_full_buffer : ∃ host, ReachableState plusConfig tightEnv host ∧
      RejectedWhole plusConfig tightEnv 0 (overfull [] ++ lineTerminator .cr)
        host := by
  obtain ⟨host, reachable, receiving, empty, rejects, _⟩ :=
    exists_receiving [] [13] [] (by decide +kernel)
  exact ⟨host, reachable, (rejected_whole reachable receiving empty rejects).1 (by decide)⟩

/-- The rest of a rejected line is executed. -/
theorem rest_of_rejected_line_executed :
    ∃ host, ReachableState plusConfig tightEnv host ∧ Receiving 0 host ∧
      (host.command 0).atCmdLen = 0 ∧
      CommandLine plusConfig.termination (overfull [65, 84]) ∧
      rejection plusConfig tightEnv 0
        (overfull [65, 84] ++ lineTerminator .cr) host = some [65, 84, 13] ∧
      cmdSendCalls plusConfig tightEnv 0
        (overfull [65, 84] ++ lineTerminator .cr) host = [[65, 84]] := by
  obtain ⟨host, reachable, receiving, empty, rejects, sent⟩ :=
    exists_receiving [65, 84] [65, 84, 13] [[65, 84]] (by decide +kernel)
  refine ⟨host, reachable, receiving, empty, ?_, rejects, sent⟩
  exact commandLine_of_plain ⟨65, 84, _, rfl, by decide, by decide⟩
    (by decide +kernel) (by decide +kernel) (by decide +kernel)

end SerialModem.AtHost
