import SerialModem.AtClient.Draining

/-!
# Commands and their answers

`sm_at_client_send_cmd` makes the client wait, writes the command and takes
`at_rsp`.  Meanwhile chunks are received, the time runs out, or a transmission
is aborted, which resets `at_rsp`.
-/

namespace SerialModem.AtClient

open Library List
open AtHost (Byte ascii crlfStr)

/-- Where the thread of the commands is in `sm_at_client_send_cmd`. -/
inductive CallerPc where
  | idle
  /-- In `tx_write`. -/
  | sending
  /-- In `k_sem_take`. -/
  | waiting
  /-- `k_sem_take` returned 0. -/
  | taken
  /-- `k_sem_take` returned an error. -/
  | timedOut
  deriving DecidableEq

/-- Where the thread of the receiver is in `response_handler`. -/
inductive HandlerPc where
  | idle
  /-- A final result was looked for; `at_rsp` is given if there was one. -/
  | looked (gives : Bool)
  | given
  deriving DecidableEq

structure AtSystem where
  client : ClientState
  caller : CallerPc
  handler : HandlerPc
  /-- How much the buffer held at the last call; the code does not keep it. -/
  stale : Nat
  deriving DecidableEq

inductive AtAction where
  | call
  /-- `tx_write` returns an error. -/
  | writeFails
  /-- The command is written, and `k_sem_take` is called. -/
  | written
  | timeout
  /-- What follows `k_sem_take`. -/
  | finish
  | chunk (data : List Byte)
  | give
  | dispatch
  /-- `UART_TX_ABORTED`. -/
  | abort
  deriving DecidableEq

namespace AtSystem

/-- `k_sem_give(&at_rsp)`, if there was a final result: a thread that waits for
it is woken up with it. -/
def giveRsp (gives : Bool) (system : AtSystem) : AtSystem :=
  if gives then
    if system.caller = .waiting then
      { system with caller := .taken }
    else
      { system with client := { system.client with atRsp := true } }
  else
    system

/-- `k_sem_reset(&at_rsp)`. -/
def resetRsp (system : AtSystem) : AtSystem :=
  { system with
    client := { system.client with atRsp := false }
    caller := if system.caller = .waiting then .timedOut else system.caller }

/-- The start of `sm_at_client_send_cmd`. -/
def call (system : AtSystem) : AtSystem :=
  { system with
    client := { system.client with
      smAtState := .pending
      log := system.client.log ++ [.called] }
    caller := .sending
    stale := system.client.atCmdResp.length }

/-- `k_sem_take(&at_rsp, ..)`. -/
def takeRsp (system : AtSystem) : AtSystem :=
  if system.client.atRsp then
    { system with
      client := { system.client with atRsp := false }
      caller := .taken }
  else
    { system with caller := .waiting }

end AtSystem

/-- One step of a caller and of the reception beside it. -/
def atStep (size rxBufSize : Nat) (action : AtAction) (system : AtSystem) : Option AtSystem :=
  match action with
  | .call => if system.caller = .idle then some system.call else none
  | .writeFails =>
    if system.caller = .sending then
      some { system with caller := .idle }
    else
      none
  | .written =>
    if system.caller = .sending then some system.takeRsp else none
  | .timeout =>
    if system.caller = .waiting then
      some { system with caller := .timedOut }
    else
      none
  | .finish =>
    if system.caller = .taken then
      some { system with
        client := system.client.record (.returned system.client.smAtState)
        caller := .idle }
    else if system.caller = .timedOut then
      some { system with
        client := { system.client with smAtState := .error }
        caller := .idle }
    else
      none
  | .chunk data =>
    if system.handler = .idle ∧ data.length ≤ rxBufSize then
      some { system with
        client := (receive size data system.client).1
        handler := .looked (receive size data system.client).2 }
    else
      none
  | .give =>
    match system.handler with
    | .looked gives => some { system.giveRsp gives with handler := .given }
    | _ => none
  | .dispatch =>
    if system.handler = .given then
      some { system with
        client := AtClient.dispatch system.client
        handler := .idle }
    else
      none
  | .abort => some system.resetRsp

/-- Nothing has been called or received since `sm_at_client_init`. -/
def freshSystem : AtSystem where
  client := freshClient
  caller := .idle
  handler := .idle
  stale := 0

def receivedIn (events : List ClientEvent) : List Byte :=
  events.flatMap fun event =>
    match event with
    | .received data => data
    | _ => []

/-- Among the events a final result was found, all of it in bytes that were
received in their course. -/
def AnsweredIn (events : List ClientEvent) (state : AtCmdState) : Prop :=
  ∃ first text start second needle, events = first ++ .answered state text start :: second ∧
    (state, needle) ∈ atResponses ∧ needle <+: text.drop start ∧
    text.drop start <:+: receivedIn first

/-- What a command returns is not pending, and was answered after its call. -/
def OwnAnswer (earlier : List ClientEvent) (event : ClientEvent) : Prop :=
  ∀ state, event = .returned state → state ≠ .pending ∧
      ∃ before between, earlier = before ++ .called :: between ∧
        .called ∉ between ∧ AnsweredIn between state

/-- When a command is called no answer is due or about to be given.  While it
waits the buffer does not overflow, and what is found there does not start in
what was left there at the call. -/
def Separate (size : Nat) (system : AtSystem) (action : AtAction) : Prop :=
  match action with
  | .call => system.client.atRsp = false ∧ system.handler ≠ .looked true
  | .chunk data =>
    (system.caller = .sending ∨ system.caller = .waiting) →
    system.client.smAtState = .pending → (∀ found ∈ parseAtResponse
          ((system.client.atCmdResp ++ data).take size), system.stale ≤ found.2.1) ∧
        (parseAtResponse ((system.client.atCmdResp ++ data).take size) =
          none → (system.client.atCmdResp ++ data).length < size)
  | _ => True

instance {size : Nat} {system : AtSystem} {action : AtAction} :
    Decidable (Separate size system action) :=
  match action with
  | .call => inferInstanceAs (Decidable (_ ∧ _))
  | .chunk _ => inferInstanceAs (Decidable (_ → _ → _ ∧ _))
  | .writeFails | .written | .timeout | .finish | .give | .dispatch | .abort =>
    inferInstanceAs (Decidable True)

structure AtSystem.Unanswered (system : AtSystem)
    (between : List ClientEvent) : Prop where
  pending : system.client.smAtState = .pending
  notDue : system.client.atRsp = false
  notGiven : system.handler ≠ .looked true
  notTaken : system.caller ≠ .taken
  stale : system.stale ≤ system.client.atCmdResp.length
  fresh : system.client.atCmdResp.drop system.stale = receivedIn between

def AtSystem.Answered (system : AtSystem) (between : List ClientEvent) : Prop :=
  AnsweredIn between system.client.smAtState

def AtSystem.InCall (system : AtSystem) : Prop :=
  ∃ before between, system.client.log = before ++ .called :: between ∧
    .called ∉ between ∧ (system.Unanswered between ∨ system.Answered between)

def CallerPc.runs (caller : CallerPc) : Bool :=
  caller == .sending || caller == .waiting || caller == .taken

theorem CallerPc.waits_of_runs {caller : CallerPc} (runs : caller.runs = true)
    (notTaken : caller ≠ .taken) : caller = .sending ∨ caller = .waiting := by
  cases caller with
  | sending => exact .inl rfl
  | waiting => exact .inr rfl
  | taken => exact absurd rfl notTaken
  | idle | timedOut => cases runs

structure AtSystem.Consistent (size : Nat) (system : AtSystem) : Prop where
  own : Always OwnAnswer system.client.log
  fits : system.client.atCmdResp.length ≤ size
  inCall : system.caller.runs = true → system.InCall

variable {size rxBufSize : Nat} {system : AtSystem}
  {between more : List ClientEvent} {state : AtCmdState}

theorem receivedIn_append (first second : List ClientEvent) :
    receivedIn (first ++ second) = receivedIn first ++ receivedIn second :=
  flatMap_append

theorem AnsweredIn.append (answered : AnsweredIn between state)
    (more : List ClientEvent) : AnsweredIn (between ++ more) state := by
  obtain ⟨first, text, start, second, needle, rfl, result⟩ := answered
  exact ⟨first, text, start, second ++ more, needle, by rw [append_assoc, cons_append], result⟩

theorem AnsweredIn.ne_pending (answered : AnsweredIn between state) : state ≠ .pending := by
  obtain ⟨_, _, _, _, needle, _, known, _⟩ := answered
  have all : ∀ response ∈ atResponses, response.1 ≠ .pending := by decide
  exact all (state, needle) known

theorem Always.ownAnswer_append {log : List ClientEvent}
    (own : Always OwnAnswer log) {added : List ClientEvent}
    (silent : ∀ event ∈ added, ∀ state, event ≠ .returned state) :
    Always OwnAnswer (log ++ added) := by
  induction added generalizing log with
  | nil =>
    rw [append_nil]
    exact own
  | cons event added ih =>
    rw [append_cons]
    apply ih
    · rw [Always.concat_iff]
      refine ⟨own, fun state isReturn => ?_⟩
      exact absurd isReturn (silent event mem_cons_self state)
    · intro other member
      exact silent other (mem_cons_of_mem _ member)

theorem answeredIn_of_found {data : List Byte} {found : AtCmdState × Nat × Nat}
    (unanswered : system.Unanswered between)
    (isFound : parseAtResponse ((system.client.atCmdResp ++ data).take size) = some found)
    (fresh : system.stale ≤ found.2.1) :
    AnsweredIn (between ++ [.received data] ++ [.answered found.1
      (((system.client.atCmdResp ++ data).take size).take found.2.2)
      found.2.1]) found.1 := by
  obtain ⟨needle, known, occurs⟩ := parse_occurs isFound
  refine ⟨between ++ [.received data], _, found.2.1, [], needle, rfl, known, occurs, ?_⟩
  have received : receivedIn (between ++ [.received data]) =
      (system.client.atCmdResp ++ data).drop system.stale := by
    rw [receivedIn_append, drop_append_of_le_length unanswered.stale, unanswered.fresh]
    exact congrArg _ (append_nil data)
  rw [received, take_take, show found.2.1 =
    system.stale + (found.2.1 - system.stale) by omega, ← drop_drop,
    drop_take]
  exact (drop_suffix _ _).isInfix.trans (List.take_prefix _ _).isInfix

theorem inCall_chunk (data : List Byte) (fits : system.client.atCmdResp.length ≤ size)
    (inCall : system.InCall) (runs : system.caller.runs = true)
    (allowed : Separate size system (.chunk data)) :
    AtSystem.InCall { system with
      client := (receive size data system.client).1
      handler := .looked (receive size data system.client).2 } := by
  obtain ⟨before, between, isLog, noCall, unanswered | answered⟩ := inCall
  · have waits := CallerPc.waits_of_runs runs unanswered.notTaken
    obtain ⟨whenFound, whenNone⟩ := allowed waits unanswered.pending
    cases isFound : parseAtResponse ((system.client.atCmdResp ++ data).take size) with
    | some found =>
      obtain ⟨isState, longer⟩ :=
        receive_of_found unanswered.pending fits isFound
      refine ⟨before, between ++ [.received data] ++ [.answered found.1
        (((system.client.atCmdResp ++ data).take size).take found.2.2)
        found.2.1], ?_, ?_, .inr ?_⟩
      · simp only [longer, isLog, append_assoc, cons_append]
      · simp [noCall]
      · rw [AtSystem.Answered]
        simp only [isState]
        exact answeredIn_of_found unanswered isFound (whenFound found isFound)
    | none =>
      have room := whenNone isFound
      rw [take_of_length_le (Nat.le_of_lt room)] at isFound
      rw [receive_of_none unanswered.pending room isFound]
      refine ⟨before, between ++ [.received data], ?_, ?_, .inl ?_⟩
      · simp only [isLog, append_assoc, cons_append]
      · simp [noCall]
      · exact {
          pending := unanswered.pending
          notDue := unanswered.notDue
          notGiven := by simp
          notTaken := unanswered.notTaken
          stale := by
            rw [length_append]
            exact Nat.le_add_right_of_le unanswered.stale
          fresh := by
            rw [drop_append_of_le_length unanswered.stale, unanswered.fresh, receivedIn_append]
            exact congrArg _ (append_nil data).symm }
  · rw [receive_of_idle answered.ne_pending]
    refine ⟨before, between ++ [.received data], ?_, ?_, .inr ?_⟩
    · simp only [ClientState.append, isLog, append_assoc, cons_append]
    · simp [noCall]
    · exact answered.append _

theorem inCall_call (allowed : Separate size system .call) : system.call.InCall := by
  refine ⟨system.client.log, [], rfl, not_mem_nil, .inl ?_⟩
  exact {
    pending := rfl
    notDue := allowed.1
    notGiven := allowed.2
    notTaken := by simp [AtSystem.call]
    stale := Nat.le_refl _
    fresh := drop_length }

theorem inCall_takeRsp (inCall : system.InCall) : system.takeRsp.InCall := by
  obtain ⟨before, between, isLog, noCall, unanswered | answered⟩ := inCall
  · rw [AtSystem.takeRsp, unanswered.notDue, if_neg Bool.false_ne_true]
    exact ⟨before, between, isLog, noCall, .inl {
      pending := unanswered.pending
      notDue := unanswered.notDue
      notGiven := unanswered.notGiven
      notTaken := by simp
      stale := unanswered.stale
      fresh := unanswered.fresh }⟩
  · rw [AtSystem.takeRsp]
    split
    · exact ⟨before, between, isLog, noCall, .inr answered⟩
    · exact ⟨before, between, isLog, noCall, .inr answered⟩

theorem inCall_give {gives : Bool} (looked : system.handler = .looked gives)
    (inCall : system.InCall) :
    AtSystem.InCall { system.giveRsp gives with handler := .given } := by
  obtain ⟨before, between, isLog, noCall, unanswered | answered⟩ := inCall
  · cases gives with
    | true => exact absurd looked unanswered.notGiven
    | false =>
      exact ⟨before, between, isLog, noCall, .inl {
        pending := unanswered.pending
        notDue := unanswered.notDue
        notGiven := by simp
        notTaken := unanswered.notTaken
        stale := unanswered.stale
        fresh := unanswered.fresh }⟩
  · rw [AtSystem.giveRsp]
    split
    · split
      · exact ⟨before, between, isLog, noCall, .inr answered⟩
      · exact ⟨before, between, isLog, noCall, .inr answered⟩
    · exact ⟨before, between, isLog, noCall, .inr answered⟩

theorem inCall_resetRsp (inCall : system.InCall) : system.resetRsp.InCall := by
  obtain ⟨before, between, isLog, noCall, unanswered | answered⟩ := inCall
  · refine ⟨before, between, isLog, noCall, .inl ?_⟩
    exact {
      pending := unanswered.pending
      notDue := rfl
      notGiven := unanswered.notGiven
      notTaken := by
        rw [AtSystem.resetRsp]
        split
        · simp
        · exact unanswered.notTaken
      stale := unanswered.stale
      fresh := unanswered.fresh }
  · exact ⟨before, between, isLog, noCall, .inr answered⟩

theorem takeRsp_client (system : AtSystem) : system.takeRsp.client.log = system.client.log ∧
      system.takeRsp.client.atCmdResp = system.client.atCmdResp := by
  rw [AtSystem.takeRsp]
  split <;> exact ⟨rfl, rfl⟩

theorem giveRsp_system (gives : Bool) (system : AtSystem) :
    (system.giveRsp gives).client.log = system.client.log ∧
      (system.giveRsp gives).client.atCmdResp = system.client.atCmdResp ∧
      ((system.giveRsp gives).caller.runs = true → system.caller.runs = true) := by
  rw [AtSystem.giveRsp]
  split
  · split
    · rename_i waiting
      refine ⟨rfl, rfl, fun _ => ?_⟩
      rw [waiting]
      rfl
    · exact ⟨rfl, rfl, id⟩
  · exact ⟨rfl, rfl, id⟩

theorem runs_of_resetRsp (runs : system.resetRsp.caller.runs = true) :
    system.caller.runs = true := by
  rw [AtSystem.resetRsp] at runs
  split at runs
  · cases runs
  · exact runs

theorem dispatch_state (client : ClientState) : (dispatch client).smAtState = client.smAtState := by
  rw [dispatch]
  split <;> rfl

theorem inCall_dispatch (inCall : system.InCall) :
    AtSystem.InCall { system with
      client := dispatch system.client
      handler := .idle } := by
  obtain ⟨before, between, isLog, noCall, unanswered | answered⟩ := inCall
  · rw [dispatch, if_neg fun drains => drains.1 unanswered.pending]
    exact ⟨before, between, isLog, noCall, .inl {
      pending := unanswered.pending
      notDue := unanswered.notDue
      notGiven := by simp
      notTaken := unanswered.notTaken
      stale := unanswered.stale
      fresh := unanswered.fresh }⟩
  · obtain ⟨added, longer, ofHandler⟩ := dispatch_log system.client
    refine ⟨before, between ++ added, ?_, ?_, .inr ?_⟩
    · simp only [longer, isLog, append_assoc, cons_append]
    · rw [mem_append, not_or]
      exact ⟨noCall, fun member => ofHandler _ member⟩
    · rw [AtSystem.Answered]
      simp only [dispatch_state]
      exact AnsweredIn.append answered added

theorem ownAnswer_ofHandler {log added : List ClientEvent} (own : Always OwnAnswer log)
    (ofHandler : ∀ event ∈ added, event.OfHandler) :
    Always OwnAnswer (log ++ added) := by
  apply Always.ownAnswer_append own
  rintro event member state rfl
  exact ofHandler _ member

theorem ownAnswer_of_inCall (inCall : system.InCall) (taken : system.caller = .taken) :
    OwnAnswer system.client.log (.returned system.client.smAtState) := by
  rintro state ⟨⟩
  obtain ⟨before, between, isLog, noCall, unanswered | answered⟩ := inCall
  · exact absurd taken unanswered.notTaken
  · exact ⟨answered.ne_pending, before, between, isLog, noCall, answered⟩

theorem consistent_step {action : AtAction} {after : AtSystem} (consistent : system.Consistent size)
    (allowed : Separate size system action)
    (taken : atStep size rxBufSize action system = some after) :
    after.Consistent size := by
  have own := consistent.own
  have fits := consistent.fits
  cases action with
  | call =>
    rw [atStep] at taken
    split at taken
    · cases taken
      refine ⟨?_, fits, fun _ => inCall_call allowed⟩
      apply Always.ownAnswer_append own
      intro event member state isReturn
      rw [mem_singleton.mp member] at isReturn
      cases isReturn
    · cases taken
  | writeFails =>
    rw [atStep] at taken
    split at taken
    · cases taken
      exact ⟨own, fits, fun runs => by cases runs⟩
    · cases taken
  | written =>
    rw [atStep] at taken
    split at taken
    · rename_i sending
      cases taken
      have inCall := inCall_takeRsp (consistent.inCall (by rw [sending]; rfl))
      obtain ⟨sameLog, sameBuffer⟩ := takeRsp_client system
      refine ⟨?_, ?_, fun _ => inCall⟩
      · rw [sameLog]
        exact own
      · rw [sameBuffer]
        exact fits
    · cases taken
  | timeout =>
    rw [atStep] at taken
    split at taken
    · cases taken
      exact ⟨own, fits, fun runs => by cases runs⟩
    · cases taken
  | finish =>
    rw [atStep] at taken
    split at taken
    · rename_i isTaken
      cases taken
      have inCall := consistent.inCall (by rw [isTaken]; rfl)
      have longer := (Always.concat_iff _ _).mpr ⟨own, ownAnswer_of_inCall inCall isTaken⟩
      exact ⟨longer, fits, fun runs => by cases runs⟩
    · split at taken
      · cases taken
        exact ⟨own, fits, fun runs => by cases runs⟩
      · cases taken
  | chunk data =>
    rw [atStep] at taken
    split at taken
    · cases taken
      obtain ⟨added, longer, ofHandler⟩ :=
        receive_log size data system.client
      refine ⟨?_, receive_length data fits, fun runs =>
        inCall_chunk data fits (consistent.inCall runs) runs allowed⟩
      rw [longer]
      exact ownAnswer_ofHandler own ofHandler
    · cases taken
  | give =>
    rw [atStep] at taken
    split at taken
    · rename_i gives looked
      cases taken
      obtain ⟨sameLog, sameBuffer, ran⟩ := giveRsp_system gives system
      refine ⟨?_, ?_, fun runs =>
        inCall_give looked (consistent.inCall (ran runs))⟩
      · simp only [sameLog]
        exact own
      · simp only [sameBuffer]
        exact fits
    · cases taken
  | dispatch =>
    rw [atStep] at taken
    split at taken
    · cases taken
      obtain ⟨added, longer, ofHandler⟩ := dispatch_log system.client
      refine ⟨?_, dispatch_length fits, fun runs =>
        inCall_dispatch (consistent.inCall runs)⟩
      simp only [longer]
      exact ownAnswer_ofHandler own ofHandler
    · cases taken
  | abort =>
    cases taken
    exact ⟨own, fits, fun runs =>
      inCall_resetRsp (consistent.inCall (runs_of_resetRsp runs))⟩

/-- In every run in which each command is called when no answer is due, and
waits without an overflow and without a result that starts before it, each
command that takes `at_rsp` returns a result that was received after its
call. -/
theorem answers_are_own (reachable : Reachable (atStep size rxBufSize) (Separate size)
      (fun system => system = freshSystem) system) :
    Always OwnAnswer system.client.log := by
  have consistent : system.Consistent size := by
    induction reachable with
    | start isFresh =>
      rw [isFresh]
      exact ⟨Always.nil, Nat.zero_le _, fun runs => by cases runs⟩
    | next action _ allowed taken ih =>
      exact consistent_step ih allowed taken
  exact consistent.own

/-- A command whose terminator could not be written, and its late answer; the
next command takes the `at_rsp` that was given then. -/
def leftoverToken : List AtAction :=
  [.call, .writeFails, .chunk (ascii "\r\nOK\r\n"), .give, .dispatch, .call, .written, .finish]

def longResponse : List AtAction :=
  [.call, .written, .chunk (replicate 16 65), .give, .dispatch,
    .chunk (replicate 4 65), .give, .finish]

/-- Such commands return that they are pending. -/
theorem pending_is_returned : (∃ system, Reachable (atStep 20 16) (fun _ _ => True)
        (fun system => system = freshSystem) system ∧
      runActions (atStep 20 16) leftoverToken freshSystem = some system ∧
      .returned .pending ∈ system.client.log) ∧
    ∃ system, Reachable (atStep 20 16) (fun _ _ => True)
        (fun system => system = freshSystem) system ∧
      runActions (atStep 20 16) longResponse freshSystem = some system ∧
      .returned .pending ∈ system.client.log := by
  constructor
  · refine ⟨_, reachable_of_run leftoverToken rfl rfl, rfl, by decide⟩
  · refine ⟨_, reachable_of_run longResponse rfl rfl, rfl, by decide⟩

def twoCommands : List AtAction :=
  [.call, .written, .chunk (ascii "\r\n+CEREG: 1\r\n\r\nO"), .give, .dispatch,
    .chunk (ascii "K\r\n"), .give, .dispatch, .finish, .call, .written,
    .chunk (ascii "\r\nERROR\r\n"), .give, .finish]

theorem two_own_answers : ∃ system, runChecked (atStep 40 20)
        (fun system action => decide (Separate 40 system action)) twoCommands
        freshSystem = some system ∧
      .returned .error ∈ system.client.log ∧
      Always OwnAnswer system.client.log := by
  have evaluated : (runChecked (atStep 40 20)
      (fun system action => decide (Separate 40 system action)) twoCommands
      freshSystem).map (fun system =>
        decide (ClientEvent.returned .error ∈ system.client.log)) =
      some true := by
    decide
  obtain ⟨system, executed, returned⟩ := Option.map_eq_some_iff.mp evaluated
  refine ⟨system, executed, of_decide_eq_true returned, ?_⟩
  apply answers_are_own
  exact reachable_of_runChecked twoCommands
    (fun before action _ passed => of_decide_eq_true passed) (.start rfl)
    executed

end SerialModem.AtClient
