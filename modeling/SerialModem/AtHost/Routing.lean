import SerialModem.AtHost.OpenSession

/-!
# Routing

The functions of the AT host find the context to act on through the served
context.  `exit_datamode_handler` clears it at its end, also when it is called
from inside a receive item or a flush; whatever follows in that item acts on
the URC context.
-/

namespace SerialModem.AtHost

open Library Option

variable {cfg : Config} {env : Environment}

/-- The action executes a part of a receive item or of a flush of `c`. -/
def Serving (c : CtxId) (host : Host) (action : Action) : Prop :=
  (action = .receiveByte ∧ ∃ pipe, host.running = .rx c pipe) ∨
    (action = .flush ∧ ∃ mark, host.running = .rawSendScheduled c mark)

/-- While a context is being served, `exit_datamode_handler` does not move it
to null mode, unless it is the URC context as well. -/
def NoExitInside (cfg : Config) (env : Environment) (host : Host) (action : Action) :
    Prop :=
  ∀ c, Serving c host action → Fallback cfg c host ∨
      ∀ after, step cfg env action host = some after → handlerExits c after = handlerExits c host

variable {c : CtxId} {host after : Host}

theorem handleByte_actsOn {byte : Byte} (wellFormed : AllWellFormed cfg host)
    (served : Served cfg c host)
    (safe : Fallback cfg c host ∨ handlerExits c after = handlerExits c host)
    (ran : handleByte cfg env c byte host = some after) :
    ActsOn c host after ∧ Served cfg c after := by
  rcases handleByte_cases False wellFormed (fun impossible =>
      impossible.elim) ran with
    ⟨_, commanded⟩ | ⟨_, _, processed⟩ | ⟨_, _, settled⟩ | ⟨_, rfl⟩
  · exact ⟨commanded.routed c served, served.of_frame commanded.frame commanded.current⟩
  · exact processed.routed safe served
  · exact ⟨settled.actsOn served, served.of_frame settled.frame settled.current⟩
  · exact ⟨ActsOn.refl c _, served⟩

theorem takeByte_actsOn (c : CtxId) (byte : Byte) (host : Host) :
    ActsOn c host (takeByte c byte host) :=
  ⟨Appends.record (setInactivityTimer c false host) trivial,
    fun _ different => takeByte_view_of_ne byte host different⟩

theorem takeByte_exits (c : CtxId) (byte : Byte) (host : Host) :
    handlerExits c (takeByte c byte host) = handlerExits c host := by
  simp [takeByte, handlerExits, isHandlerExit, setInactivityTimer, Host.setCtx]

theorem finishByte_actsOn (c : CtxId) (pipe : PipeId) (host : Host) :
    ActsOn c host (finishByte c pipe host) := by
  refine ⟨Appends.of_eq (finishByte_history c pipe host), fun d _ => ?_⟩
  rw [view, finishByte_data, finishByte_history, view]

theorem receiveByte_actsOn {pipe : PipeId} (wellFormed : AllWellFormed cfg host)
    (running : host.running = .rx c pipe) (served : Served cfg c host)
    (permitted : NoExitInside cfg env host .receiveByte)
    (taken : step cfg env .receiveByte host = some after) :
    ActsOn c host after ∧ ∀ p, after.running = .rx c p → Served cfg c after := by
  have safe := permitted c (.inl ⟨rfl, pipe, running⟩)
  cases step_cases taken with
  | receiveByte d p byte rest received isRunning waiting ran =>
    rw [running] at isRunning
    cases isRunning
    obtain ⟨handled, handling, rfl⟩ := map_eq_some_iff.mp ran
    let arrived := takeByte c byte (setPipeRx pipe rest host)
    have wiring : SameWiring host arrived := by
      have offered : SameWiring host (setPipeRx pipe rest host) :=
        ⟨fun _ => rfl, rfl, rfl, rfl, rfl, rfl⟩
      exact offered.trans (takeByte_frame c byte _).sameWiring
    have offeredActs : ActsOn c host (setPipeRx pipe rest host) :=
      ⟨Appends.of_eq rfl, fun _ _ => rfl⟩
    have arrivedActs : ActsOn c host arrived :=
      offeredActs.trans (takeByte_actsOn c byte _)
    have arrivedServed : Served cfg c arrived :=
      served.of_wiring wiring rfl
    have arrivedExits : handlerExits c arrived = handlerExits c host :=
      takeByte_exits c byte (setPipeRx pipe rest host)
    have safeByte : Fallback cfg c arrived ∨ handlerExits c handled = handlerExits c arrived := by
      refine safe.imp (Fallback.of_wiring wiring) fun unchanged => ?_
      have same : handlerExits c (finishByte c pipe handled) =
          handlerExits c host := unchanged _ taken
      rw [arrivedExits, ← same, handlerExits, handlerExits, finishByte_history]
    have offeredWellFormed : AllWellFormed cfg (setPipeRx pipe rest host) :=
      wellFormed
    have arrivedWellFormed : AllWellFormed cfg arrived :=
      takeByte_wellFormed offeredWellFormed
    obtain ⟨acts, stillServed⟩ := handleByte_actsOn
      arrivedWellFormed arrivedServed safeByte handling
    refine ⟨(arrivedActs.trans acts).trans
      (finishByte_actsOn c pipe handled), fun p stillRunning => ?_⟩
    have started : Undisturbed cfg handled (startInactivityTimer c handled) :=
      startInactivityTimer_undisturbed c handled
    unfold continueRxWork at stillRunning ⊢
    split
    · exact stillServed.of_frame started.frame started.current
    · rename_i moved
      rw [if_neg moved] at stillRunning
      cases stillRunning

def BatchServed (cfg : Config) (host : Host) : Prop :=
  ∀ c pipe, host.running = .rx c pipe → Served cfg c host

theorem step_batchServed {action : Action} (wellFormed : AllWellFormed cfg host)
    (served : BatchServed cfg host)
    (permitted : NoExitInside cfg env host action)
    (taken : step cfg env action host = some after) :
    BatchServed cfg after := by
  intro c pipe running
  rcases step_rx wellFormed taken running with
    already | ⟨_, _, _, _, rest, rfl⟩
  · by_cases byte : action = .receiveByte
    · subst byte
      exact (receiveByte_actsOn wellFormed already (served c pipe already)
        permitted taken).2 pipe running
    · exact (served c pipe already).of_wiring (step_sameWiring wellFormed taken)
        (step_current already byte taken running)
  · exact .inl rfl

/-- The batch in progress serves its own context. -/
theorem reachable_batchServed (reachable : ReachableIf cfg env (NoExitInside cfg env) host) :
    BatchServed cfg host := by
  induction reachable with
  | start initial =>
    intro c pipe running
    rw [initial.running] at running
    cases running
  | next action before permitted taken ih =>
    exact step_batchServed (reachable_wellFormed before) ih permitted taken

theorem flush_actsOn {mark : Nat} (wellFormed : AllWellFormed cfg host)
    (running : host.running = .rawSendScheduled c mark)
    (permitted : NoExitInside cfg env host .flush)
    (taken : step cfg env .flush host = some after) :
    ActsOn c host after := by
  have safe := permitted c (.inr ⟨rfl, mark, running⟩)
  cases step_cases taken with
  | flush d m flushed isRunning ran =>
    rw [running] at isRunning
    cases isRunning
    obtain ⟨inner, processed, rfl⟩ := rawSendScheduled_processed False
      wellFormed (fun impossible => impossible.elim) ran
    have serving : SameWiring host (host.setCurrentCtx (some c)) :=
      (Frame.setCurrentCtx host (some c)).sameWiring
    have safeInner : Fallback cfg c (host.setCurrentCtx (some c)) ∨
        handlerExits c inner = handlerExits c host := by
      refine safe.imp (Fallback.of_wiring serving) fun unchanged => ?_
      have same := unchanged _ taken
      exact same
    have acts := (processed.routed safeInner (.inl rfl)).1
    exact ⟨acts.events, acts.others⟩

/-- As long as no context loses its handler while it is being served, every
byte of a batch and every flush act on their own context only. -/
theorem serving_actsOn {action : Action} {host after : Host} {c : CtxId}
    (reachable : ReachableIf cfg env (NoExitInside cfg env) host)
    (serving : Serving c host action)
    (permitted : NoExitInside cfg env host action)
    (taken : step cfg env action host = some after) :
    ActsOn c host after := by
  have wellFormed := reachable_wellFormed reachable
  rcases serving with ⟨rfl, pipe, running⟩ | ⟨rfl, mark, running⟩
  · exact (receiveByte_actsOn wellFormed running
      (reachable_batchServed reachable c pipe running) permitted taken).1
  · exact flush_actsOn wellFormed running permitted taken

/-- Whether a part of a receive item or of a flush leaves its context in data mode. -/
def exitsNone (cfg : Config) (env : Environment) (host : Host) (action : Action) : Bool :=
  match host.running with
  | .rx c _ | .rawSendScheduled c _ =>
    (step cfg env action host).all fun after => handlerExits c after = handlerExits c host
  | _ => true

theorem exitsNone_sound {action : Action} (checked : exitsNone cfg env host action = true) :
    NoExitInside cfg env host action := by
  rintro c (⟨_, pipe, running⟩ | ⟨_, mark, running⟩)
  · refine .inr fun after taken => ?_
    simpa only [exitsNone, running, taken, all_some, decide_eq_true_eq] using checked
  · refine .inr fun after taken => ?_
    simpa only [exitsNone, running, taken, all_some, decide_eq_true_eq] using checked

/-- Context 1 is the URC context.  Without an exit inside, a byte is received by
context 0 that has these effects, and all of them are on context 0. -/
def ServesSession (events : List Event) : Prop :=
  ∃ host after, ReachableIf plusConfig (sessionEnv 0 consumeAll)
      (NoExitInside plusConfig (sessionEnv 0 consumeAll)) host ∧
    Serving 0 host .receiveByte ∧
    step plusConfig (sessionEnv 0 consumeAll) .receiveByte host = some after ∧
    after.history = host.history ++ events ∧ ActsOn 0 host after

/-- How context 0 enters data mode, and how the bytes `a+++` are flushed and
answered then; what the last byte of each leads to. -/
def sessionParts : List (List Action × List Event) :=
  [((openingActions 0).take 4,
      [.received 0 13, .cmdSend 0 [65, 84], .locked 0, .enterDatamode 0 0 0, .unlocked 0]),
    (openingActions 0 ++ [.pipeReceive 0 [97, 43, 43, 43], .receiveByte, .receiveByte,
        .receiveByte],
      [.received 0 43, .rawSend 0 Flags.none, .handlerSend 0 0 [97] Flags.none 1,
        .handlerExit 0 0 Flags.none, .rspSend 0 (.xdatamode 0), .exitDatamode 0])]

theorem serving_actsOn_session :
    ServesSession [.received 0 13, .cmdSend 0 [65, 84], .locked 0, .enterDatamode 0 0 0,
      .unlocked 0] ∧
    ServesSession [.received 0 43, .rawSend 0 Flags.none, .handlerSend 0 0 [97] Flags.none 1,
      .handlerExit 0 0 Flags.none, .rspSend 0 (.xdatamode 0), .exitDatamode 0] := by
  have evaluated : ∀ part ∈ sessionParts, (runChecked (step plusConfig (sessionEnv 0 consumeAll))
        (exitsNone plusConfig (sessionEnv 0 consumeAll)) part.1 (freshHost [1, 0])).map
          (fun host => (host.running,
            exitsNone plusConfig (sessionEnv 0 consumeAll) host .receiveByte,
            (step plusConfig (sessionEnv 0 consumeAll) .receiveByte host).map fun after =>
              decide (after.history = host.history ++ part.2))) =
        some (.rx 0 0, true, some true) := by
    decide
  have serves : ∀ part ∈ sessionParts, ServesSession part.2 := by
    intro part member
    obtain ⟨host, ran, seen⟩ := map_eq_some_iff.mp (evaluated part member)
    simp only [Prod.mk.injEq, map_eq_some_iff, decide_eq_true_eq] at seen
    obtain ⟨running, checked, after, taken, history⟩ := seen
    have reachable := reachable_of_runChecked part.1
      (fun _ _ _ checked => exitsNone_sound checked) (.start (freshHost_initial [1, 0])) ran
    have serving : Serving 0 host .receiveByte := .inl ⟨rfl, 0, running⟩
    exact ⟨host, after, reachable, serving, taken, history,
      serving_actsOn reachable serving (exitsNone_sound checked) taken⟩
  exact ⟨serves _ (.head _), serves _ (.tail _ (.head _))⟩

theorem answer_misrouted : ¬ ∀ (cfg : Config) (env : Environment) (host after : Host) (c : CtxId)
        (action : Action),
      ReachableState cfg env host → Serving c host action →
      step cfg env action host = some after → ActsOn c host after := by
  intro claimed
  let env := sessionEnv 0 refuseAll
  obtain ⟨host, reachable, seen⟩ := exists_run plusConfig env [1, 0]
    (openingActions 0 ++ [.pipeReceive 0 [97, 43, 43, 43], .receiveByte,
      .receiveByte, .receiveByte])
    (fun state => (state.running, (step plusConfig env .receiveByte state).map fun after =>
        after.history.drop state.history.length))
    (.rx 0 0, some [.received 0 43, .rawSend 0 Flags.none,
      .handlerSend 0 0 [97] Flags.none (-1), .exitDatamodeHandler 0 (-1),
      .handlerExit 0 0 ⟨false, true⟩, .rspSend 1 (.xdatamode (-1)),
      .exitDatamode 0])
    (by decide)
  obtain ⟨running, seen⟩ := Prod.mk.inj seen
  obtain ⟨after, taken, new⟩ := map_eq_some_iff.mp seen
  obtain ⟨events, history, routed⟩ := (claimed plusConfig env host after 0
    .receiveByte reachable (.inl ⟨rfl, 0, running⟩) taken).events
  rw [history, List.drop_left] at new
  have astray : Routed 0 (.rspSend 1 (.xdatamode (-1))) :=
    routed _ (by simp [new])
  cases astray

end SerialModem.AtHost
