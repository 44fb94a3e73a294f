import SerialModem.NrfCloud.System
import Mathlib.Data.List.Nodup

/-!
# Who gets the result of a cell measurement

Every measurement that `sm_at_nrfcloud_ncellmeas_start` begins is to end once, to
be handed to the client that asked for it, with what the notifications of its own
searches say, and to be freed by that client.  This holds as long as an A-GNSS
request does not start a measurement beside another request, is not left waiting
for it, and no notification of an older measurement comes during a younger one.
-/

namespace SerialModem.NrfCloud

open Library List Option Function
open Ncellmeas (LteLcCellsInfo Setting startCells parseNotification parseNcellmeas_gciCells)

variable {world after : World}

/-! ## The history of a measurement -/

def Entry.run : Entry → Option RunId
  | .started run _ => some run
  | .parsed run _ => some run
  | .completed run _ => some run
  | .nullCells => none
  | .received run _ => some run
  | .freed run => some run
  | .leaked run => some run

/-- The entries of one run. -/
def runLog (run : RunId) (log : List Entry) : List Entry :=
  log.filter fun entry => entry.run = some run

inductive Life where
  | measuring
  | completed
  | received
  | freed
  deriving DecidableEq

def ending (run : RunId) (client : Client) : Life → List Entry
  | .measuring => []
  | .completed => [.completed run client.kind]
  | .received => [.completed run client.kind, .received run client]
  | .freed =>
    [.completed run client.kind, .received run client, .freed run]

def history (run : RunId) (client : Client) (parses : Nat) (life : Life) : List Entry :=
  .started run client :: (replicate parses (.parsed run run) ++ ending run client life)

/-- The entries of a run are those of a measurement of the client up to this point of its life. -/
def Lives (world : World) (run : RunId) (client : Client) (life : Life) : Prop :=
  ∃ parses, runLog run world.log = history run client parses life

def Settled (world : World) (run : RunId) : Prop :=
  runLog run world.log = [] ∨ ∃ client, Lives world run client .freed

theorem runLog_concat_self {run : RunId} {log : List Entry} {entry : Entry}
    (own : entry.run = some run) :
    runLog run (log ++ [entry]) = runLog run log ++ [entry] := by
  simp [runLog, own]

theorem runLog_concat_of_ne {run : RunId} {log : List Entry} {entry : Entry}
    (foreign : entry.run ≠ some run) :
    runLog run (log ++ [entry]) = runLog run log := by
  simp [runLog, foreign]

@[simp]
theorem record_log (entry : Entry) (world : World) :
    (world.record entry).log = world.log ++ [entry] := rfl

theorem Settled.record {run : RunId} {entry : Entry} (settled : Settled world run)
    (foreign : entry.run ≠ some run) : Settled (world.record entry) run := by
  unfold Settled Lives at *
  rw [record_log, runLog_concat_of_ne foreign]
  exact settled

theorem Settled.of_log {run : RunId} (settled : Settled world run)
    (log : after.log = world.log) : Settled after run := by
  unfold Settled Lives at *
  rw [log]
  exact settled

variable {client : Client}

theorem Lives.of_log {run : RunId} {life : Life}
    (lives : Lives world run client life) (log : after.log = world.log) :
    Lives after run client life := by
  unfold Lives at *
  rw [log]
  exact lives

theorem Lives.started {run : RunId} (unborn : runLog run world.log = [])
    (log : after.log = world.log ++ [.started run client]) :
    Lives after run client .measuring :=
  ⟨0, by rw [log, runLog_concat_self rfl, unborn]; rfl⟩

theorem Lives.parsed {run : RunId} (lives : Lives world run client .measuring)
    (log : after.log = world.log ++ [.parsed run run]) :
    Lives after run client .measuring := by
  obtain ⟨parses, isHistory⟩ := lives
  refine ⟨parses + 1, ?_⟩
  rw [log, runLog_concat_self rfl, isHistory, history, history, replicate_succ']
  simp [ending]

theorem Lives.completed {run : RunId} (lives : Lives world run client .measuring)
    (log : after.log = world.log ++ [.completed run client.kind]) :
    Lives after run client .completed := by
  obtain ⟨parses, isHistory⟩ := lives
  exact ⟨parses, by
    rw [log, runLog_concat_self rfl, isHistory]
    simp [history, ending]⟩

theorem Lives.received {run : RunId} (lives : Lives world run client .completed)
    (log : after.log = world.log ++ [.received run client]) :
    Lives after run client .received := by
  obtain ⟨parses, isHistory⟩ := lives
  exact ⟨parses, by
    rw [log, runLog_concat_self rfl, isHistory]
    simp [history, ending]⟩

theorem Lives.freed {run : RunId} (lives : Lives world run client .received)
    (log : after.log = world.log ++ [.freed run]) :
    Lives after run client .freed := by
  obtain ⟨parses, isHistory⟩ := lives
  exact ⟨parses, by
    rw [log, runLog_concat_self rfl, isHistory]
    simp [history, ending]⟩

/-! ## Phases -/

inductive Phase where
  | idle
  /-- `AT#XNRFCLOUDPOS` is accepted, and its measurement is queued. -/
  | asked
  /-- The location request is queued without a measurement. -/
  | unmeasured
  | measuring (client : Client) (run : RunId)
  | measured (client : Client) (run : RunId)
  | locating (data : Option (Client × RunId))
  | answered (request : Nat) (run : RunId)
  | taking (request : Nat) (run : RunId)
  | cleaning (client : Client) (run : RunId)
  deriving DecidableEq

namespace Phase

def sending : Phase → Bool
  | .asked | .unmeasured | .measuring _ _ | .measured _ _ | .locating _ => true
  | .idle | .answered _ _ | .taking _ _ | .cleaning _ _ => false

def cellData : Phase → Option RunId
  | .measuring _ run | .measured _ run => some run
  | .locating data => data.map Prod.snd
  | _ => none

def netInfo : Phase → Option RunId
  | .answered _ run | .taking _ run => some run
  | _ => none

def sem : Phase → Bool
  | .answered _ _ => true
  | _ => false

/-- Which item of `AT#XNRFCLOUDPOS` is queued. -/
def item : Phase → Option WorkItem
  | .asked => some .ncellmeasWork
  | .unmeasured | .measured _ _ => some .locReqWork
  | _ => none

def life : Phase → Option (RunId × Client × Life)
  | .measuring client run => some (run, client, .measuring)
  | .measured client run => some (run, client, .completed)
  | .locating (some (client, run)) => some (run, client, .received)
  | .answered request run => some (run, .agnss request, .completed)
  | .taking request run => some (run, .agnss request, .completed)
  | .cleaning client run => some (run, client, .received)
  | _ => none

def measures : Phase → Bool
  | .measuring _ _ => true
  | _ => false

end Phase

structure Calm (world : World) : Prop where
  idle : world.vars.ncellmeasSmState = .idle
  paused : world.monitorActive = false
  noTimeout : world.timeoutScheduled = false
  noState : world.stateScheduled = false
  noTimeoutWork : WorkItem.timeoutBackupWork ∉ world.queue
  noStateWork : WorkItem.stateHandleWork ∉ world.queue

def NcellmeasState.searchType : NcellmeasState → Option Nat
  | .firstWait => some 1
  | .secondWait => some 3
  | .thirdWait => some 4
  | .idle | .rrcIdleWait => none

def StatePending (world : World) : Prop :=
  world.stateScheduled = true ∨ WorkItem.stateHandleWork ∈ world.queue

/-- The timeout work is scheduled or queued. -/
def TimeoutPending (world : World) : Prop :=
  world.timeoutScheduled = true ∨ WorkItem.timeoutBackupWork ∈ world.queue

structure Measuring (world : World) (client : Client) (run : RunId) : Prop where
  notIdle : world.vars.ncellmeasSmState ≠ .idle
  listens : world.monitorActive = true
  bounded : TimeoutPending world
  flag : world.vars.ncellmeasSendLocReqFlag = (client.kind == ClientKind.location)
  callback : client.kind = .agnss → world.vars.ncellmeasDoneCb = some .agnssNcellmeasDone ∧
      world.vars.ncellmeasReqCellCount ≤ 1 ∧ world.vars.ncellmeasSmState = .firstWait
  location : client.kind = .location → client = .location world.locRequests ∧
      world.vars.ncellmeasDoneCb = none ∧ world.vars.nrfcloudCellCount ≠ 0
  awaits : ∀ search ∈ world.searches, search.run = run →
    world.vars.ncellmeasSmState.searchType = some search.type ∧ ¬StatePending world
  searchType : ∀ type, world.vars.ncellmeasSmState.searchType = some type →
    world.vars.ncellmeasSearchType = type
  noNeighbors : ∀ search ∈ world.searches, search.run = run →
    search.type = 1 → (world.cells run).neighborCells = none
  noGciCells : world.vars.ncellmeasSmState = .firstWait ∨
    world.vars.ncellmeasSmState = .rrcIdleWait → (world.cells run).gciCells = none
  once : world.stateScheduled = true → WorkItem.stateHandleWork ∉ world.queue

/-- `sm_work_q` is in no work item, or it is about to free nothing. -/
def Free (running : List WorkOp) : Prop :=
  running = [] ∨ running = [.agnssClean none]

/-- What `sm_work_q` is in. -/
def Phase.Runs (world : World) : Phase → Prop
  | .idle | .asked | .unmeasured => Free world.running
  | .measuring client run =>
    (client.kind = .location ∧ Free world.running) ∨
    world.running = [.firstSent client ⟨run, 1⟩] ∨
    (∃ request, client = .agnss request ∧ world.running = [.agnssWait request]) ∨
    (client.kind = .location ∧ world.running = [.csconRead] ∧
      world.vars.ncellmeasSmState = .rrcIdleWait ∧ ¬StatePending world) ∨
    (client.kind = .location ∧ ∃ type, world.running = [.gciSent ⟨run, type⟩])
  | .measured client run =>
    Free world.running ∨
    (world.running = [.firstSent client ⟨run, 1⟩] ∧ ⟨run, 1⟩ ∉ world.searches) ∨
    ∃ type, world.running = [.gciSent ⟨run, type⟩] ∧ ⟨run, type⟩ ∉ world.searches
  | .locating _ => world.running = [.locReqClean]
  | .answered request run =>
    world.running = [.agnssWait request] ∨
    (world.running = [.firstSent (.agnss request) ⟨run, 1⟩] ∧ ⟨run, 1⟩ ∉ world.searches)
  | .taking request _ => world.running = [.agnssTake request]
  | .cleaning _ run => world.running = [.agnssClean (some run)]

/-- The clients of the measurements of `AT#XNRFCLOUDPOS`. -/
def Phase.Located (world : World) : Phase → Prop
  | .asked => world.vars.nrfcloudCellCount ≠ 0
  | .measured client _ => client = .location world.locRequests ∧ world.vars.nrfcloudCellCount ≠ 0
  | _ => True

/-- The world is in a phase, whatever `sm_work_q` runs. -/
structure InPhase (world : World) (phase : Phase) : Prop where
  sending : world.vars.nrfcloudSendingLocReq = phase.sending
  cellData : world.vars.nrfcloudCellData = phase.cellData
  netInfo : world.vars.agnssNetInfo = phase.netInfo
  sem : world.agnssSem = phase.sem
  queued : ∀ item, item = .ncellmeasWork ∨ item = .locReqWork →
    (item ∈ world.queue ↔ phase.item = some item)
  calm : phase.measures = false → Calm world
  measuring : ∀ client run, phase = .measuring client run → Measuring world client run
  located : phase.Located world
  lives : ∀ run client life, phase.life = some (run, client, life) →
    run < world.runs ∧ Lives world run client life
  settled : ∀ run, phase.life.map Prod.fst ≠ some run → Settled world run
  unborn : ∀ run, world.runs ≤ run → runLog run world.log = []
  noNull : Entry.nullCells ∉ world.log
  items : world.queue.Nodup
  searches : world.searches.Nodup
  known : ∀ search ∈ world.searches, search.run < world.runs

/-- Where the measurements and `sm_work_q` stand. -/
def Orderly (world : World) : Prop :=
  ∃ phase, InPhase world phase ∧ phase.Runs world

/-! ## The queue -/

theorem submit_spec (item : WorkItem) (world : World) :
    ∃ queue, world.submit item = { world with queue := queue } ∧
      (∀ other, other ∈ queue ↔ other ∈ world.queue ∨ other = item) ∧
      (world.queue.Nodup → queue.Nodup) := by
  unfold World.submit
  split
  · rename_i member
    refine ⟨world.queue, rfl, ?_, id⟩
    intro other
    exact ⟨Or.inl, fun isItem => isItem.elim id fun same => same ▸ member⟩
  · rename_i missing
    refine ⟨world.queue ++ [item], rfl, by simp, ?_⟩
    intro nodup
    exact nodup.append (nodup_singleton item) (by simpa [disjoint_singleton] using missing)

theorem scheduleState_spec (now : Bool) (world : World) :
    ∃ queue scheduled, world.scheduleState now =
        { world with queue := queue, stateScheduled := scheduled } ∧
      (∀ other, other ≠ .stateHandleWork → (other ∈ queue ↔ other ∈ world.queue)) ∧
      (world.queue.Nodup → queue.Nodup) ∧
      ((world.stateScheduled = true → WorkItem.stateHandleWork ∉ world.queue) →
        scheduled = true → WorkItem.stateHandleWork ∉ queue) := by
  unfold World.scheduleState
  split
  · exact ⟨world.queue, world.stateScheduled, rfl, fun _ _ => Iff.rfl, id, id⟩
  · rename_i notPending
    obtain ⟨unscheduled, unqueued⟩ := not_or.mp notPending
    split
    · obtain ⟨queue, same, member, nodup⟩ := submit_spec .stateHandleWork world
      refine ⟨queue, world.stateScheduled, same, ?_, nodup,
        fun _ scheduled => absurd scheduled unscheduled⟩
      intro other different
      rw [member]
      exact ⟨fun isMember => isMember.elim id fun isState =>
        absurd isState different, Or.inl⟩
    · exact ⟨world.queue, true, rfl, fun _ _ => Iff.rfl, id, fun _ _ => unqueued⟩

theorem scheduleTimeout_spec (world : World) : ∃ scheduled, world.scheduleTimeout =
        { world with timeoutScheduled := scheduled } ∧
      (scheduled = true ∨ WorkItem.timeoutBackupWork ∈ world.queue) := by
  unfold World.scheduleTimeout
  split
  · rename_i queued
    exact ⟨world.timeoutScheduled, rfl, .inr queued⟩
  · exact ⟨true, rfl, .inl rfl⟩

/-! ## Steps that leave the phase -/

structure Aside (world after : World) : Prop where
  vars : ∃ ready, after.vars = { world.vars with smNrfCloudReady := ready }
  cells : after.cells = world.cells
  runs : after.runs = world.runs
  monitorActive : after.monitorActive = world.monitorActive
  timeoutScheduled : after.timeoutScheduled = world.timeoutScheduled
  stateScheduled : after.stateScheduled = world.stateScheduled
  agnssSem : after.agnssSem = world.agnssSem
  locRequests : after.locRequests = world.locRequests
  log : after.log = world.log
  queue : ∀ item, item ≠ .agnssReqWork → (item ∈ after.queue ↔ item ∈ world.queue)
  items : world.queue.Nodup → after.queue.Nodup
  searches : after.searches.Sublist world.searches

namespace Aside

theorem statePending (aside : Aside world after) : StatePending after ↔ StatePending world := by
  unfold StatePending
  rw [aside.stateScheduled, aside.queue .stateHandleWork (by decide)]

theorem timeoutPending (aside : Aside world after) :
    TimeoutPending after ↔ TimeoutPending world := by
  unfold TimeoutPending
  rw [aside.timeoutScheduled, aside.queue .timeoutBackupWork (by decide)]

theorem smState (aside : Aside world after) :
    after.vars.ncellmeasSmState = world.vars.ncellmeasSmState := by
  obtain ⟨ready, vars⟩ := aside.vars
  rw [vars]

end Aside

theorem Calm.aside (calm : Calm world) (aside : Aside world after) : Calm after where
  idle := aside.smState.trans calm.idle
  paused := aside.monitorActive.trans calm.paused
  noTimeout := aside.timeoutScheduled.trans calm.noTimeout
  noState := aside.stateScheduled.trans calm.noState
  noTimeoutWork := (aside.queue _ (by decide)).not.mpr calm.noTimeoutWork
  noStateWork := (aside.queue _ (by decide)).not.mpr calm.noStateWork

theorem Measuring.aside {run : RunId} (measuring : Measuring world client run)
    (aside : Aside world after) :
    Measuring after client run := by
  obtain ⟨ready, vars⟩ := aside.vars
  refine ⟨?_, ?_, aside.timeoutPending.mpr measuring.bounded, ?_, ?_, ?_, ?_, ?_, ?_, ?_, ?_⟩
  · rw [aside.smState]
    exact measuring.notIdle
  · exact aside.monitorActive.trans measuring.listens
  · rw [vars]
    exact measuring.flag
  · rw [vars]
    exact measuring.callback
  · rw [vars, aside.locRequests]
    exact measuring.location
  · intro search member own
    rw [aside.smState, aside.statePending]
    exact measuring.awaits search (aside.searches.subset member) own
  · rw [vars]
    exact measuring.searchType
  · intro search member own isFirst
    rw [aside.cells]
    exact measuring.noNeighbors search (aside.searches.subset member) own isFirst
  · rw [vars, aside.cells]
    exact measuring.noGciCells
  · rw [aside.stateScheduled, aside.queue _ (by decide)]
    exact measuring.once

variable {phase : Phase}

theorem InPhase.aside (inPhase : InPhase world phase)
    (aside : Aside world after) : InPhase after phase := by
  obtain ⟨ready, vars⟩ := aside.vars
  refine ⟨?_, ?_, ?_, aside.agnssSem.trans inPhase.sem, ?_,
    fun still => (inPhase.calm still).aside aside,
    fun client run isPhase => (inPhase.measuring client run isPhase).aside aside,
    ?_, ?_, fun run other => (inPhase.settled run other).of_log aside.log, ?_,
    ?_, aside.items inPhase.items, aside.searches.nodup inPhase.searches, ?_⟩
  · rw [vars]
    exact inPhase.sending
  · rw [vars]
    exact inPhase.cellData
  · rw [vars]
    exact inPhase.netInfo
  · intro item isItem
    rw [aside.queue item (by rcases isItem with rfl | rfl <;> decide)]
    exact inPhase.queued item isItem
  · have located := inPhase.located
    cases phase with
    | measured client run =>
      refine ⟨aside.locRequests ▸ located.1, ?_⟩
      rw [vars]
      exact located.2
    | asked =>
      unfold Phase.Located at *
      rw [vars]
      exact located
    | idle | unmeasured | measuring _ _ | locating _ | answered _ _ | taking _ _
    | cleaning _ _ => trivial
  · intro run client life isLife
    obtain ⟨born, lives⟩ := inPhase.lives run client life isLife
    exact ⟨aside.runs ▸ born, lives.of_log aside.log⟩
  · rw [aside.runs, aside.log]
    exact inPhase.unborn
  · rw [aside.log]
    exact inPhase.noNull
  · intro search member
    rw [aside.runs]
    exact inPhase.known search (aside.searches.subset member)

theorem Phase.Runs.aside (runs : phase.Runs world) (aside : Aside world after)
    (running : after.running = world.running) :
    phase.Runs after := by
  have gone : ∀ search, search ∉ world.searches → search ∉ after.searches :=
    fun search missing member => missing (aside.searches.subset member)
  cases phase with
  | measuring client run =>
    unfold Phase.Runs at *
    rw [running, aside.smState, aside.statePending]
    exact runs
  | measured client run =>
    unfold Phase.Runs at *
    rw [running]
    rcases runs with free | ⟨first, missing⟩ | ⟨type, sent, missing⟩
    · exact .inl free
    · exact .inr (.inl ⟨first, gone _ missing⟩)
    · exact .inr (.inr ⟨type, sent, gone _ missing⟩)
  | answered request run =>
    unfold Phase.Runs at *
    rw [running]
    rcases runs with waiting | ⟨first, missing⟩
    · exact .inl waiting
    · exact .inr ⟨first, gone _ missing⟩
  | idle | asked | unmeasured =>
    unfold Phase.Runs at *
    rw [running]
    exact runs
  | locating data | taking request run | cleaning client run => exact running.trans runs

/-! ## The end of a measurement -/

theorem InPhase.others_recorded {phase : Phase} {run : RunId} {client : Client}
    {life : Life} {entry : Entry} (inPhase : InPhase world phase)
    (isLife : phase.life = some (run, client, life))
    (own : entry.run = some run) (log : after.log = world.log ++ [entry])
    (runs : after.runs = world.runs) :
    (∀ other, some run ≠ some other → Settled after other) ∧
      (∀ other, after.runs ≤ other → runLog other after.log = []) ∧
      Entry.nullCells ∉ after.log := by
  have born := (inPhase.lives run client life isLife).1
  refine ⟨?_, ?_, ?_⟩
  · intro other different
    have settled := inPhase.settled other (by simpa [isLife] using different)
    refine (@Settled.record world other entry settled ?_).of_log log
    rwa [own]
  · intro other late
    have different : some run ≠ some other := by
      intro same
      cases same
      exact absurd (runs ▸ late) (Nat.not_le.mpr born)
    rw [log, runLog_concat_of_ne (by rwa [own])]
    exact inPhase.unborn other (runs ▸ late)
  · rw [log]
    intro member
    rcases mem_append.mp member with old | new
    · exact inPhase.noNull old
    · rw [← mem_singleton.mp new] at own
      cases own

theorem ncellmeasStop_calm (world : World) : Calm (ncellmeasStop world) where
  idle := rfl
  paused := rfl
  noTimeout := rfl
  noState := rfl
  noTimeoutWork := by simp [ncellmeasStop, World.cancelDelayables, World.setVars]
  noStateWork := by simp [ncellmeasStop, World.cancelDelayables, World.setVars]

theorem mem_ncellmeasStop {item : WorkItem} (isItem : item = .ncellmeasWork ∨ item = .locReqWork) :
    item ∈ (ncellmeasStop world).queue ↔ item ∈ world.queue := by
  rcases isItem with rfl | rfl <;>
    simp [ncellmeasStop, World.cancelDelayables, World.setVars]

theorem ncellmeasStop_nodup (nodup : world.queue.Nodup) : (ncellmeasStop world).queue.Nodup :=
  nodup.filter _

theorem ncellmeasComplete_location {run : RunId} (inPhase : InPhase world (.measuring client run))
    (isLocation : client.kind = .location) :
    InPhase (ncellmeasComplete world) (.measured client run) ∧
      (ncellmeasComplete world).running = world.running ∧
      (ncellmeasComplete world).searches = world.searches := by
  have measuring := inPhase.measuring client run rfl
  have flag : world.vars.ncellmeasSendLocReqFlag = true := by
    rw [measuring.flag, isLocation]
    rfl
  obtain ⟨isRequest, _, counted⟩ := measuring.location isLocation
  obtain ⟨born, lives⟩ := inPhase.lives run client .measuring rfl
  obtain ⟨queue, submitted, member, nodup⟩ := submit_spec .locReqWork
    (ncellmeasFinish (some run) (ncellmeasStop world))
  have form : ncellmeasComplete world =
      { ncellmeasFinish (some run) (ncellmeasStop world) with
        queue := queue } := by
    rw [ncellmeasComplete, inPhase.cellData]
    exact (if_pos flag).trans submitted
  have log : (ncellmeasComplete world).log = world.log ++ [.completed run client.kind] := by
    rw [form, isLocation]
    change world.log ++ [Entry.completed run
      (if world.vars.ncellmeasSendLocReqFlag then _ else _)] = _
    rw [if_pos flag]
  have calm := ncellmeasStop_calm world
  have others := inPhase.others_recorded rfl rfl log (by rw [form]; rfl)
  rw [form] at others log ⊢
  refine ⟨⟨inPhase.sending, inPhase.cellData, inPhase.netInfo, inPhase.sem, ?_,
    ?_, ?_, ⟨isRequest, counted⟩, ?_, others.1, others.2.1, others.2.2,
    nodup (ncellmeasStop_nodup inPhase.items), inPhase.searches, inPhase.known⟩,
    rfl, rfl⟩
  · intro item isItem
    have old : item ∉ world.queue := by
      rw [inPhase.queued item isItem]
      rintro ⟨⟩
    have stopped : item ∉ (ncellmeasStop world).queue :=
      (mem_ncellmeasStop isItem).not.mpr old
    refine (member item).trans ⟨fun isMember => ?_, fun same => ?_⟩
    · rw [isMember.resolve_left stopped]
      rfl
    · exact .inr (Option.some.inj same).symm
  · intro _
    refine ⟨calm.idle, calm.paused, calm.noTimeout, calm.noState, ?_, ?_⟩
    · intro isMember
      exact ((member _).mp isMember).elim calm.noTimeoutWork (by rintro ⟨⟩)
    · intro isMember
      exact ((member _).mp isMember).elim calm.noStateWork (by rintro ⟨⟩)
  · intro _ _ impossible
    cases impossible
  · rintro _ _ _ ⟨⟩
    exact ⟨born, lives.completed log⟩

variable {request : Nat}

theorem ncellmeasComplete_agnss {run : RunId}
    (inPhase : InPhase world (.measuring (.agnss request) run)) :
    InPhase (ncellmeasComplete world) (.answered request run) ∧
      (ncellmeasComplete world).running = world.running ∧
      (ncellmeasComplete world).searches = world.searches := by
  have measuring := inPhase.measuring _ run rfl
  have flag : world.vars.ncellmeasSendLocReqFlag = false := measuring.flag
  obtain ⟨callback, _, _⟩ := measuring.callback rfl
  obtain ⟨born, lives⟩ := inPhase.lives run _ .measuring rfl
  have form : ncellmeasComplete world = agnssNcellmeasDone (some run)
        ((ncellmeasFinish (some run) (ncellmeasStop world)).setVars
          fun vars => { vars with
            nrfcloudCellData := none
            nrfcloudSendingLocReq := false }) := by
    have notFlag : ¬(ncellmeasFinish (some run)
        (ncellmeasStop world)).vars.ncellmeasSendLocReqFlag = true := by
      change ¬world.vars.ncellmeasSendLocReqFlag = true
      rw [flag]
      decide
    rw [ncellmeasComplete, inPhase.cellData]
    refine (if_neg notFlag).trans ?_
    dsimp only
    split
    · rfl
    · rename_i noCallback
      cases callback.symm.trans noCallback
  have log : (ncellmeasComplete world).log = world.log ++ [.completed run .agnss] := by
    rw [form]
    change world.log ++ [Entry.completed run
      (if world.vars.ncellmeasSendLocReqFlag then _ else _)] = _
    rw [flag]
    rfl
  have calm := ncellmeasStop_calm world
  have others := inPhase.others_recorded rfl rfl log (by rw [form]; rfl)
  rw [form] at others log ⊢
  refine ⟨⟨rfl, rfl, rfl, rfl, ?_, fun _ => ⟨calm.idle, calm.paused,
    calm.noTimeout, calm.noState, calm.noTimeoutWork, calm.noStateWork⟩, ?_,
    trivial, ?_, others.1, others.2.1, others.2.2,
    ncellmeasStop_nodup inPhase.items, inPhase.searches, inPhase.known⟩,
    rfl, rfl⟩
  · intro item isItem
    exact (mem_ncellmeasStop isItem).trans (inPhase.queued item isItem)
  · intro _ _ impossible
    cases impossible
  · rintro _ _ _ ⟨⟩
    exact ⟨born, lives.completed log⟩

/-! ## The start of a measurement -/

structure Rest (world : World) : Prop where
  calm : Calm world
  netInfo : world.vars.agnssNetInfo = none
  sem : world.agnssSem = false
  settled : ∀ run, Settled world run
  unborn : ∀ run, world.runs ≤ run → runLog run world.log = []
  noNull : Entry.nullCells ∉ world.log
  items : world.queue.Nodup
  searches : world.searches.Nodup
  known : ∀ search ∈ world.searches, search.run < world.runs

theorem InPhase.rest (inPhase : InPhase world phase)
    (noLife : phase.life = none) (calm : phase.measures = false)
    (netInfo : phase.netInfo = none) (sem : phase.sem = false) :
    Rest world where
  calm := inPhase.calm calm
  netInfo := inPhase.netInfo.trans netInfo
  sem := inPhase.sem.trans sem
  settled run := inPhase.settled run (by rw [noLife]; rintro ⟨⟩)
  unborn := inPhase.unborn
  noNull := inPhase.noNull
  items := inPhase.items
  searches := inPhase.searches
  known := inPhase.known

theorem Rest.inPhase (rest : Rest world) (noLife : phase.life = none)
    (calm : phase.measures = false) (netInfo : phase.netInfo = none)
    (sem : phase.sem = false)
    (sending : world.vars.nrfcloudSendingLocReq = phase.sending)
    (cellData : world.vars.nrfcloudCellData = phase.cellData)
    (queued : ∀ item, item = .ncellmeasWork ∨ item = .locReqWork →
      (item ∈ world.queue ↔ phase.item = some item))
    (located : phase.Located world) : InPhase world phase where
  sending := sending
  cellData := cellData
  netInfo := rest.netInfo.trans netInfo.symm
  sem := rest.sem.trans sem.symm
  queued := queued
  calm _ := rest.calm
  measuring client run isPhase := by
    subst isPhase
    cases calm
  located := located
  lives run client life isLife := by
    cases noLife.symm.trans isLife
  settled run _ := rest.settled run
  unborn := rest.unborn
  noNull := rest.noNull
  items := rest.items
  searches := rest.searches
  known := rest.known

theorem Rest.mono (rest : Rest world)
    (state : after.vars.ncellmeasSmState = world.vars.ncellmeasSmState)
    (netInfo : after.vars.agnssNetInfo = world.vars.agnssNetInfo)
    (paused : after.monitorActive = world.monitorActive)
    (timeout : after.timeoutScheduled = world.timeoutScheduled)
    (scheduled : after.stateScheduled = world.stateScheduled)
    (sem : after.agnssSem = world.agnssSem)
    (queue : ∀ item, item = .timeoutBackupWork ∨ item = .stateHandleWork →
      item ∈ after.queue → item ∈ world.queue)
    (items : after.queue.Nodup) (log : after.log = world.log)
    (runs : after.runs = world.runs)
    (searches : after.searches = world.searches) : Rest after where
  calm := ⟨state.trans rest.calm.idle, paused.trans rest.calm.paused,
    timeout.trans rest.calm.noTimeout, scheduled.trans rest.calm.noState,
    fun member => rest.calm.noTimeoutWork (queue _ (.inl rfl) member),
    fun member => rest.calm.noStateWork (queue _ (.inr rfl) member)⟩
  netInfo := netInfo.trans rest.netInfo
  sem := sem.trans rest.sem
  settled run := (rest.settled run).of_log log
  unborn := by
    rw [runs, log]
    exact rest.unborn
  noNull := by
    rw [log]
    exact rest.noNull
  items := items
  searches := searches ▸ rest.searches
  known := by
    rw [searches, runs]
    exact rest.known

theorem Rest.submit {item : WorkItem} (rest : Rest world) (phase : Phase)
    (notQueued : ∀ item, item = .ncellmeasWork ∨ item = .locReqWork → item ∉ world.queue)
    (isItem : item = .ncellmeasWork ∨ item = .locReqWork)
    (phaseItem : phase.item = some item)
    (noLife : phase.life = none) (calm : phase.measures = false)
    (netInfo : phase.netInfo = none) (sem : phase.sem = false)
    (sending : world.vars.nrfcloudSendingLocReq = phase.sending)
    (cellData : world.vars.nrfcloudCellData = phase.cellData)
    (located : ∀ queue, phase.Located { world with queue := queue }) :
    InPhase (world.submit item) phase ∧ (world.submit item).running = world.running := by
  obtain ⟨queue, form, member, nodup⟩ := submit_spec item world
  rw [form]
  refine ⟨Rest.inPhase ?_ noLife calm netInfo sem sending cellData ?_ (located queue), rfl⟩
  · refine rest.mono rfl rfl rfl rfl rfl rfl ?_ (nodup rest.items) rfl rfl rfl
    intro other isOther isMember
    refine ((member other).mp isMember).resolve_right ?_
    rcases isItem with rfl | rfl <;> rcases isOther with rfl | rfl <;>
      rintro ⟨⟩
  · intro other isOther
    rw [phaseItem]
    exact (member other).trans ⟨fun isMember => congrArg some
        (isMember.resolve_left (notQueued other isOther)).symm,
        fun same => .inr (Option.some.inj same).symm⟩

theorem beginVars_doneCb_agnss (cellCount : Nat)
    (isAgnss : client.kind = .agnss) (run : RunId) (vars : Vars) :
    (beginVars cellCount client run vars).ncellmeasDoneCb = some .agnssNcellmeasDone := by
  simp only [beginVars, isAgnss]

theorem beginVars_doneCb_location (cellCount : Nat)
    (isLocation : client.kind = .location) (run : RunId) (vars : Vars) :
    (beginVars cellCount client run vars).ncellmeasDoneCb = none := by
  simp only [beginVars, isLocation]

theorem ncellmeasBegin_inPhase {cellCount : Nat} {client : Client} (rest : Rest world)
    (notQueued : ∀ item, item = .ncellmeasWork ∨ item = .locReqWork → item ∉ world.queue)
    (single : client.kind = .agnss → cellCount = 1)
    (location : client.kind = .location →
      client = .location world.locRequests ∧ world.vars.nrfcloudCellCount ≠ 0) :
    InPhase (ncellmeasBegin cellCount client world) (.measuring client world.runs) ∧
      (ncellmeasBegin cellCount client world).running =
        .firstSent client ⟨world.runs, 1⟩ :: world.running := by
  obtain ⟨scheduled, form, pending⟩ := scheduleTimeout_spec { world with
    runs := world.runs + 1
    cells := update world.cells world.runs startCells
    vars := beginVars cellCount client world.runs world.vars }
  have fresh : ∀ search ∈ world.searches, search.run ≠ world.runs := by
    intro search member same
    exact absurd (same ▸ rest.known search member) (Nat.lt_irrefl _)
  have own : ∀ search ∈ world.searches ++ [Search.mk world.runs 1],
      search.run = world.runs → search = ⟨world.runs, 1⟩ := by
    intro search member same
    rcases mem_append.mp member with old | new
    · exact absurd same (fresh search old)
    · exact mem_singleton.mp new
  unfold ncellmeasBegin
  dsimp only
  rw [form]
  refine ⟨⟨rfl, rfl, rest.netInfo, rest.sem, ?_, by rintro ⟨⟩, ?_, trivial, ?_,
    ?_, ?_, ?_, rest.items, ?_, ?_⟩, rfl⟩
  · intro item isItem
    exact ⟨fun member => absurd member (notQueued item isItem), by rintro ⟨⟩⟩
  · rintro _ _ ⟨⟩
    refine ⟨by rintro ⟨⟩, rfl, pending, rfl, ?_, ?_, ?_, ?_, ?_, ?_, fun _ => rest.calm.noStateWork⟩
    · intro isAgnss
      refine ⟨?_, ?_, rfl⟩
      · exact beginVars_doneCb_agnss cellCount isAgnss world.runs world.vars
      · change cellCount % 256 ≤ 1
        exact Nat.le_trans (Nat.mod_le _ _) (Nat.le_of_eq (single isAgnss))
    · intro isLocation
      refine ⟨(location isLocation).1, ?_, (location isLocation).2⟩
      exact beginVars_doneCb_location cellCount isLocation world.runs world.vars
    · intro search member same
      rw [own search member same]
      refine ⟨rfl, ?_⟩
      rintro (isScheduled | isQueued)
      · exact absurd (rest.calm.noState.symm.trans isScheduled) (by decide)
      · exact rest.calm.noStateWork isQueued
    · rintro type isType
      exact Option.some.inj isType
    · intro _ _ _ _
      change (update world.cells world.runs startCells world.runs).neighborCells = none
      rw [update_self]
      rfl
    · intro _
      change (update world.cells world.runs startCells world.runs).gciCells = none
      rw [update_self]
      rfl
  · rintro _ _ _ ⟨⟩
    exact ⟨Nat.lt_succ_self _, Lives.started (rest.unborn world.runs (Nat.le_refl _)) rfl⟩
  · intro other different
    have foreign : (Entry.started world.runs client).run ≠ some other :=
      different
    exact ((rest.settled other).record foreign).of_log rfl
  · intro other late
    have foreign : (Entry.started world.runs client).run ≠ some other := by
      intro same
      cases same
      exact absurd late (Nat.not_succ_le_self _)
    exact (runLog_concat_of_ne foreign).trans (rest.unborn other (Nat.le_of_succ_le late))
  · intro member
    rcases mem_append.mp member with old | new
    · exact rest.noNull old
    · cases mem_singleton.mp new
  · refine rest.searches.append (nodup_singleton _) ?_
    intro search old new
    exact fresh search old (by rw [mem_singleton.mp new])
  · intro search member
    rcases mem_append.mp member with old | new
    · exact Nat.lt_succ_of_lt (rest.known search old)
    · rw [mem_singleton.mp new]
      exact Nat.lt_succ_self _

/-! ## The next search -/

/-- `sm_work_q` has taken an item. -/
def World.pop (rest : List WorkItem) (world : World) : World :=
  { world with queue := rest }

theorem mem_pop {item other : WorkItem} {rest : List WorkItem}
    (queue : world.queue = item :: rest) (different : other ≠ item) :
    other ∈ rest ↔ other ∈ world.queue := by
  rw [queue, mem_cons]
  exact ⟨Or.inr, fun member => member.resolve_left different⟩

theorem notMem_pop {item : WorkItem} {rest : List WorkItem}
    (queue : world.queue = item :: rest) (items : world.queue.Nodup) :
    item ∉ rest :=
  (nodup_cons.mp (queue ▸ items)).1

theorem ncellmeasComplete_pop {item : WorkItem} {rest : List WorkItem}
    (queue : world.queue = item :: rest)
    (delayable : item = .timeoutBackupWork ∨ item = .stateHandleWork) :
    ncellmeasComplete (world.pop rest) = ncellmeasComplete world := by
  have stopped : ncellmeasStop (world.pop rest) = ncellmeasStop world := by
    unfold ncellmeasStop World.cancelDelayables World.pop
    rw [queue]
    rcases delayable with rfl | rfl <;> rfl
  unfold ncellmeasComplete
  rw [stopped]
  rfl

theorem Measuring.next {client : Client} {run : RunId} (measuring : Measuring world client run)
    (isLocation : client.kind = .location)
    {state : NcellmeasState} {type gciCount polls : Nat}
    (vars : after.vars = { world.vars with
      ncellmeasSearchType := type
      ncellmeasGciCount := gciCount
      ncellmeasSmState := state
      ncellmeasRrcPolls := polls })
    (notIdle : state ≠ .idle) (notFirst : state ≠ .firstWait)
    (typed : ∀ other, state.searchType = some other → type = other)
    (noGciCells : state = .rrcIdleWait → (after.cells run).gciCells = none)
    (listens : after.monitorActive = world.monitorActive)
    (bounded : TimeoutPending after)
    (requests : after.locRequests = world.locRequests)
    (once : after.stateScheduled = true → WorkItem.stateHandleWork ∉ after.queue)
    (awaits : ∀ search ∈ after.searches, search.run = run →
      state.searchType = some search.type ∧ ¬StatePending after) :
    Measuring after client run := by
  refine ⟨?_, listens.trans measuring.listens, bounded, ?_, ?_, ?_, ?_, ?_, ?_, ?_, once⟩
  · rw [vars]
    exact notIdle
  · rw [vars]
    exact measuring.flag
  · intro isAgnss
    cases isLocation.symm.trans isAgnss
  · rw [vars, requests]
    exact measuring.location
  · rw [vars]
    exact awaits
  · rw [vars]
    exact typed
  · intro search member own isFirst
    have same := (awaits search member own).1
    rw [isFirst] at same
    cases state with
    | firstWait => exact absurd rfl notFirst
    | idle | rrcIdleWait | secondWait | thirdWait => cases same
  · rw [vars]
    rintro (first | rrc)
    · exact absurd first notFirst
    · exact noGciCells rrc

theorem InPhase.remeasure {run : RunId} (inPhase : InPhase world (.measuring client run))
    (measuring : Measuring after client run) {state : NcellmeasState}
    {type gciCount polls : Nat}
    (vars : after.vars = { world.vars with
      ncellmeasSearchType := type
      ncellmeasGciCount := gciCount
      ncellmeasSmState := state
      ncellmeasRrcPolls := polls }) (sem : after.agnssSem = world.agnssSem)
    (queue : ∀ item, item = .ncellmeasWork ∨ item = .locReqWork →
      (item ∈ after.queue ↔ item ∈ world.queue)) (items : after.queue.Nodup)
    (log : after.log = world.log) (runs : after.runs = world.runs)
    (searches : after.searches.Nodup)
    (known : ∀ search ∈ after.searches, search.run < after.runs) :
    InPhase after (.measuring client run) := by
  refine ⟨?_, ?_, ?_, sem.trans inPhase.sem, ?_, by rintro ⟨⟩, ?_, trivial, ?_,
    fun other different => (inPhase.settled other different).of_log log, ?_, ?_,
    items, searches, known⟩
  · rw [vars]
    exact inPhase.sending
  · rw [vars]
    exact inPhase.cellData
  · rw [vars]
    exact inPhase.netInfo
  · intro item isItem
    exact (queue item isItem).trans (inPhase.queued item isItem)
  · rintro _ _ ⟨⟩
    exact measuring
  · intro other owner life isLife
    obtain ⟨born, lives⟩ := inPhase.lives other owner life isLife
    exact ⟨runs ▸ born, lives.of_log log⟩
  · rw [runs, log]
    exact inPhase.unborn
  · rw [log]
    exact inPhase.noNull

theorem Measuring.noSearches {run : RunId}
    (measuring : Measuring world client run) (pending : StatePending world) :
    ∀ search ∈ world.searches, search.run ≠ run :=
  fun search member own => (measuring.awaits search member own).2 pending

variable {searches : List Search} {added search : Search}

theorem eq_of_mem_added (none : ∀ search ∈ searches, search.run ≠ added.run)
    (member : search ∈ searches ++ [added]) (own : search.run = added.run) :
    search = added := by
  rcases mem_append.mp member with old | new
  · exact absurd own (none search old)
  · exact mem_singleton.mp new

theorem nodup_added (none : ∀ search ∈ searches, search.run ≠ added.run)
    (nodup : searches.Nodup) : (searches ++ [added]).Nodup := by
  refine nodup.append (nodup_singleton _) ?_
  intro search old new
  exact none search old (by rw [mem_singleton.mp new])

theorem known_added {runs : Nat} (known : ∀ search ∈ searches, search.run < runs)
    (addedKnown : added.run < runs) :
    ∀ search ∈ searches ++ [added], search.run < runs := by
  intro search member
  rcases mem_append.mp member with old | new
  · exact known search old
  · rw [mem_singleton.mp new]
    exact addedKnown

/-- `ncellmeas_complete` ends a measurement of `AT#XNRFCLOUDPOS` while
`sm_work_q` has nothing else to do. -/
theorem Orderly.of_location {run : RunId} (inPhase : InPhase world (.measuring client run))
    (isLocation : client.kind = .location) (free : Free world.running) :
    Orderly (ncellmeasComplete world) := by
  obtain ⟨measured, running, _⟩ :=
    ncellmeasComplete_location inPhase isLocation
  exact ⟨_, measured, .inl (running ▸ free)⟩

theorem InPhase.scheduleState {run : RunId} (now : Bool)
    (inPhase : InPhase world (.measuring client run))
    (none : ∀ search ∈ world.searches, search.run ≠ run) :
    InPhase (world.scheduleState now) (.measuring client run) ∧
      (world.scheduleState now).running = world.running := by
  obtain ⟨queue, scheduled, form, member, nodup, once⟩ :=
    scheduleState_spec now world
  have measuring := inPhase.measuring client run rfl
  rw [form]
  refine ⟨?_, rfl⟩
  refine inPhase.remeasure ?_ rfl rfl ?_ (nodup inPhase.items) rfl rfl
    inPhase.searches inPhase.known
  · exact {
      notIdle := measuring.notIdle
      listens := measuring.listens
      bounded := measuring.bounded.imp id fun queued => (member _ (by decide)).mpr queued
      flag := measuring.flag
      callback := measuring.callback
      location := measuring.location
      awaits := fun search isMember own =>
        absurd own (none search isMember)
      searchType := measuring.searchType
      noNeighbors := measuring.noNeighbors
      noGciCells := measuring.noGciCells
      once := once measuring.once }
  · intro item isItem
    exact member item (by rcases isItem with rfl | rfl <;> decide)

/-- `ncellmeas_state_handle_work_fn` of a measurement. -/
theorem stateHandleWorkFn_orderly {run : RunId} {rest : List WorkItem}
    (inPhase : InPhase world (.measuring client run))
    (isLocation : client.kind = .location) (idle : world.running = [])
    (queue : world.queue = .stateHandleWork :: rest) :
    Orderly (stateHandleWorkFn (world.pop rest)) := by
  have measuring := inPhase.measuring client run rfl
  have pending : StatePending world :=
    .inr (queue ▸ mem_cons_self ..)
  have none := measuring.noSearches pending
  have born := (inPhase.lives run client .measuring rfl).1
  have others : ∀ item, item ≠ .stateHandleWork → (item ∈ rest ↔ item ∈ world.queue) :=
    fun item different => mem_pop queue different
  have items : rest.Nodup := (nodup_cons.mp (queue ▸ inPhase.items)).2
  have taken : WorkItem.stateHandleWork ∉ rest := notMem_pop queue inPhase.items
  have unscheduled : world.stateScheduled = false := by
    apply Bool.eq_false_iff.mpr
    intro scheduled
    exact measuring.once scheduled (queue ▸ mem_cons_self ..)
  have notPending : ¬StatePending (world.pop rest) := by
    rintro (scheduled | queued)
    · exact absurd (unscheduled.symm.trans scheduled) (by decide)
    · exact taken queued
  have bounded : TimeoutPending (world.pop rest) :=
    measuring.bounded.imp id fun queued => (others _ (by decide)).mpr queued
  have completes : Orderly (ncellmeasComplete (world.pop rest)) := by
    rw [ncellmeasComplete_pop queue (.inr rfl)]
    exact .of_location inPhase isLocation (.inl idle)
  have isItems : ∀ item, item = .ncellmeasWork ∨ item = .locReqWork →
      (item ∈ rest ↔ item ∈ world.queue) := by
    intro item isItem
    exact others item (by rcases isItem with rfl | rfl <;> decide)
  unfold stateHandleWorkFn
  cases state : world.vars.ncellmeasSmState with
  | idle => exact absurd state measuring.notIdle
  | firstWait =>
    rw [show (world.pop rest).vars.ncellmeasSmState = .firstWait from state]
    dsimp only
    split
    · exact completes
    · have polling : Measuring ((world.pop rest).setVars fun vars =>
          { vars with
            ncellmeasRrcPolls := 0
            ncellmeasSmState := .rrcIdleWait }) client run :=
        measuring.next isLocation rfl (by rintro ⟨⟩) (by rintro ⟨⟩)
          (by rintro _ ⟨⟩) (fun _ => measuring.noGciCells (.inl state)) rfl
          bounded rfl (fun _ => taken)
          fun search member own => absurd own (none search member)
      have inPoll := inPhase.remeasure polling rfl rfl isItems items rfl rfl
        inPhase.searches inPhase.known
      obtain ⟨later, running⟩ := inPoll.scheduleState true none
      exact ⟨_, later, .inl ⟨isLocation, .inl (running.trans idle)⟩⟩
  | rrcIdleWait =>
    rw [show (world.pop rest).vars.ncellmeasSmState = .rrcIdleWait from state]
    dsimp only
    have reading : Measuring ((world.pop rest).push [.csconRead]) client
        run :=
      measuring.next isLocation rfl (by rw [state]; rintro ⟨⟩)
        (by rw [state]; rintro ⟨⟩) measuring.searchType
        (fun isRrc => measuring.noGciCells (.inr isRrc)) rfl bounded rfl
        (fun _ => taken)
        fun search member own => absurd own (none search member)
    refine ⟨_, inPhase.remeasure reading rfl rfl isItems items rfl rfl
      inPhase.searches inPhase.known, ?_⟩
    refine .inr (.inr (.inr (.inl ⟨isLocation, ?_, state, notPending⟩)))
    exact congrArg (WorkOp.csconRead :: ·) idle
  | secondWait =>
    rw [show (world.pop rest).vars.ncellmeasSmState = .secondWait from state]
    dsimp only
    split
    · rename_i noData
      cases noData.symm.trans inPhase.cellData
    · rename_i found isFound
      cases isFound.symm.trans inPhase.cellData
      split
      · exact completes
      · refine ⟨.measuring client run, inPhase.remeasure
          (measuring.next isLocation rfl ?_ ?_ ?_ ?_ rfl bounded rfl
            (fun _ => taken) ?_) rfl rfl isItems items rfl rfl
          (nodup_added none inPhase.searches)
          (known_added inPhase.known born), ?_⟩
        · rintro ⟨⟩
        · rintro ⟨⟩
        · exact fun _ => Option.some.inj
        · rintro ⟨⟩
        · intro search member own
          rw [eq_of_mem_added none member own]
          exact ⟨rfl, notPending⟩
        · refine .inr (.inr (.inr (.inr ⟨isLocation, 4, ?_⟩)))
          exact congrArg (WorkOp.gciSent ⟨run, 4⟩ :: ·) idle
  | thirdWait =>
    rw [show (world.pop rest).vars.ncellmeasSmState = .thirdWait from state]
    exact completes

/-- `ncellmeas_state_handle_work_fn` after `AT+CSCON?`. -/
theorem csconRead_orderly {run : RunId} (outcome : Outcome)
    (inPhase : InPhase world (.measuring client run))
    (isLocation : client.kind = .location) (idle : world.running = [])
    (state : world.vars.ncellmeasSmState = .rrcIdleWait)
    (notPending : ¬StatePending world) : Orderly (csconRead outcome world) := by
  have measuring := inPhase.measuring client run rfl
  have born := (inPhase.lives run client .measuring rfl).1
  have none : ∀ search ∈ world.searches, search.run ≠ run := by
    intro search member own
    have awaited := (measuring.awaits search member own).1
    rw [state] at awaited
    cases awaited
  have unqueued : WorkItem.stateHandleWork ∉ world.queue :=
    fun queued => notPending (.inr queued)
  unfold csconRead
  split
  · have polling : Measuring (world.setVars fun vars =>
        { vars with ncellmeasRrcPolls := vars.ncellmeasRrcPolls + 1 })
        client run :=
      measuring.next isLocation rfl (by rw [state]; rintro ⟨⟩)
        (by rw [state]; rintro ⟨⟩) measuring.searchType
        (fun isRrc => measuring.noGciCells (.inr isRrc)) rfl
        measuring.bounded rfl (fun _ => unqueued)
        fun search member own => absurd own (none search member)
    have inPoll := inPhase.remeasure polling rfl rfl (fun _ _ => Iff.rfl)
      inPhase.items rfl rfl inPhase.searches inPhase.known
    obtain ⟨later, running⟩ := inPoll.scheduleState false none
    exact ⟨_, later, .inl ⟨isLocation, .inl (running.trans idle)⟩⟩
  · split
    · exact .of_location inPhase isLocation (.inl idle)
    · split
      · rename_i noData
        cases noData.symm.trans inPhase.cellData
      · rename_i found isFound
        cases isFound.symm.trans inPhase.cellData
        have noArray : (world.cells run).gciCells.isSome = false := by
          rw [measuring.noGciCells (.inr state)]
          rfl
        rw [if_neg (by rw [noArray]; decide)]
        refine ⟨.measuring client run, inPhase.remeasure
          (measuring.next isLocation rfl ?_ ?_ ?_ ?_ rfl measuring.bounded rfl
            (fun _ => unqueued) ?_) rfl rfl (fun _ _ => Iff.rfl) inPhase.items
          rfl rfl (nodup_added none inPhase.searches)
          (known_added inPhase.known born), ?_⟩
        · rintro ⟨⟩
        · rintro ⟨⟩
        · exact fun _ => Option.some.inj
        · rintro ⟨⟩
        · intro search member own
          rw [eq_of_mem_added none member own]
          exact ⟨rfl, notPending⟩
        · refine .inr (.inr (.inr (.inr ⟨isLocation, 3, ?_⟩)))
          exact congrArg (WorkOp.gciSent ⟨run, 3⟩ :: ·) idle

/-! ## Notifications -/

theorem ncellmeasComplete_orderly {run : RunId} (inPhase : InPhase world (.measuring client run))
    (runs : (Phase.measuring client run).Runs world)
    (none : ∀ search ∈ world.searches, search.run ≠ run)
    (notRrc : world.vars.ncellmeasSmState ≠ .rrcIdleWait) :
    Orderly (ncellmeasComplete world) := by
  have gone : ∀ type, Search.mk run type ∉ world.searches :=
    fun type member => none _ member rfl
  cases client with
  | location request =>
    obtain ⟨measured, running, searches⟩ :=
      ncellmeasComplete_location inPhase rfl
    refine ⟨_, measured, ?_⟩
    unfold Phase.Runs
    rw [running, searches]
    rcases runs with ⟨_, free⟩ | first | ⟨_, isAgnss, _⟩ | ⟨_, _, isRrc, _⟩ | ⟨_, type, sent⟩
    · exact .inl free
    · exact .inr (.inl ⟨first, gone 1⟩)
    · cases isAgnss
    · exact absurd isRrc notRrc
    · exact .inr (.inr ⟨type, sent, gone type⟩)
  | agnss request =>
    obtain ⟨answered, running, searches⟩ := ncellmeasComplete_agnss inPhase
    refine ⟨_, answered, ?_⟩
    unfold Phase.Runs
    rw [running, searches]
    rcases runs with ⟨isLocation, _⟩ | first | ⟨other, isAgnss, waiting⟩ |
      ⟨isLocation, _⟩ | ⟨isLocation, _⟩
    · cases isLocation
    · exact .inr ⟨first, gone 1⟩
    · cases isAgnss
      exact .inl waiting
    · cases isLocation
    · cases isLocation

theorem storeParsed_inPhase {run : RunId} {cells : LteLcCellsInfo}
    (inPhase : InPhase world (.measuring client run))
    (none : ∀ search ∈ world.searches, search.run ≠ run)
    (gciCells : world.vars.ncellmeasSmState = .firstWait ∨
      world.vars.ncellmeasSmState = .rrcIdleWait → cells.gciCells = Option.none) :
    InPhase (storeParsed run run cells false world) (.measuring client run) ∧
      (storeParsed run run cells false world).running = world.running ∧
      (storeParsed run run cells false world).vars = world.vars ∧
      (storeParsed run run cells false world).searches = world.searches := by
  have measuring := inPhase.measuring client run rfl
  obtain ⟨born, lives⟩ := inPhase.lives run client .measuring rfl
  unfold storeParsed
  refine ⟨?_, rfl, rfl, rfl⟩
  have others := @InPhase.others_recorded world { world.record (.parsed run run) with
      cells := update world.cells run cells } _ _ _ _ _
    inPhase rfl rfl rfl rfl
  refine ⟨inPhase.sending, inPhase.cellData, inPhase.netInfo, inPhase.sem,
    inPhase.queued, by rintro ⟨⟩, ?_, trivial, ?_, others.1, others.2.1,
    others.2.2, inPhase.items, inPhase.searches, inPhase.known⟩
  · rintro _ _ ⟨⟩
    exact {
      notIdle := measuring.notIdle
      listens := measuring.listens
      bounded := measuring.bounded
      flag := measuring.flag
      callback := measuring.callback
      location := measuring.location
      awaits := measuring.awaits
      searchType := measuring.searchType
      noNeighbors := fun search member own =>
        absurd own (none search member)
      noGciCells := fun early => by
        change (update world.cells run cells run).gciCells = _
        rw [update_self]
        exact gciCells early
      once := measuring.once }
  · rintro _ _ _ ⟨⟩
    exact ⟨born, lives.parsed rfl⟩

theorem Measuring.parse {run : RunId} (measuring : Measuring world client run)
    (member : search ∈ world.searches) (own : search.run = run) (setting : Setting)
    (tmpStr : Text) :
    leaksNeighbors setting world.vars (world.cells run) = false ∧
      (world.vars.ncellmeasSmState = .firstWait ∨ world.vars.ncellmeasSmState = .rrcIdleWait →
          (parseNotification setting tmpStr world.vars.ncellmeasSearchType
            (UInt8.ofNat world.vars.ncellmeasGciCount) (world.cells run)).2.1.gciCells = none) ∧
      world.vars.ncellmeasSmState ≠ .rrcIdleWait := by
  have awaited := (measuring.awaits search member own).1
  have type := measuring.searchType search.type awaited
  unfold leaksNeighbors parseNotification
  cases state : world.vars.ncellmeasSmState with
  | idle => exact absurd state measuring.notIdle
  | rrcIdleWait =>
    rw [state] at awaited
    cases awaited
  | firstWait =>
    rw [state] at awaited
    have isFirst : search.type = 1 := (Option.some.inj awaited).symm
    rw [measuring.noNeighbors search member own isFirst, if_neg (by omega)]
    refine ⟨rfl, fun _ => ?_, by rintro ⟨⟩⟩
    exact (parseNcellmeas_gciCells _ _).1.trans (measuring.noGciCells (.inl state))
  | secondWait | thirdWait =>
    rw [state] at awaited
    have later := Option.some.inj awaited
    rw [decide_eq_false (by omega), Bool.and_false]
    exact ⟨rfl, fun early => early.elim (by rintro ⟨⟩) (by rintro ⟨⟩), by rintro ⟨⟩⟩

theorem Measuring.answered {run : RunId}
    (measuring : Measuring world client run) (nodup : world.searches.Nodup)
    (member : search ∈ world.searches) (own : search.run = run) :
    ∀ other ∈ world.searches.erase search, other.run ≠ run := by
  intro other isOther same
  have still := mem_of_mem_erase isOther
  have type := (measuring.awaits search member own).1
  rw [(measuring.awaits other still same).1] at type
  have equal : other = search := by
    cases other
    cases search
    cases Option.some.inj type
    cases same
    cases own
    rfl
  rw [equal] at isOther
  exact nodup.not_mem_erase isOther

/-- `sm_work_q` goes on where it was, unless it waits for `AT+CSCON?`. -/
theorem Phase.Runs.of_running {run : RunId} (runs : (Phase.measuring client run).Runs world)
    (notRrc : world.vars.ncellmeasSmState ≠ .rrcIdleWait)
    (running : after.running = world.running) :
    (Phase.measuring client run).Runs after := by
  unfold Phase.Runs at *
  rw [running]
  rcases runs with free | first | waiting | ⟨_, _, isRrc, _⟩ | sent
  · exact .inl free
  · exact .inr (.inl first)
  · exact .inr (.inr (.inl waiting))
  · exact absurd isRrc notRrc
  · exact .inr (.inr (.inr (.inr sent)))

theorem atHandlerNcellmeas_orderly {run : RunId} (setting : Setting) (tmpStr : Text)
    (inPhase : InPhase world (.measuring client run))
    (runs : (Phase.measuring client run).Runs world)
    (member : search ∈ world.searches) (own : search.run = run) :
    Orderly (atHandlerNcellmeas search.run setting tmpStr
      { world with searches := world.searches.erase search }) := by
  have measuring := inPhase.measuring client run rfl
  have none := measuring.answered inPhase.searches member own
  obtain ⟨kept, gciCells, notRrc⟩ := measuring.parse member own setting tmpStr
  have aside : Aside world { world with searches := world.searches.erase search } :=
    ⟨⟨_, rfl⟩, rfl, rfl, rfl, rfl, rfl, rfl, rfl, rfl, fun _ _ => Iff.rfl, id, erase_sublist ..⟩
  have inLater := inPhase.aside aside
  have runsLater := runs.aside aside rfl
  unfold atHandlerNcellmeas
  split
  · rename_i noData
    cases noData.symm.trans inPhase.cellData
  · rename_i found isFound
    cases isFound.symm.trans inPhase.cellData
    rw [own]
    dsimp only
    rw [kept]
    generalize parseNotification setting tmpStr world.vars.ncellmeasSearchType
      (UInt8.ofNat world.vars.ncellmeasGciCount) (world.cells run) = parsed at gciCells ⊢
    obtain ⟨inStored, running, vars, searches⟩ :=
      storeParsed_inPhase inLater none gciCells
    have noneStored : ∀ other ∈ (storeParsed run run parsed.2.1 false
        { world with searches := world.searches.erase search }).searches, other.run ≠ run := by
      rw [searches]
      exact none
    have runsStored : (Phase.measuring client run).Runs (storeParsed run run parsed.2.1 false
        { world with searches := world.searches.erase search }) :=
      runsLater.of_running notRrc running
    have completes := ncellmeasComplete_orderly inStored runsStored noneStored
      (by rw [vars]; exact notRrc)
    split
    · exact completes
    · split
      · exact completes
      · obtain ⟨later, stillRunning⟩ := inStored.scheduleState true noneStored
        refine ⟨_, later, runsStored.of_running ?_ stillRunning⟩
        rw [vars]
        exact notRrc

/-! ## Steps -/

/-- An A-GNSS request measures only while no location request goes on, its
search is accepted and answered within its wait, and each notification that is
parsed answers a search of the measurement under way. -/
def Undisturbed (world : World) : Action → Prop
  | .runItem outcome => world.queue.head? = some .agnssReqWork →
      outcome.bufAllocated = true → outcome.success = true →
        outcome.allocated = true → world.vars.nrfcloudSendingLocReq = false
  | .runOp outcome => ∀ request search,
      world.running.head? = some (.firstSent (.agnss request) search) → outcome.success = true
  | .waitExpires => False
  | .notify search _ _ => world.monitorActive = true → world.vars.nrfcloudCellData = some search.run
  | _ => True

variable {op : WorkOp}

theorem Free.ne {running : List WorkOp} (free : Free running)
    (different : op ≠ .agnssClean none) : running ≠ [op] := by
  rintro rfl
  rcases free with isNil | isClean
  · cases isNil
  · exact different (List.cons.inj isClean).1

/-- The phases in which `sm_work_q` may take an item. -/
theorem Phase.Runs.free_cases (runs : phase.Runs world) (free : Free world.running) :
    phase = .idle ∨ phase = .asked ∨ phase = .unmeasured ∨
      (∃ client run, phase = .measuring client run ∧ client.kind = .location) ∨
      ∃ client run, phase = .measured client run := by
  cases phase with
  | idle => exact .inl rfl
  | asked => exact .inr (.inl rfl)
  | unmeasured => exact .inr (.inr (.inl rfl))
  | measuring client run =>
    refine .inr (.inr (.inr (.inl ⟨client, run, rfl, ?_⟩)))
    rcases runs with ⟨isLocation, _⟩ | first | ⟨_, _, waiting⟩ | ⟨isLocation, _⟩ | ⟨isLocation, _⟩
    · exact isLocation
    · exact absurd first (free.ne (by rintro ⟨⟩))
    · exact absurd waiting (free.ne (by rintro ⟨⟩))
    · exact isLocation
    · exact isLocation
  | measured client run =>
    exact .inr (.inr (.inr (.inr ⟨client, run, rfl⟩)))
  | locating data => exact absurd runs (free.ne (by rintro ⟨⟩))
  | answered request run =>
    rcases runs with waiting | ⟨first, _⟩
    · exact absurd waiting (free.ne (by rintro ⟨⟩))
    · exact absurd first (free.ne (by rintro ⟨⟩))
  | taking request run | cleaning client run => exact absurd runs (free.ne (by rintro ⟨⟩))

theorem Phase.Runs.idle_cases (runs : phase.Runs world) (idle : world.running = []) :
    phase = .idle ∨ phase = .asked ∨ phase = .unmeasured ∨
      (∃ client run, phase = .measuring client run ∧ client.kind = .location) ∨
      ∃ client run, phase = .measured client run :=
  runs.free_cases (.inl idle)

/-- Between two items `sm_work_q` frees nothing. -/
theorem Phase.Runs.free (runs : phase.Runs world) (free : Free world.running)
    (still : Free after.running) :
    phase.Runs after := by
  rcases runs.free_cases free with rfl | rfl | rfl | ⟨_, _, rfl, isLocation⟩ | ⟨_, _, rfl⟩
  · exact still
  · exact still
  · exact still
  · exact .inl ⟨isLocation, still⟩
  · exact .inl still

theorem Phase.Runs.idle_phase (runs : phase.Runs world) (idle : world.running = [])
    (notSending : world.vars.nrfcloudSendingLocReq = false)
    (inPhase : InPhase world phase) : phase = .idle := by
  rcases runs.idle_cases idle with rfl | rfl | rfl | ⟨_, _, rfl, _⟩ | ⟨_, _, rfl⟩
  · rfl
  · cases notSending.symm.trans inPhase.sending
  · cases notSending.symm.trans inPhase.sending
  · cases notSending.symm.trans inPhase.sending
  · cases notSending.symm.trans inPhase.sending

theorem Orderly.aside (orderly : Orderly world) (aside : Aside world after)
    (running : after.running = world.running) : Orderly after := by
  obtain ⟨phase, inPhase, runs⟩ := orderly
  exact ⟨phase, inPhase.aside aside, runs.aside aside running⟩

theorem Aside.submit_agnssReq (world : World) : Aside world (world.submit .agnssReqWork) := by
  obtain ⟨queue, form, member, nodup⟩ := submit_spec .agnssReqWork world
  rw [form]
  refine ⟨⟨_, rfl⟩, rfl, rfl, rfl, rfl, rfl, rfl, rfl, rfl, ?_, nodup, .refl _⟩
  intro item different
  exact (member item).trans ⟨fun isMember => isMember.resolve_right different, Or.inl⟩

theorem Aside.pop_agnssReq {rest : List WorkItem} (queue : world.queue = .agnssReqWork :: rest) :
    Aside world (world.pop rest) := by
  refine ⟨⟨_, rfl⟩, rfl, rfl, rfl, rfl, rfl, rfl, rfl, rfl, ?_, ?_, .refl _⟩
  · intro item different
    exact mem_pop queue different
  · intro items
    exact (nodup_cons.mp (queue ▸ items)).2

/-- `AT#XNRFCLOUDPOS` is accepted. -/
theorem handleAtNrfCloudPos_orderly {params : PosParams}
    (orderly : Orderly world) (idle : world.running = []) :
    Orderly (handleAtNrfCloudPos params world).2 := by
  obtain ⟨phase, inPhase, runs⟩ := orderly
  unfold handleAtNrfCloudPos
  split
  · exact ⟨phase, inPhase, runs⟩
  · rename_i cellCount wifiPos accepted
    have notSending : world.vars.nrfcloudSendingLocReq = false := by
      apply Bool.eq_false_iff.mpr
      intro sending
      unfold checkPos at accepted
      rw [sending] at accepted
      split at accepted
      · cases accepted
      · cases accepted
    have isIdle := runs.idle_phase idle notSending inPhase
    subst isIdle
    have notQueued : ∀ item, item = .ncellmeasWork ∨ item = .locReqWork → item ∉ world.queue := by
      intro item isItem member
      cases (inPhase.queued item isItem).mp member
    have rest : Rest { world.setVars fun vars => { vars with
          nrfcloudCellCount := cellCount
          nrfcloudWifiPos := wifiPos
          nrfcloudSendingLocReq := true } with
        locRequests := world.locRequests + 1 } :=
      (inPhase.rest rfl rfl rfl rfl).mono rfl rfl rfl rfl rfl rfl
        (fun _ _ member => member) inPhase.items rfl rfl
      rfl
    dsimp only
    split
    · rename_i counted
      obtain ⟨asked, running⟩ := rest.submit .asked notQueued
        (.inl rfl) rfl rfl rfl rfl rfl rfl inPhase.cellData
        (fun _ => Nat.one_le_iff_ne_zero.mp counted)
      exact ⟨_, asked, .inl (running.trans idle)⟩
    · obtain ⟨unmeasured, running⟩ := rest.submit .unmeasured
        notQueued (.inr rfl) rfl rfl rfl rfl rfl rfl inPhase.cellData
        (fun _ => trivial)
      exact ⟨_, unmeasured, .inl (running.trans idle)⟩

/-- `sm_at_nrfcloud_ncellmeas_work_fn`. -/
theorem ncellmeasWorkFn_orderly {rest : List WorkItem} (outcome : Outcome)
    (orderly : Orderly world) (idle : world.running = [])
    (queue : world.queue = .ncellmeasWork :: rest) :
    Orderly (ncellmeasWorkFn outcome (world.pop rest)) := by
  obtain ⟨phase, inPhase, runs⟩ := orderly
  have isAsked : phase.item = some .ncellmeasWork :=
    (inPhase.queued _ (.inl rfl)).mp (queue ▸ mem_cons_self ..)
  have asked : phase = .asked := by
    rcases runs.idle_cases idle with rfl | rfl | rfl | ⟨_, _, rfl, _⟩ | ⟨_, _, rfl⟩
    · cases isAsked
    · rfl
    · cases isAsked
    · cases isAsked
    · cases isAsked
  subst asked
  have items : rest.Nodup := (nodup_cons.mp (queue ▸ inPhase.items)).2
  have popped : Rest (world.pop rest) := by
    refine (inPhase.rest rfl rfl rfl rfl).mono rfl rfl rfl rfl rfl rfl ?_ items
      rfl rfl rfl
    intro item _ member
    exact queue ▸ mem_cons_of_mem _ member
  have notQueued : ∀ item, item = .ncellmeasWork ∨ item = .locReqWork →
      item ∉ (world.pop rest).queue := by
    rintro item (rfl | rfl) member
    · exact notMem_pop queue inPhase.items member
    · cases (inPhase.queued .locReqWork (.inr rfl)).mp (queue ▸ mem_cons_of_mem _ member)
  unfold ncellmeasWorkFn
  split
  · obtain ⟨unmeasured, running⟩ := popped.submit .unmeasured notQueued
      (.inr rfl) rfl rfl rfl rfl rfl inPhase.sending inPhase.cellData
      (fun _ => trivial)
    exact ⟨_, unmeasured, .inl (running.trans idle)⟩
  · obtain ⟨measuring, running⟩ := ncellmeasBegin_inPhase popped notQueued
      (by rintro ⟨⟩) fun _ => ⟨rfl, inPhase.located⟩
    refine ⟨_, measuring, .inr (.inl (running.trans ?_))⟩
    exact congrArg (WorkOp.firstSent _ _ :: ·) idle

theorem agnssRequestor_orderly {rest : List WorkItem} (outcome : Outcome)
    (orderly : Orderly world) (idle : world.running = [])
    (queue : world.queue = .agnssReqWork :: rest)
    (alone : outcome.bufAllocated = true → outcome.success = true →
      outcome.allocated = true → world.vars.nrfcloudSendingLocReq = false) :
    Orderly (agnssRequestor outcome (world.pop rest)) := by
  have popped : Orderly (world.pop rest) :=
    orderly.aside (.pop_agnssReq queue) rfl
  have counted : Aside (world.pop rest) { world.pop rest with
      agnssRequests := world.agnssRequests + 1 } :=
    ⟨⟨_, rfl⟩, rfl, rfl, rfl, rfl, rfl, rfl, rfl, rfl, fun _ _ => Iff.rfl, id, .refl _⟩
  have orderlyNow := popped.aside counted rfl
  unfold agnssRequestor
  dsimp only
  split
  · exact orderlyNow
  · rename_i bufAllocated
    split
    · exact orderlyNow
    · rename_i success
      split
      · obtain ⟨phase, inPhase, runs⟩ := orderlyNow
        refine ⟨phase, inPhase.aside ⟨⟨_, rfl⟩, rfl, rfl, rfl, rfl, rfl, rfl,
          rfl, rfl, fun _ _ => Iff.rfl, id, .refl _⟩, ?_⟩
        refine runs.free (.inl idle) (.inr ?_)
        exact congrArg (WorkOp.agnssClean none :: ·) idle
      · rename_i allocated
        have notSending := alone (by simpa using bufAllocated)
          (by simpa using success) (by simpa using allocated)
        obtain ⟨phase, inPhase, runs⟩ := orderlyNow
        have isIdle := runs.idle_phase idle notSending inPhase
        subst isIdle
        have notQueued : ∀ item, item = .ncellmeasWork ∨ item = .locReqWork →
            item ∉ (world.pop rest).queue := by
          intro item isItem member
          cases (inPhase.queued item isItem).mp member
        obtain ⟨measuring, running⟩ := @ncellmeasBegin_inPhase _ 1
          (.agnss world.agnssRequests) (inPhase.rest rfl rfl rfl rfl) notQueued
          (fun _ => rfl) (by rintro ⟨⟩)
        refine ⟨_, measuring, .inr (.inl (running.trans ?_))⟩
        exact congrArg (WorkOp.firstSent _ _ :: ·) idle

/-- `nrfcloud_loc_req_work_fn`, up to where the cloud answers. -/
theorem locReqWorkFn_orderly {rest : List WorkItem} (orderly : Orderly world)
    (idle : world.running = []) (queue : world.queue = .locReqWork :: rest) :
    Orderly (locReqWorkFn (world.pop rest)) := by
  obtain ⟨phase, inPhase, runs⟩ := orderly
  have isQueued : phase.item = some .locReqWork :=
    (inPhase.queued _ (.inr rfl)).mp (queue ▸ mem_cons_self ..)
  have items : rest.Nodup := (nodup_cons.mp (queue ▸ inPhase.items)).2
  have old : ∀ item, item ∈ rest → item ∈ world.queue :=
    fun item member => queue ▸ mem_cons_of_mem _ member
  have notQueued : ∀ item, item = .ncellmeasWork ∨ item = .locReqWork → item ∉ rest := by
    rintro item (rfl | rfl) member
    · cases isQueued.symm.trans ((inPhase.queued .ncellmeasWork (.inl rfl)).mp (old _ member))
    · exact notMem_pop queue inPhase.items member
  have nothing : ∀ data item, item = .ncellmeasWork ∨ item = .locReqWork →
      (item ∈ rest ↔ (Phase.locating data).item = some item) :=
    fun _ item isItem => ⟨fun member => absurd member (notQueued item isItem), by rintro ⟨⟩⟩
  have clean : ∀ {running : List WorkOp}, running = [] →
      WorkOp.locReqClean :: running = [.locReqClean] := by
    rintro _ rfl
    rfl
  unfold locReqWorkFn
  rcases runs.idle_cases idle with rfl | rfl | rfl | ⟨_, _, rfl, _⟩ | ⟨client, run, rfl⟩
  · cases isQueued
  · cases isQueued
  · have noData : (world.pop rest).vars.nrfcloudCellData = none :=
      inPhase.cellData
    have popped : Rest (world.pop rest) :=
      (inPhase.rest rfl rfl rfl rfl).mono rfl rfl rfl rfl rfl rfl
        (fun item _ member => old item member) items rfl rfl rfl
    have unchanged : useCellData (world.pop rest) = world.pop rest := by
      unfold useCellData
      rw [noData]
      exact ite_self _
    rw [unchanged]
    have pushed : Rest ((world.pop rest).push [.locReqClean]) :=
      popped.mono rfl rfl rfl rfl rfl rfl (fun _ _ member => member) items rfl
        rfl rfl
    have located : InPhase ((world.pop rest).push [.locReqClean]) (.locating none) := by
      refine pushed.inPhase rfl rfl rfl rfl ?_ noData (nothing none) trivial
      exact inPhase.sending
    exact ⟨_, located, clean idle⟩
  · cases isQueued
  · obtain ⟨isRequest, counted⟩ := inPhase.located
    obtain ⟨born, lives⟩ := inPhase.lives run client .completed rfl
    have calm := inPhase.calm rfl
    have received : useCellData (world.pop rest) =
        (world.pop rest).record (.received run client) := by
      unfold useCellData
      rw [show (world.pop rest).vars.nrfcloudCellData = some run from inPhase.cellData, isRequest]
      exact if_neg counted
    rw [received]
    have others := @InPhase.others_recorded world (((world.pop rest).record
      (.received run client)).push [.locReqClean]) _ _ _ _ _
      inPhase rfl rfl rfl rfl
    refine ⟨.locating (some (client, run)), ⟨inPhase.sending, inPhase.cellData,
      inPhase.netInfo, inPhase.sem, nothing _, fun _ => ⟨calm.idle, calm.paused,
      calm.noTimeout, calm.noState, fun member => calm.noTimeoutWork
        (old _ member), fun member => calm.noStateWork (old _ member)⟩,
      by rintro _ _ ⟨⟩, trivial, ?_, others.1, others.2.1, others.2.2, items,
      inPhase.searches, inPhase.known⟩, clean idle⟩
    rintro _ _ _ ⟨⟩
    exact ⟨born, lives.received rfl⟩

variable {outcome : Outcome}

/-- `sm_work_q` takes its next item. -/
theorem runItem_orderly {item : WorkItem} {rest : List WorkItem}
    (orderly : Orderly world) (idle : world.running = [])
    (queue : world.queue = item :: rest)
    (undisturbed : Undisturbed world (.runItem outcome)) :
    Orderly (runItem outcome item (world.pop rest)) := by
  cases item with
  | ncellmeasWork => exact ncellmeasWorkFn_orderly outcome orderly idle queue
  | locReqWork => exact locReqWorkFn_orderly orderly idle queue
  | agnssReqWork =>
    exact agnssRequestor_orderly outcome orderly idle queue (undisturbed (by rw [queue]; rfl))
  | stateHandleWork =>
    obtain ⟨phase, inPhase, runs⟩ := orderly
    have queued : WorkItem.stateHandleWork ∈ world.queue :=
      queue ▸ mem_cons_self ..
    rcases runs.idle_cases idle with rfl | rfl | rfl |
      ⟨client, run, rfl, isLocation⟩ | ⟨client, run, rfl⟩
    · exact absurd queued (inPhase.calm rfl).noStateWork
    · exact absurd queued (inPhase.calm rfl).noStateWork
    · exact absurd queued (inPhase.calm rfl).noStateWork
    · exact stateHandleWorkFn_orderly inPhase isLocation idle queue
    · exact absurd queued (inPhase.calm rfl).noStateWork
  | timeoutBackupWork =>
    obtain ⟨phase, inPhase, runs⟩ := orderly
    have queued : WorkItem.timeoutBackupWork ∈ world.queue :=
      queue ▸ mem_cons_self ..
    rcases runs.idle_cases idle with rfl | rfl | rfl |
      ⟨client, run, rfl, isLocation⟩ | ⟨client, run, rfl⟩
    · exact absurd queued (inPhase.calm rfl).noTimeoutWork
    · exact absurd queued (inPhase.calm rfl).noTimeoutWork
    · exact absurd queued (inPhase.calm rfl).noTimeoutWork
    · change Orderly (ncellmeasComplete (world.pop rest))
      rw [ncellmeasComplete_pop queue (.inl rfl)]
      exact .of_location inPhase isLocation (.inl idle)
    · exact absurd queued (inPhase.calm rfl).noTimeoutWork

/-- `sm_work_q` has taken an operation. -/
def World.proceed (rest : List WorkOp) (world : World) : World :=
  { world with running := rest }

theorem Aside.running (world : World) (running : List WorkOp) :
    Aside world { world with running := running } :=
  ⟨⟨_, rfl⟩, rfl, rfl, rfl, rfl, rfl, rfl, rfl, rfl, fun _ _ => Iff.rfl, id, .refl _⟩

theorem Aside.erase (world : World) (search : Search) :
    Aside world { world with searches := world.searches.erase search } :=
  ⟨⟨_, rfl⟩, rfl, rfl, rfl, rfl, rfl, rfl, rfl, rfl, fun _ _ => Iff.rfl, id, erase_sublist ..⟩

theorem refuse_spec (refused : world.refuse search = some after) : search ∈ world.searches ∧
      after = { world with searches := world.searches.erase search } := by
  unfold World.refuse at refused
  split at refused
  · rename_i member
    cases refused
    exact ⟨member, rfl⟩
  · cases refused

/-- The phases in which `sm_work_q` is about to do an operation. -/
def Phase.Does (world : World) (phase : Phase) : WorkOp → Prop
  | .firstSent client search =>
    (∃ run, phase = .measuring client run ∧ search = ⟨run, 1⟩) ∨
    (∃ run, phase = .measured client run ∧ search ∉ world.searches) ∨
    ∃ request run, phase = .answered request run ∧ client = .agnss request
  | .agnssWait request =>
    (∃ run, phase = .measuring (.agnss request) run) ∨
    ∃ run, phase = .answered request run
  | .agnssTake request => ∃ run, phase = .taking request run
  | .agnssClean none => Free world.running
  | .agnssClean (some run) => ∃ client, phase = .cleaning client run
  | .csconRead => ∃ client run, phase = .measuring client run ∧ client.kind = .location ∧
        world.vars.ncellmeasSmState = .rrcIdleWait ∧ ¬StatePending world
  | .gciSent search =>
    (∃ client run, phase = .measuring client run ∧ client.kind = .location) ∨
    ∃ client run, phase = .measured client run ∧ search ∉ world.searches
  | .locReqClean => ∃ data, phase = .locating data

theorem Free.does {rest : List WorkOp} (free : Free world.running)
    (isRunning : world.running = op :: rest) :
    rest = [] ∧ phase.Does world op := by
  rcases free with isNil | isClean
  · cases isNil.symm.trans isRunning
  · cases isRunning.symm.trans isClean
    exact ⟨rfl, .inr isClean⟩

theorem Phase.Runs.does {rest : List WorkOp} (runs : phase.Runs world)
    (isRunning : world.running = op :: rest) :
    rest = [] ∧ phase.Does world op := by
  cases phase with
  | idle | asked | unmeasured => exact Free.does runs isRunning
  | measuring client run =>
    rcases runs with ⟨_, free⟩ | first | ⟨request, rfl, waiting⟩ |
      ⟨isLocation, reading, state, notPending⟩ | ⟨isLocation, type, sent⟩
    · exact free.does isRunning
    · cases isRunning.symm.trans first
      exact ⟨rfl, .inl ⟨run, rfl, rfl⟩⟩
    · cases isRunning.symm.trans waiting
      exact ⟨rfl, .inl ⟨run, rfl⟩⟩
    · cases isRunning.symm.trans reading
      exact ⟨rfl, client, run, rfl, isLocation, state, notPending⟩
    · cases isRunning.symm.trans sent
      exact ⟨rfl, .inl ⟨client, run, rfl, isLocation⟩⟩
  | measured client run =>
    rcases runs with free | ⟨first, missing⟩ | ⟨type, sent, missing⟩
    · exact free.does isRunning
    · cases isRunning.symm.trans first
      exact ⟨rfl, .inr (.inl ⟨run, rfl, missing⟩)⟩
    · cases isRunning.symm.trans sent
      exact ⟨rfl, .inr ⟨client, run, rfl, missing⟩⟩
  | locating data =>
    cases isRunning.symm.trans runs
    exact ⟨rfl, data, rfl⟩
  | answered request run =>
    rcases runs with waiting | ⟨first, _⟩
    · cases isRunning.symm.trans waiting
      exact ⟨rfl, .inr ⟨run, rfl⟩⟩
    · cases isRunning.symm.trans first
      exact ⟨rfl, .inr (.inr ⟨request, run, rfl, rfl⟩)⟩
  | taking request run =>
    cases isRunning.symm.trans runs
    exact ⟨rfl, run, rfl⟩
  | cleaning client run =>
    cases isRunning.symm.trans runs
    exact ⟨rfl, client, rfl⟩

/-- A search of a measurement of `AT#XNRFCLOUDPOS` is refused. -/
theorem refused_orderly {run : RunId} (inPhase : InPhase world (.measuring client run))
    (isLocation : client.kind = .location) (idle : world.running = [])
    (refused : (world.refuse search).map ncellmeasComplete = some after) :
    Orderly after := by
  obtain ⟨without, isWithout, rfl⟩ := map_eq_some_iff.mp refused
  obtain ⟨_, rfl⟩ := refuse_spec isWithout
  exact .of_location (inPhase.aside (.erase world search)) isLocation (.inl idle)

theorem InPhase.proceed (inPhase : InPhase world phase) (running : List WorkOp) :
    InPhase { world with running := running } phase :=
  inPhase.aside (.running world running)

theorem firstSent_orderly (inPhase : InPhase world phase)
    (does : phase.Does world (.firstSent client search))
    (accepted : ∀ request, client = .agnss request → outcome.success = true)
    (taken : firstSent client search outcome (world.proceed []) = some after) : Orderly after := by
  unfold firstSent at taken
  rcases does with ⟨run, rfl, rfl⟩ | ⟨run, rfl, missing⟩ | ⟨request, run, rfl, rfl⟩
  · cases client with
    | location request =>
      dsimp only at taken
      split at taken
      · cases taken
        exact ⟨_, inPhase.proceed [], .inl ⟨rfl, .inl rfl⟩⟩
      · exact refused_orderly (inPhase.proceed []) rfl rfl taken
    | agnss request =>
      dsimp only at taken
      rw [if_pos (accepted request rfl)] at taken
      cases taken
      exact ⟨_, inPhase.proceed [.agnssWait request], .inr (.inr (.inl ⟨request, rfl, rfl⟩))⟩
  · obtain ⟨rfl, _⟩ := inPhase.located
    dsimp only at taken
    split at taken
    · cases taken
      exact ⟨_, inPhase.proceed [], .inl (.inl rfl)⟩
    · obtain ⟨without, isWithout, _⟩ := map_eq_some_iff.mp taken
      exact absurd (refuse_spec isWithout).1 missing
  · dsimp only at taken
    rw [if_pos (accepted request rfl)] at taken
    cases taken
    exact ⟨_, inPhase.proceed [.agnssWait request], .inl rfl⟩

theorem gciSent_orderly (inPhase : InPhase world phase) (does : phase.Does world (.gciSent search))
    (taken : gciSent search outcome (world.proceed []) = some after) :
    Orderly after := by
  unfold gciSent at taken
  rcases does with ⟨client, run, rfl, isLocation⟩ | ⟨client, run, rfl, missing⟩
  · split at taken
    · cases taken
      exact ⟨_, inPhase.proceed [], .inl ⟨isLocation, .inl rfl⟩⟩
    · exact refused_orderly (inPhase.proceed []) isLocation rfl taken
  · split at taken
    · cases taken
      exact ⟨_, inPhase.proceed [], .inl (.inl rfl)⟩
    · obtain ⟨without, isWithout, _⟩ := map_eq_some_iff.mp taken
      exact absurd (refuse_spec isWithout).1 missing

theorem agnssWait_orderly (inPhase : InPhase world phase)
    (does : phase.Does world (.agnssWait request))
    (given : world.agnssSem = true) :
    Orderly ({ world.proceed [] with agnssSem := false }.push [.agnssTake request]) := by
  rcases does with ⟨run, rfl⟩ | ⟨run, rfl⟩
  · cases inPhase.sem.symm.trans given
  · have calm := inPhase.calm rfl
    exact ⟨.taking request run, ⟨inPhase.sending, inPhase.cellData,
      inPhase.netInfo, rfl, inPhase.queued, fun _ => ⟨calm.idle, calm.paused,
      calm.noTimeout, calm.noState, calm.noTimeoutWork, calm.noStateWork⟩,
      by rintro _ _ ⟨⟩, trivial, inPhase.lives, inPhase.settled, inPhase.unborn,
      inPhase.noNull, inPhase.items, inPhase.searches, inPhase.known⟩, rfl⟩

theorem InPhase.rest_of_freed {run : RunId} (inPhase : InPhase world phase)
    (isLife : phase.life = some (run, client, .received))
    (calm : phase.measures = false) (netInfo : phase.netInfo = none)
    (sem : phase.sem = false) : Rest (world.record (.freed run)) := by
  obtain ⟨born, lives⟩ := inPhase.lives run client .received isLife
  obtain ⟨others, unborn, noNull⟩ := @InPhase.others_recorded world
    (world.record (.freed run)) phase run client .received (.freed run) inPhase
    isLife rfl rfl rfl
  have stays := inPhase.calm calm
  refine ⟨⟨stays.idle, stays.paused, stays.noTimeout, stays.noState,
    stays.noTimeoutWork, stays.noStateWork⟩, inPhase.netInfo.trans netInfo,
    inPhase.sem.trans sem, ?_, unborn, noNull, inPhase.items, inPhase.searches,
    inPhase.known⟩
  intro other
  by_cases same : other = run
  · rw [same]
    exact .inr ⟨client, lives.freed rfl⟩
  · exact others other fun equal => same (Option.some.inj equal).symm

theorem agnssTake_orderly {run : RunId} (inPhase : InPhase world (.taking request run)) :
    Orderly (agnssTake request (world.proceed [])) := by
  obtain ⟨born, lives⟩ := inPhase.lives run _ .completed rfl
  have calm := inPhase.calm rfl
  have received : ∀ running, InPhase
      { ((world.proceed []).setVars fun vars =>
          { vars with agnssNetInfo := none }).record
            (.received run (.agnss request)) with running := running }
      (.cleaning (.agnss request) run) := by
    intro running
    obtain ⟨others, unborn, noNull⟩ := @InPhase.others_recorded world
      { ((world.proceed []).setVars fun vars =>
          { vars with agnssNetInfo := none }).record
            (.received run (.agnss request)) with running := running }
      _ run _ .completed (.received run (.agnss request)) inPhase rfl rfl rfl rfl
    refine ⟨inPhase.sending, inPhase.cellData, rfl, inPhase.sem,
      inPhase.queued, fun _ => ⟨calm.idle, calm.paused, calm.noTimeout,
      calm.noState, calm.noTimeoutWork, calm.noStateWork⟩, by rintro _ _ ⟨⟩,
      trivial, ?_, others, unborn, noNull, inPhase.items, inPhase.searches,
      inPhase.known⟩
    rintro _ _ _ ⟨⟩
    exact ⟨born, lives.received rfl⟩
  unfold agnssTake
  rw [show (world.proceed []).vars.agnssNetInfo = some run from inPhase.netInfo]
  dsimp only
  split
  · exact ⟨_, received [.agnssClean (some run)], rfl⟩
  · have rest := (received [.agnssClean none]).rest_of_freed rfl rfl rfl rfl
    refine ⟨.idle, rest.inPhase rfl rfl rfl rfl inPhase.sending
      inPhase.cellData inPhase.queued trivial, .inr rfl⟩

theorem locReqClean_orderly {data : Option (Client × RunId)}
    (inPhase : InPhase world (.locating data)) :
    Orderly (locReqClean (world.proceed [])) := by
  have now := inPhase.proceed []
  have rest : Rest (ncellmeasCleanup world.vars.nrfcloudCellData (world.proceed [])) := by
    rw [inPhase.cellData]
    cases data with
    | none => exact now.rest rfl rfl rfl rfl
    | some owned => exact now.rest_of_freed rfl rfl rfl rfl
  have queue : ∀ cellData, (ncellmeasCleanup cellData (world.proceed [])).queue = world.queue := by
    rintro (_ | _) <;> rfl
  have running : ∀ cellData, (ncellmeasCleanup cellData (world.proceed [])).running = [] := by
    rintro (_ | _) <;> rfl
  have cleaned : Rest (locReqClean (world.proceed [])) :=
    rest.mono rfl rfl rfl rfl rfl rfl (fun _ _ member => member) rest.items rfl
      rfl rfl
  refine ⟨.idle, cleaned.inPhase rfl rfl rfl rfl rfl rfl ?_ trivial, .inl (running _)⟩
  intro item isItem
  change item ∈ (ncellmeasCleanup _ (world.proceed [])).queue ↔ _
  rw [queue]
  exact inPhase.queued item isItem

/-- `sm_work_q` goes on with its work item. -/
theorem runOp_orderly {rest : List WorkOp} (orderly : Orderly world)
    (isRunning : world.running = op :: rest)
    (undisturbed : Undisturbed world (.runOp outcome))
    (taken : runOp outcome op (world.proceed rest) = some after) :
    Orderly after := by
  obtain ⟨phase, inPhase, runs⟩ := orderly
  obtain ⟨rfl, does⟩ := runs.does isRunning
  cases op with
  | firstSent client search =>
    refine firstSent_orderly inPhase does ?_ taken
    rintro request rfl
    exact undisturbed request search (by rw [isRunning]; rfl)
  | agnssWait request =>
    rw [runOp] at taken
    split at taken
    · rename_i given
      cases taken
      exact agnssWait_orderly inPhase does given
    · cases taken
  | agnssTake request =>
    obtain ⟨run, rfl⟩ := does
    cases taken
    exact agnssTake_orderly inPhase
  | agnssClean netInfo =>
    cases taken
    cases netInfo with
    | none =>
      exact ⟨phase, inPhase.proceed [], runs.free does (.inl rfl)⟩
    | some run =>
      obtain ⟨client, rfl⟩ := does
      have rest := (inPhase.proceed []).rest_of_freed rfl rfl rfl rfl
      exact ⟨.idle, rest.inPhase rfl rfl rfl rfl inPhase.sending
        inPhase.cellData inPhase.queued trivial, .inl rfl⟩
  | csconRead =>
    obtain ⟨client, run, rfl, isLocation, state, notPending⟩ := does
    cases taken
    exact csconRead_orderly outcome (inPhase.proceed []) isLocation rfl state notPending
  | gciSent search => exact gciSent_orderly inPhase does taken
  | locReqClean =>
    obtain ⟨data, rfl⟩ := does
    cases taken
    exact locReqClean_orderly inPhase

/-! ## Runs -/

theorem InPhase.measures_of_pending (inPhase : InPhase world phase)
    (pending : world.timeoutScheduled = true ∨ world.stateScheduled = true) :
    ∃ client run, phase = .measuring client run := by
  cases isMeasuring : phase.measures with
  | false =>
    have calm := inPhase.calm isMeasuring
    rcases pending with timeout | state
    · cases calm.noTimeout.symm.trans timeout
    · cases calm.noState.symm.trans state
  | true =>
    cases phase with
    | measuring client run => exact ⟨client, run, rfl⟩
    | idle | asked | unmeasured | measured _ _ | locating _ | answered _ _ | taking _ _
    | cleaning _ _ => cases isMeasuring

theorem Orderly.expire {item : WorkItem} {timeout state : Bool} (orderly : Orderly world)
    (isItem : item = .timeoutBackupWork ∧ timeout = false ∧
        state = world.stateScheduled ∧ world.timeoutScheduled = true ∨
      item = .stateHandleWork ∧ timeout = world.timeoutScheduled ∧
        state = false ∧ world.stateScheduled = true) :
    Orderly ({ world with
      timeoutScheduled := timeout
      stateScheduled := state }.submit item) := by
  obtain ⟨phase, inPhase, runs⟩ := orderly
  obtain ⟨client, run, rfl⟩ := inPhase.measures_of_pending
    (isItem.imp (fun timeout => timeout.2.2.2) (fun state => state.2.2.2))
  obtain ⟨queue, form, member, nodup⟩ := submit_spec item { world with
    timeoutScheduled := timeout
    stateScheduled := state }
  have measuring := inPhase.measuring client run rfl
  have statePending : StatePending { world with
      timeoutScheduled := timeout
      stateScheduled := state
      queue := queue } ↔ StatePending world := by
    unfold StatePending
    rw [show WorkItem.stateHandleWork ∈ queue ↔ _ from member _]
    rcases isItem with ⟨rfl, _, rfl, _⟩ | ⟨rfl, _, rfl, scheduled⟩
    · simp
    · simp [scheduled]
  have timeoutPending : TimeoutPending { world with
      timeoutScheduled := timeout
      stateScheduled := state
      queue := queue } := by
    rcases isItem with ⟨rfl, _⟩ | ⟨rfl, rfl, _⟩
    · exact .inr ((member _).mpr (.inr rfl))
    · exact measuring.bounded.imp id fun queued => (member _).mpr (.inl queued)
  have once : state = true → WorkItem.stateHandleWork ∉ queue := by
    rcases isItem with ⟨rfl, _, rfl, _⟩ | ⟨_, _, rfl, _⟩
    · intro scheduled queued
      exact ((member _).mp queued).elim (measuring.once scheduled) (by rintro ⟨⟩)
    · rintro ⟨⟩
  rw [form]
  refine ⟨.measuring client run, inPhase.remeasure ?_ rfl rfl ?_
    (nodup inPhase.items) rfl rfl inPhase.searches inPhase.known, ?_⟩
  · exact {
      notIdle := measuring.notIdle
      listens := measuring.listens
      bounded := timeoutPending
      flag := measuring.flag
      callback := measuring.callback
      location := measuring.location
      awaits := fun search isMember own => by
        rw [statePending]
        exact measuring.awaits search isMember own
      searchType := measuring.searchType
      noNeighbors := measuring.noNeighbors
      noGciCells := measuring.noGciCells
      once := once }
  · intro other isOther
    refine (member other).trans ⟨fun isMember => isMember.resolve_right ?_, Or.inl⟩
    rcases isItem with ⟨rfl, _⟩ | ⟨rfl, _⟩ <;>
      rcases isOther with rfl | rfl <;> rintro ⟨⟩
  · rcases runs with free | first | waiting | ⟨isLocation, reading, isRrc, notPending⟩ | sent
    · exact .inl free
    · exact .inr (.inl first)
    · exact .inr (.inr (.inl waiting))
    · exact .inr (.inr (.inr (.inl ⟨isLocation, reading, isRrc, statePending.not.mpr notPending⟩)))
    · exact .inr (.inr (.inr (.inr sent)))

theorem notify_orderly {setting : Setting} {tmpStr : Text} (orderly : Orderly world)
    (undisturbed : Undisturbed world (.notify search setting tmpStr))
    (member : search ∈ world.searches) (active : world.monitorActive = true) :
    Orderly (atHandlerNcellmeas search.run setting tmpStr
      { world with searches := world.searches.erase search }) := by
  obtain ⟨phase, inPhase, runs⟩ := orderly
  cases isMeasuring : phase.measures with
  | false => cases (inPhase.calm isMeasuring).paused.symm.trans active
  | true =>
    have own := inPhase.cellData.symm.trans (undisturbed active)
    cases phase with
    | measuring client run =>
      exact atHandlerNcellmeas_orderly setting tmpStr inPhase runs member (Option.some.inj own).symm
    | idle | asked | unmeasured | measured _ _ | locating _ | answered _ _ | taking _ _
    | cleaning _ _ => cases isMeasuring

theorem Initial.orderly (initial : Initial world) : Orderly world := by
  have rest : Rest world := {
    calm := ⟨initial.idle, initial.paused, initial.noTimeout, initial.noState,
      by simp [initial.noQueue], by simp [initial.noQueue]⟩
    netInfo := initial.noNetInfo
    sem := initial.noSem
    settled := fun run => .inl (by rw [initial.noLog]; rfl)
    unborn := fun run _ => by rw [initial.noLog]; rfl
    noNull := by simp [initial.noLog]
    items := by simp [initial.noQueue]
    searches := by simp [initial.noSearches]
    known := by simp [initial.noSearches] }
  refine ⟨.idle, rest.inPhase rfl rfl rfl rfl initial.notSending
    initial.noCellData ?_ trivial, .inl initial.notRunning⟩
  intro item _
  rw [initial.noQueue]
  exact ⟨fun member => absurd member not_mem_nil, by rintro ⟨⟩⟩

theorem step_orderly {action : Action} (orderly : Orderly world)
    (undisturbed : Undisturbed world action)
    (taken : step action world = some after) : Orderly after := by
  cases action with
  | command params =>
    rw [step] at taken
    split at taken
    · rename_i idle
      cases taken
      exact handleAtNrfCloudPos_orderly orderly idle
    · cases taken
  | agnssReq =>
    cases taken
    exact orderly.aside (.submit_agnssReq world) (by
      obtain ⟨queue, form, _⟩ := submit_spec .agnssReqWork world
      rw [form])
  | runItem outcome =>
    rw [step] at taken
    split at taken
    · rename_i item rest idle queue
      cases taken
      exact runItem_orderly orderly idle queue undisturbed
    · cases taken
  | runOp outcome =>
    rw [step] at taken
    split at taken
    · cases taken
    · rename_i op rest isRunning
      exact runOp_orderly orderly isRunning undisturbed taken
  | waitExpires => exact undisturbed.elim
  | timeoutExpires =>
    rw [step] at taken
    split at taken
    · rename_i scheduled
      cases taken
      exact orderly.expire (.inl ⟨rfl, rfl, rfl, scheduled⟩)
    · cases taken
  | stateExpires =>
    rw [step] at taken
    split at taken
    · rename_i scheduled
      cases taken
      exact orderly.expire (.inr ⟨rfl, rfl, rfl, scheduled⟩)
    · cases taken
  | notify search setting tmpStr =>
    rw [step] at taken
    split at taken
    · rename_i member
      dsimp only at taken
      split at taken
      · rename_i active
        cases taken
        exact notify_orderly orderly undisturbed member active
      · cases taken
        exact orderly.aside (.erase world search) rfl
    · cases taken
  | setReady ready =>
    cases taken
    exact orderly.aside ⟨⟨ready, rfl⟩, rfl, rfl, rfl, rfl, rfl, rfl, rfl, rfl,
      fun _ _ => Iff.rfl, id, .refl _⟩ rfl

theorem reachable_orderly (reached : Reachable step Undisturbed Initial world) : Orderly world :=
  reached.invariant (fun _ initial => initial.orderly) fun _ _ _ orderly undisturbed taken =>
      step_orderly orderly undisturbed taken

/-- `sm_work_q` has nothing to do, now or later. -/
structure Quiet (world : World) : Prop where
  notRunning : world.running = []
  noQueue : world.queue = []
  noTimeout : world.timeoutScheduled = false

theorem Lives.mem_completed {run : RunId} {life : Life}
    (lives : Lives world run client life) (ended : life ≠ .measuring) :
    Entry.completed run client.kind ∈ runLog run world.log := by
  obtain ⟨parses, isHistory⟩ := lives
  rw [isHistory, history]
  cases life with
  | measuring => exact absurd rfl ended
  | completed | received | freed => simp [ending]

theorem Lives.not_completed {run : RunId}
    (lives : Lives world run client .measuring) (kind : ClientKind) :
    Entry.completed run kind ∉ runLog run world.log := by
  obtain ⟨parses, isHistory⟩ := lives
  simp [isHistory, history, ending]

theorem InPhase.timeoutPending {run : RunId} (inPhase : InPhase world phase)
    (measuring : phase.life = some (run, client, .measuring)) :
    world.vars.nrfcloudCellData = some run ∧ TimeoutPending world := by
  cases phase with
  | measuring owner current =>
    cases measuring
    exact ⟨inPhase.cellData, (inPhase.measuring _ _ rfl).bounded⟩
  | locating data =>
    cases data with
    | none | some owned => cases measuring
  | idle | asked | unmeasured | measured _ _ | answered _ _ | taking _ _ | cleaning _ _ =>
    cases measuring

theorem InPhase.settled_of_quiet (inPhase : InPhase world phase)
    (runs : phase.Runs world) (quiet : Quiet world) (run : RunId) :
    Settled world run := by
  cases phase with
  | idle | asked | unmeasured => exact inPhase.settled run (by rintro ⟨⟩)
  | measuring client current =>
    rcases (inPhase.measuring _ _ rfl).bounded with scheduled | queued
    · rw [quiet.noTimeout] at scheduled
      cases scheduled
    · rw [quiet.noQueue] at queued
      cases queued
  | measured client current =>
    have queued := (inPhase.queued .locReqWork (.inr rfl)).mpr rfl
    rw [quiet.noQueue] at queued
    cases queued
  | locating data =>
    cases quiet.notRunning.symm.trans runs
  | answered request current =>
    rcases runs with waits | ⟨sent, _⟩
    · cases quiet.notRunning.symm.trans waits
    · cases quiet.notRunning.symm.trans sent
  | taking request current | cleaning client current =>
    cases quiet.notRunning.symm.trans runs

/-- Each measurement is completed, handed to its client and freed once, with
notifications of its own searches alone, in every run that is not disturbed.  One
that has not ended has its backup timeout ahead. -/
theorem measurements_owned (reached : Reachable step Undisturbed Initial world) :
    Entry.nullCells ∉ world.log ∧ (∀ run, runLog run world.log = [] ∨
        ∃ client life, Lives world run client life) ∧
      (∀ run client, Lives world run client .measuring →
        world.vars.nrfcloudCellData = some run ∧ TimeoutPending world) ∧
      (Quiet world → ∀ run, runLog run world.log = [] ∨
        ∃ client, Lives world run client .freed) := by
  obtain ⟨phase, inPhase, runs⟩ := reachable_orderly reached
  refine ⟨inPhase.noNull, ?_, ?_, ?_⟩
  · intro run
    by_cases owned : phase.life.map Prod.fst = some run
    · obtain ⟨⟨_, client, life⟩, isLife, rfl⟩ :=
        map_eq_some_iff.mp owned
      exact .inr ⟨client, life, (inPhase.lives _ client life isLife).2⟩
    · rcases inPhase.settled run owned with unborn | ⟨client, freed⟩
      · exact .inl unborn
      · exact .inr ⟨client, .freed, freed⟩
  · intro run client measuring
    by_cases owned : phase.life.map Prod.fst = some run
    · obtain ⟨⟨_, owner, life⟩, isLife, rfl⟩ := map_eq_some_iff.mp owned
      have lives := (inPhase.lives _ owner life isLife).2
      have isMeasuring : life = .measuring := by
        by_contra ended
        exact measuring.not_completed _ (lives.mem_completed ended)
      subst isMeasuring
      exact inPhase.timeoutPending isLife
    · rcases inPhase.settled run owned with unborn | ⟨owner, freed⟩
      · obtain ⟨parses, isHistory⟩ := measuring
        rw [unborn] at isHistory
        cases isHistory
      · exact absurd (freed.mem_completed (by rintro ⟨⟩)) (measuring.not_completed _)
  · exact fun quiet run => inPhase.settled_of_quiet runs quiet run

/-! ## Example runs -/

def bootedVars : Vars where
  smNrfCloudReady := false
  nrfcloudCellCount := 0
  nrfcloudWifiPos := false
  nrfcloudSendingLocReq := false
  ncellmeasSearchType := 0
  ncellmeasGciCount := 0
  ncellmeasSmState := .idle
  ncellmeasReqCellCount := 0
  ncellmeasSendLocReqFlag := false
  ncellmeasDoneCb := none
  ncellmeasRrcPolls := 0
  nrfcloudCellData := none
  agnssNetInfo := none

def bootedWorld : World where
  vars := bootedVars
  cells := fun _ => startCells
  runs := 0
  monitorActive := false
  timeoutScheduled := false
  stateScheduled := false
  queue := []
  running := []
  agnssSem := false
  searches := []
  locRequests := 0
  agnssRequests := 0
  log := []

theorem bootedWorld_initial : Initial bootedWorld :=
  ⟨rfl, rfl, rfl, rfl, rfl, rfl, rfl, rfl, rfl, rfl, rfl, rfl, rfl⟩

/-- `%NCELLMEAS` of a cell without neighbors. -/
def oneCell : Setting where
  response := replicate 10 ','
  parser := ⟨.ok 11, fun _ => .ok 0, fun _ => .ok "26201".toList⟩
  behind _ := []
  allocated _ := true

/-- `AT#XNRFCLOUDPOS=1,0`. -/
def posOneCell : Action := .command ⟨3, .ok 1, .ok 0, 0⟩

def locationMeasuring : List Action :=
  [.setReady true, posOneCell, .runItem {}, .runOp {}]

def locationRun : List Action :=
  locationMeasuring ++ [.notify ⟨0, 1⟩ oneCell [], .runItem {}, .runItem {}, .runOp {}]

def doubleRun : List Action :=
  locationMeasuring ++ [.agnssReq, .runItem {}, .runOp {}, .notify ⟨1, 1⟩ oneCell [],
      .runOp {}, .runOp {}, .runOp {}]

/-- An A-GNSS request gives up its measurement, whose notification comes late;
the next request takes it. -/
def abandonedRun : List Action :=
  [.agnssReq, .runItem {}, .runOp {}, .waitExpires, .runOp {}, .runOp {},
    .notify ⟨0, 1⟩ oneCell [], .agnssReq, .runItem {}, .runOp {}, .runOp {},
    .runOp {}]

def undisturbed (world : World) : Action → Bool
  | .runItem _ => world.queue.head? != some .agnssReqWork || !world.vars.nrfcloudSendingLocReq
  | .runOp outcome => outcome.success
  | .waitExpires => false
  | .notify search _ _ => world.vars.nrfcloudCellData == some search.run
  | _ => true

theorem undisturbed_sound {action : Action} (isUndisturbed : undisturbed world action = true) :
    Undisturbed world action := by
  cases action with
  | runItem outcome =>
    intro isRequest _ _ _
    simpa [undisturbed, isRequest] using isUndisturbed
  | runOp outcome => exact fun _ _ _ => isUndisturbed
  | waitExpires => cases isUndisturbed
  | notify search setting tmpStr =>
    exact fun _ => eq_of_beq isUndisturbed
  | command params | agnssReq | timeoutExpires | stateExpires | setReady ready => trivial

def quiet (world : World) : Bool :=
  world.running.isEmpty && world.queue.isEmpty && !world.timeoutScheduled

theorem quiet_sound (isQuiet : quiet world = true) : Quiet world := by
  simp only [quiet, Bool.and_eq_true, List.isEmpty_iff, Bool.not_eq_true'] at isQuiet
  exact ⟨isQuiet.1.1, isQuiet.1.2, isQuiet.2⟩

/-- A location request with a measurement of its own. -/
theorem measurements_owned_location : ∃ world, Quiet world ∧
      runLog 0 world.log = history 0 (.location 1) 1 .freed ∧
      Entry.nullCells ∉ world.log ∧
      ∀ run, runLog run world.log = [] ∨ ∃ client, Lives world run client .freed := by
  have evaluated : (runChecked step undisturbed locationRun bootedWorld).map
      (fun world => (quiet world, runLog 0 world.log)) =
        some (true, history 0 (.location 1) 1 .freed) := by
    decide
  obtain ⟨world, ran, seen⟩ := map_eq_some_iff.mp evaluated
  obtain ⟨isQuiet, log⟩ := Prod.mk.inj seen
  have reached := reachable_of_runChecked _
    (fun _ _ _ isUndisturbed => undisturbed_sound isUndisturbed)
    (.start bootedWorld_initial) ran
  obtain ⟨noNull, _, _, ended⟩ := measurements_owned reached
  exact ⟨world, quiet_sound isQuiet, log, noNull, ended (quiet_sound isQuiet)⟩

/-- An A-GNSS request leaves the accepted measurement of a location request
uncompleted and unfreed for ever, and one that was given up is handed to the next
request. -/
theorem measurement_lost : (∃ world, Reachable step (fun _ _ => True) Initial world ∧ Quiet world ∧
      runLog 0 world.log = [.started 0 (.location 1)]) ∧
    ∃ world, Reachable step (fun _ _ => True) Initial world ∧
      Entry.started 0 (.agnss 0) ∈ world.log ∧
      Entry.received 0 (.agnss 1) ∈ world.log := by
  have lost : (runActions step doubleRun bootedWorld).map
      (fun world => (quiet world, runLog 0 world.log)) =
        some (true, [.started 0 (.location 1)]) := by
    decide
  have handed : (runActions step abandonedRun bootedWorld).map
      (fun world => decide (Entry.started 0 (.agnss 0) ∈ world.log ∧
        Entry.received 0 (.agnss 1) ∈ world.log)) = some true := by
    decide
  refine ⟨?_, ?_⟩
  · obtain ⟨world, ran, seen⟩ := map_eq_some_iff.mp lost
    obtain ⟨isQuiet, log⟩ := Prod.mk.inj seen
    exact ⟨world, reachable_of_run _ bootedWorld_initial ran, quiet_sound isQuiet, log⟩
  · obtain ⟨world, ran, seen⟩ := map_eq_some_iff.mp handed
    obtain ⟨started, received⟩ := of_decide_eq_true seen
    exact ⟨world, reachable_of_run _ bootedWorld_initial ran, started, received⟩

end SerialModem.NrfCloud
