import SerialModem.Coap.Threads

/-!
# The lifetime of a request

At each moment one holder answers for the request: the command that prepares
it, the data mode that collects its payload, the start of the request, the
library, or the thread that reports and closes it.  The other thread uses the
request without answering for it.

A request is closed under the feet of the work queue when the library reports an
error while the data mode waits for a block to be consumed.  The lifetime is
right in the runs in which the thread of the library closes a request only when
the work queue does not use it, a data mode is not mixed up with the request
of another one, and the library is not left with a request that a pull failed.
-/

namespace SerialModem.Coap

open Library List Option Function
open AtHost

/-! ## What a run did with a request -/

structure Ledger where
  accepted : Nat
  reported : Nat
  closed : Nat
  misused : Nat
  deriving DecidableEq

def isStatusOf (id : ReqId) : CoapEvent → Bool
  | .status other _ _ => other = id
  | _ => false

/-- How often the request was accepted, reported, closed, and used when it was not alive. -/
def ledger (id : ReqId) (log : List CoapEvent) : Ledger where
  accepted := log.count (.accepted id)
  reported := log.countP (isStatusOf id)
  closed := log.count (.closed id)
  misused := log.count (.misused id)

def CoapEvent.isNeutral : CoapEvent → Bool
  | .accepted _ | .status _ _ _ | .closed _ | .misused _ => false
  | _ => true

theorem ledger_append (id : ReqId) (log events : List CoapEvent) :
    ledger id (log ++ events) = ⟨(ledger id log).accepted + (ledger id events).accepted,
        (ledger id log).reported + (ledger id events).reported,
        (ledger id log).closed + (ledger id events).closed,
        (ledger id log).misused + (ledger id events).misused⟩ := by
  simp [ledger, count_append, countP_append]

theorem ledger_append_of_nothing {id : ReqId} {log events : List CoapEvent}
    (nothing : ledger id events = ⟨0, 0, 0, 0⟩) :
    ledger id (log ++ events) = ledger id log := by
  rw [ledger_append, nothing]
  rfl

theorem ledger_of_quiet {events : List CoapEvent}
    (quiet : ∀ event, event ∈ events → event.isNeutral = true) (id : ReqId) :
    ledger id events = ⟨0, 0, 0, 0⟩ := by
  have absent : ∀ event : CoapEvent, event.isNeutral = false → events.count event = 0 := by
    intro event loud
    refine List.count_eq_zero.mpr ?_
    intro member
    rw [quiet event member] at loud
    cases loud
  have notReported : events.countP (isStatusOf id) = 0 := by
    refine countP_eq_zero.mpr ?_
    intro event member
    have isNeutral := quiet event member
    cases event with
    | status => cases isNeutral
    | _ => exact Bool.false_ne_true
  simp only [ledger, absent (.accepted id) rfl, absent (.closed id) rfl,
    absent (.misused id) rfl, notReported]

/-! ## Runs that keep the lifetime right -/

def ClosesAlone (world : CoapWorld) (action : CoapAction) : Prop :=
  ∀ expired id rest, action = .run .client expired → world.client = .closeRequest id :: rest →
    ∀ op, op ∈ world.work → op.request ≠ some id

def OwnDatamode (world : CoapWorld) (action : CoapAction) : Prop :=
  ∀ index mode, (action = .datamodeExit index ∨ ∃ data, action = .datamodeSend index data) →
    world.datamodes[index]? = some mode →
    world.pendingReq = none ∨ world.pendingReq = some mode.1

def LibraryKept (blockSize : Nat) (world : CoapWorld) (action : CoapAction) :
    Prop :=
  ∀ expired id, action = .run .client expired →
    (world.client = [.takeRxConsumed id, .callbackEnd id false] → expired = false) ∧
    ∀ code payload req, world.client = [.callback id (.block code payload false)] →
      world.heap id = some req → req.manualRx = true →
      payload.length ≤ blockSize

/-- The three things asked of a step: no other close, data mode of an own request, and the
library as it is documented. -/
structure LifetimeStep (blockSize : Nat) (world : CoapWorld)
    (action : CoapAction) : Prop where
  closes : ClosesAlone world action
  own : OwnDatamode world action
  kept : LibraryKept blockSize world action

/-! ## Who answers for a request -/

section Holders

variable (blockSize : Nat) (id : ReqId)

/-- What the work queue does with a request without deciding about it.  Bytes are
stored in blocks only for a large payload. -/
inductive LoopOp (large : Prop) : CoapOp → Prop where
  | lock : LoopOp large .lock
  | unlock : LoopOp large .unlock
  | allocRequest (command : CoapReqCommand) : LoopOp large (.allocRequest command)
  | checkOwner (handle : Int) : LoopOp large (.checkOwner handle)
  | pullData (handle : Int) (length : Option Int) : LoopOp large (.pullData handle length)
  | giveRxConsumed : LoopOp large (.giveRxConsumed id)
  | datamodeSend (data : List Byte) : LoopOp large (.datamodeSend data)
  | datamodeSendTo (data : List Byte) : LoopOp large (.datamodeSendTo id data)
  | sendBlock (data : List Byte) (isLarge : large) : LoopOp large (.sendBlock id data)
  | giveStagingReady : LoopOp large (.giveStagingReady id)
  | startUnlessStarted (isLarge : large) : LoopOp large (.startUnlessStarted id)
  | takeStagingConsumed : LoopOp large (.takeStagingConsumed id)
  | resetStaging : LoopOp large (.resetStaging id)

def LoopWork (large : Prop) (work : List CoapOp) : Prop :=
  (∀ op, op ∈ work → LoopOp id large op) ∨ work = [.datamodeExit] ∨ work = [.datamodeExitTo id]

inductive PrepareOps : List CoapOp → Prop where
  | allocated (command : CoapReqCommand) : PrepareOps [.unlock, .prepareRequest id command]
  | preparing (command : CoapReqCommand) : PrepareOps [.prepareRequest id command]
  | locking : PrepareOps [.lock, .closeRequest id, .unlock]
  | closing : PrepareOps [.closeRequest id, .unlock]

inductive StartOps (rest : List CoapOp) : Bool → List CoapOp → Prop where
  | ready (started : Bool) :
      StartOps rest started (.giveStagingReady id :: .startRequest id :: rest)
  | starting (started : Bool) : StartOps rest started (.startRequest id :: rest)
  | calling : StartOps rest true (.payloadCb id :: .clientReqReturn id :: rest)
  | waiting : StartOps rest true (.takeStagingReady id :: .payloadTake id ::
        .clientReqReturn id :: rest)
  | taking : StartOps rest true (.payloadTake id :: .clientReqReturn id :: rest)
  | giving (block : Option (Nat × Bool)) :
      StartOps rest true (.giveStagingConsumed id :: .payloadReturn id block ::
        .clientReqReturn id :: rest)
  | returning (block : Option (Nat × Bool)) :
      StartOps rest true (.payloadReturn id block :: .clientReqReturn id :: rest)
  | returned : StartOps rest true (.clientReqReturn id :: rest)

inductive FinishOps : Bool → List CoapOp → Prop where
  | failing : FinishOps false (coapFailRequest id)
  | reporting : FinishOps false (coapFinishRequest id)
  | locking : FinishOps true [.lock, .closeRequest id, .unlock]
  | closing : FinishOps true [.closeRequest id, .unlock]

inductive PayloadOps : List CoapOp → Prop where
  | called : PayloadOps [.payloadCb id]
  | waiting : PayloadOps [.takeStagingReady id, .payloadTake id]
  | taking : PayloadOps [.payloadTake id]
  | giving (block : Option (Nat × Bool)) :
      PayloadOps [.giveStagingConsumed id, .payloadReturn id block]
  | returning (block : Option (Nat × Bool)) : PayloadOps [.payloadReturn id block]

inductive CallbackOps (last : Bool) : List CoapOp → Prop where
  | called (data : CoapResponse) (final : data.final = last) : CallbackOps last [.callback id data]
  | storing (payload : List Byte) (code : Int) (length : Nat) :
      CallbackOps last [.lock, .storeBlock id payload, .unlock,
        .sendHead id code length, .takeRxConsumed id, .callbackEnd id last]
  | storingLocked (payload : List Byte) (code : Int) (length : Nat) :
      CallbackOps last [.storeBlock id payload, .unlock,
        .sendHead id code length, .takeRxConsumed id, .callbackEnd id last]
  | stored (code : Int) (length : Nat) :
      CallbackOps last [.unlock, .sendHead id code length, .takeRxConsumed id, .callbackEnd id last]
  | notifying (code : Int) (length : Nat) :
      CallbackOps last [.sendHead id code length, .takeRxConsumed id, .callbackEnd id last]
  | waiting : CallbackOps last [.takeRxConsumed id, .callbackEnd id last]
  | delivering (payload : List Byte) : CallbackOps last [.sendData id payload, .callbackEnd id last]
  | ending : CallbackOps last [.callbackEnd id last]

def ClientAway (client : List CoapOp) : Prop :=
  client = [] ∨ client = [.unlock]

structure Away (world : CoapWorld) : Prop where
  client : ClientAway world.client
  accepted : world.library.accepted = none
  handed : world.library.handed = none

def CoapOp.isExit : CoapOp → Bool
  | .datamodeExit | .datamodeExitTo _ => true
  | _ => false

def modeCount (world : CoapWorld) : Nat :=
  world.datamodes.countP (fun mode => mode.1 = id) + world.work.countP CoapOp.isExit

def ModeKept (large : Prop) (world : CoapWorld) : Prop :=
  modeCount id world = 0 ∨ (modeCount id world = 1 ∧ large)

def HandedOwn (world : CoapWorld) : Prop :=
  ∀ handed, world.library.handed = some handed → handed.1 = id

inductive Holder (req : CoapRequest) (world : CoapWorld) : Prop where
  | preparing (ops : PrepareOps id world.work)
      (books : ledger id world.log = ⟨0, 0, 0, 0⟩) (away : Away world)
      (notStarted : req.coapStarted = false)
      (noMode : ∀ mode, mode ∈ world.datamodes → mode.1 ≠ id)
  | datamode (loop : LoopWork id (blockSize < req.payloadLen) world.work)
      (books : ledger id world.log = ⟨1, 0, 0, 0⟩) (away : Away world)
      (notStarted : req.coapStarted = false)
      (mode : modeCount id world = 1)
  | starting {rest : List CoapOp} (ops : StartOps id rest req.coapStarted world.work)
      (loop : ∀ op, op ∈ rest → LoopOp id (blockSize < req.payloadLen) op)
      (books : ledger id world.log = ⟨1, 0, 0, 0⟩)
      (client : ClientAway world.client)
      (accepted : world.library.accepted = none) (handed : HandedOwn id world)
      (mode : ModeKept id (blockSize < req.payloadLen) world)
  | failing {reported : Bool} (ops : FinishOps id reported world.work)
      (books : ledger id world.log = ⟨1, reported.toNat, 0, 0⟩)
      (away : Away world)
  | library (loop : LoopWork id (blockSize < req.payloadLen) world.work)
      (books : ledger id world.log = ⟨1, 0, 0, 0⟩)
      (started : req.coapStarted = true)
      (accepted : world.library.accepted = some id)
      (handed : HandedOwn id world)
      (client : ClientAway world.client ∨ PayloadOps id world.client ∨
        (CallbackOps id false world.client ∧ world.library.handed = none))
      (mode : ModeKept id (blockSize < req.payloadLen) world)
  | finishing (reported : Bool) (loop : LoopWork id (blockSize < req.payloadLen) world.work)
      (books : ledger id world.log = ⟨1, reported.toNat, 0, 0⟩)
      (started : req.coapStarted = true)
      (accepted : world.library.accepted = none)
      (handed : world.library.handed = none)
      (client : (reported = false ∧ CallbackOps id true world.client) ∨
        FinishOps id reported world.client)
      (mode : ModeKept id (blockSize < req.payloadLen) world)

inductive Phase (world : CoapWorld) : Prop where
  | free (nonePending : world.pendingReq = none)
      (work : ∀ op, op ∈ world.work → op.request = none) (away : Away world)
  | held {id : ReqId} {req : CoapRequest} (pending : world.pendingReq = some id)
      (live : world.heap id = some req) (known : id < world.fresh)
      (holder : Holder blockSize id req world)

structure Unused (world : CoapWorld) : Prop where
  dead : world.heap id = none
  books : ledger id world.log = ⟨0, 0, 0, 0⟩
  noMode : ∀ mode, mode ∈ world.datamodes → mode.1 ≠ id

structure Gone (world : CoapWorld) : Prop where
  dead : world.heap id = none
  books : ledger id world.log = ⟨1, 1, 1, 0⟩ ∨ ledger id world.log = ⟨0, 0, 1, 0⟩

structure Lifetime (world : CoapWorld) : Prop where
  unused : ∀ id, world.fresh ≤ id → Unused id world
  gone : ∀ id, id < world.fresh → world.pendingReq ≠ some id → Gone id world
  phase : Phase blockSize world

end Holders

/-! ## Steps that decide nothing -/

section Steps

variable {blockSize : Nat} {id : ReqId} {world after : CoapWorld}
  {req changed : CoapRequest} {large : Prop}

structure Touches (id : ReqId) (changed : CoapRequest)
    (world after : CoapWorld) : Prop where
  pending : after.pendingReq = world.pendingReq
  heap : after.heap = update world.heap id (some changed)
  fresh : after.fresh = world.fresh
  modes : ∀ mode, mode ∈ after.datamodes →
    mode.1 = id ∨ ∃ before, before ∈ world.datamodes ∧ before.1 = mode.1

structure Uses (id : ReqId) (changed : CoapRequest) (world after : CoapWorld) :
    Prop extends Touches id changed world after where
  datamodes : after.datamodes = world.datamodes
  library : after.library = world.library
  log : ∃ events, after.log = world.log ++ events ∧ ∀ event, event ∈ events → event.isNeutral = true

theorem Touches.of_request (thread : CoapThread) (next : List CoapOp) (events : List CoapEvent) :
    Touches id changed world
      (((world.setOps thread next).setRequest id changed).record events) := by
  refine ⟨?_, ?_, ?_, ?_⟩
  · exact pendingReq_setOps world thread next
  · show update (world.setOps thread next).heap id _ = _
    rw [heap_setOps]
  · exact fresh_setOps world thread next
  · have sameModes := datamodes_setOps world thread next
    exact fun mode member => .inr ⟨mode, sameModes ▸ member, rfl⟩

variable {thread : CoapThread}

variable {events : List CoapEvent}

theorem Uses.of_request {next : List CoapOp}
    (quiet : ∀ event, event ∈ events → event.isNeutral = true) :
    Uses id changed world (((world.setOps thread next).setRequest id changed).record events) := by
  refine ⟨.of_request thread next events, ?_, ?_, events, ?_, quiet⟩
  · exact datamodes_setOps world thread next
  · exact library_setOps world thread next
  · show (world.setOps thread next).log ++ events = _
    rw [log_setOps]

theorem Uses.of_silent {next : List CoapOp} : Uses id changed world
      (((world.setOps thread next).setRequest id changed).record []) :=
  .of_request (forall_mem_nil _)

theorem Touches.of_same (live : world.heap id = some req)
    (pending : after.pendingReq = world.pendingReq)
    (heap : after.heap = world.heap) (fresh : after.fresh = world.fresh)
    (datamodes : after.datamodes = world.datamodes) :
    Touches id req world after := by
  refine ⟨pending, ?_, fresh, ?_⟩
  · rw [heap, ← live, update_eq_self]
  · exact fun mode member => .inr ⟨mode, datamodes ▸ member, rfl⟩

theorem Uses.of_same (live : world.heap id = some req)
    (pending : after.pendingReq = world.pendingReq)
    (heap : after.heap = world.heap) (fresh : after.fresh = world.fresh)
    (datamodes : after.datamodes = world.datamodes)
    (library : after.library = world.library) (log : after.log = world.log) :
    Uses id req world after := by
  refine ⟨.of_same live pending heap fresh datamodes, datamodes, library, [], ?_, ?_⟩
  · rw [log, append_nil]
  · exact forall_mem_nil _

theorem Touches.live (touches : Touches id changed world after) : after.heap id = some changed := by
  rw [touches.heap, update_self]

theorem Uses.books (uses : Uses id changed world after) (other : ReqId) :
    ledger other after.log = ledger other world.log := by
  obtain ⟨events, isLog, quiet⟩ := uses.log
  rw [isLog, ledger_append_of_nothing (ledger_of_quiet quiet other)]

theorem Uses.accepted (uses : Uses id changed world after) :
    after.library.accepted = world.library.accepted := by
  rw [uses.library]

theorem Away.same (away : Away world) (client : after.client = world.client)
    (library : after.library = world.library) : Away after := by
  refine ⟨?_, ?_, ?_⟩
  · rw [client]
    exact away.client
  · rw [library]
    exact away.accepted
  · rw [library]
    exact away.handed

theorem HandedOwn.same (handed : HandedOwn id world)
    (library : after.library = world.library) : HandedOwn id after := by
  unfold HandedOwn
  rw [library]
  exact handed

variable {op : CoapOp}

theorem LoopOp.request (loop : LoopOp id large op) : op.request = none ∨ op.request = some id := by
  cases loop <;> simp [CoapOp.request]

/-- The work queue uses the pending request at most. -/
theorem LoopWork.request {work : List CoapOp} (loop : LoopWork id large work) :
    ∀ op, op ∈ work → op.request = none ∨ op.request = some id := by
  intro op member
  rcases loop with loop | rfl | rfl
  · exact (loop op member).request
  · rw [mem_singleton.mp member]
    exact .inl rfl
  · rw [mem_singleton.mp member]
    exact .inr rfl

theorem LoopOp.notExit (loop : LoopOp id large op) : op.isExit = false := by
  cases loop <;> rfl

theorem countP_exit_of_loop {work : List CoapOp} (loop : ∀ op, op ∈ work → LoopOp id large op) :
    work.countP CoapOp.isExit = 0 := by
  refine countP_eq_zero.mpr ?_
  intro op member
  rw [(loop op member).notExit]
  exact Bool.false_ne_true

theorem pullRequest_keeps (blockSize : Nat) (id : ReqId) (req : CoapRequest)
    (large : Prop) (handle : Int) (length : Option Int) :
    (pullRequest blockSize handle length id req).1.coapStarted = req.coapStarted ∧
      (pullRequest blockSize handle length id req).1.payloadLen = req.payloadLen ∧
      (∀ op, op ∈ (pullRequest blockSize handle length id req).2.1 → LoopOp id large op) ∧
      ∀ event, event ∈ (pullRequest blockSize handle length id req).2.2 →
        event.isNeutral = true := by
  have unlocking : ∀ op ∈ [CoapOp.unlock], LoopOp id large op :=
    forall_mem_singleton.mpr .unlock
  have giving : ∀ op ∈ [CoapOp.unlock, .giveRxConsumed id], LoopOp id large op :=
    forall_mem_cons.mpr ⟨.unlock, forall_mem_singleton.mpr .giveRxConsumed⟩
  unfold pullRequest
  split
  · exact ⟨rfl, rfl, unlocking, forall_mem_nil _⟩
  · split
    · exact ⟨rfl, rfl, unlocking, by simp [CoapEvent.isNeutral]⟩
    · dsimp only
      split
      · exact ⟨rfl, rfl, unlocking, by simp [CoapEvent.isNeutral]⟩
      · exact ⟨rfl, rfl, giving, by simp [CoapEvent.isNeutral]⟩

variable {expired : Bool} {rest : List CoapOp}

theorem sendBlock_keeps {data : List Byte}
    {result : CoapRequest × List CoapOp × List CoapEvent} (isLarge : large)
    (goesOn : ∀ next, next ∈ rest → LoopOp id large next)
    (moved : requestOp blockSize expired req rest (.sendBlock id data) = some result) :
    result.1.coapStarted = req.coapStarted ∧
      result.1.payloadLen = req.payloadLen ∧ result.2.2 = [] ∧
      ∀ next, next ∈ result.2.1 → LoopOp id large next := by
  have again (left : List Byte) : ∀ next ∈ CoapOp.sendBlock id left :: rest, LoopOp id large next :=
    forall_mem_cons.mpr ⟨.sendBlock left isLarge, goesOn⟩
  simp only [requestOp] at moved
  split at moved
  · cases moved
    exact ⟨rfl, rfl, rfl, goesOn⟩
  · split at moved
    · cases moved
      refine ⟨rfl, rfl, rfl, forall_mem_cons.mpr ⟨.giveStagingReady,
        forall_mem_cons.mpr ⟨.startUnlessStarted isLarge, ?_⟩⟩⟩
      split
      · exact again _
      · exact forall_mem_cons.mpr ⟨.takeStagingConsumed,
          forall_mem_cons.mpr ⟨.resetStaging, again _⟩⟩
    · cases moved
      exact ⟨rfl, rfl, rfl, again _⟩

theorem loop_run (pending : world.pendingReq = some id)
    (live : world.heap id = some req) (ops : world.work = op :: rest)
    (loop : ∀ next, next ∈ op :: rest → LoopOp id (blockSize < req.payloadLen) next)
    (ran : runOp blockSize .work expired world = some after) :
    (op = .startUnlessStarted id ∧ req.coapStarted = false ∧
      Uses id req world after ∧ after.client = world.client ∧
      after.work = .startRequest id :: rest) ∨
    ∃ changed, Uses id changed world after ∧ after.client = world.client ∧
      changed.coapStarted = req.coapStarted ∧
      changed.payloadLen = req.payloadLen ∧
      ∀ next, next ∈ after.work → LoopOp id (blockSize < req.payloadLen) next := by
  have goesOn : ∀ next, next ∈ rest → LoopOp id (blockSize < req.payloadLen) next :=
    fun next member => loop next (mem_cons_of_mem _ member)
  cases loop op (mem_cons_self ..) with
  | lock =>
    right
    obtain rfl := runOp_lock ran ops
    exact ⟨req, .of_same live rfl rfl rfl rfl rfl rfl, rfl, rfl, rfl, goesOn⟩
  | unlock | checkOwner handle =>
    right
    cases moduleOp_of_runOp ran ops rfl
    exact ⟨req, .of_same live rfl rfl rfl rfl rfl rfl, rfl, rfl, rfl, goesOn⟩
  | allocRequest command =>
    right
    replace ran := moduleOp_of_runOp ran ops rfl
    simp only [moduleOp, pending, reduceCtorEq, false_and, if_false, some_inj] at ran
    subst ran
    exact ⟨req, .of_same live rfl rfl rfl rfl rfl rfl, rfl, rfl, rfl,
      forall_mem_singleton.mpr .unlock⟩
  | pullData handle length =>
    right
    replace ran := moduleOp_of_runOp ran ops rfl
    simp only [moduleOp, pending, CoapWorld.useRequest, live, some_inj] at ran
    subst ran
    obtain ⟨started, payloadLen, loops, quiet⟩ :=
      pullRequest_keeps blockSize id req (blockSize < req.payloadLen) handle length
    exact ⟨_, .of_request quiet, rfl, started, payloadLen, loops⟩
  | giveRxConsumed =>
    right
    obtain ⟨_, moved, rfl⟩ := requestOp_of_runOp ran ops rfl live
    cases moved
    exact ⟨_, .of_silent, rfl, rfl, rfl, goesOn⟩
  | datamodeSend data =>
    right
    replace ran := moduleOp_of_runOp ran ops rfl
    simp only [moduleOp, pending, some_inj] at ran
    subst ran
    exact ⟨req, .of_same live rfl rfl rfl rfl rfl rfl, rfl, rfl, rfl,
      forall_mem_cons.mpr ⟨.datamodeSendTo data, goesOn⟩⟩
  | datamodeSendTo data =>
    right
    obtain ⟨_, moved, rfl⟩ := requestOp_of_runOp ran ops rfl live
    simp only [requestOp] at moved
    split at moved
    · cases moved
      exact ⟨_, .of_silent, rfl, rfl, rfl, goesOn⟩
    · rename_i isLarge
      cases moved
      exact ⟨_, .of_silent, rfl, rfl, rfl,
        forall_mem_cons.mpr ⟨.sendBlock data (Nat.not_le.mp isLarge), goesOn⟩⟩
  | sendBlock data isLarge =>
    right
    obtain ⟨result, moved, rfl⟩ := requestOp_of_runOp ran ops rfl live
    obtain ⟨started, payloadLen, noEvents, loops⟩ :=
      sendBlock_keeps isLarge goesOn moved
    rw [noEvents]
    exact ⟨_, .of_silent, rfl, started, payloadLen, loops⟩
  | giveStagingReady | resetStaging =>
    right
    obtain ⟨_, moved, rfl⟩ := requestOp_of_runOp ran ops rfl live
    cases moved
    exact ⟨_, .of_silent, rfl, rfl, rfl, goesOn⟩
  | startUnlessStarted isLarge =>
    obtain ⟨_, moved, rfl⟩ := requestOp_of_runOp ran ops rfl live
    cases moved
    rcases Bool.eq_false_or_eq_true req.coapStarted with started | notStarted
    · right
      rw [if_pos started]
      exact ⟨_, .of_silent, rfl, rfl, rfl, goesOn⟩
    · left
      refine ⟨rfl, notStarted, .of_silent, rfl, ?_⟩
      rw [notStarted]
      rfl
  | takeStagingConsumed =>
    right
    obtain ⟨_, moved, rfl⟩ := requestOp_of_runOp ran ops rfl live
    simp only [requestOp] at moved
    split at moved
    · cases moved
      exact ⟨_, .of_silent, rfl, rfl, rfl, goesOn⟩
    · split at moved
      · cases moved
        exact ⟨_, .of_silent, rfl, rfl, rfl, forall_mem_nil _⟩
      · cases moved

/-! ## What the steps do to the books -/

theorem Lifetime.touches (lifetime : Lifetime blockSize world)
    (pending : world.pendingReq = some id) (known : id < world.fresh)
    (touches : Touches id changed world after)
    (books : ∀ other, other ≠ id → ledger other after.log = ledger other world.log)
    (holder : Holder blockSize id changed after) :
    Lifetime blockSize after := by
  refine ⟨?_, ?_, ?_⟩
  · intro other isFresh
    rw [touches.fresh] at isFresh
    have differs : other ≠ id := Nat.ne_of_gt (Nat.lt_of_lt_of_le known isFresh)
    have unused := lifetime.unused other isFresh
    refine ⟨?_, ?_, ?_⟩
    · rw [touches.heap, update_of_ne differs]
      exact unused.dead
    · rw [books other differs]
      exact unused.books
    · intro mode member
      rcases touches.modes mode member with own | ⟨before, isBefore, same⟩
      · rw [own]
        exact Ne.symm differs
      · rw [← same]
        exact unused.noMode before isBefore
  · intro other isKnown notPending
    rw [touches.fresh] at isKnown
    rw [touches.pending] at notPending
    have gone := lifetime.gone other isKnown notPending
    have differs : other ≠ id := by
      rintro rfl
      exact notPending pending
    refine ⟨?_, ?_⟩
    · rw [touches.heap, update_of_ne differs]
      exact gone.dead
    · rw [books other differs]
      exact gone.books
  · refine .held (touches.pending.trans pending) touches.live ?_ holder
    rw [touches.fresh]
    exact known

theorem Lifetime.uses (lifetime : Lifetime blockSize world)
    (pending : world.pendingReq = some id) (known : id < world.fresh)
    (uses : Uses id changed world after)
    (holder : Holder blockSize id changed after) :
    Lifetime blockSize after :=
  lifetime.touches pending known uses.toTouches (fun other _ => uses.books other) holder

theorem Lifetime.closes (lifetime : Lifetime blockSize world)
    (pending : world.pendingReq = some id) (known : id < world.fresh)
    (books : ledger id world.log = ⟨1, 1, 0, 0⟩ ∨ ledger id world.log = ⟨0, 0, 0, 0⟩)
    (work : ∀ op, op ∈ (world.setOps thread rest).work → op.request = none)
    (client : ClientAway (world.setOps thread rest).client)
    (accepted : world.library.accepted = none)
    (handed : world.library.handed = none) :
    Lifetime blockSize (closeRequest id (world.setOps thread rest)) := by
  have isClosed : ∀ other, ledger other [.closed id] = ⟨0, 0, if id = other then 1 else 0, 0⟩ := by
    intro other
    simp [ledger, isStatusOf, count_singleton]
  have closed : ∀ other, ledger other (world.log ++ [.closed id]) =
      ⟨(ledger other world.log).accepted, (ledger other world.log).reported,
        (ledger other world.log).closed + if id = other then 1 else 0,
        (ledger other world.log).misused⟩ := by
    intro other
    rw [ledger_append, isClosed]
    rfl
  have sameLog : (closeRequest id (world.setOps thread rest)).log = world.log ++ [.closed id] := by
    simp [closeRequest]
  have sameHeap : (closeRequest id (world.setOps thread rest)).heap =
      update world.heap id none := by
    simp [closeRequest]
  have sameFresh : (closeRequest id (world.setOps thread rest)).fresh = world.fresh := by
    simp [closeRequest]
  have sameLibrary : (closeRequest id (world.setOps thread rest)).library = world.library := by
    simp [closeRequest]
  refine ⟨?_, ?_, ?_⟩
  · intro other isFresh
    rw [sameFresh] at isFresh
    have differs : other ≠ id := Nat.ne_of_gt (Nat.lt_of_lt_of_le known isFresh)
    have unused := lifetime.unused other isFresh
    refine ⟨?_, ?_, ?_⟩
    · rw [sameHeap, update_of_ne differs]
      exact unused.dead
    · rw [sameLog, closed, unused.books, if_neg (Ne.symm differs)]
    · have sameModes : (closeRequest id (world.setOps thread rest)).datamodes =
          world.datamodes := by
        simp [closeRequest]
      rw [sameModes]
      exact unused.noMode
  · intro other isKnown _
    rw [sameFresh] at isKnown
    by_cases same : id = other
    · subst same
      refine ⟨?_, ?_⟩
      · rw [sameHeap, update_self]
      · rw [sameLog, closed, if_pos rfl]
        rcases books with books | books
        · left
          rw [books]
        · right
          rw [books]
    · have gone := lifetime.gone other isKnown (by
        rw [pending]
        exact fun isOther => same (some_inj.mp isOther))
      refine ⟨?_, ?_⟩
      · rw [sameHeap, update_of_ne (Ne.symm same)]
        exact gone.dead
      · rw [sameLog, closed, if_neg same]
        exact gone.books
  · refine .free ?_ work ⟨client, ?_, ?_⟩
    · simp [closeRequest, pending]
    · rw [sameLibrary]
      exact accepted
    · rw [sameLibrary]
      exact handed

theorem Lifetime.idles (lifetime : Lifetime blockSize world) (nonePending : world.pendingReq = none)
    (pending : after.pendingReq = none) (heap : after.heap = world.heap)
    (fresh : after.fresh = world.fresh)
    (modes : ∀ mode, mode ∈ after.datamodes →
      ∃ before, before ∈ world.datamodes ∧ before.1 = mode.1)
    (books : ∀ other, ledger other after.log = ledger other world.log)
    (work : ∀ op, op ∈ after.work → op.request = none) (away : Away after) :
    Lifetime blockSize after := by
  refine ⟨?_, ?_, .free pending work away⟩
  · intro other isFresh
    rw [fresh] at isFresh
    have unused := lifetime.unused other isFresh
    refine ⟨?_, ?_, ?_⟩
    · rw [heap]
      exact unused.dead
    · rw [books]
      exact unused.books
    · intro mode member
      obtain ⟨before, isBefore, same⟩ := modes mode member
      rw [← same]
      exact unused.noMode before isBefore
  · intro other isKnown _
    rw [fresh] at isKnown
    have gone := lifetime.gone other isKnown (by simp [nonePending])
    refine ⟨?_, ?_⟩
    · rw [heap]
      exact gone.dead
    · rw [books]
      exact gone.books

/-! ## The work queue -/

theorem modeCount_of_same (datamodes : after.datamodes = world.datamodes)
    (exits : after.work.countP CoapOp.isExit = world.work.countP CoapOp.isExit) :
    modeCount id after = modeCount id world := by
  unfold modeCount
  rw [datamodes, exits]

inductive LoopNext (blockSize : Nat) (id : ReqId) (req : CoapRequest)
    (world after : CoapWorld) : Prop where
  | goesOn {changed : CoapRequest} (uses : Uses id changed world after)
      (client : after.client = world.client)
      (started : changed.coapStarted = req.coapStarted)
      (loop : LoopWork id (blockSize < changed.payloadLen) after.work)
      (mode : (req.coapStarted = true ∧ modeCount id after = 0) ∨
        (changed.payloadLen = req.payloadLen ∧ modeCount id after = modeCount id world))
  | starts {changed : CoapRequest} {rest : List CoapOp} (uses : Uses id changed world after)
      (client : after.client = world.client)
      (notStarted : req.coapStarted = false)
      (started : changed.coapStarted = false)
      (ops : StartOps id rest false after.work)
      (loop : ∀ op, op ∈ rest → LoopOp id (blockSize < changed.payloadLen) op)
      (mode : ModeKept id (blockSize < changed.payloadLen) after)
  | fails (uses : Uses id req world after) (client : after.client = world.client)
      (notStarted : req.coapStarted = false)
      (ops : after.work = coapFailRequest id)

theorem exit_next (live : world.heap id = some req)
    (ops : world.work = [.datamodeExitTo id]) (one : modeCount id world ≤ 1)
    (isLarge : req.coapStarted = true → blockSize < req.payloadLen)
    (ran : runOp blockSize .work expired world = some after) :
    LoopNext blockSize id req world after := by
  have noOps {large : Prop} : ∀ op ∈ ([] : List CoapOp), LoopOp id large op :=
    forall_mem_nil _
  have noModes : world.datamodes.countP (fun mode => mode.1 = id) = 0 := by
    unfold modeCount at one
    rw [ops] at one
    simp only [countP_cons, countP_nil, CoapOp.isExit, if_true] at one
    omega
  have ended : ∀ {next : List CoapOp} {changed : CoapRequest},
      next.countP CoapOp.isExit = 0 →
      modeCount id (((world.setOps .work next).setRequest id changed).record []) = 0 := by
    intro next changed noExit
    show world.datamodes.countP _ + next.countP _ = 0
    rw [noModes, noExit]
  obtain ⟨_, moved, rfl⟩ := requestOp_of_runOp ran ops rfl live
  simp only [requestOp] at moved
  split at moved
  · rename_i short
    have notStarted : req.coapStarted = false := by
      refine Bool.eq_false_iff.mpr ?_
      intro started
      exact absurd (isLarge started) (Nat.not_lt.mpr short)
    split at moved
    · cases moved
      exact .starts (.of_silent) rfl notStarted notStarted
        (.starting false) noOps (.inl (ended rfl))
    · cases moved
      exact .fails (.of_silent) rfl notStarted rfl
  · split at moved
    · rename_i notStarted
      have notStarted : req.coapStarted = false := by simpa using notStarted
      cases moved
      refine .starts (.of_silent) rfl notStarted ?_ (.ready false) noOps (.inl (ended rfl))
      split <;> exact notStarted
    · rename_i notUnstarted
      have started : req.coapStarted = true := by simpa using notUnstarted
      split at moved
      · cases moved
        refine .goesOn (.of_silent) rfl ?_ ?_ (.inl ⟨started, ended rfl⟩)
        · split <;> rfl
        · exact .inl (forall_mem_singleton.mpr .giveStagingReady)
      · cases moved
        exact .goesOn (.of_silent) rfl rfl (.inl noOps) (.inl ⟨started, ended rfl⟩)

theorem LoopWork.next {expired : Bool} (pending : world.pendingReq = some id)
    (live : world.heap id = some req)
    (loop : LoopWork id (blockSize < req.payloadLen) world.work)
    (one : modeCount id world ≤ 1)
    (isLarge : req.coapStarted = true → 0 < modeCount id world → blockSize < req.payloadLen)
    (ran : runOp blockSize .work expired world = some after) :
    LoopNext blockSize id req world after := by
  rcases loop with loop | ops | ops
  · cases ops : world.work with
    | nil =>
      simp only [runOp, CoapWorld.ops, ops] at ran
      cases ran
    | cons op rest =>
      rw [ops] at loop
      have before := countP_exit_of_loop loop
      rcases loop_run pending live ops loop ran with
        ⟨rfl, notStarted, uses, client, work⟩ |
        ⟨changed, uses, client, started, payloadLen, loops⟩
      · have goesOn : ∀ next, next ∈ rest → LoopOp id (blockSize < req.payloadLen) next :=
          fun next member => loop next (mem_cons_of_mem _ member)
        have large : blockSize < req.payloadLen := by
          cases loop _ (mem_cons_self ..) with
          | startUnlessStarted isLarge => exact isLarge
        have same : modeCount id after = modeCount id world := by
          refine modeCount_of_same uses.datamodes ?_
          rw [work, ops, before, countP_cons, countP_exit_of_loop goesOn]
          rfl
        refine .starts uses client notStarted notStarted ?_ goesOn ?_
        · rw [work]
          exact .starting false
        · unfold ModeKept
          rw [same]
          omega
      · rw [← payloadLen] at loops
        refine .goesOn uses client started (.inl loops)
          (.inr ⟨payloadLen, modeCount_of_same uses.datamodes ?_⟩)
        rw [countP_exit_of_loop loops, ops, before]
  · replace ran := moduleOp_of_runOp ran ops rfl
    simp only [moduleOp, pending, some_inj] at ran
    subst ran
    refine .goesOn (.of_same live rfl rfl rfl rfl rfl rfl) rfl rfl
      (.inr (.inr rfl)) (.inr ⟨rfl, modeCount_of_same rfl ?_⟩)
    rw [ops]
    rfl
  · refine exit_next live ops one ?_ ran
    intro started
    refine isLarge started ?_
    unfold modeCount
    rw [ops]
    exact Nat.succ_pos _

theorem Lifetime.prepares (lifetime : Lifetime blockSize world)
    (pending : world.pendingReq = some id) (live : world.heap id = some req)
    (known : id < world.fresh) (ops : PrepareOps id world.work)
    (books : ledger id world.log = ⟨0, 0, 0, 0⟩) (away : Away world)
    (notStarted : req.coapStarted = false)
    (noMode : ∀ mode, mode ∈ world.datamodes → mode.1 ≠ id)
    (ran : runOp blockSize .work expired world = some after) :
    Lifetime blockSize after := by
  generalize isWork : world.work = work at ops
  cases ops with
  | allocated command =>
    cases moduleOp_of_runOp ran isWork rfl
    exact lifetime.touches pending known (.of_same live rfl rfl rfl rfl)
      (fun _ _ => rfl) (.preparing (.preparing command) books
        ⟨away.client, away.accepted, away.handed⟩ notStarted noMode)
  | preparing command =>
    replace ran := moduleOp_of_runOp ran isWork rfl
    simp only [moduleOp, CoapWorld.useRequest, live, some_inj] at ran
    subst ran
    have gaveUp : Lifetime blockSize { world with work := cleanupReq id } :=
      lifetime.touches pending known (.of_same live rfl rfl rfl rfl)
        (fun _ _ => rfl) (.preparing .locking books
          ⟨away.client, away.accepted, away.handed⟩ notStarted noMode)
    have isAccepted : ∀ other, ledger other [.accepted id] =
        ⟨if id = other then 1 else 0, 0, 0, 0⟩ := by
      intro other
      simp [ledger, isStatusOf, count_singleton]
    have accepts : ledger id (world.log ++ [.accepted id]) = ⟨1, 0, 0, 0⟩ := by
      rw [ledger_append, books, isAccepted, if_pos rfl]
      rfl
    have others : ∀ other, other ≠ id → ledger other (world.log ++ [.accepted id]) =
          ledger other world.log := by
      intro other differs
      refine ledger_append_of_nothing ?_
      rw [isAccepted, if_neg (Ne.symm differs)]
    have noCount : world.datamodes.countP (fun mode => mode.1 = id) = 0 := by
      refine countP_eq_zero.mpr ?_
      intro mode member
      simpa using noMode mode member
    unfold prepareRequest
    split
    · exact gaveUp
    · split
      · split
        · refine lifetime.touches pending known ⟨rfl, rfl, rfl, ?_⟩ others
            (.datamode (.inl ?_) accepts ⟨away.client, away.accepted, away.handed⟩ notStarted ?_)
          · intro mode member
            rcases mem_append.mp member with before | new
            · exact .inr ⟨mode, before, rfl⟩
            · rw [mem_singleton.mp new]
              exact .inl rfl
          · exact forall_mem_nil _
          · show (world.datamodes ++ [(id, command.payloadLen)]).countP _ + 0 = 1
            rw [countP_append, noCount]
            simp
        · exact gaveUp
      · refine lifetime.touches pending known ⟨rfl, rfl, rfl, ?_⟩ others
          (.starting (.starting _) ?_ accepts away.client away.accepted ?_ (.inl ?_))
        · exact fun mode member => .inr ⟨mode, member, rfl⟩
        · exact forall_mem_nil _
        · intro given isGiven
          have isGiven : world.library.handed = some given := isGiven
          rw [away.handed] at isGiven
          cases isGiven
        · show world.datamodes.countP _ + 0 = 0
          rw [noCount]
  | locking =>
    obtain rfl := runOp_lock ran isWork
    exact lifetime.touches pending known (.of_same live rfl rfl rfl rfl)
      (fun _ _ => rfl) (.preparing .closing books
        ⟨away.client, away.accepted, away.handed⟩ notStarted noMode)
  | closing =>
    replace ran := moduleOp_of_runOp ran isWork rfl
    simp only [moduleOp, CoapWorld.useRequest, live, some_inj] at ran
    subst ran
    exact lifetime.closes pending known (.inr books)
      (forall_mem_singleton.mpr rfl) away.client away.accepted away.handed

theorem Lifetime.starts (lifetime : Lifetime blockSize world)
    (pending : world.pendingReq = some id) (live : world.heap id = some req)
    (known : id < world.fresh)
    (ops : StartOps id rest req.coapStarted world.work)
    (loop : ∀ op, op ∈ rest → LoopOp id (blockSize < req.payloadLen) op)
    (books : ledger id world.log = ⟨1, 0, 0, 0⟩)
    (client : ClientAway world.client)
    (accepted : world.library.accepted = none) (handed : HandedOwn id world)
    (mode : ModeKept id (blockSize < req.payloadLen) world)
    (ran : runOp blockSize .work expired world = some after) :
    Lifetime blockSize after := by
  have noExit := countP_exit_of_loop loop
  -- what follows an operation on the request
  have goesOn : ∀ {changed : CoapRequest} {next : List CoapOp}
      {started : Bool}, changed.payloadLen = req.payloadLen →
      changed.coapStarted = started → StartOps id rest started next →
      next.countP CoapOp.isExit = world.work.countP CoapOp.isExit →
      Lifetime blockSize (((world.setOps .work next).setRequest id
        changed).record []) := by
    intro changed next started payloadLen isStarted starts exits
    have uses : Uses id changed world (((world.setOps .work next).setRequest id
        changed).record []) := .of_silent
    have sameMode : modeCount id (((world.setOps .work next).setRequest id
        changed).record []) = modeCount id world := modeCount_of_same rfl exits
    rw [← isStarted] at starts
    refine lifetime.uses pending known uses (.starting starts ?_ ?_ client accepted handed ?_)
    · rw [payloadLen]
      exact loop
    · rw [uses.books]
      exact books
    · unfold ModeKept
      rw [sameMode, payloadLen]
      exact mode
  generalize isStarted : req.coapStarted = started at ops
  generalize isWork : world.work = work at ops
  cases ops with
  | ready started =>
    obtain ⟨_, moved, rfl⟩ := requestOp_of_runOp ran isWork rfl live
    cases moved
    refine goesOn rfl rfl (.starting _) ?_
    rw [isWork]
    rfl
  | starting started =>
    obtain ⟨_, moved, rfl⟩ := requestOp_of_runOp ran isWork rfl live
    cases moved
    split
    · refine goesOn rfl rfl .calling ?_
      rw [isWork]
      rfl
    · refine goesOn rfl rfl .returned ?_
      rw [isWork]
      rfl
  | calling =>
    obtain ⟨_, moved, rfl⟩ := requestOp_of_runOp ran isWork rfl live
    simp only [requestOp] at moved
    split at moved
    · cases moved
      refine goesOn rfl isStarted (.returning _) ?_
      rw [isWork]
      rfl
    · cases moved
      refine goesOn rfl isStarted .waiting ?_
      rw [isWork]
      rfl
  | waiting =>
    obtain ⟨_, moved, rfl⟩ := requestOp_of_runOp ran isWork rfl live
    simp only [requestOp] at moved
    split at moved
    · cases moved
      refine goesOn rfl isStarted .taking ?_
      rw [isWork]
      rfl
    · split at moved
      · cases moved
        refine goesOn rfl isStarted (.returning none) ?_
        rw [isWork]
        rfl
      · cases moved
  | taking =>
    obtain ⟨_, moved, rfl⟩ := requestOp_of_runOp ran isWork rfl live
    simp only [requestOp] at moved
    split at moved
    · cases moved
      refine goesOn rfl isStarted (.returning none) ?_
      rw [isWork]
      rfl
    · cases moved
      split
      · refine goesOn rfl isStarted (.returning _) ?_
        rw [isWork]
        rfl
      · refine goesOn rfl isStarted (.giving _) ?_
        rw [isWork]
        rfl
  | giving block =>
    obtain ⟨_, moved, rfl⟩ := requestOp_of_runOp ran isWork rfl live
    cases moved
    refine goesOn rfl isStarted (.returning block) ?_
    rw [isWork]
    rfl
  | returning block =>
    cases moduleOp_of_runOp ran isWork rfl
    refine lifetime.touches pending known (.of_same live rfl rfl rfl rfl)
      (fun _ _ => rfl) (.starting ?_ loop books client accepted ?_ ?_)
    · rw [isStarted]
      exact .returned
    · intro given isGiven
      obtain ⟨_, _, rfl⟩ := map_eq_some_iff.mp isGiven
      rfl
    · unfold ModeKept modeCount at mode ⊢
      rw [isWork] at mode
      exact mode
  | returned =>
    cases moduleOp_of_runOp ran isWork rfl

/-! ## Reporting and closing -/

inductive FinishNext (id : ReqId) (req : CoapRequest) (thread : CoapThread)
    (reported : Bool) (world after : CoapWorld) : Prop where
  | goesOn {changed : CoapRequest} (reportedAfter : Bool) (touches : Touches id changed world after)
      (datamodes : after.datamodes = world.datamodes)
      (library : after.library = world.library)
      (other : ∀ other, other ≠ thread → after.ops other = world.ops other)
      (ops : FinishOps id reportedAfter (after.ops thread))
      (others : ∀ other, other ≠ id → ledger other after.log = ledger other world.log)
      (books : ledger id world.log = ⟨1, reported.toNat, 0, 0⟩ →
        ledger id after.log = ⟨1, reportedAfter.toNat, 0, 0⟩)
      (started : changed.coapStarted = req.coapStarted)
      (payloadLen : changed.payloadLen = req.payloadLen)
  | closes (isReported : reported = true) (ops : world.ops thread = [.closeRequest id, .unlock])
      (closed : after = closeRequest id (world.setOps thread [.unlock]))

theorem ops_setOps_of_ne {other : CoapThread} (differs : other ≠ thread)
    (world : CoapWorld) (next : List CoapOp) :
    (world.setOps thread next).ops other = world.ops other := by
  cases thread <;> cases other <;> first | rfl | exact absurd rfl differs

theorem ops_request {other : CoapThread} {next : List CoapOp} :
    (((world.setOps thread next).setRequest id changed).record events).ops
      other = (world.setOps thread next).ops other := by
  cases other <;> rfl

theorem ledger_status (other : ReqId) (code : Int) (bytesSent : Nat) :
    ledger other [.status id code bytesSent] = ⟨0, if id = other then 1 else 0, 0, 0⟩ := by
  by_cases same : id = other
  · subst same
    simp [ledger, isStatusOf]
  · simp [ledger, isStatusOf, same]

theorem FinishOps.next {thread : CoapThread} {expired reported : Bool}
    (live : world.heap id = some req)
    (ops : FinishOps id reported (world.ops thread))
    (ran : runOp blockSize thread expired world = some after) :
    FinishNext id req thread reported world after := by
  generalize isOps : world.ops thread = list at ops
  cases ops with
  | failing =>
    obtain ⟨_, moved, rfl⟩ := requestOp_of_runOp ran isOps rfl live
    cases moved
    have uses : Uses id { req with statusCode := -1 } world
        (((world.setOps thread (coapFinishRequest id)).setRequest id
          { req with statusCode := -1 }).record []) := .of_silent
    refine .goesOn false uses.toTouches uses.datamodes uses.library ?_ ?_
      (fun other _ => uses.books other) ?_ rfl rfl
    · exact fun other differs =>
        ops_request.trans (ops_setOps_of_ne differs world _)
    · rw [ops_request, ops_setOps]
      exact .reporting
    · rw [uses.books]
      exact fun books => books
  | reporting =>
    obtain ⟨_, moved, rfl⟩ := requestOp_of_runOp ran isOps rfl live
    cases moved
    have isLog : (((world.setOps thread
        [.lock, .closeRequest id, .unlock]).setRequest id req).record
          [.status id req.statusCode req.bytesSent]).log =
        world.log ++ [.status id req.statusCode req.bytesSent] := by
      show (world.setOps thread _).log ++ _ = _
      rw [log_setOps]
    refine .goesOn true (.of_request _ _ _) (datamodes_setOps world thread _)
      (library_setOps world thread _) ?_ ?_ ?_ ?_ rfl rfl
    · exact fun other differs =>
        ops_request.trans (ops_setOps_of_ne differs world _)
    · rw [ops_request, ops_setOps]
      exact .locking
    · intro other differs
      rw [isLog, ledger_append_of_nothing]
      rw [ledger_status, if_neg (Ne.symm differs)]
    · intro books
      rw [isLog, ledger_append, books, ledger_status, if_pos rfl]
      rfl
  | locking =>
    obtain rfl := runOp_lock ran isOps
    refine .goesOn true (.of_same live ?_ ?_ ?_ ?_) ?_ ?_ ?_ ?_ ?_ ?_ rfl rfl
    · exact pendingReq_setOps world thread _
    · exact heap_setOps world thread _
    · exact fresh_setOps world thread _
    · exact datamodes_setOps world thread _
    · exact datamodes_setOps world thread _
    · exact library_setOps world thread _
    · intro other differs
      exact (by cases other <;> rfl :
        _ = (world.setOps thread [.closeRequest id, .unlock]).ops
          other).trans (ops_setOps_of_ne differs world _)
    · have isAfter : ({ world.setOps thread [.closeRequest id, .unlock] with
          mutex := some thread }).ops thread =
          (world.setOps thread [.closeRequest id, .unlock]).ops thread := by
        cases thread <;> rfl
      rw [isAfter, ops_setOps]
      exact .closing
    · intro other _
      show ledger other (world.setOps thread _).log = _
      rw [log_setOps]
    · show _ → ledger id (world.setOps thread _).log = _
      rw [log_setOps]
      exact fun books => books
  | closing =>
    replace ran := moduleOp_of_runOp ran isOps rfl
    simp only [moduleOp, CoapWorld.useRequest, live, some_inj] at ran
    exact .closes rfl isOps ran.symm

/-! ## The thread of the library -/

theorem ClientAway.next {expired : Bool} (client : ClientAway world.client)
    (live : world.heap id = some req)
    (ran : runOp blockSize .client expired world = some after) :
    Uses id req world after ∧ after.client = [] ∧ after.work = world.work := by
  rcases client with resting | unlocking
  · simp only [runOp, CoapWorld.ops, resting] at ran
    cases ran
  · cases moduleOp_of_runOp ran unlocking rfl
    exact ⟨.of_same live rfl rfl rfl rfl rfl rfl, rfl, rfl⟩

theorem PayloadOps.next {expired : Bool} (live : world.heap id = some req)
    (ops : PayloadOps id world.client)
    (ran : runOp blockSize .client expired world = some after) :
    (∃ changed, Uses id changed world after ∧
      changed.coapStarted = req.coapStarted ∧
      changed.payloadLen = req.payloadLen ∧ PayloadOps id after.client ∧
      after.work = world.work) ∨
    ∃ block, after = { world.setOps .client [] with
      library := { world.library with
        handed := Option.map (fun block => (id, block)) block } } := by
  generalize isClient : world.client = client at ops
  cases ops with
  | called =>
    left
    obtain ⟨_, moved, rfl⟩ := requestOp_of_runOp ran isClient rfl live
    simp only [requestOp] at moved
    split at moved
    · cases moved
      exact ⟨_, .of_silent, rfl, rfl, .returning _, rfl⟩
    · cases moved
      exact ⟨_, .of_silent, rfl, rfl, .waiting, rfl⟩
  | waiting =>
    left
    obtain ⟨_, moved, rfl⟩ := requestOp_of_runOp ran isClient rfl live
    simp only [requestOp] at moved
    split at moved
    · cases moved
      exact ⟨_, .of_silent, rfl, rfl, .taking, rfl⟩
    · split at moved
      · cases moved
        exact ⟨_, .of_silent, rfl, rfl, .returning none, rfl⟩
      · cases moved
  | taking =>
    left
    obtain ⟨_, moved, rfl⟩ := requestOp_of_runOp ran isClient rfl live
    simp only [requestOp] at moved
    split at moved
    · cases moved
      exact ⟨_, .of_silent, rfl, rfl, .returning none, rfl⟩
    · cases moved
      refine ⟨_, .of_silent, rfl, rfl, ?_, rfl⟩
      rw [CoapWorld.record, CoapWorld.setRequest, client_setOps_client]
      split
      · exact .returning _
      · exact .giving _
  | giving block =>
    left
    obtain ⟨_, moved, rfl⟩ := requestOp_of_runOp ran isClient rfl live
    cases moved
    exact ⟨_, .of_silent, rfl, rfl, .returning block, rfl⟩
  | returning block =>
    right
    replace ran := moduleOp_of_runOp ran isClient rfl
    simp only [moduleOp, some_inj] at ran
    exact ⟨block, ran.symm⟩

theorem CallbackOps.next {expired last : Bool}
    (live : world.heap id = some req) (ops : CallbackOps id last world.client)
    (kept : LibraryKept blockSize world (.run .client expired))
    (ran : runOp blockSize .client expired world = some after) :
    ∃ changed, Uses id changed world after ∧
      changed.coapStarted = req.coapStarted ∧
      changed.payloadLen = req.payloadLen ∧ after.work = world.work ∧
      (CallbackOps id last after.client ∨ (last = false ∧ after.client = []) ∨
        (last = true ∧ FinishOps id false after.client)) := by
  have one (event : CoapEvent) (quiet : event.isNeutral = true) :
      ∀ other ∈ [event], other.isNeutral = true := forall_mem_singleton.mpr quiet
  have failing : ∀ list, list = coapFailRequest id → last = true →
      CallbackOps id last list ∨ (last = false ∧ list = []) ∨
        (last = true ∧ FinishOps id false list) := by
    rintro _ rfl isLast
    exact .inr (.inr ⟨isLast, .failing⟩)
  generalize isClient : world.client = client at ops
  cases ops with
  | called data final =>
    rw [runOp_request (by exact isClient) rfl live] at ran
    cases data with
    | failed =>
      simp only [requestOp, map_some, some_inj] at ran
      subst ran
      exact ⟨_, .of_silent, rfl, rfl, rfl, failing _ rfl final.symm⟩
    | block code payload lastBlock =>
      have final : lastBlock = last := final
      subst final
      simp only [requestOp] at ran
      split at ran
      · rw [map_some, some_inj] at ran
        subst ran
        exact ⟨_, .of_silent, rfl, rfl, rfl, .inl .ending⟩
      · split at ran
        · rename_i manual
          split at ran
          · rename_i tooLong
            rw [map_some, some_inj] at ran
            subst ran
            refine ⟨_, .of_silent, rfl, rfl, rfl, failing _ rfl ?_⟩
            cases lastBlock with
            | true => rfl
            | false =>
              have fits := (kept expired id rfl).2 code payload req isClient live manual
              exact absurd tooLong (Nat.not_lt.mpr fits)
          · rw [map_some, some_inj] at ran
            subst ran
            exact ⟨_, .of_silent, rfl, rfl, rfl, .inl (.storing payload code _)⟩
        · rw [map_some, some_inj] at ran
          subst ran
          exact ⟨_, .of_silent, rfl, rfl, rfl, .inl (.delivering payload)⟩
  | storing payload code length =>
    obtain rfl := runOp_lock ran isClient
    exact ⟨req, .of_same live rfl rfl rfl rfl rfl rfl, rfl, rfl, rfl,
      .inl (.storingLocked payload code length)⟩
  | storingLocked payload code length =>
    obtain ⟨_, moved, rfl⟩ := requestOp_of_runOp ran isClient rfl live
    cases moved
    exact ⟨_, .of_request (one _ rfl), rfl, rfl, rfl, .inl (.stored code length)⟩
  | stored code length =>
    cases moduleOp_of_runOp ran isClient rfl
    exact ⟨req, .of_same live rfl rfl rfl rfl rfl rfl, rfl, rfl, rfl, .inl (.notifying code length)⟩
  | notifying code length =>
    obtain ⟨_, moved, rfl⟩ := requestOp_of_runOp ran isClient rfl live
    cases moved
    exact ⟨_, .of_request (one _ rfl), rfl, rfl, rfl, .inl .waiting⟩
  | waiting =>
    obtain ⟨_, moved, rfl⟩ := requestOp_of_runOp ran isClient rfl live
    simp only [requestOp] at moved
    split at moved
    · cases moved
      exact ⟨_, .of_request (one _ rfl), rfl, rfl, rfl, .inl .ending⟩
    · split at moved
      · rename_i isExpired
        cases moved
        refine ⟨_, .of_silent, rfl, rfl, rfl, failing _ rfl ?_⟩
        cases last with
        | true => rfl
        | false =>
          rw [(kept expired id rfl).1 isClient] at isExpired
          cases isExpired
      · cases moved
  | delivering payload =>
    obtain ⟨_, moved, rfl⟩ := requestOp_of_runOp ran isClient rfl live
    cases moved
    exact ⟨_, .of_request (one _ rfl), rfl, rfl, rfl, .inl .ending⟩
  | ending =>
    obtain ⟨_, moved, rfl⟩ := requestOp_of_runOp ran isClient rfl live
    cases moved
    refine ⟨_, .of_silent, rfl, rfl, rfl, Or.inr ?_⟩
    cases last with
    | false => exact .inl ⟨rfl, rfl⟩
    | true => exact .inr ⟨rfl, .reporting⟩

/-! ## The steps of the threads -/

theorem ModeKept.same (mode : ModeKept id large world)
    (datamodes : after.datamodes = world.datamodes)
    (work : after.work = world.work) : ModeKept id large after := by
  unfold ModeKept
  rw [modeCount_of_same datamodes (by rw [work])]
  exact mode

theorem LoopNext.started (next : LoopNext blockSize id req world after)
    (started : req.coapStarted = true)
    (mode : ModeKept id (blockSize < req.payloadLen) world) :
    ∃ changed, Uses id changed world after ∧ after.client = world.client ∧
      changed.coapStarted = true ∧
      LoopWork id (blockSize < changed.payloadLen) after.work ∧
      ModeKept id (blockSize < changed.payloadLen) after := by
  cases next with
  | goesOn uses client sameStarted loop count =>
    refine ⟨_, uses, client, sameStarted.trans started, loop, ?_⟩
    rcases count with ⟨_, ended⟩ | ⟨payloadLen, same⟩
    · exact .inl ended
    · unfold ModeKept
      rw [same, payloadLen]
      exact mode
  | starts _ _ notStarted | fails _ _ notStarted =>
    rw [started] at notStarted
    cases notStarted

theorem ModeKept.le_one (mode : ModeKept id large world) : modeCount id world ≤ 1 := by
  rcases mode with zero | ⟨one, _⟩
  · omega
  · omega

theorem ModeKept.large_of_pos (mode : ModeKept id large world)
    (some_mode : 0 < modeCount id world) : large := by
  rcases mode with zero | ⟨_, isLarge⟩
  · omega
  · exact isLarge

theorem Lifetime.free_work (lifetime : Lifetime blockSize world)
    (nonePending : world.pendingReq = none)
    (work : ∀ op, op ∈ world.work → op.request = none) (away : Away world)
    (ran : runOp blockSize .work expired world = some after) :
    Lifetime blockSize after := by
  have same : ∀ mode, mode ∈ world.datamodes →
      ∃ before, before ∈ world.datamodes ∧ before.1 = mode.1 :=
    fun mode member => ⟨mode, member, rfl⟩
  cases isWork : world.work with
  | nil =>
    simp only [runOp, CoapWorld.ops, isWork] at ran
    cases ran
  | cons op rest =>
    have noRequest : op.request = none := work op (by
      rw [isWork]
      exact mem_cons_self ..)
    have goesOn : ∀ next, next ∈ rest → next.request = none := by
      intro next member
      refine work next ?_
      rw [isWork]
      exact mem_cons_of_mem _ member
    have unlocks : ∀ next ∈ [CoapOp.unlock], next.request = none :=
      forall_mem_singleton.mpr rfl
    cases op with
    | lock =>
      obtain rfl := runOp_lock ran isWork
      exact lifetime.idles nonePending nonePending rfl rfl same
        (fun _ => rfl) goesOn (away.same rfl rfl)
    | unlock | checkOwner handle =>
      cases moduleOp_of_runOp ran isWork rfl
      exact lifetime.idles nonePending nonePending rfl rfl same
        (fun _ => rfl) goesOn (away.same rfl rfl)
    | datamodeSend data | datamodeExit =>
      replace ran := moduleOp_of_runOp ran isWork rfl
      simp only [moduleOp, nonePending, some_inj] at ran
      subst ran
      exact lifetime.idles nonePending nonePending rfl rfl same
        (fun _ => rfl) goesOn (away.same rfl rfl)
    | pullData handle length =>
      replace ran := moduleOp_of_runOp ran isWork rfl
      simp only [moduleOp, nonePending, some_inj] at ran
      subst ran
      exact lifetime.idles nonePending nonePending rfl rfl same
        (fun _ => rfl) unlocks (away.same rfl rfl)
    | allocRequest command =>
      replace ran := moduleOp_of_runOp ran isWork rfl
      simp only [moduleOp, nonePending, true_and] at ran
      split at ran
      · rw [some_inj] at ran
        subst ran
        have new := lifetime.unused world.fresh (Nat.le_refl _)
        refine ⟨?_, ?_, ?_⟩
        · intro other isFresh
          have isFresh : world.fresh + 1 ≤ other := isFresh
          have unused := lifetime.unused other (Nat.le_of_succ_le isFresh)
          have differs : other ≠ world.fresh := Nat.ne_of_gt isFresh
          refine ⟨?_, unused.books, unused.noMode⟩
          exact (update_of_ne differs _ _).trans unused.dead
        · intro other isKnown notPending
          have differs : other ≠ world.fresh :=
            fun same => notPending (congrArg some same.symm)
          have before : other < world.fresh :=
            Nat.lt_of_le_of_ne (Nat.lt_succ_iff.mp isKnown) differs
          have gone := lifetime.gone other before (by simp [nonePending])
          refine ⟨?_, gone.books⟩
          exact (update_of_ne differs _ _).trans gone.dead
        · refine .held rfl (update_self ..) (Nat.lt_succ_self world.fresh) (.preparing ?_ new.books
              (away.same rfl rfl) rfl new.noMode)
          exact .allocated command
      · rw [some_inj] at ran
        subst ran
        exact lifetime.idles nonePending nonePending rfl rfl same
          (fun _ => rfl) unlocks (away.same rfl rfl)
    | _ => cases noRequest

theorem Lifetime.work_run (lifetime : Lifetime blockSize world)
    (ran : runOp blockSize .work expired world = some after) :
    Lifetime blockSize after := by
  cases lifetime.phase with
  | free nonePending work away =>
    exact lifetime.free_work nonePending work away ran
  | held pending live known holder =>
    rename_i id req
    cases holder with
    | preparing ops books away notStarted noMode =>
      exact lifetime.prepares pending live known ops books away notStarted noMode ran
    | datamode loop books away notStarted mode =>
      have next := loop.next pending live (Nat.le_of_eq mode) (by
        intro started
        rw [notStarted] at started
        cases started) ran
      cases next with
      | goesOn uses client sameStarted loop count =>
        refine lifetime.uses pending known uses (.datamode loop
          ((uses.books id).trans books) (away.same client uses.library)
          (sameStarted.trans notStarted) ?_)
        rcases count with ⟨started, _⟩ | ⟨_, same⟩
        · rw [notStarted] at started
          cases started
        · exact same.trans mode
      | starts uses client _ started ops loop mode =>
        rw [← started] at ops
        have isAway := away.same client uses.library
        refine lifetime.uses pending known uses (.starting ops loop
          ((uses.books id).trans books) isAway.client isAway.accepted ?_ mode)
        intro given isGiven
        rw [isAway.handed] at isGiven
        cases isGiven
      | fails uses client _ ops =>
        have fails : FinishOps id false after.work := by
          rw [ops]
          exact .failing
        exact lifetime.uses pending known uses (.failing fails
          ((uses.books id).trans books) (away.same client uses.library))
    | starting ops loop books client accepted handed mode =>
      exact lifetime.starts pending live known ops loop books client accepted handed mode ran
    | failing ops books away =>
      cases FinishOps.next live (by exact ops) ran with
      | goesOn reportedAfter touches _ library other ops others booked =>
        have client : after.client = world.client :=
          other .client (by simp)
        exact lifetime.touches pending known touches others
          (.failing ops (booked books) (away.same client library))
      | closes isReported isOps closed =>
        subst isReported
        subst closed
        exact lifetime.closes pending known (.inl books)
          (forall_mem_singleton.mpr rfl) away.client away.accepted away.handed
    | library loop books started accepted handed client mode =>
      obtain ⟨changed, uses, sameClient, started, loop, mode⟩ :=
        (loop.next pending live mode.le_one (fun _ => mode.large_of_pos) ran).started started mode
      refine lifetime.uses pending known uses (.library loop
        ((uses.books id).trans books) started (uses.accepted.trans accepted)
        (handed.same uses.library) ?_ mode)
      rw [sameClient, uses.library]
      exact client
    | finishing reported loop books started accepted handed client mode =>
      obtain ⟨changed, uses, sameClient, started, loop, mode⟩ :=
        (loop.next pending live mode.le_one (fun _ => mode.large_of_pos) ran).started started mode
      refine lifetime.uses pending known uses (.finishing reported loop
        ((uses.books id).trans books) started (uses.accepted.trans accepted)
        ?_ ?_ mode)
      · rw [uses.library]
        exact handed
      · rw [sameClient]
        exact client

theorem Holder.client_unlocked (holder : Holder blockSize id req world)
    (uses : Uses id req world after) (resting : after.client = [])
    (work : after.work = world.work)
    (client : ClientAway world.client) : Holder blockSize id req after := by
  have isAway : ClientAway after.client := .inl resting
  have staysAway (away : Away world) : Away after := by
    refine ⟨isAway, uses.accepted.trans away.accepted, ?_⟩
    rw [uses.library]
    exact away.handed
  have keepsBooks : ∀ {books : Ledger}, ledger id world.log = books →
      ledger id after.log = books := fun isBooks => (uses.books id).trans isBooks
  cases holder with
  | preparing ops books away notStarted noMode =>
    refine .preparing ?_ (keepsBooks books) (staysAway away) notStarted ?_
    · rw [work]
      exact ops
    · rw [uses.datamodes]
      exact noMode
  | datamode loop books away notStarted mode =>
    refine .datamode ?_ (keepsBooks books) (staysAway away) notStarted ?_
    · rw [work]
      exact loop
    · rw [modeCount_of_same uses.datamodes (by rw [work])]
      exact mode
  | starting ops loop books _ accepted handed mode =>
    refine .starting ?_ loop (keepsBooks books) isAway (uses.accepted.trans accepted)
      (handed.same uses.library) (mode.same uses.datamodes work)
    rw [work]
    exact ops
  | failing ops books away =>
    refine .failing ?_ (keepsBooks books) (staysAway away)
    rw [work]
    exact ops
  | library loop books started accepted handed _ mode =>
    refine .library ?_ (keepsBooks books) started (uses.accepted.trans accepted)
      (handed.same uses.library) (.inl isAway) (mode.same uses.datamodes work)
    rw [work]
    exact loop
  | finishing reported loop books started accepted handed isClient mode =>
    rcases isClient with ⟨_, isClient⟩ | isClient
    · rcases client with none | unlocking
      · rw [none] at isClient
        cases isClient
      · rw [unlocking] at isClient
        cases isClient
    · rcases client with none | unlocking
      · rw [none] at isClient
        cases isClient
      · rw [unlocking] at isClient
        cases isClient

theorem Lifetime.client_run (lifetime : Lifetime blockSize world)
    (allowed : LifetimeStep blockSize world (.run .client expired))
    (ran : runOp blockSize .client expired world = some after) :
    Lifetime blockSize after := by
  cases lifetime.phase with
  | free nonePending work away =>
    rcases away.client with resting | unlocking
    · simp only [runOp, CoapWorld.ops, resting] at ran
      cases ran
    · cases moduleOp_of_runOp ran unlocking rfl
      exact lifetime.idles nonePending nonePending rfl rfl
        (fun mode member => ⟨mode, member, rfl⟩) (fun _ => rfl) work
        ⟨.inl rfl, away.accepted, away.handed⟩
  | held pending live known holder =>
    rename_i id req
    have unlocks : ClientAway world.client → Lifetime blockSize after := by
      intro client
      obtain ⟨uses, resting, work⟩ := client.next live ran
      exact lifetime.uses pending known uses (holder.client_unlocked uses resting work client)
    cases holder with
    | preparing _ _ away | datamode _ _ away => exact unlocks away.client
    | starting _ _ _ client => exact unlocks client
    | failing _ _ away => exact unlocks away.client
    | library loop books started accepted handed client mode =>
      rcases client with client | client | ⟨client, notHanded⟩
      · exact unlocks client
      · rcases client.next live ran with ⟨changed, uses, sameStarted,
          payloadLen, payloadOps, work⟩ | ⟨block, rfl⟩
        · refine lifetime.uses pending known uses (.library ?_
            ((uses.books id).trans books) (sameStarted.trans started)
            (uses.accepted.trans accepted) (handed.same uses.library)
            (.inr (.inl payloadOps)) ?_)
          · rw [work, payloadLen]
            exact loop
          · rw [payloadLen]
            exact mode.same uses.datamodes work
        · refine lifetime.touches pending known (.of_same live rfl rfl rfl rfl) (fun _ _ => rfl)
            (.library loop books started accepted ?_ (.inl (.inl rfl)) (mode.same rfl rfl))
          intro given isGiven
          obtain ⟨_, _, rfl⟩ := map_eq_some_iff.mp isGiven
          rfl
      · obtain ⟨changed, uses, sameStarted, payloadLen, work, isNext⟩ :=
          client.next live allowed.kept ran
        refine lifetime.uses pending known uses (.library ?_
          ((uses.books id).trans books) (sameStarted.trans started)
          (uses.accepted.trans accepted) (handed.same uses.library) ?_ ?_)
        · rw [work, payloadLen]
          exact loop
        · rw [uses.library]
          rcases isNext with goesOn | ⟨_, ended⟩ | ⟨isLast, _⟩
          · exact .inr (.inr ⟨goesOn, notHanded⟩)
          · exact .inl (.inl ended)
          · cases isLast
        · rw [payloadLen]
          exact mode.same uses.datamodes work
    | finishing reported loop books started accepted handed client mode =>
      rcases client with ⟨notReported, client⟩ | client
      · obtain ⟨changed, uses, sameStarted, payloadLen, work, isNext⟩ :=
          client.next live allowed.kept ran
        refine lifetime.uses pending known uses (.finishing reported ?_
          ((uses.books id).trans books) (sameStarted.trans started)
          (uses.accepted.trans accepted) ?_ ?_ ?_)
        · rw [work, payloadLen]
          exact loop
        · rw [uses.library]
          exact handed
        · rw [notReported]
          rcases isNext with goesOn | ⟨notLast, _⟩ | ⟨_, finishes⟩
          · exact .inl ⟨rfl, goesOn⟩
          · cases notLast
          · exact .inr finishes
        · rw [payloadLen]
          exact mode.same uses.datamodes work
      · cases FinishOps.next live (by exact client) ran with
        | goesOn reportedAfter touches datamodes library other ops others
            booked sameStarted payloadLen =>
            have work : after.work = world.work := other .work (by simp)
            refine lifetime.touches pending known touches others
              (.finishing reportedAfter ?_ (booked books)
                (sameStarted.trans started) ?_ ?_ (.inr ops) ?_)
            · rw [work, payloadLen]
              exact loop
            · rw [library]
              exact accepted
            · rw [library]
              exact handed
            · rw [payloadLen]
              exact mode.same datamodes work
        | closes isReported isOps closed =>
          subst isReported
          subst closed
          refine lifetime.closes pending known (.inl books) ?_ (.inr rfl) accepted handed
          intro op member
          have notOwn := allowed.closes expired id [.unlock] rfl isOps op member
          exact (loop.request op member).resolve_right notOwn

/-! ## Commands, data mode and the library -/

/-- The work queue begins something that does not decide about a request. -/
theorem Lifetime.begins (lifetime : Lifetime blockSize world) (resting : world.work = [])
    (pending : after.pendingReq = world.pendingReq)
    (heap : after.heap = world.heap) (fresh : after.fresh = world.fresh)
    (client : after.client = world.client)
    (library : after.library = world.library)
    (books : ∀ other, ledger other after.log = ledger other world.log)
    (modes : ∀ mode, mode ∈ after.datamodes →
      ∃ before, before ∈ world.datamodes ∧ before.1 = mode.1)
    (free : ∀ op, op ∈ after.work → op.request = none)
    (loop : ∀ id large, LoopWork id large after.work)
    (count : ∀ id, world.pendingReq = some id → modeCount id after = modeCount id world) :
    Lifetime blockSize after := by
  cases lifetime.phase with
  | free nonePending work away =>
    exact lifetime.idles nonePending (pending.trans nonePending) heap fresh
      modes books free (away.same client library)
  | held isPending live known holder =>
    rename_i id req
    have keepsMode : ∀ {large : Prop}, ModeKept id large world → ModeKept id large after := by
      intro large mode
      unfold ModeKept
      rw [count id isPending]
      exact mode
    have touches : Touches id req world after := by
      refine ⟨pending, ?_, fresh, ?_⟩
      · rw [heap, ← live, update_eq_self]
      · exact fun mode member => .inr (modes mode member)
    refine lifetime.touches isPending known touches (fun other _ => books other) ?_
    cases holder with
    | preparing ops =>
      rw [resting] at ops
      cases ops
    | datamode _ isBooks away notStarted mode =>
      refine .datamode (loop id _) ((books id).trans isBooks)
        (away.same client library) notStarted ?_
      rw [count id isPending]
      exact mode
    | starting ops =>
      rw [resting] at ops
      generalize req.coapStarted = started at ops
      cases ops
    | failing ops =>
      rw [resting] at ops
      cases ops
    | library _ isBooks started accepted handed isClient mode =>
      refine .library (loop id _) ((books id).trans isBooks) started ?_
        (handed.same library) ?_ (keepsMode mode)
      · rw [library]
        exact accepted
      · rw [client, library]
        exact isClient
    | finishing reported _ isBooks started accepted handed isClient mode =>
      refine .finishing reported (loop id _) ((books id).trans isBooks)
        started ?_ ?_ ?_ (keepsMode mode)
      · rw [library]
        exact accepted
      · rw [library]
        exact handed
      · rw [client]
        exact isClient

theorem Lifetime.begins_command (lifetime : Lifetime blockSize world)
    (resting : world.work = []) {ops : List CoapOp}
    (loop : ∀ id large op, op ∈ ops → LoopOp id large op)
    (free : ∀ op, op ∈ ops → op.request = none) :
    Lifetime blockSize { world with work := ops } := by
  refine lifetime.begins resting rfl rfl rfl rfl rfl (fun _ => rfl)
    (fun mode member => ⟨mode, member, rfl⟩) free
    (fun id large => .inl (loop id large)) ?_
  intro id _
  refine modeCount_of_same rfl ?_
  rw [resting, countP_exit_of_loop (loop id True)]
  rfl

theorem Lifetime.datamode_send (lifetime : Lifetime blockSize world)
    {index : Nat} {data : List Byte}
    (stepped : coapStep blockSize (.datamodeSend index data) world =
      some after) : Lifetime blockSize after := by
  simp only [coapStep, bind_eq_some_iff, ite_none_right_eq_some, some_inj] at stepped
  obtain ⟨mode, found, ⟨resting, _⟩, rfl⟩ := stepped
  have quiet : ∀ event ∈ [CoapEvent.received mode.1 data], event.isNeutral = true :=
    forall_mem_singleton.mpr rfl
  refine lifetime.begins resting rfl rfl rfl rfl rfl ?_ ?_ ?_ ?_ ?_
  · exact fun other => ledger_append_of_nothing (ledger_of_quiet quiet other)
  · intro other member
    rcases mem_or_eq_of_mem_set member with before | rfl
    · exact ⟨other, before, rfl⟩
    · exact ⟨mode, mem_of_getElem? found, rfl⟩
  · exact forall_mem_singleton.mpr rfl
  · exact fun id large => .inl (forall_mem_singleton.mpr (.datamodeSend data))
  · intro id _
    obtain ⟨within, isMode⟩ := List.getElem?_eq_some_iff.mp found
    have sameIds : (world.datamodes.set index (mode.1, mode.2 - data.length)).map Prod.fst =
        world.datamodes.map Prod.fst := by
      rw [map_set, ← isMode]
      refine ext_getElem (by simp) ?_
      intro position _ _
      rw [getElem_set]
      split
      · rename_i same
        subst same
        simp
      · rfl
    have sameCount := congrArg (List.countP fun other => other = id) sameIds
    rw [countP_map, countP_map] at sameCount
    show (world.datamodes.set index _).countP _ + 0 = world.datamodes.countP _ + world.work.countP _
    rw [resting]
    exact sameCount

theorem Lifetime.datamode_exit (lifetime : Lifetime blockSize world) {index : Nat}
    (own : OwnDatamode world (.datamodeExit index))
    (stepped : coapStep blockSize (.datamodeExit index) world = some after) :
    Lifetime blockSize after := by
  simp only [coapStep, bind_eq_some_iff, ite_none_right_eq_some, some_inj] at stepped
  obtain ⟨mode, found, resting, rfl⟩ := stepped
  refine lifetime.begins resting rfl rfl rfl rfl rfl (fun _ => rfl) ?_ ?_ ?_ ?_
  · exact fun other member => ⟨other, mem_of_mem_eraseIdx member, rfl⟩
  · exact forall_mem_singleton.mpr rfl
  · exact fun id large => .inr (.inl rfl)
  · intro id pending
    obtain ⟨within, isMode⟩ := List.getElem?_eq_some_iff.mp found
    have isOwn : mode.1 = id := by
      rcases own index mode (.inl rfl) found with none | isPending
      · rw [pending] at none
        cases none
      · rw [pending] at isPending
        exact (some_inj.mp isPending).symm
    have split := (getElem_cons_eraseIdx_perm within).countP_eq (fun mode => decide (mode.1 = id))
    rw [countP_cons, isMode, isOwn, decide_eq_true rfl, if_pos rfl] at split
    show (world.datamodes.eraseIdx index).countP _ + 1 =
      world.datamodes.countP _ + world.work.countP _
    rw [resting]
    exact split

theorem Lifetime.of_known (lifetime : Lifetime blockSize world)
    (isKnown : world.library.accepted = some id) :
    ∃ req, world.pendingReq = some id ∧ world.heap id = some req ∧
      id < world.fresh ∧ req.coapStarted = true ∧
      ledger id world.log = ⟨1, 0, 0, 0⟩ ∧
      LoopWork id (blockSize < req.payloadLen) world.work ∧
      ModeKept id (blockSize < req.payloadLen) world := by
  have unknown : ∀ {goal : Prop}, world.library.accepted = none → goal := by
    intro goal notAccepted
    rw [isKnown] at notAccepted
    cases notAccepted
  cases lifetime.phase with
  | free _ _ away => exact unknown away.accepted
  | held pending live known holder =>
    cases holder with
    | preparing _ _ away | datamode _ _ away => exact unknown away.accepted
    | starting _ _ _ _ accepted => exact unknown accepted
    | failing _ _ away => exact unknown away.accepted
    | library loop books started accepted _ _ mode =>
      rw [isKnown, some_inj] at accepted
      subst accepted
      exact ⟨_, pending, live, known, started, books, loop, mode⟩
    | finishing _ _ _ _ accepted => exact unknown accepted

theorem Lifetime.payload_call (lifetime : Lifetime blockSize world)
    (stepped : coapStep blockSize .payloadCall world = some after) :
    Lifetime blockSize after := by
  simp only [coapStep, bind_eq_some_iff, ite_none_right_eq_some, some_inj] at stepped
  obtain ⟨id, isKnown, ⟨resting, _, notHanded⟩, rfl⟩ := stepped
  obtain ⟨req, pending, live, known, started, books, loop, mode⟩ :=
    lifetime.of_known isKnown
  refine lifetime.uses pending known (.of_same live rfl rfl rfl rfl rfl rfl)
    (.library loop books started isKnown ?_ (.inr (.inl .called)) (mode.same rfl rfl))
  intro handed isHanded
  have isHanded : world.library.handed = some handed := isHanded
  rw [notHanded] at isHanded
  cases isHanded

theorem Lifetime.response (lifetime : Lifetime blockSize world) {data : CoapResponse}
    (stepped : coapStep blockSize (.response data) world = some after) :
    Lifetime blockSize after := by
  simp only [coapStep, bind_eq_some_iff, ite_none_right_eq_some, some_inj] at stepped
  obtain ⟨id, isKnown, ⟨resting, notHanded⟩, rfl⟩ := stepped
  obtain ⟨req, pending, live, known, started, books, loop, mode⟩ :=
    lifetime.of_known isKnown
  refine lifetime.touches pending known (.of_same live rfl rfl rfl rfl) (fun _ _ => rfl) ?_
  rcases Bool.eq_false_or_eq_true data.final with final | goesOn
  · refine .finishing false loop books started ?_ ?_
      (.inl ⟨rfl, .called data final⟩) (mode.same rfl rfl)
    · rw [if_pos final]
    · rw [if_pos final]
  · have sameLibrary : (if data.final then (⟨none, false, none⟩ : CoapClient)
        else world.library) = world.library := by
      rw [goesOn]
      rfl
    refine .library loop books started ?_ ?_
      (.inr (.inr ⟨.called data goesOn, ?_⟩)) (mode.same rfl rfl)
    · show CoapClient.accepted _ = _
      rw [sameLibrary]
      exact isKnown
    · intro handed isHanded
      have isHanded : CoapClient.handed _ = some handed := isHanded
      rw [sameLibrary, notHanded] at isHanded
      cases isHanded
    · show CoapClient.handed _ = _
      rw [sameLibrary]
      exact notHanded

theorem Lifetime.copy_block (lifetime : Lifetime blockSize world)
    (stepped : coapStep blockSize .copyBlock world = some after) :
    Lifetime blockSize after := by
  simp only [coapStep, copyBlock, bind_eq_some_iff] at stepped
  obtain ⟨handed, isHanded, copied⟩ := stepped
  have absent : ∀ {goal : Prop}, world.library.handed = none → goal := by
    intro goal notHanded
    rw [isHanded] at notHanded
    cases notHanded
  cases lifetime.phase with
  | free _ _ away => exact absent away.handed
  | held pending live known holder =>
    rename_i id req
    have copies : HandedOwn id world → after =
        { world with
          library := { world.library with handed := none }
          log := world.log ++ [.copied id
            (bytesOf req.staging handed.2.1) handed.2.2] } := by
      intro isOwn
      have own := isOwn handed isHanded
      rw [own] at copied
      simp only [live, some_inj] at copied
      exact copied.symm
    have others : ∀ other, ledger other (world.log ++ [.copied id
        (bytesOf req.staging handed.2.1) handed.2.2]) = ledger other world.log := by
      intro other
      exact ledger_append_of_nothing (ledger_of_quiet (forall_mem_singleton.mpr rfl) other)
    cases holder with
    | preparing _ _ away | datamode _ _ away | failing _ _ away => exact absent away.handed
    | finishing _ _ _ _ _ notHanded => exact absent notHanded
    | starting ops loop books client accepted isOwn mode =>
      rw [copies isOwn]
      refine lifetime.touches pending known (.of_same live rfl rfl rfl rfl)
        (fun other _ => others other) (.starting ops loop
          ((others id).trans books) client accepted ?_ (mode.same rfl rfl))
      intro given isGiven
      cases isGiven
    | library loop books started accepted isOwn client mode =>
      rw [copies isOwn]
      refine lifetime.touches pending known (.of_same live rfl rfl rfl rfl)
        (fun other _ => others other) (.library loop
          ((others id).trans books) started accepted ?_ ?_
          (mode.same rfl rfl))
      · intro given isGiven
        cases isGiven
      · rcases client with client | client | ⟨_, notHanded⟩
        · exact .inl client
        · exact .inr (.inl client)
        · exact absent notHanded

theorem Lifetime.req_return (lifetime : Lifetime blockSize world) {success : Bool}
    (stepped : coapStep blockSize (.clientReqReturn success) world =
      some after) : Lifetime blockSize after := by
  obtain ⟨other, later, ops, returned⟩ : ∃ other later,
      world.work = .clientReqReturn other :: later ∧
        clientReqReturn blockSize success other later world = some after := by
    simp only [coapStep] at stepped
    split at stepped
    · exact ⟨_, _, ‹_›, stepped⟩
    · cases stepped
  have inWork : CoapOp.clientReqReturn other ∈ world.work := by
    rw [ops]
    exact mem_cons_self ..
  have notLooping : ∀ {goal : Prop} {id : ReqId} {large : Prop},
      LoopWork id large world.work → goal := by
    intro goal id large loop
    rcases loop with loop | isExit | isExit
    · cases loop _ inWork
    · rw [isExit] at ops
      cases ops
    · rw [isExit] at ops
      cases ops
  cases lifetime.phase with
  | free _ work => cases work _ inWork
  | held pending live known holder =>
    rename_i id req
    cases holder with
    | preparing isOps =>
      rw [ops] at isOps
      cases isOps
    | datamode loop => exact notLooping loop
    | failing isOps =>
      rw [ops] at isOps
      generalize isLater : later = rest at isOps
      cases isOps
    | library loop | finishing _ loop => exact notLooping loop
    | starting isOps loop books client accepted isOwn mode =>
      rw [ops] at isOps
      generalize isStarted : req.coapStarted = started at isOps
      cases isOps with
      | returned =>
        simp only [clientReqReturn, CoapWorld.useRequest, live, some_inj] at returned
        cases success with
        | true =>
          rw [if_pos rfl] at returned
          subst returned
          refine lifetime.touches pending known (.of_same live rfl rfl rfl rfl) (fun _ _ => rfl)
            (.library (.inl loop) books isStarted rfl isOwn (.inl client) ?_)
          unfold ModeKept modeCount at mode ⊢
          rw [ops] at mode
          exact mode
        | false =>
          rw [if_neg Bool.false_ne_true] at returned
          subst returned
          exact lifetime.touches pending known (.of_same live rfl rfl rfl rfl) (fun _ _ => rfl)
            (.failing .failing books ⟨client, accepted, rfl⟩)

theorem Lifetime.next (lifetime : Lifetime blockSize world)
    {action : CoapAction} (allowed : LifetimeStep blockSize world action)
    (stepped : coapStep blockSize action world = some after) :
    Lifetime blockSize after := by
  cases action with
  | request _ | cancel _ | pull _ _ =>
    simp only [coapStep, ite_none_right_eq_some, some_inj] at stepped
    obtain ⟨resting, rfl⟩ := stepped
    refine lifetime.begins_command resting ?_ (by simp [CoapOp.request])
    intro id large
    simp only [forall_mem_cons]
    and_intros
    all_goals first | constructor | exact forall_mem_nil _
  | datamodeSend index data => exact lifetime.datamode_send stepped
  | datamodeExit index => exact lifetime.datamode_exit allowed.own stepped
  | payloadCall => exact lifetime.payload_call stepped
  | copyBlock => exact lifetime.copy_block stepped
  | response data => exact lifetime.response stepped
  | clientReqReturn success => exact lifetime.req_return stepped
  | run thread expired =>
    cases thread with
    | work => exact lifetime.work_run stepped
    | client => exact lifetime.client_run allowed stepped

theorem Lifetime.initially (blockSize : Nat) : Lifetime blockSize CoapWorld.initial := by
  refine ⟨?_, ?_, .free rfl ?_ ⟨.inl rfl, rfl, rfl⟩⟩
  · intro id _
    exact ⟨rfl, rfl, fun mode member => absurd member not_mem_nil⟩
  · exact fun id isKnown => absurd isKnown (Nat.not_lt_zero id)
  · exact fun op member => absurd member not_mem_nil

theorem Lifetime.books_of (lifetime : Lifetime blockSize world) (id : ReqId) :
    (ledger id world.log).misused = 0 ∧ (ledger id world.log).closed ≤ 1 ∧
      (ledger id world.log).reported ≤ 1 := by
  have reports : ∀ reported : Bool, reported.toNat ≤ 1 := Bool.toNat_le
  have held : ∀ {req}, Holder blockSize id req world →
      (ledger id world.log).misused = 0 ∧ (ledger id world.log).closed ≤ 1 ∧
        (ledger id world.log).reported ≤ 1 := by
    intro req holder
    cases holder with
    | preparing _ books | datamode _ books | starting _ _ books
    | library _ books =>
      rw [books]
      decide
    | failing _ books | finishing reported _ books =>
      rw [books]
      exact ⟨rfl, Nat.zero_le _, reports _⟩
  by_cases isKnown : id < world.fresh
  · by_cases pending : world.pendingReq = some id
    · cases lifetime.phase with
      | free nonePending =>
        rw [pending] at nonePending
        cases nonePending
      | held isPending _ _ holder =>
        rw [pending, some_inj] at isPending
        subst isPending
        exact held holder
    · rcases (lifetime.gone id isKnown pending).books with books | books <;> (rw [books]; decide)
  · rw [(lifetime.unused id (Nat.not_lt.mp isKnown)).books]
    decide

/-- At rest an accepted request was closed and reported, or somebody outside the
threads still answers for it. -/
theorem Lifetime.at_rest (lifetime : Lifetime blockSize world)
    (isAccepted : .accepted id ∈ world.log) (work : world.work = [])
    (client : world.client = []) :
    ((ledger id world.log).closed = 1 ∧ (ledger id world.log).reported = 1) ∨
      ((ledger id world.log).closed = 0 ∧ (ledger id world.log).reported = 0 ∧
        (world.library.accepted = some id ∨ ∃ mode, mode ∈ world.datamodes ∧ mode.1 = id)) := by
  have counted : 0 < (ledger id world.log).accepted :=
    count_pos_iff.mpr isAccepted
  by_cases isKnown : id < world.fresh
  · by_cases pending : world.pendingReq = some id
    · right
      cases lifetime.phase with
      | free nonePending =>
        rw [pending] at nonePending
        cases nonePending
      | held isPending _ _ holder =>
        rw [pending, some_inj] at isPending
        subst isPending
        cases holder with
        | preparing _ books =>
          rw [books] at counted
          cases counted
        | datamode _ books _ _ mode =>
          rw [books]
          refine ⟨rfl, rfl, Or.inr ?_⟩
          unfold modeCount at mode
          rw [work, countP_nil, Nat.add_zero] at mode
          have some_mode : 0 < world.datamodes.countP (fun mode => mode.1 = id) := by
            omega
          obtain ⟨found, member, same⟩ := countP_pos_iff.mp some_mode
          exact ⟨found, member, of_decide_eq_true same⟩
        | starting ops =>
          rw [work] at ops
          generalize CoapRequest.coapStarted _ = started at ops
          cases ops
        | failing ops =>
          rw [work] at ops
          cases ops
        | library _ books _ accepted =>
          rw [books]
          exact ⟨rfl, rfl, .inl accepted⟩
        | finishing _ _ _ _ _ _ ops =>
          rw [client] at ops
          rcases ops with ⟨_, ops⟩ | ops
          · cases ops
          · cases ops
    · left
      rcases (lifetime.gone id isKnown pending).books with books | books
      · rw [books]
        exact ⟨rfl, rfl⟩
      · rw [books] at counted
        cases counted
  · rw [(lifetime.unused id (Nat.not_lt.mp isKnown)).books] at counted
    cases counted

end Steps

/-- In every run that keeps to the conditions no request is used after it was
closed, each is closed and reported at most once, and an accepted one was closed
and reported, or the library or the data mode still answers for it, when both
threads rest. -/
theorem closed_once (blockSize : Nat) (world : CoapWorld)
    (reachable : Reachable (coapStep blockSize) (LifetimeStep blockSize)
      (· = CoapWorld.initial) world) (id : ReqId) :
    .misused id ∉ world.log ∧ (ledger id world.log).closed ≤ 1 ∧
      (ledger id world.log).reported ≤ 1 ∧
      (.accepted id ∈ world.log → world.work = [] → world.client = [] →
        ((ledger id world.log).closed = 1 ∧ (ledger id world.log).reported = 1) ∨
        ((ledger id world.log).closed = 0 ∧ (ledger id world.log).reported = 0 ∧
          (world.library.accepted = some id ∨ ∃ mode, mode ∈ world.datamodes ∧ mode.1 = id))) := by
  have lifetime : Lifetime blockSize world := by
    apply reachable.invariant
    · rintro state rfl
      exact Lifetime.initially blockSize
    · intro state action after lifetime allowed stepped
      exact lifetime.next allowed stepped
  obtain ⟨notMisused, closed, reported⟩ := lifetime.books_of id
  exact ⟨List.count_eq_zero.mp notMisused, closed, reported, lifetime.at_rest⟩

def keepsLifetime (blockSize : Nat) (world : CoapWorld) : CoapAction → Bool
  | .run .client expired =>
    !expired &&
      match world.client with
      | .closeRequest id :: _ =>
        world.work.all fun op => op.request ≠ some id
      | .callback _ (.block _ payload false) :: _ =>
        payload.length ≤ blockSize
      | _ => true
  | .datamodeSend index _ | .datamodeExit index =>
    match world.datamodes[index]? with
    | some mode =>
      world.pendingReq = none ∨ world.pendingReq = some mode.1
    | none => true
  | _ => true

theorem lifetimeStep_of_keeps {blockSize : Nat} {world : CoapWorld} {action : CoapAction}
    (checked : keepsLifetime blockSize world action = true) :
    LifetimeStep blockSize world action := by
  refine ⟨?_, ?_, ?_⟩
  · rintro expired id rest rfl client op member
    simp only [keepsLifetime, client, Bool.and_eq_true, List.all_eq_true] at checked
    exact of_decide_eq_true (checked.2 op member)
  · rintro index mode (rfl | ⟨data, rfl⟩) found
    · simp only [keepsLifetime, found] at checked
      exact of_decide_eq_true checked
    · simp only [keepsLifetime, found] at checked
      exact of_decide_eq_true checked
  · rintro expired id rfl
    refine ⟨?_, ?_⟩
    · intro client
      simp only [keepsLifetime, Bool.and_eq_true] at checked
      simpa using checked.1
    · intro code payload req client _ _
      simp only [keepsLifetime, client, Bool.and_eq_true] at checked
      exact of_decide_eq_true checked.2

open CoapAction in
def uploadStarted (data : List Byte) : List CoapAction :=
  [request ⟨1, none, data.length, false, false, true, true, true⟩] ++
    replicate 4 (run .work false) ++
    [datamodeSend 0 data] ++ replicate 11 (run .work false) ++
    [.clientReqReturn true, .copyBlock]

open CoapAction in
def answeredUpload : List CoapAction :=
  uploadStarted [1, 2, 3] ++ replicate 6 (run .work false) ++
    [payloadCall] ++ replicate 4 (run .client false) ++
    [.copyBlock, datamodeExit 0] ++ replicate 2 (run .work false) ++
    [response (.block 69 [] true)] ++ replicate 6 (run .client false)

/-- An upload that the server answers. -/
theorem answeredUpload_closed_once :
    ∃ world, Reachable (coapStep 2) (LifetimeStep 2) (· = CoapWorld.initial) world ∧
      (ledger 0 world.log).closed = 1 ∧ (ledger 0 world.log).reported = 1 ∧
      .misused 0 ∉ world.log := by
  have evaluated : ((runChecked (coapStep 2) (keepsLifetime 2) answeredUpload
      CoapWorld.initial).map fun world =>
        (world.work.isEmpty && world.client.isEmpty &&
          world.library.accepted.isNone && world.datamodes.isEmpty,
          ledger 0 world.log)) = some (true, ⟨1, 1, 1, 0⟩) := by
    decide
  obtain ⟨world, ran, isWorld⟩ := map_eq_some_iff.mp evaluated
  have reachable : Reachable (coapStep 2) (LifetimeStep 2) (· = CoapWorld.initial) world :=
    reachable_of_runChecked answeredUpload
      (fun _ _ _ checked => lifetimeStep_of_keeps checked) (.start rfl) ran
  obtain ⟨resting, books⟩ := Prod.mk.inj isWorld
  simp only [Bool.and_eq_true, List.isEmpty_iff, isNone_iff_eq_none] at resting
  obtain ⟨⟨⟨work, client⟩, notAccepted⟩, noMode⟩ := resting
  obtain ⟨notMisused, _, _, atRest⟩ := closed_once 2 world reachable 0
  have isAccepted : .accepted 0 ∈ world.log := by
    apply count_pos_iff.mp
    show 0 < (ledger 0 world.log).accepted
    rw [books]
    decide
  rcases atRest isAccepted work client with ⟨closed, reported⟩ | ⟨_, _, known | ⟨mode, member, _⟩⟩
  · exact ⟨world, reachable, closed, reported, notMisused⟩
  · rw [notAccepted] at known
    cases known
  · rw [noMode] at member
    cases member

open CoapAction in
/-- The library reports an error while the data mode waits for a block to be
consumed. -/
def failedUpload : List CoapAction :=
  uploadStarted [1, 2, 3, 4, 5] ++ replicate 5 (run .work false) ++
    [response .failed] ++ replicate 6 (run .client false) ++
    [run .work false]

/-- Without the conditions the data mode uses the request after it was
closed. -/
theorem failedUpload_misused : ∃ world, Reachable (coapStep 2) (fun _ _ => True)
        (· = CoapWorld.initial) world ∧ .misused 0 ∈ world.log := by
  have evaluated : ((runActions (coapStep 2) failedUpload
      CoapWorld.initial).map fun world => ledger 0 world.log) =
      some ⟨1, 1, 1, 1⟩ := by
    decide
  obtain ⟨world, ran, books⟩ := map_eq_some_iff.mp evaluated
  refine ⟨world, ?_, ?_⟩
  · exact reachable_of_run failedUpload rfl ran
  · apply count_pos_iff.mp
    show 0 < (ledger 0 world.log).misused
    rw [books]
    decide

end SerialModem.Coap
