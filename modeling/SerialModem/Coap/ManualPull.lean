import SerialModem.Coap.Threads

/-!
# Pulling the response of a CoAP request

In manual mode the callback of a block waits until the host pulled it.  The
block is in `rx_buf`; the semaphore `rx_consumed` is given when nothing is left
of it.

What was stored and what was pulled is read off the log.  A pull delivers the
bytes that follow those of the pulls before it, and a block is stored, or its
callback returns, only when all the bytes stored so far were pulled.
-/

namespace SerialModem.Coap

open Library List Option Function
open AtHost
open Socket (bin2hex)

/-! ## What was stored and pulled -/

def storedOf (id : ReqId) : CoapEvent → List Byte
  | .stored other payload => if other = id then payload else []
  | _ => []

def pulledOf (id : ReqId) : CoapEvent → Nat
  | .pulled other _ length _ _ => if other = id then length else 0
  | _ => 0

def storedBytes (id : ReqId) (log : List CoapEvent) : List Byte :=
  log.flatMap (storedOf id)

def pulledLength (id : ReqId) (log : List CoapEvent) : Nat :=
  (log.map (pulledOf id)).sum

def formatted (hexRx : Bool) (content : List Byte) : List Byte :=
  if hexRx then bin2hex content else content

/-- Pulls give out what was stored, in order, and nothing is stored over what is left. -/
def PullSound (id : ReqId) (earlier : List CoapEvent) : CoapEvent → Prop
  | .stored other _ | .returned other => other = id →
      pulledLength id earlier = (storedBytes id earlier).length
  | .pulledNothing other offset => other = id → offset = pulledLength id earlier ∧
        pulledLength id earlier = (storedBytes id earlier).length
  | .pulled other offset length hexRx written => other = id →
      offset = pulledLength id earlier ∧ 0 < length ∧
        offset + length ≤ (storedBytes id earlier).length ∧
        written.flatten = formatted hexRx (((storedBytes id earlier).drop offset).take length)
  | _ => True

theorem storedBytes_append (id : ReqId) (log more : List CoapEvent) :
    storedBytes id (log ++ more) = storedBytes id log ++ storedBytes id more :=
  flatMap_append

theorem pulledLength_append (id : ReqId) (log more : List CoapEvent) :
    pulledLength id (log ++ more) = pulledLength id log + pulledLength id more := by
  rw [pulledLength, map_append, sum_append]
  rfl

def CoapEvent.isQuiet : CoapEvent → Bool
  | .stored _ _ | .returned _ | .pulled _ _ _ _ _ | .pulledNothing _ _ => false
  | _ => true

variable {event : CoapEvent}

theorem storedOf_quiet (quiet : event.isQuiet = true) (id : ReqId) : storedOf id event = [] := by
  cases event <;> first | rfl | cases quiet

theorem pulledOf_quiet (quiet : event.isQuiet = true) (id : ReqId) : pulledOf id event = 0 := by
  cases event <;> first | rfl | cases quiet

theorem pullSound_quiet (quiet : event.isQuiet = true) (id : ReqId)
    (earlier : List CoapEvent) : PullSound id earlier event := by
  cases event <;> trivial

theorem quiet_events {events : List CoapEvent}
    (quiet : ∀ event, event ∈ events → event.isQuiet = true) (id : ReqId)
    (log : List CoapEvent) :
    storedBytes id (log ++ events) = storedBytes id log ∧
      pulledLength id (log ++ events) = pulledLength id log ∧
      (Always (PullSound id) log → Always (PullSound id) (log ++ events)) := by
  induction events using reverseRecOn with
  | nil =>
    rw [append_nil]
    exact ⟨rfl, rfl, fun sound => sound⟩
  | append_singleton front event ih =>
    have isQuiet := quiet event (mem_append_right _ (mem_singleton_self _))
    obtain ⟨stored, pulled, sound⟩ := ih fun other member => quiet other (mem_append_left _ member)
    rw [← append_assoc, storedBytes_append, pulledLength_append, stored, pulled]
    refine ⟨?_, ?_, ?_⟩
    · simp [storedBytes, storedOf_quiet isQuiet]
    · simp [pulledLength, pulledOf_quiet isQuiet]
    · intro before
      exact (Always.concat_iff _ _).mpr ⟨sound before, pullSound_quiet isQuiet id _⟩

theorem quiet_nothing (log : List CoapEvent) :
    ∃ events, log = log ++ events ∧ ∀ event, event ∈ events → CoapEvent.isQuiet event = true :=
  ⟨[], (append_nil _).symm, by simp⟩

theorem coapDataWritten_flatten (hexRx : Bool) (content : List Byte) :
    (coapDataWritten hexRx content).flatten = formatted hexRx content := by
  unfold coapDataWritten formatted
  cases hexRx with
  | false => simp
  | true =>
    have sent : Socket.coapDataSendHexRun (content.length + 1) content =
        some (Socket.hexChunks content) :=
      Socket.sendHexFrom_eq content (Nat.lt_succ_self _)
    rw [if_pos rfl, if_pos rfl, sent]
    exact Socket.flatten_hexChunks content

/-! ## The invariant -/

structure RxBuffer (blockSize : Nat) (id : ReqId) (req : CoapRequest)
    (log : List CoapEvent) : Prop where
  offset : req.manualRx = true → req.bytesSent = pulledLength id log
  short : req.rxBufFilled ≤ blockSize
  total : (storedBytes id log).length = pulledLength id log + req.rxBufFilled
  content : bytesOf req.rxBuf req.rxBufFilled = (storedBytes id log).drop (pulledLength id log)

def Waits (id : ReqId) (client : List CoapOp) : Prop :=
  .takeRxConsumed id ∈ client ∧ ∀ payload, .storeBlock id payload ∉ client

inductive Handover (id : ReqId) (req : CoapRequest)
    (client work : List CoapOp) : Prop where
  | none (idle : ¬ Waits id client) (empty : req.rxBufFilled = 0)
      (notConsumed : req.rxConsumed = false)
      (notGiving : .giveRxConsumed id ∉ work)
  | full (waits : Waits id client) (some_byte : 0 < req.rxBufFilled)
      (notConsumed : req.rxConsumed = false)
      (notGiving : .giveRxConsumed id ∉ work)
  | drained (waits : Waits id client) (empty : req.rxBufFilled = 0)
      (notConsumed : req.rxConsumed = false)
      (giving : .giveRxConsumed id ∈ work)
  | consumed (waits : Waits id client) (empty : req.rxBufFilled = 0)
      (consumed : req.rxConsumed = true)
      (notGiving : .giveRxConsumed id ∉ work)

def CoapOp.isPlain : CoapOp → Bool
  | .callback _ _ | .storeBlock _ _ | .sendHead _ _ _ => false
  | .takeRxConsumed _ | .sendData _ _ | .callbackEnd _ _ => false
  | .giveRxConsumed _ | .prepareRequest _ _ => false
  | _ => true

inductive WorkShape : List CoapOp → Prop where
  | plain {work : List CoapOp} (plain : ∀ op, op ∈ work → op.isPlain = true) : WorkShape work
  | allocated (id : ReqId) (command : CoapReqCommand) :
      WorkShape [.unlock, .prepareRequest id command]
  | preparing (id : ReqId) (command : CoapReqCommand) : WorkShape [.prepareRequest id command]
  | drained (id : ReqId) : WorkShape [.unlock, .giveRxConsumed id]
  | giving (id : ReqId) : WorkShape [.giveRxConsumed id]

def InLibrary (id : ReqId) (world : CoapWorld) : Prop :=
  world.library.accepted = some id ∨ ∃ op, op ∈ world.client ∧ op.request = some id

structure PullInvariant (blockSize : Nat) (world : CoapWorld) : Prop where
  client : ClientShape blockSize world.client
  work : WorkShape world.work
  fresh : ∀ id, world.fresh ≤ id → world.heap id = none ∧
    storedBytes id world.log = [] ∧ pulledLength id world.log = 0
  known : ∀ id, InLibrary id world → id < world.fresh
  unprepared : ∀ id command, .prepareRequest id command ∈ world.work →
    ¬ InLibrary id world ∧ pulledLength id world.log = 0 ∧
      ∀ req, world.heap id = some req → req.bytesSent = 0
  automatic : ∀ id payload req, .sendData id payload ∈ world.client →
    world.heap id = some req → req.manualRx = false
  sound : ∀ id, Always (PullSound id) world.log
  live : ∀ id req, world.heap id = some req → RxBuffer blockSize id req world.log ∧
      Handover id req world.client world.work

/-! ## Steps that neither store nor pull -/

structure RxSame (req changed : CoapRequest) : Prop where
  rxBuf : changed.rxBuf = req.rxBuf
  rxBufFilled : changed.rxBufFilled = req.rxBufFilled
  rxConsumed : changed.rxConsumed = req.rxConsumed
  bytesSent : changed.bytesSent = req.bytesSent
  manualRx : changed.manualRx = req.manualRx

theorem RxSame.refl (req : CoapRequest) : RxSame req req :=
  ⟨rfl, rfl, rfl, rfl, rfl⟩

variable {blockSize : Nat}

theorem RxBuffer.same {id : ReqId} {req changed : CoapRequest}
    {log after : List CoapEvent} (buffer : RxBuffer blockSize id req log)
    (rx : RxSame req changed)
    (stored : storedBytes id after = storedBytes id log)
    (pulled : pulledLength id after = pulledLength id log) :
    RxBuffer blockSize id changed after := by
  refine ⟨?_, ?_, ?_, ?_⟩
  · rw [rx.manualRx, rx.bytesSent, pulled]
    exact buffer.offset
  · rw [rx.rxBufFilled]
    exact buffer.short
  · rw [stored, pulled, rx.rxBufFilled]
    exact buffer.total
  · rw [stored, pulled, rx.rxBufFilled, rx.rxBuf]
    exact buffer.content

structure QuietChange (world after : CoapWorld) : Prop where
  fresh : after.fresh = world.fresh
  log : ∃ events, after.log = world.log ++ events ∧ ∀ event, event ∈ events → event.isQuiet = true
  heap : ∀ id changed, after.heap id = some changed → ∃ req,
    world.heap id = some req ∧ RxSame req changed ∧
      (Waits id after.client ↔ Waits id world.client) ∧
      (.giveRxConsumed id ∈ after.work ↔ .giveRxConsumed id ∈ world.work)
  automatic : ∀ id payload, .sendData id payload ∈ after.client →
    .sendData id payload ∈ world.client
  library : ∀ id, InLibrary id after → InLibrary id world ∨
    world.heap id ≠ none ∧ ∀ command, .prepareRequest id command ∉ after.work
  unprepared : ∀ id command, .prepareRequest id command ∈ after.work →
    .prepareRequest id command ∈ world.work

theorem PullInvariant.quiet {world after : CoapWorld} (invariant : PullInvariant blockSize world)
    (client : ClientShape blockSize after.client) (work : WorkShape after.work)
    (quiet : QuietChange world after) :
    PullInvariant blockSize after := by
  obtain ⟨events, log, quietEvents⟩ := quiet.log
  have same := fun id => quiet_events quietEvents id world.log
  refine ⟨client, work, ?_, ?_, ?_, ?_, ?_, ?_⟩
  · intro id high
    rw [quiet.fresh] at high
    obtain ⟨closed, stored, pulled⟩ := invariant.fresh id high
    rw [log, (same id).1, (same id).2.1]
    refine ⟨?_, stored, pulled⟩
    cases live : after.heap id with
    | none => rfl
    | some changed =>
      obtain ⟨req, before, _⟩ := quiet.heap id changed live
      rw [closed] at before
      cases before
  · intro id inLibrary
    rw [quiet.fresh]
    rcases quiet.library id inLibrary with before | ⟨live, _⟩
    · exact invariant.known id before
    · by_contra high
      exact live (invariant.fresh id (Nat.not_lt.mp high)).1
  · intro id command member
    obtain ⟨notKnown, pulled, empty⟩ :=
      invariant.unprepared id command (quiet.unprepared id command member)
    refine ⟨?_, ?_, ?_⟩
    · intro inLibrary
      rcases quiet.library id inLibrary with before | ⟨_, notPreparing⟩
      · exact notKnown before
      · exact notPreparing command member
    · rw [log, (same id).2.1]
      exact pulled
    · intro changed live
      obtain ⟨req, before, rx, _⟩ := quiet.heap id changed live
      rw [rx.bytesSent]
      exact empty req before
  · intro id payload changed member live
    obtain ⟨req, before, rx, _⟩ := quiet.heap id changed live
    rw [rx.manualRx]
    exact invariant.automatic id payload req (quiet.automatic id payload member) before
  · intro id
    rw [log]
    exact (same id).2.2 (invariant.sound id)
  · intro id changed live
    obtain ⟨req, before, rx, waits, gives⟩ := quiet.heap id changed live
    obtain ⟨buffer, handover⟩ := invariant.live id req before
    constructor
    · apply buffer.same rx
      · rw [log, (same id).1]
      · rw [log, (same id).2.1]
    · cases handover with
      | none idle empty notConsumed notGiving =>
        exact .none (idle ∘ waits.mp) (rx.rxBufFilled.trans empty)
          (rx.rxConsumed.trans notConsumed) (notGiving ∘ gives.mp)
      | full isWaiting some_byte notConsumed notGiving =>
        exact .full (waits.mpr isWaiting) (rx.rxBufFilled ▸ some_byte)
          (rx.rxConsumed.trans notConsumed) (notGiving ∘ gives.mp)
      | drained isWaiting empty notConsumed giving =>
        exact .drained (waits.mpr isWaiting) (rx.rxBufFilled.trans empty)
          (rx.rxConsumed.trans notConsumed) (gives.mpr giving)
      | consumed isWaiting empty consumed notGiving =>
        exact .consumed (waits.mpr isWaiting) (rx.rxBufFilled.trans empty)
          (rx.rxConsumed.trans consumed) (notGiving ∘ gives.mp)

theorem requestOp_plain {expired : Bool} {req : CoapRequest} {rest : List CoapOp} {op : CoapOp}
    {result : CoapRequest × List CoapOp × List CoapEvent}
    (plain : op.isPlain = true)
    (moved : requestOp blockSize expired req rest op = some result) :
    RxSame req result.1 ∧ (∀ next, next ∈ result.2.1 → next ∈ rest ∨ next.isPlain = true) ∧
      ∀ event, event ∈ result.2.2 → event.isQuiet = true := by
  cases op with
  | failStatus id | sendStatus id | giveStagingConsumed id
  | giveStagingReady id | resetStaging id =>
    cases moved
    exact ⟨⟨rfl, rfl, rfl, rfl, rfl⟩, by grind [CoapOp.isPlain], by grind [CoapEvent.isQuiet]⟩
  | payloadCb id | takeStagingReady id | payloadTake id | startRequest id
  | startUnlessStarted id | takeStagingConsumed id | sendBlock id data
  | datamodeSendTo id data | datamodeExitTo id =>
    simp only [requestOp] at moved
    (repeat' split at moved) <;> cases moved <;>
      exact ⟨⟨rfl, rfl, rfl, rfl, rfl⟩,
        by grind [CoapOp.isPlain, coapStartRequest, coapFailRequest, coapFinishRequest],
        by grind [CoapEvent.isQuiet]⟩
  | callback id data | storeBlock id payload | sendHead id code length
  | takeRxConsumed id | sendData id payload | callbackEnd id lastBlock
  | giveRxConsumed id | prepareRequest id command => cases plain
  | _ => cases moved

theorem ClientShape.plain_rest {op : CoapOp} {rest : List CoapOp} {id : ReqId}
    (shape : ClientShape blockSize (op :: rest))
    (onRequest : op.onRequest = some id) (plain : op.isPlain = true) :
    ∀ next, next ∈ rest → next.isPlain = true := by
  cases shape with
  | storing | stored | locking | closing | unlocking | payloadReturning =>
    cases onRequest
  | failing | finishing | payloadCalled | payloadWaiting | payloadTaking
  | payloadGiving =>
    simp [CoapOp.isPlain]
  | _ => cases plain

theorem not_waits_of_plain {client : List CoapOp}
    (plain : ∀ op, op ∈ client → op.isPlain = true) (id : ReqId) :
    ¬ Waits id client :=
  fun waits => Bool.noConfusion (plain _ waits.1)

theorem WorkShape.not_preparing {work : List CoapOp}
    (plain : ∀ op, op ∈ work → op.isPlain = true) (id : ReqId)
    (command : CoapReqCommand) : .prepareRequest id command ∉ work :=
  fun member => Bool.noConfusion (plain _ member)

theorem WorkShape.not_giving {work : List CoapOp}
    (plain : ∀ op, op ∈ work → op.isPlain = true) (id : ReqId) :
    .giveRxConsumed id ∉ work :=
  fun member => Bool.noConfusion (plain _ member)

section Quiet

variable {blockSize : Nat} {world after : CoapWorld}

theorem heap_setRequest {id : ReqId} {req : CoapRequest} (world : CoapWorld) (other : ReqId) :
    (world.setRequest id req).heap other =
      if other = id then some req else world.heap other :=
  update_apply ..

theorem rxSame_setRequest {id other : ReqId} {req changed found : CoapRequest}
    (live : world.heap id = some req) (same : RxSame req changed)
    (isFound : (world.setRequest id changed).heap other = some found) :
    ∃ req, world.heap other = some req ∧ RxSame req found := by
  rw [heap_setRequest] at isFound
  split at isFound
  · rename_i isSame
    cases isFound
    exact ⟨req, isSame ▸ live, same⟩
  · exact ⟨found, isFound, RxSame.refl _⟩

theorem live_of_closed {id other : ReqId} {found : CoapRequest}
    (isFound : update world.heap id none other = some found) :
    world.heap other = some found := by
  rw [update_apply] at isFound
  split at isFound
  · cases isFound
  · exact isFound

theorem quiet_client_request {expired : Bool} {id : ReqId} {req : CoapRequest}
    {op : CoapOp} {rest : List CoapOp}
    {result : CoapRequest × List CoapOp × List CoapEvent}
    (shape : ClientShape blockSize world.client)
    (ops : world.client = op :: rest) (onRequest : op.onRequest = some id)
    (plain : op.isPlain = true) (live : world.heap id = some req)
    (moved : requestOp blockSize expired req rest op = some result) :
    QuietChange world (((world.setOps .client result.2.1).setRequest id
      result.1).record result.2.2) := by
  rw [ops] at shape
  have restPlain := shape.plain_rest onRequest plain
  obtain ⟨same, plainOps, quiet⟩ := requestOp_plain plain moved
  have before : ∀ next, next ∈ world.client → next.isPlain = true := by
    intro next member
    rw [ops] at member
    rcases mem_cons.mp member with rfl | later
    · exact plain
    · exact restPlain next later
  have afterwards : ∀ next, next ∈ result.2.1 → next.isPlain = true := by
    intro next member
    rcases plainOps next member with old | new
    · exact restPlain next old
    · exact new
  have requests := requestOp_request moved
  refine ⟨rfl, ⟨_, rfl, quiet⟩, ?_, ?_, ?_, ?_⟩
  · intro other changed liveAfter
    obtain ⟨old, wasLive, same⟩ := rxSame_setRequest live same liveAfter
    have waits : Waits other result.2.1 ↔ Waits other world.client :=
      ⟨fun isWaiting => absurd isWaiting (not_waits_of_plain afterwards other),
        fun isWaiting => absurd isWaiting (not_waits_of_plain before other)⟩
    exact ⟨old, wasLive, same, waits, Iff.rfl⟩
  · exact fun _ _ member => Bool.noConfusion (afterwards _ member)
  · rintro other (accepted | ⟨next, member, isOther⟩)
    · exact .inl (.inl accepted)
    · left
      right
      rw [ops]
      rcases requests next member with old | nothing | sameRequest
      · exact ⟨next, mem_cons_of_mem _ old, isOther⟩
      · rw [nothing] at isOther
        cases isOther
      · exact ⟨op, mem_cons_self .., sameRequest.symm.trans isOther⟩
  · exact fun _ _ member => member

end Quiet

/-! ## Steps of a callback -/

section Callback

variable {blockSize : Nat} {world : CoapWorld} {id : ReqId}
  {req changed : CoapRequest} {op : CoapOp} {rest next : List CoapOp}
  {events : List CoapEvent}

variable {after : CoapWorld} {client : List CoapOp}

theorem not_waits_of_other {other : ReqId}
    (one : ∀ op, op ∈ client → op.request = none ∨ op.request = some id)
    (different : other ≠ id) : ¬ Waits other client := by
  intro waits
  rcases one _ waits.1 with nothing | same
  · cases nothing
  · exact different (some_inj.mp same)

theorem PullInvariant.one_changed (invariant : PullInvariant blockSize world)
    (live : world.heap id = some req)
    (heap : after.heap = update world.heap id (some changed))
    (fresh : after.fresh = world.fresh) (log : after.log = world.log ++ events)
    (clientShape : ClientShape blockSize after.client) (workShape : WorkShape after.work)
    (known : ∀ other, InLibrary other after → InLibrary other world)
    (unprepared : ∀ other command, .prepareRequest other command ∈ after.work →
      other ≠ id ∧ .prepareRequest other command ∈ world.work)
    (automatic : ∀ payload, .sendData id payload ∈ after.client → changed.manualRx = false)
    (sends : ∀ other payload, other ≠ id → .sendData other payload ∈ after.client →
      .sendData other payload ∈ world.client)
    (others : ∀ other, other ≠ id → storedBytes other events = [] ∧ pulledLength other events = 0)
    (sound : ∀ other, Always (PullSound other) (world.log ++ events))
    (buffer : RxBuffer blockSize id changed (world.log ++ events))
    (handover : Handover id changed after.client after.work)
    (handovers : ∀ other req, other ≠ id → Handover other req world.client world.work →
      Handover other req after.client after.work) :
    PullInvariant blockSize after := by
  have heapAfter : ∀ other, after.heap other =
      if other = id then some changed else world.heap other := by
    intro other
    rw [heap, update_apply]
  have unchanged : ∀ other, other ≠ id → storedBytes other after.log = storedBytes other world.log ∧
        pulledLength other after.log = pulledLength other world.log := by
    intro other different
    obtain ⟨stored, pulled⟩ := others other different
    rw [log, storedBytes_append, pulledLength_append, stored, pulled]
    exact ⟨append_nil _, Nat.add_zero _⟩
  refine ⟨clientShape, workShape, ?_, ?_, ?_, ?_, ?_, ?_⟩
  · intro other high
    rw [fresh] at high
    obtain ⟨closed, stored, pulled⟩ := invariant.fresh other high
    have different : other ≠ id := by
      rintro rfl
      rw [closed] at live
      cases live
    obtain ⟨sameStored, samePulled⟩ := unchanged other different
    refine ⟨?_, sameStored.trans stored, samePulled.trans pulled⟩
    rw [heapAfter, if_neg different]
    exact closed
  · intro other inLibrary
    rw [fresh]
    exact invariant.known other (known other inLibrary)
  · intro other command member
    obtain ⟨different, before⟩ := unprepared other command member
    obtain ⟨notKnown, pulled, empty⟩ := invariant.unprepared other command before
    refine ⟨fun inLibrary => notKnown (known other inLibrary),
      (unchanged other different).2.trans pulled, ?_⟩
    rw [heapAfter, if_neg different]
    exact empty
  · intro other payload req member liveAfter
    rw [heapAfter] at liveAfter
    split at liveAfter
    · rename_i isSame
      cases liveAfter
      exact automatic payload (isSame ▸ member)
    · rename_i different
      exact invariant.automatic other payload req (sends other payload different member) liveAfter
  · rw [log]
    exact sound
  · intro other req liveAfter
    rw [heapAfter] at liveAfter
    split at liveAfter
    · rename_i isSame
      cases liveAfter
      rw [isSame, log]
      exact ⟨buffer, handover⟩
    · rename_i different
      obtain ⟨before, handoverBefore⟩ := invariant.live other req liveAfter
      obtain ⟨sameStored, samePulled⟩ := unchanged other different
      exact ⟨before.same (RxSame.refl _) sameStored samePulled,
        handovers other req different handoverBefore⟩

theorem PullInvariant.callback (invariant : PullInvariant blockSize world)
    (ops : world.client = op :: rest) (isRequest : op.request = some id)
    (live : world.heap id = some req)
    (shape : ClientShape blockSize next)
    (one : ∀ op, op ∈ next → op.request = none ∨ op.request = some id)
    (automatic : ∀ payload, .sendData id payload ∈ next →
      changed.manualRx = false)
    (others : ∀ other, other ≠ id → storedBytes other events = [] ∧ pulledLength other events = 0)
    (sound : ∀ other, Always (PullSound other) (world.log ++ events))
    (buffer : RxBuffer blockSize id changed (world.log ++ events))
    (handover : Handover id changed next world.work) :
    PullInvariant blockSize
      (((world.setOps .client next).setRequest id changed).record events) := by
  have shapeBefore := invariant.client
  rw [ops] at shapeBefore
  have oneBefore := shapeBefore.one_request isRequest
  have known : InLibrary id world :=
    .inr ⟨op, by rw [ops]; exact mem_cons_self .., isRequest⟩
  refine invariant.one_changed live rfl rfl rfl shape invariant.work ?_ ?_ automatic ?_ others
    sound buffer handover ?_
  · rintro other (accepted | ⟨op', member, isOther⟩)
    · exact .inl accepted
    · rcases one op' member with nothing | same
      · rw [nothing] at isOther
        cases isOther
      · rw [same] at isOther
        cases isOther
        exact known
  · intro other command member
    refine ⟨?_, member⟩
    rintro rfl
    exact (invariant.unprepared other command member).1 known
  · intro other payload different member
    rcases one _ member with nothing | same
    · cases nothing
    · exact absurd (some_inj.mp same) different
  · intro other req different handoverBefore
    have notWaiting := not_waits_of_other oneBefore different
    rw [← ops] at notWaiting
    have notWaitingAfter := not_waits_of_other one different
    cases handoverBefore with
    | none _ empty notConsumed notGiving =>
      exact .none notWaitingAfter empty notConsumed notGiving
    | full waits | drained waits | consumed waits => exact absurd waits notWaiting

theorem Handover.of_not_waits {work : List CoapOp}
    (handover : Handover id req client work) (idle : ¬ Waits id client) :
    req.rxBufFilled = 0 ∧ req.rxConsumed = false ∧ .giveRxConsumed id ∉ work := by
  cases handover with
  | none _ empty notConsumed notGiving =>
    exact ⟨empty, notConsumed, notGiving⟩
  | full waits | drained waits | consumed waits => exact absurd waits idle

theorem PullInvariant.callback_idle (invariant : PullInvariant blockSize world)
    (ops : world.client = op :: rest) (isRequest : op.request = some id)
    (live : world.heap id = some req)
    (idle : ¬ Waits id world.client) (idleAfter : ¬ Waits id next)
    (shape : ClientShape blockSize next)
    (one : ∀ op, op ∈ next → op.request = none ∨ op.request = some id)
    (automatic : ∀ payload, .sendData id payload ∈ next →
      changed.manualRx = false)
    (filled : changed.rxBufFilled = req.rxBufFilled)
    (consumed : changed.rxConsumed = req.rxConsumed)
    (rxBuf : changed.rxBuf = req.rxBuf)
    (bytesSent : changed.manualRx = true → req.manualRx = true ∧ changed.bytesSent = req.bytesSent)
    (quiet : ∀ event, event ∈ events → event.isQuiet = true) :
    PullInvariant blockSize
      (((world.setOps .client next).setRequest id changed).record events) := by
  obtain ⟨buffer, handover⟩ := invariant.live id req live
  obtain ⟨empty, notConsumed, notGiving⟩ := handover.of_not_waits idle
  have same := fun other => quiet_events quiet other world.log
  apply invariant.callback ops isRequest live shape one automatic
  · intro other _
    have nothing := quiet_events quiet other []
    exact ⟨nothing.1, nothing.2.1⟩
  · exact fun other => (same other).2.2 (invariant.sound other)
  · refine ⟨?_, ?_, ?_, ?_⟩
    · intro manual
      rw [(same id).2.1, (bytesSent manual).2]
      exact buffer.offset (bytesSent manual).1
    · rw [filled]
      exact buffer.short
    · rw [(same id).1, (same id).2.1, filled]
      exact buffer.total
    · rw [(same id).1, (same id).2.1, filled, rxBuf]
      exact buffer.content
  · exact .none idleAfter (filled.trans empty) (consumed.trans notConsumed) notGiving

theorem bytesOf_overlay (buffer : Nat → Byte) (content : List Byte) :
    bytesOf (CharBuffer.overlay buffer 0 content) content.length = content := by
  apply ext_getElem
  · simp [bytesOf]
  · intro index within inside
    have read : CharBuffer.overlay buffer 0 content (0 + index) =
        content[index] := CharBuffer.overlay_of_inside inside
    rw [Nat.zero_add] at read
    simpa [bytesOf] using read

variable {lastBlock : Bool}

theorem PullInvariant.stores (invariant : PullInvariant blockSize world)
    {payload : List Byte} {code : Int} {length : Nat} (some_byte : payload ≠ [])
    (fits : payload.length ≤ blockSize)
    (ops : world.client = [.storeBlock id payload, .unlock,
      .sendHead id code length, .takeRxConsumed id, .callbackEnd id lastBlock])
    (live : world.heap id = some req) :
    PullInvariant blockSize (((world.setOps .client [.unlock,
      .sendHead id code length, .takeRxConsumed id,
      .callbackEnd id lastBlock]).setRequest id { req with
        rxBuf := CharBuffer.overlay req.rxBuf 0 payload
        rxBufFilled := payload.length }).record [.stored id payload]) := by
  obtain ⟨buffer, handover⟩ := invariant.live id req live
  have idle : ¬ Waits id world.client := by
    rw [ops]
    exact fun waits => waits.2 payload (mem_cons_self ..)
  obtain ⟨empty, notConsumed, notGiving⟩ := handover.of_not_waits idle
  have total := buffer.total
  rw [empty, Nat.add_zero] at total
  have stored : storedBytes id (world.log ++ [.stored id payload]) =
      storedBytes id world.log ++ payload := by
    rw [storedBytes_append]
    simp [storedBytes, storedOf]
  have pulled : pulledLength id (world.log ++ [.stored id payload]) =
      pulledLength id world.log := by
    rw [pulledLength_append]
    rfl
  apply invariant.callback ops rfl live (.stored id code length lastBlock)
  · intro op member
    simp only [mem_cons, not_mem_nil, or_false] at member
    rcases member with rfl | rfl | rfl | rfl
    · exact .inl rfl
    · exact .inr rfl
    · exact .inr rfl
    · exact .inr rfl
  · intro payload member
    simp at member
  · intro other different
    constructor
    · simp [storedBytes, storedOf, different.symm]
    · rfl
  · intro other
    refine (Always.concat_iff _ _).mpr ⟨invariant.sound other, ?_⟩
    rintro rfl
    exact total.symm
  · refine ⟨?_, fits, ?_, ?_⟩
    · intro manual
      rw [pulled]
      exact buffer.offset manual
    · rw [stored, pulled, length_append, total]
    · rw [stored, pulled, ← total, drop_left]
      exact bytesOf_overlay _ payload
  · refine .full ⟨by simp, by simp⟩ ?_ notConsumed notGiving
    exact length_pos_iff.mpr some_byte

theorem PullInvariant.returns (invariant : PullInvariant blockSize world)
    (ops : world.client = [.takeRxConsumed id, .callbackEnd id lastBlock])
    (live : world.heap id = some req) (given : req.rxConsumed = true) :
    PullInvariant blockSize (((world.setOps .client [.callbackEnd id lastBlock]).setRequest id
        { req with rxConsumed := false }).record [.returned id]) := by
  obtain ⟨buffer, handover⟩ := invariant.live id req live
  have waits : Waits id world.client := by
    rw [ops]
    exact ⟨mem_cons_self .., by simp⟩
  have nothing : ∀ other, storedBytes other [CoapEvent.returned id] = [] ∧
      pulledLength other [CoapEvent.returned id] = 0 := fun _ => ⟨rfl, rfl⟩
  have stored : ∀ other, storedBytes other (world.log ++ [.returned id]) =
      storedBytes other world.log := by
    intro other
    rw [storedBytes_append, (nothing other).1, append_nil]
  have pulled : ∀ other, pulledLength other (world.log ++ [.returned id]) =
      pulledLength other world.log := by
    intro other
    rw [pulledLength_append, (nothing other).2, Nat.add_zero]
  have drained : req.rxBufFilled = 0 ∧ .giveRxConsumed id ∉ world.work := by
    cases handover with
    | none idle => exact absurd waits idle
    | full _ _ notConsumed | drained _ _ notConsumed =>
      rw [given] at notConsumed; cases notConsumed
    | consumed _ empty _ notGiving => exact ⟨empty, notGiving⟩
  have total := buffer.total
  rw [drained.1, Nat.add_zero] at total
  apply invariant.callback ops rfl live (.ending id lastBlock)
  · intro op member
    rw [mem_singleton] at member
    rw [member]
    exact .inr rfl
  · intro payload member
    simp at member
  · exact fun other _ => nothing other
  · intro other
    refine (Always.concat_iff _ _).mpr ⟨invariant.sound other, ?_⟩
    rintro rfl
    exact total.symm
  · have after := buffer.same (RxSame.refl req) (stored id) (pulled id)
    exact ⟨after.offset, after.short, after.total, after.content⟩
  · refine .none ?_ drained.1 rfl drained.2
    intro isWaiting
    have absent := isWaiting.1
    simp at absent

theorem PullInvariant.notifies (invariant : PullInvariant blockSize world)
    {code : Int} {length : Nat}
    (ops : world.client = [.sendHead id code length, .takeRxConsumed id,
      .callbackEnd id lastBlock]) (live : world.heap id = some req) :
    PullInvariant blockSize (((world.setOps .client [.takeRxConsumed id,
      .callbackEnd id lastBlock]).setRequest id req).record [.head id code length]) := by
  obtain ⟨buffer, handover⟩ := invariant.live id req live
  have quiet : ∀ event, event ∈ [CoapEvent.head id code length] → event.isQuiet = true := by
    simp [CoapEvent.isQuiet]
  have same := quiet_events quiet
  have waits : Waits id world.client := by
    rw [ops]
    exact ⟨by simp, by simp⟩
  have waitsAfter : Waits id [.takeRxConsumed id, .callbackEnd id lastBlock] := ⟨by simp, by simp⟩
  apply invariant.callback ops rfl live (.waiting id lastBlock)
  · intro op member
    simp only [mem_cons, not_mem_nil, or_false] at member
    rcases member with rfl | rfl
    · exact .inr rfl
    · exact .inr rfl
  · intro payload member
    simp at member
  · exact fun other _ => ⟨rfl, rfl⟩
  · exact fun other => (same other _).2.2 (invariant.sound other)
  · exact buffer.same (RxSame.refl req) (same id _).1 (same id _).2.1
  · cases handover with
    | none idle => exact absurd waits idle
    | full _ some_byte notConsumed notGiving =>
      exact .full waitsAfter some_byte notConsumed notGiving
    | drained _ empty notConsumed giving =>
      exact .drained waitsAfter empty notConsumed giving
    | consumed _ empty consumed notGiving =>
      exact .consumed waitsAfter empty consumed notGiving

theorem waits_cons_iff {front : CoapOp} (notTake : front ≠ .takeRxConsumed id)
    (notStore : ∀ payload, front ≠ .storeBlock id payload) :
    Waits id (front :: client) ↔ Waits id client := by
  constructor
  · rintro ⟨takes, stores⟩
    refine ⟨?_, fun payload member =>
      stores payload (mem_cons_of_mem _ member)⟩
    exact (mem_cons.mp takes).resolve_left fun same =>
      notTake same.symm
  · rintro ⟨takes, stores⟩
    refine ⟨mem_cons_of_mem _ takes, fun payload member => ?_⟩
    rcases mem_cons.mp member with same | later
    · exact notStore payload same.symm
    · exact stores payload later

variable {expired : Bool}

variable {result : CoapRequest × List CoapOp × List CoapEvent}

theorem PullInvariant.begins {data : CoapResponse} (invariant : PullInvariant blockSize world)
    (ops : world.client = [.callback id data]) (live : world.heap id = some req)
    (moved : requestOp blockSize expired req [] (.callback id data) = some result) :
    PullInvariant blockSize (((world.setOps .client result.2.1).setRequest id
      result.1).record result.2.2) := by
  have shape := invariant.client
  rw [ops] at shape
  have shapeAfter := shape.next_request moved
  have idle : ¬ Waits id world.client := by
    rw [ops]
    exact fun waits => by simpa using waits.1
  have failed : ∀ op, op ∈ coapFailRequest id →
      (op.request = none ∨ op.request = some id) ∧ op.isPlain = true := by
    simp [coapFailRequest, coapFinishRequest, CoapOp.request, CoapOp.isPlain]
  have failedIdle := not_waits_of_plain (fun op member => (failed op member).2) id
  have failedPlain : ∀ payload, .sendData id payload ∉ coapFailRequest id :=
    fun payload member => Bool.noConfusion (failed _ member).2
  cases data with
  | failed =>
    cases moved
    exact invariant.callback_idle ops rfl live idle failedIdle shapeAfter
      (fun op member => (failed op member).1)
      (fun payload member => absurd member (failedPlain payload)) rfl rfl rfl
      (fun manual => ⟨manual, rfl⟩) (by simp)
  | block code payload lastBlock =>
    simp only [requestOp] at moved
    split at moved
    · cases moved
      exact invariant.callback_idle ops rfl live idle
        (fun waits => by simpa using waits.1) shapeAfter
        (by simp [CoapOp.request]) (by simp) rfl rfl rfl
        (fun manual => ⟨manual, rfl⟩) (by simp)
    · split at moved
      · split at moved
        · cases moved
          exact invariant.callback_idle ops rfl live idle failedIdle
            shapeAfter (fun op member => (failed op member).1)
            (fun payload member => absurd member (failedPlain payload)) rfl
            rfl rfl (fun manual => ⟨manual, rfl⟩) (by simp)
        · cases moved
          exact invariant.callback_idle ops rfl live idle
            (fun waits => waits.2 payload (by simp)) shapeAfter
            (by simp [CoapOp.request]) (by simp) rfl rfl rfl
            (fun manual => ⟨manual, rfl⟩) (by simp)
      · rename_i notManual
        cases moved
        exact invariant.callback_idle ops rfl live idle
          (fun waits => by simpa using waits.1) shapeAfter
          (by simp [CoapOp.request])
          (fun _ _ => Bool.eq_false_of_not_eq_true notManual) rfl rfl rfl
          (fun manual => ⟨manual, rfl⟩) (by simp)

theorem PullInvariant.client_request (invariant : PullInvariant blockSize world)
    (waitsLong : expired = true → ∀ id rest, world.client ≠ .takeRxConsumed id :: rest)
    (ops : world.client = op :: rest) (onRequest : op.onRequest = some id)
    (live : world.heap id = some req)
    (moved : requestOp blockSize expired req rest op = some result) :
    PullInvariant blockSize (((world.setOps .client result.2.1).setRequest id
      result.1).record result.2.2) := by
  have shape := invariant.client
  rw [ops] at shape
  have shapeAfter := shape.next_request moved
  cases plain : op.isPlain with
  | true =>
    exact invariant.quiet shapeAfter invariant.work
      (quiet_client_request invariant.client ops onRequest plain live moved)
  | false =>
    cases shape with
    | called _ data =>
      cases onRequest
      exact invariant.begins ops live moved
    | storingLocked _ code length lastBlock some_byte fits =>
      cases onRequest
      cases moved
      exact invariant.stores some_byte fits ops live
    | notifying _ code length lastBlock =>
      cases onRequest
      cases moved
      exact invariant.notifies ops live
    | waiting _ lastBlock =>
      cases onRequest
      simp only [requestOp] at moved
      split at moved
      · rename_i given
        cases moved
        exact invariant.returns ops live given
      · split at moved
        · rename_i isExpired
          exact absurd ops (waitsLong isExpired _ _)
        · cases moved
    | delivering _ payload lastBlock =>
      cases onRequest
      cases moved
      have notManual : req.manualRx = false :=
        invariant.automatic id payload req (by rw [ops]; exact mem_cons_self ..) live
      refine invariant.callback_idle ops rfl live ?_ ?_ shapeAfter ?_ ?_
        rfl rfl rfl ?_ ?_
      · rw [ops]
        exact fun waits => by simpa using waits.1
      · exact fun waits => by simpa using waits.1
      · simp [CoapOp.request]
      · simp
      · intro manual
        rw [notManual] at manual
        cases manual
      · simp [CoapEvent.isQuiet]
    | ending _ lastBlock =>
      cases onRequest
      cases moved
      refine invariant.callback_idle ops rfl live ?_ ?_ shapeAfter ?_ ?_
        rfl rfl rfl ?_ ?_
      · rw [ops]
        exact fun waits => by simpa using waits.1
      · cases lastBlock <;>
          exact fun waits => by simpa [coapFinishRequest] using waits.1
      · cases lastBlock <;> simp [coapFinishRequest, CoapOp.request]
      · cases lastBlock <;> simp [coapFinishRequest]
      · exact fun manual => ⟨manual, rfl⟩
      · simp
    | storing | stored | locking | closing | unlocking | payloadReturning =>
      cases onRequest
    | failing | finishing | payloadCalled | payloadWaiting | payloadTaking
    | payloadGiving => cases plain

theorem QuietChange.of_tail (ops : world.client = op :: rest)
    (notTake : ∀ id, op ≠ .takeRxConsumed id)
    (notStore : ∀ id payload, op ≠ .storeBlock id payload)
    (client : after.client = rest) (work : after.work = world.work)
    (fresh : after.fresh = world.fresh)
    (accepted : after.library.accepted = world.library.accepted)
    (log : ∃ events, after.log = world.log ++ events ∧
      ∀ event, event ∈ events → event.isQuiet = true)
    (heap : ∀ id changed, after.heap id = some changed →
      world.heap id = some changed) : QuietChange world after := by
  refine ⟨fresh, log, ?_, ?_, ?_, ?_⟩
  · intro id changed live
    refine ⟨changed, heap id changed live, RxSame.refl _, ?_, ?_⟩
    · rw [client, ops]
      exact (waits_cons_iff (notTake id) (notStore id)).symm
    · rw [work]
  · intro id payload member
    rw [client] at member
    rw [ops]
    exact mem_cons_of_mem _ member
  · rintro id (isAccepted | ⟨next, member, isRequest⟩)
    · rw [accepted] at isAccepted
      exact .inl (.inl isAccepted)
    · rw [client] at member
      refine .inl (.inr ⟨next, ?_, isRequest⟩)
      rw [ops]
      exact mem_cons_of_mem _ member
  · intro id command member
    rw [work] at member
    exact member

theorem QuietChange.of_misuse (ops : world.client = op :: rest) (isRequest : op.request = some id)
    (shape : ClientShape blockSize world.client)
    (closed : world.heap id = none) :
    QuietChange world ((world.setOps .client []).record [.misused id]) := by
  rw [ops] at shape
  have one := shape.one_request isRequest
  refine ⟨rfl, ⟨_, rfl, by simp [CoapEvent.isQuiet]⟩, ?_, ?_, ?_, ?_⟩
  · intro other changed live
    have heap : world.heap other = some changed := live
    have different : other ≠ id := by
      rintro rfl
      rw [closed] at heap
      cases heap
    refine ⟨changed, heap, RxSame.refl _, ?_, Iff.rfl⟩
    rw [ops]
    exact ⟨fun waits => absurd waits.1 not_mem_nil,
      fun waits => absurd waits (not_waits_of_other one different)⟩
  · exact fun _ _ member => absurd member not_mem_nil
  · rintro other (accepted | ⟨next, member, _⟩)
    · exact .inl (.inl accepted)
    · exact absurd member not_mem_nil
  · exact fun _ _ member => member

theorem quiet_client_module (shape : ClientShape blockSize world.client)
    (ops : world.client = op :: rest)
    (moved : moduleOp blockSize .client rest world op = some after) :
    QuietChange world after := by
  have shapeBefore := shape
  rw [ops] at shape
  cases shape with
  | storing | locking =>
    simp only [moduleOp, ite_none_right_eq_some, some_inj] at moved
    rw [← moved.2]
    exact .of_tail ops (by simp) (by simp) rfl rfl rfl rfl (quiet_nothing _) fun _ _ live => live
  | stored | unlocking | payloadReturning =>
    cases moved
    exact .of_tail ops (by simp) (by simp) rfl rfl rfl rfl (quiet_nothing _) fun _ _ live => live
  | closing id =>
    simp only [moduleOp, CoapWorld.useRequest] at moved
    split at moved
    · rename_i closed
      cases moved
      exact .of_misuse ops rfl shapeBefore closed
    · cases moved
      refine .of_tail ops (by simp) (by simp) rfl rfl rfl rfl
        ⟨[.closed id], rfl, by simp [CoapEvent.isQuiet]⟩ ?_
      exact fun _ _ live => live_of_closed live
  | _ => cases moved

theorem PullInvariant.client_run (invariant : PullInvariant blockSize world)
    (waitsLong : expired = true → ∀ id rest, world.client ≠ .takeRxConsumed id :: rest)
    (ran : runOp blockSize .client expired world = some after) :
    PullInvariant blockSize after := by
  have next := invariant.client.next ran
  have work : WorkShape after.work := by
    rw [next.2]
    exact invariant.work
  obtain ⟨op, rest, ops, ⟨_, moved⟩ | ⟨id, onRequest, closed, rfl⟩ |
    ⟨id, req, result, onRequest, live, moved, rfl⟩⟩ := runOp_cases ran
  · exact invariant.quiet next.1 work (quiet_client_module invariant.client ops moved)
  · have isRequest : op.request = some id := by
      cases op <;> first | exact onRequest | cases onRequest
    exact invariant.quiet next.1 work (.of_misuse ops isRequest invariant.client closed)
  · exact invariant.client_request waitsLong ops onRequest live moved

end Callback

/-! ## Steps of the work queue -/

section Work

variable {blockSize : Nat} {world after : CoapWorld} {id : ReqId}
  {req : CoapRequest} {op : CoapOp} {rest : List CoapOp}

theorem QuietChange.of_work
    (client : after.client = world.client) (fresh : after.fresh = world.fresh)
    (accepted : after.library.accepted = world.library.accepted)
    (log : ∃ events, after.log = world.log ++ events ∧
      ∀ event, event ∈ events → event.isQuiet = true)
    (heap : ∀ id changed, after.heap id = some changed → ∃ req,
      world.heap id = some req ∧ RxSame req changed ∧
        (.giveRxConsumed id ∈ after.work ↔ .giveRxConsumed id ∈ world.work))
    (unprepared : ∀ id command, .prepareRequest id command ∈ after.work →
      .prepareRequest id command ∈ world.work) :
    QuietChange world after := by
  refine ⟨fresh, log, ?_, ?_, ?_, unprepared⟩
  · intro id changed live
    obtain ⟨req, before, same, gives⟩ := heap id changed live
    refine ⟨req, before, same, ?_, gives⟩
    rw [client]
  · intro id payload member
    rw [client] at member
    exact member
  · intro id inLibrary
    left
    rw [InLibrary, accepted, client] at inLibrary
    exact inLibrary

theorem QuietChange.of_plain (before : ∀ op, op ∈ world.work → op.isPlain = true)
    (afterwards : ∀ op, op ∈ after.work → op.isPlain = true)
    (client : after.client = world.client) (fresh : after.fresh = world.fresh)
    (accepted : after.library.accepted = world.library.accepted)
    (log : ∃ events, after.log = world.log ++ events ∧
      ∀ event, event ∈ events → event.isQuiet = true)
    (heap : ∀ id changed, after.heap id = some changed → ∃ req,
      world.heap id = some req ∧ RxSame req changed) :
    QuietChange world after := by
  refine .of_work client fresh accepted log ?_ ?_
  · intro id changed live
    obtain ⟨req, live, same⟩ := heap id changed live
    exact ⟨req, live, same, fun member => absurd member (WorkShape.not_giving afterwards id),
      fun member => absurd member (WorkShape.not_giving before id)⟩
  · exact fun id command member =>
      absurd member (WorkShape.not_preparing afterwards id command)

theorem PullInvariant.work_request {expired : Bool}
    {result : CoapRequest × List CoapOp × List CoapEvent}
    (invariant : PullInvariant blockSize world)
    (ops : world.work = op :: rest)
    (allPlain : ∀ next, next ∈ op :: rest → next.isPlain = true)
    (live : world.heap id = some req)
    (moved : requestOp blockSize expired req rest op = some result) :
    PullInvariant blockSize (((world.setOps .work result.2.1).setRequest id
      result.1).record result.2.2) := by
  obtain ⟨same, plainOps, quiet⟩ :=
    requestOp_plain (allPlain op (mem_cons_self ..)) moved
  have afterwards : ∀ next, next ∈ result.2.1 → next.isPlain = true := by
    intro next member
    rcases plainOps next member with old | new
    · exact allPlain next (mem_cons_of_mem _ old)
    · exact new
  refine invariant.quiet invariant.client (.plain afterwards) ?_
  refine .of_plain ?_ afterwards rfl rfl rfl ⟨_, rfl, quiet⟩ ?_
  · rw [ops]
    exact allPlain
  · exact fun other changed found => rxSame_setRequest live same found

theorem Handover.of_not_giving {id : ReqId} {req : CoapRequest} {client work next : List CoapOp}
    (handover : Handover id req client work) (before : .giveRxConsumed id ∉ work)
    (afterwards : .giveRxConsumed id ∉ next) : Handover id req client next := by
  cases handover with
  | none idle empty notConsumed _ => exact .none idle empty notConsumed afterwards
  | full waits some_byte notConsumed _ => exact .full waits some_byte notConsumed afterwards
  | drained _ _ _ giving => exact absurd giving before
  | consumed waits empty consumed _ => exact .consumed waits empty consumed afterwards

theorem PullInvariant.work_changed (invariant : PullInvariant blockSize world)
    {changed : CoapRequest} {next : List CoapOp} {events : List CoapEvent}
    (live : world.heap id = some req)
    (shape : WorkShape next)
    (notPreparing : ∀ other command, .prepareRequest other command ∉ next)
    (notGivingBefore : ∀ other, other ≠ id → .giveRxConsumed other ∉ world.work)
    (notGiving : ∀ other, other ≠ id → .giveRxConsumed other ∉ next)
    (automatic : ∀ payload, .sendData id payload ∈ world.client →
      changed.manualRx = false)
    (others : ∀ other, other ≠ id → storedBytes other events = [] ∧ pulledLength other events = 0)
    (sound : ∀ other, Always (PullSound other) (world.log ++ events))
    (buffer : RxBuffer blockSize id changed (world.log ++ events))
    (handover : Handover id changed world.client next) :
    PullInvariant blockSize (((world.setOps .work next).setRequest id changed).record events) := by
  refine invariant.one_changed live rfl rfl rfl invariant.client shape (fun _ known => known) ?_
    automatic (fun _ _ _ member => member) others sound buffer handover ?_
  · exact fun other command member => absurd member (notPreparing _ _)
  · exact fun other req different handover =>
      handover.of_not_giving (notGivingBefore other different) (notGiving other different)

theorem PullInvariant.gives (invariant : PullInvariant blockSize world)
    (ops : world.work = [.giveRxConsumed id])
    (live : world.heap id = some req) :
    PullInvariant blockSize (((world.setOps .work []).setRequest id
      { req with rxConsumed := true }).record []) := by
  obtain ⟨buffer, handover⟩ := invariant.live id req live
  have sameLog : world.log ++ [] = world.log := append_nil _
  refine invariant.work_changed live (.plain (by simp)) (by simp) ?_ (by simp)
    (fun payload member => invariant.automatic id payload req member live)
    (fun _ _ => ⟨rfl, rfl⟩) ?_ ?_ ?_
  · intro other different member
    rw [ops] at member
    cases mem_singleton.mp member
    exact different rfl
  · rw [sameLog]
    exact invariant.sound
  · rw [sameLog]
    exact ⟨buffer.offset, buffer.short, buffer.total, buffer.content⟩
  · have giving : .giveRxConsumed id ∈ world.work := by
      rw [ops]
      exact mem_cons_self ..
    cases handover with
    | none _ _ _ notGiving | full _ _ _ notGiving => exact absurd giving notGiving
    | drained waits empty _ _ =>
      exact .consumed waits empty rfl not_mem_nil
    | consumed _ _ _ notGiving => exact absurd giving notGiving

theorem bytesOf_take (buffer : Nat → Byte) {short length : Nat} (within : short ≤ length) :
    (bytesOf buffer length).take short = bytesOf buffer short := by
  rw [bytesOf, bytesOf, ← map_take, take_range, Nat.min_eq_left within]

theorem length_bytesOf (buffer : Nat → Byte) (length : Nat) :
    (bytesOf buffer length).length = length := by
  rw [bytesOf, length_map, length_range]

theorem pullLen_pos (length : Option Int) (positive : 0 < blockSize) :
    0 < pullLen blockSize length := by
  unfold pullLen
  split
  · exact positive
  · split
    · rename_i asked
      omega
    · exact positive

theorem PullInvariant.pulls (invariant : PullInvariant blockSize world)
    {handle : Int} {length : Option Int}
    (plain : ∀ next, next ∈ world.work → next.isPlain = true)
    (live : world.heap id = some req) :
    PullInvariant blockSize (((world.setOps .work
      (pullRequest blockSize handle length id req).2.1).setRequest id
        (pullRequest blockSize handle length id req).1).record
          (pullRequest blockSize handle length id req).2.2) := by
  obtain ⟨buffer, handover⟩ := invariant.live id req live
  have notGiving := WorkShape.not_giving plain
  have sameLog : world.log ++ [] = world.log := append_nil _
  have automatic : ∀ payload, .sendData id payload ∈ world.client → req.manualRx = false :=
    fun payload member => invariant.automatic id payload req member live
  have unlocking : ∀ op, op ∈ [CoapOp.unlock] → op.isPlain = true := by
    simp [CoapOp.isPlain]
  have notDraining : Handover id req world.client [.unlock] :=
    handover.of_not_giving (notGiving id) (by simp)
  unfold pullRequest
  split
  · refine invariant.work_changed live (.plain unlocking) (by simp)
      (fun other _ => notGiving other) (by simp) automatic
      (fun _ _ => ⟨rfl, rfl⟩) ?_ ?_ notDraining
    · rw [sameLog]
      exact invariant.sound
    · rw [sameLog]
      exact buffer
  · rename_i found
    have manual : req.manualRx = true := by
      cases isManual : req.manualRx with
      | true => rfl
      | false => exact absurd (.inr (by simp [isManual])) found
    have offset := buffer.offset manual
    split
    · rename_i empty
      have nothing : ∀ other, storedBytes other [CoapEvent.pulledNothing id req.bytesSent] = [] ∧
            pulledLength other [CoapEvent.pulledNothing id req.bytesSent] = 0 :=
        fun _ => ⟨rfl, rfl⟩
      have total := buffer.total
      rw [empty, Nat.add_zero] at total
      refine invariant.work_changed live (.plain unlocking) (by simp)
        (fun other _ => notGiving other) (by simp) automatic
        (fun _ _ => ⟨rfl, rfl⟩) ?_ ?_ notDraining
      · intro other
        refine (Always.concat_iff _ _).mpr ⟨invariant.sound other, ?_⟩
        rintro rfl
        exact ⟨offset, total.symm⟩
      · apply buffer.same (RxSame.refl _)
        · rw [storedBytes_append, (nothing id).1, append_nil]
        · rw [pulledLength_append, (nothing id).2, Nat.add_zero]
    · rename_i notEmpty
      have some_byte := Nat.pos_of_ne_zero notEmpty
      have waits : Waits id world.client ∧ req.rxConsumed = false := by
        cases handover with
        | none _ empty => exact absurd empty notEmpty
        | full waits _ notConsumed => exact ⟨waits, notConsumed⟩
        | drained _ empty | consumed _ empty => exact absurd empty notEmpty
      have asked := pullLen_pos length (Nat.lt_of_lt_of_le some_byte buffer.short)
      dsimp only
      generalize sends : min (pullLen blockSize length) req.rxBufFilled = sendLen
      have positive : 0 < sendLen := by omega
      have within : sendLen ≤ req.rxBufFilled := by omega
      have total := buffer.total
      have stored : ∀ other hexRx written, storedBytes other
          [CoapEvent.pulled id req.bytesSent sendLen hexRx written] = [] :=
        fun _ _ _ => rfl
      have pulled : ∀ written, pulledLength id (world.log ++
          [.pulled id req.bytesSent sendLen req.hexRx written]) =
            pulledLength id world.log + sendLen := by
        intro written
        rw [pulledLength_append]
        simp [pulledLength, pulledOf]
      have storedAfter : ∀ written, storedBytes id (world.log ++
          [.pulled id req.bytesSent sendLen req.hexRx written]) = storedBytes id world.log := by
        intro written
        rw [storedBytes_append, stored, append_nil]
      have sound : ∀ other, Always (PullSound other) (world.log ++
          [.pulled id req.bytesSent sendLen req.hexRx
            (coapDataWritten req.hexRx (bytesOf req.rxBuf sendLen))]) := by
        intro other
        refine (Always.concat_iff _ _).mpr ⟨invariant.sound other, ?_⟩
        rintro rfl
        refine ⟨offset, positive, by omega, ?_⟩
        rw [coapDataWritten_flatten, offset, ← buffer.content, bytesOf_take _ within]
      have others : ∀ written other, other ≠ id → storedBytes other
            [CoapEvent.pulled id req.bytesSent sendLen req.hexRx written] = [] ∧
          pulledLength other [CoapEvent.pulled id req.bytesSent sendLen req.hexRx written] = 0 := by
        intro written other different
        refine ⟨rfl, ?_⟩
        simp [pulledLength, pulledOf, different.symm]
      have buffered : ∀ rxBuf written, bytesOf rxBuf (req.rxBufFilled - sendLen) =
          (bytesOf req.rxBuf req.rxBufFilled).drop sendLen →
          RxBuffer blockSize id { req with
            bytesSent := req.bytesSent + sendLen
            rxBuf := rxBuf
            rxBufFilled := req.rxBufFilled - sendLen }
            (world.log ++ [.pulled id req.bytesSent sendLen req.hexRx written]) := by
        intro rxBuf written left
        refine ⟨?_, Nat.le_trans (Nat.sub_le _ _) buffer.short, ?_, ?_⟩
        · intro _
          rw [pulled, ← offset]
        · rw [storedAfter, pulled]
          show _ = _ + (req.rxBufFilled - sendLen)
          omega
        · rw [storedAfter, pulled, ← drop_drop, ← buffer.content]
          exact left
      have rest : ((bytesOf req.rxBuf req.rxBufFilled).drop sendLen).length =
          req.rxBufFilled - sendLen := by
        rw [length_drop, length_bytesOf]
      split
      · rename_i left
        refine invariant.work_changed live (.plain unlocking) (by simp)
          (fun other _ => notGiving other) (by simp) automatic
          (others _) sound (buffered _ _ ?_) ?_
        · rw [← rest]
          exact bytesOf_overlay _ _
        · exact .full waits.1 left waits.2 (by simp)
      · rename_i nothingLeft
        have drained : req.rxBufFilled - sendLen = 0 := by omega
        refine invariant.work_changed live (.drained id) (by simp)
          (fun other _ => notGiving other) (by simp) automatic
          (others _) sound (buffered _ _ ?_) ?_
        · rw [drained, drop_of_length_le (by rw [length_bytesOf]; omega)]
          rfl
        · exact .drained waits.1 drained waits.2 (by simp)

theorem PullInvariant.allocates (invariant : PullInvariant blockSize world)
    (command : CoapReqCommand)
    (plain : ∀ next, next ∈ world.work → next.isPlain = true) :
    PullInvariant blockSize { world.setOps .work [.unlock, .prepareRequest world.fresh command] with
        pendingReq := some world.fresh
        heap := update world.heap world.fresh (some (allocRequest command.pipe))
        fresh := world.fresh + 1 } := by
  have unknown : ¬ InLibrary world.fresh world :=
    fun known => Nat.lt_irrefl _ (invariant.known _ known)
  obtain ⟨_, stored, pulled⟩ := invariant.fresh world.fresh (Nat.le_refl _)
  refine ⟨invariant.client, .allocated _ _, ?_, ?_, ?_, ?_, invariant.sound, ?_⟩
  · intro id high
    have later : world.fresh < id := high
    obtain ⟨closed, rest⟩ := invariant.fresh id (Nat.le_of_lt later)
    refine ⟨?_, rest⟩
    exact (update_of_ne (Nat.ne_of_gt later) _ _).trans closed
  · exact fun id known => Nat.lt_succ_of_lt (invariant.known id known)
  · intro id other member
    simp only [work_setOps_work, mem_cons, not_mem_nil, or_false,
      reduceCtorEq, false_or, CoapOp.prepareRequest.injEq] at member
    obtain ⟨rfl, _⟩ := member
    refine ⟨unknown, pulled, ?_⟩
    intro req live
    have heap : update world.heap world.fresh
        (some (allocRequest command.pipe)) world.fresh = some req := live
    rw [update_self, some_inj] at heap
    rw [← heap]
    rfl
  · intro id payload req member live
    have different : id ≠ world.fresh := by
      rintro rfl
      exact unknown (.inr ⟨_, member, rfl⟩)
    have heap := (update_of_ne different _ _).symm.trans live
    exact invariant.automatic id payload req member heap
  · intro id req live
    have heap : update world.heap world.fresh
        (some (allocRequest command.pipe)) id = some req := live
    rw [update_apply] at heap
    split at heap
    · rename_i isNew
      subst isNew
      rw [some_inj] at heap
      subst heap
      constructor
      · refine ⟨fun manual => Bool.noConfusion manual, Nat.zero_le _, ?_, ?_⟩
        · show (storedBytes world.fresh world.log).length = pulledLength world.fresh world.log + 0
          rw [stored, pulled]
          rfl
        · show [] = (storedBytes world.fresh world.log).drop _
          rw [stored, drop_nil]
      · refine .none ?_ rfl rfl (by simp)
        exact fun waits => unknown (.inr ⟨_, waits.1, rfl⟩)
    · obtain ⟨buffer, handover⟩ := invariant.live id req heap
      exact ⟨buffer, handover.of_not_giving (WorkShape.not_giving plain id) (by simp)⟩

theorem PullInvariant.prepares (invariant : PullInvariant blockSize world)
    {command : CoapReqCommand} (ops : world.work = [.prepareRequest id command])
    (live : world.heap id = some req) :
    PullInvariant blockSize (prepareRequest id command req world) := by
  obtain ⟨unknown, pulled, empty⟩ := invariant.unprepared id command
    (by rw [ops]; exact mem_cons_self ..)
  obtain ⟨buffer, handover⟩ := invariant.live id req live
  have idle : ¬ Waits id world.client :=
    fun waits => unknown (.inr ⟨_, waits.1, rfl⟩)
  obtain ⟨noByte, notConsumed, _⟩ := handover.of_not_waits idle
  have notGiving : ∀ other, .giveRxConsumed other ∉ world.work := by
    intro other
    rw [ops]
    simp
  have cleanup : PullInvariant blockSize { world with work := cleanupReq id } := by
    refine invariant.quiet invariant.client (.plain (by simp
      [cleanupReq, CoapOp.isPlain])) (.of_work rfl rfl rfl
        ⟨[], (append_nil _).symm, by simp⟩ ?_ (by simp [cleanupReq]))
    intro other changed liveAfter
    refine ⟨changed, liveAfter, RxSame.refl _, ?_⟩
    exact ⟨fun member => by simp [cleanupReq] at member,
      fun member => absurd member (notGiving other)⟩
  have accepted : ∀ next : List CoapOp, (∀ op, op ∈ next → op.isPlain = true) →
      PullInvariant blockSize (((world.setOps .work next).setRequest id { req with
        fd := command.handle
        manualRx := command.manualRx
        hexRx := command.hexRx
        payloadLen := command.payloadLen }).record [.accepted id]) := by
    intro next plain
    have quiet : ∀ event, event ∈ [CoapEvent.accepted id] → event.isQuiet = true := by
      simp [CoapEvent.isQuiet]
    have same := quiet_events quiet
    refine invariant.work_changed live (.plain plain)
      (WorkShape.not_preparing plain) (fun other _ => notGiving other)
      (fun other _ => WorkShape.not_giving plain other) ?_
      (fun _ _ => ⟨rfl, rfl⟩)
      (fun other => (same other _).2.2 (invariant.sound other)) ?_ ?_
    · exact fun payload member => absurd (.inr ⟨_, member, rfl⟩) unknown
    · have after := buffer.same (RxSame.refl req) (same id _).1 (same id _).2.1
      refine ⟨?_, after.short, after.total, after.content⟩
      intro _
      rw [(same id _).2.1, pulled]
      exact empty req live
    · exact .none idle noByte notConsumed (WorkShape.not_giving plain id)
  unfold prepareRequest
  split
  · exact cleanup
  · split
    · split
      · have h := accepted [] (by simp)
        exact ⟨h.client, h.work, h.fresh, h.known, h.unprepared, h.automatic, h.sound, h.live⟩
      · exact cleanup
    · have h := accepted (coapStartRequest id) (by simp [coapStartRequest, CoapOp.isPlain])
      exact ⟨h.client, h.work, h.fresh, h.known, h.unprepared, h.automatic, h.sound, h.live⟩

theorem PullInvariant.work_plain (invariant : PullInvariant blockSize world)
    (before : ∀ next, next ∈ world.work → next.isPlain = true)
    (later : ∀ next, next ∈ rest → next.isPlain = true)
    (ops : world.work = op :: rest)
    (moved : moduleOp blockSize .work rest world op = some after) :
    PullInvariant blockSize after := by
  have nothing := quiet_nothing world.log
  have sameHeap : ∀ id changed, world.heap id = some changed → ∃ req,
      world.heap id = some req ∧ RxSame req changed :=
    fun _ changed live => ⟨changed, live, RxSame.refl _⟩
  -- The operations that only move on, perhaps to others that are plain.
  have goesOn : ∀ next : List CoapOp, (∀ op, op ∈ next → op.isPlain = true) →
      PullInvariant blockSize (world.setOps .work next) := by
    intro next plain
    exact invariant.quiet invariant.client (.plain plain)
      (.of_plain before plain rfl rfl rfl nothing sameHeap)
  have misused : ∀ id, PullInvariant blockSize ((world.setOps .work []).record [.misused id]) := by
    intro id
    refine invariant.quiet invariant.client (.plain (by simp
      [CoapWorld.record])) (.of_plain before (by simp [CoapWorld.record]) rfl
        rfl rfl ⟨_, rfl, by simp [CoapEvent.isQuiet]⟩ sameHeap)
  cases op with
  | lock =>
    simp only [moduleOp, ite_none_right_eq_some, some_inj] at moved
    obtain ⟨_, rfl⟩ := moved
    have h := goesOn rest later
    exact ⟨h.client, h.work, h.fresh, h.known, h.unprepared, h.automatic, h.sound, h.live⟩
  | unlock | payloadReturn id block =>
    cases moved
    have h := goesOn rest later
    exact ⟨h.client, h.work, h.fresh, h.known, h.unprepared, h.automatic, h.sound, h.live⟩
  | checkOwner handle =>
    cases moved
    exact goesOn rest later
  | closeRequest id =>
    simp only [moduleOp, CoapWorld.useRequest] at moved
    split at moved
    · cases moved
      exact misused id
    · cases moved
      refine invariant.quiet invariant.client (.plain later) (.of_plain before
        later rfl rfl rfl ⟨[.closed id], rfl, by simp [CoapEvent.isQuiet]⟩ ?_)
      exact fun _ changed live => ⟨changed, live_of_closed live, RxSame.refl _⟩
  | datamodeSend data | datamodeExit =>
    simp only [moduleOp] at moved
    split at moved
    · cases moved
      exact goesOn rest later
    · cases moved
      apply goesOn
      intro next member
      rcases mem_cons.mp member with rfl | old
      · rfl
      · exact later next old
  | allocRequest command =>
    simp only [moduleOp] at moved
    split at moved
    · cases moved
      exact invariant.allocates command before
    · cases moved
      exact goesOn [.unlock] (by simp [CoapOp.isPlain])
  | pullData handle length =>
    simp only [moduleOp, CoapWorld.useRequest] at moved
    split at moved
    · cases moved
      exact goesOn [.unlock] (by simp [CoapOp.isPlain])
    · split at moved
      · cases moved
        exact misused _
      · rename_i live
        cases moved
        exact invariant.pulls before live
  | prepareRequest id command =>
    have absurdity := before (.prepareRequest id command) (by rw [ops]; exact mem_cons_self ..)
    cases absurdity
  | _ => cases moved

theorem PullInvariant.work_module (invariant : PullInvariant blockSize world)
    (ops : world.work = op :: rest)
    (moved : moduleOp blockSize .work rest world op = some after) :
    PullInvariant blockSize after := by
  have shape := invariant.work
  have nothing := quiet_nothing world.log
  have sameHeap : ∀ id changed, world.heap id = some changed → ∃ req,
      world.heap id = some req ∧ RxSame req changed :=
    fun _ changed live => ⟨changed, live, RxSame.refl _⟩
  rw [ops] at shape
  cases shape with
  | plain plain =>
    have before : ∀ next, next ∈ world.work → next.isPlain = true := by
      rw [ops]
      exact plain
    have later : ∀ next, next ∈ rest → next.isPlain = true :=
      fun next member => plain next (mem_cons_of_mem _ member)
    exact invariant.work_plain before later ops moved
  | allocated id command =>
    cases moved
    refine invariant.quiet invariant.client (.preparing id command)
      (.of_work rfl rfl rfl nothing ?_ ?_)
    · intro other changed live
      refine ⟨changed, live, RxSame.refl _, ?_⟩
      rw [ops]
      simp
    · intro other command' member
      rw [ops]
      exact mem_cons_of_mem _ member
  | preparing id command =>
    simp only [moduleOp, CoapWorld.useRequest] at moved
    split at moved
    · rename_i closed
      cases moved
      refine invariant.quiet invariant.client (.plain (by simp
        [CoapWorld.record])) (.of_work rfl rfl rfl ⟨_, rfl, by simp [CoapEvent.isQuiet]⟩ ?_ ?_)
      · intro other changed live
        refine ⟨changed, live, RxSame.refl _, ?_⟩
        rw [ops]
        simp [CoapWorld.record]
      · simp [CoapWorld.record]
    · rename_i req live
      cases moved
      exact invariant.prepares ops live
  | drained id =>
    cases moved
    refine invariant.quiet invariant.client (.giving id) (.of_work rfl rfl rfl nothing ?_ (by simp))
    intro other changed live
    refine ⟨changed, live, RxSame.refl _, ?_⟩
    rw [ops]
    simp
  | giving id => cases moved

theorem PullInvariant.work_run {expired : Bool} (invariant : PullInvariant blockSize world)
    (ran : runOp blockSize .work expired world = some after) :
    PullInvariant blockSize after := by
  have shape := invariant.work
  obtain ⟨op, rest, ops, ⟨_, moved⟩ | ⟨id, onRequest, closed, rfl⟩ |
    ⟨id, req, result, onRequest, live, moved, rfl⟩⟩ := runOp_cases ran
  · exact invariant.work_module ops moved
  · change world.work = op :: rest at ops
    refine invariant.quiet invariant.client (.plain (by simp
      [CoapWorld.record])) (.of_work rfl rfl rfl
        ⟨_, rfl, by simp [CoapEvent.isQuiet]⟩ ?_ (by simp [CoapWorld.record]))
    intro other changed live
    refine ⟨changed, live, RxSame.refl _, ?_⟩
    constructor
    · simp [CoapWorld.record]
    · intro giving
      rw [ops] at shape giving
      cases shape with
      | plain plain => exact absurd giving (WorkShape.not_giving plain other)
      | allocated | preparing => simp at giving
      | drained id => cases onRequest
      | giving id =>
        cases onRequest
        cases mem_singleton.mp giving
        exact absurd (closed.symm.trans live) (by simp)
  · change world.work = op :: rest at ops
    rw [ops] at shape
    cases shape with
    | plain plain => exact invariant.work_request ops plain live moved
    | giving id =>
      cases onRequest
      cases moved
      exact invariant.gives ops live
    | allocated | preparing | drained => cases onRequest

end Work

/-! ## All steps -/

section Steps

variable {blockSize : Nat} {world after : CoapWorld}

/-- No wait for a pull runs out of time. -/
def NoPullTimeout (world : CoapWorld) (action : CoapAction) : Prop :=
  action = .run .client true → ∀ id rest, world.client ≠ .takeRxConsumed id :: rest

theorem PullInvariant.starts (invariant : PullInvariant blockSize world) (resting : world.work = [])
    (plain : ∀ op, op ∈ after.work → op.isPlain = true)
    (client : after.client = world.client) (fresh : after.fresh = world.fresh)
    (accepted : after.library.accepted = world.library.accepted)
    (heap : after.heap = world.heap)
    (log : ∃ events, after.log = world.log ++ events ∧
      ∀ event, event ∈ events → event.isQuiet = true) :
    PullInvariant blockSize after := by
  have before : ∀ op, op ∈ world.work → op.isPlain = true := by
    rw [resting]
    simp
  refine invariant.quiet ?_ (.plain plain) (.of_plain before plain client fresh accepted log ?_)
  · rw [client]
    exact invariant.client
  · intro id changed live
    rw [heap] at live
    exact ⟨changed, live, RxSame.refl _⟩

theorem PullInvariant.calls (invariant : PullInvariant blockSize world)
    {id : ReqId} {op : CoapOp} {library : CoapClient}
    (resting : world.client = [])
    (accepted : world.library.accepted = some id)
    (isRequest : op.request = some id)
    (shape : ClientShape blockSize [op])
    (notTake : ∀ id, op ≠ .takeRxConsumed id)
    (notSend : ∀ id payload, op ≠ .sendData id payload)
    (forgets : library.accepted = none ∨ library.accepted = some id) :
    PullInvariant blockSize { world with
      client := [op]
      library := library } := by
  refine invariant.quiet shape invariant.work
      ⟨rfl, quiet_nothing _, ?_, ?_, ?_, fun _ _ member => member⟩
  · intro other changed live
    refine ⟨changed, live, RxSame.refl _, ?_, Iff.rfl⟩
    rw [resting]
    constructor
    · intro waits
      exact absurd (mem_singleton.mp waits.1).symm (notTake other)
    · exact fun waits => absurd waits.1 not_mem_nil
  · intro other payload member
    exact absurd (mem_singleton.mp member).symm (notSend other payload)
  · rintro other (isAccepted | ⟨next, member, isOther⟩)
    · left
      left
      rcases forgets with nothing | same
      · rw [nothing] at isAccepted
        cases isAccepted
      · rw [same] at isAccepted
        cases isAccepted
        exact accepted
    · cases mem_singleton.mp member
      rw [isRequest] at isOther
      cases isOther
      exact .inl (.inl accepted)

/-- `coap_client_req` returns. -/
theorem PullInvariant.clientReqReturns
    (invariant : PullInvariant blockSize world) {success : Bool} {id : ReqId}
    {rest : List CoapOp} (ops : world.work = .clientReqReturn id :: rest)
    (returned : clientReqReturn blockSize success id rest world =
      some after) : PullInvariant blockSize after := by
  have shape := invariant.work
  rw [ops] at shape
  have plain : ∀ op, op ∈ .clientReqReturn id :: rest → op.isPlain = true := by
    cases shape with
    | plain plain => exact plain
  have before : ∀ op, op ∈ world.work → op.isPlain = true := by
    rw [ops]
    exact plain
  have sameHeap : ∀ id changed, world.heap id = some changed → ∃ req,
      world.heap id = some req ∧ RxSame req changed :=
    fun _ changed live => ⟨changed, live, RxSame.refl _⟩
  have nothing := quiet_nothing world.log
  simp only [clientReqReturn, CoapWorld.useRequest] at returned
  split at returned
  · cases returned
    refine invariant.quiet invariant.client (.plain (by simp
      [CoapWorld.record])) (.of_plain before (by simp [CoapWorld.record]) rfl
        rfl rfl ⟨_, rfl, by simp [CoapEvent.isQuiet]⟩ sameHeap)
  · rename_i req live
    cases returned
    split
    · have later : ∀ op, op ∈ rest → op.isPlain = true :=
        fun op member => plain op (mem_cons_of_mem _ member)
      have quiet : QuietChange world { world with work := rest } :=
        .of_plain before later rfl rfl rfl nothing sameHeap
      refine invariant.quiet invariant.client (.plain later)
        ⟨quiet.fresh, quiet.log, quiet.heap, quiet.automatic, ?_, quiet.unprepared⟩
      rintro other (accepted | client)
      · have same : id = other := some_inj.mp accepted
        right
        rw [← same, live]
        exact ⟨by simp, WorkShape.not_preparing later id⟩
      · exact .inl (.inr client)
    · have failed : ∀ op, op ∈ coapFailRequest id → op.isPlain = true := by
        simp [coapFailRequest, coapFinishRequest, CoapOp.isPlain]
      exact invariant.quiet invariant.client (.plain failed)
        (.of_plain before failed rfl rfl rfl nothing sameHeap)

theorem PullInvariant.next (invariant : PullInvariant blockSize world)
    {action : CoapAction} (inTime : NoPullTimeout world action)
    (stepped : coapStep blockSize action world = some after) :
    PullInvariant blockSize after := by
  have nothing := quiet_nothing world.log
  cases action with
  | request command | cancel handle | pull handle length =>
    simp only [coapStep, ite_none_right_eq_some, some_inj] at stepped
    obtain ⟨resting, rfl⟩ := stepped
    exact invariant.starts resting (by simp [CoapOp.isPlain]) rfl rfl rfl rfl nothing
  | datamodeSend index data =>
    simp only [coapStep, bind_eq_some_iff, ite_none_right_eq_some, some_inj] at stepped
    obtain ⟨mode, _, ⟨resting, _⟩, rfl⟩ := stepped
    exact invariant.starts resting (by simp [CoapOp.isPlain]) rfl rfl rfl rfl
      ⟨_, rfl, by simp [CoapEvent.isQuiet]⟩
  | datamodeExit index =>
    simp only [coapStep, bind_eq_some_iff, ite_none_right_eq_some, some_inj] at stepped
    obtain ⟨mode, _, resting, rfl⟩ := stepped
    exact invariant.starts resting (by simp [CoapOp.isPlain]) rfl rfl rfl rfl nothing
  | payloadCall =>
    simp only [coapStep, bind_eq_some_iff, ite_none_right_eq_some, some_inj] at stepped
    obtain ⟨id, accepted, ⟨resting, _⟩, rfl⟩ := stepped
    exact invariant.calls resting accepted rfl (.payloadCalled id) (by simp)
      (by simp) (.inr accepted)
  | response data =>
    simp only [coapStep, bind_eq_some_iff, ite_none_right_eq_some, some_inj] at stepped
    obtain ⟨id, accepted, ⟨resting, _⟩, rfl⟩ := stepped
    apply invariant.calls resting accepted rfl (.called id data) (by simp) (by simp)
    split
    · exact .inl rfl
    · exact .inr accepted
  | copyBlock =>
    simp only [coapStep, copyBlock, bind_eq_some_iff] at stepped
    obtain ⟨handed, _, copied⟩ := stepped
    have quiet : ∀ events, (∀ event, event ∈ events → CoapEvent.isQuiet event = true) →
        QuietChange world ({ world with
          library := { world.library with handed := none } }.record events) := by
      intro events quietEvents
      refine ⟨rfl, ⟨events, rfl, quietEvents⟩, ?_, fun _ _ member => member,
        fun _ known => .inl known, fun _ _ member => member⟩
      exact fun _ changed live =>
        ⟨changed, live, RxSame.refl _, Iff.rfl, Iff.rfl⟩
    split at copied
    · cases copied
      exact invariant.quiet invariant.client invariant.work (quiet _ (by simp [CoapEvent.isQuiet]))
    · cases copied
      exact invariant.quiet invariant.client invariant.work (quiet _ (by simp [CoapEvent.isQuiet]))
  | clientReqReturn success =>
    simp only [coapStep] at stepped
    split at stepped
    · rename_i id rest ops
      exact invariant.clientReqReturns ops stepped
    · cases stepped
  | run thread expired =>
    cases thread with
    | work => exact invariant.work_run stepped
    | client =>
      apply invariant.client_run _ stepped
      intro isExpired
      apply inTime
      rw [isExpired]

theorem PullInvariant.initially : PullInvariant blockSize CoapWorld.initial := by
  refine ⟨.resting, .plain (by simp [CoapWorld.initial]), ?_, ?_, ?_, ?_, ?_, ?_⟩
  · exact fun id _ => ⟨rfl, rfl, rfl⟩
  · rintro id (accepted | ⟨op, member, _⟩)
    · cases accepted
    · exact absurd member not_mem_nil
  · exact fun id command member => absurd member not_mem_nil
  · exact fun id payload req member => absurd member not_mem_nil
  · exact fun id => Always.nil
  · exact fun id req live => by cases live

end Steps

/-- In every run without a timeout, pulls deliver the bytes of the blocks in order
and without a gap, a block is stored and a callback returns only when everything
before was pulled, and a callback that waits goes on as soon as its block was
drained. -/
theorem pulled_in_order (blockSize : Nat) (world : CoapWorld)
    (reachable : Reachable (coapStep blockSize) NoPullTimeout
      (· = CoapWorld.initial) world) (id : ReqId) :
    Always (PullSound id) world.log ∧ ∀ req lastBlock, world.heap id = some req → world.work = [] →
        world.client = [.takeRxConsumed id, .callbackEnd id lastBlock] →
        ((coapStep blockSize (.run .client false) world).isSome = true ↔ req.rxBufFilled = 0) := by
  have invariant : PullInvariant blockSize world := by
    apply reachable.invariant
    · rintro state rfl
      exact PullInvariant.initially
    · intro state action after invariant inTime stepped
      exact invariant.next inTime stepped
  refine ⟨invariant.sound id, ?_⟩
  intro req lastBlock live resting ops
  have waits : Waits id world.client := by
    rw [ops]
    exact ⟨by simp, by simp⟩
  have goesOn : (coapStep blockSize (.run .client false) world).isSome = true ↔
      req.rxConsumed = true := by
    simp only [coapStep, runOp, CoapWorld.ops, ops, CoapOp.onRequest,
      CoapWorld.useRequest, live, requestOp]
    cases req.rxConsumed <;> simp
  rw [goesOn]
  cases (invariant.live id req live).2 with
  | none idle => exact absurd waits idle
  | full _ some_byte notConsumed =>
    rw [notConsumed]
    simp only [Bool.false_eq_true, false_iff]
    omega
  | drained _ _ _ giving =>
    rw [resting] at giving
    exact absurd giving not_mem_nil
  | consumed _ empty consumed => exact ⟨fun _ => empty, fun _ => consumed⟩

open CoapAction in
def pulledTwice : List CoapAction :=
  [request ⟨1, none, 0, true, false, true, true, false⟩] ++ replicate 5 (run .work false) ++
    [.clientReqReturn true, response (.block 69 [97, 98, 99] true)] ++
    replicate 5 (run .client false) ++
    [pull 1 (some 2)] ++ replicate 3 (run .work false) ++
    [pull 1 none] ++ replicate 4 (run .work false) ++
    replicate 6 (run .client false)

theorem pulledTwice_in_order :
    ∃ world, runActions (coapStep 16) pulledTwice CoapWorld.initial = some world ∧
      Always (PullSound 0) world.log ∧
      ∀ req lastBlock, world.heap 0 = some req → world.work = [] →
        world.client = [.takeRxConsumed 0, .callbackEnd 0 lastBlock] →
        ((coapStep 16 (.run .client false) world).isSome = true ↔ req.rxBufFilled = 0) := by
  have ran : (runActions (coapStep 16) pulledTwice CoapWorld.initial).isSome = true := by
    decide
  obtain ⟨world, reached⟩ := isSome_iff_exists.mp ran
  have inTime : ∀ before action, action ∈ pulledTwice → NoPullTimeout before action := by
    intro before action member isTimeout
    rw [isTimeout] at member
    simp [pulledTwice] at member
  have reachable : Reachable (coapStep 16) NoPullTimeout (· = CoapWorld.initial) world :=
    reachable_of_runActions pulledTwice inTime (.start rfl) reached
  exact ⟨world, reached, pulled_in_order 16 world reachable 0⟩

end SerialModem.Coap
