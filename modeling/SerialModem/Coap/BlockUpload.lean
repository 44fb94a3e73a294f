import SerialModem.Coap.Threads

/-!
# Uploading a payload in blocks

A payload longer than a block goes through the staging buffer.  The data mode
fills it and gives `staging_ready`; the payload callback takes it, returns the
buffer to the library and gives `staging_consumed`; the data mode then fills
the buffer again.  The library copies the block after the callback returned.

The buffer is handed back before it is copied.  The blocks are right in the
runs in which the data mode does not store before the library has copied.
-/

namespace SerialModem.Coap

open Library List Option
open AtHost

/-! ## What was received and copied -/

def receivedOf (id : ReqId) : CoapEvent → List Byte
  | .received other data => if other = id then data else []
  | _ => []

def receivedBytes (id : ReqId) (log : List CoapEvent) : List Byte :=
  log.flatMap (receivedOf id)

def copiedOf (id : ReqId) : CoapEvent → List (List Byte × Bool)
  | .copied other block lastBlock =>
    if other = id then [(block, lastBlock)] else []
  | _ => []

/-- The blocks that the library has copied for the request. -/
def copiedBlocks (id : ReqId) (log : List CoapEvent) : List (List Byte × Bool) :=
  log.flatMap (copiedOf id)

/-- The payload in blocks, the last one marked. -/
def uploadBlocks (blockSize : Nat) (payload : List Byte) : List (List Byte × Bool) :=
  markLast (pieces blockSize payload)

/-! ## Uploads -/

/-- A request with a payload entered data mode; nothing was received yet. -/
structure UploadStart (blockSize : Nat) (payload : List Byte) (id : ReqId)
    (world : CoapWorld) : Prop where
  pending : world.pendingReq = some id
  work : world.work = []
  client : world.client = []
  library : world.library.accepted = none ∧ world.library.handed = none
  datamodes : world.datamodes = [(id, payload.length)]
  request : ∃ req, world.heap id = some req ∧
    req.payloadLen = payload.length ∧ req.payloadSent = 0 ∧
    req.coapStarted = false ∧ req.stagingFilled = 0 ∧
    req.stagingReady = false ∧ req.stagingConsumed = false ∧
    req.payloadAborted = false
  received : receivedBytes id world.log = []
  copied : copiedBlocks id world.log = []

/-- A step of an upload without timeouts and errors: the data mode passes on the
bytes of the payload and exits after them, and the library asks for blocks until
it has the last one. -/
def UploadStep (id : ReqId) (payload : List Byte) (world : CoapWorld) : CoapAction → Prop
  | .datamodeSend _ data => receivedBytes id world.log ++ data <+: payload
  | .datamodeExit _ => receivedBytes id world.log = payload
  | .payloadCall => ∀ block, (block, true) ∉ copiedBlocks id world.log
  | .copyBlock => True
  | .clientReqReturn success => success = true
  | .run _ expired => expired = false
  | _ => False

def Uncopied (world : CoapWorld) : Prop :=
  world.library.handed ≠ none ∨ ∃ id block, .payloadReturn id block ∈ world.client

/-- The worker fills the staging buffer only once the library has copied it. -/
def CopiedBeforeRefill (world : CoapWorld) (action : CoapAction) : Prop :=
  ∀ expired id data rest, action = .run .work expired →
    world.work = .sendBlock id data :: rest → data ≠ [] → ¬ Uncopied world

/-! ## Where the threads are -/

section Stages

variable (blockSize : Nat) (payload : List Byte) (id : ReqId)

def waitOps (rest : List Byte) : List CoapOp :=
  [.takeStagingConsumed id, .resetStaging id, .sendBlock id rest]

def startOps (rest : List Byte) : List CoapOp :=
  .clientReqReturn id :: waitOps id rest

inductive LoopOps (rest : List Byte) : List CoapOp → Prop where
  | resting (nothing : rest = []) : LoopOps rest []
  | calling : LoopOps rest [.datamodeSend rest]
  | sending : LoopOps rest [.datamodeSendTo id rest]
  | looping : LoopOps rest [.sendBlock id rest]

inductive OfferedOps (rest : List Byte) : Bool → List CoapOp → Prop where
  | checking : OfferedOps rest false (.startUnlessStarted id :: waitOps id rest)
  | waiting : OfferedOps rest false (waitOps id rest)
  | checkingLast : OfferedOps rest true [.startUnlessStarted id, .sendBlock id []]
  | ended {work : List CoapOp} (loop : LoopOps id [] work) : OfferedOps rest true work
  | exiting : OfferedOps rest true [.datamodeExit]
  | exitingTo : OfferedOps rest true [.datamodeExitTo id]

inductive ClientIdle : List CoapOp → Prop where
  | resting : ClientIdle []
  | called : ClientIdle [.payloadCb id]
  | waiting : ClientIdle [.takeStagingReady id, .payloadTake id]

inductive ClientAfter : List CoapOp → Prop where
  | idle {client : List CoapOp} (idle : ClientIdle id client) : ClientAfter client
  | returning (length : Nat) (lastBlock : Bool) :
      ClientAfter [.payloadReturn id (some (length, lastBlock))]

def Staged (req : CoapRequest) : Prop :=
  bytesOf req.staging req.stagingFilled = (payload.drop req.payloadSent).take req.stagingFilled

def Unstored (req : CoapRequest) (received : Nat) (rest : List Byte) : Prop :=
  rest = (payload.take received).drop (req.payloadSent + req.stagingFilled) ∧
    req.payloadSent + req.stagingFilled ≤ received

/-- The staging buffer holds a whole block, and none before it is waited for. -/
structure BlockStaged (req : CoapRequest) (received : Nat)
    (held : List (List Byte × Bool)) (lastBlock : Bool) (rest : List Byte) :
    Prop where
  nothing : held = []
  content : Staged payload req
  filled : req.stagingFilled = min blockSize (payload.length - req.payloadSent)
  more : req.payloadSent < payload.length
  last : lastBlock =
    decide (payload.length ≤ req.payloadSent + req.stagingFilled)
  unstored : Unstored payload req received rest

structure FirstStaged (req : CoapRequest) (received : Nat)
    (held : List (List Byte × Bool)) (accepted : Bool) (client : List CoapOp)
    (rest : List Byte) : Prop where
  block : BlockStaged blockSize payload req received held false rest
  first : req.payloadSent = 0
  notAccepted : accepted = false
  resting : client = []
  notConsumed : req.stagingConsumed = false

structure FirstTaken (req : CoapRequest) (received : Nat) (accepted : Bool)
    (client : List CoapOp) (rest : List Byte) : Prop where
  started : req.coapStarted = true
  more : req.payloadSent < payload.length
  unstored : rest = (payload.take received).drop req.payloadSent ∧ req.payloadSent ≤ received
  notAccepted : accepted = false
  resting : client = []
  notReady : req.stagingReady = false

structure Taken (req : CoapRequest) (received : Nat) (accepted : Bool)
    (rest : List Byte) : Prop where
  started : req.coapStarted = true
  accepted : accepted = true
  more : req.payloadSent < payload.length
  unstored : rest = (payload.take received).drop req.payloadSent ∧ req.payloadSent ≤ received
  notReady : req.stagingReady = false

inductive UploadStage (req : CoapRequest) (work client : List CoapOp)
    (accepted : Bool) (received : Nat) (held : List (List Byte × Bool)) :
    Prop where
  | filling {rest : List Byte} (loop : LoopOps id rest work) (notReady : req.stagingReady = false)
      (notConsumed : req.stagingConsumed = false)
      (space : req.stagingFilled < blockSize)
      (more : req.payloadSent + req.stagingFilled < payload.length)
      (content : Staged payload req)
      (unstored : Unstored payload req received rest)
      (isStarted : req.coapStarted = true → accepted = true ∧ ClientAfter id client)
      (notStarted : req.coapStarted = false → accepted = false ∧ client = [] ∧ req.payloadSent = 0)
  | full {rest : List Byte} {lastBlock : Bool}
      (ops : work = .giveStagingReady id :: .startUnlessStarted id ::
        if lastBlock then [.sendBlock id []] else waitOps id rest)
      (notReady : req.stagingReady = false)
      (notConsumed : req.stagingConsumed = false)
      (block : BlockStaged blockSize payload req received held lastBlock rest)
      (isStarted : req.coapStarted = true → accepted = true ∧ ClientIdle id client)
      (notStarted : req.coapStarted = false → accepted = false ∧ client = [] ∧ req.payloadSent = 0)
  | unstarted {rest : List Byte} (ops : work = .startUnlessStarted id :: waitOps id rest ∨
        work = .startRequest id :: waitOps id rest)
      (notStarted : req.coapStarted = false)
      (ready : req.stagingReady = true)
      (first : FirstStaged blockSize payload req received held accepted client rest)
  | startCalling {rest : List Byte} (ops : work = .payloadCb id :: startOps id rest ∨
        work = .takeStagingReady id :: .payloadTake id :: startOps id rest)
      (started : req.coapStarted = true)
      (ready : req.stagingReady = true)
      (first : FirstStaged blockSize payload req received held accepted client rest)
  | startTaking {rest : List Byte} (ops : work = .payloadTake id :: startOps id rest)
      (started : req.coapStarted = true)
      (notReady : req.stagingReady = false)
      (first : FirstStaged blockSize payload req received held accepted client rest)
  | startGiving {rest : List Byte} {length : Nat} (ops : work = .giveStagingConsumed id ::
        .payloadReturn id (some (length, false)) :: startOps id rest)
      (notConsumed : req.stagingConsumed = false)
      (taken : FirstTaken payload req received accepted client rest)
  | startReturning {rest : List Byte}
      (ops : (∃ length, work = .payloadReturn id (some (length, false)) ::
        startOps id rest) ∨ work = startOps id rest)
      (consumed : req.stagingConsumed = true)
      (taken : FirstTaken payload req received accepted client rest)
  | offered {rest : List Byte} {lastBlock : Bool} (ops : OfferedOps id rest lastBlock work)
      (started : req.coapStarted = true)
      (isAccepted : accepted = true)
      (ready : req.stagingReady = true)
      (notConsumed : req.stagingConsumed = false)
      (idle : ClientIdle id client)
      (block : BlockStaged blockSize payload req received held lastBlock rest)
  | taking {rest : List Byte} {lastBlock : Bool} (ops : OfferedOps id rest lastBlock work)
      (started : req.coapStarted = true)
      (isAccepted : accepted = true)
      (notReady : req.stagingReady = false)
      (notConsumed : req.stagingConsumed = false)
      (takes : client = [.payloadTake id])
      (block : BlockStaged blockSize payload req received held lastBlock rest)
  | giving {rest : List Byte} {length : Nat} (ops : OfferedOps id rest false work)
      (notConsumed : req.stagingConsumed = false)
      (gives : client = [.giveStagingConsumed id, .payloadReturn id (some (length, false))])
      (taken : Taken payload req received accepted rest)
  | given {rest : List Byte} (ops : OfferedOps id rest false work)
      (consumed : req.stagingConsumed = true)
      (after : ClientAfter id client)
      (taken : Taken payload req received accepted rest)
  | resetting {rest : List Byte} (ops : work = [.resetStaging id, .sendBlock id rest])
      (notConsumed : req.stagingConsumed = false)
      (after : ClientAfter id client)
      (taken : Taken payload req received accepted rest)
  | done {rest : List Byte} (ops : OfferedOps id rest true work) (started : req.coapStarted = true)
      (all : req.payloadSent = payload.length)
      (complete : received = payload.length)
      (after : client = [] ∨ ∃ length, client = [.payloadReturn id (some (length, true))])

inductive Held (req : CoapRequest) (world : CoapWorld) :
    List (List Byte × Bool) → Prop where
  | nothing (notHanded : world.library.handed = none)
      (notWork : ∀ block, .payloadReturn id block ∉ world.work)
      (notClient : ∀ block, .payloadReturn id block ∉ world.client) :
      Held req world []
  | returning (length : Nat) (lastBlock : Bool) (notHanded : world.library.handed = none)
      (returns : .payloadReturn id (some (length, lastBlock)) ∈ world.work ∨
        .payloadReturn id (some (length, lastBlock)) ∈ world.client) :
      Held req world [(bytesOf req.staging length, lastBlock)]
  | handed (length : Nat) (lastBlock : Bool)
      (isHanded : world.library.handed = some (id, length, lastBlock))
      (notWork : ∀ block, .payloadReturn id block ∉ world.work)
      (notClient : ∀ block, .payloadReturn id block ∉ world.client) :
      Held req world [(bytesOf req.staging length, lastBlock)]

structure UploadInvariant (world : CoapWorld) (req : CoapRequest)
    (accepted : Bool) (held : List (List Byte × Bool)) : Prop where
  live : world.heap id = some req
  pending : world.pendingReq = some id
  length : req.payloadLen = payload.length
  notAborted : req.payloadAborted = false
  known : world.library.accepted = if accepted then some id else none
  modes : ∀ (index : Nat) (mode : ReqId × Nat), world.datamodes[index]? = some mode → mode.1 = id
  received : receivedBytes id world.log <+: payload
  stage : UploadStage blockSize payload id req world.work world.client accepted
    (receivedBytes id world.log).length held
  holds : Held id req world held
  blocks : uploadBlocks blockSize payload = copiedBlocks id world.log ++ held ++
    uploadBlocks blockSize (payload.drop req.payloadSent)

end Stages

/-! ## Steps of the threads -/

section Steps

variable {blockSize : Nat} {payload : List Byte} {id : ReqId}
  {world after : CoapWorld} {req changed : CoapRequest} {accepted : Bool}
  {held : List (List Byte × Bool)}

theorem Held.same (holds : Held id req world held) (staging : changed.staging = req.staging)
    (handed : after.library.handed = world.library.handed)
    (work : ∀ block, .payloadReturn id block ∈ after.work ↔ .payloadReturn id block ∈ world.work)
    (client : ∀ block, .payloadReturn id block ∈ after.client ↔
      .payloadReturn id block ∈ world.client) :
    Held id changed after held := by
  cases holds with
  | nothing notHanded notWork notClient =>
    exact .nothing (handed.trans notHanded)
      (fun block member => notWork block ((work block).mp member))
      (fun block member => notClient block ((client block).mp member))
  | returning length lastBlock notHanded returns =>
    rw [← staging]
    refine .returning length lastBlock (handed.trans notHanded) ?_
    exact returns.imp (work _).mpr (client _).mpr
  | handed length lastBlock isHanded notWork notClient =>
    rw [← staging]
    exact .handed length lastBlock (handed.trans isHanded)
      (fun block member => notWork block ((work block).mp member))
      (fun block member => notClient block ((client block).mp member))

variable {thread : CoapThread} {work client : List CoapOp} {received : Nat}

variable {heldAfter : List (List Byte × Bool)}

theorem UploadInvariant.moved
    (invariant : UploadInvariant blockSize payload id world req accepted held) (live : after.heap id = some changed)
    (pending : after.pendingReq = world.pendingReq)
    (length : changed.payloadLen = req.payloadLen)
    (aborted : changed.payloadAborted = req.payloadAborted)
    (known : after.library.accepted = world.library.accepted)
    (modes : after.datamodes = world.datamodes) (log : after.log = world.log)
    (stage : UploadStage blockSize payload id changed after.work after.client accepted
      (receivedBytes id world.log).length heldAfter)
    (holds : Held id changed after heldAfter)
    (blocks : uploadBlocks blockSize payload = copiedBlocks id world.log ++ heldAfter ++
        uploadBlocks blockSize (payload.drop changed.payloadSent)) :
    UploadInvariant blockSize payload id after changed accepted heldAfter := by
  refine ⟨live, pending.trans invariant.pending, length.trans invariant.length,
    aborted.trans invariant.notAborted, known.trans invariant.known, ?_, ?_, ?_, holds, ?_⟩
  · rw [modes]
    exact invariant.modes
  · rw [log]
    exact invariant.received
  · rw [log]
    exact stage
  · rw [log]
    exact blocks

theorem UploadInvariant.request_step
    (invariant : UploadInvariant blockSize payload id world req accepted held) {next : List CoapOp}
    (length : changed.payloadLen = req.payloadLen)
    (aborted : changed.payloadAborted = req.payloadAborted)
    (stage : UploadStage blockSize payload id changed
      (world.setOps thread next).work (world.setOps thread next).client accepted
      (receivedBytes id world.log).length heldAfter)
    (holds : Held id changed (world.setOps thread next) heldAfter)
    (blocks : uploadBlocks blockSize payload = copiedBlocks id world.log ++ heldAfter ++
        uploadBlocks blockSize (payload.drop changed.payloadSent)) :
    UploadInvariant blockSize payload id
      (((world.setOps thread next).setRequest id changed).record []) changed
      accepted heldAfter := by
  have sameLibrary := library_setOps world thread next
  refine invariant.moved (Function.update_self ..) (pendingReq_setOps world thread next) length
    aborted (congrArg CoapClient.accepted sameLibrary) (datamodes_setOps world thread next) ?_
    stage ?_ blocks
  · exact (append_nil _).trans (log_setOps world thread next)
  · exact holds.same rfl rfl (fun _ => Iff.rfl) fun _ => Iff.rfl

theorem UploadInvariant.held_setOps
    (invariant : UploadInvariant blockSize payload id world req accepted held)
    (staging : changed.staging = req.staging) {next : List CoapOp}
    (before : ∀ block, .payloadReturn id block ∉ world.ops thread)
    (afterwards : ∀ block, .payloadReturn id block ∉ next) :
    Held id changed (world.setOps thread next) held := by
  have same : ∀ block, .payloadReturn id block ∈ next ↔
      .payloadReturn id block ∈ world.ops thread :=
    fun block => iff_of_false (afterwards block) (before block)
  cases thread with
  | work => exact invariant.holds.same staging rfl same fun _ => Iff.rfl
  | client => exact invariant.holds.same staging rfl (fun _ => Iff.rfl) same

theorem UploadInvariant.request_quiet
    (invariant : UploadInvariant blockSize payload id world req accepted held)
    {next : List CoapOp} (length : changed.payloadLen = req.payloadLen)
    (aborted : changed.payloadAborted = req.payloadAborted)
    (staging : changed.staging = req.staging)
    (sent : changed.payloadSent = req.payloadSent)
    (before : ∀ block, .payloadReturn id block ∉ world.ops thread)
    (afterwards : ∀ block, .payloadReturn id block ∉ next)
    (stage : UploadStage blockSize payload id changed
      (world.setOps thread next).work (world.setOps thread next).client accepted
      (receivedBytes id world.log).length held) :
    UploadInvariant blockSize payload id
      (((world.setOps thread next).setRequest id changed).record []) changed accepted held := by
  refine invariant.request_step length aborted stage ?_ ?_
  · exact invariant.held_setOps staging before afterwards
  · rw [sent]
    exact invariant.blocks

theorem UploadStage.more_or_all
    (stage : UploadStage blockSize payload id req work client accepted received held) :
    req.payloadSent < payload.length ∨
      req.payloadSent = payload.length ∧ ∃ rest, OfferedOps id rest true work := by
  cases stage with
  | filling _ _ _ _ more => exact .inl (Nat.lt_of_le_of_lt (Nat.le_add_right _ _) more)
  | full _ _ _ block => exact .inl block.more
  | unstarted _ _ _ first | startCalling _ _ _ first | startTaking _ _ _ first =>
    exact .inl first.block.more
  | startGiving _ _ taken | startReturning _ _ taken => exact .inl taken.more
  | offered _ _ _ _ _ _ block | taking _ _ _ _ _ _ block => exact .inl block.more
  | giving _ _ _ taken | given _ _ _ taken | resetting _ _ _ taken => exact .inl taken.more
  | done ops _ all => exact .inr ⟨all, _, ops⟩

theorem ClientIdle.not_returning (idle : ClientIdle id client) (block : Option (Nat × Bool)) :
    .payloadReturn id block ∉ client := by
  cases idle <;> simp

theorem ClientAfter.idle_of (after : ClientAfter id client)
    (notReturning : ∀ block, .payloadReturn id block ∉ client) :
    ClientIdle id client := by
  cases after with
  | idle idle => exact idle
  | returning length lastBlock =>
    exact absurd (mem_singleton_self _) (notReturning _)

/-! ### Storing -/

theorem bytesOf_overlay_append (buffer : Nat → Byte) (filled : Nat) (more : List Byte) :
    bytesOf (CharBuffer.overlay buffer filled more) (filled + more.length) =
      bytesOf buffer filled ++ more := by
  apply ext_getElem
  · simp [bytesOf]
  · intro index within _
    have below : index < filled + more.length := by
      simpa [bytesOf] using within
    rw [getElem_append]
    split
    · rename_i inside
      have early : index < filled := by simpa [bytesOf] using inside
      simp only [bytesOf, getElem_map, getElem_range]
      exact CharBuffer.overlay_of_outside (.inl early)
    · rename_i outside
      have late : filled ≤ index := by simpa [bytesOf] using outside
      have read : CharBuffer.overlay buffer filled more
          (filled + (index - filled)) = more[index - filled] :=
        CharBuffer.overlay_of_inside (by omega)
      rw [Nat.add_sub_cancel' late] at read
      simpa [bytesOf] using read

variable {copy : Nat} {rest : List Byte}

theorem Unstored.take_eq (unstored : Unstored payload req received rest)
    (within : copy ≤ rest.length) :
    rest.take copy = (payload.drop (req.payloadSent + req.stagingFilled)).take copy := by
  obtain ⟨rfl, _⟩ := unstored
  rw [length_drop, length_take] at within
  rw [drop_take, take_take, Nat.min_eq_left (by omega)]

theorem Staged.store (staged : Staged payload req) (unstored : Unstored payload req received rest)
    (within : copy ≤ rest.length) :
    Staged payload { req with
      staging := CharBuffer.overlay req.staging req.stagingFilled (rest.take copy)
      stagingFilled := req.stagingFilled + copy } := by
  have length : (rest.take copy).length = copy := by
    rw [length_take, Nat.min_eq_left within]
  have appended := bytesOf_overlay_append req.staging req.stagingFilled (rest.take copy)
  rw [length] at appended
  show bytesOf (CharBuffer.overlay _ _ _) (req.stagingFilled + copy) =
    (payload.drop req.payloadSent).take (req.stagingFilled + copy)
  rw [appended, staged, unstored.take_eq within, take_add, drop_drop]

theorem Unstored.store (staging : Nat → Byte) (unstored : Unstored payload req received rest)
    (arrived : received ≤ payload.length) (within : copy ≤ rest.length) :
    Unstored payload { req with
      staging := staging
      stagingFilled := req.stagingFilled + copy } received (rest.drop copy) := by
  obtain ⟨rfl, below⟩ := unstored
  rw [length_drop, length_take] at within
  constructor
  · rw [drop_drop, Nat.add_assoc]
  · show req.payloadSent + (req.stagingFilled + copy) ≤ received
    omega

theorem Held.eq_nil_of_copied (holds : Held id req world held)
    (notWork : ∀ block, .payloadReturn id block ∉ world.work)
    (copied : ¬ Uncopied world) : held = [] := by
  cases holds with
  | nothing => rfl
  | returning length lastBlock _ returns =>
    rcases returns with inWork | inClient
    · exact absurd inWork (notWork _)
    · exact absurd (.inr ⟨id, _, inClient⟩) copied
  | handed length lastBlock isHanded =>
    exact absurd (.inl (by rw [isHanded]; simp)) copied

theorem UploadInvariant.stores
    (invariant : UploadInvariant blockSize payload id world req accepted held)
    (ops : world.work = [.sendBlock id rest]) (some_byte : rest ≠ [])
    (copied : ¬ Uncopied world) (notReady : req.stagingReady = false)
    (notConsumed : req.stagingConsumed = false)
    (space : req.stagingFilled < blockSize)
    (more : req.payloadSent + req.stagingFilled < payload.length)
    (content : Staged payload req)
    (unstored : Unstored payload req (receivedBytes id world.log).length rest)
    (isStarted : req.coapStarted = true → accepted = true ∧ ClientAfter id world.client)
    (notStarted : req.coapStarted = false → accepted = false ∧
      world.client = [] ∧ req.payloadSent = 0)
    (ran : runOp blockSize .work false world = some after) :
    ∃ changed, UploadInvariant blockSize payload id after changed accepted
      held := by
  have notWork : ∀ block, .payloadReturn id block ∉ world.work := by
    rw [ops]
    simp
  have nothingHeld := invariant.holds.eq_nil_of_copied notWork copied
  have arrived := invariant.received.length_le
  have idle : req.coapStarted = true → accepted = true ∧ ClientIdle id world.client := by
    intro started
    obtain ⟨isAccepted, client⟩ := isStarted started
    exact ⟨isAccepted, client.idle_of fun block returns =>
      copied (.inr ⟨id, block, returns⟩)⟩
  rw [runOp_request (by exact ops) rfl invariant.live] at ran
  obtain ⟨copy, isCopy⟩ : ∃ copy, copy = min rest.length (blockSize - req.stagingFilled) := ⟨_, rfl⟩
  have within : copy ≤ rest.length := by omega
  have fits : req.stagingFilled + copy ≤ blockSize := by omega
  have staged := content.store unstored within
  have left := unstored.store (CharBuffer.overlay req.staging
    req.stagingFilled (rest.take copy)) arrived within
  have length := invariant.length
  have heldAfter : ∀ next : List CoapOp, (∀ block, .payloadReturn id block ∉ next) → ∀ changed,
      Held id changed (world.setOps .work next) held := by
    intro next notNext changed
    have holds := invariant.holds
    rw [nothingHeld] at holds ⊢
    cases holds with
    | nothing notHanded _ notClient =>
      exact .nothing notHanded notNext notClient
  simp only [requestOp, if_neg some_byte, ← isCopy] at ran
  split at ran
  · rename_i whole
    rw [map_some, some_inj] at ran
    subst ran
    have last : (decide (req.payloadLen ≤ req.payloadSent + req.stagingFilled + copy)) =
        decide (payload.length ≤ req.payloadSent + (req.stagingFilled + copy)) := by
      rw [length, Nat.add_assoc]
    have isWhole : req.stagingFilled + copy = min blockSize (payload.length - req.payloadSent) := by
      have reached := left.2
      have stillBelow : req.payloadSent + (req.stagingFilled + copy) ≤
          payload.length := Nat.le_trans reached arrived
      rcases whole with isFull | isLast
      · omega
      · have isLast := of_decide_eq_true isLast
        omega
    refine ⟨_, invariant.request_step rfl rfl ?_ ?_ invariant.blocks⟩
    · refine .full ?_ notReady notConsumed
        ⟨nothingHeld, staged, isWhole, Nat.lt_of_le_of_lt (Nat.le_add_right _ _) more, last,
          left⟩ idle notStarted
      simp only [work_setOps_work]
      split
      · rename_i isLast
        have isLast := of_decide_eq_true isLast
        have nothingLeft : rest.drop copy = [] := by
          have reached := left.1
          rw [reached]
          apply drop_of_length_le
          rw [length_take]
          show _ ≤ req.payloadSent + (req.stagingFilled + copy)
          omega
        rw [nothingLeft]
      · rfl
    · apply heldAfter
      intro block
      simp only [mem_cons, reduceCtorEq, false_or]
      split <;> simp
  · rename_i unfinished
    rw [map_some, some_inj] at ran
    subst ran
    rw [not_or] at unfinished
    have notLast : ¬ req.payloadLen ≤ req.payloadSent + req.stagingFilled + copy :=
      fun isLast => unfinished.2 (decide_eq_true isLast)
    have notFull : req.stagingFilled + copy ≠ blockSize := unfinished.1
    refine ⟨_, invariant.request_step rfl rfl ?_ ?_ invariant.blocks⟩
    · refine .filling LoopOps.looping notReady notConsumed ?_ ?_ staged left isStarted notStarted
      · show req.stagingFilled + copy < blockSize
        omega
      · show req.payloadSent + (req.stagingFilled + copy) < payload.length
        omega
    · apply heldAfter
      simp

variable {lastBlock : Bool}

theorem BlockStaged.same (block : BlockStaged blockSize payload req received held lastBlock rest)
    (sent : changed.payloadSent = req.payloadSent)
    (filled : changed.stagingFilled = req.stagingFilled)
    (staging : changed.staging = req.staging) :
    BlockStaged blockSize payload changed received held lastBlock rest := by
  obtain ⟨nothing, content, isFilled, more, last, unstored⟩ := block
  unfold Staged at content
  unfold Unstored at unstored
  refine ⟨nothing, ?_, ?_, ?_, ?_, ?_⟩
  · unfold Staged
    rw [sent, filled, staging]
    exact content
  · rw [sent, filled]
    exact isFilled
  · rw [sent]
    exact more
  · rw [sent, filled]
    exact last
  · unfold Unstored
    rw [sent, filled]
    exact unstored

theorem UploadInvariant.notHanded
    (invariant : UploadInvariant blockSize payload id world req accepted held)
    (nothing : held = []) : world.library.handed = none := by
  have holds := invariant.holds
  rw [nothing] at holds
  cases holds with
  | nothing notHanded => exact notHanded

theorem Held.hand (holds : Held id req world held) {length : Nat}
    (returns : .payloadReturn id (some (length, lastBlock)) ∈ world.work ∨
      .payloadReturn id (some (length, lastBlock)) ∈ world.client)
    (only : ∀ block, .payloadReturn id block ∈ world.work ∨
      .payloadReturn id block ∈ world.client → block = some (length, lastBlock))
    (isHanded : after.library.handed = some (id, length, lastBlock))
    (notWork : ∀ block, .payloadReturn id block ∉ after.work)
    (notClient : ∀ block, .payloadReturn id block ∉ after.client) :
    Held id req after held := by
  cases holds with
  | nothing _ noWork noClient =>
    rcases returns with inWork | inClient
    · exact absurd inWork (noWork _)
    · exact absurd inClient (noClient _)
  | returning _ _ _ isReturned =>
    cases only _ isReturned
    exact .handed length lastBlock isHanded notWork notClient
  | handed _ _ _ noWork noClient =>
    rcases returns with inWork | inClient
    · exact absurd inWork (noWork _)
    · exact absurd inClient (noClient _)

theorem UploadInvariant.hands
    (invariant : UploadInvariant blockSize payload id world req accepted held)
    {next : List CoapOp} {length : Nat}
    (returns : .payloadReturn id (some (length, lastBlock)) ∈ world.work ∨
      .payloadReturn id (some (length, lastBlock)) ∈ world.client)
    (only : ∀ block, .payloadReturn id block ∈ world.work ∨
      .payloadReturn id block ∈ world.client → block = some (length, lastBlock))
    (notWork : ∀ block, .payloadReturn id block ∉ (world.setOps thread next).work)
    (notClient : ∀ block, .payloadReturn id block ∉ (world.setOps thread next).client)
    (stage : UploadStage blockSize payload id req
      (world.setOps thread next).work (world.setOps thread next).client accepted
      (receivedBytes id world.log).length held) :
    UploadInvariant blockSize payload id
      { world.setOps thread next with
        library := { world.library with
          handed := (some (length, lastBlock)).map fun block => (id, block) } }
      req accepted held := by
  refine invariant.moved ((congrFun (heap_setOps world thread next) id).trans invariant.live)
    (pendingReq_setOps world thread next) rfl rfl rfl (datamodes_setOps world thread next)
    (log_setOps world thread next) stage ?_ invariant.blocks
  exact invariant.holds.hand returns only rfl notWork notClient

/-! ### The work queue -/

theorem LoopOps.not_returning (loop : LoopOps id rest work) (block : Option (Nat × Bool)) :
    .payloadReturn id block ∉ work := by
  cases loop <;> simp

theorem OfferedOps.not_returning (ops : OfferedOps id rest lastBlock work)
    (block : Option (Nat × Bool)) : .payloadReturn id block ∉ work := by
  cases ops with
  | ended loop => exact loop.not_returning block
  | _ => simp [waitOps]

def GoesOn (id : ReqId) (req : CoapRequest) (thread : CoapThread)
    (next : List CoapOp) (world after : CoapWorld) : Prop :=
  after = world.setOps thread next ∨
    after = ((world.setOps thread next).setRequest id req).record []

theorem UploadInvariant.goes_on
    (invariant : UploadInvariant blockSize payload id world req accepted held)
    {next : List CoapOp} (goesOn : GoesOn id req thread next world after)
    (stage : UploadStage blockSize payload id req
      (world.setOps thread next).work (world.setOps thread next).client accepted
      (receivedBytes id world.log).length held)
    (holds : Held id req (world.setOps thread next) held) :
    UploadInvariant blockSize payload id after req accepted held := by
  rcases goesOn with rfl | rfl
  · refine invariant.moved ((congrFun (heap_setOps world thread next) id).trans invariant.live)
      (pendingReq_setOps world thread next) rfl rfl
      (congrArg CoapClient.accepted (library_setOps world thread next))
      (datamodes_setOps world thread next) (log_setOps world thread next) stage holds
      invariant.blocks
  · exact invariant.request_step rfl rfl stage holds invariant.blocks

theorem LoopOps.next {rest : List Byte} {expired : Bool}
    (invariant : UploadInvariant blockSize payload id world req accepted held)
    (long : blockSize < payload.length) (loop : LoopOps id rest world.work)
    (ran : runOp blockSize .work expired world = some after) :
    (world.work = [.sendBlock id rest] ∧ rest ≠ []) ∨
      ∃ next, LoopOps id rest next ∧ GoesOn id req .work next world after := by
  cases ops : world.work with
  | nil =>
    simp only [runOp, CoapWorld.ops, ops] at ran
    cases ran
  | cons op later =>
    rw [ops] at loop
    cases loop with
    | calling =>
      right
      replace ran := moduleOp_of_runOp ran ops rfl
      simp only [moduleOp, invariant.pending, some_inj] at ran
      exact ⟨_, .sending, .inl ran.symm⟩
    | sending =>
      right
      obtain ⟨_, moved, rfl⟩ := requestOp_of_runOp ran ops rfl invariant.live
      simp only [requestOp, invariant.length] at moved
      rw [if_neg (by omega)] at moved
      cases moved
      exact ⟨_, .looping, .inr rfl⟩
    | looping =>
      by_cases nothing : rest = []
      · right
        obtain ⟨_, moved, rfl⟩ := requestOp_of_runOp ran ops rfl invariant.live
        rw [requestOp, if_pos nothing] at moved
        cases moved
        exact ⟨_, .resting nothing, .inr rfl⟩
      · exact .inl ⟨rfl, nothing⟩

/-- The next step of the data mode once it gave a block: it starts the request if
it has to, or waits. -/
theorem UploadInvariant.work_offered
    (invariant : UploadInvariant blockSize payload id world req accepted held)
    (long : blockSize < payload.length)
    (ops : OfferedOps id rest lastBlock world.work)
    (started : req.coapStarted = true)
    (stored : lastBlock = true → payload.length ≤ req.payloadSent + req.stagingFilled)
    (notConsumed : lastBlock = false → req.stagingConsumed = false)
    (stage : ∀ next, OfferedOps id rest lastBlock next → UploadStage blockSize payload id req
      next world.client accepted (receivedBytes id world.log).length held)
    (ran : runOp blockSize .work false world = some after) :
    UploadInvariant blockSize payload id after req accepted held := by
  suffices next : ∃ next, OfferedOps id rest lastBlock next ∧
      GoesOn id req .work next world after by
    obtain ⟨next, goes, on⟩ := next
    refine invariant.goes_on on (stage next goes) ?_
    exact invariant.held_setOps rfl ops.not_returning goes.not_returning
  cases isWork : world.work with
  | nil =>
    simp only [runOp, CoapWorld.ops, isWork] at ran
    cases ran
  | cons op later =>
    have requested : ∀ {result}, op.onRequest = some id →
        requestOp blockSize false req later op = some (req, result, []) →
        after = ((world.setOps .work result).setRequest id req).record [] := by
      intro result onRequest moved
      rw [runOp_request (by exact isWork) onRequest invariant.live, moved] at ran
      exact (some_inj.mp ran).symm
    have loops : ∀ {work}, work = world.work → LoopOps id [] work →
        lastBlock = true → ∃ next, OfferedOps id rest lastBlock next ∧
          GoesOn id req .work next world after := by
      rintro _ rfl loop rfl
      rcases loop.next invariant long ran with ⟨_, some_byte⟩ | ⟨next, goes, on⟩
      · exact absurd rfl some_byte
      · exact ⟨next, .ended goes, on⟩
    rw [isWork] at ops
    cases ops with
    | checking =>
      exact ⟨_, .waiting, .inr (requested rfl (by rw [requestOp, if_pos started]))⟩
    | waiting =>
      obtain ⟨_, moved, _⟩ := requestOp_of_runOp ran isWork rfl invariant.live
      simp [requestOp, notConsumed rfl] at moved
    | checkingLast =>
      exact ⟨_, .ended .looping, .inr (requested rfl (by rw [requestOp, if_pos started]))⟩
    | ended loop => exact loops isWork.symm loop rfl
    | exiting =>
      replace ran := moduleOp_of_runOp ran isWork rfl
      simp only [moduleOp, invariant.pending, some_inj] at ran
      exact ⟨_, .exitingTo, .inl ran.symm⟩
    | exitingTo =>
      have all := stored rfl
      refine ⟨_, .ended (.resting rfl), .inr (requested rfl ?_)⟩
      simp only [requestOp, invariant.length, started]
      rw [if_neg (by omega), if_neg (by simp), if_neg (by omega)]

theorem BlockStaged.stored (block : BlockStaged blockSize payload req received held lastBlock rest)
    (isLast : lastBlock = true) : payload.length ≤ req.payloadSent + req.stagingFilled := by
  have last := block.last
  rw [isLast] at last
  exact of_decide_eq_true last.symm

theorem BlockStaged.next_block (positive : 0 < blockSize)
    (block : BlockStaged blockSize payload req received held lastBlock rest) :
    uploadBlocks blockSize (payload.drop req.payloadSent) =
      (bytesOf req.staging req.stagingFilled, lastBlock) :: uploadBlocks blockSize
          (payload.drop (req.payloadSent + req.stagingFilled)) := by
  have filled := block.filled
  have more := block.more
  have length : (payload.drop req.payloadSent).length =
      payload.length - req.payloadSent := length_drop
  have nonempty : payload.drop req.payloadSent ≠ [] := by
    intro nothing
    rw [nothing, length_nil] at length
    omega
  have content : (payload.drop req.payloadSent).take blockSize =
      bytesOf req.staging req.stagingFilled := by
    rw [block.content, filled, ← length, Socket.take_min_left]
  have mark : decide ((payload.drop req.payloadSent).length ≤ blockSize) =
      lastBlock := by
    rw [block.last, length]
    apply decide_eq_decide.mpr
    omega
  have rest : (payload.drop req.payloadSent).drop blockSize =
      payload.drop (req.payloadSent + req.stagingFilled) := by
    rw [drop_drop]
    rcases Nat.le_total blockSize (payload.length - req.payloadSent) with
      whole | short
    · rw [filled, Nat.min_eq_left whole]
    · rw [drop_of_length_le (by omega), drop_of_length_le (by omega)]
  rw [uploadBlocks, markLast_pieces_of_ne_nil positive nonempty, content, mark, rest]
  rfl

theorem UploadInvariant.takes
    (invariant : UploadInvariant blockSize payload id world req accepted held)
    (positive : 0 < blockSize)
    (block : BlockStaged blockSize payload req received held lastBlock rest) :
    uploadBlocks blockSize payload = copiedBlocks id world.log ++
      [(bytesOf req.staging req.stagingFilled, lastBlock)] ++ uploadBlocks blockSize
          (payload.drop (req.payloadSent + req.stagingFilled)) := by
  have blocks := invariant.blocks
  rw [block.nothing, append_nil, block.next_block positive] at blocks
  rw [blocks, append_assoc]
  rfl

/-- A step of the work queue keeps the invariant when the library has copied
before the data mode stores. -/
theorem UploadInvariant.work_run
    (invariant : UploadInvariant blockSize payload id world req accepted held)
    (positive : 0 < blockSize) (long : blockSize < payload.length)
    (copied : ∀ data rest, world.work = .sendBlock id data :: rest → data ≠ [] → ¬ Uncopied world)
    (ran : runOp blockSize .work false world = some after) :
    ∃ changed heldAfter, UploadInvariant blockSize payload id after changed accepted heldAfter := by
  have length := invariant.length
  cases invariant.stage with
  | filling loop notReady notConsumed space more content unstored isStarted notStarted =>
    rcases loop.next invariant long ran with ⟨ops, some_byte⟩ | ⟨next, goes, on⟩
    · obtain ⟨changed, stored⟩ := invariant.stores ops some_byte
        (copied _ _ ops some_byte) notReady notConsumed space more content
        unstored isStarted notStarted ran
      exact ⟨changed, held, stored⟩
    · refine ⟨req, held, invariant.goes_on on ?_ ?_⟩
      · exact .filling goes notReady notConsumed space more content unstored isStarted notStarted
      · exact invariant.held_setOps rfl loop.not_returning goes.not_returning
  | full ops notReady notConsumed block isStarted notStarted =>
    rename_i rest lastBlock
    obtain ⟨_, moved, rfl⟩ := requestOp_of_runOp ran ops rfl invariant.live
    cases moved
    have notWork : ∀ block, .payloadReturn id block ∉ world.work := by
      rw [ops]
      intro block
      split <;> simp [waitOps]
    have notNext := fun block member => notWork block (ops ▸ mem_cons_of_mem _ member)
    rcases Bool.eq_false_or_eq_true req.coapStarted with started | started
    · obtain ⟨isAccepted, idle⟩ := isStarted started
      refine ⟨_, held, invariant.request_quiet rfl rfl rfl rfl notWork notNext ?_⟩
      refine .offered ?_ started isAccepted rfl notConsumed idle (block.same rfl rfl rfl)
      cases lastBlock with
      | false => exact .checking
      | true => exact .checkingLast
    · obtain ⟨notAccepted, resting, first⟩ := notStarted started
      have notLast : lastBlock = false := by
        rw [block.last]
        have filled := block.filled
        apply decide_eq_false
        omega
      subst notLast
      refine ⟨_, held, invariant.request_quiet rfl rfl rfl rfl notWork notNext ?_⟩
      exact .unstarted (.inl rfl) started rfl
        ⟨block.same rfl rfl rfl, first, notAccepted, resting, notConsumed⟩
  | unstarted ops notStarted ready first =>
    rename_i rest
    have notWork : ∀ block, .payloadReturn id block ∉ world.work := by
      rcases ops with ops | ops <;> (rw [ops]; simp [waitOps])
    rcases ops with ops | ops
    · obtain ⟨_, moved, rfl⟩ := requestOp_of_runOp ran ops rfl invariant.live
      rw [requestOp, if_neg (by rw [notStarted]; simp)] at moved
      cases moved
      exact ⟨req, held, invariant.request_quiet rfl rfl rfl rfl notWork
        (by simp [waitOps, coapStartRequest]) (.unstarted (.inr rfl) notStarted ready first)⟩
    · obtain ⟨_, moved, rfl⟩ := requestOp_of_runOp ran ops rfl invariant.live
      rw [requestOp, if_pos (length ▸ long)] at moved
      cases moved
      exact ⟨_, held, invariant.request_quiet rfl rfl rfl rfl notWork (by simp [waitOps])
        (.startCalling (.inl rfl) rfl ready ⟨first.block.same rfl rfl rfl, first.first,
          first.notAccepted, first.resting, first.notConsumed⟩)⟩
  | startCalling ops started ready first =>
    rename_i rest
    have notWork : ∀ block, .payloadReturn id block ∉ world.work := by
      rcases ops with ops | ops <;> (rw [ops]; simp [startOps, waitOps])
    rcases ops with ops | ops
    · obtain ⟨_, moved, rfl⟩ := requestOp_of_runOp ran ops rfl invariant.live
      rw [requestOp, if_neg (length ▸ Nat.not_le.mpr first.block.more)] at moved
      cases moved
      exact ⟨req, held, invariant.request_quiet rfl rfl rfl rfl notWork
        (by simp [waitOps, startOps]) (.startCalling (.inr rfl) started ready first)⟩
    · obtain ⟨_, moved, rfl⟩ := requestOp_of_runOp ran ops rfl invariant.live
      rw [requestOp, if_pos ready] at moved
      cases moved
      exact ⟨_, held, invariant.request_quiet rfl rfl rfl rfl notWork
        (by simp [waitOps, startOps]) (.startTaking rfl started rfl
          ⟨first.block.same rfl rfl rfl, first.first, first.notAccepted, first.resting,
            first.notConsumed⟩)⟩
  | startTaking ops started notReady first =>
    rename_i rest
    have block := first.block
    have notLast : ¬ payload.length ≤ req.payloadSent + req.stagingFilled :=
      of_decide_eq_false block.last.symm
    have goesOn : decide (req.payloadLen ≤ req.payloadSent + req.stagingFilled) = false := by
      rw [length]
      exact decide_eq_false notLast
    obtain ⟨_, moved, rfl⟩ := requestOp_of_runOp ran ops rfl invariant.live
    simp only [requestOp, invariant.notAborted, goesOn, Bool.false_eq_true, if_false] at moved
    cases moved
    refine ⟨_, _, invariant.request_step rfl invariant.notAborted.symm ?_ ?_
      (invariant.takes positive block)⟩
    · exact .startGiving rfl first.notConsumed ⟨started,
        Nat.not_le.mp notLast, block.unstored, first.notAccepted,
        first.resting, notReady⟩
    · refine .returning req.stagingFilled false ?_ (.inl ?_)
      · exact invariant.notHanded block.nothing
      · exact mem_cons_of_mem _ (mem_cons_self ..)
  | startGiving ops notConsumed taken =>
    rename_i rest filled
    obtain ⟨_, moved, rfl⟩ := requestOp_of_runOp ran ops rfl invariant.live
    cases moved
    refine ⟨_, held, invariant.request_step rfl rfl ?_ ?_ invariant.blocks⟩
    · exact .startReturning (.inl ⟨_, rfl⟩) rfl ⟨taken.started, taken.more,
        taken.unstored, taken.notAccepted, taken.resting, taken.notReady⟩
    · refine invariant.holds.same rfl rfl ?_ fun _ => Iff.rfl
      intro block
      rw [ops]
      simp
  | startReturning ops consumed taken =>
    rename_i rest
    rcases ops with ⟨filled, ops⟩ | ops
    · cases moduleOp_of_runOp ran ops rfl
      refine ⟨req, held, invariant.hands (.inl ?_) ?_ ?_ ?_ ?_⟩
      · rw [ops]
        exact mem_cons_self ..
      · rw [ops, taken.resting]
        simp [startOps, waitOps]
      · simp [startOps, waitOps]
      · show ∀ block, .payloadReturn id block ∉ world.client
        rw [taken.resting]
        simp
      · exact .startReturning (.inr rfl) consumed taken
    · cases moduleOp_of_runOp ran ops rfl
  | offered ops started isAccepted ready notConsumed idle block =>
    exact ⟨req, held, invariant.work_offered long ops started block.stored
      (fun _ => notConsumed) (fun _ goes => .offered goes started isAccepted ready notConsumed
        idle block) ran⟩
  | taking ops started isAccepted notReady notConsumed takes block =>
    exact ⟨req, held, invariant.work_offered long ops started block.stored
      (fun _ => notConsumed) (fun _ goes => .taking goes started isAccepted notReady
        notConsumed takes block) ran⟩
  | giving ops notConsumed gives taken =>
    exact ⟨req, held, invariant.work_offered long ops taken.started
      (fun isLast => Bool.noConfusion isLast) (fun _ => notConsumed)
      (fun _ goes => .giving goes notConsumed gives taken) ran⟩
  | given ops consumed afterwards taken =>
    rename_i rest
    have notWork := ops.not_returning
    generalize isWork : world.work = work at ops
    cases ops with
    | checking =>
      obtain ⟨_, moved, rfl⟩ := requestOp_of_runOp ran isWork rfl invariant.live
      rw [requestOp, if_pos taken.started] at moved
      cases moved
      exact ⟨req, held, invariant.request_quiet rfl rfl rfl rfl notWork (by simp [waitOps])
        (.given .waiting consumed afterwards taken)⟩
    | waiting =>
      obtain ⟨_, moved, rfl⟩ := requestOp_of_runOp ran isWork rfl invariant.live
      rw [requestOp, if_pos consumed] at moved
      cases moved
      exact ⟨_, held, invariant.request_quiet rfl rfl rfl rfl notWork (by simp)
        (.resetting rfl rfl afterwards ⟨taken.started, taken.accepted, taken.more,
          taken.unstored, taken.notReady⟩)⟩
  | resetting ops notConsumed afterwards taken =>
    rename_i rest
    obtain ⟨_, moved, rfl⟩ := requestOp_of_runOp ran ops rfl invariant.live
    cases moved
    refine ⟨_, held, invariant.request_quiet rfl rfl rfl rfl ?_ (by simp) ?_⟩
    · show ∀ block, .payloadReturn id block ∉ world.work
      rw [ops]
      simp
    · refine .filling .looping taken.notReady notConsumed positive taken.more rfl
        taken.unstored (fun _ => ⟨taken.accepted, afterwards⟩) ?_
      exact fun notStarted => Bool.noConfusion (taken.started.symm.trans notStarted)
  | done ops started all complete afterwards =>
    exact ⟨req, held, invariant.work_offered long ops started (fun _ => by omega)
      (fun isLast => Bool.noConfusion isLast)
      (fun _ goes => .done goes started all complete afterwards) ran⟩

/-! ### The thread of the library -/

theorem not_run_of_resting {expired : Bool} (resting : world.client = []) :
    runOp blockSize .client expired world = none := by
  simp only [runOp, CoapWorld.ops, resting]

theorem UploadInvariant.client_idle
    (invariant : UploadInvariant blockSize payload id world req accepted held)
    (idle : ClientIdle id world.client)
    (more : req.payloadSent < payload.length)
    (notReady : req.stagingReady = false)
    (stage : ∀ next, ClientIdle id next → UploadStage blockSize payload id req
      world.work next accepted (receivedBytes id world.log).length held)
    (ran : runOp blockSize .client false world = some after) :
    UploadInvariant blockSize payload id after req accepted held := by
  have notClient := idle.not_returning
  generalize isClient : world.client = client at idle
  cases idle with
  | resting =>
    rw [not_run_of_resting isClient] at ran
    cases ran
  | called =>
    obtain ⟨_, moved, rfl⟩ := requestOp_of_runOp ran isClient rfl invariant.live
    rw [requestOp, if_neg (invariant.length ▸ Nat.not_le.mpr more)] at moved
    cases moved
    exact invariant.request_quiet rfl rfl rfl rfl notClient
      ClientIdle.waiting.not_returning (stage _ .waiting)
  | waiting =>
    obtain ⟨_, moved, _⟩ := requestOp_of_runOp ran isClient rfl invariant.live
    simp [requestOp, notReady] at moved

theorem UploadInvariant.client_after
    (invariant : UploadInvariant blockSize payload id world req accepted held)
    (afterwards : ClientAfter id world.client)
    (notWork : ∀ block, .payloadReturn id block ∉ world.work)
    (more : req.payloadSent < payload.length)
    (notReady : req.stagingReady = false)
    (stage : ∀ next, ClientAfter id next → UploadStage blockSize payload id req
      world.work next accepted (receivedBytes id world.log).length held)
    (ran : runOp blockSize .client false world = some after) :
    UploadInvariant blockSize payload id after req accepted held := by
  generalize isClient : world.client = client at afterwards
  cases afterwards with
  | idle idle =>
    rw [← isClient] at idle
    exact invariant.client_idle idle more notReady (fun next idle => stage next (.idle idle)) ran
  | returning length lastBlock =>
    cases moduleOp_of_runOp ran isClient rfl
    refine invariant.hands (.inr ?_) ?_ notWork ?_ (stage _ (.idle .resting))
    · rw [isClient]
      exact mem_singleton_self _
    · rw [isClient]
      rintro block (inWork | inClient)
      · exact absurd inWork (notWork block)
      · simpa using inClient
    · exact ClientIdle.resting.not_returning

theorem UploadInvariant.client_run
    (invariant : UploadInvariant blockSize payload id world req accepted held)
    (positive : 0 < blockSize)
    (ran : runOp blockSize .client false world = some after) :
    ∃ changed heldAfter, UploadInvariant blockSize payload id after changed accepted heldAfter := by
  have length := invariant.length
  have arrived := invariant.received.length_le
  have stuck : ∀ {goal : Prop}, world.client = [] → goal := by
    intro goal resting
    rw [not_run_of_resting resting] at ran
    cases ran
  cases invariant.stage with
  | filling loop notReady notConsumed space more content unstored isStarted notStarted =>
    rcases Bool.eq_false_or_eq_true req.coapStarted with started | started
    · obtain ⟨isAccepted, afterwards⟩ := isStarted started
      refine ⟨req, held, invariant.client_after afterwards
        loop.not_returning (by omega) notReady ?_ ran⟩
      exact fun next goes => .filling loop notReady notConsumed space more content unstored
        (fun _ => ⟨isAccepted, goes⟩)
        fun notStarted => Bool.noConfusion (started.symm.trans notStarted)
    · exact stuck (notStarted started).2.1
  | full ops notReady notConsumed block isStarted notStarted =>
    rcases Bool.eq_false_or_eq_true req.coapStarted with started | started
    · obtain ⟨isAccepted, idle⟩ := isStarted started
      refine ⟨req, held, invariant.client_idle idle block.more notReady ?_ ran⟩
      exact fun next goes => .full ops notReady notConsumed block (fun _ => ⟨isAccepted, goes⟩)
        fun notStarted => Bool.noConfusion (started.symm.trans notStarted)
    · exact stuck (notStarted started).2.1
  | unstarted _ _ _ first | startCalling _ _ _ first | startTaking _ _ _ first =>
    exact stuck first.resting
  | startGiving _ _ taken | startReturning _ _ taken => exact stuck taken.resting
  | offered ops started isAccepted ready notConsumed idle block =>
    have notClient := idle.not_returning
    generalize isClient : world.client = client at idle
    cases idle with
    | resting => exact stuck isClient
    | called =>
      obtain ⟨_, moved, rfl⟩ := requestOp_of_runOp ran isClient rfl invariant.live
      rw [requestOp, if_neg (length ▸ Nat.not_le.mpr block.more)] at moved
      cases moved
      exact ⟨req, held, invariant.request_quiet rfl rfl rfl rfl notClient
        ClientIdle.waiting.not_returning
        (.offered ops started isAccepted ready notConsumed .waiting block)⟩
    | waiting =>
      obtain ⟨_, moved, rfl⟩ := requestOp_of_runOp ran isClient rfl invariant.live
      rw [requestOp, if_pos ready] at moved
      cases moved
      exact ⟨_, held, invariant.request_quiet rfl rfl rfl rfl notClient
        (by simp) (.taking ops started isAccepted rfl notConsumed rfl (block.same rfl rfl rfl))⟩
  | taking ops started isAccepted notReady notConsumed takes block =>
    rename_i rest lastBlock
    have isLast : decide (req.payloadLen ≤ req.payloadSent + req.stagingFilled) = lastBlock := by
      rw [length, block.last]
    have filled := block.filled
    have more := block.more
    have nothing := invariant.notHanded block.nothing
    obtain ⟨_, moved, rfl⟩ := requestOp_of_runOp ran takes rfl invariant.live
    simp only [requestOp, invariant.notAborted, isLast, Bool.false_eq_true, if_false] at moved
    cases moved
    have last := block.last
    cases lastBlock with
    | true =>
      have all := of_decide_eq_true last.symm
      have reached := block.unstored.2
      refine ⟨_, _, invariant.request_step rfl invariant.notAborted.symm ?_ ?_
        (invariant.takes positive block)⟩
      · refine .done ops started ?_ ?_ (.inr ⟨_, rfl⟩)
        · show req.payloadSent + req.stagingFilled = payload.length
          omega
        · omega
      · refine .returning req.stagingFilled true nothing (.inr ?_)
        exact mem_singleton_self _
    | false =>
      have goesOn := of_decide_eq_false last.symm
      refine ⟨_, _, invariant.request_step rfl invariant.notAborted.symm ?_ ?_
        (invariant.takes positive block)⟩
      · exact .giving ops notConsumed rfl ⟨started, isAccepted,
          Nat.not_le.mp goesOn, block.unstored, notReady⟩
      · refine .returning req.stagingFilled false nothing (.inr ?_)
        exact mem_cons_of_mem _ (mem_cons_self ..)
  | giving ops notConsumed gives taken =>
    rename_i rest filled
    obtain ⟨_, moved, rfl⟩ := requestOp_of_runOp ran gives rfl invariant.live
    cases moved
    refine ⟨_, held, invariant.request_step rfl rfl ?_ ?_ invariant.blocks⟩
    · exact .given ops rfl (.returning filled false) ⟨taken.started,
        taken.accepted, taken.more, taken.unstored, taken.notReady⟩
    · refine invariant.holds.same rfl rfl (fun _ => Iff.rfl) ?_
      intro block
      rw [gives]
      simp
  | given ops consumed afterwards taken =>
    refine ⟨req, held, invariant.client_after afterwards ops.not_returning
      taken.more taken.notReady ?_ ran⟩
    exact fun next goes => .given ops consumed goes taken
  | resetting ops notConsumed afterwards taken =>
    refine ⟨req, held, invariant.client_after afterwards ?_ taken.more taken.notReady ?_ ran⟩
    · rw [ops]
      simp
    · exact fun next goes => .resetting ops notConsumed goes taken
  | done ops started all complete afterwards =>
    rcases afterwards with resting | ⟨filled, isClient⟩
    · exact stuck resting
    · cases moduleOp_of_runOp ran isClient rfl
      refine ⟨req, held, invariant.hands (.inr ?_) ?_ ops.not_returning ?_ ?_⟩
      · rw [isClient]
        exact mem_singleton_self _
      · rw [isClient]
        rintro block (inWork | inClient)
        · exact absurd inWork (ops.not_returning block)
        · simpa using inClient
      · simp
      · exact .done ops started all complete (.inl rfl)

/-! ### Data mode and the library -/

theorem received_append (id : ReqId) (log events : List CoapEvent) :
    receivedBytes id (log ++ events) = receivedBytes id log ++ receivedBytes id events :=
  flatMap_append

theorem copied_append (id : ReqId) (log events : List CoapEvent) :
    copiedBlocks id (log ++ events) = copiedBlocks id log ++ copiedBlocks id events :=
  flatMap_append

theorem UploadStage.resting
    (stage : UploadStage blockSize payload id req [] client accepted received
      held) (arrived : received ≤ payload.length) :
    (received < payload.length ∧ ∀ data, received + data.length ≤ payload.length →
        data = (payload.drop received).take data.length →
        UploadStage blockSize payload id req [.datamodeSend data] client
          accepted (received + data.length) held) ∨
    (received = payload.length ∧ ∀ next, (∀ rest, OfferedOps id rest true next) →
        UploadStage blockSize payload id req next client accepted received held) := by
  cases stage with
  | filling loop notReady notConsumed space more content unstored isStarted notStarted =>
    left
    obtain ⟨isRest, below⟩ := unstored
    cases loop with
    | resting nothing =>
      rw [nothing] at isRest
      have reached := congrArg List.length isRest
      rw [length_drop, length_take, length_nil] at reached
      have same : req.payloadSent + req.stagingFilled = received := by
        omega
      refine ⟨by omega, ?_⟩
      intro data fits isNext
      refine .filling .calling notReady notConsumed space more content ?_ isStarted notStarted
      refine ⟨?_, by omega⟩
      rw [same, drop_take, Nat.add_sub_cancel_left]
      exact isNext
  | full ops => cases ops
  | unstarted ops | startCalling ops => rcases ops with ops | ops <;> cases ops
  | startTaking ops | startGiving ops => cases ops
  | startReturning ops => rcases ops with ⟨_, ops⟩ | ops <;> cases ops
  | offered ops started isAccepted ready notConsumed idle block =>
    right
    cases ops with
    | ended loop =>
      have all := block.stored rfl
      have reached := block.unstored.2
      refine ⟨by omega, ?_⟩
      exact fun next goes => .offered (goes _) started isAccepted ready notConsumed idle block
  | taking ops started isAccepted notReady notConsumed takes block =>
    right
    cases ops with
    | ended loop =>
      have all := block.stored rfl
      have reached := block.unstored.2
      refine ⟨by omega, ?_⟩
      exact fun next goes => .taking (goes _) started isAccepted notReady notConsumed takes block
  | giving ops | given ops | resetting ops => cases ops
  | done ops started all complete afterwards =>
    rename_i rest
    right
    exact ⟨complete, fun next goes =>
      .done (goes rest) started all complete afterwards⟩

theorem UploadInvariant.datamode_send
    (invariant : UploadInvariant blockSize payload id world req accepted held)
    {index : Nat} {data : List Byte}
    (next : receivedBytes id world.log ++ data <+: payload)
    (stepped : coapStep blockSize (.datamodeSend index data) world = some after) :
    UploadInvariant blockSize payload id after req accepted held := by
  simp only [coapStep, bind_eq_some_iff, ite_none_right_eq_some, some_inj] at stepped
  obtain ⟨mode, found, ⟨resting, _⟩, rfl⟩ := stepped
  have isMode := invariant.modes index mode found
  have nowReceived : receivedBytes id (world.log ++
      [.received mode.1 data]) = receivedBytes id world.log ++ data := by
    rw [received_append, isMode]
    simp [receivedBytes, receivedOf]
  have sameCopied : copiedBlocks id (world.log ++ [.received mode.1 data]) =
      copiedBlocks id world.log := by
    rw [copied_append]
    exact append_nil _
  have stage := invariant.stage
  rw [resting] at stage
  refine ⟨invariant.live, invariant.pending, invariant.length,
    invariant.notAborted, invariant.known, ?_, ?_, ?_, ?_, ?_⟩
  · intro position other isOther
    rw [getElem?_set] at isOther
    split at isOther
    · split at isOther
      · cases isOther
        exact isMode
      · cases isOther
    · exact invariant.modes position other isOther
  · exact nowReceived ▸ next
  · show UploadStage blockSize payload id req [.datamodeSend data] world.client
      accepted (receivedBytes id (world.log ++ [.received mode.1 data])).length held
    rw [nowReceived, length_append]
    have fits := next.length_le
    rw [length_append] at fits
    have isNext : data = (payload.drop (receivedBytes id world.log).length).take data.length := by
      obtain ⟨later, split⟩ := next
      rw [← split, append_assoc, drop_left, take_left]
    rcases stage.resting (by omega) with ⟨_, sends⟩ | ⟨complete, goes⟩
    · exact sends data fits isNext
    · have nothing : data = [] := eq_nil_of_length_eq_zero (by omega)
      rw [nothing]
      exact goes _ fun rest => .ended .calling
  · refine invariant.holds.same rfl rfl ?_ fun _ => Iff.rfl
    intro block
    rw [resting]
    simp
  · show uploadBlocks blockSize payload = copiedBlocks id (world.log ++
      [.received mode.1 data]) ++ held ++ _
    rw [sameCopied]
    exact invariant.blocks

theorem UploadInvariant.datamode_exit
    (invariant : UploadInvariant blockSize payload id world req accepted held)
    {index : Nat} (all : receivedBytes id world.log = payload)
    (stepped : coapStep blockSize (.datamodeExit index) world = some after) :
    UploadInvariant blockSize payload id after req accepted held := by
  simp only [coapStep, bind_eq_some_iff, ite_none_right_eq_some, some_inj] at stepped
  obtain ⟨mode, found, resting, rfl⟩ := stepped
  have stage := invariant.stage
  rw [resting, all] at stage
  refine ⟨invariant.live, invariant.pending, invariant.length,
    invariant.notAborted, invariant.known, ?_, invariant.received, ?_, ?_,
    invariant.blocks⟩
  · intro position other isOther
    have member := mem_of_mem_eraseIdx (mem_of_getElem? isOther)
    obtain ⟨before, isBefore⟩ := getElem?_of_mem member
    exact invariant.modes before other isBefore
  · show UploadStage blockSize payload id req [.datamodeExit] world.client
      accepted (receivedBytes id world.log).length held
    rw [all]
    rcases stage.resting (Nat.le_refl _) with ⟨less, _⟩ | ⟨_, goes⟩
    · exact absurd less (Nat.lt_irrefl _)
    · exact goes _ fun rest => .exiting
  · refine invariant.holds.same rfl rfl ?_ fun _ => Iff.rfl
    intro block
    rw [resting]
    simp

/-- The library asks for a block unless it has the last one. -/
theorem UploadStage.calls (stage : UploadStage blockSize payload id req work [] true received held)
    (more : req.payloadSent < payload.length) :
    UploadStage blockSize payload id req work [.payloadCb id] true received
      held := by
  cases stage with
  | filling loop notReady notConsumed space more content unstored isStarted notStarted =>
    refine .filling loop notReady notConsumed space more content unstored
      (fun _ => ⟨rfl, .idle .called⟩) ?_
    exact fun off => Bool.noConfusion (notStarted off).1
  | full ops notReady notConsumed block isStarted notStarted =>
    refine .full ops notReady notConsumed block (fun _ => ⟨rfl, .called⟩) ?_
    exact fun off => Bool.noConfusion (notStarted off).1
  | unstarted _ _ _ first | startCalling _ _ _ first | startTaking _ _ _ first =>
    cases first.notAccepted
  | startGiving _ _ taken | startReturning _ _ taken => cases taken.notAccepted
  | offered ops started isAccepted ready notConsumed _ block =>
    exact .offered ops started isAccepted ready notConsumed .called block
  | taking _ _ _ _ _ takes => cases takes
  | giving _ _ gives => cases gives
  | given ops consumed _ taken =>
    exact .given ops consumed (.idle .called) taken
  | resetting ops notConsumed _ taken =>
    exact .resetting ops notConsumed (.idle .called) taken
  | done _ _ all => exact absurd all (Nat.ne_of_lt more)

theorem UploadInvariant.payload_call
    (invariant : UploadInvariant blockSize payload id world req accepted held)
    (long : blockSize < payload.length)
    (wanted : ∀ block, (block, true) ∉ copiedBlocks id world.log)
    (stepped : coapStep blockSize .payloadCall world = some after) :
    UploadInvariant blockSize payload id after req accepted held := by
  simp only [coapStep, bind_eq_some_iff, ite_none_right_eq_some, some_inj] at stepped
  obtain ⟨other, known, ⟨resting, _, notHanded⟩, rfl⟩ := stepped
  have isAccepted := invariant.known
  rw [known] at isAccepted
  cases accepted with
  | false => cases isAccepted
  | true =>
    cases isAccepted
    have more : req.payloadSent < payload.length := by
      refine invariant.stage.more_or_all.resolve_right ?_
      rintro ⟨all, rest, ops⟩
      have nothing : held = [] := invariant.holds.eq_nil_of_copied
        ops.not_returning (by simp [Uncopied, notHanded, resting])
      have blocks := invariant.blocks
      have allCopied : uploadBlocks blockSize payload = copiedBlocks id world.log := by
        rw [blocks, nothing, drop_of_length_le (by omega), append_nil]
        exact append_nil _
      have some_byte : payload ≠ [] := ne_nil_of_length_pos (by omega)
      obtain ⟨block, marked⟩ : ∃ block, (block, true) ∈ uploadBlocks blockSize payload :=
        exists_marked (pieces_ne_nil some_byte)
      rw [allCopied] at marked
      exact wanted block marked
    have stage := invariant.stage
    rw [resting] at stage
    refine ⟨invariant.live, invariant.pending, invariant.length,
      invariant.notAborted, invariant.known, invariant.modes,
      invariant.received, stage.calls more, ?_, invariant.blocks⟩
    refine invariant.holds.same rfl rfl (fun _ => Iff.rfl) ?_
    intro block
    rw [resting]
    simp

theorem UploadStage.copied
    (stage : UploadStage blockSize payload id req work client accepted received
      held) (some_block : held ≠ []) :
    UploadStage blockSize payload id req work client accepted received [] := by
  cases stage with
  | filling loop notReady notConsumed space more content unstored isStarted notStarted =>
    exact .filling loop notReady notConsumed space more content unstored isStarted notStarted
  | full _ _ _ block => exact absurd block.nothing some_block
  | unstarted _ _ _ first | startCalling _ _ _ first | startTaking _ _ _ first =>
    exact absurd first.block.nothing some_block
  | startGiving ops notConsumed taken =>
    exact .startGiving ops notConsumed taken
  | startReturning ops consumed taken =>
    exact .startReturning ops consumed taken
  | offered _ _ _ _ _ _ block | taking _ _ _ _ _ _ block => exact absurd block.nothing some_block
  | giving ops notConsumed gives taken =>
    exact .giving ops notConsumed gives taken
  | given ops consumed afterwards taken =>
    exact .given ops consumed afterwards taken
  | resetting ops notConsumed afterwards taken =>
    exact .resetting ops notConsumed afterwards taken
  | done ops started all complete afterwards =>
    exact .done ops started all complete afterwards

theorem UploadInvariant.copy_block
    (invariant : UploadInvariant blockSize payload id world req accepted held)
    (stepped : coapStep blockSize .copyBlock world = some after) :
    UploadInvariant blockSize payload id after req accepted [] := by
  simp only [coapStep, copyBlock, bind_eq_some_iff] at stepped
  obtain ⟨handed, isHanded, copied⟩ := stepped
  have holds := invariant.holds
  have stage := invariant.stage
  have blocks := invariant.blocks
  cases holds with
  | nothing notHanded | returning _ _ notHanded =>
    rw [isHanded] at notHanded
    cases notHanded
  | handed length lastBlock wasHanded notWork notClient =>
    rw [isHanded, some_inj] at wasHanded
    subst wasHanded
    simp only [invariant.live, some_inj] at copied
    subst copied
    have nowCopied : copiedBlocks id (world.log ++
        [.copied id (bytesOf req.staging length) lastBlock]) =
        copiedBlocks id world.log ++ [(bytesOf req.staging length, lastBlock)] := by
      rw [copied_append]
      simp [copiedBlocks, copiedOf]
    have sameReceived : receivedBytes id (world.log ++
        [.copied id (bytesOf req.staging length) lastBlock]) =
        receivedBytes id world.log := by
      rw [received_append]
      exact append_nil _
    refine ⟨invariant.live, invariant.pending, invariant.length,
      invariant.notAborted, invariant.known, invariant.modes, ?_, ?_, ?_, ?_⟩
    · exact sameReceived ▸ invariant.received
    · show UploadStage blockSize payload id req world.work world.client
        accepted (receivedBytes id (world.log ++ [.copied id _ _])).length []
      rw [sameReceived]
      exact stage.copied (cons_ne_nil _ _)
    · exact .nothing rfl notWork notClient
    · show uploadBlocks blockSize payload =
        copiedBlocks id (world.log ++ [.copied id _ _]) ++ [] ++ _
      rw [nowCopied, append_nil]
      exact blocks

theorem UploadInvariant.accepted_by_library
    (invariant : UploadInvariant blockSize payload id world req accepted held)
    (stepped : coapStep blockSize (.clientReqReturn true) world = some after) :
    UploadInvariant blockSize payload id after req true held := by
  obtain ⟨other, later, ops, returned⟩ : ∃ other later,
      world.work = .clientReqReturn other :: later ∧
        clientReqReturn blockSize true other later world = some after := by
    simp only [coapStep] at stepped
    split at stepped
    · exact ⟨_, _, ‹_›, stepped⟩
    · cases stepped
  have stage := invariant.stage
  rw [ops] at stage
  cases stage with
  | filling loop => cases loop
  | full isOps => cases isOps
  | unstarted isOps | startCalling isOps => rcases isOps with isOps | isOps <;> cases isOps
  | startTaking isOps | startGiving isOps => cases isOps
  | startReturning isOps consumed taken =>
    rename_i rest
    rcases isOps with ⟨_, isOps⟩ | isOps
    · cases isOps
    · cases isOps
      simp only [clientReqReturn, CoapWorld.useRequest, invariant.live,
        if_true, some_inj] at returned
      subst returned
      refine ⟨invariant.live, invariant.pending, invariant.length,
        invariant.notAborted, rfl, invariant.modes, invariant.received, ?_,
        ?_, invariant.blocks⟩
      · refine .given .waiting consumed (.idle ?_) ⟨taken.started, rfl,
          taken.more, taken.unstored, taken.notReady⟩
        show ClientIdle id world.client
        rw [taken.resting]
        exact .resting
      · refine invariant.holds.same rfl rfl ?_ fun _ => Iff.rfl
        intro block
        rw [ops]
        simp
  | offered isOps | taking isOps =>
    cases isOps with
    | ended loop => cases loop
  | giving isOps | given isOps | resetting isOps => cases isOps
  | done isOps =>
    cases isOps with
    | ended loop => cases loop

theorem UploadInvariant.next
    (invariant : UploadInvariant blockSize payload id world req accepted held)
    (positive : 0 < blockSize) (long : blockSize < payload.length)
    {action : CoapAction} (uploads : UploadStep id payload world action)
    (copied : CopiedBeforeRefill world action)
    (stepped : coapStep blockSize action world = some after) :
    ∃ changed acceptedAfter heldAfter, UploadInvariant blockSize payload id
      after changed acceptedAfter heldAfter := by
  cases action with
  | datamodeSend index data =>
    exact ⟨req, accepted, held, invariant.datamode_send uploads stepped⟩
  | datamodeExit index =>
    exact ⟨req, accepted, held, invariant.datamode_exit uploads stepped⟩
  | payloadCall =>
    exact ⟨req, accepted, held, invariant.payload_call long uploads stepped⟩
  | copyBlock => exact ⟨req, accepted, [], invariant.copy_block stepped⟩
  | clientReqReturn success =>
    cases uploads
    exact ⟨req, true, held, invariant.accepted_by_library stepped⟩
  | run thread expired =>
    cases uploads
    cases thread with
    | work =>
      obtain ⟨changed, heldAfter, kept⟩ := invariant.work_run positive long
        (fun data rest => copied false id data rest rfl) stepped
      exact ⟨changed, accepted, heldAfter, kept⟩
    | client =>
      obtain ⟨changed, heldAfter, kept⟩ :=
        invariant.client_run positive stepped
      exact ⟨changed, accepted, heldAfter, kept⟩
  | request | cancel | pull | response => exact uploads.elim

theorem UploadInvariant.initially (positive : 0 < blockSize) (long : blockSize < payload.length)
    (start : UploadStart blockSize payload id world) :
    ∃ req, UploadInvariant blockSize payload id world req false [] := by
  obtain ⟨req, live, length, sent, notStarted, filled, notReady, notConsumed,
    notAborted⟩ := start.request
  refine ⟨req, live, start.pending, length, notAborted, start.library.1, ?_, ?_, ?_, ?_, ?_⟩
  · intro index mode found
    have member := mem_of_getElem? found
    rw [start.datamodes, mem_singleton] at member
    rw [member]
  · rw [start.received]
    exact nil_prefix
  · rw [start.received, start.work, start.client]
    refine .filling (.resting rfl) notReady notConsumed ?_ ?_ ?_ ?_ ?_ ?_
    · omega
    · omega
    · simp [Staged, bytesOf, filled]
    · simp [Unstored, sent, filled]
    · intro started
      rw [notStarted] at started
      cases started
    · exact fun _ => ⟨rfl, rfl, sent⟩
  · refine .nothing start.library.2 ?_ ?_
    · rw [start.work]
      simp
    · rw [start.client]
      simp
  · rw [start.copied, sent]
    rfl

end Steps

/-- The blocks that the library copies are those of the payload, in order, in
every run in which it has copied a block before the data mode stores again. -/
theorem upload_in_order (blockSize : Nat) (positive : 0 < blockSize)
    (payload : List Byte) (long : blockSize < payload.length) (id : ReqId)
    (world : CoapWorld)
    (reachable : Reachable (coapStep blockSize)
      (fun world action => UploadStep id payload world action ∧ CopiedBeforeRefill world action)
      (UploadStart blockSize payload id) world) :
    copiedBlocks id world.log <+: uploadBlocks blockSize payload ∧
      ∀ block, (block, true) ∈ copiedBlocks id world.log →
        copiedBlocks id world.log = uploadBlocks blockSize payload := by
  obtain ⟨req, accepted, held, invariant⟩ : ∃ req accepted held,
      UploadInvariant blockSize payload id world req accepted held := by
    apply reachable.invariant
    · intro state start
      obtain ⟨req, initially⟩ :=
        UploadInvariant.initially positive long start
      exact ⟨req, false, [], initially⟩
    · rintro state action after ⟨req, accepted, held, invariant⟩ ⟨uploads, copied⟩ stepped
      exact invariant.next positive long uploads copied stepped
  have blocks := invariant.blocks
  rw [append_assoc] at blocks
  refine ⟨⟨_, blocks.symm⟩, ?_⟩
  intro block marked
  have nothing := eq_nil_of_marked blocks marked
  rw [blocks, nothing, append_nil]

/-! ## Runs -/

theorem uploadStart_of_request (blockSize : Nat) (payload : List Byte)
    (some_byte : payload ≠ []) (command : CoapReqCommand)
    (allocated : command.allocated = true) (prepared : command.prepared = true)
    (datamode : command.datamode = true)
    (length : command.payloadLen = payload.length) (world : CoapWorld)
    (reached : runActions (coapStep blockSize) (.request command :: replicate 4 (.run .work false))
      CoapWorld.initial = some world) :
    UploadStart blockSize payload 0 world := by
  have positive : 0 < command.payloadLen := by
    rw [length]
    exact length_pos_iff.mpr some_byte
  simp [runActions, replicate, coapStep, CoapWorld.initial, runOp,
    CoapWorld.ops, CoapOp.onRequest, moduleOp, CoapWorld.setOps, allocated,
    CoapWorld.useRequest, prepareRequest, prepared, datamode, positive,
    CoapWorld.setRequest, CoapWorld.record, allocRequest] at reached
  subst reached
  refine ⟨rfl, rfl, rfl, ⟨rfl, rfl⟩, ?_, ?_, rfl, rfl⟩
  · rw [length]
  · refine ⟨{ allocRequest command.pipe with
      fd := command.handle
      payloadLen := command.payloadLen
      manualRx := command.manualRx
      hexRx := command.hexRx }, ?_, length, rfl, rfl, rfl, rfl, rfl, rfl⟩
    simp [allocRequest]

def uploads (id : ReqId) (payload : List Byte) (world : CoapWorld) : CoapAction → Bool
  | .datamodeSend _ data =>
    (receivedBytes id world.log ++ data).isPrefixOf payload
  | .datamodeExit _ => receivedBytes id world.log = payload
  | .payloadCall => (copiedBlocks id world.log).all fun block => !block.2
  | .copyBlock => true
  | .clientReqReturn success => success
  | .run _ expired => !expired
  | _ => false

theorem uploadStep_of_uploads {id : ReqId} {payload : List Byte}
    {world : CoapWorld} {action : CoapAction}
    (checked : uploads id payload world action = true) :
    UploadStep id payload world action := by
  cases action with
  | datamodeSend index data => exact isPrefixOf_iff_prefix.mp checked
  | datamodeExit index =>
    have all : decide (receivedBytes id world.log = payload) = true := checked
    show receivedBytes id world.log = payload
    exact of_decide_eq_true all
  | payloadCall =>
    intro block marked
    have unmarked := List.all_eq_true.mp checked _ marked
    cases unmarked
  | copyBlock => trivial
  | clientReqReturn success => exact checked
  | run thread expired =>
    have inTime : (!expired) = true := checked
    show expired = false
    simpa using inTime
  | request | cancel | pull | response => cases checked

def copiesFirst (world : CoapWorld) : CoapAction → Bool
  | .run .work _ =>
    match world.work with
    | .sendBlock _ (_ :: _) :: _ =>
      world.library.handed.isNone && world.client.isEmpty
    | _ => true
  | _ => true

theorem copiedBeforeRefill_of_copiesFirst {world : CoapWorld}
    {action : CoapAction} (checked : copiesFirst world action = true) :
    CopiedBeforeRefill world action := by
  rintro expired id data rest rfl ops some_byte
  cases data with
  | nil => exact absurd rfl some_byte
  | cons byte later =>
    simp only [copiesFirst, ops, Bool.and_eq_true, isNone_iff_eq_none, List.isEmpty_iff] at checked
    simp [Uncopied, checked.1, checked.2]

open CoapAction in
def requestFive : List CoapAction :=
  request ⟨1, none, 5, false, false, true, true, true⟩ :: replicate 4 (run .work false)

open CoapAction in
/-- The data mode gets the five bytes in two parts and gives the first block. -/
def uploadFirst : List CoapAction :=
  [datamodeSend 0 [1]] ++ replicate 4 (run .work false) ++
    [datamodeSend 0 [2, 3, 4, 5]] ++ replicate 11 (run .work false) ++
    [.clientReqReturn true]

open CoapAction in
def uploadFive : List CoapAction :=
  uploadFirst ++ [.copyBlock] ++ replicate 5 (run .work false) ++
    [payloadCall] ++ replicate 5 (run .client false) ++ [.copyBlock] ++
    replicate 6 (run .work false) ++
    [payloadCall] ++ replicate 4 (run .client false) ++ [.copyBlock]

open CoapAction in
/-- The data mode stores the third block before the library has copied the
second one. -/
def uploadTooEarly : List CoapAction :=
  uploadFirst ++ [.copyBlock] ++ replicate 5 (run .work false) ++
    [payloadCall] ++ replicate 4 (run .client false) ++
    replicate 3 (run .work false) ++ [run .client false, .copyBlock]

theorem requestFive_starts : ∃ start, runActions (coapStep 2) requestFive CoapWorld.initial =
        some start ∧ UploadStart 2 [1, 2, 3, 4, 5] 0 start := by
  have ran : (runActions (coapStep 2) requestFive CoapWorld.initial).isSome = true := by
    decide
  obtain ⟨start, reached⟩ := isSome_iff_exists.mp ran
  exact ⟨start, reached, uploadStart_of_request 2 [1, 2, 3, 4, 5]
    (cons_ne_nil _ _) _ rfl rfl rfl rfl start reached⟩

/-- Five bytes in blocks of two. -/
theorem uploadFive_in_order : ∃ world, Reachable (coapStep 2)
        (fun world action => UploadStep 0 [1, 2, 3, 4, 5] world action ∧
          CopiedBeforeRefill world action)
        (UploadStart 2 [1, 2, 3, 4, 5] 0) world ∧
      copiedBlocks 0 world.log = [([1, 2], false), ([3, 4], false), ([5], true)] ∧
      copiedBlocks 0 world.log = uploadBlocks 2 [1, 2, 3, 4, 5] := by
  obtain ⟨start, reached, starts⟩ := requestFive_starts
  let check := fun world action =>
    uploads 0 [1, 2, 3, 4, 5] world action && copiesFirst world action
  have evaluated : (((runActions (coapStep 2) requestFive
      CoapWorld.initial).bind (runChecked (coapStep 2) check uploadFive)).map
        fun world => copiedBlocks 0 world.log) =
      some [([1, 2], false), ([3, 4], false), ([5], true)] := by
    decide
  rw [reached, bind_some, map_eq_some_iff] at evaluated
  obtain ⟨world, ran, copied⟩ := evaluated
  have reachable : Reachable (coapStep 2)
      (fun world action => UploadStep 0 [1, 2, 3, 4, 5] world action ∧
        CopiedBeforeRefill world action)
      (UploadStart 2 [1, 2, 3, 4, 5] 0) world := by
    refine reachable_of_runChecked uploadFive ?_ (.start starts) ran
    intro before action _ checked
    obtain ⟨uploading, copies⟩ := Bool.and_eq_true_iff.mp checked
    exact ⟨uploadStep_of_uploads uploading, copiedBeforeRefill_of_copiesFirst copies⟩
  refine ⟨world, reachable, copied, ?_⟩
  refine (upload_in_order 2 (by decide) [1, 2, 3, 4, 5] (by decide) 0 world reachable).2 [5] ?_
  rw [copied]
  decide

/-- Without the condition a block is overwritten before it is copied. -/
theorem uploadTooEarly_overwrites : ∃ world, Reachable (coapStep 2) (UploadStep 0 [1, 2, 3, 4, 5])
        (UploadStart 2 [1, 2, 3, 4, 5] 0) world ∧
      copiedBlocks 0 world.log = [([1, 2], false), ([5, 4], false)] ∧
      ¬ copiedBlocks 0 world.log <+: uploadBlocks 2 [1, 2, 3, 4, 5] := by
  obtain ⟨start, reached, starts⟩ := requestFive_starts
  have evaluated : (((runActions (coapStep 2) requestFive
      CoapWorld.initial).bind (runChecked (coapStep 2)
        (uploads 0 [1, 2, 3, 4, 5]) uploadTooEarly)).map
        fun world => copiedBlocks 0 world.log) =
      some [([1, 2], false), ([5, 4], false)] := by
    decide
  rw [reached, bind_some, map_eq_some_iff] at evaluated
  obtain ⟨world, ran, copied⟩ := evaluated
  refine ⟨world, ?_, copied, ?_⟩
  · exact reachable_of_runChecked uploadTooEarly
      (fun _ _ _ checked => uploadStep_of_uploads checked) (.start starts) ran
  · rw [copied]
    decide

end SerialModem.Coap
