import SerialModem.Coap.System

/-!
# What the threads have to do

The operations of one thread leave those of the other alone.  The thread of the
library is always somewhere in one call of a callback.
-/

namespace SerialModem.Coap

open Library Option
open AtHost

variable {blockSize : Nat}

section World

variable (world : CoapWorld) (thread : CoapThread) (list : List CoapOp)
  (id : ReqId) (req : CoapRequest) (events : List CoapEvent)

@[simp] theorem work_setOps_work : (world.setOps .work list).work = list := rfl

@[simp] theorem client_setOps_client : (world.setOps .client list).client = list := rfl

@[simp] theorem client_setOps_work : (world.setOps .work list).client = world.client := rfl

@[simp] theorem work_setOps_client : (world.setOps .client list).work = world.work := rfl

@[simp] theorem ops_setOps : (world.setOps thread list).ops thread = list := by
  cases thread <;> rfl

@[simp] theorem heap_setOps : (world.setOps thread list).heap = world.heap := by
  cases thread <;> rfl

@[simp] theorem log_setOps : (world.setOps thread list).log = world.log := by
  cases thread <;> rfl

@[simp] theorem pendingReq_setOps : (world.setOps thread list).pendingReq = world.pendingReq := by
  cases thread <;> rfl

@[simp] theorem fresh_setOps : (world.setOps thread list).fresh = world.fresh := by
  cases thread <;> rfl

@[simp] theorem mutex_setOps : (world.setOps thread list).mutex = world.mutex := by
  cases thread <;> rfl

@[simp] theorem datamodes_setOps : (world.setOps thread list).datamodes = world.datamodes := by
  cases thread <;> rfl

@[simp] theorem library_setOps : (world.setOps thread list).library = world.library := by
  cases thread <;> rfl

end World

variable {thread : CoapThread} {expired : Bool} {world : CoapWorld}

theorem runOp_cases {after : CoapWorld} (ran : runOp blockSize thread expired world = some after) :
    ∃ op rest, world.ops thread = op :: rest ∧ ((op.onRequest = none ∧
        moduleOp blockSize thread rest world op = some after) ∨
      (∃ id, op.onRequest = some id ∧ world.heap id = none ∧
        after = (world.setOps thread []).record [.misused id]) ∨
      ∃ id req result, op.onRequest = some id ∧ world.heap id = some req ∧
        requestOp blockSize expired req rest op = some result ∧
        after = ((world.setOps thread result.2.1).setRequest id result.1).record result.2.2) := by
  unfold runOp at ran
  split at ran
  · cases ran
  · rename_i op rest ops
    refine ⟨op, rest, ops, ?_⟩
    split at ran
    · rename_i onModule
      exact .inl ⟨onModule, ran⟩
    · rename_i id onRequest
      right
      unfold CoapWorld.useRequest at ran
      split at ran
      · rename_i closed
        exact .inl ⟨id, onRequest, closed, (some_inj.mp ran).symm⟩
      · rename_i req live
        obtain ⟨result, operated, rfl⟩ := map_eq_some_iff.mp ran
        exact .inr ⟨id, req, result, onRequest, live, operated, rfl⟩

variable {op : CoapOp} {rest : List CoapOp} {req : CoapRequest}

theorem runOp_request {id : ReqId} (ops : world.ops thread = op :: rest)
    (onRequest : op.onRequest = some id) (live : world.heap id = some req)
    (expired : Bool) :
    runOp blockSize thread expired world =
      (requestOp blockSize expired req rest op).map fun result =>
        ((world.setOps thread result.2.1).setRequest id result.1).record result.2.2 := by
  simp only [runOp, ops, onRequest, CoapWorld.useRequest, live]

section Run

variable {id : ReqId} {after : CoapWorld} (ran : runOp blockSize thread expired world = some after)

include ran

theorem requestOp_of_runOp (ops : world.ops thread = op :: rest)
    (onRequest : op.onRequest = some id) (live : world.heap id = some req) :
    ∃ result, requestOp blockSize expired req rest op = some result ∧
      ((world.setOps thread result.2.1).setRequest id result.1).record result.2.2 =
        after := by
  rw [runOp_request ops onRequest live] at ran
  exact map_eq_some_iff.mp ran

theorem moduleOp_of_runOp (ops : world.ops thread = op :: rest) (onModule : op.onRequest = none) :
    moduleOp blockSize thread rest world op = some after := by
  simp only [runOp, ops, onModule] at ran
  exact ran

theorem runOp_lock (ops : world.ops thread = .lock :: rest) :
    after = { world.setOps thread rest with mutex := some thread } := by
  have locked := moduleOp_of_runOp ran ops rfl
  simp only [moduleOp, ite_none_right_eq_some, some_inj] at locked
  exact locked.2.symm

end Run

variable {result : CoapRequest × List CoapOp × List CoapEvent}

theorem requestOp_request {blockSize : Nat}
    (moved : requestOp blockSize expired req rest op = some result) :
    ∀ next, next ∈ result.2.1 →
      next ∈ rest ∨ next.request = none ∨ next.request = op.request := by
  have straight : ∀ next : CoapOp, next ∈ rest →
      next ∈ rest ∨ next.request = none ∨ next.request = op.request :=
    fun _ member => .inl member
  cases op with
  | callback id data =>
    cases data with
    | failed =>
      cases moved
      simp [coapFailRequest, coapFinishRequest, CoapOp.request]
    | block code payload lastBlock =>
      simp only [requestOp] at moved
      (repeat' split at moved) <;> cases moved <;>
        simp [coapFailRequest, coapFinishRequest, CoapOp.request]
  | takeRxConsumed id | payloadCb id | takeStagingReady id | payloadTake id
  | startRequest id | startUnlessStarted id | takeStagingConsumed id
  | sendBlock id data | datamodeSendTo id data | datamodeExitTo id
  | callbackEnd id lastBlock =>
    simp only [requestOp] at moved
    (repeat' split at moved) <;> cases moved <;>
      grind [CoapOp.request, coapStartRequest, coapFailRequest, coapFinishRequest]
  | failStatus id | sendStatus id | giveStagingConsumed id
  | giveStagingReady id | resetStaging id | giveRxConsumed id
  | storeBlock id payload | sendHead id code length | sendData id payload =>
    cases moved
    exact straight
  | _ => cases moved

/-- What may be left of a function of the library's thread. -/
inductive ClientShape (blockSize : Nat) : List CoapOp → Prop where
  | resting : ClientShape blockSize []
  | called (id : ReqId) (data : CoapResponse) : ClientShape blockSize [.callback id data]
  | storing (id : ReqId) {payload : List Byte} (code : Int) (length : Nat)
      (lastBlock : Bool) (some_byte : payload ≠ [])
      (fits : payload.length ≤ blockSize) :
      ClientShape blockSize [.lock, .storeBlock id payload, .unlock,
        .sendHead id code length, .takeRxConsumed id, .callbackEnd id lastBlock]
  | storingLocked (id : ReqId) {payload : List Byte} (code : Int)
      (length : Nat) (lastBlock : Bool) (some_byte : payload ≠ [])
      (fits : payload.length ≤ blockSize) :
      ClientShape blockSize [.storeBlock id payload, .unlock,
        .sendHead id code length, .takeRxConsumed id, .callbackEnd id lastBlock]
  | stored (id : ReqId) (code : Int) (length : Nat) (lastBlock : Bool) :
      ClientShape blockSize [.unlock, .sendHead id code length, .takeRxConsumed id,
        .callbackEnd id lastBlock]
  | notifying (id : ReqId) (code : Int) (length : Nat) (lastBlock : Bool) :
      ClientShape blockSize [.sendHead id code length, .takeRxConsumed id,
        .callbackEnd id lastBlock]
  | waiting (id : ReqId) (lastBlock : Bool) : ClientShape blockSize
        [.takeRxConsumed id, .callbackEnd id lastBlock]
  | delivering (id : ReqId) (payload : List Byte) (lastBlock : Bool) :
      ClientShape blockSize [.sendData id payload, .callbackEnd id lastBlock]
  | ending (id : ReqId) (lastBlock : Bool) : ClientShape blockSize [.callbackEnd id lastBlock]
  | failing (id : ReqId) : ClientShape blockSize [.failStatus id, .sendStatus id, .lock,
        .closeRequest id, .unlock]
  | finishing (id : ReqId) :
      ClientShape blockSize [.sendStatus id, .lock, .closeRequest id, .unlock]
  | locking (id : ReqId) : ClientShape blockSize [.lock, .closeRequest id, .unlock]
  | closing (id : ReqId) : ClientShape blockSize [.closeRequest id, .unlock]
  | unlocking : ClientShape blockSize [.unlock]
  | payloadCalled (id : ReqId) : ClientShape blockSize [.payloadCb id]
  | payloadWaiting (id : ReqId) : ClientShape blockSize [.takeStagingReady id, .payloadTake id]
  | payloadTaking (id : ReqId) : ClientShape blockSize [.payloadTake id]
  | payloadGiving (id : ReqId) (block : Option (Nat × Bool)) :
      ClientShape blockSize [.giveStagingConsumed id, .payloadReturn id block]
  | payloadReturning (id : ReqId) (block : Option (Nat × Bool)) :
      ClientShape blockSize [.payloadReturn id block]

theorem ClientShape.one_request {id : ReqId} (shape : ClientShape blockSize (op :: rest))
    (isRequest : op.request = some id) :
    ∀ next, next ∈ op :: rest →
      next.request = none ∨ next.request = some id := by
  cases shape <;> simp [CoapOp.request] at isRequest ⊢ <;> exact isRequest

theorem ClientShape.next_request (shape : ClientShape blockSize (op :: rest))
    (moved : requestOp blockSize expired req rest op = some result) :
    ClientShape blockSize result.2.1 := by
  cases shape with
  | called id data =>
    cases data with
    | failed =>
      cases moved
      exact .failing id
    | block code payload lastBlock =>
      simp only [requestOp] at moved
      split at moved
      · cases moved
        exact .ending id lastBlock
      · rename_i some_byte
        split at moved
        · split at moved
          · cases moved
            exact .failing id
          · rename_i fits
            cases moved
            exact .storing id code _ lastBlock some_byte (Nat.not_lt.mp fits)
        · cases moved
          exact .delivering id payload lastBlock
  | storingLocked id code length lastBlock _ _ =>
    cases moved
    exact .stored id code length lastBlock
  | notifying id code length lastBlock =>
    cases moved
    exact .waiting id lastBlock
  | waiting id lastBlock =>
    simp only [requestOp] at moved
    split at moved
    · cases moved
      exact .ending id lastBlock
    · split at moved
      · cases moved
        exact .failing id
      · cases moved
  | delivering id payload lastBlock =>
    cases moved
    exact .ending id lastBlock
  | ending id lastBlock =>
    cases moved
    cases lastBlock with
    | false => exact .resting
    | true => exact .finishing id
  | failing id =>
    cases moved
    exact .finishing id
  | finishing id =>
    cases moved
    exact .locking id
  | payloadCalled id =>
    simp only [requestOp] at moved
    split at moved
    · cases moved
      exact .payloadReturning id _
    · cases moved
      exact .payloadWaiting id
  | payloadWaiting id =>
    simp only [requestOp] at moved
    split at moved
    · cases moved
      exact .payloadTaking id
    · split at moved
      · cases moved
        exact .payloadReturning id none
      · cases moved
  | payloadTaking id =>
    simp only [requestOp] at moved
    split at moved
    · cases moved
      exact .payloadReturning id none
    · cases moved
      dsimp only
      split
      · exact .payloadReturning id _
      · exact .payloadGiving id _
  | payloadGiving id block =>
    cases moved
    exact .payloadReturning id block
  | _ => cases moved

theorem ClientShape.next_module {after : CoapWorld} (shape : ClientShape blockSize (op :: rest))
    (moved : moduleOp blockSize .client rest world op = some after) :
    ClientShape blockSize after.client ∧ after.work = world.work := by
  cases shape with
  | storing id code length lastBlock some_byte fits =>
    simp only [moduleOp, ite_none_right_eq_some, some_inj] at moved
    rw [← moved.2]
    exact ⟨.storingLocked id code length lastBlock some_byte fits, rfl⟩
  | locking id =>
    simp only [moduleOp, ite_none_right_eq_some, some_inj] at moved
    rw [← moved.2]
    exact ⟨.closing id, rfl⟩
  | stored id code length lastBlock =>
    cases moved
    exact ⟨.notifying id code length lastBlock, rfl⟩
  | closing id =>
    simp only [moduleOp, CoapWorld.useRequest] at moved
    split at moved
    · cases moved
      exact ⟨.resting, rfl⟩
    · cases moved
      exact ⟨.unlocking, rfl⟩
  | unlocking | payloadReturning id block =>
    cases moved
    exact ⟨.resting, rfl⟩
  | _ => cases moved

theorem ClientShape.next {expired : Bool} {world after : CoapWorld}
    (shape : ClientShape blockSize world.client)
    (ran : runOp blockSize .client expired world = some after) :
    ClientShape blockSize after.client ∧ after.work = world.work := by
  obtain ⟨op, rest, ops, ⟨_, moved⟩ | ⟨_, _, _, rfl⟩ |
    ⟨id, req, result, _, _, moved, rfl⟩⟩ := runOp_cases ran
  · change world.client = op :: rest at ops
    rw [ops] at shape
    exact shape.next_module moved
  · exact ⟨.resting, rfl⟩
  · change world.client = op :: rest at ops
    rw [ops] at shape
    exact ⟨shape.next_request moved, rfl⟩

end SerialModem.Coap
