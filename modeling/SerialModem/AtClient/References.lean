import SerialModem.Uart.References

/-!
# The receive buffers of the client

The client counts the references to its blocks in the way of `sm_uart_handler.c`,
but its `block_start_get` takes the offset of the data in a block off the pointer
first.  So it finds the block of a pointer into the data, and not the block of a
pointer to the block itself.
-/

namespace SerialModem.AtClient

open Library List
open Uart (SlabLayout RxEvent)

/-- `rx_slab` of the client in an address space of 32 bits. -/
structure ClientSlab extends SlabLayout where
  inMemory : buffer + blockCount * blockSize ≤ 0x100000000

namespace ClientSlab

variable (slab : ClientSlab)

/-- `block_start_get`, as the number of the block; the arithmetic is on
`size_t`. -/
def blockStartGet (address : Nat) : Nat :=
  (((address : Int) - slab.bufOffset - slab.buffer) % 0x100000000).toNat / slab.blockSize

/-- The address lies in the block of the slab. -/
def Contains (block address : Nat) : Prop :=
  block < slab.blockCount ∧ slab.blockStart block ≤ address ∧
    address < slab.blockStart block + slab.blockSize

end ClientSlab

/-- What `uart_rx_enable` returns. -/
inductive EnableAnswer where
  | ok
  /-- `-EBUSY`. -/
  | busy
  | error
  deriving DecidableEq

structure ClientRx where
  /-- `rx_slab`. -/
  pool : Pool Nat
  held : List Nat
  /-- The blocks that `rx_enable` has allocated and `uart_rx_enable` has neither
  taken nor refused. -/
  offered : List Nat
  /-- `rx_event_queue`. -/
  queue : List RxEvent
  /-- The event that `rx_process` passes to `response_handler`. -/
  current : Option RxEvent
  /-- `SM_AT_CLIENT_RX_ENABLED_BIT`. -/
  rxEnabled : Bool
  /-- The threads in `rx_enable` behind the check of the bit. -/
  checked : Nat
  /-- The threads in `rx_enable` in front of setting the bit. -/
  setting : Nat
  /-- The pointers that were passed to `buf_ref` and `buf_unref`; no code reads
  this. -/
  pointers : List Nat

inductive ClientRxAction where
  /-- `UART_RX_RDY`. -/
  | rxRdy (block offset len : Nat)
  /-- `UART_RX_BUF_REQUEST`, and whether `uart_rx_buf_rsp` returns 0. -/
  | bufRequest (accepts : Bool)
  /-- `UART_RX_BUF_RELEASED`. -/
  | bufReleased (block : Nat)
  /-- `UART_RX_DISABLED`, or the end of `rx_disable`. -/
  | rxDisabled
  /-- The steps of `rx_enable`. -/
  | enableCheck
  | enableAlloc
  | enableAnswer (block : Nat) (answer : EnableAnswer)
  | enableSet
  /-- `rx_process` takes an event. -/
  | get
  /-- `response_handler` returns. -/
  | handled
  deriving DecidableEq

namespace ClientRx

variable (slab : ClientSlab)

def bufRef (address : Nat) (system : ClientRx) : ClientRx :=
  { system with
    pool := system.pool.ref (slab.blockStartGet address)
    pointers := system.pointers ++ [address] }

def bufUnref (address : Nat) (system : ClientRx) : ClientRx :=
  { system with
    pool := system.pool.unref (slab.blockStartGet address)
    pointers := system.pointers ++ [address] }

/-- `UART_RX_RDY` in `uart_callback`. -/
def rxRdy (block offset len : Nat) (system : ClientRx) : ClientRx :=
  let counted := system.bufRef slab (slab.bufStart block)
  -- The queue has room for `CONFIG_SM_AT_CLIENT_UART_RX_BUF_COUNT` events.
  if system.queue.length < slab.blockCount then
    { counted with
      queue := system.queue ++
        [{ buf := slab.bufStart block + offset, len := len }] }
  else
    counted.bufUnref slab (slab.bufStart block)

/-- `UART_RX_BUF_REQUEST` in `uart_callback`.  A buffer that is refused is given
up with the pointer to its block. -/
def bufRequest (accepts : Bool) (system : ClientRx) : ClientRx :=
  match system.pool.free with
  | [] => system
  | block :: rest =>
    let allocated := { system with pool := system.pool.alloc block rest }
    if accepts then
      { allocated with held := system.held ++ [block] }
    else
      allocated.bufUnref slab (slab.blockStart block)

/-- `UART_RX_BUF_RELEASED` in `uart_callback`. -/
def bufReleased (block : Nat) (system : ClientRx) : ClientRx :=
  { system with held := system.held.erase block }.bufUnref slab (slab.bufStart block)

/-- `buf_alloc` in `rx_enable`. -/
def enableAlloc (system : ClientRx) : ClientRx :=
  let taken := { system with checked := system.checked - 1 }
  match system.pool.free with
  | [] => taken
  | block :: rest =>
    { taken with
      pool := system.pool.alloc block rest
      offered := system.offered ++ [block] }

/-- `uart_rx_enable` returns in `rx_enable`. -/
def enableAnswer (block : Nat) (answer : EnableAnswer) (system : ClientRx) :
    ClientRx :=
  let answered := { system with offered := system.offered.erase block }
  match answer with
  | .ok =>
    { answered with
      held := system.held ++ [block]
      setting := system.setting + 1 }
  | .busy =>
    { answered.bufUnref slab (slab.bufStart block) with
      setting := system.setting + 1 }
  | .error => answered.bufUnref slab (slab.bufStart block)

end ClientRx

def clientRxStep (slab : ClientSlab) (action : ClientRxAction)
    (system : ClientRx) : Option ClientRx :=
  match action with
  | .rxRdy block offset len =>
    -- What the driver reports is inside a buffer that it holds.
    if block ∈ system.held ∧ offset < slab.bufSize ∧ offset + len ≤ slab.bufSize then
      some (system.rxRdy slab block offset len)
    else
      none
  | .bufRequest accepts => some (system.bufRequest slab accepts)
  | .bufReleased block =>
    if block ∈ system.held then
      some (system.bufReleased slab block)
    else
      none
  | .rxDisabled => some { system with rxEnabled := false }
  | .enableCheck =>
    if system.rxEnabled then
      some system
    else
      some { system with checked := system.checked + 1 }
  | .enableAlloc =>
    if 0 < system.checked then some system.enableAlloc else none
  | .enableAnswer block answer =>
    if block ∈ system.offered then
      some (system.enableAnswer slab block answer)
    else
      none
  | .enableSet =>
    if 0 < system.setting then
      some { system with rxEnabled := true, setting := system.setting - 1 }
    else
      none
  | .get =>
    match system.current, system.queue with
    | none, event :: rest =>
      some { system with current := some event, queue := rest }
    | _, _ => none
  | .handled =>
    match system.current with
    | some event =>
      some ({ system with current := none }.bufUnref slab event.buf)
    | none => none

def freshClientRx (slab : ClientSlab) : ClientRx where
  pool := { free := List.range slab.blockCount, refCounter := fun _ => 0 }
  held := []
  offered := []
  queue := []
  current := none
  rxEnabled := false
  checked := 0
  setting := 0
  pointers := []

/-- An answer to a buffer request is refused only if there was no buffer to give. -/
def AnswerAccepted (system : ClientRx) (action : ClientRxAction) : Prop :=
  action = .bufRequest false → system.pool.free = []

instance {system : ClientRx} {action : ClientRxAction} : Decidable (AnswerAccepted system action) :=
  inferInstanceAs (Decidable (_ → _))

abbrev ClientRxReachable (slab : ClientSlab)
    (allowed : ClientRx → ClientRxAction → Prop) : ClientRx → Prop :=
  Reachable (clientRxStep slab) allowed (fun system =>
    system = freshClientRx slab)

namespace ClientSlab

variable {slab : ClientSlab} {block : Nat}

theorem blockSize_pos : 0 < slab.blockSize :=
  slab.toSlabLayout.blockSize_pos

theorem blockStartGet_data (known : block < slab.blockCount) {offset : Nat}
    (inside : offset < slab.bufSize) :
    slab.blockStartGet (slab.bufStart block + offset) = block := by
  have fits := slab.fits
  have positive := slab.blockSize_pos
  have inMemory := slab.inMemory
  have within : block * slab.blockSize + slab.blockSize ≤ slab.blockCount * slab.blockSize := by
    rw [← Nat.succ_mul]
    exact Nat.mul_le_mul_right _ known
  have isOffset : (((slab.bufStart block + offset : Nat) : Int) -
      slab.bufOffset - slab.buffer) % 0x100000000 = (block * slab.blockSize + offset : Nat) := by
    rw [SlabLayout.bufStart, SlabLayout.blockStart]
    omega
  rw [blockStartGet, isOffset, Int.toNat_natCast, Nat.mul_comm,
    Nat.mul_add_div positive, Nat.div_eq_of_lt (by omega), Nat.add_zero]

theorem blockStartGet_buf (known : block < slab.blockCount) :
    slab.blockStartGet (slab.bufStart block) = block := by
  have isBlock := @blockStartGet_data slab block known 0 slab.bufSize_pos
  rw [Nat.add_zero] at isBlock
  exact isBlock

theorem contains_data (known : block < slab.blockCount) {offset : Nat}
    (inside : offset < slab.bufSize) :
    slab.Contains block (slab.bufStart block + offset) := by
  have fits := slab.fits
  refine ⟨known, ?_, ?_⟩
  · rw [SlabLayout.bufStart]
    omega
  · rw [SlabLayout.bufStart]
    omega

end ClientSlab

namespace ClientRx

def events (system : ClientRx) : List RxEvent :=
  system.current.toList ++ system.queue

def eventBlocks (slab : ClientSlab) (system : ClientRx) : List Nat :=
  system.events.map fun event => slab.blockStartGet event.buf

/-- Who refers to a block: the driver, a call of `uart_rx_enable` that it was
given to, and the events. -/
def holders (slab : ClientSlab) (system : ClientRx) : List Nat :=
  system.held ++ (system.offered ++ system.eventBlocks slab)

/-- Each reference that is counted has a holder, each event points into the data
of a block, and `block_start_get` has always found the block of its argument. -/
structure Accounted (slab : ClientSlab) (system : ClientRx) : Prop where
  counted : Counted (fun block => block < slab.blockCount) system.pool (system.holders slab)
  placed : ∀ event ∈ system.events, ∃ block offset,
    block < slab.blockCount ∧ offset < slab.bufSize ∧ event.buf = slab.bufStart block + offset
  found : ∀ address ∈ system.pointers, slab.Contains (slab.blockStartGet address) address

end ClientRx

variable {slab : ClientSlab} {system after : ClientRx} {block : Nat}

theorem clientRx_accounted_fresh (slab : ClientSlab) : (freshClientRx slab).Accounted slab where
  counted := {
    nodup := nodup_range
    free := fun _ isFree => ⟨mem_range.mp isFree, not_mem_nil⟩
    owned := nofun
    counted := fun _ known notFree =>
      absurd (mem_range.mpr known) notFree }
  placed := nofun
  found := nofun

namespace ClientRx.Accounted

theorem of_holders (accounted : system.Accounted slab)
    (samePool : after.pool = system.pool) (sameHeld : after.held = system.held)
    (sameOffered : after.offered = system.offered)
    (sameEvents : after.events = system.events)
    (samePointers : after.pointers = system.pointers) :
    after.Accounted slab where
  counted := by
    rw [samePool, holders, sameHeld, sameOffered, eventBlocks, sameEvents]
    exact accounted.counted
  placed := by
    rw [sameEvents]
    exact accounted.placed
  found := by
    rw [samePointers]
    exact accounted.found

theorem known_of_held (accounted : system.Accounted slab)
    (isHeld : block ∈ system.held) : block < slab.blockCount :=
  accounted.counted.owned block (mem_append_left _ isHeld)

theorem known_of_offered (accounted : system.Accounted slab)
    (isOffered : block ∈ system.offered) : block < slab.blockCount :=
  accounted.counted.owned block (mem_append_right _ (mem_append_left _ isOffered))

variable {offset : Nat}

theorem found_data (accounted : system.Accounted slab)
    (known : block < slab.blockCount) (inside : offset < slab.bufSize) :
    ∀ address ∈ system.pointers ++ [slab.bufStart block + offset],
      slab.Contains (slab.blockStartGet address) address := by
  intro address member
  rcases mem_append.mp member with earlier | isLast
  · exact accounted.found address earlier
  · rw [mem_singleton.mp isLast, ClientSlab.blockStartGet_data known inside]
    exact ClientSlab.contains_data known inside

theorem unref {address : Nat} (accounted : system.Accounted slab)
    (known : block < slab.blockCount) (inside : offset < slab.bufSize)
    (isAddress : address = slab.bufStart block + offset)
    (samePool : after.pool = system.pool)
    (samePointers : after.pointers = system.pointers)
    (fewer : (system.holders slab).Perm (block :: after.holders slab))
    (placed : ∀ event ∈ after.events, event ∈ system.events) :
    (after.bufUnref slab address).Accounted slab where
  counted := by
    rw [bufUnref, isAddress]
    dsimp only
    rw [samePool, ClientSlab.blockStartGet_data known inside]
    exact accounted.counted.unref_of_perm fewer
  placed := fun event member => accounted.placed event (placed event member)
  found := by
    rw [bufUnref, isAddress]
    dsimp only
    rw [samePointers]
    exact accounted.found_data known inside

theorem rxRdy {len : Nat} (accounted : system.Accounted slab)
    (isHeld : block ∈ system.held) (inside : offset < slab.bufSize) :
    (system.rxRdy slab block offset len).Accounted slab := by
  have known := accounted.known_of_held isHeld
  have isBlock := ClientSlab.blockStartGet_buf known
  have refs := accounted.counted.ref
    (mem_append_left (system.offered ++ system.eventBlocks slab) isHeld)
  have foundRef := accounted.found_data known slab.bufSize_pos
  rw [Nat.add_zero] at foundRef
  rw [ClientRx.rxRdy]
  by_cases room : system.queue.length < slab.blockCount
  · rw [if_pos room]
    constructor
    · rw [bufRef]
      dsimp only
      rw [isBlock]
      apply refs.perm
      have isLater : (({ system with
          queue := system.queue ++
            [{ buf := slab.bufStart block + offset, len := len }] } :
          ClientRx).eventBlocks slab) = system.eventBlocks slab ++ [block] := by
        rw [eventBlocks, eventBlocks, events, events, ← append_assoc, map_append, map_singleton,
          ClientSlab.blockStartGet_data known inside]
      have sameHolders : (block :: system.holders slab).Perm (system.holders slab ++ [block]) :=
        (perm_append_singleton _ _).symm
      rw [ClientRx.holders, append_assoc, append_assoc, ← isLater] at sameHolders
      exact sameHolders
    · intro event member
      rw [events] at member
      dsimp only at member
      rw [← append_assoc] at member
      rcases mem_append.mp member with earlier | isLast
      · exact accounted.placed event earlier
      · rw [mem_singleton.mp isLast]
        exact ⟨block, offset, known, inside, rfl⟩
    · exact foundRef
  · rw [if_neg room]
    constructor
    · rw [bufUnref, bufRef]
      dsimp only
      rw [isBlock]
      exact accounted.counted.ref_unref (mem_append_left _ isHeld)
    · exact accounted.placed
    · intro address member
      rcases mem_append.mp member with earlier | isLast
      · exact foundRef address earlier
      · exact foundRef address (mem_append_right _ isLast)

theorem bufRequest {accepts : Bool} (accounted : system.Accounted slab)
    (accepted : accepts = false → system.pool.free = []) :
    (system.bufRequest slab accepts).Accounted slab := by
  rw [ClientRx.bufRequest]
  split
  · exact accounted
  · rename_i block rest isFree
    cases accepts with
    | false =>
      have noFree := accepted rfl
      rw [isFree] at noFree
      cases noFree
    | true =>
      constructor
      · apply (accounted.counted.alloc isFree).perm
        rw [ClientRx.holders, ClientRx.holders, if_pos rfl, append_assoc]
        exact perm_middle.symm
      · exact accounted.placed
      · exact accounted.found

theorem bufReleased (accounted : system.Accounted slab) (isHeld : block ∈ system.held) :
    (system.bufReleased slab block).Accounted slab := by
  have known := accounted.known_of_held isHeld
  refine accounted.unref known slab.bufSize_pos (Nat.add_zero _).symm rfl rfl ?_ ?_
  · exact (perm_cons_erase isHeld).append_right _
  · exact fun event member => member

theorem enableAlloc (accounted : system.Accounted slab) : system.enableAlloc.Accounted slab := by
  rw [ClientRx.enableAlloc]
  dsimp only
  split
  · exact accounted.of_holders rfl rfl rfl rfl rfl
  · rename_i block rest isFree
    constructor
    · apply (accounted.counted.alloc isFree).perm
      rw [ClientRx.holders, ClientRx.holders]
      dsimp only
      rw [append_assoc, singleton_append, ← append_assoc]
      rw [← append_assoc]
      exact perm_middle.symm
    · exact accounted.placed
    · exact accounted.found

theorem enableAnswer {answer : EnableAnswer} (accounted : system.Accounted slab)
    (isOffered : block ∈ system.offered) :
    (system.enableAnswer slab block answer).Accounted slab := by
  have known := accounted.known_of_offered isOffered
  have without := perm_cons_erase isOffered
  have refused : ({ system with
      offered := system.offered.erase block }.bufUnref slab
        (slab.bufStart block)).Accounted slab := by
    refine accounted.unref known slab.bufSize_pos (Nat.add_zero _).symm rfl rfl ?_ ?_
    · rw [ClientRx.holders, ClientRx.holders]
      exact ((without.append_right _).append_left _).trans perm_middle
    · exact fun event member => member
  cases answer with
  | ok =>
    constructor
    · apply accounted.counted.perm
      rw [ClientRx.holders, ClientRx.enableAnswer, ClientRx.holders]
      dsimp only
      rw [append_assoc]
      exact (without.append_right _).append_left _
    · exact accounted.placed
    · exact accounted.found
  | busy => exact refused.of_holders rfl rfl rfl rfl rfl
  | error => exact refused

theorem handled {event : RxEvent} (accounted : system.Accounted slab)
    (inProgress : system.current = some event) :
    ({ system with current := none }.bufUnref slab event.buf).Accounted
      slab := by
  have isFirst : system.events = event :: system.queue := by
    rw [events, inProgress]
    rfl
  obtain ⟨block, offset, known, inside, isAddress⟩ :=
    accounted.placed event (by rw [isFirst]; exact mem_cons_self)
  refine accounted.unref known inside isAddress rfl rfl ?_ ?_
  · rw [ClientRx.holders, ClientRx.holders, eventBlocks, isFirst, map_cons,
      isAddress, ClientSlab.blockStartGet_data known inside, ← append_assoc,
      ← append_assoc]
    exact perm_middle
  · intro other member
    rw [isFirst]
    exact mem_cons_of_mem _ member

end ClientRx.Accounted

theorem clientRx_accounted_step {action : ClientRxAction} (accounted : system.Accounted slab)
    (accepted : AnswerAccepted system action)
    (taken : clientRxStep slab action system = some after) :
    after.Accounted slab := by
  cases action with
  | rxRdy block offset len =>
    rw [clientRxStep] at taken
    split at taken
    · rename_i reports
      cases taken
      exact accounted.rxRdy reports.1 reports.2.1
    · cases taken
  | bufRequest accepts =>
    cases taken
    exact accounted.bufRequest fun refused => accepted (by rw [refused])
  | bufReleased block =>
    rw [clientRxStep] at taken
    split at taken
    · rename_i isHeld
      cases taken
      exact accounted.bufReleased isHeld
    · cases taken
  | rxDisabled =>
    cases taken
    exact accounted.of_holders rfl rfl rfl rfl rfl
  | enableCheck =>
    rw [clientRxStep] at taken
    split at taken
    · cases taken
      exact accounted
    · cases taken
      exact accounted.of_holders rfl rfl rfl rfl rfl
  | enableAlloc =>
    rw [clientRxStep] at taken
    split at taken
    · cases taken
      exact accounted.enableAlloc
    · cases taken
  | enableAnswer block answer =>
    rw [clientRxStep] at taken
    split at taken
    · rename_i isOffered
      cases taken
      exact accounted.enableAnswer isOffered
    · cases taken
  | enableSet =>
    rw [clientRxStep] at taken
    split at taken
    · cases taken
      exact accounted.of_holders rfl rfl rfl rfl rfl
    · cases taken
  | get =>
    rw [clientRxStep] at taken
    split at taken
    · rename_i event rest isIdle isQueue
      cases taken
      refine accounted.of_holders rfl rfl rfl ?_ rfl
      rw [ClientRx.events, ClientRx.events, isIdle, isQueue]
      rfl
    · cases taken
  | handled =>
    rw [clientRxStep] at taken
    split at taken
    · rename_i event inProgress
      cases taken
      exact accounted.handled inProgress
    · cases taken

theorem clientRx_accounted (reachable : ClientRxReachable slab AnswerAccepted
    system) : system.Accounted slab := by
  induction reachable with
  | start isFresh =>
    rw [isFresh]
    exact clientRx_accounted_fresh slab
  | next action _ accepted taken ih =>
    exact clientRx_accounted_step ih accepted taken

/-- In every run in which the driver takes each buffer that it has asked for,
`block_start_get` finds the block of each pointer that `buf_ref` and `buf_unref`
get.  Each block is either in the slab, once, and nothing refers to it, or it is
not, and `ref_counter` is the number of the references to it. -/
theorem client_references_counted (reachable : ClientRxReachable slab AnswerAccepted system) :
    (∀ address ∈ system.pointers, slab.Contains (slab.blockStartGet address) address) ∧
    ∀ block, block < slab.blockCount → ((system.holders slab).count block = 0 ∧
          system.pool.free.count block = 1) ∨
        (0 < (system.holders slab).count block ∧ block ∉ system.pool.free ∧
          system.pool.refCounter block = (system.holders slab).count block) := by
  have accounted := clientRx_accounted reachable
  have counted := accounted.counted
  refine ⟨accounted.found, fun block known => ?_⟩
  by_cases isFree : block ∈ system.pool.free
  · have notOwned := (counted.free block isFree).2
    exact .inl ⟨count_eq_zero_of_not_mem notOwned, count_eq_one_of_mem counted.nodup isFree⟩
  · obtain ⟨owned, sameCount⟩ := counted.counted block known isFree
    exact .inr ⟨count_pos_iff.mpr owned, isFree, sameCount⟩

def twoBlocks : ClientSlab where
  buffer := 4096
  blockCount := 2
  blockSize := 132
  bufOffset := 4
  bufSize := 128
  bufSize_pos := Nat.succ_pos _
  fits := by decide
  inMemory := by decide

/-- `rx_enable` gives the first block to the driver. -/
def firstBlockHeld : List ClientRxAction :=
  [.enableCheck, .enableAlloc, .enableAnswer 0 .ok, .enableSet]

/-- The driver reports two bytes and releases its buffer while `rx_process` has
the event. -/
theorem event_holds_block : ∃ system, ClientRxReachable twoBlocks AnswerAccepted system ∧
      system.current = some { buf := 4100, len := 2 } ∧
      0 ∉ system.pool.free := by
  have ran : (runChecked (clientRxStep twoBlocks)
      (fun system action => decide (AnswerAccepted system action))
      (firstBlockHeld ++ [.bufRequest true, .rxRdy 0 0 2, .get, .bufReleased 0])
      (freshClientRx twoBlocks)).map (fun system =>
        (system.current, system.holders twoBlocks)) =
      some (some { buf := 4100, len := 2 }, [1, 0]) := by
    decide
  obtain ⟨system, isRun, seen⟩ := Option.map_eq_some_iff.mp ran
  obtain ⟨inProgress, isHolders⟩ := Prod.mk.inj seen
  have reachable : ClientRxReachable twoBlocks AnswerAccepted system :=
    reachable_of_runChecked _ (fun _ _ _ passed => of_decide_eq_true passed) (.start rfl) isRun
  refine ⟨system, reachable, inProgress, ?_⟩
  rcases (client_references_counted reachable).2 0 (by decide) with
    unused | used
  · rw [isHolders] at unused
    exact absurd unused.1 (by decide)
  · exact used.2.1

/-- The driver refuses the second block.  The first one, which the driver holds,
goes back to the slab, and the second one is lost. -/
theorem refused_buffer_frees_other :
    ∃ system, ClientRxReachable twoBlocks (fun _ _ => True) system ∧
      system.pointers = [twoBlocks.blockStart 1] ∧
      twoBlocks.Contains 1 (twoBlocks.blockStart 1) ∧
      twoBlocks.blockStartGet (twoBlocks.blockStart 1) = 0 ∧
      system.holders twoBlocks = [0] ∧ system.pool.free = [0] ∧
      system.pool.refCounter 1 = 1 := by
  have ran : (runActions (clientRxStep twoBlocks) (firstBlockHeld ++ [.bufRequest false])
      (freshClientRx twoBlocks)).map (fun system => (system.pointers,
        system.holders twoBlocks, system.pool.free,
        system.pool.refCounter 1)) =
      some ([4228], [0], [0], 1) := by
    decide
  obtain ⟨system, isRun, seen⟩ := Option.map_eq_some_iff.mp ran
  obtain ⟨pointers, holders, free, count⟩ := by simpa using seen
  exact ⟨system, reachable_of_run _ rfl
    isRun, pointers, ⟨by decide, by decide, by decide⟩, by decide, holders, free,
    count⟩

end SerialModem.AtClient
