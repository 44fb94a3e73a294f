import SerialModem.Uart.Reception

/-!
# References to receive buffers

The driver and the events share the blocks of the slab.  Each step takes and
gives up the references that it should, so a block goes back to the slab when
nobody refers to it any more.
-/

namespace SerialModem.Uart

open Library List
open AtHost (Byte)

namespace SlabLayout

variable (slab : SlabLayout)

theorem blockStartGet_blockStart (block : Nat) {offset : Nat} (inside : offset < slab.blockSize) :
    slab.blockStartGet (slab.blockStart block + offset) = block := by
  have positive : 0 < slab.blockSize := Nat.zero_lt_of_lt inside
  rw [blockStartGet, blockStart, Nat.add_assoc, Nat.add_sub_cancel_left,
    Nat.mul_comm, Nat.mul_add_div positive, Nat.div_eq_of_lt inside,
    Nat.add_zero]

theorem blockSize_pos : 0 < slab.blockSize :=
  Nat.lt_of_lt_of_le slab.bufSize_pos (Nat.le_trans (Nat.le_add_left _ _) slab.fits)

theorem blockStartGet_start (block : Nat) : slab.blockStartGet (slab.blockStart block) = block :=
  slab.blockStartGet_blockStart block slab.blockSize_pos

theorem blockStartGet_bufStart (block : Nat) {offset : Nat} (inside : offset < slab.bufSize) :
    slab.blockStartGet (slab.bufStart block + offset) = block := by
  have fits := slab.fits
  rw [bufStart, Nat.add_assoc]
  exact slab.blockStartGet_blockStart block (by omega)

theorem blockStartGet_buf (block : Nat) : slab.blockStartGet (slab.bufStart block) = block :=
  slab.blockStartGet_bufStart block slab.bufSize_pos

end SlabLayout

namespace RxSystem

/-- The events that refer to received bytes. -/
def events (system : RxSystem) : List RxEvent :=
  system.pc.event?.toList ++ system.queue

def heldBlocks (system : RxSystem) : List Nat :=
  system.held.map Prod.fst

def eventBlocks (slab : SlabLayout) (system : RxSystem) : List Nat :=
  system.events.map fun event => slab.blockStartGet event.buf

end RxSystem

/-- The bytes of the event lie inside the block. -/
def RxEvent.Inside (slab : SlabLayout) (event : RxEvent) (block offset : Nat) : Prop :=
  event.buf = slab.bufStart block + offset ∧ offset < slab.bufSize ∧
    offset + event.len ≤ slab.bufSize

/-- Each reference that is counted is the driver's or an event's, and each event
points into a buffer, before what the driver has not reported yet. -/
structure RxSystem.Accounted (slab : SlabLayout) (system : RxSystem) :
    Prop where
  counted : Counted (fun block => block < slab.blockCount) system.pool
    (system.heldBlocks ++ system.eventBlocks slab)
  heldOnce : system.heldBlocks.Nodup
  placed : ∀ event ∈ system.events, ∃ block offset, event.Inside slab block offset ∧
      ∀ held ∈ system.held, held.1 = block → offset + event.len ≤ held.2
  copied : ∀ room event copySize, system.pc = .copied room event copySize → copySize ≤ event.len

variable {slab : SlabLayout} {system after : RxSystem}

variable {event : RxEvent} {offset : Nat}

theorem RxEvent.Inside.block {block : Nat} (inside : event.Inside slab block offset) :
    slab.blockStartGet event.buf = block := by
  rw [inside.1]
  exact slab.blockStartGet_bufStart block inside.2.1

theorem rxBufUnref_start (block : Nat) (system : RxSystem) :
    system.rxBufUnref slab (slab.blockStart block) =
      { system with pool := system.pool.unref block } := by
  rw [RxSystem.rxBufUnref, slab.blockStartGet_start]

theorem rxBufUnref_buf (block : Nat) (system : RxSystem) :
    system.rxBufUnref slab (slab.bufStart block) =
      { system with pool := system.pool.unref block } := by
  rw [RxSystem.rxBufUnref, slab.blockStartGet_buf]

theorem rxBufRef_buf (block : Nat) (system : RxSystem) :
    system.rxBufRef slab (slab.bufStart block) = { system with pool := system.pool.ref block } := by
  rw [RxSystem.rxBufRef, slab.blockStartGet_buf]

theorem accounted_fresh (slab : SlabLayout) : (freshRx slab).Accounted slab where
  counted := {
    nodup := nodup_range
    free := fun _ isFree => ⟨mem_range.mp isFree, not_mem_nil⟩
    owned := nofun
    counted := fun _ known notFree =>
      absurd (mem_range.mpr known) notFree }
  heldOnce := nodup_nil
  placed := nofun
  copied := nofun

theorem RxSystem.Accounted.of_events (accounted : system.Accounted slab)
    (samePool : after.pool = system.pool) (sameHeld : after.held = system.held)
    (sameEvents : after.events = system.events)
    (copied : ∀ room event copySize, after.pc = .copied room event copySize →
      copySize ≤ event.len) : after.Accounted slab where
  counted := by
    rw [samePool, RxSystem.heldBlocks, sameHeld, RxSystem.eventBlocks, sameEvents]
    exact accounted.counted
  heldOnce := by
    rw [RxSystem.heldBlocks, sameHeld]
    exact accounted.heldOnce
  placed := by
    rw [sameEvents, sameHeld]
    exact accounted.placed
  copied := copied

theorem RxSystem.Accounted.notFree (accounted : system.Accounted slab)
    (isEvent : event ∈ system.events) :
    slab.blockStartGet event.buf ∉ system.pool.free := by
  apply accounted.counted.notFree_of_owned
  apply mem_append_right
  exact List.mem_map_of_mem isEvent

variable (accepts : Bool)

theorem accounted_giveBuf (accounted : system.Accounted slab) :
    (system.giveBuf slab accepts).1.Accounted slab := by
  have counted := accounted.counted
  rw [RxSystem.giveBuf]
  split
  · exact accounted
  · rename_i block rest isFree
    have wasFree : block ∈ system.pool.free := by
      rw [isFree]
      exact mem_cons_self
    have notOwned := (counted.free block wasFree).2
    split
    · exact {
        counted := by
          apply (counted.alloc isFree).perm
          rw [RxSystem.heldBlocks, RxSystem.heldBlocks, map_append, append_assoc]
          exact perm_middle.symm
        heldOnce := by
          rw [RxSystem.heldBlocks, map_append, map_singleton,
            nodup_append_comm, singleton_append, nodup_cons]
          exact ⟨fun isHeld => notOwned (mem_append_left _ isHeld), accounted.heldOnce⟩
        placed := by
          intro event isEvent
          obtain ⟨other, offset, inside, before⟩ :=
            accounted.placed event isEvent
          refine ⟨other, offset, inside, fun held isHeld same => ?_⟩
          rcases mem_append.mp isHeld with wasHeld | isNew
          · exact before held wasHeld same
          · rw [mem_singleton.mp isNew] at same
            apply absurd wasFree
            rw [show block = slab.blockStartGet event.buf from
              same.trans inside.block.symm]
            exact accounted.notFree isEvent
        copied := accounted.copied }
    · dsimp only
      rw [rxBufUnref_start]
      exact {
        counted := counted.alloc_unref isFree
        heldOnce := accounted.heldOnce
        placed := accounted.placed
        copied := accounted.copied }

theorem accounted_rxEnable (accounted : system.Accounted slab) :
    (system.rxEnable slab accepts).1.Accounted slab := by
  rw [RxSystem.rxEnable]
  split
  · exact accounted
  · exact accounted_giveBuf accepts accounted

variable (slab) in
theorem giveBuf_events (system : RxSystem) : (system.giveBuf slab accepts).1.pc = system.pc ∧
      (system.giveBuf slab accepts).1.queue = system.queue := by
  rw [RxSystem.giveBuf]
  split
  · exact ⟨rfl, rfl⟩
  · dsimp only
    split <;> exact ⟨rfl, rfl⟩

variable (slab) in
theorem rxEnable_events (system : RxSystem) : (system.rxEnable slab accepts).1.pc = system.pc ∧
      (system.rxEnable slab accepts).1.queue = system.queue := by
  rw [RxSystem.rxEnable]
  split
  · exact ⟨rfl, rfl⟩
  · exact giveBuf_events slab accepts system

theorem heldBlocks_fill (block offset : Nat) (data : List Byte) (system : RxSystem) :
    (system.fill slab block offset data).heldBlocks = system.heldBlocks := by
  rw [RxSystem.heldBlocks, RxSystem.fill, List.map_map]
  apply map_congr_left
  intro held _
  rw [Function.comp_apply]
  split
  · rename_i same
    exact same.symm
  · rfl

theorem accounted_fill {block : Nat} (data : List Byte) (accounted : system.Accounted slab)
    (later : ∀ held ∈ system.held, held.1 = block → held.2 ≤ offset) :
    (system.fill slab block offset data).Accounted slab where
  counted := by
    rw [heldBlocks_fill]
    exact accounted.counted
  heldOnce := by
    rw [heldBlocks_fill]
    exact accounted.heldOnce
  placed := by
    intro event isEvent
    obtain ⟨other, start, inside, before⟩ := accounted.placed event isEvent
    refine ⟨other, start, inside, fun held isHeld same => ?_⟩
    obtain ⟨old, wasHeld, rfl⟩ := List.mem_map.mp isHeld
    split at same
    · rename_i isBlock
      have reported := before old wasHeld (isBlock.trans same)
      have notLater := later old wasHeld isBlock
      rw [if_pos isBlock]
      dsimp only
      omega
    · rename_i isOther
      rw [if_neg isOther]
      exact before old wasHeld same
  copied := accounted.copied

theorem accounted_rxRdy {block : Nat} {data : List Byte}
    (accounted : system.Accounted slab) (isHeld : block ∈ system.heldBlocks)
    (starts : offset < slab.bufSize)
    (within : offset + data.length ≤ slab.bufSize)
    (reported : ∀ held ∈ system.held, held.1 = block → held.2 = offset + data.length) :
    (system.rxRdy slab block offset data).Accounted slab := by
  have counted := accounted.counted
  have owned := mem_append_left (system.eventBlocks slab) isHeld
  rw [RxSystem.rxRdy]
  split
  · dsimp only
    split
    · have inside : RxEvent.Inside slab { buf := slab.bufStart block + offset, len := data.length }
          block offset := ⟨rfl, starts, within⟩
      exact {
        counted := by
          rw [rxBufRef_buf]
          apply (counted.ref owned).perm
          apply (perm_append_singleton _ _).symm.trans
          apply List.Perm.of_eq
          simp only [RxSystem.heldBlocks, RxSystem.eventBlocks,
            RxSystem.events, map_append, map_cons, map_nil,
            append_assoc, inside.block]
        heldOnce := accounted.heldOnce
        placed := by
          intro event isEvent
          simp only [RxSystem.events, ← append_assoc] at isEvent
          rcases mem_append.mp isEvent with wasEvent | isNew
          · exact accounted.placed event wasEvent
          · rw [mem_singleton.mp isNew]
            exact ⟨block, offset, inside, fun held isHeld same =>
              Nat.le_of_eq (reported held isHeld same).symm⟩
        copied := accounted.copied }
    · exact {
        counted := by
          rw [rxBufUnref_buf, rxBufRef_buf]
          exact counted.ref_unref owned
        heldOnce := accounted.heldOnce
        placed := accounted.placed
        copied := accounted.copied }
  · exact accounted

theorem accounted_bufReleased {block : Nat} (accounted : system.Accounted slab)
    (isHeld : block ∈ system.heldBlocks) :
    (system.bufReleased slab block).Accounted slab := by
  have remaining : (system.held.filter fun held => held.1 ≠ block).map Prod.fst =
      system.heldBlocks.erase block := by
    rw [accounted.heldOnce.erase_eq_filter, RxSystem.heldBlocks, List.filter_map]
    congr 2
    funext held
    simp [bne, BEq.beq]
  exact {
    counted := by
      rw [RxSystem.bufReleased, rxBufUnref_buf]
      apply accounted.counted.unref_of_perm
      rw [RxSystem.heldBlocks, RxSystem.heldBlocks] at *
      dsimp only
      rw [remaining, ← cons_append]
      exact (perm_cons_erase isHeld).append_right _
    heldOnce := by
      rw [RxSystem.heldBlocks, RxSystem.bufReleased, rxBufUnref_buf]
      dsimp only
      rw [remaining]
      exact accounted.heldOnce.erase _
    placed := by
      intro event isEvent
      obtain ⟨other, offset, inside, before⟩ := accounted.placed event isEvent
      refine ⟨other, offset, inside, fun held isHeld => ?_⟩
      exact before held (mem_of_mem_filter isHeld)
    copied := accounted.copied }

theorem accounted_finishEvent {room copySize : Nat} (accounted : system.Accounted slab)
    (isCopied : system.pc = .copied room event copySize) :
    (system.finishEvent slab room event copySize).Accounted slab := by
  have isEvent : event ∈ system.events := by
    rw [RxSystem.events, isCopied]
    exact mem_cons_self
  have short := accounted.copied room event copySize isCopied
  obtain ⟨block, offset, inside, before⟩ := accounted.placed event isEvent
  have queued : ∀ other ∈ system.queue, ∃ block offset, other.Inside slab block offset ∧
        ∀ held ∈ system.held, held.1 = block → offset + other.len ≤ held.2 :=
    fun other isQueued => accounted.placed other (mem_append_right _ isQueued)
  have owners : (system.heldBlocks ++ system.eventBlocks slab).Perm (block :: (system.heldBlocks ++
        system.queue.map fun event => slab.blockStartGet event.buf)) := by
    rw [RxSystem.eventBlocks, RxSystem.events, isCopied]
    simp only [ReceivePc.event?, Option.toList_some, singleton_append, map_cons, inside.block]
    exact perm_middle
  rw [RxSystem.finishEvent]
  dsimp only
  split
  · exact {
      counted := by
        rw [RxSystem.rxBufUnref, inside.block]
        exact accounted.counted.unref_of_perm owners
      heldOnce := accounted.heldOnce
      placed := queued
      copied := nofun }
  · rename_i isPart
    obtain ⟨address, _, within⟩ := inside
    have rest : RxEvent.Inside slab { buf := event.buf + copySize, len := event.len - copySize }
        block (offset + copySize) := by
      refine ⟨?_, by omega, ?_⟩
      · dsimp only
        rw [address, Nat.add_assoc]
      · dsimp only
        omega
    split
    · exact {
        counted := by
          apply accounted.counted.perm
          apply owners.trans
          rw [RxSystem.eventBlocks]
          simp only [RxSystem.events, ReceivePc.event?, Option.toList_none,
            nil_append, map_cons, rest.block]
          exact perm_middle.symm
        heldOnce := accounted.heldOnce
        placed := by
          intro other isOther
          rcases mem_cons.mp isOther with rfl | isQueued
          · refine ⟨block, offset + copySize, rest, fun held isHeld same => ?_⟩
            have reported := before held isHeld same
            dsimp only
            omega
          · exact queued other isQueued
        copied := nofun }
    · exact {
        counted := by
          rw [RxSystem.rxBufUnref]
          dsimp only
          rw [rest.block]
          exact accounted.counted.unref_of_perm owners
        heldOnce := accounted.heldOnce
        placed := queued
        copied := nofun }

theorem accounted_reader (accounted : system.Accounted slab)
    (taken : system.reader slab accepts = some after) :
    after.Accounted slab := by
  unfold RxSystem.reader at taken
  split at taken
  · cases taken
  · rename_i room isLoop
    split at taken
    · rename_i isEmpty
      cases taken
      refine accounted.of_events rfl rfl ?_ nofun
      rw [RxSystem.events, RxSystem.events, isLoop]
      rfl
    · rename_i event rest isQueue
      split at taken
      · cases taken
        refine accounted.of_events rfl rfl ?_ nofun
        rw [RxSystem.events, RxSystem.events, isLoop]
        rfl
      · cases taken
        refine accounted.of_events rfl rfl ?_ nofun
        rw [RxSystem.events, RxSystem.events, isLoop, isQueue]
        rfl
  · rename_i room event isGot
    cases taken
    refine accounted.of_events rfl rfl ?_ ?_
    · rw [RxSystem.events, RxSystem.events, isGot]
      rfl
    · rintro _ _ _ ⟨⟩
      exact Nat.min_le_right _ _
  · rename_i isCopied
    cases taken
    exact accounted_finishEvent accounted isCopied
  · rename_i isDrained
    split at taken
    · cases taken
      refine accounted.of_events rfl rfl ?_ nofun
      rw [RxSystem.events, RxSystem.events, isDrained]
      rfl
    · cases taken
      refine accounted.of_events rfl rfl ?_ nofun
      rw [RxSystem.events, RxSystem.events, isDrained]
      rfl
  · rename_i isRecovering
    cases taken
    obtain ⟨samePc, _⟩ := rxEnable_events slab accepts system
    refine (accounted_rxEnable accepts accounted).of_events rfl rfl ?_ nofun
    rw [RxSystem.events, RxSystem.events, samePc, isRecovering]
    rfl
  · rename_i enabled isRecovered
    cases taken
    refine accounted.of_events rfl rfl ?_ nofun
    rw [RxSystem.events, RxSystem.events, isRecovered]
    rfl

theorem accounted_step {action : RxAction} (accounted : system.Accounted slab)
    (taken : rxStep slab action system = some after) :
    after.Accounted slab := by
  cases action with
  | startQueue =>
    cases taken
    exact accounted.of_events rfl rfl rfl accounted.copied
  | rxRdy block offset data =>
    rw [rxStep] at taken
    split at taken
    · rename_i reports
      obtain ⟨isHeld, later, starts, within⟩ := reports
      cases taken
      apply accounted_rxRdy (accounted_fill data accounted later)
      · rw [heldBlocks_fill]
        exact isHeld
      · exact starts
      · exact within
      · intro held isHeld same
        obtain ⟨old, _, rfl⟩ := List.mem_map.mp isHeld
        split
        · rfl
        · rename_i isOther
          rw [if_neg isOther] at same
          exact absurd same isOther
    · cases taken
  | bufRequest accepts =>
    cases taken
    rw [RxSystem.bufRequest]
    split
    · exact accounted
    · exact accounted_giveBuf accepts accounted
  | bufReleased block =>
    rw [rxStep] at taken
    split at taken
    · rename_i isHeld
      cases taken
      exact accounted_bufReleased accounted isHeld
    · cases taken
  | rxDisabled =>
    cases taken
    exact accounted.of_events rfl rfl rfl accounted.copied
  | openRx accepts =>
    cases taken
    have cleared : RxSystem.Accounted slab { system with recoveryDisabled := false } :=
      accounted.of_events rfl rfl rfl accounted.copied
    have enabled := accounted_rxEnable accepts cleared
    exact enabled.of_events rfl rfl rfl enabled.copied
  | opened =>
    rw [rxStep] at taken
    split at taken
    · cases taken
      exact accounted.of_events rfl rfl rfl accounted.copied
    · cases taken
  | disable =>
    cases taken
    exact accounted.of_events rfl rfl rfl accounted.copied
  | receive size =>
    rw [rxStep] at taken
    split at taken
    · rename_i isIdle
      cases taken
      refine accounted.of_events rfl rfl ?_ nofun
      rw [RxSystem.events, RxSystem.events, isIdle]
      rfl
    · cases taken
  | reader accepts => exact accounted_reader accepts accounted taken

abbrev RxReachable (slab : SlabLayout) (allowed : RxSystem → RxAction → Prop) : RxSystem → Prop :=
  Reachable (rxStep slab) allowed (fun system => system = freshRx slab)

/-- Each counted reference has its holder in every run. -/
theorem accounted_of_reachable {allowed : RxSystem → RxAction → Prop}
    (reachable : RxReachable slab allowed system) :
    system.Accounted slab := by
  induction reachable with
  | start isFresh =>
    rw [isFresh]
    exact accounted_fresh slab
  | next action _ _ taken ih => exact accounted_step ih taken

/-- How many references to a block there should be: one of the driver, if it
holds the block, and one of each event that points into it. -/
def RxSystem.uses (slab : SlabLayout) (system : RxSystem) (block : Nat) : Nat :=
  (if block ∈ system.heldBlocks then 1 else 0) + (system.eventBlocks slab).count block

theorem RxSystem.Accounted.uses_eq (accounted : system.Accounted slab)
    (block : Nat) : system.uses slab block =
      (system.heldBlocks ++ system.eventBlocks slab).count block := by
  rw [RxSystem.uses, count_append]
  split
  · rename_i isHeld
    rw [count_eq_one_of_mem accounted.heldOnce isHeld]
  · rename_i notHeld
    rw [count_eq_zero_of_not_mem notHeld]

/-- In every run each block is either in the slab, once, and nothing refers to
it, or it is not, and `ref_counter` is the number of the references to it, which
is not 0.  Every event points into a buffer of a block that is not in the slab.
`block_start_get` finds the block of its start and of every address in its
buffer. -/
theorem references_counted (reachable : RxReachable slab (fun _ _ => True) system) :
    (∀ block, block < slab.blockCount →
      (system.uses slab block = 0 ∧ system.pool.free.count block = 1) ∨
        (0 < system.uses slab block ∧ block ∉ system.pool.free ∧
          system.pool.refCounter block = system.uses slab block)) ∧
    (∀ event ∈ system.events, ∃ block offset, block < slab.blockCount ∧
      block ∉ system.pool.free ∧ event.Inside slab block offset ∧
        slab.blockStartGet event.buf = block) ∧
    ∀ block, slab.blockStartGet (slab.blockStart block) = block ∧ ∀ offset, offset < slab.bufSize →
        slab.blockStartGet (slab.bufStart block + offset) = block := by
  have accounted := accounted_of_reachable reachable
  have counted := accounted.counted
  refine ⟨?_, ?_, ?_⟩
  · intro block known
    rw [accounted.uses_eq]
    by_cases isFree : block ∈ system.pool.free
    · left
      have notOwned := (counted.free block isFree).2
      exact ⟨count_eq_zero_of_not_mem notOwned, count_eq_one_of_mem counted.nodup isFree⟩
    · right
      obtain ⟨owned, sameCount⟩ := counted.counted block known isFree
      exact ⟨count_pos_iff.mpr owned, isFree, sameCount⟩
  · intro event isEvent
    obtain ⟨block, offset, inside, _⟩ := accounted.placed event isEvent
    have notFree := accounted.notFree isEvent
    have known := counted.owned (slab.blockStartGet event.buf)
      (mem_append_right _ (List.mem_map_of_mem isEvent))
    rw [inside.block] at notFree known
    exact ⟨block, offset, known, notFree, inside, inside.block⟩
  · intro block
    exact ⟨slab.blockStartGet_start block,
      fun offset inside => slab.blockStartGet_bufStart block inside⟩

def smallSlab : SlabLayout where
  buffer := 4096
  blockCount := 2
  blockSize := 136
  bufOffset := 8
  bufSize := 128
  bufSize_pos := by decide
  fits := by decide

/-- The pipe is opened, the driver gets a second buffer, reports two bytes and
releases the first buffer; then one of the bytes is read. -/
def receivedByte : List RxAction :=
  [.startQueue, .openRx true, .opened, .bufRequest true,
    .rxRdy 0 0 [65, 66], .bufReleased 0, .receive 1, .reader false,
    .reader false, .reader false]

/-- A byte was received, and its event is in the queue. -/
theorem referred_by_event :
    ∃ system, runActions (rxStep smallSlab) receivedByte (freshRx smallSlab) = some system ∧
      system.queue = [{ buf := 4105, len := 1 }] ∧
      smallSlab.blockStartGet 4105 = 0 ∧ 0 ∉ system.pool.free := by
  have evaluated : (runActions (rxStep smallSlab) receivedByte
      (freshRx smallSlab)).map (fun system => (system.queue, system.held)) =
        some ([{ buf := 4105, len := 1 }], [(1, 0)]) := by
    decide
  obtain ⟨system, ran, seen⟩ := Option.map_eq_some_iff.mp evaluated
  obtain ⟨isQueue, _⟩ := Prod.mk.inj seen
  have counted := references_counted (reachable_of_run receivedByte rfl ran)
  obtain ⟨block, _, _, notFree, _, isBlock⟩ := counted.2.1
    { buf := 4105, len := 1 } (mem_append_right _ (by
      rw [isQueue]
      exact mem_cons_self))
  have isFirst : smallSlab.blockStartGet 4105 = 0 := by decide
  rw [show block = 0 from isBlock.symm.trans isFirst] at notFree
  exact ⟨system, ran, isQueue, isFirst, notFree⟩

end SerialModem.Uart
