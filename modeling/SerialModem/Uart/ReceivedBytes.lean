import SerialModem.Uart.References

/-!
# The bytes that are received

What an event points to is not written again as long as the event is there.
Bytes are lost only when the queue is full.
-/

namespace SerialModem.Uart

open Library List
open AtHost (Byte)

variable {slab : SlabLayout} {system after : RxSystem}

/-- The received bytes that the reader has not taken yet. -/
def RxSystem.pending (system : RxSystem) : List Byte :=
  (system.pc.rest ++ system.queue).flatMap fun event =>
    readBytes system.memory event.buf event.len

def RxSystem.Lossless (system : RxSystem) : Prop :=
  system.returned ++ system.pending = system.reported

def RxSystem.putsBack (system : RxSystem) : Bool :=
  match system.pc with
  | .copied _ event copySize => event.len != copySize
  | _ => false

/-- Whenever an event is put into the queue there is room for it. -/
def NeverFull (slab : SlabLayout) (system : RxSystem) (action : RxAction) :
    Prop :=
  match action with
  | .rxRdy _ _ _ =>
    system.started = true → system.queue.length < slab.eventCount
  | .reader _ =>
    system.putsBack = true → system.queue.length < slab.eventCount
  | _ => True

instance {action : RxAction} : Decidable (NeverFull slab system action) :=
  match action with
  | .rxRdy _ _ _ => inferInstanceAs (Decidable (_ → _))
  | .reader _ => inferInstanceAs (Decidable (_ → _))
  | .startQueue | .bufRequest _ | .bufReleased _ | .rxDisabled | .openRx _
  | .opened | .disable | .receive _ => inferInstanceAs (Decidable True)

theorem readBytes_congr {memory changed : Nat → Byte} {address len : Nat}
    (same : ∀ index, index < len →
      changed (address + index) = memory (address + index)) :
    readBytes changed address len = readBytes memory address len := by
  apply map_congr_left
  intro index inside
  exact same index (mem_range.mp inside)

theorem readBytes_split (memory : Nat → Byte) (address : Nat)
    {first len : Nat} (within : first ≤ len) :
    readBytes memory address first ++ readBytes memory (address + first) (len - first) =
      readBytes memory address len := by
  obtain ⟨second, rfl⟩ := Nat.exists_eq_add_of_le within
  rw [Nat.add_sub_cancel_left]
  simp only [readBytes, range_add, map_append, List.map_map, Function.comp_def, Nat.add_assoc]

theorem readBytes_overlay (memory : Nat → Byte) (address : Nat) (data : List Byte) :
    readBytes (CharBuffer.overlay memory address data) address data.length =
      data := by
  apply ext_getElem
  · rw [readBytes, length_map, length_range]
  · intro index _ inside
    simp only [readBytes, getElem_map, getElem_range]
    exact CharBuffer.overlay_of_inside inside

variable {block offset : Nat}

theorem bufStart_ne {other place : Nat} (different : block ≠ other)
    (inside : offset < slab.bufSize) (otherInside : place < slab.bufSize) :
    slab.bufStart block + offset ≠ slab.bufStart other + place := by
  intro same
  apply different
  rw [← slab.blockStartGet_bufStart block inside, same,
    slab.blockStartGet_bufStart other otherInside]

variable {data : List Byte} {event : RxEvent}

theorem readBytes_fill {other start : Nat} (inside : event.Inside slab other start)
    (within : offset + data.length ≤ slab.bufSize)
    (before : other = block → start + event.len ≤ offset) :
    readBytes (CharBuffer.overlay system.memory
        (slab.bufStart block + offset) data) event.buf event.len =
      readBytes system.memory event.buf event.len := by
  obtain ⟨address, _, eventWithin⟩ := inside
  apply readBytes_congr
  intro index isIndex
  rw [address, Nat.add_assoc]
  by_cases same : other = block
  · have earlier := before same
    apply CharBuffer.overlay_of_outside
    left
    rw [same]
    omega
  · apply CharBuffer.overlay_of_outside
    by_contra overlaps
    apply bufStart_ne same (by omega : start + index < slab.bufSize)
      (by omega : slab.bufStart other + (start + index) - slab.bufStart block < slab.bufSize)
    omega

theorem rest_inside (accounted : system.Accounted slab)
    (isRest : event ∈ system.pc.rest ++ system.queue) (nonempty : 0 < event.len) :
    ∃ block offset, event.Inside slab block offset ∧
      ∀ held ∈ system.held, held.1 = block → offset + event.len ≤ held.2 := by
  rcases mem_append.mp isRest with inProgress | isQueued
  · cases isPc : system.pc with
    | got room whole =>
      rw [isPc] at inProgress
      rw [mem_singleton.mp inProgress]
      apply accounted.placed
      rw [RxSystem.events, isPc]
      exact mem_cons_self
    | copied room whole copySize =>
      rw [isPc] at inProgress
      obtain ⟨block, offset, ⟨address, _, within⟩, before⟩ :=
        accounted.placed whole (by
          rw [RxSystem.events, isPc]
          exact mem_cons_self)
      have short := accounted.copied room whole copySize isPc
      rw [mem_singleton.mp inProgress] at nonempty ⊢
      dsimp only at nonempty
      refine ⟨block, offset + copySize, ⟨?_, by omega, ?_⟩, ?_⟩
      · dsimp only
        rw [address, Nat.add_assoc]
      · dsimp only
        omega
      · intro held isHeld same
        have reported := before held isHeld same
        dsimp only
        omega
    | _ =>
      rw [isPc] at inProgress
      cases inProgress
  · exact accounted.placed event (mem_append_right _ isQueued)

theorem pending_fill (accounted : system.Accounted slab)
    (later : ∀ held ∈ system.held, held.1 = block → held.2 ≤ offset)
    (isHeld : block ∈ system.heldBlocks)
    (within : offset + data.length ≤ slab.bufSize) :
    (system.fill slab block offset data).pending = system.pending := by
  apply flatMap_congr
  intro event isRest
  rcases Nat.eq_zero_or_pos event.len with empty | nonempty
  · rw [empty]
    rfl
  · obtain ⟨other, start, inside, before⟩ :=
      rest_inside accounted isRest nonempty
    apply readBytes_fill inside within
    rintro rfl
    obtain ⟨held, wasHeld, rfl⟩ := List.mem_map.mp isHeld
    exact Nat.le_trans (before held wasHeld rfl) (later held wasHeld rfl)

theorem lossless_rxRdy (lossless : system.Lossless)
    (filled : readBytes system.memory (slab.bufStart block + offset) data.length = data)
    (room : system.started = true → system.queue.length < slab.eventCount) :
    (system.rxRdy slab block offset data).Lossless := by
  rw [RxSystem.rxRdy]
  split
  · rename_i started
    rw [if_pos (room started), RxSystem.Lossless, RxSystem.pending]
    dsimp only [RxSystem.rxBufRef]
    rw [← append_assoc, flatMap_append, flatMap_singleton, filled, ← append_assoc]
    exact congrArg (fun bytes => bytes ++ data) lossless
  · exact lossless

variable (slab) in
theorem giveBuf_bytes (accepts : Bool) (system : RxSystem) :
    (system.giveBuf slab accepts).1.memory = system.memory ∧
      (system.giveBuf slab accepts).1.returned = system.returned ∧
      (system.giveBuf slab accepts).1.reported = system.reported := by
  rw [RxSystem.giveBuf]
  split
  · exact ⟨rfl, rfl, rfl⟩
  · dsimp only
    split <;> exact ⟨rfl, rfl, rfl⟩

variable (slab) in
theorem lossless_giveBuf (accepts : Bool) (lossless : system.Lossless) :
    (system.giveBuf slab accepts).1.Lossless := by
  obtain ⟨samePc, sameQueue⟩ := giveBuf_events slab accepts system
  obtain ⟨sameMemory, sameReturned, sameReported⟩ :=
    giveBuf_bytes slab accepts system
  rw [RxSystem.Lossless, RxSystem.pending, samePc, sameQueue, sameMemory,
    sameReturned, sameReported]
  exact lossless

variable (slab) in
theorem lossless_rxEnable (accepts : Bool) (lossless : system.Lossless) :
    (system.rxEnable slab accepts).1.Lossless := by
  rw [RxSystem.rxEnable]
  split
  · exact lossless
  · exact lossless_giveBuf slab accepts lossless

theorem lossless_finishEvent {room copySize : Nat} (lossless : system.Lossless)
    (isCopied : system.pc = .copied room event copySize)
    (free : system.putsBack = true → system.queue.length < slab.eventCount) :
    (system.finishEvent slab room event copySize).Lossless := by
  rw [RxSystem.Lossless, RxSystem.pending, isCopied] at lossless
  rw [RxSystem.finishEvent]
  dsimp only
  split
  · rename_i whole
    rw [RxSystem.Lossless, RxSystem.pending]
    dsimp only [RxSystem.rxBufUnref]
    rw [ReceivePc.rest, singleton_append, flatMap_cons] at lossless
    simp only [whole, Nat.sub_self] at lossless
    exact lossless
  · rename_i isPart
    have hasRoom : system.queue.length < slab.eventCount := by
      apply free
      rw [RxSystem.putsBack, isCopied]
      exact bne_iff_ne.mpr isPart
    rw [if_pos hasRoom]
    exact lossless

theorem lossless_reader (accepts : Bool) (lossless : system.Lossless)
    (free : NeverFull slab system (.reader accepts))
    (taken : system.reader slab accepts = some after) : after.Lossless := by
  unfold RxSystem.reader at taken
  split at taken
  · cases taken
  · rename_i room isLoop
    rw [RxSystem.Lossless, RxSystem.pending, isLoop] at lossless
    split at taken
    · cases taken
      exact lossless
    · rename_i event rest isQueue
      split at taken
      · cases taken
        exact lossless
      · cases taken
        rw [isQueue] at lossless
        exact lossless
  · rename_i room event isGot
    cases taken
    rw [RxSystem.Lossless, RxSystem.pending, isGot, ReceivePc.rest, singleton_append, flatMap_cons,
      ← readBytes_split _ _ (Nat.min_le_right room event.len)] at lossless
    rw [RxSystem.Lossless, RxSystem.pending]
    dsimp only
    rw [ReceivePc.rest, singleton_append, flatMap_cons, ← lossless]
    simp only [append_assoc]
  · rename_i isCopied
    cases taken
    exact lossless_finishEvent lossless isCopied free
  · rename_i isDrained
    rw [RxSystem.Lossless, RxSystem.pending, isDrained] at lossless
    split at taken
    · cases taken
      exact lossless
    · cases taken
      exact lossless
  · rename_i isRecovering
    cases taken
    have enabled := lossless_rxEnable slab accepts lossless
    obtain ⟨samePc, _⟩ := rxEnable_events slab accepts system
    rw [RxSystem.Lossless, RxSystem.pending, samePc, isRecovering] at enabled
    exact enabled
  · rename_i enabled isRecovered
    cases taken
    rw [RxSystem.Lossless, RxSystem.pending, isRecovered] at lossless
    exact lossless

theorem lossless_step {action : RxAction} (accounted : system.Accounted slab)
    (lossless : system.Lossless) (free : NeverFull slab system action)
    (taken : rxStep slab action system = some after) : after.Lossless := by
  cases action with
  | startQueue =>
    cases taken
    exact lossless
  | rxRdy block offset data =>
    rw [rxStep] at taken
    split at taken
    · rename_i reports
      obtain ⟨isHeld, later, _, within⟩ := reports
      cases taken
      refine lossless_rxRdy ?_ (readBytes_overlay _ _ _) free
      rw [RxSystem.Lossless, pending_fill accounted later isHeld within]
      exact lossless
    · cases taken
  | bufRequest accepts =>
    cases taken
    rw [RxSystem.bufRequest]
    split
    · exact lossless
    · exact lossless_giveBuf slab accepts lossless
  | bufReleased block =>
    rw [rxStep] at taken
    split at taken
    · cases taken
      exact lossless
    · cases taken
  | rxDisabled =>
    cases taken
    exact lossless
  | openRx accepts =>
    cases taken
    have cleared : RxSystem.Lossless { system with recoveryDisabled := false } :=
      lossless
    exact lossless_rxEnable slab accepts cleared
  | opened =>
    rw [rxStep] at taken
    split at taken
    · cases taken
      exact lossless
    · cases taken
  | disable =>
    cases taken
    exact lossless
  | receive size =>
    rw [rxStep] at taken
    split at taken
    · rename_i isIdle
      cases taken
      rw [RxSystem.Lossless, RxSystem.pending, isIdle] at lossless
      exact lossless
    · cases taken
  | reader accepts => exact lossless_reader accepts lossless free taken

/-- In every run in which the queue has a free slot for each event that is
reported or put back, what `pipe_receive` has returned and what is still queued
is what the driver has reported, in order. -/
theorem bytes_in_order (reachable : RxReachable slab (NeverFull slab) system) :
    system.returned ++ system.pending = system.reported := by
  have kept : system.Accounted slab ∧ system.Lossless := by
    induction reachable with
    | start isFresh =>
      rw [isFresh]
      exact ⟨accounted_fresh slab, rfl⟩
    | next action _ free taken ih =>
      exact ⟨accounted_step ih.1 taken, lossless_step ih.1 ih.2 free taken⟩
  exact kept.2

def threeEvents : List RxAction :=
  [.startQueue, .openRx true, .opened, .rxRdy 0 0 [65], .rxRdy 0 1 [66], .rxRdy 0 2 [67]]

def fullQueue : List RxAction :=
  [.startQueue, .openRx true, .opened, .rxRdy 0 0 [65, 66], .receive 1,
    .reader false, .rxRdy 0 2 [67], .rxRdy 0 3 [68], .reader false,
    .reader false]

/-- Reported bytes are dropped when the queue is full, while the driver still has
room in the buffer that it was given, and when an event cannot be put back. -/
theorem bytes_are_dropped : (∃ system, RxReachable smallSlab (fun _ _ => True) system ∧
      system.reported = [65, 66, 67] ∧
      system.returned ++ system.pending = [65, 66]) ∧
    ∃ system, RxReachable smallSlab (fun _ _ => True) system ∧ system.reported = [65, 66, 67, 68] ∧
      system.returned ++ system.pending = [65, 67, 68] := by
  have first : (runActions (rxStep smallSlab) threeEvents (freshRx smallSlab)).map (fun system =>
        (system.reported, system.returned ++ system.pending)) =
        some ([65, 66, 67], [65, 66]) := by
    decide
  have second : (runActions (rxStep smallSlab) fullQueue (freshRx smallSlab)).map (fun system =>
        (system.reported, system.returned ++ system.pending)) =
        some ([65, 66, 67, 68], [65, 67, 68]) := by
    decide
  obtain ⟨dropped, ran, seen⟩ := Option.map_eq_some_iff.mp first
  obtain ⟨other, otherExecuted, otherSeen⟩ := Option.map_eq_some_iff.mp second
  obtain ⟨isReported, isLeft⟩ := Prod.mk.inj seen
  obtain ⟨otherReported, otherLeft⟩ := Prod.mk.inj otherSeen
  exact ⟨⟨dropped, reachable_of_run threeEvents rfl ran, isReported, isLeft⟩,
    other, reachable_of_run fullQueue rfl otherExecuted, otherReported, otherLeft⟩

/-- Three bytes, of which one is read in between. -/
theorem bytes_in_order_example : ∃ system, runChecked (rxStep smallSlab)
        (fun system action => decide (NeverFull smallSlab system action))
        (receivedByte ++ [.rxRdy 1 0 [67]]) (freshRx smallSlab) = some system ∧
      system.returned = [65] ∧
      system.returned ++ system.pending = system.reported := by
  have evaluated : (runChecked (rxStep smallSlab)
      (fun system action => decide (NeverFull smallSlab system action))
      (receivedByte ++ [.rxRdy 1 0 [67]]) (freshRx smallSlab)).map
        (fun system => system.returned) = some [65] := by
    decide
  obtain ⟨system, ran, returned⟩ := Option.map_eq_some_iff.mp evaluated
  exact ⟨system, ran, returned, bytes_in_order (reachable_of_runChecked
    (receivedByte ++ [.rxRdy 1 0 [67]])
    (fun before action _ passed => of_decide_eq_true passed) (.start rfl)
    ran)⟩

end SerialModem.Uart
