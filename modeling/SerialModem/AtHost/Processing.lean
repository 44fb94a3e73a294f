import SerialModem.AtHost.ModeChange

/-!
# What a work item does to a context

Every change of the data-mode part of a context and of its session is a
sequence of `Move`s, whichever context the work item was started for.  The
moves with a guard that mentions `orderly` are the ones that break the
data-mode state when they are made at the wrong moment: a caller that can rule
this out obtains orderly moves, any other one takes `orderly` to be `False`.
-/

namespace SerialModem.AtHost

open Library

inductive Move (cfg : Config) (orderly live : Prop) :
    DataState × Session → DataState × Session → Prop
  | entry {before after : DataState × Session} :
      Entry cfg live before after → Move cfg orderly live before after
  | ring (data : DataState) (record : Session) (ring : RingBuffer Byte) (consumed : List Byte) :
      ring.size = data.dataRb.size →
      (orderly → data.atMode ≠ .atCommandMode ∨ ring.content = []) →
      Move cfg orderly live (data, record)
        ({ data with dataRb := ring }, { record with consumed := consumed })
  | exitHandler (data : DataState) (record : Session)
      (ring : RingBuffer Byte) (consumed : List Byte) (result : Int) :
      live →
      data.atMode ≠ .atCommandMode →
      ring.size = data.dataRb.size →
      Move cfg orderly live (data, record) ({ data.exited result with dataRb := ring },
          { record with
            consumed := consumed
            dropped := some (record.dropped.getD []) })
  | clear (data : DataState) (record : Session) : live → data.atMode ≠ .atCommandMode →
      data.nullMatchCount = 0 →
      data.nullDroppedCount = 0 →
      Move cfg orderly live (data, record) (data.cleared, record)
  | quitStrMatch (data : DataState) (record : Session) (count : UInt8) :
      (orderly → data.atMode ≠ .atCommandMode ∨ count = 0) →
      Move cfg orderly live (data, record) ({ data with quitStrMatch := count }, record)
  | dataLen (data : DataState) (record : Session) (count : UInt32) :
      (orderly → data.atMode = .dataMode ∧ count ≤ data.dataLen) →
      Move cfg orderly live (data, record) ({ data with dataLen := count }, record)

abbrev Moves (cfg : Config) (orderly : Prop) (d : CtxId) (before after : Host) :
    Prop :=
  Relation.ReflTransGen (Move cfg orderly (d ∈ before.instanceList)) (view d before) (view d after)

/-- The effect of a part of a work item for `c`. -/
structure Processed (cfg : Config) (orderly : Prop) (c : CtxId)
    (before after : Host) : Prop where
  frame : Frame before after
  internal : Appends Internal before after
  moves : ∀ d, Moves cfg orderly d before after
  routed : Fallback cfg c before ∨ handlerExits c after = handlerExits c before →
    Served cfg c before →
    ActsOn c before after ∧ Served cfg c after

variable {cfg : Config} {orderly : Prop} {before after : Host}

theorem Confined.moves {e : CtxId} (confined : Confined cfg e before after)
    (guard : orderly → (before.data e).atMode ≠ .atCommandMode ∨
      (after.data e).dataRb.content = []) (d : CtxId) :
    Moves cfg orderly d before after := by
  by_cases same : d = e
  · subst same
    obtain ⟨requested, received⟩ :=
      session_of_appends_internal (c := d) confined.internal
    apply Relation.ReflTransGen.single
    rcases confined.outcome with kept | moved
    · obtain ⟨ring, size, equality⟩ := kept.data
      have record : session d after.history =
          { session d before.history with
            consumed := (session d after.history).consumed } := by
        have dropped := kept.dropped
        unfold droppedBytes at dropped
        cases later : session d after.history
        simp_all
      rw [equality] at guard
      rw [view, view, equality, record]
      exact Move.ring _ _ ring _ size guard
    · obtain ⟨ring, result, size, equality⟩ := moved.data
      have record : session d after.history =
          { session d before.history with
            consumed := (session d after.history).consumed
            dropped :=
              some ((session d before.history).dropped.getD []) } := by
        have dropped := moved.dropped
        unfold droppedBytes at dropped
        cases later : session d after.history
        simp_all
      rw [view, view, equality, record]
      exact Move.exitHandler _ _ ring _ result moved.live moved.left size
  · have unchanged : view d after = view d before := by
      rw [view, (confined.others d same).1, (confined.others d same).2, view]
    unfold Moves
    rw [unchanged]

namespace Processed

variable {cfg : Config} {orderly : Prop}

variable {c : CtxId}

theorem trans {first second third : Host} (left : Processed cfg orderly c first second)
    (right : Processed cfg orderly c second third) :
    Processed cfg orderly c first third where
  frame := left.frame.trans right.frame
  internal := left.internal.trans right.internal
  moves d := by
    have later := right.moves d
    unfold Moves at later
    rw [left.frame.instanceList] at later
    exact (left.moves d).trans later
  routed safe served := by
    have leftLe : handlerExits c first ≤ handlerExits c second :=
      handlerExits_le left.internal
    have rightLe : handlerExits c second ≤ handlerExits c third :=
      handlerExits_le right.internal
    obtain ⟨leftRouted, middle⟩ :=
      left.routed (safe.imp id fun same => by omega) served
    obtain ⟨rightRouted, stillServed⟩ := right.routed
      (safe.imp (Fallback.of_wiring left.frame.sameWiring) fun same => by omega) middle
    exact ⟨leftRouted.trans rightRouted, stillServed⟩

theorem refl (c : CtxId) (host : Host) : Processed cfg orderly c host host where
  frame := Frame.refl host
  internal := Appends.refl host
  moves _ := Relation.ReflTransGen.refl
  routed _ served := ⟨ActsOn.refl c host, served⟩

theorem of_confined {e : CtxId} {before after : Host} (confined : Confined cfg e before after)
    (served : smAtHostGetCurrent cfg before = some e)
    (guard : orderly → (before.data e).atMode ≠ .atCommandMode ∨
      (after.data e).dataRb.content = []) :
    Processed cfg orderly c before after where
  frame := confined.frame
  internal := confined.internal
  moves := confined.moves guard
  routed safe servedHere := by
    have same : e = c :=
      Option.some.inj (served.symm.trans servedHere.getCurrent)
    subst same
    obtain ⟨events, stillServed⟩ := confined.routed safe servedHere
    refine ⟨⟨events, fun d different => ?_⟩, stillServed⟩
    rw [view, (confined.others d different).1, (confined.others d different).2, view]

theorem setData {host : Host} {data : DataState} (move : Move cfg orderly (c ∈ host.instanceList)
      (host.data c, session c host.history) (data, session c host.history)) :
    Processed cfg orderly c host (host.setData c data) where
  frame := Frame.setData host c data
  internal := Appends.of_eq rfl
  moves d := by
    by_cases same : d = c
    · subst same
      apply Relation.ReflTransGen.single
      rw [view, view, Host.data_setData_self, Host.history_setData]
      exact move
    · have unchanged : view d (host.setData c data) = view d host := by
        rw [view, Host.data_setData_of_ne _ _ same, Host.history_setData, view]
      unfold Moves
      rw [unchanged]
  routed _ served :=
    ⟨ActsOn.setData host c data, served.of_frame (Frame.setData host c data) rfl⟩

theorem setQuitStrMatch {host : Host} (count : UInt8)
    (guard : orderly → (host.data c).atMode ≠ .atCommandMode ∨ count = 0) :
    Processed cfg orderly c host (setQuitStrMatch c count host) :=
  setData (Move.quitStrMatch _ _ count guard)

theorem exitDatamode (env : Environment) {c : CtxId} {host : Host}
    (matched : (host.data c).nullMatchCount = 0)
    (dropped : (host.data c).nullDroppedCount = 0) :
    Processed cfg orderly c host (exitDatamode cfg env c host) := by
  by_cases effective : c ∈ host.instanceList ∧ (host.data c).atMode ≠ .atCommandMode
  · obtain ⟨live, left⟩ := effective
    obtain ⟨cleared, _⟩ := exitDatamode_spec cfg env live left
    refine ⟨cleared.frame, cleared.internal, ?_, ?_⟩
    · intro d
      by_cases same : d = c
      · subst same
        apply Relation.ReflTransGen.single
        rw [view, view, cleared.data, cleared.sessions d]
        exact Move.clear _ _ live left matched dropped
      · have unchanged : view d (AtHost.exitDatamode cfg env c host) = view d host := by
          rw [view, cleared.others d same, cleared.sessions d, view]
        unfold Moves
        rw [unchanged]
    · intro _ served
      exact ⟨cleared.actsOn served, served.of_frame cleared.frame cleared.current⟩
  · rw [exitDatamode_refused cfg env effective]
    exact refl c host

end Processed

/-- What holds of a context between two work items, whatever has happened. -/
structure WellFormed (cfg : Config) (live : Prop)
    (state : DataState × Session) : Prop where
  ring : state.1.dataRb.size = 0 ∨ state.1.dataRb.size = cfg.datamodeBufSize
  left : state.1.atMode ≠ .atCommandMode → live ∧ state.1.dataRb.size = cfg.datamodeBufSize
  counters : state.1.atMode ≠ .nullMode → state.1.nullMatchCount = 0 ∧ state.1.nullDroppedCount = 0

def AllWellFormed (cfg : Config) (host : Host) : Prop :=
  ∀ d, WellFormed cfg (d ∈ host.instanceList) (view d host)

theorem Entry.wellFormed {live : Prop} {before after : DataState × Session}
    (entry : Entry cfg live before after)
    (wellFormed : WellFormed cfg live before) :
    WellFormed cfg live after := by
  cases entry with
  | timeLimit data record limit =>
    exact ⟨wellFormed.ring, wellFormed.left, wellFormed.counters⟩
  | enter data record ring handler dataLen limit isLive mode free empty size =>
    have counters := wellFormed.counters (by simp [mode])
    have sized : ring.size = cfg.datamodeBufSize := by
      rcases wellFormed.ring with zero | sized
      · rw [size, if_pos zero]
      · have positive := datamodeBufSize_pos cfg
        change data.dataRb.size = cfg.datamodeBufSize at sized
        rw [size, if_neg (by omega), sized]
    exact ⟨.inr sized, fun _ => ⟨isLive, sized⟩, fun _ => counters⟩

theorem Move.wellFormed {live : Prop} {before after : DataState × Session}
    (move : Move cfg orderly live before after)
    (wellFormed : WellFormed cfg live before) :
    WellFormed cfg live after := by
  cases move with
  | entry entry => exact entry.wellFormed wellFormed
  | ring data record ring consumed size guard =>
    refine ⟨?_, ?_, wellFormed.counters⟩
    · simpa only [size] using wellFormed.ring
    · simpa only [size] using wellFormed.left
  | exitHandler data record ring consumed result isLive left size =>
    have sized := (wellFormed.left left).2
    refine ⟨.inr (size.trans sized), fun _ => ⟨isLive, size.trans sized⟩, ?_⟩
    intro notNull
    exact absurd rfl notNull
  | clear data record isLive left matched dropped =>
    refine ⟨wellFormed.ring, ?_, fun _ => ⟨matched, dropped⟩⟩
    intro left
    exact absurd rfl left
  | quitStrMatch data record count guard | dataLen data record count guard =>
    exact ⟨wellFormed.ring, wellFormed.left, wellFormed.counters⟩

theorem Moves.nullCounters {d : CtxId} (moves : Moves cfg orderly d before after) :
    (after.data d).nullMatchCount = (before.data d).nullMatchCount ∧
      (after.data d).nullDroppedCount = (before.data d).nullDroppedCount := by
  have single : ∀ first second, Move cfg orderly (d ∈ before.instanceList) first second →
      second.1.nullMatchCount = first.1.nullMatchCount ∧
        second.1.nullDroppedCount = first.1.nullDroppedCount := by
    intro first second move
    cases move with
    | entry entry => cases entry <;> exact ⟨rfl, rfl⟩
    | _ => exact ⟨rfl, rfl⟩
  unfold Moves at moves
  change (view d after).1.nullMatchCount = (view d before).1.nullMatchCount ∧
    (view d after).1.nullDroppedCount = (view d before).1.nullDroppedCount
  generalize view d after = last at moves ⊢
  induction moves with
  | refl => exact ⟨rfl, rfl⟩
  | tail _ move ih =>
    have same := single _ _ move
    exact ⟨same.1.trans ih.1, same.2.trans ih.2⟩

/-- A property of one context that every move keeps is kept by a part of a work
item. -/
theorem Processed.invariant {c : CtxId} {property : Prop → DataState × Session → Prop}
    (processed : Processed cfg orderly c before after)
    (kept : ∀ live first second, Move cfg orderly live first second →
      property live first → property live second)
    (holds : ∀ d, property (d ∈ before.instanceList) (view d before)) :
    ∀ d, property (d ∈ after.instanceList) (view d after) := by
  intro d
  rw [processed.frame.instanceList]
  have moves := processed.moves d
  unfold Moves at moves
  generalize view d after = last at moves
  induction moves with
  | refl => exact holds d
  | tail _ move ih =>
    exact kept _ _ _ move ih

theorem Processed.wellFormed {c : CtxId} (processed : Processed cfg orderly c before after)
    (wellFormed : AllWellFormed cfg before) : AllWellFormed cfg after :=
  processed.invariant (fun _ _ _ move => move.wellFormed) wellFormed

section Bytes

variable {cfg : Config} {env : Environment} {orderly : Prop} {c : CtxId}

variable {after : Host}

theorem Confined.data_cases {e : CtxId} {before : Host} (confined : Confined cfg e before after)
    (d : CtxId) : (∃ ring, after.data d = { before.data d with dataRb := ring }) ∨
      (after.data d).atMode = .nullMode := by
  by_cases same : d = e
  · subst same
    rcases confined.outcome with kept | moved
    · obtain ⟨ring, _, equality⟩ := kept.data
      exact .inl ⟨ring, equality⟩
    · obtain ⟨ring, result, _, equality⟩ := moved.data
      rw [equality]
      exact .inr rfl
  · exact .inl ⟨_, (confined.others d same).1⟩

theorem Confined.stays_left {e d : CtxId} {before : Host} (confined : Confined cfg e before after)
    (left : (before.data d).atMode ≠ .atCommandMode) :
    (after.data d).atMode ≠ .atCommandMode := by
  rcases confined.data_cases d with ⟨ring, kept⟩ | moved
  · rw [kept]
    exact left
  · rw [moved]
    decide

theorem Confined.data_of_dataMode {e d : CtxId} {before : Host}
    (confined : Confined cfg e before after)
    (mode : (after.data d).atMode = .dataMode) :
    ∃ ring, after.data d = { before.data d with dataRb := ring } := by
  refine (confined.data_cases d).resolve_right ?_
  rw [mode]
  decide

variable {host : Host}

variable {content : List Byte}

theorem writeDataBuf_of_room (nonempty : content ≠ [])
    (room : ∀ e, (host.data e).dataRb.size ≠ 0 → content.length ≤ (host.data e).dataRb.size)
    (ran : writeDataBuf cfg env content host = some after) :
    ∃ e, smAtHostGetCurrent cfg host = some e ∧ Confined cfg e host after := by
  cases served : smAtHostGetCurrent cfg host with
  | none => simp [writeDataBuf, served] at ran
  | some e =>
    refine ⟨e, rfl, ?_⟩
    by_cases noRing : (host.data e).dataRb.size = 0
    · rw [writeDataBuf_of_noRing cfg env served nonempty noRing] at ran
      cases ran
    · obtain ⟨result, returned, confined⟩ :=
        writeDataBuf_spec cfg env served nonempty (room e noRing)
      rw [ran] at returned
      cases returned
      exact confined

theorem writeDataBuf_confined (wellFormed : AllWellFormed cfg host) (nonempty : content ≠ [])
    (short : content.length ≤ 255)
    (ran : writeDataBuf cfg env content host = some after) :
    ∃ e, smAtHostGetCurrent cfg host = some e ∧ Confined cfg e host after := by
  refine writeDataBuf_of_room nonempty ?_ ran
  intro e hasRing
  rcases (wellFormed e).ring with noRing | sized
  · exact absurd noRing hasRing
  · have range := cfg.datamodeBufSize_range
    change content.length ≤ (view e host).1.dataRb.size
    omega

def WritesOutsideAtMode (cfg : Config) (host : Host) : Prop :=
  ∀ e, smAtHostGetCurrent cfg host = some e → (host.data e).atMode ≠ .atCommandMode

theorem setQuitStrMatch_atMode (count : UInt8) (host : Host) (d : CtxId) :
    ((setQuitStrMatch c count host).data d).atMode = (host.data d).atMode := by
  by_cases same : d = c
  · subst same
    simp [setQuitStrMatch]
  · rw [setQuitStrMatch, Host.data_setData_of_ne _ _ same]

theorem setQuitStrMatch_getCurrent (count : UInt8) (host : Host) :
    smAtHostGetCurrent cfg (setQuitStrMatch c count host) = smAtHostGetCurrent cfg host :=
  smAtHostGetCurrent_congr (Frame.setData host c _) (setQuitStrMatch_atMode count host) rfl

theorem WritesOutsideAtMode.setQuitStrMatch
    (outside : WritesOutsideAtMode cfg host) (count : UInt8) :
    WritesOutsideAtMode cfg (setQuitStrMatch c count host) := by
  intro e served
  rw [setQuitStrMatch_getCurrent] at served
  rw [setQuitStrMatch_atMode]
  exact outside e served

theorem writeDataBuf_processed (wellFormed : AllWellFormed cfg host) (nonempty : content ≠ [])
    (short : content.length ≤ 255)
    (guard : orderly → WritesOutsideAtMode cfg host)
    (ran : writeDataBuf cfg env content host = some after) :
    Processed cfg orderly c host after := by
  obtain ⟨e, served, confined⟩ :=
    writeDataBuf_confined wellFormed nonempty short ran
  exact Processed.of_confined confined served fun isOrderly => .inl (guard isOrderly e served)

theorem rawSend_processed {flags : Flags} (ran : rawSend cfg env flags host = some after) :
    Processed cfg orderly c host after := by
  cases served : smAtHostGetCurrent cfg host with
  | none => simp [rawSend, served] at ran
  | some e =>
    obtain ⟨result, returned, confined, empty⟩ :=
      rawSend_spec cfg env flags served
    rw [ran] at returned
    cases returned
    exact Processed.of_confined confined served fun _ => .inr empty

theorem advanceQuitStr_processed (left : (host.data c).atMode ≠ .atCommandMode)
    (matched : (host.data c).nullMatchCount = 0)
    (dropped : (host.data c).nullDroppedCount = 0)
    (ran : advanceQuitStr cfg env c host = some after) :
    Processed cfg orderly c host after := by
  unfold advanceQuitStr at ran
  dsimp only at ran
  have counted : Processed cfg orderly c host
      (setQuitStrMatch c ((host.data c).quitStrMatch + 1) host) :=
    Processed.setQuitStrMatch _ fun _ => .inl left
  split at ran
  · obtain ⟨sent, flushed, equality⟩ := Option.map_eq_some_iff.mp ran
    subst equality
    have sentProcessed : Processed cfg orderly c host sent :=
      counted.trans (rawSend_processed flushed)
    obtain ⟨sameMatched, sameDropped⟩ := (sentProcessed.moves c).nullCounters
    refine (sentProcessed.trans (Processed.exitDatamode env (sameMatched.trans matched)
        (sameDropped.trans dropped))).trans ?_
    exact Processed.setQuitStrMatch 0 fun _ => .inr rfl
  · cases ran
    exact counted

/-- The conditions under which a byte of data mode keeps the data-mode state
in order: writes go to a context outside AT-command mode, and the flush of a
full ring does not end a length-delimited session. -/
def OrderlyByte (cfg : Config) (env : Environment) (c : CtxId) (byte : Byte) (host : Host) : Prop :=
  if 0 < (host.data c).dataLen then
    WritesOutsideAtMode cfg host ∧ ∀ written, writeDataBuf cfg env [byte] host = some written →
        (written.data c).atMode = .dataMode
  else if cfg.terminator[(host.data c).quitStrMatch.toNat]? = some byte then
    True
  else
    WritesOutsideAtMode cfg host ∧
      (0 < (host.data c).quitStrMatch → cfg.terminator[0]? ≠ some byte →
        ∀ written, writeDataBuf cfg env
            (cfg.terminator.take (host.data c).quitStrMatch.toNat) host = some written →
          WritesOutsideAtMode cfg written)

theorem partialMatch_nonempty (host : Host) (positive : 0 < (host.data c).quitStrMatch) :
    cfg.terminator.take (host.data c).quitStrMatch.toNat ≠ [] := by
  have counted : 0 < (host.data c).quitStrMatch.toNat := positive
  have pattern := List.length_pos_iff.mpr cfg.terminator_ne
  apply List.ne_nil_of_length_pos
  rw [List.length_take]
  omega

theorem partialMatch_short (host : Host) :
    (cfg.terminator.take (host.data c).quitStrMatch.toNat).length ≤ 255 := by
  have bound := (host.data c).quitStrMatch.toNat_lt
  rw [List.length_take]
  omega

theorem dataLen_sub_one {dataLen : UInt32} (positive : 0 < dataLen) :
    (dataLen - 1).toNat = dataLen.toNat - 1 := by
  have counted : 0 < dataLen.toNat := positive
  apply UInt32.toNat_sub_of_le
  rw [UInt32.le_iff_toNat_le]
  exact counted

theorem rawRxHandler_processed {byte : Byte} (wellFormed : AllWellFormed cfg host)
    (mode : (host.data c).atMode = .dataMode)
    (guard : orderly → OrderlyByte cfg env c byte host)
    (ran : rawRxHandler cfg env c byte host = some after) :
    Processed cfg orderly c host after := by
  have left : (host.data c).atMode ≠ .atCommandMode := by simp [mode]
  obtain ⟨matched, dropped⟩ := (wellFormed c).counters (by simp [view, mode])
  unfold rawRxHandler at ran
  unfold OrderlyByte at guard
  by_cases counting : 0 < (host.data c).dataLen
  · -- A length-delimited session: store, count, and leave at the end.
    rw [if_pos counting] at ran guard
    cases write : writeDataBuf cfg env [byte] host with
    | none => simp [write] at ran
    | some written =>
      simp only [write] at ran
      obtain ⟨e, _, confined⟩ := writeDataBuf_confined wellFormed (by simp) (by simp) write
      have stored : Processed cfg orderly c host written :=
        writeDataBuf_processed wellFormed (by simp) (by simp)
          (fun isOrderly => (guard isOrderly).1) write
      let remaining := (written.data c).dataLen - 1
      have counted : Processed cfg orderly c host (written.setData c
            { written.data c with dataLen := remaining }) := by
        refine stored.trans (Processed.setData (Move.dataLen _ _ remaining fun isOrderly => ?_))
        have stays := (guard isOrderly).2 written write
        refine ⟨stays, ?_⟩
        obtain ⟨ring, equality⟩ := confined.data_of_dataMode stays
        have same : (written.data c).dataLen = (host.data c).dataLen := by
          rw [equality]
        rw [UInt32.le_iff_toNat_le, dataLen_sub_one (same.symm ▸ counting)]
        omega
      by_cases finished : remaining = 0
      · rw [if_pos finished] at ran
        obtain ⟨sent, flushed, equality⟩ :=
          Option.map_eq_some_iff.mp ran
        subst equality
        have sentProcessed : Processed cfg orderly c host sent :=
          counted.trans (rawSend_processed flushed)
        obtain ⟨sameMatched, sameDropped⟩ :=
          (sentProcessed.moves c).nullCounters
        exact sentProcessed.trans (Processed.exitDatamode env (sameMatched.trans matched)
            (sameDropped.trans dropped))
      · rw [if_neg finished] at ran
        cases ran
        exact counted
  · rw [if_neg counting] at ran guard
    by_cases continues : cfg.terminator[(host.data c).quitStrMatch.toNat]? = some byte
    · rw [if_pos continues] at ran
      exact advanceQuitStr_processed left matched dropped ran
    · rw [if_neg continues] at ran guard
      by_cases pending : 0 < (host.data c).quitStrMatch
      · -- The partial match is data after all; the byte may start a new one.
        rw [if_pos pending] at ran
        cases write : writeDataBuf cfg env
            (cfg.terminator.take (host.data c).quitStrMatch.toNat) host with
        | none => simp [write] at ran
        | some written =>
          simp only [write] at ran
          obtain ⟨e, _, confined⟩ := writeDataBuf_confined wellFormed
            (partialMatch_nonempty host pending)
            (partialMatch_short host) write
          have stored : Processed cfg orderly c host written :=
            writeDataBuf_processed wellFormed (partialMatch_nonempty host pending)
              (partialMatch_short host)
              (fun isOrderly => (guard isOrderly).1) write
          have restarted : Processed cfg orderly c host (setQuitStrMatch c 0 written) :=
            stored.trans (Processed.setQuitStrMatch 0 fun _ => .inr rfl)
          obtain ⟨sameMatched, sameDropped⟩ :=
            (restarted.moves c).nullCounters
          have stillLeft : ((setQuitStrMatch c 0 written).data c).atMode ≠ .atCommandMode := by
            simpa [setQuitStrMatch] using confined.stays_left left
          by_cases starts : cfg.terminator[0]? = some byte
          · rw [if_pos starts] at ran
            exact restarted.trans (advanceQuitStr_processed stillLeft
                (sameMatched.trans matched) (sameDropped.trans dropped)
                ran)
          · rw [if_neg starts] at ran
            refine restarted.trans (writeDataBuf_processed (restarted.wellFormed wellFormed)
                (by simp) (by simp) (fun isOrderly => ?_) ran)
            exact ((guard isOrderly).2 pending starts written write).setQuitStrMatch 0
      · rw [if_neg pending] at ran
        exact writeDataBuf_processed wellFormed (by simp) (by simp)
          (fun isOrderly => (guard isOrderly).1) ran

end Bytes

end SerialModem.AtHost
