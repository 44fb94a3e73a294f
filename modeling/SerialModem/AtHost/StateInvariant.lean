import SerialModem.AtHost.OpenSession

/-!
# The data-mode state between work items

Six fields of a context are reset by three exit paths.  They are consistent in
every state that is reached by orderly steps.  One step that is not orderly is
enough to break them: when the flush of a full ring ends a length-delimited
session, `raw_rx_handler` still counts the byte and the remaining length wraps.
-/

namespace SerialModem.AtHost

open Library List

variable {cfg : Config} {env : Environment}

/-- What a context in and outside data mode may hold. -/
structure DataInvariant (state : DataState × Session) : Prop where
  handler : state.1.handler.isSome ↔ state.1.atMode = .dataMode
  dataLen : state.1.dataLen ≤ state.2.requestedLen
  outside : state.1.atMode ≠ .dataMode → state.1.dataLen = 0
  clean : state.1.atMode = .atCommandMode → state.1.quitStrMatch = 0 ∧ state.1.nullMatchCount = 0 ∧
      state.1.nullDroppedCount = 0 ∧ state.1.handlerResult = 0 ∧
      state.1.dataRb.content = []

theorem dataLen_zero_le {dataLen bound : UInt32} (zero : dataLen = 0) : dataLen ≤ bound := by
  rw [zero, UInt32.le_iff_toNat_le]
  exact Nat.zero_le _

variable {before after : DataState × Session}

theorem DataInvariant.move {live : Prop} (invariant : DataInvariant before)
    (move : Move cfg True live before after) : DataInvariant after := by
  cases move with
  | entry entry =>
    cases entry with
    | timeLimit data record limit =>
      exact ⟨invariant.handler, invariant.dataLen, invariant.outside, invariant.clean⟩
    | enter data record ring handler dataLen limit _ _ _ _ _ =>
      exact ⟨⟨fun _ => rfl, fun _ => rfl⟩, UInt32.le_refl _, fun outside => absurd rfl outside,
        fun isAtMode => by cases isAtMode⟩
  | ring data record ring consumed _ guard =>
    refine ⟨invariant.handler, invariant.dataLen, invariant.outside, ?_⟩
    intro isAtMode
    obtain ⟨quit, matched, dropped, result, _⟩ := invariant.clean isAtMode
    refine ⟨quit, matched, dropped, result, ?_⟩
    rcases guard trivial with left | empty
    · exact absurd isAtMode left
    · exact empty
  | exitHandler data record ring consumed result _ _ _ =>
    exact ⟨⟨fun isSome => (by cases isSome), fun isData => (by cases isData)⟩,
      dataLen_zero_le rfl, fun _ => rfl, fun isAtMode => (by cases isAtMode)⟩
  | clear data record _ _ matched dropped =>
    exact ⟨⟨fun isSome => (by cases isSome), fun isData => (by cases isData)⟩,
      dataLen_zero_le rfl, fun _ => rfl,
      fun _ => ⟨rfl, matched, dropped, rfl, rfl⟩⟩
  | quitStrMatch data record count guard =>
    refine ⟨invariant.handler, invariant.dataLen, invariant.outside, ?_⟩
    intro isAtMode
    obtain ⟨_, matched, dropped, result, empty⟩ := invariant.clean isAtMode
    refine ⟨?_, matched, dropped, result, empty⟩
    rcases guard trivial with left | zero
    · exact absurd isAtMode left
    · exact zero
  | dataLen data record count guard =>
    obtain ⟨isData, less⟩ := guard trivial
    refine ⟨invariant.handler, UInt32.le_trans less invariant.dataLen,
      fun outside => absurd isData outside, ?_⟩
    intro isAtMode
    exact absurd (isData.symm.trans isAtMode) (by simp)

theorem DataInvariant.discard {data : DataState} {record : Session} (byte : Byte)
    (mode : data.atMode = .nullMode)
    (invariant : DataInvariant (data, record)) :
    DataInvariant (data.discard cfg byte, record.receive byte) := by
  have noLength := invariant.outside (by simp [mode])
  have stays : ∀ matched dropped, DataInvariant
        ({ data with
            nullMatchCount := matched
            nullDroppedCount := dropped }, record.receive byte) :=
    fun _ _ => ⟨invariant.handler, invariant.dataLen, invariant.outside,
      fun isAtMode => absurd (mode.symm.trans isAtMode) (by simp)⟩
  unfold DataState.discard
  split
  · split
    · exact ⟨⟨fun isSome => (by cases isSome),
        fun isData => (by cases isData)⟩, dataLen_zero_le rfl, fun _ => rfl,
        fun _ => ⟨rfl, rfl, rfl, rfl, rfl⟩⟩
    · exact stays _ _
  · exact stays _ _

theorem DataInvariant.evolves {live : Prop} (invariant : DataInvariant before)
    (evolves : Evolves cfg True live before after) : DataInvariant after := by
  refine evolves.invariant invariant ?_ ?_ ?_
  · intro first second move holds
    exact holds.move move
  · intro data record byte _ holds
    exact ⟨holds.handler, holds.dataLen, holds.outside, holds.clean⟩
  · intro data record byte _ mode holds
    exact holds.discard byte mode

variable {host : Host}

theorem Initial.dataInvariant (initial : Initial host) (c : CtxId) :
    DataInvariant (view c host) := by
  rw [initial.view_eq c]
  exact ⟨⟨fun isSome => (by cases isSome), fun isData => (by cases isData)⟩,
    dataLen_zero_le rfl, fun _ => rfl, fun _ => ⟨rfl, rfl, rfl, rfl, rfl⟩⟩

/-- In every execution whose steps are all orderly, the data-mode state of
every context is consistent between two steps. -/
theorem dataInvariant_of_orderly
    {host : Host} (reachable : ReachableIf cfg env (OrderlyStep cfg env) host)
    (c : CtxId) : DataInvariant (view c host) := by
  induction reachable generalizing c with
  | start initial => exact Initial.dataInvariant initial c
  | next action before orderly taken ih =>
    have wellFormed := reachable_wellFormed before
    have evolves := step_evolves True wellFormed (fun _ => orderly) (fun _ d pending isAtMode => by
        have clean := ((ih d).clean isAtMode).1
        change (Host.data _ d).quitStrMatch = 0 at clean
        rw [clean] at pending
        exact absurd pending (by decide))
      taken c
    exact (ih c).evolves evolves

theorem dataInvariant_of_opened_session : ∃ host, ReachableIf plusConfig (sessionEnv 5000 refuseAll)
        (OrderlyStep plusConfig (sessionEnv 5000 refuseAll)) host ∧
      (host.data 0).atMode = .dataMode ∧ DataInvariant (view 0 host) := by
  obtain ⟨host, reachable, _, _, _, data, _⟩ :=
    open_session plusConfig 5000 refuseAll (OrderlyStep plusConfig (sessionEnv 5000 refuseAll))
      (fun state action inAtMode _ c _ _ _ _ _ isData =>
        absurd ((inAtMode c).symm.trans isData) (by simp))
  exact ⟨host, reachable, by rw [data]; rfl, dataInvariant_of_orderly reachable 0⟩

variable {c : CtxId}

theorem rawRxHandler_of_fits (byte : Byte) (served : smAtHostGetCurrent cfg host = some c)
    (counting : 1 < (host.data c).dataLen.toNat)
    (fits : (host.data c).dataRb.content.length < (host.data c).dataRb.size) :
    ∃ handled, rawRxHandler cfg env c byte host = some handled ∧
      handled.currentCtx = host.currentCtx ∧
      (handled.data c).dataRb.size = (host.data c).dataRb.size ∧
      (handled.data c).dataRb.content = (host.data c).dataRb.content ++ [byte] ∧
      handled.data c = { host.data c with
        dataLen := (host.data c).dataLen - 1
        dataRb := (handled.data c).dataRb } := by
  obtain ⟨_, startedKept, same⟩ := startWrite_spec cfg c [byte] host
  let written := storeBytes c [byte] (startWrite c [byte] host)
  have kept : Kept c host written :=
    startedKept.trans (storeBytes_kept c [byte] _)
  have write : writeDataBuf cfg env [byte] host = some written :=
    writeDataBuf_of_fits cfg env served (by simp) fits
  obtain ⟨ring, size, equality⟩ := kept.data
  have content : (written.data c).dataRb.content = (host.data c).dataRb.content ++ [byte] := by
    have room : ((startWrite c [byte] host).data c).dataRb.content.length +
        [byte].length ≤ ((startWrite c [byte] host).data c).dataRb.size := by
      obtain ⟨startedRing, startedSize, startedData⟩ := startedKept.data
      rw [same, startedData, startedSize]
      exact fits
    simp only [written, storeBytes, Host.data_setData_self]
    rw [RingBuffer.put_content_of_fits _ room, same]
  have length : (written.data c).dataLen = (host.data c).dataLen := by
    rw [equality]
  have positive : 0 < (host.data c).dataLen := by
    rw [UInt32.lt_iff_toNat_lt]
    exact Nat.lt_of_succ_lt counting
  have more : (written.data c).dataLen - 1 ≠ 0 := by
    intro zero
    have counted := dataLen_sub_one positive
    rw [length] at zero
    rw [zero] at counted
    change 0 = _ at counted
    omega
  refine ⟨written.setData c { written.data c with dataLen := (written.data c).dataLen - 1 },
    ?_, kept.current, ?_, ?_, ?_⟩
  · simp only [rawRxHandler, positive, if_true, write, more, if_false]
  · rw [Host.data_setData_self, equality]
    exact size
  · rw [Host.data_setData_self]
    exact content
  · rw [Host.data_setData_self, equality]

theorem fill_ring (cfg : Config) (dataLen : UInt32) (send : SendBehaviour) :
    ∀ count, count ≤ cfg.datamodeBufSize → count < dataLen.toNat →
      ∃ host, ReachableState cfg (sessionEnv dataLen send) host ∧
        host.running = .rx 0 0 ∧ host.pipeRx 0 = [] ∧
        host.currentCtx = some 0 ∧
        ∃ (remaining : UInt32) (ring : RingBuffer Byte), remaining.toNat + count = dataLen.toNat ∧
          ring.size = cfg.datamodeBufSize ∧ ring.content.length = count ∧
          host.data 0 = { openedData cfg dataLen with
            dataLen := remaining
            dataRb := ring } := by
  intro count
  induction count with
  | zero =>
    intro _ _
    obtain ⟨host, reachable, running, drained, current, data, _⟩ :=
      open_session cfg dataLen send _ fun _ _ _ => trivial
    exact ⟨host, reachable, running, drained, current, dataLen,
      RingBuffer.init cfg.datamodeBufSize, rfl, rfl, rfl, data⟩
  | succ count ih =>
    intro within below
    obtain ⟨host, reachable, running, drained, current, remaining, ring,
      counted, size, filled, data⟩ :=
      ih (by omega) (by omega)
    obtain ⟨offered, offeredReachable, offeredRunning, waiting,
      offeredCurrent, _, offeredData, _⟩ :=
      offer_byte reachable running drained 97
    have dataTaken : (takeByte 0 97 (setPipeRx 0 [] offered)).data 0 = host.data 0 :=
      (takeByte_data 97 _ 0).trans (offeredData 0)
    have served : smAtHostGetCurrent cfg (takeByte 0 97 (setPipeRx 0 [] offered)) = some 0 :=
      smAtHostGetCurrent_of_current (offeredCurrent.trans current)
    obtain ⟨handled, ran, handledCurrent, handledSize, handledContent,
      handledData⟩ := rawRxHandler_of_fits 97 served (by rw [dataTaken, data]; simp only; omega)
        (by rw [dataTaken, data]; simp only; omega)
    obtain ⟨after, taken, afterRunning, afterDrained, afterCurrent, _,
      afterData⟩ := step_receiveByte_dataMode (reachable_wellFormed offeredReachable)
        (reachable_rx offeredReachable _ _ offeredRunning).2 offeredRunning
        waiting (by rw [offeredData, data]; rfl) ran
    rw [dataTaken, data] at handledSize handledContent handledData
    have positive : 0 < remaining := by
      rw [UInt32.lt_iff_toNat_lt]
      change 0 < remaining.toNat
      omega
    refine ⟨after, offeredReachable.next _ trivial taken, afterRunning,
      afterDrained, ?_, remaining - 1, (handled.data 0).dataRb, ?_,
      handledSize.trans size, ?_, (afterData 0).trans handledData⟩
    · rw [afterCurrent, handledCurrent]
      exact offeredCurrent.trans current
    · rw [dataLen_sub_one positive]
      omega
    · rw [handledContent, length_append, filled]
      rfl

theorem rawSendLoop_refused {handler : HandlerId} {after : Host} {flags : Flags}
    (fuel : Nat) (served : smAtHostGetCurrent cfg host = some c)
    (live : c ∈ host.instanceList)
    (left : (host.data c).atMode ≠ .atCommandMode)
    (isHandler : (host.data c).handler = some handler)
    (filled : (host.data c).dataRb.content ≠ [])
    (enough : 2 * (host.data c).dataRb.content.length < fuel + 1)
    (refuses : ∀ history content sendFlags,
      (env.handlerSend history c handler content sendFlags).result < 0)
    (ran : rawSendLoop cfg env c flags (fuel + 1) true host = some after) :
    handlerExits c host < handlerExits c after := by
  have claimLe := (host.data c).dataRb.getClaim_length_le cfg.datamodeBufSize
  have claimed : (host.data c).dataRb.getClaim cfg.datamodeBufSize ≠ [] :=
    fun none => filled (((host.data c).dataRb.getClaim_eq_nil_iff
      (datamodeBufSize_pos cfg)).mp none)
  rw [rawSendLoop] at ran
  simp only [isHandler] at ran
  generalize (host.data c).dataRb.getClaim cfg.datamodeBufSize = claim at ran claimLe claimed
  rw [if_neg claimed] at ran
  generalize (if claim.length ≠ (host.data c).dataRb.sizeGet then
    { flags with moreData := true } else flags) = sendFlags at ran
  obtain ⟨sent, sentRing⟩ :=
    callHandlerSend_spec cfg env handler claim sendFlags served
  have negative : (callHandlerSend cfg env c handler claim sendFlags host).1 < 0 :=
    refuses _ _ _
  rw [if_pos (.inl negative)] at ran
  generalize callHandlerSend cfg env c handler claim sendFlags host = outcome at ran sent sentRing
  generalize (if outcome.1 = 0 then -eagain else outcome.1) = failure at ran
  obtain ⟨exited, dropped, data⟩ := exitDatamodeHandler_effective cfg env
    failure (sent.frame.instanceList.symm ▸ live) (sent.stays_left left)
  -- From there on the loop only drains the ring.
  have released := exited.trans (finishClaim_confined cfg c claim.length _)
  have serves : Serves cfg c (finishClaim c claim.length
      (exitDatamodeHandler cfg env c failure outcome.2)) := by
    intro hasHandler
    simp [finishClaim, data, DataState.exited] at hasHandler
  have claimPos : 0 < claim.length := length_pos_iff.mpr claimed
  have drained : ((finishClaim c claim.length
      (exitDatamodeHandler cfg env c failure outcome.2)).data c).dataRb.content.length =
      (host.data c).dataRb.content.length - claim.length := by
    have ring := (exitDatamodeHandler_dataRb cfg env c failure outcome.2).trans sentRing
    rw [finishClaim_content (by rw [ring]; exact claimLe), ring, length_drop]
  obtain ⟨result, returned, rest, _⟩ := rawSendLoop_spec cfg env c flags fuel
    true _ serves (by rw [drained, Bool.toNat_true]; omega)
  rw [ran] at returned
  cases returned
  have first := handlerExits_le (c := c) sent.internal
  have last := handlerExits_le (c := c)
    ((finishClaim_confined cfg c claim.length _).trans rest).internal
  have strict := dropped.exits
  omega

theorem rawSend_refused {handler : HandlerId} (flags : Flags)
    (served : smAtHostGetCurrent cfg host = some c)
    (live : c ∈ host.instanceList)
    (left : (host.data c).atMode ≠ .atCommandMode)
    (isHandler : (host.data c).handler = some handler)
    (filled : (host.data c).dataRb.content ≠ [])
    (refuses : ∀ history content sendFlags,
      (env.handlerSend history c handler content sendFlags).result < 0) :
    ∃ after, rawSend cfg env flags host = some after ∧
      Confined cfg c host after ∧ Dropped c host after := by
  obtain ⟨after, ran, confined, _⟩ := rawSend_spec cfg env flags served
  refine ⟨after, ran, confined, ?_⟩
  have recorded : Confined cfg c host (host.record (.rawSend c flags)) :=
    Confined.record host c trivial rfl rfl (fun _ => rfl) (fun _ _ _ => rfl)
  have recordedKept : Kept c host (host.record (.rawSend c flags)) :=
    Kept.record host c rfl (fun _ => rfl)
  have exits := rawSendLoop_refused (2 * (host.data c).dataRb.sizeGet + 1)
    ((recorded.getCurrent_of_kept recordedKept).trans served) live left
    isHandler filled
    (by simp only [Host.data_record, RingBuffer.sizeGet]; omega) refuses
    (by simpa only [rawSend, served] using ran)
  rcases confined.outcome with kept | dropped
  · have same := recordedKept.exits
    have still := kept.exits
    omega
  · exact dropped

/-- When the ring of a length-delimited session is full and its handler refuses
the flush, the next byte leaves a remaining length of `2 ^ 32 - 1` in null
mode. -/
theorem dataLen_wraps (cfg : Config) (dataLen : UInt32)
    (long : cfg.datamodeBufSize < dataLen.toNat) :
    ∃ host, ReachableState cfg (sessionEnv dataLen refuseAll) host ∧
      (host.data 0).atMode = .nullMode ∧
      (host.data 0).dataLen = 4294967295 := by
  obtain ⟨full, reachable, running, drained, current, remaining, ring,
    counted, size, filled, data⟩ :=
    fill_ring cfg dataLen refuseAll cfg.datamodeBufSize (Nat.le_refl _) long
  obtain ⟨offered, offeredReachable, offeredRunning, waiting,
    offeredCurrent, _, offeredData, _⟩ := offer_byte reachable running drained 97
  obtain ⟨live, isPipe⟩ := reachable_rx offeredReachable _ _ offeredRunning
  let taken := takeByte 0 97 (setPipeRx 0 [] offered)
  have dataTaken : taken.data 0 = full.data 0 :=
    (takeByte_data 97 _ 0).trans (offeredData 0)
  have served : smAtHostGetCurrent cfg taken = some 0 :=
    smAtHostGetCurrent_of_current (offeredCurrent.trans current)
  have room := cfg.datamodeBufSize_range
  -- The byte does not fit, so the ring is flushed and the handler refuses.
  let stored := storeBytes 0 [97] (startWrite 0 [97] taken)
  obtain ⟨started, startedKept, same⟩ := startWrite_spec cfg 0 [97] taken
  have storedConfined : Confined cfg 0 taken stored :=
    started.trans (storeBytes_confined cfg 0 [97] _)
  have storedKept : Kept 0 taken stored :=
    startedKept.trans (storeBytes_kept 0 [97] _)
  have storedFilled : (stored.data 0).dataRb.content ≠ [] := by
    apply ne_nil_of_length_pos
    simp only [stored, storeBytes, Host.data_setData_self, RingBuffer.put_content, length_append]
    rw [same, dataTaken, data]
    change 0 < ring.content.length + _
    omega
  have refused : ∃ after, rawSend cfg (sessionEnv dataLen refuseAll) ⟨true, false⟩ stored =
        some after ∧
      Confined cfg 0 stored after ∧ Dropped 0 stored after :=
    rawSend_refused ⟨true, false⟩ ((storedConfined.getCurrent_of_kept storedKept).trans served)
      (storedConfined.frame.instanceList.symm ▸ (takeByte_frame 0 97 _).instanceList.symm ▸ live)
      (by rw [storedKept.atMode, dataTaken, data]; simp [openedData])
      (by rw [storedKept.handler, dataTaken, data]; rfl)
      storedFilled (fun _ _ _ => by simp [sessionEnv, refuseAll])
  obtain ⟨flushed, ran, _, dropped⟩ := refused
  obtain ⟨exitedRing, result, _, exited⟩ := dropped.data
  let written := storeBytes 0 ([97].drop (taken.data 0).dataRb.spaceGet) flushed
  have write : writeDataBuf cfg (sessionEnv dataLen refuseAll) [97] taken = some written := by
    rw [writeDataBuf_of_overflow cfg _ served (by rw [dataTaken, data]; change 1 ≤ ring.size; omega)
      (by rw [dataTaken, data]; change ring.size < ring.content.length + 1;
          omega), ran]
    rfl
  have writtenData : (written.data 0).atMode = .nullMode ∧ (written.data 0).dataLen = 0 := by
    simp [written, storeBytes, exited, DataState.exited]
  have counting : 0 < (taken.data 0).dataLen := by
    rw [dataTaken, data, UInt32.lt_iff_toNat_lt]
    change 0 < remaining.toNat
    omega
  have handled : rawRxHandler cfg (sessionEnv dataLen refuseAll) 0 97 taken =
      some (written.setData 0 { written.data 0 with dataLen := (written.data 0).dataLen - 1 }) := by
    have notZero : (written.data 0).dataLen - 1 ≠ 0 := by
      rw [writtenData.2]
      decide
    simp only [rawRxHandler, counting, if_true, write, notZero, if_false]
  obtain ⟨after, stepped, _, _, _, _, afterData⟩ := step_receiveByte_dataMode
    (reachable_wellFormed offeredReachable) isPipe offeredRunning waiting
    (by rw [offeredData, data]; rfl) handled
  refine ⟨after, offeredReachable.next _ trivial stepped, ?_, ?_⟩
  · rw [afterData, Host.data_setData_self]
    exact writtenData.1
  · rw [afterData, Host.data_setData_self, writtenData.2]
    rfl

/-- A failed flush clears `data_len`, which is then counted down. -/
theorem dataInvariant_violated :
    ¬ ∀ host, ReachableState plusConfig (sessionEnv 5000 refuseAll) host →
      DataInvariant (view 0 host) := by
  intro always
  obtain ⟨host, reachable, mode, length⟩ :=
    dataLen_wraps plusConfig 5000 (by decide)
  have zero := (always host reachable).outside (by simp [view, mode])
  change (host.data 0).dataLen = 0 at zero
  rw [length] at zero
  exact absurd zero (by decide)

end SerialModem.AtHost
