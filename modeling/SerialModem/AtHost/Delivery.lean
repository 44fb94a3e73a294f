import SerialModem.AtHost.Flush

/-!
# What a consuming handler receives

A handler that consumes, at the second attempt at the latest, some of what it
is given never loses its context, and it is handed the content of the ring in
order.  `session.consumed` collects what it took.
-/

namespace SerialModem.AtHost

open Library List

def ReturnedZero (history : History) : Prop :=
  match history.getLast? with
  | some (.handlerSend _ _ _ _ result) => result = 0
  | _ => False

/-- Every send of the handlers of `c` consumes at least one byte, or returns
zero once and then consumes; none drops out of data mode. -/
structure Consuming (env : Environment) (c : CtxId) : Prop where
  stays : ∀ history handler content flags,
    (env.handlerSend history c handler content flags).exitResult = none
  consumes : ∀ history handler content flags, content ≠ [] →
    0 < (env.handlerSend history c handler content flags).result ∨
      ((env.handlerSend history c handler content flags).result = 0 ∧ ¬ ReturnedZero history)

def consumedBytes (c : CtxId) (host : Host) : List Byte :=
  (session c host.history).consumed

def acceptedBytes (c : CtxId) (host : Host) : List Byte :=
  consumedBytes c host ++ (host.data c).dataRb.content

variable (cfg : Config) {env : Environment} {c : CtxId}

theorem callHandlerSend_of_stays
    (handler : HandlerId) (content : List Byte) (flags : Flags) (host : Host)
    (stays : (env.handlerSend host.history c handler content flags).exitResult = none) :
    ∃ called, Undisturbed cfg host called ∧ callHandlerSend cfg env c handler content flags host =
        ((env.handlerSend host.history c handler content flags).result,
          called.record (.handlerSend c handler content flags
            (env.handlerSend host.history c handler content flags).result)) := by
  let reply := env.handlerSend host.history c handler content flags
  have calls : Undisturbed cfg host (performCalls cfg reply.calls host) :=
    performCalls_undisturbed _ _
  have later : Undisturbed cfg (performCalls cfg reply.calls host)
      (performCalls cfg reply.callsAfterExit (performCalls cfg reply.calls host)) :=
    performCalls_undisturbed _ _
  refine ⟨_, calls.trans later, ?_⟩
  simp [callHandlerSend, reply, stays]

variable {host : Host}

theorem callHandlerSend_consuming (consuming : Consuming env c)
    (handler : HandlerId) (content : List Byte) (flags : Flags)
    (served : smAtHostGetCurrent cfg host = some c) :
    let outcome := callHandlerSend cfg env c handler content flags host
    Confined cfg c host outcome.2 ∧ Kept c host outcome.2 ∧
      (outcome.2.data c).dataRb = (host.data c).dataRb ∧
      consumedBytes c outcome.2 = consumedBytes c host ++ content.take outcome.1.toNat ∧
      (outcome.1 = 0 → ReturnedZero outcome.2.history) := by
  obtain ⟨confined, ring⟩ :=
    callHandlerSend_spec cfg env handler content flags served
  obtain ⟨called, undisturbed, unfolded⟩ := callHandlerSend_of_stays cfg handler content flags host
    (consuming.stays host.history handler content flags)
  rw [unfolded] at confined ring ⊢
  refine ⟨confined, ?_, ring, ?_, ?_⟩
  · refine (Kept.of_undisturbed c undisturbed).trans (Kept.record called c rfl ?_)
    intro record
    simp [Session.next]
  · rw [consumedBytes, Host.history_record, session_append_singleton, undisturbed.session c]
    simp [Session.next, consumedBytes]
  · intro zero
    simpa [ReturnedZero] using zero

theorem rawSendLoop_consuming (consuming : Consuming env c) (flags : Flags) :
    ∀ (fuel : Nat) (retry : Bool) (host after : Host), smAtHostGetCurrent cfg host = some c →
      (host.data c).handler.isSome →
      (retry = false → ReturnedZero host.history) →
      rawSendLoop cfg env c flags fuel retry host = some after →
      Kept c host after ∧ consumedBytes c after = acceptedBytes c host := by
  intro fuel
  induction fuel with
  | zero =>
    intro retry host after _ _ _ ran
    cases ran
  | succ fuel ih =>
    intro retry host after served hasHandler retried ran
    obtain ⟨handler, isHandler⟩ := Option.isSome_iff_exists.mp hasHandler
    have claimPrefix :=
      (host.data c).dataRb.getClaim_append_drop cfg.datamodeBufSize
    have claimLe :=
      (host.data c).dataRb.getClaim_length_le cfg.datamodeBufSize
    have claimNil :=
      (host.data c).dataRb.getClaim_eq_nil_iff (datamodeBufSize_pos cfg)
    simp only [rawSendLoop, isHandler] at ran
    generalize (host.data c).dataRb.getClaim cfg.datamodeBufSize = claim
      at claimPrefix claimLe claimNil ran
    by_cases claimed : claim = []
    · rw [if_pos claimed] at ran
      cases ran
      refine ⟨Kept.refl c host, ?_⟩
      rw [acceptedBytes, claimNil.mp claimed, append_nil]
    · rw [if_neg claimed] at ran
      generalize (if claim.length ≠ (host.data c).dataRb.sizeGet then
        { flags with moreData := true } else flags) = sendFlags at ran
      obtain ⟨sent, keptSend, sentRing, consumed, zeroLast⟩ :=
        callHandlerSend_consuming cfg consuming handler claim sendFlags served
      have answer : 0 < (callHandlerSend cfg env c handler claim sendFlags host).1 ∨
          ((callHandlerSend cfg env c handler claim sendFlags host).1 = 0 ∧
            ¬ ReturnedZero host.history) :=
        consuming.consumes host.history handler claim sendFlags claimed
      have resultLe : (callHandlerSend cfg env c handler claim sendFlags host).1 ≤ claim.length :=
        (env.handlerSend host.history c handler claim sendFlags).result_le
      generalize callHandlerSend cfg env c handler claim sendFlags host = outcome
        at ran sent keptSend sentRing consumed zeroLast answer resultLe
      -- The rest of the loop, once `count` bytes have been taken.
      have proceed : ∀ (count : Nat) (again : Bool), count ≤ claim.length →
          consumedBytes c outcome.2 = consumedBytes c host ++ claim.take count →
          (again = false → ReturnedZero outcome.2.history) →
          rawSendLoop cfg env c flags fuel again (finishClaim c count outcome.2) = some after →
          Kept c host after ∧ consumedBytes c after = acceptedBytes c host := by
        intro count again within taken lastZero continued
        have released := sent.trans (finishClaim_confined cfg c count _)
        have releasedKept : Kept c host (finishClaim c count outcome.2) :=
          keptSend.trans (Kept.setRing _ c (RingBuffer.getFinish_size _ count))
        have content : ((finishClaim c count outcome.2).data c).dataRb.content =
              (host.data c).dataRb.content.drop count := by
          rw [finishClaim_content (by rw [sentRing]; exact Nat.le_trans within claimLe), sentRing]
        obtain ⟨keptRest, total⟩ :=
          ih again (finishClaim c count outcome.2) after
            ((released.getCurrent_of_kept releasedKept).trans served)
            (releasedKept.handler.symm ▸ hasHandler) lastZero continued
        refine ⟨releasedKept.trans keptRest, ?_⟩
        calc
          consumedBytes c after = consumedBytes c outcome.2 ++
                (host.data c).dataRb.content.drop count := by
            rw [total, acceptedBytes, content]
            rfl
          _ = consumedBytes c host ++ (claim.take count ++
                (host.data c).dataRb.content.drop count) := by
            rw [taken, append_assoc]
          _ = acceptedBytes c host := by
            have same : claim.take count = (host.data c).dataRb.content.take count := by
              rw [← claimPrefix, take_append_of_le_length within]
            rw [same, take_append_drop]
            rfl
      have notFailed : ¬ (outcome.1 < 0 ∨ (outcome.1 = 0 ∧ retry = false)) := by
        rintro (negative | ⟨zero, noRetry⟩)
        · omega
        · rcases answer with positive | ⟨_, notZero⟩
          · omega
          · exact notZero (retried noRetry)
      rw [if_neg notFailed] at ran
      by_cases zero : outcome.1 = 0
      · rw [if_pos zero] at ran
        refine proceed 0 false (Nat.zero_le _) ?_ (fun _ => zeroLast zero) ran
        rw [consumed, zero]
        rfl
      · rw [if_neg zero] at ran
        exact proceed _ true (by omega) consumed (fun impossible => by cases impossible) ran

theorem rawSendLoop_of_noHandler (flags : Flags) :
    ∀ (fuel : Nat) (retry : Bool) (host after : Host), (host.data c).handler = none →
      rawSendLoop cfg env c flags fuel retry host = some after →
      Kept c host after := by
  intro fuel
  induction fuel with
  | zero =>
    intro retry host after _ ran
    cases ran
  | succ fuel ih =>
    intro retry host after noHandler ran
    simp only [rawSendLoop, noHandler] at ran
    split at ran
    · cases ran
      exact Kept.refl c host
    · have released : ∀ count, Kept c host (finishClaim c count host) :=
        fun count => Kept.setRing _ c (RingBuffer.getFinish_size _ count)
      exact (released _).trans (ih retry _ after ((released _).handler.trans noHandler) ran)

theorem rawSend_consuming (consuming : Consuming env c) (flags : Flags)
    (served : smAtHostGetCurrent cfg host = some c)
    (hasHandler : (host.data c).handler.isSome) :
    ∃ after, rawSend cfg env flags host = some after ∧
      Confined cfg c host after ∧ Kept c host after ∧
      (after.data c).dataRb.content = [] ∧
      consumedBytes c after = acceptedBytes c host := by
  obtain ⟨after, ran, confined, empty⟩ :=
    rawSend_spec cfg env flags served
  have recordedKept : Kept c host (host.record (.rawSend c flags)) :=
    Kept.record host c rfl (fun _ => rfl)
  have recorded : Confined cfg c host (host.record (.rawSend c flags)) :=
    Confined.record host c trivial rfl rfl (fun _ => rfl) (fun _ _ _ => rfl)
  obtain ⟨kept, consumed⟩ :=
    rawSendLoop_consuming cfg consuming flags (2 * (host.data c).dataRb.sizeGet + 2) true
      (host.record (.rawSend c flags)) after
      ((recorded.getCurrent_of_kept recordedKept).trans served) hasHandler
      (fun impossible => by cases impossible)
      (by simpa only [rawSend, served] using ran)
  refine ⟨after, ran, confined, recordedKept.trans kept, empty, ?_⟩
  rw [consumed, acceptedBytes, acceptedBytes, consumedBytes, consumedBytes,
    Host.history_record, session_append_singleton]
  rfl

theorem rawSend_kept (consuming : Consuming env c) {flags : Flags}
    {after : Host} (served : smAtHostGetCurrent cfg host = some c)
    (ran : rawSend cfg env flags host = some after) :
    Kept c host after := by
  cases isHandler : (host.data c).handler with
  | some handler =>
    obtain ⟨result, returned, _, kept, _⟩ :=
      rawSend_consuming cfg consuming flags served (by simp [isHandler])
    rw [ran] at returned
    cases returned
    exact kept
  | none =>
    have recorded : Kept c host (host.record (.rawSend c flags)) :=
      Kept.record host c rfl (fun _ => rfl)
    refine recorded.trans (rawSendLoop_of_noHandler cfg flags _ true _ after
      isHandler (by simpa only [rawSend, served] using ran))

theorem writeDataBuf_kept (consuming : Consuming env c) {content : List Byte}
    (served : smAtHostGetCurrent cfg host = some c) (nonempty : content ≠ [])
    (short : content.length ≤ (host.data c).dataRb.size) :
    ∃ after, writeDataBuf cfg env content host = some after ∧
      Confined cfg c host after ∧ Kept c host after := by
  obtain ⟨after, returned, confined⟩ :=
    writeDataBuf_spec cfg env served nonempty short
  obtain ⟨_, firstKept⟩ := firstWrite_spec cfg c content host
  refine ⟨after, returned, confined, ?_⟩
  rcases writeDataBuf_cases cfg env served nonempty short with
    ⟨_, ran⟩ | ⟨_, stillServed, flushed, flushing, ran⟩
  · rw [ran] at returned
    cases returned
    exact firstKept
  · rw [ran] at returned
    cases returned
    exact (firstKept.trans (rawSend_kept cfg consuming stillServed
      flushing)).trans (storeBytes_kept c _ flushed)

theorem firstWrite_accepted (content : List Byte) (host : Host) :
    acceptedBytes c (firstWrite c content host) =
      acceptedBytes c host ++ content.take (host.data c).dataRb.spaceGet := by
  have sameSession : session c (firstWrite c content host).history = session c host.history :=
    session_of_appends_neutral <|
      (firstWrite_quiet c content host).mono fun _ quiet => quiet.neutral c
  rw [acceptedBytes, consumedBytes, sameSession, firstWrite_content,
    acceptedBytes, consumedBytes, append_assoc]

theorem writeDataBuf_consuming (consuming : Consuming env c)
    {content : List Byte} (served : smAtHostGetCurrent cfg host = some c)
    (hasHandler : (host.data c).handler.isSome) (nonempty : content ≠ [])
    (short : content.length ≤ (host.data c).dataRb.size) :
    ∃ after, writeDataBuf cfg env content host = some after ∧
      Confined cfg c host after ∧ Kept c host after ∧
      acceptedBytes c after = acceptedBytes c host ++ content := by
  obtain ⟨after, returned, confined, kept⟩ :=
    writeDataBuf_kept cfg consuming served nonempty short
  refine ⟨after, returned, confined, kept, ?_⟩
  have first : acceptedBytes c (firstWrite c content host) = _ :=
    firstWrite_accepted content host
  rcases writeDataBuf_cases cfg env served nonempty short with
    ⟨fits, ran⟩ | ⟨_, stillServed, flushed, flushing, ran⟩
  · rw [ran] at returned
    cases returned
    rw [first, take_of_length_le]
    unfold RingBuffer.spaceGet
    omega
  · obtain ⟨firstConfined, firstKept⟩ := firstWrite_spec cfg c content host
    obtain ⟨result, flushReturned, flushConfined, _, empty, consumed⟩ :=
      rawSend_consuming cfg consuming ⟨true, false⟩ stillServed
        (firstKept.handler.symm ▸ hasHandler)
    rw [flushing] at flushReturned
    cases flushReturned
    rw [ran] at returned
    cases returned
    let rest := content.drop (host.data c).dataRb.spaceGet
    have room : (flushed.data c).dataRb.content.length + rest.length ≤
        (flushed.data c).dataRb.size := by
      rw [empty, flushConfined.size, firstConfined.size, length_drop, length_nil]
      omega
    calc
      acceptedBytes c (storeBytes c rest flushed) = consumedBytes c flushed ++
            ((flushed.data c).dataRb.put rest).content := by
        simp [acceptedBytes, consumedBytes, storeBytes]
      _ = consumedBytes c flushed ++ rest := by
        rw [RingBuffer.put_content_of_fits _ room, empty, nil_append]
      _ = acceptedBytes c host ++ content := by
        rw [consumed, first, append_assoc, take_append_drop]

end SerialModem.AtHost
