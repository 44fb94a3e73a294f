import SerialModem.AtHost.OpenSession
import SerialModem.AtHost.RawSession

/-!
# The calls of a data-mode handler

`write_data_buf` rewinds a ring that it finds empty, so what is collected from
an empty ring on stands at the start of its array.  One claim covers it, and a
handler that takes everything is called once for it.
-/

namespace SerialModem.AtHost

open Library Library.PatternMatching List Option

def handlerCalls (c : CtxId) (history : History) : List (List Byte × Flags) :=
  history.filterMap fun event =>
    match event with
    | .handlerSend d _ content flags _ =>
      if d = c then some (content, flags) else none
    | _ => none

def sending (content : List Byte) (flags : Flags) : List (List Byte × Flags) :=
  if content = [] then [] else [(content, flags)]

theorem sending_eq_nil_iff (content : List Byte) (flags : Flags) :
    sending content flags = [] ↔ content = [] := by
  unfold sending
  split <;> simp_all

section Histories

variable {c : CtxId}

theorem handlerCalls_append (first second : History) : handlerCalls c (first ++ second) =
      handlerCalls c first ++ handlerCalls c second :=
  filterMap_append

variable {before after : Host}

theorem handlerCalls_of_appends {property : Event → Prop}
    (silent : ∀ event, property event → handlerCalls c [event] = [])
    (appends : Appends property before after) :
    handlerCalls c after.history = handlerCalls c before.history := by
  obtain ⟨events, history, all⟩ := appends
  have none : handlerCalls c events = [] := by
    apply filterMap_eq_nil_iff.mpr
    intro event member
    have isSilent := silent event (all event member)
    unfold handlerCalls at isSilent
    exact filterMap_eq_nil_iff.mp isSilent event (mem_singleton_self event)
  rw [history, handlerCalls_append, none, append_nil]

theorem handlerCalls_of_quiet (quiet : Appends Quiet before after) :
    handlerCalls c after.history = handlerCalls c before.history := by
  refine handlerCalls_of_appends (fun event isQuiet => ?_) quiet
  cases event with
  | handlerSend => exact False.elim isQuiet
  | _ => rfl

theorem handlerCalls_of_routed {d : CtxId} (different : d ≠ c)
    (routed : Appends (Routed d) before after) :
    handlerCalls c after.history = handlerCalls c before.history := by
  refine handlerCalls_of_appends (fun event isRouted => ?_) routed
  cases event with
  | handlerSend e handler content flags result =>
    have same : e = d := isRouted
    simp [handlerCalls, same, different]
  | _ => rfl

end Histories

/-- The handlers of `c` take everything that they are given. -/
structure ConsumesAll (env : Environment) (c : CtxId) : Prop where
  stays : ∀ history handler content flags,
    (env.handlerSend history c handler content flags).exitResult = none
  all : ∀ history handler content flags,
    (env.handlerSend history c handler content flags).result = content.length

theorem ConsumesAll.consuming {env : Environment} {c : CtxId} (consumesAll : ConsumesAll env c) :
    Consuming env c where
  stays := consumesAll.stays
  consumes history handler content flags nonempty := by
    left
    have positive := length_pos_iff.mpr nonempty
    rw [consumesAll.all]
    omega

theorem consumeAll_consumesAll (dataLen : UInt32) (c : CtxId) :
    ConsumesAll (sessionEnv dataLen consumeAll) c :=
  ⟨fun _ _ _ _ => rfl, fun _ _ _ _ => rfl⟩

variable {cfg : Config} {env : Environment} {c : CtxId}

variable {host : Host}

theorem rawSend_once (consumesAll : ConsumesAll env c) (flags : Flags)
    (session : Attended cfg c host) (rewound : (host.data c).dataRb.Rewound)
    (nonempty : (host.data c).dataRb.content ≠ []) :
    ∃ after, rawSend cfg env flags host = some after ∧
      (after.data c).dataRb = (host.data c).dataRb.getFinish (host.data c).dataRb.content.length ∧
      handlerCalls c after.history = handlerCalls c host.history ++
        [((host.data c).dataRb.content, flags)] := by
  have whole : (host.data c).dataRb.getClaim cfg.datamodeBufSize = (host.data c).dataRb.content :=
    rewound.getClaim_eq_content (Nat.le_of_eq session.sized)
  obtain ⟨handler, isHandler⟩ := isSome_iff_exists.mp session.handler
  generalize content_eq : (host.data c).dataRb.content = content at *
  obtain ⟨called, undisturbed, sent⟩ := callHandlerSend_of_stays cfg
    handler content flags (host.record (.rawSend c flags))
    (consumesAll.stays _ _ _ _)
  rw [consumesAll.all] at sent
  let last :=
    called.record (.handlerSend c handler content flags content.length)
  let released := finishClaim c content.length last
  have lastData : last.data c = host.data c := undisturbed.data c
  have positive := length_pos_iff.mpr nonempty
  refine ⟨released, ?_, ?_, ?_⟩
  · have drained : (released.data c).dataRb.getClaim cfg.datamodeBufSize = [] := by
      apply ((released.data c).dataRb.getClaim_eq_nil_iff (datamodeBufSize_pos cfg)).mpr
      rw [finishClaim_content (by rw [lastData, content_eq]), lastData, content_eq, drop_length]
    have notFailed : ¬ ((content.length : Int) < 0 ∨
        ((content.length : Int) = 0 ∧ true = false)) := by
      simp
    have notZero : (content.length : Int) ≠ 0 := by omega
    -- One iteration sends the claim, the next one finds the ring empty.
    simp only [rawSend, session.getCurrent]
    rw [rawSendLoop]
    simp only [Host.data_record, whole, if_neg nonempty, isHandler,
      RingBuffer.sizeGet, content_eq, ne_eq, not_true_eq_false, if_false]
    rw [sent]
    dsimp only
    rw [if_neg notFailed, if_neg notZero, Int.toNat_natCast]
    change rawSendLoop cfg env c flags (2 * _ + 1) true released = _
    rw [rawSendLoop, drained]
    rfl
  · simp [released, finishClaim, lastData]
  · have silent : Appends Quiet host called :=
      (Appends.record host trivial).trans undisturbed.quiet
    change handlerCalls c (called.history ++ _) = _
    rw [handlerCalls_append, handlerCalls_of_quiet silent]
    simp [handlerCalls]

variable {after : Host}

theorem rawSend_calls (consumesAll : ConsumesAll env c) (flags : Flags)
    (session : Attended cfg c host) (rewound : (host.data c).dataRb.Rewound)
    (ran : rawSend cfg env flags host = some after) :
    (after.data c).dataRb.content = [] ∧
      handlerCalls c after.history = handlerCalls c host.history ++
        sending (host.data c).dataRb.content flags := by
  unfold sending
  by_cases empty : (host.data c).dataRb.content = []
  · rw [rawSend_of_empty cfg env flags session.getCurrent empty] at ran
    cases ran
    rw [if_pos empty, append_nil]
    exact ⟨empty, handlerCalls_of_quiet (Appends.record host trivial)⟩
  · obtain ⟨result, returned, ring, calls⟩ :=
      rawSend_once consumesAll flags session rewound empty
    rw [ran] at returned
    cases returned
    rw [if_neg empty, ring, RingBuffer.getFinish_content _ (Nat.le_refl _), drop_length]
    exact ⟨rfl, calls⟩

/-- The bytes have been stored at the start of the array, behind the content of
the ring unless the handler has been called for that. -/
structure Filled (c : CtxId) (added : List Byte) (before after : Host) :
    Prop where
  size : (after.data c).dataRb.size = (before.data c).dataRb.size
  rewound : (after.data c).dataRb.Rewound
  calls : ∃ calls, handlerCalls c after.history = handlerCalls c before.history ++ calls ∧
    ((before.data c).dataRb.content.length + added.length ≤
      (before.data c).dataRb.size → calls = []) ∧
    (calls = [] → (after.data c).dataRb.content = (before.data c).dataRb.content ++ added)

namespace Filled

theorem trans {firstAdded secondAdded : List Byte} {first second third : Host}
    (left : Filled c firstAdded first second)
    (right : Filled c secondAdded second third) :
    Filled c (firstAdded ++ secondAdded) first third := by
  obtain ⟨leftSize, _, leftCalls, leftHistory, leftFits, leftStored⟩ := left
  obtain ⟨rightSize, rewound, rightCalls, rightHistory, rightFits, rightStored⟩ := right
  refine ⟨rightSize.trans leftSize, rewound, leftCalls ++ rightCalls, ?_, ?_, ?_⟩
  · rw [rightHistory, leftHistory, append_assoc]
  · intro fits
    rw [length_append] at fits
    have noneLeft := leftFits (by omega)
    rw [noneLeft, rightFits, nil_append]
    rw [leftSize, leftStored noneLeft, length_append]
    omega
  · intro none
    obtain ⟨noneLeft, noneRight⟩ := append_eq_nil_iff.mp none
    rw [rightStored noneRight, leftStored noneLeft, append_assoc]

variable {host : Host}

theorem setData (rewound : (host.data c).dataRb.Rewound) {data : DataState}
    (ring : data.dataRb = (host.data c).dataRb) :
    Filled c [] host (host.setData c data) := by
  refine ⟨?_, ?_, [], (append_nil _).symm, fun _ => rfl, fun _ => ?_⟩
  · rw [Host.data_setData_self, ring]
  · rw [Host.data_setData_self, ring]
    exact rewound
  · rw [Host.data_setData_self, ring, append_nil]

theorem content_of_calls {added : List Byte} {after : Host} (filled : Filled c added host after)
    (same : handlerCalls c after.history = handlerCalls c host.history) :
    (after.data c).dataRb.content = (host.data c).dataRb.content ++ added := by
  obtain ⟨calls, history, _, stored⟩ := filled.calls
  apply stored
  rw [same] at history
  exact append_right_eq_self.mp history.symm

theorem calls_of_fits {added : List Byte} {after : Host} (filled : Filled c added host after)
    (fits : (host.data c).dataRb.content.length + added.length ≤ (host.data c).dataRb.size) :
    handlerCalls c after.history = handlerCalls c host.history := by
  obtain ⟨calls, history, none, _⟩ := filled.calls
  rw [history, none fits, append_nil]

end Filled

theorem startWrite_offset (content : List Byte) (rewound : (host.data c).dataRb.Rewound) :
    ((startWrite c content host).data c).dataRb.offset = 0 := by
  unfold startWrite
  dsimp only
  split
  · rw [Host.data_setData_self, RingBuffer.reset_offset]
  · rename_i nonempty
    rcases rewound with empty | start
    · exact absurd ((RingBuffer.isEmpty_iff _).mpr empty) nonempty
    · exact start

theorem writeDataBuf_filled (consumesAll : ConsumesAll env c)
    {content : List Byte} (session : Attended cfg c host)
    (rewound : (host.data c).dataRb.Rewound) (nonempty : content ≠ [])
    (short : content.length ≤ (host.data c).dataRb.size)
    (returned : writeDataBuf cfg env content host = some after) :
    Filled c content host after := by
  obtain ⟨confined, kept⟩ := firstWrite_spec cfg c content host
  have content_eq := firstWrite_content c content host
  have sameCalls : handlerCalls c (firstWrite c content host).history =
      handlerCalls c host.history :=
    handlerCalls_of_quiet (firstWrite_quiet c content host)
  have offset : ((firstWrite c content host).data c).dataRb.offset = 0 := by
    rw [firstWrite, storeBytes, Host.data_setData_self]
    exact startWrite_offset content rewound
  rcases writeDataBuf_cases cfg env session.getCurrent nonempty short with
    ⟨fits, ran⟩ | ⟨overflow, _, flushed, flushing, ran⟩
  · rw [ran] at returned
    cases returned
    refine ⟨confined.size, .inr offset, [],
      by rw [sameCalls, append_nil], fun _ => rfl, fun _ => ?_⟩
    rw [content_eq, take_of_length_le]
    unfold RingBuffer.spaceGet
    omega
  · -- The ring is full when it is flushed, so its start is free again.
    rw [ran] at returned
    cases returned
    generalize firstWrite c content host = first at *
    have within := (host.data c).dataRb.content_le
    have full : (first.data c).dataRb.content.length = (first.data c).dataRb.size := by
      rw [confined.size, content_eq, length_append, length_take, RingBuffer.spaceGet]
      omega
    have range := cfg.datamodeBufSize_range
    have held : (first.data c).dataRb.content ≠ [] := by
      apply ne_nil_of_length_pos
      rw [full, confined.size, session.sized]
      omega
    obtain ⟨result, sent, ring, calls⟩ := rawSend_once consumesAll
      ⟨true, false⟩ (session.of_kept confined kept) (.inr offset) held
    rw [flushing] at sent
    cases sent
    have free : (flushed.data c).dataRb.offset = 0 := by
      rw [ring, RingBuffer.getFinish_offset _ (Nat.le_refl _), offset, full,
        Nat.zero_add, Nat.mod_self]
    refine ⟨?_, ?_, [((first.data c).dataRb.content, ⟨true, false⟩)], ?_, ?_, ?_⟩
    · rw [(storeBytes_confined cfg c _ flushed).size, ring,
        RingBuffer.getFinish_size, confined.size]
    · right
      rw [storeBytes, Host.data_setData_self]
      exact free
    · rw [← sameCalls, ← calls]
      rfl
    · intro fits
      omega
    · intro none
      cases none

theorem exitDatamode_quiet (host : Host) : Appends Quiet host (exitDatamode cfg env c host) := by
  by_cases leaves : c ∈ host.instanceList ∧ (host.data c).atMode ≠ .atCommandMode
  · exact (exitDatamode_spec cfg env leaves.1 leaves.2).1.quiet
  · rw [exitDatamode_refused cfg env leaves]
    exact Appends.refl host

theorem rawSend_exit_calls (consumesAll : ConsumesAll env c)
    (session : Attended cfg c host) (rewound : (host.data c).dataRb.Rewound)
    (ran : (rawSend cfg env Flags.none host).map (exitDatamode cfg env c) = some after) :
    handlerCalls c after.history = handlerCalls c host.history ++
      sending (host.data c).dataRb.content Flags.none := by
  obtain ⟨sent, flushed, rfl⟩ := map_eq_some_iff.mp ran
  rw [handlerCalls_of_quiet (exitDatamode_quiet sent)]
  exact (rawSend_calls consumesAll Flags.none session rewound flushed).2

def Collected (cfg : Config) (c : CtxId) (count : UInt8)
    (spilled : List Byte) (host after : Host) : Prop :=
  if count.toNat = cfg.terminator.length then
    handlerCalls c after.history = handlerCalls c host.history ++
      sending (host.data c).dataRb.content Flags.none
  else
    Filled c spilled host after

theorem advanceQuitStr_collected (consumesAll : ConsumesAll env c)
    (session : Attended cfg c host) (rewound : (host.data c).dataRb.Rewound)
    (ran : advanceQuitStr cfg env c host = some after) :
    Collected cfg c ((host.data c).quitStrMatch + 1) [] host after := by
  unfold Collected
  split
  · rename_i complete
    unfold advanceQuitStr at ran
    dsimp only at ran
    rw [if_pos complete] at ran
    obtain ⟨sent, flushed, rfl⟩ := map_eq_some_iff.mp ran
    have counted := session.setQuitStrMatch ((host.data c).quitStrMatch + 1)
    have calls := rawSend_exit_calls consumesAll counted (by simpa [setQuitStrMatch] using rewound)
      (by rw [flushed, map_some])
    simpa [setQuitStrMatch] using calls
  · rename_i incomplete
    rw [advanceQuitStr_of_incomplete incomplete] at ran
    cases ran
    exact Filled.setData rewound rfl

variable {byte : Byte}

theorem rawRxUnmatched_collected (consumesAll : ConsumesAll env c)
    (session : Attended cfg c host) (rewound : (host.data c).dataRb.Rewound)
    (unmatched : (host.data c).quitStrMatch = 0)
    (ran : rawRxUnmatched cfg env c byte host = some after) :
    Collected cfg c (UInt8.ofNat (restartFallback cfg.terminator byte))
      (if cfg.terminator[0]? = some byte then [] else [byte]) host after := by
  unfold rawRxUnmatched at ran
  unfold restartFallback
  by_cases starts : cfg.terminator[0]? = some byte
  · rw [if_pos starts] at ran
    have collected := advanceQuitStr_collected consumesAll session rewound ran
    rw [unmatched] at collected
    simp only [if_pos starts]
    exact collected
  · rw [if_neg starts] at ran
    have pattern := length_pos_iff.mpr cfg.terminator_ne
    simp only [if_neg starts]
    rw [Collected, if_neg (by simpa using Nat.ne_of_lt pattern)]
    exact writeDataBuf_filled consumesAll session rewound (by simp) (session.byte_fits byte) ran

theorem rawRxHandler_collected (consumesAll : ConsumesAll env c)
    (session : InSession cfg c host) (rewound : (host.data c).dataRb.Rewound)
    (unlimited : (host.data c).dataLen = 0)
    (ran : rawRxHandler cfg env c byte host = some after) :
    Collected cfg c (nextCount cfg (restartFallback cfg.terminator) (host.data c).quitStrMatch byte)
      (spilled cfg (host.data c).quitStrMatch byte) host after := by
  unfold nextCount spilled
  by_cases continues : cfg.terminator[(host.data c).quitStrMatch.toNat]? = some byte
  · rw [rawRxHandler_of_continues unlimited continues] at ran
    simp only [if_pos continues]
    exact advanceQuitStr_collected consumesAll session.toAttended rewound ran
  · simp only [if_neg continues]
    by_cases pending : 0 < (host.data c).quitStrMatch
    · rw [rawRxHandler_of_refused unlimited continues pending] at ran
      obtain ⟨written, write, restart⟩ := bind_eq_some_iff.mp ran
      have filled := writeDataBuf_filled consumesAll session.toAttended
        rewound (partialMatch_nonempty host pending)
        session.partialMatch_fits write
      obtain ⟨result, returned, progress⟩ := writeDataBuf_progress
        consumesAll.consuming session.toAttended
        (partialMatch_nonempty host pending) session.partialMatch_fits
      rw [write] at returned
      cases returned
      have attended := progress.attended session.toAttended
      have restarted : Filled c _ host (setQuitStrMatch c 0 written) :=
        filled.trans (Filled.setData filled.rewound rfl)
      have collected := rawRxUnmatched_collected consumesAll
        (attended.setQuitStrMatch 0) restarted.rewound
        (by simp [setQuitStrMatch]) restart
      -- A partial match means that one byte does not complete it.
      have incomplete : (UInt8.ofNat (restartFallback cfg.terminator byte)).toNat ≠
            cfg.terminator.length := by
        have positive : 0 < (host.data c).quitStrMatch.toNat := pending
        have matched := session.matched
        have small := restartFallback_le_one cfg.terminator byte
        rw [UInt8.toNat_ofNat']
        omega
      rw [Collected, if_neg incomplete] at collected ⊢
      rw [append_nil] at restarted
      exact restarted.trans collected
    · have unmatched := count_eq_zero pending
      rw [rawRxHandler_of_unmatched unlimited unmatched] at ran
      have collected := rawRxUnmatched_collected consumesAll
        session.toAttended rewound unmatched ran
      simpa [unmatched] using collected

theorem rawRxHandler_limited_collected (consumesAll : ConsumesAll env c)
    (session : Attended cfg c host) (rewound : (host.data c).dataRb.Rewound)
    (limited : 0 < (host.data c).dataLen)
    (ran : rawRxHandler cfg env c byte host = some after) :
    if (host.data c).dataLen - 1 = 0 then
      (host.data c).dataRb.content.length + 1 ≤ (host.data c).dataRb.size →
        handlerCalls c after.history = handlerCalls c host.history ++
          sending ((host.data c).dataRb.content ++ [byte]) Flags.none
    else
      Filled c [byte] host after := by
  obtain ⟨written, write, progress⟩ := writeDataBuf_progress
    consumesAll.consuming session (by simp) (session.byte_fits byte)
  have filled := writeDataBuf_filled consumesAll session rewound (by simp)
    (session.byte_fits byte) write
  let counted := written.setData c { written.data c with dataLen := (host.data c).dataLen - 1 }
  have counting : Filled c ([byte] ++ []) host counted :=
    filled.trans (Filled.setData filled.rewound rfl)
  rw [append_nil] at counting
  have unfolded : rawRxHandler cfg env c byte host =
      if (host.data c).dataLen - 1 = 0 then
        (rawSend cfg env Flags.none counted).map (exitDatamode cfg env c)
      else
        some counted := by
    unfold rawRxHandler
    rw [if_pos limited, write]
    simp only [progress.counters.2.1, counted]
  rw [unfolded] at ran
  split
  · rename_i last
    rw [if_pos last] at ran
    intro fits
    have attended : Attended cfg c counted :=
      (Progress.setCounters (progress.attended session) (written.data c).quitStrMatch _).attended
        (progress.attended session)
    have same := counting.calls_of_fits fits
    rw [rawSend_exit_calls consumesAll attended counting.rewound ran,
      same, counting.content_of_calls same]
  · rename_i more
    rw [if_neg more] at ran
    exact Option.some.inj ran ▸ counting

theorem rawSendScheduled_calls (consumesAll : ConsumesAll env c)
    (session : Attended cfg c (host.setCurrentCtx (some c)))
    (rewound : (host.data c).dataRb.Rewound)
    (ran : rawSendScheduled cfg env c host = some after) :
    ∃ ready, Filled c (cfg.terminator.take (host.data c).quitStrMatch.toNat)
        (host.setCurrentCtx (some c)) ready ∧
      (after.data c).dataRb.content = [] ∧
      handlerCalls c after.history = handlerCalls c ready.history ++
        sending (ready.data c).dataRb.content Flags.none := by
  change ((host.setCurrentCtx (some c)).data c).dataRb.Rewound at rewound
  change ∃ ready, Filled c (cfg.terminator.take
    ((host.setCurrentCtx (some c)).data c).quitStrMatch.toNat)
    (host.setCurrentCtx (some c)) ready ∧ (after.data c).dataRb.content = [] ∧
      handlerCalls c after.history = handlerCalls c ready.history ++
        sending (ready.data c).dataRb.content Flags.none
  unfold rawSendScheduled at ran
  dsimp only at ran
  generalize host.setCurrentCtx (some c) = served at session rewound ran ⊢
  by_cases pending : 0 < (served.data c).quitStrMatch
  · rw [if_pos pending] at ran
    obtain ⟨written, write, progress⟩ := writeDataBuf_progress
      consumesAll.consuming session (partialMatch_nonempty served pending)
      session.partialMatch_fits
    have filled := writeDataBuf_filled consumesAll session rewound
      (partialMatch_nonempty served pending) session.partialMatch_fits write
    have restarted : Filled c _ served (setQuitStrMatch c 0 written) :=
      filled.trans (Filled.setData filled.rewound rfl)
    rw [append_nil] at restarted
    have attended := (progress.attended session).setQuitStrMatch 0
    rw [write, map_some] at ran
    obtain ⟨sent, flushed, rfl⟩ := map_eq_some_iff.mp ran
    have calls := rawSend_calls consumesAll Flags.none attended restarted.rewound flushed
    exact ⟨_, restarted, calls⟩
  · rw [if_neg pending] at ran
    obtain ⟨sent, flushed, rfl⟩ := map_eq_some_iff.mp ran
    have calls := rawSend_calls consumesAll Flags.none session rewound flushed
    refine ⟨served, ?_, calls⟩
    have same := Filled.setData rewound (rfl : (served.data c).dataRb = _)
    rw [Host.setData_data] at same
    rw [count_eq_zero pending, UInt8.toNat_zero, take_zero]
    exact same

end SerialModem.AtHost
