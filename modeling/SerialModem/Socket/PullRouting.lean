import SerialModem.AtHost.Replies
import SerialModem.AtHost.UrcPlacement
import SerialModem.Socket.Exchange
import SerialModem.Socket.HexOutput

/-!
# Where a pull goes

`AT#XHTTPCDATA` announces a piece of the body on the channel that pulls and
sends it on the channel of the request.
-/

namespace SerialModem.Socket

open Library Library.Program List
open AtHost

variable {cfg : Config} {env : Environment} {modem : Modem}

/-- The program returns; meanwhile it makes these calls of the AT host and notes
these events. -/
def Outputs (cfg : Config) {Value : Type} (calls : List HostCall) (events : SocketLog)
    (program : SocketM Value) : Prop :=
  ∀ world, Returns world program fun _ after =>
    after.host = performCalls cfg calls world.host ∧ after.log = world.log ++ events

namespace Outputs

variable {Value Result : Type} {calls : List HostCall} {events : SocketLog}
  {program : SocketM Value}

theorem hostCall (call : HostCall) : Outputs cfg [call] [] (hostCall cfg call) := by
  intro world
  rw [Socket.hostCall, returns_modify]
  exact ⟨rfl, (append_nil _).symm⟩

variable (cfg) in
theorem modifyRequest (r : Slot) (change : HttpRequest → HttpRequest) :
    Outputs cfg [] [] (modifyRequest r change) := by
  intro world
  unfold Socket.modifyRequest
  rw [returns_modify]
  exact ⟨rfl, (append_nil _).symm⟩

variable (cfg) in
theorem emit (event : SocketEvent) : Outputs cfg [] [event] (emit event) := by
  intro world
  rw [Socket.emit, returns_modify]
  exact ⟨rfl, rfl⟩

theorem bind {more : List HostCall} {later : SocketLog} {next : Value → SocketM Result}
    (first : Outputs cfg calls events program)
    (second : ∀ value, Outputs cfg more later (next value)) :
    Outputs cfg (calls ++ more) (events ++ later) (program >>= next) := by
  intro world
  refine (first world).call ?_
  rintro value middle ⟨isMiddle, logged⟩
  refine (second value middle).mono ?_
  rintro _ after ⟨isAfter, loggedAfter⟩
  rw [isAfter, isMiddle, loggedAfter, logged, append_assoc, performCalls, performCalls,
    performCalls, foldl_append]
  exact ⟨rfl, rfl⟩

theorem sendsPieces (pipe : Option PipeId) (pieces : List (List Byte)) :
    Outputs cfg (sendsPieces pipe pieces) [] (pieces.forM (dataSendToPipe cfg pipe)) := by
  induction pieces with
  | nil => exact fun world => (returns_pure _ _).mpr ⟨rfl, (append_nil _).symm⟩
  | cons piece rest ih => exact (hostCall (.dataSend pipe piece)).bind fun _ => ih

theorem ends (outputs : Outputs cfg calls events program) (world : World) :
    Ends world program fun _ after => after.host = performCalls cfg calls world.host :=
  (outputs world).ends.mono fun _ _ found => found.1

end Outputs

def HttpRequest.payloadPieces (req : HttpRequest) (content : List Byte) : List (List Byte) :=
  if req.hexRx then hexChunks content else [content]

variable {content : List Byte}

theorem HttpRequest.payloadPieces_ne_nil (req : HttpRequest) (nonempty : content ≠ []) :
    req.payloadPieces content ≠ [] := by
  rw [payloadPieces]
  split
  · rw [hexChunks_of_ne_nil nonempty]
    exact cons_ne_nil _ _
  · exact cons_ne_nil _ _

theorem httpSendPayload_outputs (req : HttpRequest) (content : List Byte) :
    Outputs cfg (sendsPieces req.pipe (req.payloadPieces content)) []
      (httpSendPayload cfg req content) := by
  rw [httpSendPayload, HttpRequest.payloadPieces]
  split
  · rw [dataSendHex_chunks]
    exact Outputs.sendsPieces _ _
  · exact Outputs.hostCall _

def HttpRequest.pullCalls (req : HttpRequest) (content : List Byte) : List HostCall :=
  repliesWith (.text (httpDataHeader req content.length)) req.pipe (req.payloadPieces content)

section

variable {world : World} {r : Slot} {req : HttpRequest}

theorem getRequest_returns (isRequest : world.httpRequests r = some req) :
    Returns world (getRequest r) fun found after =>
      found = req ∧ after = world := by
  unfold getRequest
  rw [returns_bind, returns_get, isRequest, returns_pure]
  exact ⟨rfl, rfl⟩

theorem getRequest_ends (isRequest : world.httpRequests r = some req) :
    Ends world (getRequest r) fun found after =>
      found = req ∧ after = world := by
  unfold getRequest
  rw [ends_bind, ends_get, isRequest, ends_pure]
  exact ⟨rfl, rfl⟩

theorem modifyRequest_ends (change : HttpRequest → HttpRequest)
    (isRequest : world.httpRequests r = some req) :
    Ends world (modifyRequest r change) fun _ after =>
      after.host = world.host ∧ after.httpRequests r = some (change req) := by
  unfold modifyRequest
  rw [ends_modify, isRequest]
  exact ⟨rfl, Function.update_self _ _ _⟩

/-- A piece that is pulled: the header with offset and length, then the bytes. -/
theorem pullForward_returns (content : List Byte) (isRequest : world.httpRequests r = some req) :
    Returns world (pullForward cfg r content) fun _ after =>
      after.host = performCalls cfg (req.pullCalls content) world.host ∧
        after.log = world.log ++ [.httpDelivered r req.bytesSent content] := by
  refine (getRequest_returns isRequest).call ?_
  rintro _ _ ⟨rfl, rfl⟩
  exact ((Outputs.hostCall _).bind fun _ =>
    (Outputs.modifyRequest cfg _ _).bind fun _ =>
      (Outputs.emit cfg _).bind fun _ =>
        httpSendPayload_outputs _ content) _

end

theorem urcSendTo_history (pipe : Option PipeId) (content : List Byte)
    (host : Host) : (urcSendTo cfg pipe content host).history = host.history := by
  rw [urcSendTo]
  split
  · exact urcSend_history content host
  · exact notifyUrc_history _ _

def KeepsHistory {Value : Type} (program : SocketM Value) : Prop :=
  ∀ world, Ends world program fun _ after =>
    after.host.history = world.host.history

theorem getRequest_history (r : Slot) : KeepsHistory (getRequest r) := by
  intro world
  unfold getRequest
  rw [ends_bind, ends_get]
  split
  · exact ends_failure _
  · exact (ends_pure _ _).mpr rfl

theorem httpCloseRequest_history (r : Slot) : KeepsHistory (httpCloseRequest r) := by
  intro world
  have frees : ∀ middle : World, middle.host.history = world.host.history →
      Ends middle (modify fun world : World =>
        { world.setRequest r none with
          datamodeReq :=
            if world.datamodeReq = some r then none else world.datamodeReq
        }) fun _ after => after.host.history = world.host.history := by
    intro middle same
    rw [ends_modify]
    exact same
  unfold httpCloseRequest
  refine (getRequest_history r world).call ?_
  intro req middle same
  rw [ends_bind, ends_get]
  split
  · split
    · rename_i slot _
      have stopped : Ends middle (xapollStop .httpClient slot)
          fun _ after => after.host.history = world.host.history := by
        rw [xapollStop, selectEvents, ends_modify]
        exact same
      exact stopped.call fun _ => frees
    · exact frees middle same
  · exact frees middle same

theorem httpFinishRequest_history (r : Slot) : KeepsHistory (httpFinishRequest cfg r) := by
  intro world
  unfold httpFinishRequest
  refine (getRequest_history r world).call ?_
  intro req middle same
  unfold httpSendStat urcSendToPipe
  refine Ends.call (((Outputs.hostCall _).bind fun _ => Outputs.emit cfg _).ends middle) ?_
  intro _ told isTold
  refine (httpCloseRequest_history r told).mono ?_
  intro _ after sameAfter
  rw [sameAfter, isTold]
  exact (urcSendTo_history _ _ _).trans same

theorem pullCheckComplete_history (r : Slot) (last : List Byte) (world : World) :
    Ends world (pullCheckComplete cfg r last) fun ret after =>
      ret = 0 ∧ after.host.history = world.host.history := by
  refine (getRequest_history r world).call ?_
  intro req middle same
  split
  · refine (httpFinishRequest_history r middle).call ?_
    intro _ after sameAfter
    exact (ends_pure _ _).mpr ⟨rfl, sameAfter.trans same⟩
  · exact (ends_pure _ _).mpr ⟨rfl, same⟩

/-- How much `AT#XHTTPCDATA` asks for. -/
def pulledLength (parser : AtParser) : Nat :=
  match parser.num 2 with
  | .failed _ => httpRecvBufSize - 1
  | .done length =>
    if 3 ≤ parser.count ∧ 0 < length then
      min length.toNat (httpRecvBufSize - 1)
    else
      httpRecvBufSize - 1

/-- `AT#XHTTPCDATA` finds bytes of the body of a request. -/
structure HttpPulls (modem : Modem) (parser : AtParser) (world : World)
    (req : HttpRequest) (content : List Byte) : Prop where
  count : 2 ≤ parser.count
  found : ∃ fd r, parser.num 1 = .done fd ∧ findRequest fd world = some r ∧
    world.httpRequests r = some req
  manually : req.manualMode = true
  complete : req.headersComplete = true
  nonempty : content ≠ []
  content : (req.recvBuf ≠ [] ∧ content = req.recvBuf.take (pulledLength parser)) ∨
    (req.recvBuf = [] ∧ modem.answer world.log req.fd (pulledLength parser) = .done content)

theorem zsockRecv_answers (fd : Int) (length : Nat) (world : World) :
    Ends world (zsockRecv modem fd length msgDontwait)
      fun result after => result = modem.answer world.log fd length ∧ after.host = world.host ∧
        after.httpRequests = world.httpRequests := by
  unfold zsockRecv
  rw [ends_bind, ends_get]
  dsimp only
  rw [emit, ends_bind, ends_modify, ends_pure]
  exact ⟨rfl, rfl, rfl⟩

variable {parser : AtParser} {world : World} {req : HttpRequest}

variable (cfg) in
theorem handleAtHttpcdata_history (pulls : HttpPulls modem parser world req content) :
    Ends world (handleAtHttpcdata cfg modem parser) fun ret after =>
      ret = 0 ∧ after.host.history =
        (performCalls cfg (req.pullCalls content) world.host).history := by
  obtain ⟨count, ⟨fd, r, isFd, isFound, isRequest⟩, manually, complete,
    nonempty, isContent⟩ := pulls
  rw [handleAtHttpcdata, if_neg (Nat.not_lt_of_le count), isFd]
  change Ends world (pullData cfg modem fd (pulledLength parser)) _
  unfold pullData
  rw [ends_bind, ends_get, isFound]
  dsimp only
  refine (getRequest_ends isRequest).call ?_
  rintro _ _ ⟨rfl, rfl⟩
  rename_i req world
  rw [if_neg (by rw [manually]; exact Bool.noConfusion),
    if_neg (by rw [complete]; exact Bool.noConfusion)]
  rcases isContent with ⟨filled, rfl⟩ | ⟨empty, answered⟩
  · rw [if_pos filled]
    refine (pullForward_returns _ isRequest).ends.call ?_
    rintro _ sent ⟨isSent, -⟩
    refine ((Outputs.modifyRequest cfg _ _).ends sent).call ?_
    intro _ drained isDrained
    refine (pullCheckComplete_history r _ drained).mono ?_
    rintro ret after ⟨isRet, sameAfter⟩
    refine ⟨isRet, ?_⟩
    rw [sameAfter, isDrained, performCalls, foldl_nil, isSent]
  · rw [if_neg (not_not.mpr empty)]
    refine (zsockRecv_answers req.fd _ world).call ?_
    rintro _ read ⟨rfl, sameHost, sameRequests⟩
    rw [answered]
    dsimp only
    rw [if_neg nonempty]
    rw [← sameRequests] at isRequest
    refine (modifyRequest_ends _ isRequest).call ?_
    rintro _ counted ⟨isCounted, isRequest⟩
    rw [emit, ends_bind, ends_modify]
    refine (pullForward_returns content (by exact isRequest)).ends.call ?_
    rintro _ sent ⟨isSent, -⟩
    refine (pullCheckComplete_history r content sent).mono ?_
    rintro ret after ⟨isRet, sameAfter⟩
    refine ⟨isRet, ?_⟩
    have sameStart : (counted.record (.httpReceived r content)).host =
        world.host := isCounted.trans sameHost
    rw [sameAfter, isSent, sameStart]
    rfl

theorem HttpPulls.setHost (pulls : HttpPulls modem parser world req content) (host : Host) :
    HttpPulls modem parser (world.setHost host) req content :=
  ⟨pulls.count, pulls.found, pulls.manually, pulls.complete, pulls.nonempty, pulls.content⟩

theorem runCommand_history (pulls : HttpPulls modem parser world req content) :
    Ends world (runCommand cfg env modem .xhttpcdata parser)
      fun _ after => ∃ c text, after.host.history = (performCalls cfg (req.pullCalls content)
          (addExecutingLock c 1 world.host)).history ++ [.finalResult c text, .unlocked c] := by
  unfold runCommand modifyHost
  rw [ends_bind, ends_get]
  split
  · exact ends_failure _
  · rename_i c isCommandCtx
    rw [ends_bind, ends_modify]
    refine (handleAtHttpcdata_history cfg (pulls.setHost (addExecutingLock c 1 world.host))).call ?_
    rintro _ pulled ⟨rfl, isPulled⟩
    rw [if_pos rfl, ends_bind, ends_modify, ends_modify]
    refine ⟨c, formatFinalResult (crlfStr ++ ascii "OK\r\n") cfg.responseBufSize, ?_⟩
    have released (host : Host) (event : Event) :
        (addExecutingLock c (-1) (host.record event)).history =
          host.history ++ [event, .unlocked c] := by
      simp [addExecutingLock, Host.record, Host.setCtx]
    exact (released _ _).trans (congrArg (· ++ _) isPulled)

theorem httpPull_together_iff {after : World} (pulls : HttpPulls modem parser world req content)
    (ran : worldStep cfg env modem (.command .xhttpcdata parser) world = some after) :
    SentTogether (Response.text (httpDataHeader req content.length)).truncated
        (req.payloadPieces content)
        (after.host.history.drop world.host.history.length) ↔
      ∃ c, smAtHostGetCurrent cfg world.host = some c ∧
        smAtHostGetCtxFrom req.pipe world.host = some c := by
  obtain ⟨⟨_, final⟩, isFinal, rfl⟩ := Option.map_eq_some_iff.mp ran
  obtain ⟨c, text, history⟩ := runCommand_history pulls _ _ isFinal
  have locks : Undisturbed cfg world.host (addExecutingLock c 1 world.host) :=
    addExecutingLock_undisturbed c 1 world.host
  rw [← locks.getCurrent, ← locks.getCtxFrom]
  obtain ⟨sent, isSent, _⟩ := repliesWith_sends cfg
    (.text (httpDataHeader req content.length)) req.pipe
    (addExecutingLock c 1 world.host)
    (req.payloadPieces_ne_nil pulls.nonempty)
  have locked : (addExecutingLock c 1 world.host).history = world.host.history ++ [.locked c] := rfl
  have appended : final.host.history.drop world.host.history.length =
      [.locked c] ++ sent ++ [.finalResult c text, .unlocked c] := by
    rw [history, HttpRequest.pullCalls, isSent, locked]
    simp only [append_assoc]
    exact drop_left
  rw [appended]
  apply repliesWith_together_iff (req.payloadPieces_ne_nil pulls.nonempty)
    _ _ isSent
  · exact forall_mem_singleton.mpr rfl
  · intro event member
    rcases mem_cons.mp member with rfl | member
    · rfl
    · rw [mem_singleton.mp member]
      rfl

end SerialModem.Socket
