import SerialModem.Coap.System
import SerialModem.Socket.Affinity
import SerialModem.Socket.BodyAccounting

/-!
# Where pulled data goes

`AT#XCOAPCDATA` is as `AT#XHTTPCDATA`: the header goes to the channel that
pulls and the payload to the channel of the request.
-/

namespace SerialModem.Coap

open Library List
open AtHost
open Socket (World HttpRequest HttpPulls httpDataHeader
  httpPull_together_iff hexChunks hexChunks_of_ne_nil sendHexFrom_eq decimal
  report AtParser Modem WorldAction worldStep WorldReachable findRequest
  responseModem httpcreqParser openSecondChannel lineActions eventActions
  numbers zsockPollin zsockPollout bootedWorld exists_world_run)

variable {cfg : Config} {env : Environment} {modem : Modem} {blockSize : Nat}

def coapDataHeader (handle : Int) (offset length : Nat) : List Byte :=
  report "#XCOAPCDATA" [decimal handle, decimal offset, decimal length]

/-- What a pull sends to the host. -/
def CoapEvent.pullCalls (handle : Int) (pipe : Option PipeId) : CoapEvent → List HostCall
  | .pulled _ offset length _ written =>
    repliesWith (.text (coapDataHeader handle offset length)) pipe written
  | .pulledNothing _ offset =>
    [.rspSend (.text (coapDataHeader handle offset 0))]
  | _ => []

/-- `AT#XCOAPCDATA` is about to find bytes of a response. -/
structure CoapPulls (blockSize : Nat) (handle : Int) (length : Option Int)
    (world : CoapWorld) (req : CoapRequest) (content : List Byte) : Prop where
  next : ∃ rest, world.work = .pullData handle length :: rest
  found : ∃ id, world.pendingReq = some id ∧ world.heap id = some req
  handle : req.fd = handle
  manually : req.manualRx = true
  nonempty : content ≠ []
  content : content = bytesOf req.rxBuf (min (pullLen blockSize length) req.rxBufFilled)

variable {content : List Byte}

theorem coapDataWritten_ne_nil (hexRx : Bool) (nonempty : content ≠ []) :
    coapDataWritten hexRx content ≠ [] := by
  rw [coapDataWritten]
  split
  · have sent : Socket.coapDataSendHexRun (content.length + 1) content = some (hexChunks content) :=
      sendHexFrom_eq content (Nat.lt_succ_self _)
    rw [sent, Option.getD_some, hexChunks_of_ne_nil nonempty]
    exact cons_ne_nil _ _
  · exact cons_ne_nil _ _

variable {world after : CoapWorld}

theorem CoapPulls.recorded {handle : Int} {length : Option Int} {req : CoapRequest} {expired : Bool}
    (pulls : CoapPulls blockSize handle length world req content)
    (ran : runOp blockSize .work expired world = some after) :
    ∃ id, after.log.drop world.log.length = [.pulled id req.bytesSent content.length req.hexRx
        (coapDataWritten req.hexRx content)] := by
  obtain ⟨⟨rest, isNext⟩, ⟨id, pending, isRequest⟩, ofHandle, manually, nonempty, rfl⟩ := pulls
  have isOps : world.ops .work = .pullData handle length :: rest := isNext
  have length_content : (bytesOf req.rxBuf
      (min (pullLen blockSize length) req.rxBufFilled)).length =
      min (pullLen blockSize length) req.rxBufFilled := by
    simp [bytesOf]
  have filled : req.rxBufFilled ≠ 0 := by
    intro empty
    apply nonempty
    rw [empty, Nat.min_zero]
    rfl
  have allowed : ¬(req.fd ≠ handle ∨ !req.manualRx) := by
    simp [ofHandle, manually]
  refine ⟨id, ?_⟩
  rw [length_content]
  have events : (pullRequest blockSize handle length id req).2.2 = [.pulled id req.bytesSent
        (min (pullLen blockSize length) req.rxBufFilled) req.hexRx
        (coapDataWritten req.hexRx (bytesOf req.rxBuf
          (min (pullLen blockSize length) req.rxBufFilled)))] := by
    rw [pullRequest, if_neg allowed, if_neg filled]
    dsimp only
    split
    · rfl
    · rfl
  rw [← events]
  rw [runOp, isOps] at ran
  simp only [CoapOp.onRequest, moduleOp, pending, CoapWorld.useRequest,
    isRequest, Option.some.injEq] at ran
  rw [← ran]
  exact drop_left

theorem coapPull_together_iff {handle : Int} {length : Option Int} {req : CoapRequest} {expired : Bool}
    (pulls : CoapPulls blockSize handle length world req content)
    (ran : runOp blockSize .work expired world = some after) (host : Host) :
    SentTogether (Response.text (coapDataHeader handle req.bytesSent content.length)).truncated
        (coapDataWritten req.hexRx content)
        ((performCalls cfg ((after.log.drop world.log.length).flatMap
          (CoapEvent.pullCalls handle req.pipe)) host).history.drop host.history.length) ↔
      ∃ c, smAtHostGetCurrent cfg host = some c ∧ smAtHostGetCtxFrom req.pipe host = some c := by
  obtain ⟨id, recorded⟩ := pulls.recorded ran
  have nonempty := coapDataWritten_ne_nil req.hexRx pulls.nonempty
  obtain ⟨sent, isSent, _⟩ := repliesWith_sends cfg
    (.text (coapDataHeader handle req.bytesSent content.length)) req.pipe host
    nonempty
  have appended : (performCalls cfg ((after.log.drop
      world.log.length).flatMap (CoapEvent.pullCalls handle req.pipe))
        host).history.drop host.history.length = [] ++ sent ++ [] := by
    rw [recorded, flatMap_singleton, CoapEvent.pullCalls, isSent, drop_left, nil_append, append_nil]
  rw [appended]
  exact repliesWith_together_iff nonempty nofun nofun isSent

/-- In every run of either module the header of a pull and its payload go out
together on one channel exactly when the pull is served on the channel of the
request.  The AT host may be in any state when a CoAP pull runs. -/
theorem pulledData_together_iff (cfg : Config) (env : Environment)
    (modem : Modem) (blockSize : Nat) :
    (∀ (start final : World) (taken : List (World × WorldAction × World)),
      Execution (worldStep cfg env modem) (fun _ _ => True) start taken final →
      ∀ (parser : AtParser) (world after : World) (req : HttpRequest) (content : List Byte),
      (world, .command .xhttpcdata parser, after) ∈ taken →
      HttpPulls modem parser world req content →
      (SentTogether (Response.text (httpDataHeader req content.length)).truncated
          (req.payloadPieces content)
          (after.host.history.drop world.host.history.length) ↔
        ∃ c, smAtHostGetCurrent cfg world.host = some c ∧
          smAtHostGetCtxFrom req.pipe world.host = some c)) ∧
    ∀ (start final : CoapWorld) (taken : List (CoapWorld × CoapAction × CoapWorld)),
      Execution (coapStep blockSize) (fun _ _ => True) start taken final →
      ∀ (handle : Int) (length : Option Int) (world after : CoapWorld)
        (req : CoapRequest) (content : List Byte) (expired : Bool)
        (host : Host),
      (world, .run .work expired, after) ∈ taken →
      CoapPulls blockSize handle length world req content →
      (SentTogether (Response.text (coapDataHeader handle req.bytesSent content.length)).truncated
          (coapDataWritten req.hexRx content)
          ((performCalls cfg ((after.log.drop world.log.length).flatMap
            (CoapEvent.pullCalls handle req.pipe)) host).history.drop host.history.length) ↔
        ∃ c, smAtHostGetCurrent cfg host = some c ∧ smAtHostGetCtxFrom req.pipe host = some c) := by
  constructor
  · intro start final taken run parser world after req content member pulls
    exact httpPull_together_iff pulls (run.step_of_mem member)
  · intro start final taken run handle length world after req content expired host member pulls
    exact coapPull_together_iff pulls (run.step_of_mem member) host

/-- The first channel has made a request and two bytes of the response are
there; then a channel receives the command that pulls them. -/
def pullActions (c : CtxId) : List WorldAction :=
  openSecondChannel ++ lineActions 0 .xsocket (numbers [1, 1, 0] []) ++
    lineActions 0 .xhttpcreq (httpcreqParser [0, 0, 0, 0]) ++
    eventActions 0 zsockPollout 1 ++ eventActions 0 zsockPollin 2 ++
    [.machine (.pipeReceive c []), .machine (.host .dispatch)]

def pulledModem : Modem :=
  responseModem [ascii "HTTP/1.1 200 OK\r\nContent-Length: 4\r\n\r\nab"]

def isPulledRequest (req : HttpRequest) : Bool :=
  decide (req.manualMode = true ∧ req.headersComplete = true ∧
    req.hexRx = false ∧ req.recvBuf = ascii "ab" ∧ req.pipe = some 0 ∧
    httpDataHeader req 2 = report "#XHTTPCDATA" [decimal 0, decimal 0, decimal 2])

theorem exists_pull (c : CtxId) (history : History)
    (evaluated : (runActions (worldStep plusConfig (sessionEnv 0 consumeAll)
      pulledModem) (pullActions c) bootedWorld).map (fun world =>
        (decide (findRequest 0 world = some 0 ∧ smAtHostGetCurrent plusConfig world.host = some c ∧
          smAtHostGetCtxFrom (some 0) world.host = some 0),
        (world.httpRequests 0).map isPulledRequest,
        (worldStep plusConfig (sessionEnv 0 consumeAll) pulledModem
          (.command .xhttpcdata (numbers [0] [])) world).map fun after =>
            after.host.history.drop world.host.history.length)) =
      some (true, some true, some history)) :
    ∃ world after req, WorldReachable plusConfig (sessionEnv 0 consumeAll) pulledModem world ∧
      HttpPulls pulledModem (numbers [0] []) world req (ascii "ab") ∧
      req.pipe = some 0 ∧ req.payloadPieces (ascii "ab") = [ascii "ab"] ∧
      httpDataHeader req 2 = report "#XHTTPCDATA" [decimal 0, decimal 0, decimal 2] ∧
      worldStep plusConfig (sessionEnv 0 consumeAll) pulledModem
        (.command .xhttpcdata (numbers [0] [])) world = some after ∧
      after.host.history.drop world.host.history.length = history ∧
      smAtHostGetCurrent plusConfig world.host = some c ∧
      smAtHostGetCtxFrom (some 0) world.host = some 0 := by
  obtain ⟨world, reachable, seen⟩ := exists_world_run plusConfig
    (sessionEnv 0 consumeAll) pulledModem (pullActions c) _ _ evaluated
  simp only [Prod.mk.injEq] at seen
  obtain ⟨isServed, isSeen, isStep⟩ := seen
  obtain ⟨isFound, serves, ofPipe⟩ := of_decide_eq_true isServed
  obtain ⟨req, isRequest, members⟩ := Option.map_eq_some_iff.mp isSeen
  obtain ⟨manually, complete, plain, buffer, pipe, header⟩ :=
    of_decide_eq_true members
  obtain ⟨after, ran, isHistory⟩ := Option.map_eq_some_iff.mp isStep
  refine ⟨world, after, req, reachable, ?_, pipe, ?_, header, ran, isHistory, serves, ofPipe⟩
  · exact ⟨by decide, ⟨0, 0, rfl, isFound, isRequest⟩, manually, complete,
      by decide, .inl ⟨by rw [buffer]; decide, by rw [buffer]; rfl⟩⟩
  · rw [HttpRequest.payloadPieces, plain]
    rfl

/-- A channel pulls what another has requested: the header goes to the one and
the payload to the other. -/
theorem pull_on_other_channel : ∃ world after req,
      WorldReachable plusConfig (sessionEnv 0 consumeAll) pulledModem world ∧
      HttpPulls pulledModem (numbers [0] []) world req (ascii "ab") ∧
      worldStep plusConfig (sessionEnv 0 consumeAll) pulledModem
        (.command .xhttpcdata (numbers [0] [])) world = some after ∧
      after.host.history.drop world.host.history.length = [.locked 1, .rspSend 1 (.text
            (report "#XHTTPCDATA" [decimal 0, decimal 0, decimal 2])),
          .dataSend 0 (ascii "ab"),
          .finalResult 1 (crlfStr ++ ascii "OK" ++ crlfStr), .unlocked 1] ∧
      ¬SentTogether (Response.text (httpDataHeader req 2)).truncated
        (req.payloadPieces (ascii "ab"))
        (after.host.history.drop world.host.history.length) := by
  obtain ⟨world, after, req, reachable, pulls, pipe, _, _, ran, history,
    serves, ofPipe⟩ := exists_pull 1 [.locked 1, .rspSend 1 (.text
        (report "#XHTTPCDATA" [decimal 0, decimal 0, decimal 2])),
      .dataSend 0 (ascii "ab"),
      .finalResult 1 (crlfStr ++ ascii "OK" ++ crlfStr), .unlocked 1]
    (by decide +kernel)
  refine ⟨world, after, req, reachable, pulls, ran, history, ?_⟩
  intro together
  obtain ⟨c, current, found⟩ :=
    (httpPull_together_iff pulls ran).mp together
  rw [serves] at current
  cases current
  rw [pipe, ofPipe] at found
  cases found

def filledWorld : CoapWorld :=
  { CoapWorld.initial with
    pendingReq := some 0
    heap := fun _ => some
      { allocRequest (some 0) with
        manualRx := true
        rxBufFilled := 2 }
    work := [.pullData 0 none] }

/-- On the channel of the request both modules keep them together. -/
theorem pull_on_same_channel : ∃ world after req coapAfter,
      WorldReachable plusConfig (sessionEnv 0 consumeAll) pulledModem world ∧
      worldStep plusConfig (sessionEnv 0 consumeAll) pulledModem
        (.command .xhttpcdata (numbers [0] [])) world = some after ∧
      SentTogether (Response.text (httpDataHeader req 2)).truncated (req.payloadPieces (ascii "ab"))
        (after.host.history.drop world.host.history.length) ∧
      runOp 16 .work false filledWorld = some coapAfter ∧
      SentTogether (Response.text (coapDataHeader 0 0 2)).truncated [[0, 0]]
        ((performCalls plusConfig ((coapAfter.log.drop 0).flatMap
          (CoapEvent.pullCalls 0 (some 0))) world.host).history.drop
            world.host.history.length) := by
  obtain ⟨world, after, req, reachable, pulls, pipe, _, _, ran, _,
    serves, ofPipe⟩ := exists_pull 0 [.locked 0, .rspSend 0 (.text
        (report "#XHTTPCDATA" [decimal 0, decimal 0, decimal 2])),
      .dataSend 0 (ascii "ab"),
      .finalResult 0 (crlfStr ++ ascii "OK" ++ crlfStr), .unlocked 0]
    (by decide +kernel)
  have both := pulledData_together_iff plusConfig (sessionEnv 0 consumeAll) pulledModem 16
  have isStep : coapStep 16 (.run .work false) filledWorld = some _ := rfl
  have coapPulls : CoapPulls 16 0 none filledWorld
      { allocRequest (some 0) with
        manualRx := true
        rxBufFilled := 2 } [0, 0] :=
    ⟨⟨[], rfl⟩, ⟨0, rfl, rfl⟩, rfl, rfl, by decide, rfl⟩
  refine ⟨world, after, req, _, reachable, ran, ?_, isStep, ?_⟩
  · apply (both.1 world after [(world, .command .xhttpcdata (numbers [0] []),
      after)] (.next .refl trivial ran) _ _ _ _ _
      (mem_singleton_self _) pulls).mpr
    rw [pipe]
    exact ⟨0, serves, ofPipe⟩
  · exact (both.2 filledWorld _ [(filledWorld, .run .work false, _)]
      (.next .refl trivial isStep) _ _ _ _ _ _ _ world.host
      (mem_singleton_self _) coapPulls).mpr ⟨0, serves, ofPipe⟩

end SerialModem.Coap
