import SerialModem.Socket.BodyAccounting
import SerialModem.Socket.Strings

/-!
# Responses in pieces

The network cuts a response into pieces as it likes.  In automatic reception the
client looks for the end of the body in the piece that came last, so where it
stops depends on the cuts.
-/

namespace SerialModem.Socket

open Library List
open AtHost

variable {cfg : Config} {env : Environment} {modem : Modem}

def OnlyReadable (events : PollEvents) : Prop :=
  hasEvent events zsockPollin = true ∧ hasEvent events zsockPollhup = false ∧
    hasEvent events (zsockPollerr ||| zsockPollnval) = false

/-- The request of a socket takes pieces until it ends or there are no more;
each is there when the client is told of POLLIN.  In between, other parts of
the firmware run that leave the request alone. -/
inductive ResponseRun (cfg : Config) (fd : Int) (r : Slot) :
    World → List (List Byte) → World → Prop
  | ended {world : World} {pieces : List (List Byte)} (gone : world.httpRequests r = none) :
      ResponseRun cfg fd r world pieces world
  | waits {world : World} : ResponseRun cfg fd r world [] world
  | piece {world before after final : World} {modem : Modem}
      {req : HttpRequest} {events : PollEvents} {piece : List Byte}
      {rest : List (List Byte)} {rearms : Bool}
      (isRequest : world.httpRequests r = some req)
      (sameRequest : before.httpRequests r = some req)
      (sameAccount : bodyAccount r before.log = bodyAccount r world.log)
      (ofFd : findRequest fd before = some r)
      (hasSocket : (findSocket req.fd before).isSome = true)
      (readable : OnlyReadable events)
      (answered : modem.answer before.log req.fd req.room = .done piece)
      (nonempty : piece ≠ [])
      (polled : smAtHttpcPollEvent cfg modem fd events before = some (rearms, after))
      (run : ResponseRun cfg fd r after rest final) :
      ResponseRun cfg fd r world (piece :: rest) final

/-- The request is over, with the body passed on up to `stop`. -/
def Finishes (r : Slot) (final : World) (stream : List Byte) (stop : Nat) :
    Prop :=
  final.httpRequests r = none ∧ ∃ headerEnd, strstr stream headerTerminator = some headerEnd ∧
    (bodyAccount r final.log).headers = some (headerEnd + headerTerminator.length) ∧
    (bodyAccount r final.log).passed =
      (stream.drop (headerEnd + headerTerminator.length)).take stop ∧
    stop ≤ (stream.drop (headerEnd + headerTerminator.length)).length

def HttpRequest.reading (req : HttpRequest) (arrived : List Byte) (headerEnd : Nat) : HttpRequest :=
  { req with recvBuf := arrived }.readHeaders headerEnd

def pieceEnds (contentLength : Int) (sent : Nat) (piece : List Byte) : Bool :=
  chunkedEof piece ||
    decide (0 < contentLength ∧ contentLength ≤ int32 (sent + piece.length : Nat))

def firstEnds (contentLength : Int) (body : List Byte) : Bool :=
  decide (0 ≤ contentLength ∧ contentLength ≤ int32 body.length) ||
    (decide (contentLength < 0) && chunkedEof body)

def HttpRequest.bodyStop (read : HttpRequest) (body : List Byte)
    (later : List (List Byte)) : Option Nat :=
  if read.bodyless then
    some 0
  else if firstEnds read.contentLength body then
    some body.length
  else
    stopAfter (pieceEnds read.contentLength) body.length later

def HttpRequest.responseStop (req : HttpRequest) : List Byte → List (List Byte) → Option Nat
  | _, [] => none
  | arrived, piece :: rest =>
    match strstr (cString (arrived ++ piece)) headerTerminator with
    | none =>
      if httpRecvBufSize - 1 ≤ (arrived ++ piece).length then
        none
      else
        req.responseStop (arrived ++ piece) rest
    | some headerEnd =>
      (req.reading (arrived ++ piece) headerEnd).bodyStop
        ((arrived ++ piece).drop (headerEnd + headerTerminator.length))
        rest

section

variable {fd : Int} {r : Slot}

variable {world final : World} {pieces : List (List Byte)}

theorem ResponseRun.of_gone (run : ResponseRun cfg fd r world pieces final)
    (gone : world.httpRequests r = none) : final = world := by
  cases run with
  | ended | waits => rfl
  | piece isRequest =>
    rw [gone] at isRequest
    cases isRequest

def HttpRequest.takePiece (req : HttpRequest) (piece : List Byte) :
    HttpRequest :=
  HttpRequest.store { req with needRearmPollin := false } piece

inductive PieceOutcome (req : HttpRequest) (account : BodyAccount)
    (piece : List Byte) : Option HttpRequest → BodyAccount → Prop
  | headers {request : Option HttpRequest} {noted : BodyAccount}
      (receiving : req.state = .receivingHeaders)
      (outcome : RecvHeadersOutcome (req.takePiece piece)
        (account.receive piece) false request noted) :
      PieceOutcome req account piece request noted
  | body {request : Option HttpRequest} {noted : BodyAccount}
      (receiving : req.state = .receivingBody)
      (outcome : RecvBodyOutcome (req.takePiece piece)
        (account.receive piece) false request noted) :
      PieceOutcome req account piece request noted

variable {req : HttpRequest} {piece : List Byte}

theorem pollEvent_piece {after : World} {events : PollEvents} {rearms : Bool}
    (isRequest : world.httpRequests r = some req)
    (receiving : req.state = .receivingHeaders ∨ req.state = .receivingBody)
    (ofFd : findRequest fd world = some r)
    (hasSocket : (findSocket req.fd world).isSome = true)
    (readable : OnlyReadable events)
    (answered : modem.answer world.log req.fd req.room = .done piece)
    (nonempty : piece ≠ [])
    (polled : smAtHttpcPollEvent cfg modem fd events world = some (rearms, after)) :
    PieceOutcome req (bodyAccount r world.log) piece
      (after.httpRequests r) (bodyAccount r after.log) := by
  obtain ⟨isReadable, notHup, notBroken⟩ := readable
  obtain ⟨request, noted, outcome, shows⟩ :=
    (shows_of_request isRequest).smAtHttpcPollEvent ofFd rfl _ _ polled
  rw [answered, hasSocket] at outcome
  rw [shows.httpRequests, shows.bodyAccount]
  have opens : ¬Closes events (.done piece) := by
    rintro (⟨hup, _⟩ | ⟨_, ended⟩)
    · rw [notHup] at hup
      cases hup
    · cases ended
      exact nonempty rfl
  cases outcome with
  | lost broken =>
    rw [notBroken] at broken
    rcases broken with broken | broken <;> cases broken
  | rests quiet =>
    obtain ⟨_, failed⟩ := quiet receiving
    obtain ⟨_, isFailed⟩ := failed isReadable
    cases isFailed
  | sends sending =>
    rcases receiving with same | same <;>
      · rw [show req.state = .sendingRequest from sending] at same
        cases same
  | failed _ isFailed => cases isFailed
  | closedEarly _ closes | closed _ closes => exact absurd closes opens
  | headers state _ same _ outcome =>
    cases same
    rw [notHup] at outcome
    exact .headers state outcome
  | body state _ same _ outcome =>
    cases same
    rw [notHup] at outcome
    exact .body state outcome

theorem passOn_bytesSent {sent : Nat} (isSent : req.bytesSent = int32 sent) (count : Nat) :
    (req.passOn count).bytesSent = int32 (sent + count : Nat) := by
  rw [HttpRequest.passOn]
  dsimp only
  rw [HttpRequest.sentAfter_eq isSent, isSent, int32_add_left, Int.natCast_add]

theorem endsAtPiece_iff {sent : Nat} (isSent : req.bytesSent = int32 sent) (piece : List Byte) :
    (req.passOn piece.length).EndsAtPiece piece ↔
      pieceEnds req.contentLength sent piece = true := by
  have counts := passOn_bytesSent isSent piece.length
  rw [HttpRequest.EndsAtPiece, counts, pieceEnds, Bool.or_eq_true,
    decide_eq_true_eq]
  exact Iff.rfl

theorem ResponseRun.body {world final : World} {pieces : List (List Byte)}
    (run : ResponseRun cfg fd r world pieces final) {req : HttpRequest}
    {size : Nat} (isRequest : world.httpRequests r = some req)
    (receiving : req.state = .receivingBody)
    (automatic : req.manualMode = false) (empty : req.recvBuf = [])
    (counted : req.Counted (bodyAccount r world.log) size) :
    (∀ stop, stopAfter (pieceEnds req.contentLength)
        (bodyAccount r world.log).passed.length pieces = some stop →
      final.httpRequests r = none ∧
      (bodyAccount r final.log).headers = some size ∧
      (bodyAccount r final.log).passed = (bodyAccount r world.log).passed ++
        pieces.flatten.take (stop - (bodyAccount r world.log).passed.length)) ∧
    (stopAfter (pieceEnds req.contentLength) (bodyAccount r world.log).passed.length pieces = none →
      final.httpRequests r ≠ none) := by
  induction run generalizing req with
  | ended gone =>
    rw [isRequest] at gone
    cases gone
  | waits =>
    constructor
    · intro stop stopped
      cases stopped
    · intro _ gone
      rw [isRequest] at gone
      cases gone
  | @piece world before after final modem live events piece rest rearms isLive
      sameRequest sameAccount ofFd hasSocket readable answered nonempty polled
      run ih =>
      have same : req = live := Option.some.inj (isRequest.symm.trans isLive)
      subst same
      have outcome := pollEvent_piece sameRequest (.inr receiving) ofFd
        hasSocket readable answered nonempty polled
      rw [sameAccount] at outcome
      have stored : (req.takePiece piece).Counted ((bodyAccount r world.log).receive piece) size :=
        (counted.store piece).same rfl
      have holds : (req.takePiece piece).recvBuf = piece := by
        rw [HttpRequest.takePiece, HttpRequest.store, empty, nil_append]
      have forwarded := stored.passOn
      rw [holds] at forwarded
      have ends : ((req.takePiece piece).passOn piece.length).EndsAtPiece
          piece ↔ pieceEnds req.contentLength
            (bodyAccount r world.log).passed.length piece = true :=
        endsAtPiece_iff stored.sent piece
      rw [stopAfter]
      generalize isNext : after.httpRequests r = next at outcome
      generalize isNoted : bodyAccount r after.log = noted at outcome
      cases outcome with
      | headers waiting => rw [receiving] at waiting; cases waiting
      | body _ outcome =>
        cases outcome with
        | manual manually =>
          have isAutomatic : (req.takePiece piece).manualMode = false :=
            automatic
          rw [isAutomatic] at manually
          cases manually
        | ends _ ended =>
          have isFinal := run.of_gone isNext
          subst isFinal
          rw [holds] at ended isNoted
          have passes := ends.mp (ended.resolve_left Bool.false_ne_true)
          rw [if_pos passes]
          constructor
          · intro stop stopped
            cases stopped
            refine ⟨isNext, ?_, ?_⟩
            · rw [isNoted]
              exact (BodyAccount.headers_deliver _ _ _).trans counted.headers
            · rw [isNoted, BodyAccount.passed_finish,
                BodyAccount.passed_deliver, BodyAccount.passed_receive,
                Nat.add_sub_cancel_left, flatten_cons,
                take_left]
          · intro goesOn
            cases goesOn
        | goesOn _ _ more =>
          rw [holds] at more isNoted isNext
          have fails : pieceEnds req.contentLength
              (bodyAccount r world.log).passed.length piece = false :=
            Bool.eq_false_iff.mpr fun passes => more (ends.mpr passes)
          have passed : (bodyAccount r after.log).passed =
              (bodyAccount r world.log).passed ++ piece := by
            rw [isNoted, BodyAccount.passed_deliver, BodyAccount.passed_receive]
          have later := ih isNext receiving automatic
            rfl (by rw [isNoted]; exact forwarded.same rfl)
          rw [passed, length_append] at later
          rw [if_neg (Bool.eq_false_iff.mp fails)]
          refine ⟨?_, later.2⟩
          intro stop stopped
          obtain ⟨gone, headers, isPassed⟩ := later.1 stop stopped
          refine ⟨gone, headers, ?_⟩
          have reached := (stopAfter_le stopped).1
          have whole : piece.take (stop - (bodyAccount r world.log).passed.length) =
              piece := take_of_length_le (by omega)
          rw [isPassed, append_assoc, flatten_cons, take_append, whole, Nat.sub_sub]

variable {arrived : List Byte}

theorem headerEnd_in_stream {headerEnd : Nat}
    (found : strstr (cString arrived) headerTerminator = some headerEnd)
    (more : List Byte) :
    strstr (arrived ++ more) headerTerminator = some headerEnd := by
  have split : arrived = cString arrived ++ arrived.dropWhile fun byte => byte != 0 :=
    takeWhile_append_dropWhile.symm
  rw [split, append_assoc]
  exact strstr_append (by decide) found

theorem HttpRequest.responseStop_of_found {headerEnd : Nat}
    (found : strstr (cString (arrived ++ piece)) headerTerminator =
      some headerEnd) (rest : List (List Byte)) :
    req.responseStop arrived (piece :: rest) = (req.reading (arrived ++ piece) headerEnd).bodyStop
        ((arrived ++ piece).drop (headerEnd + headerTerminator.length))
        rest := by
  rw [responseStop, found]

theorem HttpRequest.responseStop_of_missing
    (missing : strstr (cString (arrived ++ piece)) headerTerminator = none)
    (rest : List (List Byte)) :
    req.responseStop arrived (piece :: rest) =
      if httpRecvBufSize - 1 ≤ (arrived ++ piece).length then
        none
      else
        req.responseStop (arrived ++ piece) rest := by
  rw [responseStop, missing]

theorem HttpRequest.responseStop_takePiece (req : HttpRequest)
    (piece arrived : List Byte) (rest : List (List Byte)) :
    ((req.takePiece piece).rearm).responseStop arrived rest = req.responseStop arrived rest := by
  induction rest generalizing arrived with
  | nil => rfl
  | cons next later ih =>
    cases found : strstr (cString (arrived ++ next)) headerTerminator with
    | none =>
      rw [responseStop_of_missing found, responseStop_of_missing found, ih]
    | some headerEnd =>
      rw [responseStop_of_found found, responseStop_of_found found]
      rfl

theorem firstEnds_iff {read : HttpRequest} (unsent : read.bytesSent = 0) (body : List Byte) :
    (read.passOn body.length).EndsAtHeaders body ↔ firstEnds read.contentLength body = true := by
  have counts := passOn_bytesSent (unsent.trans int32_zero.symm) body.length
  rw [Nat.zero_add] at counts
  rw [HttpRequest.EndsAtHeaders, counts, firstEnds, Bool.or_eq_true,
    Bool.and_eq_true, decide_eq_true_eq, decide_eq_true_eq]
  exact Iff.rfl

theorem ResponseRun.stops (run : ResponseRun cfg fd r world pieces final)
    (isRequest : world.httpRequests r = some req)
    (receiving : req.state = .receivingHeaders)
    (automatic : req.manualMode = false)
    (unparsed : req.Unparsed (bodyAccount r world.log)) :
    (∀ stop, req.responseStop req.recvBuf pieces = some stop →
      Finishes r final (req.recvBuf ++ pieces.flatten) stop) ∧
    (req.responseStop req.recvBuf pieces = none → final.httpRequests r ≠ none ∨
        (bodyAccount r final.log).headers = none) := by
  induction run generalizing req with
  | ended gone =>
    rw [isRequest] at gone
    cases gone
  | waits =>
    constructor
    · intro stop stopped
      cases stopped
    · intro _
      left
      rw [isRequest]
      exact nofun
  | @piece world before after final modem live events piece rest rearms isLive
      sameRequest sameAccount ofFd hasSocket readable answered nonempty polled
      run ih =>
      have same : req = live := Option.some.inj (isRequest.symm.trans isLive)
      subst same
      have outcome := pollEvent_piece sameRequest (.inl receiving) ofFd
        hasSocket readable answered nonempty polled
      rw [sameAccount] at outcome
      have stored : (req.takePiece piece).Unparsed ((bodyAccount r world.log).receive piece) :=
        (unparsed.store piece).same rfl
      have isAutomatic : (req.takePiece piece).manualMode = false := automatic
      have holds : (req.takePiece piece).recvBuf = req.recvBuf ++ piece := rfl
      rw [flatten_cons, ← append_assoc]
      generalize isNext : after.httpRequests r = next at outcome
      generalize isNoted : bodyAccount r after.log = noted at outcome
      cases outcome with
      | body waiting => rw [receiving] at waiting; cases waiting
      | headers _ outcome =>
        cases outcome with
        | full missing noRoom =>
          have isFinal := run.of_gone isNext
          subst isFinal
          rw [holds] at missing noRoom
          rw [HttpRequest.responseStop_of_missing missing, if_pos noRoom]
          constructor
          · intro stop stopped
            cases stopped
          · intro _
            right
            rw [isNoted]
            exact unparsed.headers
        | waits missing hasRoom =>
          have later := ih isNext receiving automatic (by rw [isNoted]; exact stored.same rfl)
          rw [HttpRequest.responseStop_takePiece] at later
          rw [holds] at missing hasRoom
          rw [HttpRequest.responseStop_of_missing missing, if_neg (Nat.not_le_of_lt hasRoom)]
          exact later
        | @complete headerEnd _ _ found outcome =>
          have isFinal := run.of_gone
          have within := headerEnd_within found
          have inStream := headerEnd_in_stream found rest.flatten
          rw [holds] at found inStream within outcome
          rw [HttpRequest.responseStop_of_found found, HttpRequest.bodyStop]
          cases outcome with
          | bodyless noBody =>
            have isBodyless : (req.reading (req.recvBuf ++ piece)
                headerEnd).bodyless = true := noBody
            rw [if_pos isBodyless, isFinal isNext]
            constructor
            · intro stop stopped
              cases stopped
              refine ⟨isNext, headerEnd, inStream, ?_, ?_, Nat.zero_le _⟩
              · rw [isNoted]
                rfl
              · rw [isNoted, take_zero]
                exact stored.passed
            · intro none
              cases none
          | manual _ manually =>
            have isAutomatic' : ((req.takePiece piece).readHeaders
                headerEnd).manualMode = false := automatic
            rw [isAutomatic'] at manually
            cases manually
          | ends hasBody _ ended =>
            have isBodyful : (req.reading (req.recvBuf ++ piece)
                headerEnd).bodyless = false := hasBody
            have unsent : (req.reading (req.recvBuf ++ piece)
                headerEnd).bytesSent = 0 := unparsed.unsent
            have passes := (firstEnds_iff unsent _).mp (ended.resolve_left Bool.false_ne_true)
            rw [if_neg (Bool.eq_false_iff.mp isBodyful), if_pos passes, isFinal isNext]
            constructor
            · intro stop stopped
              cases stopped
              refine ⟨isNext, headerEnd, inStream, ?_, ?_, ?_⟩
              · rw [isNoted]
                exact BodyAccount.headers_deliver _ _ _
              · rw [isNoted, BodyAccount.passed_finish, BodyAccount.passed_deliver,
                  BodyAccount.passed_complete, stored.passed,
                  nil_append,
                  drop_append_of_le_length within,
                  take_left]
              · rw [drop_append_of_le_length within, length_append]
                exact Nat.le_add_right _ _
            · intro none
              cases none
        | @goesOn headerEnd _ _ found outcome =>
          have within := headerEnd_within found
          have inStream := headerEnd_in_stream found rest.flatten
          have parsed := stored.parse within
          rw [holds] at found inStream within outcome
          rw [HttpRequest.responseStop_of_found found, HttpRequest.bodyStop]
          cases outcome with
          | goesOn hasBody _ _ more =>
            have isBodyful : (req.reading (req.recvBuf ++ piece)
                headerEnd).bodyless = false := hasBody
            have unsent : (req.reading (req.recvBuf ++ piece)
                headerEnd).bytesSent = 0 := unparsed.unsent
            have fails := fun passes =>
              more ((firstEnds_iff unsent _).mpr passes)
            have forwarded := parsed.passOn
            rw [if_neg (Bool.eq_false_iff.mp isBodyful), if_neg fails]
            have passed : (bodyAccount r after.log).passed = (req.recvBuf ++ piece).drop
                  (headerEnd + headerTerminator.length) := by
              rw [isNoted, BodyAccount.passed_deliver, BodyAccount.passed_complete, stored.passed,
                nil_append]
            have later := run.body isNext rfl automatic rfl
              (by rw [isNoted]; exact forwarded.same rfl)
            rw [passed] at later
            constructor
            · intro stop stopped
              obtain ⟨gone, headers, isPassed⟩ := later.1 stop stopped
              have reached := stopAfter_le stopped
              refine ⟨gone, headerEnd, inStream, headers, ?_, ?_⟩
              · rw [isPassed, drop_append_of_le_length within, take_append,
                  take_of_length_le reached.1]
              · rw [drop_append_of_le_length within, length_append]
                exact reached.2
            · intro none
              exact .inl (later.2 none)

end

/-! ## The cuts -/

variable {req : HttpRequest} {held : List Byte} {pieces : List (List Byte)} {stop : Nat}

variable {next : List Byte} {rest : List (List Byte)}

end SerialModem.Socket
