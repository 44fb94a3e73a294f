import SerialModem.Socket.RequestText
import SerialModem.Socket.BodyAccounting

/-!
# The serialisation of an accepted request

A run of `handle_at_httpcreq` that returns zero leaves a request whose strings
have passed the length checks.  The buffer that is computed for such a request
takes its text, whatever the parameters of the command are.
-/

namespace SerialModem.Socket

open Library Library.Program AtHost
open Library.CharBuffer (Stored)

variable {cfg : Config} {env : Environment} {modem : Modem}
variable {parser : AtParser}

/-- What the checks of the command leave, with the index of the first header
parameter. -/
structure AcceptedRequest (parser : AtParser) (index : Nat)
    (req : HttpRequest) : Prop where
  hostname : req.hostname.length < httpHostMaxLen
  path : req.path.length < httpPathMaxLen
  requestBodyLen : req.requestBodyLen ≤ 2147483647
  extraHeaders : req.extraHeaders = extraHeaders parser index
  headersTotalLen : headersTotalLen parser (headerIndices parser index) 0 =
      some (Socket.extraHeaders parser index).length

def AtParser.GivesInts (parser : AtParser) : Prop :=
  ∀ index value, parser.num index = .done value → value ≤ 2147483647

/-- From a request that satisfies `before`, a run that returns zero leaves one
that satisfies `after`. -/
def Fills (r : Slot) (before after : HttpRequest → Prop) (program : SocketM Int) : Prop :=
  ∀ world req, world.httpRequests r = some req → before req →
    Ends world program fun err final => err = 0 →
      ∃ filled, final.httpRequests r = some filled ∧ after filled

namespace Fills

variable {r : Slot} {before after : HttpRequest → Prop} {next : SocketM Int}

theorem refused {err : Int} (isError : err ≠ 0) : Fills r before after (Pure.pure err) :=
  fun _ _ _ _ => (ends_pure _ _).mpr fun isZero => absurd isZero isError

theorem done (implies : ∀ req, before req → after req) : Fills r before after (Pure.pure 0) :=
  fun _ req isRequest holds =>
    (ends_pure _ _).mpr fun _ => ⟨req, isRequest, implies req holds⟩

theorem change (middle : HttpRequest → Prop) {update : HttpRequest → HttpRequest}
    (changes : ∀ req, before req → middle (update req))
    (fills : Fills r middle after next) :
    Fills r before after (do
      modifyRequest r update
      next) := by
  intro world req isRequest holds
  refine (modifyRequest_ends update isRequest).call ?_
  rintro _ changed ⟨-, isChanged⟩
  exact fills changed _ isChanged (changes req holds)

theorem spared {Value : Type} {program : SocketM Value}
    {continued : Value → SocketM Int} (spares : SparesRequests program)
    (fills : ∀ value, Fills r before after (continued value)) :
    Fills r before after (program >>= continued) := by
  intro world req isRequest holds
  refine (spares world).call ?_
  intro value later same
  have requests : later.httpRequests = world.httpRequests :=
    congrArg Bodies.requests same
  exact fills value later req (requests ▸ isRequest) holds

theorem of_spares {program : SocketM Int} (spares : SparesRequests program)
    (implies : ∀ req, before req → after req) :
    Fills r before after program := by
  intro world req isRequest holds
  refine (spares world).mono ?_
  intro _ later same _
  have requests : later.httpRequests = world.httpRequests :=
    congrArg Bodies.requests same
  exact ⟨req, requests ▸ isRequest, implies req holds⟩

theorem read {continued : HttpRequest → SocketM Int}
    (fills : ∀ req, Fills r before after (continued req)) :
    Fills r before after (getRequest r >>= continued) :=
  spared (SparesRequests.getRequest r) fills

theorem withCopy {content : List Byte} (fills : Fills r before after next) :
    Fills r before after (withCopy modem content next) := by
  apply spared (SparesRequests.malloc _)
  intro granted
  split
  · exact fills
  · exact refused (by decide)

theorem unlessError (middle : HttpRequest → Prop) {first : SocketM Int}
    (fillsFirst : Fills r before middle first)
    (fillsNext : Fills r middle after next) :
    Fills r before after (unlessError first next) := by
  intro world req isRequest holds
  refine (fillsFirst world req isRequest holds).call ?_
  intro err later filled
  split
  · rename_i isError
    exact (ends_pure _ _).mpr fun isZero => absurd isZero isError
  · rename_i noError
    obtain ⟨started, isStarted, holdsStarted⟩ := filled (not_not.mp noError)
    exact fillsNext later started isStarted holdsStarted

theorem withParam {Value : Type} {param : Outcome Value} {continued : Value → SocketM Int}
    (fills : ∀ value, param = .done value → Fills r before after (continued value)) :
    Fills r before after (withParam param continued) := by
  unfold Socket.withParam
  cases param with
  | failed errno =>
    have positive := errno.positive
    apply refused
    unfold Errno.code
    omega
  | done value => exact fills value rfl

end Fills

variable {r : Slot}

def ShortNames (req : HttpRequest) : Prop :=
  req.hostname.length < httpHostMaxLen ∧ req.path.length < httpPathMaxLen

variable {before : HttpRequest → Prop}

theorem Fills.httpParseUrlComponents {url : List Byte} (host : ∀ req hostname port, before req →
      before { req with hostname := hostname, port := port })
    (path : ∀ req path, before req → before { req with path := path }) :
    Fills r before (fun req => before req ∧ ShortNames req)
      (httpParseUrlComponents modem r url) := by
  have partLength : ∀ part : Nat × Nat, (urlPart url part).length ≤ part.2 :=
    fun _ => List.length_take_le _ _
  unfold Socket.httpParseUrlComponents
  split
  · exact .refused (by decide)
  · split
    · exact .refused (by decide)
    · rename_i hostPart _
      split
      · exact .refused (by decide)
      · rename_i hostShort
        apply Fills.withCopy
        refine .change (fun req => before req ∧ req.hostname.length < httpHostMaxLen) ?_ ?_
        · intro req holds
          exact ⟨host req _ _ holds,
            Nat.lt_of_le_of_lt (partLength hostPart) (Nat.not_le.mp hostShort)⟩
        · split
          · apply Fills.withCopy
            refine .change _ ?_ (.done fun _ holds => holds)
            rintro req ⟨holds, short⟩
            exact ⟨path req _ holds, short, (by decide : 1 < httpPathMaxLen)⟩
          · dsimp only
            split
            · exact .refused (by decide)
            · rename_i pathShort
              apply Fills.withCopy
              refine .change _ ?_ (.done fun _ holds => holds)
              rintro req ⟨holds, short⟩
              exact ⟨path req _ holds, short,
                Nat.lt_of_le_of_lt (partLength _) (Nat.not_le.mp pathShort)⟩

theorem sparesRequests_get : SparesRequests (get : SocketM World) :=
  fun _ => (ends_get _).mpr rfl

variable {holds : HttpRequest → Prop}

theorem Fills.httpStartRequest (sending : ∀ req text, holds req →
      holds { req with sendPtr := text, state := .sendingRequest }) :
    Fills r holds holds (httpStartRequest cfg modem r) := by
  unfold Socket.httpStartRequest
  apply Fills.read
  intro req
  apply Fills.withCopy
  apply Fills.change holds (fun req => sending req _)
  apply Fills.spared sparesRequests_get
  intro world
  split
  · exact .refused (by decide)
  · exact .of_spares (SparesRequests.selectForClient (by decide)) fun _ => id

theorem Fills.httpSendRequestHeaders
    (sending : ∀ req, holds req → holds { req with state := .sendingBody }) :
    Fills r holds holds (httpSendRequestHeaders modem r) := by
  unfold Socket.httpSendRequestHeaders
  apply Fills.read
  intro req
  apply Fills.withCopy
  apply Fills.spared (SparesRequests.httpSendAll _ _ _)
  intro sent
  cases sent with
  | failed errno =>
    have positive := errno.positive
    apply Fills.refused
    unfold Errno.code
    omega
  | done _ => exact .change holds sending (.done fun _ => id)

variable {bodyLen : Int}

theorem Fills.httpStreamBody
    (streams : ∀ req, before req → holds { req with requestBodyLen := bodyLen })
    (sending : ∀ req, holds req → holds { req with state := .sendingBody }) :
    Fills r before holds (httpStreamBody cfg env modem r bodyLen) := by
  unfold Socket.httpStreamBody
  apply Fills.change holds streams
  apply Fills.unlessError holds (.httpSendRequestHeaders sending)
  apply Fills.read
  intro req world found isRequest isHeld
  rw [ends_bind, ends_modify]
  have keeps : Fills r holds holds (do
      rspSendText cfg (report "#XHTTPCREQ" [decimal req.fd])
      enterDatamodeWith cfg env httpDatamodeCallback bodyLen) := by
    apply Fills.spared (SparesRequests.rspSendText _)
    intro _
    exact .of_spares (.of_silent fun _ => Performs.enterDatamodeWith trivial _ _) fun _ => id
  exact keeps _ found isRequest isHeld

theorem Fills.httpLaunch {method : HttpMethod} (keeps : ∀ req, before req → holds req)
    (streams : ∀ req, before req → holds { req with requestBodyLen := bodyLen })
    (sending : ∀ req text state, holds req → holds { req with sendPtr := text, state := state }) :
    Fills r before holds (httpLaunch cfg env modem r method bodyLen) := by
  unfold Socket.httpLaunch
  split
  · exact .httpStreamBody streams fun req => sending req req.sendPtr _
  · have starts : Fills r holds holds (Socket.unlessError (Socket.httpStartRequest cfg modem r) (do
          let req ← Socket.getRequest r
          Socket.rspSendText cfg (report "#XHTTPCREQ" [decimal req.fd])
          pure 0)) := by
      apply Fills.unlessError holds (.httpStartRequest fun req text => sending req text _)
      apply Fills.read
      intro req
      exact .spared (SparesRequests.rspSendText _) fun _ => .done fun _ => id
    exact fun world req isRequest isBefore =>
      starts world req isRequest (keeps req isBefore)

structure IsNew (fd : Int) (req : HttpRequest) : Prop where
  fd : req.fd = fd
  requestBodyLen : req.requestBodyLen = 0
  extraHeaders : req.extraHeaders = []

structure IsHeaded (parser : AtParser) (fd : Int) (index : Nat)
    (req : HttpRequest) : Prop where
  fd : req.fd = fd
  requestBodyLen : req.requestBodyLen = 0
  extraHeaders : req.extraHeaders = extraHeaders parser index
  headersTotalLen : headersTotalLen parser (headerIndices parser index) 0 =
      some (Socket.extraHeaders parser index).length

variable {fd : Int} {index : Nat}

theorem Fills.storeExtraHeaders {after : HttpRequest → Prop}
    {next : SocketM Int} (fills : Fills r (IsHeaded parser fd index) after next) :
    Fills r (IsNew fd) after (storeExtraHeaders modem r (extraHeaders parser index) next) := by
  have total := @headersTotalLen_eq parser (headerIndices parser index) 0
  rw [headersAt_headerIndices, Nat.zero_add] at total
  unfold Socket.storeExtraHeaders
  split
  · rename_i isNil
    rw [if_neg fun someHeaders => someHeaders.1 isNil] at total
    intro world req isRequest isNew
    exact fills world req isRequest
      ⟨isNew.fd, isNew.requestBodyLen, isNew.extraHeaders.trans isNil.symm, total⟩
  · split
    · exact .refused (by decide)
    · rename_i short
      rw [if_neg fun tooLong => short tooLong.2] at total
      apply Fills.withCopy
      apply Fills.change (IsHeaded parser fd index) _ fills
      intro req isNew
      exact ⟨isNew.fd, isNew.requestBodyLen, rfl, total⟩

theorem optionalBodyLen_le {method : HttpMethod} {next : Nat} (ints : parser.GivesInts)
    (given : optionalBodyLen parser method index = some (bodyLen, next)) :
    bodyLen ≤ 2147483647 := by
  have read : ∀ value, optionalNum parser index = some value → value ≤ 2147483647 := by
    intro value
    unfold optionalNum
    split
    · split
      · exact nofun
      · rename_i isValue
        rintro ⟨⟩
        exact ints _ _ isValue
    · exact nofun
  unfold optionalBodyLen at given
  split at given
  · obtain ⟨rfl, -⟩ := Prod.mk.inj (Option.some.inj given)
    decide
  · rename_i value isValue
    have isInt := read value isValue
    split_ifs at given
    all_goals
      obtain ⟨rfl, -⟩ := Prod.mk.inj (Option.some.inj given)
      exact isInt

theorem Fills.httpSetupRequest (ints : parser.GivesInts) :
    Fills r (fun req => req.requestBodyLen = 0 ∧ req.extraHeaders = [])
      (fun req => req.fd = fd ∧ ∃ index, AcceptedRequest parser index req)
      (httpSetupRequest cfg env modem parser r fd) := by
  apply Fills.withParam
  intro url _
  split
  · exact .refused (by decide)
  · apply Fills.withParam
    intro number _
    split
    · exact .refused (by decide)
    · rename_i method _
      split
      · exact .refused (by decide)
      · split
        · exact .refused (by decide)
        · split
          · exact .refused (by decide)
          · rename_i bodyLen index given
            have isInt := optionalBodyLen_le ints given
            apply Fills.change (IsNew fd)
            · rintro req ⟨noBody, noHeaders⟩
              exact ⟨rfl, noBody, noHeaders⟩
            · apply Fills.storeExtraHeaders
              apply Fills.change (IsHeaded parser fd index)
              · intro req headed
                exact { headed with }
              · apply Fills.unlessError _ (.httpParseUrlComponents _ _)
                · apply Fills.httpLaunch
                  · rintro req ⟨headed, short⟩
                    refine ⟨headed.fd, index, short.1, short.2, ?_,
                      headed.extraHeaders, headed.headersTotalLen⟩
                    rw [headed.requestBodyLen]
                    decide
                  · rintro req ⟨headed, short⟩
                    exact ⟨headed.fd, index, short.1, short.2, isInt,
                      headed.extraHeaders, headed.headersTotalLen⟩
                  · rintro req text state ⟨sameFd, index, accepted⟩
                    exact ⟨sameFd, index, { accepted with }⟩
                · intro req hostname port headed
                  exact { headed with }
                · intro req path headed
                  exact { headed with }

def LeavesRequest (parser : AtParser) (world : World) (program : SocketM Int) :
    Prop :=
  Ends world program fun err after => err = 0 → ∃ r req index, after.httpRequests r = some req ∧
      parser.num 1 = .done req.fd ∧ AcceptedRequest parser index req

theorem LeavesRequest.refused {err : Int} {world : World}
    (isError : err ≠ 0) : LeavesRequest parser world (pure err) :=
  (ends_pure _ _).mpr fun isZero => absurd isZero isError

/-- A new request is as `memset` leaves it, but for its own values. -/
theorem allocRequest_new (world : World) :
    Ends world (allocRequest cfg modem) fun allocated after =>
      ∀ r, allocated = some r → ∃ req, after.httpRequests r = some req ∧
        req.requestBodyLen = 0 ∧ req.extraHeaders = [] := by
  have nothing : ∀ middle : World, Ends middle (pure none : SocketM (Option Slot))
        fun allocated after => ∀ r, allocated = some r → ∃ req, after.httpRequests r = some req ∧
            req.requestBodyLen = 0 ∧ req.extraHeaders = [] :=
    fun _ => (ends_pure _ _).mpr fun _ => nofun
  unfold allocRequest
  rw [ends_bind, ends_get]
  split
  · exact nothing world
  · rename_i r _
    refine (SparesRequests.malloc _ world).call ?_
    intro granted first _
    split
    · refine (SparesRequests.malloc _ first).call ?_
      intro grantedBuffer second _
      split
      · rw [ends_bind, ends_modify, emit, ends_bind, ends_modify, ends_pure]
        intro other isOther
        cases isOther
        exact ⟨_, World.httpRequests_setRequest_self _ _ _, rfl, rfl⟩
      · exact nothing second
    · exact nothing first

theorem orCloseRequest_leaves {world : World} {starting : SocketM Int}
    (isFd : parser.num 1 = .done fd)
    (starts : Ends world starting fun err after => err = 0 →
      ∃ req, after.httpRequests r = some req ∧ req.fd = fd ∧
        ∃ index, AcceptedRequest parser index req) :
    LeavesRequest parser world (orCloseRequest r starting) := by
  refine starts.call ?_
  intro err ended filled
  split
  · rename_i isError
    rw [ends_bind]
    intro _ closed _
    exact LeavesRequest.refused isError
  · rename_i noError
    obtain ⟨last, isLast, sameFd, index, accepted⟩ := filled (not_not.mp noError)
    rw [← sameFd] at isFd
    exact (ends_pure _ _).mpr fun _ =>
      ⟨r, last, index, isLast, isFd, accepted⟩

theorem handleAtHttpcreq_leaves (ints : parser.GivesInts) (world : World) :
    LeavesRequest parser world (handleAtHttpcreq cfg env modem parser) := by
  unfold handleAtHttpcreq
  split
  · exact .refused (by decide)
  · unfold withParam
    cases isFd : parser.num 1 with
    | failed errno =>
      have positive := errno.positive
      apply LeavesRequest.refused
      unfold Errno.code
      omega
    | done fd =>
      unfold withSocket LeavesRequest
      dsimp only
      rw [ends_bind, ends_get]
      split
      · exact LeavesRequest.refused (by decide)
      · rw [ends_bind, ends_get]
        split
        · exact LeavesRequest.refused (by decide)
        · refine (allocRequest_new world).call ?_
          intro allocated started isNew
          cases allocated with
          | none => exact LeavesRequest.refused (by decide)
          | some r =>
            obtain ⟨req, isRequest, fresh⟩ := isNew r rfl
            exact orCloseRequest_leaves isFd
              (Fills.httpSetupRequest ints started req isRequest fresh)

theorem AcceptedRequest.length_extraHeaders_lt {req : HttpRequest}
    (accepted : AcceptedRequest parser index req) :
    req.extraHeaders.length < httpExtraHeadersSize := by
  have total := accepted.headersTotalLen
  rw [headersTotalLen_eq, headersAt_headerIndices, Nat.zero_add] at total
  rw [accepted.extraHeaders]
  split at total
  · cases total
  · rename_i passed
    by_cases isNil : Socket.extraHeaders parser index = []
    · rw [isNil]
      decide
    · have short := Nat.not_lt.mp fun tooLong => passed ⟨isNil, tooLong⟩
      omega

theorem AcceptedRequest.httpHeadersSize_lt {req : HttpRequest}
    (accepted : AcceptedRequest parser index req) :
    httpHeadersSize req < 2048 := by
  have method : (httpMethodStr req.method).length ≤ 6 := by
    cases req.method <;> decide +kernel
  have path := Nat.lt_of_le_of_lt (length_cString_le req.path) accepted.path
  have hostname :=
    Nat.lt_of_le_of_lt (length_cString_le req.hostname) accepted.hostname
  have headers := Nat.lt_of_le_of_lt (length_cString_le req.extraHeaders)
    accepted.length_extraHeaders_lt
  have fixed : (ascii " HTTP/1.1" ++ crlfStr).length + (ascii "Host: ").length + crlfStr.length +
      (ascii "User-Agent: nRF91-Serial-Modem" ++ crlfStr).length +
      (ascii "Accept: */*" ++ crlfStr).length +
      (contentLengthLine 2147483647).length + crlfStr.length ≤ 100 := by
    decide +kernel
  unfold httpHostMaxLen at hostname
  unfold httpPathMaxLen at path
  unfold httpExtraHeadersSize at headers
  unfold httpHeadersSize
  split_ifs
  all_goals omega

/-- The two loops over the header parameters agree, and the concatenation with
its end fills the block that is allocated for it. -/
def HeadersFill (parser : AtParser) (index : Nat) : Prop :=
  ∀ total, headersTotalLen parser (headerIndices parser index) 0 = some total →
    ∀ memory, ∃ hdr, concatenateHeaders parser index total memory = some (total, hdr) ∧
        hdr.size = (extraHeaders parser index ++ [0]).length ∧
        Stored hdr.contents 0 (extraHeaders parser index ++ [0])

theorem headersFill (index : Nat) : HeadersFill parser index := by
  intro total isTotal memory
  rw [headersTotalLen_eq, headersAt_headerIndices, Nat.zero_add] at isTotal
  split at isTotal
  · cases isTotal
  · cases isTotal
    exact concatenateHeaders_fills index memory

/-- Whatever the parameters of an accepted command are, the request that it
starts has headers that fill their allocation, and a text that fits the buffer
computed for it. -/
theorem acceptedRequest_buildsExactly (ints : parser.GivesInts) {world after : World}
    (accepted : handleAtHttpcreq cfg env modem parser world = some (0, after)) :
    ∃ r req index, after.httpRequests r = some req ∧
      parser.num 1 = .done req.fd ∧ AcceptedRequest parser index req ∧
      HeadersFill parser index ∧ BuildsExactly req := by
  obtain ⟨r, req, index, isRequest, isFd, isAccepted⟩ :=
    handleAtHttpcreq_leaves ints world 0 after accepted rfl
  have small := isAccepted.httpHeadersSize_lt
  exact ⟨r, req, index, isRequest, isFd, isAccepted, headersFill index,
    buildsExactly isAccepted.requestBodyLen (by omega)⟩

/-- `AT#XHTTPCREQ=0,"http://a/",0,1,0,0,"K: v"`. -/
def headerParser : AtParser :=
  { httpcreqParser [0, 0, 0, 1, 0, 0] with
    count := 8
    string := fun index =>
      if index = 2 then
        .done (ascii "http://a/")
      else if index = 7 then
        .done (ascii "K: v")
      else
        .failed ⟨61, enodata_pos⟩ }

theorem headerParser_givesInts : headerParser.GivesInts := by
  intro index value isValue
  have member : value ∈ ([0, 0, 0, 1, 0, 0] : List Int) := by
    unfold headerParser httpcreqParser numbers at isValue
    dsimp only at isValue
    split at isValue
    · rename_i found
      cases isValue
      exact List.mem_of_getElem? found
    · cases isValue
  have small : ∀ value ∈ ([0, 0, 0, 1, 0, 0] : List Int), value ≤ 2147483647 := by decide
  exact small value member

/-- A request with one header. -/
theorem acceptedRequest_buildsExactly_header : ∃ world after,
      WorldReachable plusConfig (sessionEnv 0 consumeAll) (responseModem []) world ∧
      handleAtHttpcreq plusConfig (sessionEnv 0 consumeAll) (responseModem [])
        headerParser world = some (0, after) ∧
      ∃ r req index, after.httpRequests r = some req ∧ headerParser.num 1 = .done req.fd ∧
        AcceptedRequest headerParser index req ∧
        HeadersFill headerParser index ∧ BuildsExactly req := by
  obtain ⟨world, reachable, accepts⟩ := exists_world_run plusConfig
    (sessionEnv 0 consumeAll) (responseModem [])
    (lineActions 0 .xsocket (numbers [1, 1, 0] []))
    (fun world => (handleAtHttpcreq plusConfig (sessionEnv 0 consumeAll)
      (responseModem []) headerParser world).map Prod.fst)
    (some 0) (by decide +kernel)
  obtain ⟨⟨_, after⟩, ran, rfl⟩ := Option.map_eq_some_iff.mp accepts
  exact ⟨world, after, reachable, ran, acceptedRequest_buildsExactly headerParser_givesInts ran⟩

end SerialModem.Socket
