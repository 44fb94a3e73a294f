import SerialModem.Socket.HeaderReading

/-!
# Reading a header block for itself

What `http_headers_complete` derives should depend on the header block, and not
on the body that has come with it nor on the case of its field names.  The
searches of the client see the body, and know two spellings of a name each.  So
the header block alone decides only in few cases, which are stated here for the
three values one by one.
-/

namespace SerialModem.Socket

open Library AtHost List Option

/-- What `http_headers_complete` derives. -/
structure HeaderValues where
  statusCode : Int
  contentLength : Int
  connectionClose : Bool
  deriving DecidableEq

def headerValues (req : HttpRequest) (header body : List Byte) :
    HeaderValues :=
  let read := ({ req with recvBuf := header ++ body } : HttpRequest).readHeaders (header.length - 4)
  ⟨read.statusCode, read.contentLength, read.connectionClose⟩

/-- The header block alone decides, in all spellings of its field names. -/
structure ReadsHeaderAlone (req : HttpRequest) (header : List Byte) : Prop where
  body : ∀ first second, headerValues req header first = headerValues req header second
  spelling : ∀ respelled, Respells header respelled → ∀ body,
    headerValues req respelled body = headerValues req header body

/-- The two numbers of the status line are decided before the header block
ends: neither is looked for behind it. -/
def StatusDecided (header : List Byte) : Prop :=
  ∃ index, FirstAt versionNeedle header index ∧ (header.drop (index + 7)).all isspace = false ∧
    ∀ value rest, scanInt (header.drop (index + 7)) = some (value, rest) → rest.all isspace = false

/-- What the text behind a content length leaves in the request, unless only
blanks follow in the header block. -/
def settledAt (before : Int) (header : List Byte) (start : Nat) : Option Int :=
  if (header.drop (start + 15)).all isspace then
    none
  else
    some (((scanInt (header.drop (start + 15))).map Prod.fst).getD before)

def FirstFixedAt (needle header : List Byte) (start : Nat) : Prop :=
  FixedAt needle header start ∧ ∀ earlier, earlier < start → ¬FixedAt needle header earlier

def LengthFieldAt : List Byte → Nat → Prop :=
  NamedAt (ascii "Content-Length") (ascii ":")

/-- Outside the field names stands `Content-Length:`, and the number behind it
is that of every such field before; or it does not stand there, and neither such
a field nor the lower-case spelling has a number behind it that changes the
request. -/
def LengthSettled (before : Int) (header : List Byte) : Prop :=
  (∃ first value, FirstFixedAt lengthNeedle header first ∧
    settledAt before header first = some value ∧
    ∀ start, start < first → LengthFieldAt header start →
      settledAt before header start = some value) ∨
  ((∀ start, ¬FixedAt lengthNeedle header start) ∧ (∀ start, LengthFieldAt header start →
      settledAt before header start = some before) ∧
    ∀ start, FirstFixedAt lengthLower header start → settledAt before header start = some before)

/-- Outside the field names stands `Connection: close`; or there is no such
field in any spelling, and no lower-case one outside the field names. -/
def ConnectionSettled (header : List Byte) : Prop :=
  (∃ start, FixedAt connectionNeedle header start) ∨
    ∀ start, ¬NamedAt (ascii "Connection") (ascii ": close") header start ∧
      ¬FixedAt connectionLower header start

variable {req : HttpRequest} {header respelled body : List Byte}
variable {before : Int} {start : Nat}

def Constant {Value : Type} (header : List Byte) (derive : List Byte → List Byte → Value) : Prop :=
  ∃ value, ∀ respelled body, Respells header respelled → derive respelled body = value

theorem readsHeaderAlone_iff_constant :
    ReadsHeaderAlone req header ↔ Constant header (headerValues req) := by
  constructor
  · intro reads
    refine ⟨headerValues req header [], ?_⟩
    intro respelled body respells
    rw [reads.spelling respelled respells body, reads.body body []]
  · rintro ⟨value, constant⟩
    have own := fun body => constant header body (Respells.refl header)
    exact
      { body := fun first second => (own first).trans (own second).symm
        spelling := fun respelled respells body =>
          (constant respelled body respells).trans (own body).symm }

def lengthValue (before : Int) (header body : List Byte) : Int :=
  (parseContentLength (header ++ body) (header.length - 4)).getD before

def statusValue (before : Int) (header body : List Byte) : Int :=
  (parseHttpStatusCode (header ++ body)).getD before

def closeValue (header body : List Byte) : Bool :=
  parseConnectionClose (header ++ body) (header.length - 4)

theorem headerValues_eq : headerValues req header body = ⟨statusValue req.statusCode header body,
        lengthValue req.contentLength header body, closeValue header body⟩ :=
  rfl

theorem constant_headerValues_iff : Constant header (headerValues req) ↔
      Constant header (statusValue req.statusCode) ∧
        Constant header (lengthValue req.contentLength) ∧
        Constant header closeValue := by
  constructor
  · rintro ⟨value, constant⟩
    refine ⟨⟨value.statusCode, ?_⟩, ⟨value.contentLength, ?_⟩, ⟨value.connectionClose, ?_⟩⟩
    · intro respelled body respells
      exact congrArg HeaderValues.statusCode (constant respelled body respells)
    · intro respelled body respells
      exact congrArg HeaderValues.contentLength (constant respelled body respells)
    · intro respelled body respells
      exact congrArg HeaderValues.connectionClose (constant respelled body respells)
  · rintro ⟨⟨status, isStatus⟩, ⟨length, isLength⟩, ⟨close, isClose⟩⟩
    refine ⟨⟨status, length, close⟩, ?_⟩
    intro respelled body respells
    rw [headerValues_eq, isStatus respelled body respells,
      isLength respelled body respells, isClose respelled body respells]

variable {needle : List Byte}

theorem occursAt_respelled_of_notLetters (respells : Respells header respelled)
    (notLetters : ∀ byte ∈ needle, isLetter byte = false) :
    OccursAt needle respelled start ↔ OccursAt needle header start := by
  rw [occursAt_iff_getElem?, occursAt_iff_getElem?]
  apply forall₂_congr
  intro offset inside
  exact respells.notLetter (notLetters _ (getElem_mem inside))

theorem IsHeaderBlock.respells (block : IsHeaderBlock header)
    (respells : Respells header respelled) : IsHeaderBlock respelled where
  noNul := by
    intro member
    obtain ⟨index, isNul⟩ := mem_iff_getElem?.mp member
    exact block.noNul (mem_of_getElem? ((respells.notLetter (by decide)).mp isNul))
  ends := by
    have same : ∀ start, OccursAt headerTerminator respelled start ↔
        OccursAt headerTerminator header start :=
      fun _ => occursAt_respelled_of_notLetters respells (by decide +kernel)
    rw [respells.length, FirstAt]
    simp only [same]
    exact block.ends

theorem firstAt_httpVersion_iff (respells : Respells header respelled) :
    FirstAt versionNeedle respelled start ↔ FirstAt versionNeedle header start := by
  rw [FirstAt, FirstAt]
  unfold versionNeedle
  simp only [occursAt_httpVersion_iff respells]

theorem drop_endsLine (block : IsHeaderBlock header) {count : Nat}
    (within : count < header.length) : EndsLine (header.drop count) := by
  apply block.endsLine.of_suffix (drop_suffix _ _)
  intro isNil
  have lengths := congrArg List.length isNil
  rw [length_drop, length_nil] at lengths
  omega

theorem statusValue_of_first (block : IsHeaderBlock header)
    (first : FirstAt versionNeedle header start) :
    statusValue before header body =
      ((scanInt (header.drop (start + 7) ++ cString body)).bind fun result =>
        (scanInt result.2).map Prod.fst).getD before := by
  have isBefore := lt_headerEnd block versionNeedle_inLine first.1
  have inText : FirstAt versionNeedle (cString (header ++ body)) start := by
    rw [cString_append_of_notMem block.noNul]
    exact (firstAt_append_body block versionNeedle_inLine (by omega)).mpr first
  have within : start + 7 ≤ header.length :=
    needles_length.2.2 ▸ first.1.within versionNeedle_inLine.1
  rw [statusValue, parseHttpStatusCode_of_first inText, cString_append_of_notMem block.noNul,
    drop_append_of_le_length within]

/-- What is read behind an index in another spelling. -/
theorem Respells.drop (respells : Respells header respelled) (count : Nat) :
    (respelled.drop count).map AtHost.toupper = (header.drop count).map AtHost.toupper := by
  rw [map_drop, map_drop, respells.map_toupper]

theorem blank_congr {left right : List Byte} (same : left.map toupper = right.map toupper) :
    left.all isspace = right.all isspace := by
  rw [← blank_toupper left, ← blank_toupper right, same]

theorem statusDecided_constant (block : IsHeaderBlock header) (decided : StatusDecided header) :
    Constant header (statusValue before) := by
  obtain ⟨start, first, notBlank, restNotBlank⟩ := decided
  have within : start + 7 ≤ header.length - 4 :=
    within_headerEnd block versionNeedle_inLine first.1
  have isBefore := lt_headerEnd block versionNeedle_inLine first.1
  refine ⟨((scanInt (header.drop (start + 7))).bind fun result =>
    (scanInt result.2).map Prod.fst).getD before, ?_⟩
  intro respelled body respells
  rw [statusValue_of_first (block.respells respells) ((firstAt_httpVersion_iff respells).mpr first)]
  have same := respells.drop (start + 7)
  have shown := (blank_congr same).trans notBlank
  have ends : EndsLine (respelled.drop (start + 7)) :=
    drop_endsLine (block.respells respells) (by
      rw [respells.length]
      omega)
  have results := scanInt_congr same
  rw [scanInt_append ends shown]
  cases version : scanInt (respelled.drop (start + 7)) with
  | none =>
    rw [version, map_none, eq_comm, map_eq_none_iff] at results
    rw [results]
    rfl
  | some result =>
    rw [version, map_some, eq_comm, map_eq_some_iff] at results
    obtain ⟨⟨value, rest⟩, isResult, equal⟩ := results
    have sameRest : result.2.map toupper = rest.map toupper :=
      (congrArg Prod.snd equal).symm
    have restShown :=
      (blank_congr sameRest).trans (restNotBlank value rest isResult)
    rw [isResult, map_some, bind_some, bind_some,
      scanInt_append (scanInt_ends ends shown version) restShown,
      Option.map_map, ← scanInt_value_congr sameRest]
    rfl

theorem Constant.bodies {Value : Type} {derive : List Byte → List Byte → Value}
    (constant : Constant header derive) (first second : List Byte) :
    derive header first = derive header second := by
  obtain ⟨value, isValue⟩ := constant
  rw [isValue header first (Respells.refl header), isValue header second (Respells.refl header)]

def secondNumber (text : List Byte) : Option Int :=
  (scanInt text).bind fun result => (scanInt result.2).map Prod.fst

def statusText (digit : Byte) : List Byte := [49, 32, digit]

theorem secondNumber_statusText : secondNumber (statusText 49) = some 1 ∧
      secondNumber (statusText 50) = some 2 := by
  decide

theorem statusText_clean : 0 ∉ versionNeedle ++ statusText 49 ∧
      0 ∉ versionNeedle ++ statusText 50 := by
  decide

theorem statusValue_of_missing (block : IsHeaderBlock header)
    (missing : ∀ start, ¬FirstAt versionNeedle header start)
    {digit : Byte} (clean : 0 ∉ versionNeedle ++ statusText digit) :
    statusValue before header (versionNeedle ++ statusText digit) =
      (secondNumber (statusText digit)).getD before := by
  have text : cString (header ++ (versionNeedle ++ statusText digit)) =
      header ++ (versionNeedle ++ statusText digit) := by
    rw [cString_append_of_notMem block.noNul, cString_of_notMem clean]
  have first : FirstAt versionNeedle (cString (header ++ (versionNeedle ++ statusText digit)))
      header.length := by
    rw [text]
    refine ⟨⟨statusText digit, by rw [drop_left]⟩, ?_⟩
    intro earlier isEarlier occurs
    have inHeader := (occursAt_append_body block versionNeedle_inLine isEarlier).mp occurs
    obtain ⟨start, isFirst⟩ := exists_firstAt_iff.mpr ⟨earlier, inHeader⟩
    exact missing start isFirst
  have behind : (header ++ (versionNeedle ++ statusText digit)).drop
      (header.length + 7) = statusText digit := by
    rw [← needles_length.2.2, ← drop_drop, drop_left, drop_left]
  rw [statusValue, parseHttpStatusCode_of_first first, text, behind, secondNumber]

theorem constant_statusDecided (block : IsHeaderBlock header)
    (constant : Constant header (statusValue before)) :
    StatusDecided header := by
  obtain ⟨one, two⟩ := secondNumber_statusText
  by_cases found : ∃ start, FirstAt versionNeedle header start
  · obtain ⟨start, first⟩ := found
    have reading : ∀ body, statusValue before header body =
        (secondNumber (header.drop (start + 7) ++ cString body)).getD before :=
      fun _ => statusValue_of_first block first
    have within : start + 7 ≤ header.length - 4 :=
      within_headerEnd block versionNeedle_inLine first.1
    have isBefore := lt_headerEnd block versionNeedle_inLine first.1
    have ends := drop_endsLine block (show start + 7 < header.length by omega)
    have notBlank : (header.drop (start + 7)).all isspace = false := by
      by_contra blank
      rw [Bool.not_eq_false] at blank
      have same := constant.bodies (statusText 49) (statusText 50)
      have cleanOne : cString (statusText 49) = statusText 49 := by decide
      have cleanTwo : cString (statusText 50) = statusText 50 := by decide
      rw [reading, reading, cleanOne, cleanTwo, secondNumber, secondNumber,
        scanInt_of_blank blank, scanInt_of_blank blank, ← secondNumber,
        ← secondNumber, one, two] at same
      exact absurd same (by decide : (1 : Int) ≠ 2)
    refine ⟨start, first, notBlank, ?_⟩
    intro value rest isResult
    by_contra blank
    rw [Bool.not_eq_false] at blank
    have behind : ∀ body, secondNumber (header.drop (start + 7) ++ body) =
        (scanInt body).map Prod.fst := by
      intro body
      rw [secondNumber, scanInt_append ends notBlank, isResult, map_some,
        bind_some, scanInt_of_blank blank]
    have same := constant.bodies [49] [50]
    rw [reading, reading, behind, behind] at same
    exact absurd same (by decide : (1 : Int) ≠ 2)
  · have missing : ∀ start, ¬FirstAt versionNeedle header start :=
      fun start first => found ⟨start, first⟩
    have same := constant.bodies (versionNeedle ++ statusText 49) (versionNeedle ++ statusText 50)
    rw [statusValue_of_missing block missing statusText_clean.1,
      statusValue_of_missing block missing statusText_clean.2, one,
      two] at same
    exact absurd same (by decide : (1 : Int) ≠ 2)

theorem constant_statusValue_iff (block : IsHeaderBlock header) :
    Constant header (statusValue before) ↔ StatusDecided header :=
  ⟨constant_statusDecided block, statusDecided_constant block⟩

theorem field_needles : (IsFieldNeedle (ascii "Connection") (ascii ": close") ∧
        IsFieldNeedle (ascii "connection") (ascii ": close")) ∧
      IsFieldNeedle (ascii "Content-Length") (ascii ":") ∧
      IsFieldNeedle (ascii "content-length") (ascii ":") := by
  decide +kernel

theorem needle_parts : connectionNeedle = ascii "Connection" ++ ascii ": close" ∧
      connectionLower = ascii "connection" ++ ascii ": close" ∧
      lengthNeedle = ascii "Content-Length" ++ ascii ":" ∧
      lengthLower = ascii "content-length" ++ ascii ":" := by
  decide

theorem needles_clean : cString connectionNeedle = connectionNeedle ∧
      cString lengthNeedle = lengthNeedle := by
  decide

theorem needle_spellings : (ascii "connection").map toupper = (ascii "Connection").map toupper ∧
      (ascii "content-length").map toupper = (ascii "Content-Length").map toupper := by
  decide

section Needle

variable {name tail : List Byte}

theorem fixedAt_or_namedAt (isNeedle : IsFieldNeedle name tail)
    (respells : Respells header respelled)
    (occurs : OccursAt (name ++ tail) respelled start) :
    FixedAt (name ++ tail) header start ∨ NamedAt name tail header start := by
  by_cases inName : InFieldName header start
  · exact .inr (namedAt_of_occursAt respells isNeedle occurs inName)
  · exact .inl ⟨(occursAt_respelled_iff respells isNeedle.append_noLineFeed
      inName).mp occurs, inName⟩

theorem FixedAt.occursAt (isNeedle : IsFieldNeedle name tail)
    (fixed : FixedAt (name ++ tail) header start)
    (respells : Respells header respelled) :
    OccursAt (name ++ tail) respelled start :=
  (occursAt_respelled_iff respells isNeedle.append_noLineFeed fixed.2).mpr fixed.1

theorem NamedAt.congr {other : List Byte} (same : name.map toupper = other.map toupper)
    (named : NamedAt name tail header start) :
    NamedAt other tail header start := by
  have lengths := congrArg List.length same
  rw [length_map, length_map] at lengths
  obtain ⟨inName, equal, occurs⟩ := named
  rw [lengths, same] at equal
  rw [lengths] at occurs
  exact ⟨inName, equal, occurs⟩

end Needle

theorem occursAt_body (clean : cString needle = needle) (header : List Byte) :
    OccursAt needle (header ++ cString needle) header.length := by
  rw [clean]
  exact ⟨[], by rw [drop_left, append_nil]⟩

theorem connectionSettled_constant (block : IsHeaderBlock header)
    (settled : ConnectionSettled header) : Constant header closeValue := by
  obtain ⟨needle, lowerNeedle⟩ := field_needles.1
  obtain ⟨parts, lowerParts, -, -⟩ := needle_parts
  by_cases fixed : ∃ start, FixedAt connectionNeedle header start
  · obtain ⟨start, isFixed⟩ := fixed
    refine ⟨true, ?_⟩
    intro respelled body respells
    rw [parts] at isFixed
    have occurs := isFixed.occursAt needle respells
    rw [← parts] at occurs
    exact (parseConnectionClose_iff (block.respells respells)).mpr (.inl ⟨start, occurs⟩)
  · obtain found | nowhere := settled
    · exact absurd found fixed
    · refine ⟨false, ?_⟩
      intro respelled body respells
      rw [← Bool.not_eq_true]
      intro closes
      rcases (parseConnectionClose_iff (block.respells respells)).mp closes with
        ⟨start, occurs⟩ | ⟨-, start, occurs⟩
      · rw [parts] at occurs
        rcases fixedAt_or_namedAt needle respells occurs with isFixed | named
        · exact fixed ⟨start, parts ▸ isFixed⟩
        · exact (nowhere start).1 named
      · rw [lowerParts] at occurs
        rcases fixedAt_or_namedAt lowerNeedle respells occurs with
          isFixed | named
        · exact (nowhere start).2 (lowerParts ▸ isFixed)
        · exact (nowhere start).1 (named.congr needle_spellings.1)

theorem constant_connectionSettled (block : IsHeaderBlock header)
    (constant : Constant header closeValue) : ConnectionSettled header := by
  obtain ⟨needle, lowerNeedle⟩ := field_needles.1
  obtain ⟨parts, lowerParts, -, -⟩ := needle_parts
  obtain ⟨value, isValue⟩ := constant
  by_cases fixed : ∃ start, FixedAt connectionNeedle header start
  · exact .inl fixed
  · right
    have hidden : ∀ start, ¬OccursAt connectionNeedle (capitals header) start := by
      intro start occurs
      rw [parts] at occurs
      exact fixed ⟨start, parts ▸ fixedAt_of_capitals needle occurs⟩
    have capitalBlock := block.respells (respells_capitals header)
    -- The body alone has the needle, and the client has found it there.
    have isFalse : value = false := by
      rw [← isValue (capitals header) connectionNeedle
        (respells_capitals header), ← Bool.not_eq_true]
      intro closes
      rcases (parseConnectionClose_iff capitalBlock).mp closes with
        ⟨start, occurs⟩ | ⟨missing, -⟩
      · exact hidden start occurs
      · exact missing _ (occursAt_body needles_clean.1 (capitals header))
    intro start
    constructor
    · intro named
      have shown := isValue (spellAt (ascii "Connection") start header) [] (respells_spellAt named)
      have closes := (@parseConnectionClose_iff _ [] (block.respells (respells_spellAt named))).mpr
          (.inl ⟨start, parts ▸ occursAt_spellAt needle named⟩)
      rw [isFalse, closeValue, closes] at shown
      cases shown
    · intro isFixed
      have shown := isValue (capitals header) [] (respells_capitals header)
      rw [lowerParts] at isFixed
      have occurs := isFixed.occursAt lowerNeedle (respells_capitals header)
      have closes := (@parseConnectionClose_iff _ [] capitalBlock).mpr (.inr ⟨by
          intro other
          have noBody : cString ([] : List Byte) = [] := rfl
          rw [noBody, append_nil]
          exact hidden other, start, lowerParts ▸ occurs⟩)
      rw [isFalse, closeValue, closes] at shown
      cases shown

theorem constant_closeValue_iff (block : IsHeaderBlock header) :
    Constant header closeValue ↔ ConnectionSettled header :=
  ⟨constant_connectionSettled block, connectionSettled_constant block⟩

def storedAt (before : Int) (header : List Byte) (start : Nat) (body : List Byte) : Int :=
  ((scanInt (header.drop (start + 15) ++ cString body)).map Prod.fst).getD before

theorem lengthValue_of_found {index : Nat} (block : IsHeaderBlock header)
    (found : FirstAt lengthNeedle header index ∨
      ((∀ start, ¬OccursAt lengthNeedle (header ++ cString body) start) ∧
        FirstAt lengthLower header index)) :
    lengthValue before header body = storedAt before header index body := by
  rw [lengthValue, parseContentLength_of_found block found, storedAt]

theorem settledAt_respelled (respells : Respells header respelled) :
    settledAt before respelled start = settledAt before header start := by
  have same := respells.drop (start + 15)
  rw [settledAt, settledAt, blank_congr same, scanInt_value_congr same]

variable {value : Int}

theorem storedAt_of_settled (block : IsHeaderBlock header) (within : start + 15 < header.length)
    (settled : settledAt before header start = some value) :
    storedAt before header start body = value := by
  unfold settledAt at settled
  split at settled
  · cases settled
  · rename_i notBlank
    rw [storedAt, scanInt_append (drop_endsLine block within)
      (Bool.not_eq_true _ ▸ notBlank), Option.map_map]
    exact Option.some.inj settled

theorem settledAt_of_stored (stored : ∀ body : List Byte, body.length ≤ 1 →
      storedAt before header start body = value) :
    settledAt before header start = some value := by
  by_cases blank : (header.drop (start + 15)).all isspace = true
  · have one := stored [49] (Nat.le_refl 1)
    have two := stored [50] (Nat.le_refl 1)
    rw [storedAt, scanInt_of_blank blank] at one two
    exact absurd (one.trans two.symm) (by decide : (1 : Int) ≠ 2)
  · rw [settledAt, if_neg blank, ← stored [] (Nat.zero_le 1), storedAt]
    have noBody : cString ([] : List Byte) = [] := rfl
    rw [noBody, append_nil]

theorem behind_lengthNeedle (block : IsHeaderBlock header)
    (occurs : OccursAt lengthNeedle header start ∨
      OccursAt lengthLower header start) : start + 15 < header.length := by
  obtain ⟨fifteen, alsoFifteen, -⟩ := needles_length
  rcases occurs with occurs | occurs
  · have within := within_headerEnd block lengthNeedle_inLine occurs
    omega
  · have within := within_headerEnd block lengthLower_inLine occurs
    omega

theorem lengthValue_of_settled {index : Nat} (block : IsHeaderBlock header)
    (respells : Respells header respelled)
    (found : FirstAt lengthNeedle respelled index ∨
      ((∀ start, ¬OccursAt lengthNeedle (respelled ++ cString body) start) ∧
        FirstAt lengthLower respelled index))
    (settled : settledAt before header index = some value) :
    lengthValue before respelled body = value := by
  have ownBlock := block.respells respells
  have within := behind_lengthNeedle ownBlock (found.imp And.left fun lower => lower.2.1)
  rw [lengthValue_of_found ownBlock found]
  rw [← settledAt_respelled respells] at settled
  exact storedAt_of_settled ownBlock within settled

theorem lengthSettled_constant (block : IsHeaderBlock header)
    (settled : LengthSettled before header) :
    Constant header (lengthValue before) := by
  obtain ⟨needle, lowerNeedle⟩ := field_needles.2
  obtain ⟨-, -, parts, lowerParts⟩ := needle_parts
  rcases settled with
    ⟨first, value, ⟨fixed, minimal⟩, isSettled, named⟩ | ⟨noFixed, named, lower⟩
  · refine ⟨value, ?_⟩
    intro respelled body respells
    have occurs := (parts ▸ fixed).occursAt needle respells
    rw [← parts] at occurs
    obtain ⟨index, notLater, isFirst⟩ := occurs.exists_first
    apply lengthValue_of_settled block respells (.inl isFirst)
    have here := isFirst.1
    rw [parts] at here
    rcases fixedAt_or_namedAt needle respells here with isFixed | isNamed
    · rcases Nat.lt_or_eq_of_le notLater with earlier | equal
      · exact absurd (parts ▸ isFixed) (minimal index earlier)
      · rw [equal]
        exact isSettled
    · rcases Nat.lt_or_eq_of_le notLater with earlier | equal
      · exact named index earlier isNamed
      · exact absurd (equal ▸ isNamed.1) fixed.2
  · refine ⟨before, ?_⟩
    intro respelled body respells
    have ownBlock := block.respells respells
    by_cases found : ∃ start, OccursAt lengthNeedle respelled start
    · obtain ⟨index, isFirst⟩ := exists_firstAt_iff.mpr found
      apply lengthValue_of_settled block respells (.inl isFirst)
      have here := isFirst.1
      rw [parts] at here
      rcases fixedAt_or_namedAt needle respells here with isFixed | isNamed
      · exact absurd (parts ▸ isFixed) (noFixed index)
      · exact named index isNamed
    · have missing : ∀ start, ¬OccursAt lengthNeedle respelled start :=
        fun start occurs => found ⟨start, occurs⟩
      by_cases hidden : (∃ start, OccursAt lengthNeedle (respelled ++ cString body) start) ∨
          ∀ start, ¬OccursAt lengthLower respelled start
      · rw [lengthValue, parseContentLength_of_missing ownBlock missing hidden]
        rfl
      · rw [not_or, not_exists, not_forall_not] at hidden
        obtain ⟨nowhere, occursLower⟩ := hidden
        obtain ⟨index, isFirst⟩ := exists_firstAt_iff.mpr occursLower
        apply lengthValue_of_settled block respells (.inr ⟨nowhere, isFirst⟩)
        have here := isFirst.1
        rw [lowerParts] at here
        rcases fixedAt_or_namedAt lowerNeedle respells here with
          isFixed | isNamed
        · apply lower index ⟨lowerParts ▸ isFixed, ?_⟩
          intro earlier isEarlier fixed
          have occurs := (lowerParts ▸ fixed).occursAt lowerNeedle respells
          exact isFirst.2 earlier isEarlier (lowerParts ▸ occurs)
        · exact named index (isNamed.congr needle_spellings.2)

theorem FixedAt.exists_first (fixed : FixedAt needle header start) :
    ∃ first, FirstFixedAt needle header first := by
  classical
  have occurring : ∃ index, FixedAt needle header index := ⟨start, fixed⟩
  exact ⟨Nat.find occurring, Nat.find_spec occurring,
    fun earlier isEarlier => Nat.find_min occurring isEarlier⟩

theorem FirstFixedAt.firstAt_capitals {name tail : List Byte} (isNeedle : IsFieldNeedle name tail)
    (isFirst : FirstFixedAt (name ++ tail) header start) :
    FirstAt (name ++ tail) (capitals header) start := by
  refine ⟨isFirst.1.occursAt isNeedle (respells_capitals header), ?_⟩
  intro earlier isEarlier occurs
  exact isFirst.2 earlier isEarlier (fixedAt_of_capitals isNeedle occurs)

/-- With one field spelled as the client knows it, that is the first place,
unless one outside the field names is before it. -/
theorem NamedAt.firstAt_spellAt {name tail : List Byte} (isNeedle : IsFieldNeedle name tail)
    (named : NamedAt name tail header start)
    (notEarlier : ∀ earlier, earlier < start → ¬FixedAt (name ++ tail) header earlier) :
    FirstAt (name ++ tail) (spellAt name start header) start := by
  refine ⟨occursAt_spellAt isNeedle named, ?_⟩
  intro earlier isEarlier occurs
  rcases eq_or_fixedAt_of_spellAt isNeedle named occurs with equal | fixed
  · exact absurd equal (Nat.ne_of_lt isEarlier)
  · exact notEarlier earlier isEarlier fixed

theorem constant_lengthSettled (block : IsHeaderBlock header)
    (constant : Constant header (lengthValue before)) :
    LengthSettled before header := by
  obtain ⟨needle, lowerNeedle⟩ := field_needles.2
  obtain ⟨-, -, parts, lowerParts⟩ := needle_parts
  obtain ⟨value, isValue⟩ := constant
  have capitalRespells := respells_capitals header
  have capitalBlock := block.respells capitalRespells
  -- A field before which the name is nowhere outside the field names.
  have ofNamed : ∀ start, LengthFieldAt header start →
      (∀ earlier, earlier < start → ¬FixedAt lengthNeedle header earlier) →
      settledAt before header start = some value := by
    intro start named notEarlier
    rw [parts] at notEarlier
    have first := named.firstAt_spellAt needle notEarlier
    rw [← parts] at first
    have respells := respells_spellAt named
    rw [← settledAt_respelled respells]
    apply settledAt_of_stored
    intro body _
    rw [← lengthValue_of_found (block.respells respells) (.inl first)]
    exact isValue _ body respells
  by_cases fixed : ∃ start, FixedAt lengthNeedle header start
  · obtain ⟨first, isFirst⟩ := fixed.elim fun _ => FixedAt.exists_first
    refine .inl ⟨first, value, isFirst, ?_, ?_⟩
    · have inCapitals := (parts ▸ isFirst).firstAt_capitals needle
      rw [← parts] at inCapitals
      rw [← settledAt_respelled capitalRespells]
      apply settledAt_of_stored
      intro body _
      rw [← lengthValue_of_found capitalBlock (.inl inCapitals)]
      exact isValue _ body capitalRespells
    · intro start isBefore named
      apply ofNamed start named
      intro earlier isEarlier
      exact isFirst.2 earlier (Nat.lt_trans isEarlier isBefore)
  · have noFixed : ∀ start, ¬FixedAt lengthNeedle header start :=
      fun start isFixed => fixed ⟨start, isFixed⟩
    have hidden : ∀ start, ¬OccursAt lengthNeedle (capitals header) start := by
      intro start occurs
      rw [parts] at occurs
      exact noFixed start (parts ▸ fixedAt_of_capitals needle occurs)
    -- The body alone has the needle, and the client has found it there.
    have isBefore : value = before := by
      rw [← isValue (capitals header) lengthNeedle capitalRespells,
        lengthValue, parseContentLength_of_missing capitalBlock hidden
          (.inl ⟨_, occursAt_body needles_clean.2 _⟩)]
      rfl
    subst isBefore
    refine .inr ⟨noFixed, ?_, ?_⟩
    · intro start named
      exact ofNamed start named fun earlier _ => noFixed earlier
    · intro start isFirst
      have inCapitals := (lowerParts ▸ isFirst).firstAt_capitals lowerNeedle
      rw [← lowerParts] at inCapitals
      rw [← settledAt_respelled capitalRespells]
      apply settledAt_of_stored
      intro body short
      have missing : ∀ other, ¬OccursAt lengthNeedle (capitals header ++ cString body) other := by
        intro other occurs
        rcases Nat.lt_or_ge other (capitals header).length with inside | behind
        · exact hidden other
            ((occursAt_append_body capitalBlock lengthNeedle_inLine inside).mp occurs)
        · have within := occurs.within lengthNeedle_inLine.1
          have shorter := length_cString_le body
          have fifteen := needles_length.1
          rw [length_append] at within
          omega
      rw [← lengthValue_of_found capitalBlock (.inr ⟨missing, inCapitals⟩)]
      exact isValue _ body capitalRespells

theorem constant_lengthValue_iff (block : IsHeaderBlock header) :
    Constant header (lengthValue before) ↔ LengthSettled before header :=
  ⟨constant_lengthSettled block, lengthSettled_constant block⟩

theorem occursAt_toupper {needle upper : List Byte} (spelled : upper <+: needle.map toupper)
    (occurs : OccursAt needle header start) : OccursAt upper (header.map toupper) start := by
  rw [OccursAt, ← map_drop]
  exact spelled.trans (occurs.map toupper)

theorem occursAt_of_named {name tail : List Byte} (named : NamedAt name tail header start) :
    OccursAt (name.map toupper) (header.map toupper) start := by
  rw [OccursAt, ← map_drop, ← named.2.1, map_take]
  exact take_prefix _ _

/-- Neither name stands in the header block in any spelling. -/
theorem settled_of_unnamed
    (noLength : ∀ start, ¬OccursAt (ascii "CONTENT-LENGTH") (header.map toupper) start)
    (noConnection : ∀ start, ¬OccursAt (ascii "CONNECTION") (header.map toupper) start) :
    LengthSettled before header ∧ ConnectionSettled header := by
  obtain ⟨inLength, inLower, inConnection⟩ : ascii "CONTENT-LENGTH" <+: lengthNeedle.map toupper ∧
        ascii "CONTENT-LENGTH" <+: lengthLower.map toupper ∧
        ascii "CONNECTION" <+: connectionLower.map toupper := by
    decide
  refine ⟨.inr ⟨?_, ?_, ?_⟩, .inr ?_⟩
  · exact fun start isFixed => noLength start (occursAt_toupper inLength isFixed.1)
  · exact fun start named => absurd (occursAt_of_named named) (noLength start)
  · exact fun start isFirst => absurd (occursAt_toupper inLower isFirst.1.1) (noLength start)
  · intro start
    constructor
    · exact fun named => noConnection start (occursAt_of_named named)
    · exact fun isFixed => noConnection start (occursAt_toupper inConnection isFixed.1)

def statusAnd (field : String) : List Byte :=
  ascii ("HTTP/1.1 200 OK\r\n" ++ field ++ "\r\n\r\n")

/-- A header block is read for itself exactly if its status line is complete,
and neither a content length nor a closed connection is left to the search. -/
theorem readsHeaderAlone_iff (block : IsHeaderBlock header) : ReadsHeaderAlone req header ↔
      StatusDecided header ∧ LengthSettled req.contentLength header ∧ ConnectionSettled header := by
  rw [readsHeaderAlone_iff_constant, constant_headerValues_iff,
    constant_statusValue_iff block, constant_lengthValue_iff block,
    constant_closeValue_iff block]

/-- The client looks for neither name in the field. -/
theorem readsHeaderAlone_contentType : ReadsHeaderAlone { pipe := none }
      (statusAnd "Content-Type: text/plain") := by
  obtain ⟨block, noLength, noConnection, first, notBlank, status⟩ :
      IsHeaderBlock (statusAnd "Content-Type: text/plain") ∧
        strstr ((statusAnd "Content-Type: text/plain").map toupper)
          (ascii "CONTENT-LENGTH") = none ∧
        strstr ((statusAnd "Content-Type: text/plain").map toupper) (ascii "CONNECTION") = none ∧
        FirstAt versionNeedle (statusAnd "Content-Type: text/plain") 0 ∧
        ((statusAnd "Content-Type: text/plain").drop (0 + 7)).all isspace = false ∧
        (scanInt ((statusAnd "Content-Type: text/plain").drop (0 + 7))).map
          (fun version => version.2.all isspace) = some false := by
    decide
  rw [strstr_eq_none_iff (by decide)] at noLength noConnection
  apply (readsHeaderAlone_iff block).mpr
  refine ⟨⟨0, first, notBlank, ?_⟩, settled_of_unnamed noLength noConnection⟩
  intro value rest isResult
  rw [isResult] at status
  exact some_inj.mp status

/-- The lower-case spelling is looked for only if the body does not have the
other one, and a third spelling is not looked for. -/
theorem contentLength_of_body_and_spelling : IsHeaderBlock (statusAnd "content-length: 5") ∧
      ¬ReadsHeaderAlone { pipe := none } (statusAnd "content-length: 5") ∧
      headerValues { pipe := none } (statusAnd "content-length: 5") [] = ⟨200, 5, false⟩ ∧
      headerValues { pipe := none } (statusAnd "content-length: 5")
        (ascii "Content-Length:") = ⟨200, -1, false⟩ ∧
      Respells (statusAnd "content-length: 5") (statusAnd "CONTENT-LENGTH: 5") ∧
      headerValues { pipe := none } (statusAnd "CONTENT-LENGTH: 5") [] = ⟨200, -1, false⟩ := by
  obtain ⟨block, alone, hidden, respelled⟩ : IsHeaderBlock (statusAnd "content-length: 5") ∧
        headerValues { pipe := none } (statusAnd "content-length: 5") [] = ⟨200, 5, false⟩ ∧
        headerValues { pipe := none } (statusAnd "content-length: 5")
          (ascii "Content-Length:") = ⟨200, -1, false⟩ ∧
        headerValues { pipe := none } (statusAnd "CONTENT-LENGTH: 5") [] = ⟨200, -1, false⟩ := by
    decide
  refine ⟨block, ?_, alone, hidden, ?_, respelled⟩
  · intro reads
    have same := reads.body [] (ascii "Content-Length:")
    rw [alone, hidden] at same
    cases same
  obtain ⟨spellings, tchars, lengths, lineEnd, colon⟩ :
      (∀ index < (statusAnd "content-length: 5").length,
        (statusAnd "CONTENT-LENGTH: 5")[index]? = (statusAnd "content-length: 5")[index]? ∨
          (17 ≤ index ∧ index < 31 ∧ ((statusAnd "CONTENT-LENGTH: 5")[index]?).map toupper =
              ((statusAnd "content-length: 5")[index]?).map toupper)) ∧
        (∀ inside < 31, 17 ≤ inside →
          ((statusAnd "content-length: 5")[inside]?).any isTchar = true) ∧
        (statusAnd "CONTENT-LENGTH: 5").length = (statusAnd "content-length: 5").length ∧
        OccursAt crlfStr (statusAnd "content-length: 5") 15 ∧
        (statusAnd "content-length: 5")[31]? = some 58 := by
    decide
  intro index
  rcases Nat.lt_or_ge index (statusAnd "content-length: 5").length with
    inside | behind
  · rcases spellings index inside with same | ⟨after, isBefore, sameLetter⟩
    · exact .inl same
    · refine .inr ⟨⟨15, 31, lineEnd, after, isBefore, colon, ?_⟩, sameLetter⟩
      intro other isAfter isEarlier
      exact (Option.any_eq_true _ _).mp (tchars other isEarlier isAfter)
  · have alsoBehind : (statusAnd "CONTENT-LENGTH: 5").length ≤ index := by
      rw [lengths]
      exact behind
    left
    rw [getElem?_eq_none behind, getElem?_eq_none alsoBehind]

end SerialModem.Socket
