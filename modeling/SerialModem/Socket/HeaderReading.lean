import SerialModem.Socket.HeaderSpelling
import SerialModem.Socket.Strings

/-!
# What the client reads of a header block

The client searches the string of the whole buffer, header block and body, for
a needle in two spellings, and compares what it has found with the end of the
header.  `scanInt` reads on through blanks; behind a field without a value it
leaves the header block.
-/

namespace SerialModem.Socket

open Library AtHost List

variable {text more header body needle other : List Byte} {start : Nat}

def EndsLine (text : List Byte) : Prop := text.getLast? = some 10

theorem EndsLine.of_suffix {suffix : List Byte} (ends : EndsLine text)
    (isSuffix : suffix <:+ text) (nonempty : suffix ≠ []) : EndsLine suffix := by
  obtain ⟨front, rfl⟩ := isSuffix
  unfold EndsLine at ends
  rwa [getLast?_append_of_ne_nil _ nonempty] at ends

theorem while_append {test : Byte → Bool} (stops : test 10 = false) (ends : EndsLine text) :
    (text ++ more).takeWhile test = text.takeWhile test ∧
      (text ++ more).dropWhile test = text.dropWhile test ++ more ∧
      EndsLine (text.dropWhile test) := by
  have member : 10 ∈ text := mem_of_getLast? ends
  have left : text.dropWhile test ≠ [] := by
    intro isNil
    have all := dropWhile_eq_nil_iff.mp isNil 10 member
    rw [stops] at all
    cases all
  have partly : (text.takeWhile test).length ≠ text.length := by
    intro whole
    apply left
    have lengths := congrArg List.length (@List.takeWhile_append_dropWhile _ test text)
    rw [length_append] at lengths
    exact length_eq_zero_iff.mp (by omega)
  refine ⟨?_, ?_, ends.of_suffix (dropWhile_suffix _) left⟩
  · rw [takeWhile_append, if_neg partly]
  · rw [dropWhile_append, if_neg]
    rw [List.isEmpty_iff]
    exact left

theorem dropWhile_append_of_not_all {test : Byte → Bool} (notAll : text.all test = false) :
    (text ++ more).dropWhile test = text.dropWhile test ++ more ∧ text.dropWhile test ≠ [] := by
  have left : text.dropWhile test ≠ [] := by
    intro isNil
    have all := List.all_eq_true.mpr (dropWhile_eq_nil_iff.mp isNil)
    rw [notAll] at all
    cases all
  refine ⟨?_, left⟩
  rw [dropWhile_append, if_neg]
  rw [List.isEmpty_iff]
  exact left

theorem dropWhile_of_all {test : Byte → Bool} (all : text.all test = true) :
    (text ++ more).dropWhile test = more.dropWhile test := by
  have isNil : text.dropWhile test = [] :=
    dropWhile_eq_nil_iff.mpr (List.all_eq_true.mp all)
  rw [dropWhile_append, isNil]
  rfl

theorem scanInt_of_blank (blank : text.all isspace = true) :
    scanInt (text ++ more) = scanInt more := by
  unfold scanInt
  rw [dropWhile_of_all blank]

/-- The end of `scanInt`, behind the sign. -/
def numberOf (negative : Bool) (unsigned : List Byte) : Option (Int × List Byte) :=
  let digits := unsigned.takeWhile isdigit
  if digits = [] then
    none
  else
    let value : Int := digitsValue digits
    some (clampInt (if negative then -value else value), unsigned.dropWhile isdigit)

def unsignedOf (text : List Byte) : List Byte :=
  if text.head? == some 45 || text.head? == some 43 then text.tail else text

theorem scanInt_eq (text : List Byte) : scanInt text =
      numberOf ((text.dropWhile isspace).head? == some 45) (unsignedOf (text.dropWhile isspace)) :=
  rfl

theorem numberOf_append {negative : Bool} (ends : EndsLine text) :
    numberOf negative (text ++ more) = (numberOf negative text).map fun result =>
        (result.1, result.2 ++ more) := by
  obtain ⟨digits, dropped, -⟩ :=
    @while_append text more isdigit (by decide) ends
  unfold numberOf
  rw [digits, dropped]
  dsimp only
  split
  · rfl
  · rfl

theorem numberOf_ends {negative : Bool} {value : Int} {rest : List Byte}
    (ends : EndsLine text) (found : numberOf negative text = some (value, rest)) :
    EndsLine rest := by
  unfold numberOf at found
  dsimp only at found
  split at found
  · cases found
  · obtain ⟨-, rfl⟩ := Prod.mk.inj (Option.some.inj found)
    exact (@while_append text [] isdigit (by decide) ends).2.2

theorem unsignedOf_ends (ends : EndsLine text) (notBlank : text.all isspace = false) :
    EndsLine (unsignedOf (text.dropWhile isspace)) ∧
      (text ++ more).dropWhile isspace = text.dropWhile isspace ++ more ∧
      unsignedOf (text.dropWhile isspace ++ more) = unsignedOf (text.dropWhile isspace) ++ more ∧
      (text.dropWhile isspace ++ more).head? = (text.dropWhile isspace).head? := by
  obtain ⟨dropped, left⟩ := @dropWhile_append_of_not_all text more _ notBlank
  have endsLeft := ends.of_suffix (dropWhile_suffix _) left
  have shown := head?_dropWhile_not isspace text
  generalize text.dropWhile isspace = number at left endsLeft shown dropped
  obtain ⟨first, rest, rfl⟩ := exists_cons_of_ne_nil left
  have endsRest : EndsLine rest := by
    apply endsLeft.of_suffix (suffix_cons _ _)
    rintro rfl
    have isFeed : first = 10 := Option.some.inj endsLeft
    have notSpace : isspace first = false := shown
    rw [isFeed] at notSpace
    exact absurd notSpace (by decide)
  refine ⟨?_, dropped, ?_, rfl⟩
  · unfold unsignedOf
    split
    · exact endsRest
    · exact endsLeft
  · unfold unsignedOf
    rw [cons_append, head?_cons, head?_cons]
    split
    · rfl
    · rfl

theorem scanInt_append (ends : EndsLine text)
    (notBlank : text.all isspace = false) (more : List Byte) :
    scanInt (text ++ more) = (scanInt text).map fun result => (result.1, result.2 ++ more) := by
  obtain ⟨endsUnsigned, dropped, unsigned, head⟩ :=
    @unsignedOf_ends text more ends notBlank
  rw [scanInt_eq, scanInt_eq, dropped, unsigned, head, numberOf_append endsUnsigned]

theorem scanInt_ends {value : Int} {rest : List Byte} (ends : EndsLine text)
    (notBlank : text.all isspace = false)
    (found : scanInt text = some (value, rest)) : EndsLine rest := by
  rw [scanInt_eq] at found
  exact numberOf_ends (@unsignedOf_ends text [] ends notBlank).1 found

/-- `while (*value_start == ' ')` skips what `scanInt` would skip. -/
theorem scanInt_dropWhile_space (text : List Byte) :
    scanInt (text.dropWhile fun byte => byte == 32) = scanInt text := by
  have same : (text.dropWhile fun byte => byte == 32).dropWhile isspace =
      text.dropWhile isspace := by
    induction text with
    | nil => rfl
    | cons first rest ih =>
      rw [dropWhile_cons]
      split
      · rename_i isSpace
        rw [ih, dropWhile_cons_of_pos]
        rw [beq_iff_eq.mp isSpace]
        decide
      · rfl
  rw [scanInt_eq, scanInt_eq, same]

theorem isspace_of_isLetter {letter : Byte} (isLetter : isLetter letter = true) :
    isspace letter = false := by
  have notSpace : letter ≠ 32 := by
    rintro rfl
    exact absurd isLetter (by decide)
  rw [isLetter_eq_true_iff] at isLetter
  unfold isspace
  grind [UInt8.le_iff_toNat_le]

theorem isdigit_of_isLetter {letter : Byte} (isLetter : isLetter letter = true) :
    isdigit letter = false := by
  rw [isLetter_eq_true_iff] at isLetter
  unfold isdigit
  grind [UInt8.le_iff_toNat_le]

theorem isspace_toupper (byte : Byte) : isspace (toupper byte) = isspace byte :=
  apply_eq_of_toupper (fun _ => isspace_of_isLetter) (toupper_toupper byte)

theorem isdigit_toupper (byte : Byte) : isdigit (toupper byte) = isdigit byte :=
  apply_eq_of_toupper (fun _ => isdigit_of_isLetter) (toupper_toupper byte)

theorem toupper_of_notLetter {byte : Byte} (notLetter : isLetter byte = false) :
    toupper byte = byte :=
  (eq_of_toupper (toupper_toupper byte).symm notLetter).symm

theorem dropWhile_toupper {test : Byte → Bool}
    (same : ∀ byte, test (toupper byte) = test byte) (text : List Byte) :
    (text.map toupper).dropWhile test = (text.dropWhile test).map toupper := by
  rw [dropWhile_map]
  congr 2
  exact funext same

theorem takeWhile_isdigit_toupper (text : List Byte) :
    (text.map toupper).takeWhile isdigit = text.takeWhile isdigit := by
  have same : isdigit ∘ toupper = isdigit := funext isdigit_toupper
  have kept : ∀ byte ∈ text.takeWhile isdigit, toupper byte = byte := by
    intro byte member
    apply toupper_of_notLetter
    have digit := mem_takeWhile_imp member
    by_contra letter
    rw [isdigit_of_isLetter (Bool.not_eq_false _ ▸ letter)] at digit
    cases digit
  rw [takeWhile_map, same, map_congr_left kept, List.map_id']

theorem numberOf_toupper (negative : Bool) (text : List Byte) :
    numberOf negative (text.map toupper) = (numberOf negative text).map fun result =>
        (result.1, result.2.map toupper) := by
  unfold numberOf
  rw [takeWhile_isdigit_toupper, dropWhile_toupper isdigit_toupper]
  dsimp only
  split
  · rfl
  · rfl

theorem head_toupper_beq {sign : Byte} (notLetter : isLetter sign = false) (text : List Byte) :
    ((text.map toupper).head? == some sign) = (text.head? == some sign) := by
  cases text with
  | nil => rfl
  | cons first rest =>
    rw [map_cons, head?_cons, head?_cons, Bool.eq_iff_iff,
      beq_iff_eq, beq_iff_eq, Option.some_inj, Option.some_inj]
    constructor
    · intro equal
      refine (eq_of_toupper ?_ notLetter).symm
      rw [← equal, toupper_toupper]
    · rintro rfl
      exact toupper_of_notLetter notLetter

theorem unsignedOf_toupper (text : List Byte) :
    unsignedOf (text.map toupper) = (unsignedOf text).map toupper := by
  unfold unsignedOf
  rw [head_toupper_beq (by decide), head_toupper_beq (by decide)]
  split
  · exact map_tail.symm
  · rfl

theorem scanInt_toupper (text : List Byte) : scanInt (text.map toupper) =
      (scanInt text).map fun result => (result.1, result.2.map toupper) := by
  rw [scanInt_eq, scanInt_eq, dropWhile_toupper isspace_toupper,
    head_toupper_beq (by decide), unsignedOf_toupper, numberOf_toupper]

theorem scanInt_congr {left right : List Byte} (same : left.map toupper = right.map toupper) :
    (scanInt left).map (fun result => (result.1, result.2.map toupper)) =
      (scanInt right).map fun result => (result.1, result.2.map toupper) := by
  rw [← scanInt_toupper, ← scanInt_toupper, same]

theorem scanInt_value_congr {left right : List Byte} (same : left.map toupper = right.map toupper) :
    (scanInt left).map Prod.fst = (scanInt right).map Prod.fst := by
  have results := congrArg (Option.map Prod.fst) (scanInt_congr same)
  rwa [Option.map_map, Option.map_map] at results

theorem blank_toupper (text : List Byte) : (text.map toupper).all isspace = text.all isspace := by
  rw [List.all_map]
  congr 1
  exact funext isspace_toupper

/-- The first blank line of the text is its end. -/
structure IsHeaderBlock (header : List Byte) : Prop where
  noNul : 0 ∉ header
  ends : FirstAt headerTerminator header (header.length - 4)

instance : Decidable (IsHeaderBlock header) :=
  decidable_of_iff (0 ∉ header ∧ FirstAt headerTerminator header (header.length - 4))
    ⟨fun ⟨noNul, ends⟩ => ⟨noNul, ends⟩, fun block => ⟨block.noNul, block.ends⟩⟩

theorem IsHeaderBlock.eq_append (block : IsHeaderBlock header) :
    header = header.take (header.length - 4) ++ headerTerminator := by
  have within := block.ends.1.within (by decide)
  obtain ⟨rest, isDrop⟩ := block.ends.1
  have lengths := congrArg List.length isDrop
  rw [length_append, length_drop] at lengths
  have four : headerTerminator.length = 4 := rfl
  have isNil : rest = [] := length_eq_zero_iff.mp (by omega)
  rw [isNil, append_nil] at isDrop
  rw [isDrop, take_append_drop]

theorem IsHeaderBlock.endsLine (block : IsHeaderBlock header) : EndsLine header := by
  rw [block.eq_append]
  exact getLast?_append_of_ne_nil _ (by decide)

def InLine (needle : List Byte) : Prop :=
  needle ≠ [] ∧ 13 ∉ needle ∧ 10 ∉ needle

instance : Decidable (InLine needle) :=
  inferInstanceAs (Decidable (_ ∧ _))

theorem occursAt_append_body (block : IsHeaderBlock header)
    (inLine : InLine needle) (before : start < header.length) :
    OccursAt needle (header ++ body) start ↔ OccursAt needle header start := by
  have inHeader : start + needle.length ≤ header.length →
      (OccursAt needle (header ++ body) start ↔ OccursAt needle header start) := by
    intro within
    have cut := @occursAt_take_iff _ needle (header ++ body) start _ within
    rw [take_left] at cut
    exact cut.symm
  constructor
  · intro occurs
    refine (inHeader ?_).mp occurs
    by_contra leaves
    have last : header[header.length - 1]? = some 10 := by
      rw [← List.getLast?_eq_getElem?]
      exact block.endsLine
    have inside : header.length - 1 - start < needle.length := by omega
    have here := occursAt_iff_getElem?.mp occurs _ inside
    rw [show start + (header.length - 1 - start) = header.length - 1 by omega,
      getElem?_append_left (by omega), last] at here
    exact inLine.2.2 (Option.some.inj here ▸ getElem_mem inside)
  · intro occurs
    exact (inHeader (occurs.within inLine.1)).mpr occurs

theorem within_headerEnd (block : IsHeaderBlock header)
    (inLine : InLine needle) (occurs : OccursAt needle header start) :
    start + needle.length ≤ header.length - 4 := by
  by_contra behind
  have positive := length_pos_iff.mpr inLine.1
  have within := occurs.within inLine.1
  have inside : needle.length - 1 < needle.length := by omega
  have last := occursAt_iff_getElem?.mp occurs _ inside
  rw [block.eq_append, getElem?_append_right (by
    rw [length_take]
    omega)] at last
  have member := mem_of_getElem? last
  have isEnd : ∀ byte ∈ headerTerminator, byte = 13 ∨ byte = 10 := by
    decide +kernel
  rcases isEnd _ member with isReturn | isFeed
  · exact inLine.2.1 (isReturn ▸ getElem_mem inside)
  · exact inLine.2.2 (isFeed ▸ getElem_mem inside)

theorem lt_headerEnd (block : IsHeaderBlock header) (inLine : InLine needle)
    (occurs : OccursAt needle header start) : start < header.length - 4 := by
  have within := within_headerEnd block inLine occurs
  have positive := length_pos_iff.mpr inLine.1
  omega

theorem firstAt_append_body (block : IsHeaderBlock header)
    (inLine : InLine needle) (before : start < header.length) :
    FirstAt needle (header ++ body) start ↔ FirstAt needle header start := by
  rw [FirstAt, FirstAt, occursAt_append_body block inLine before]
  apply and_congr_right
  intro _
  apply forall₂_congr
  intro earlier isEarlier
  rw [occursAt_append_body block inLine (Nat.lt_trans isEarlier before)]

variable {index : Nat}

/-- What is found before the end of the header, with a second spelling tried
where the first is nowhere in the string. -/
theorem search_before_iff (block : IsHeaderBlock header)
    (inLine : InLine needle) (otherInLine : InLine other) :
    ((strstr (header ++ body) needle).orElse fun _ =>
        strstr (header ++ body) other) = some index ∧
        index < header.length - 4 ↔
      FirstAt needle header index ∨ ((∀ start, ¬OccursAt needle (header ++ body) start) ∧
          FirstAt other header index) := by
  cases found : strstr (header ++ body) needle with
  | some first =>
    have isFirst := (strstr_eq_some_iff inLine.1).mp found
    constructor
    · rintro ⟨equal, before⟩
      cases equal
      exact .inl ((firstAt_append_body block inLine (by omega)).mp isFirst)
    · rintro (inHeader | ⟨missing, -⟩)
      · have before := lt_headerEnd block inLine inHeader.1
        have inText := (@firstAt_append_body header body _ _ block inLine (by omega)).mpr inHeader
        rw [← strstr_eq_some_iff inLine.1, found] at inText
        exact ⟨inText, before⟩
      · exact absurd isFirst.1 (missing first)
  | none =>
    have missing := (strstr_eq_none_iff inLine.1).mp found
    rw [Option.orElse_none, strstr_eq_some_iff otherInLine.1]
    constructor
    · rintro ⟨isFirst, before⟩
      exact .inr ⟨missing, (firstAt_append_body block otherInLine (by omega)).mp isFirst⟩
    · rintro (inHeader | ⟨-, isFirst⟩)
      · have before := lt_headerEnd block inLine inHeader.1
        exact absurd ((occursAt_append_body block inLine (by omega)).mpr inHeader.1) (missing index)
      · have before := lt_headerEnd block otherInLine isFirst.1
        exact ⟨(firstAt_append_body block otherInLine (by omega)).mpr isFirst, before⟩

def connectionNeedle : List Byte := ascii "Connection: close"

def connectionLower : List Byte := ascii "connection: close"

def lengthNeedle : List Byte := ascii "Content-Length:"

def lengthLower : List Byte := ascii "content-length:"

def versionNeedle : List Byte := ascii "HTTP/1."

theorem needles_inLine : (InLine connectionNeedle ∧ InLine connectionLower) ∧
      (InLine lengthNeedle ∧ InLine lengthLower) ∧ InLine versionNeedle := by
  decide

theorem connectionNeedle_inLine : InLine connectionNeedle :=
  needles_inLine.1.1

theorem connectionLower_inLine : InLine connectionLower :=
  needles_inLine.1.2

theorem lengthNeedle_inLine : InLine lengthNeedle := needles_inLine.2.1.1

theorem lengthLower_inLine : InLine lengthLower := needles_inLine.2.1.2

theorem versionNeedle_inLine : InLine versionNeedle := needles_inLine.2.2

theorem needles_length : lengthNeedle.length = 15 ∧ lengthLower.length = 15 ∧
      versionNeedle.length = 7 := by
  decide

theorem exists_firstAt_iff : (∃ start, FirstAt needle header start) ↔
      ∃ start, OccursAt needle header start := by
  constructor
  · rintro ⟨start, isFirst⟩
    exact ⟨start, isFirst.1⟩
  · rintro ⟨start, occurs⟩
    obtain ⟨first, -, isFirst⟩ := occurs.exists_first
    exact ⟨first, isFirst⟩

theorem parseConnectionClose_iff (block : IsHeaderBlock header) :
    parseConnectionClose (header ++ body) (header.length - 4) = true ↔
      (∃ start, OccursAt connectionNeedle header start) ∨
        ((∀ start, ¬OccursAt connectionNeedle (header ++ cString body) start) ∧
          ∃ start, OccursAt connectionLower header start) := by
  unfold parseConnectionClose
  rw [cString_append_of_notMem block.noNul, Option.any_eq_true]
  simp only [decide_eq_true_eq]
  refine (exists_congr fun index => search_before_iff block
    connectionNeedle_inLine connectionLower_inLine).trans ?_
  rw [exists_or, exists_and_left, exists_firstAt_iff, exists_firstAt_iff]

theorem parseContentLength_of_found (block : IsHeaderBlock header)
    (found : FirstAt lengthNeedle header index ∨
      ((∀ start, ¬OccursAt lengthNeedle (header ++ cString body) start) ∧
        FirstAt lengthLower header index)) :
    parseContentLength (header ++ body) (header.length - 4) =
      (scanInt (header.drop (index + 15) ++ cString body)).map Prod.fst := by
  obtain ⟨fifteen, alsoFifteen, -⟩ := needles_length
  have within : index + 15 ≤ header.length := by
    rcases found with first | ⟨-, first⟩
    · exact fifteen ▸ first.1.within lengthNeedle_inLine.1
    · exact alsoFifteen ▸ first.1.within lengthLower_inLine.1
  obtain ⟨isFound, before⟩ :=
    (search_before_iff block lengthNeedle_inLine lengthLower_inLine).mpr found
  unfold lengthNeedle at isFound fifteen
  unfold lengthLower at isFound
  unfold parseContentLength
  rw [cString_append_of_notMem block.noNul]
  dsimp only
  rw [isFound]
  dsimp only
  rw [if_neg (Nat.not_le.mpr before), scanInt_dropWhile_space, fifteen,
    drop_append_of_le_length within]

theorem parseContentLength_of_missing (block : IsHeaderBlock header)
    (missing : ∀ start, ¬OccursAt lengthNeedle header start)
    (hidden : (∃ start, OccursAt lengthNeedle (header ++ cString body) start) ∨
      ∀ start, ¬OccursAt lengthLower header start) :
    parseContentLength (header ++ body) (header.length - 4) = none := by
  have nowhere : ∀ index, ¬(FirstAt lengthNeedle header index ∨
      ((∀ start, ¬OccursAt lengthNeedle (header ++ cString body) start) ∧
        FirstAt lengthLower header index)) := by
    rintro index (first | ⟨notInText, first⟩)
    · exact missing index first.1
    · rcases hidden with ⟨start, occurs⟩ | notInHeader
      · exact notInText start occurs
      · exact notInHeader index first.1
  unfold parseContentLength
  rw [cString_append_of_notMem block.noNul]
  dsimp only
  cases found : (strstr (header ++ cString body) (ascii "Content-Length:")).orElse
      fun _ => strstr (header ++ cString body) (ascii "content-length:") with
  | none => rfl
  | some index =>
    dsimp only
    rw [if_pos]
    by_contra before
    exact nowhere index ((search_before_iff block lengthNeedle_inLine
      lengthLower_inLine).mp ⟨found, Nat.not_le.mp before⟩)

theorem parseHttpStatusCode_of_first {text : List Byte}
    (first : FirstAt versionNeedle (cString text) index) :
    parseHttpStatusCode text = (scanInt ((cString text).drop (index + 7))).bind fun result =>
        (scanInt result.2).map Prod.fst := by
  obtain ⟨-, -, seven⟩ := needles_length
  have found := (strstr_eq_some_iff versionNeedle_inLine.1).mpr first
  unfold versionNeedle at found seven
  unfold parseHttpStatusCode
  dsimp only
  rw [found, seven]
  dsimp only
  cases scanInt ((cString text).drop (index + 7)) with
  | none | some result => rfl

end SerialModem.Socket
