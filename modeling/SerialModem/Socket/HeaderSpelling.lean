import SerialModem.Library.Occurrence
import SerialModem.Socket.Http

/-!
# Spellings of a header block

A field name is a run of token characters from the start of a line to a colon.
The letters of the field names may be in either case.  A needle of the client
that contains no line feed stands either outside the field names, in all
spellings alike, or with its first character in one.
-/

namespace SerialModem.Socket

open Library AtHost List Option

def isLetter (byte : Byte) : Bool :=
  (65 ≤ byte && byte ≤ 90) || (97 ≤ byte && byte ≤ 122)

def isTchar (byte : Byte) : Bool :=
  isLetter byte || isdigit byte || (ascii "!#$%&'*+-.^_`|~").contains byte

theorem toNat_toupper (byte : Byte) : (toupper byte).toNat =
      if 97 ≤ byte.toNat ∧ byte.toNat ≤ 122 then byte.toNat - 32
      else byte.toNat := by
  unfold toupper
  split
  · rename_i isLower
    rw [UInt8.le_iff_toNat_le, UInt8.le_iff_toNat_le] at isLower
    have small : 97 ≤ byte.toNat ∧ byte.toNat ≤ 122 := isLower
    rw [if_pos small]
    apply UInt8.toNat_sub_of_le
    rw [UInt8.le_iff_toNat_le]
    exact Nat.le_trans (by decide) isLower.1
  · rename_i notLower
    rw [UInt8.le_iff_toNat_le, UInt8.le_iff_toNat_le] at notLower
    have other : ¬(97 ≤ byte.toNat ∧ byte.toNat ≤ 122) := notLower
    rw [if_neg other]

theorem isLetter_eq_true_iff (byte : Byte) : isLetter byte = true ↔
      (65 ≤ byte.toNat ∧ byte.toNat ≤ 90) ∨ (97 ≤ byte.toNat ∧ byte.toNat ≤ 122) := by
  unfold isLetter
  simp only [Bool.or_eq_true, Bool.and_eq_true, decide_eq_true_eq, UInt8.le_iff_toNat_le]
  rfl

variable {left right : Byte}

theorem isLetter_of_ne (same : toupper left = toupper right) (different : left ≠ right) :
    isLetter left = true := by
  have equal := congrArg UInt8.toNat same
  have notEqual : left.toNat ≠ right.toNat :=
    fun equalNat => different (UInt8.toNat_inj.mp equalNat)
  rw [toNat_toupper, toNat_toupper] at equal
  rw [isLetter_eq_true_iff]
  split_ifs at equal
  all_goals omega

theorem apply_eq_of_toupper {property : Byte → Bool} {constant : Bool}
    (letters : ∀ byte, isLetter byte = true → property byte = constant)
    {left right : Byte} (same : toupper left = toupper right) :
    property left = property right := by
  by_cases equal : left = right
  · rw [equal]
  · rw [letters left (isLetter_of_ne same equal),
      letters right (isLetter_of_ne same.symm (Ne.symm equal))]

theorem eq_of_toupper (same : toupper left = toupper right)
    (notLetter : isLetter left = false) : left = right := by
  by_contra different
  rw [isLetter_of_ne same different] at notLetter
  cases notLetter

theorem toupper_toupper (byte : Byte) : toupper (toupper byte) = toupper byte := by
  apply UInt8.toNat_inj.mp
  rw [toNat_toupper, toNat_toupper]
  split_ifs <;> omega

theorem toupper_ne_lower {lower : Byte} (isLower : 97 ≤ lower.toNat)
    (within : lower.toNat ≤ 122) (byte : Byte) : toupper byte ≠ lower := by
  intro equal
  have equalNat := congrArg UInt8.toNat equal
  rw [toNat_toupper] at equalNat
  split_ifs at equalNat
  all_goals omega

theorem isTchar_of_toupper (same : toupper left = toupper right) :
    isTchar left = isTchar right := by
  refine @apply_eq_of_toupper isTchar true ?_ left right same
  intro byte letter
  rw [isTchar, letter]
  rfl

/-- A line feed, a slash and a colon are no token characters. -/
theorem isTchar_separators : isTchar 10 = false ∧ isTchar 47 = false ∧ isTchar 58 = false := by
  decide

theorem isTchar_colon : isTchar 58 = false := isTchar_separators.2.2

def InFieldName (header : List Byte) (index : Nat) : Prop :=
  ∃ lineEnd colon, OccursAt crlfStr header lineEnd ∧ lineEnd + 2 ≤ index ∧
    index < colon ∧ header[colon]? = some 58 ∧
    ∀ inside, lineEnd + 2 ≤ inside → inside < colon →
      ∃ byte, header[inside]? = some byte ∧ isTchar byte = true

def Respells (header respelled : List Byte) : Prop :=
  ∀ index, respelled[index]? = header[index]? ∨ (InFieldName header index ∧
      (respelled[index]?).map toupper = (header[index]?).map toupper)

def FixedAt (needle header : List Byte) (start : Nat) : Prop :=
  OccursAt needle header start ∧ ¬InFieldName header start

/-- A field name ends with `name`, in some spelling, and `tail` follows. -/
def NamedAt (name tail header : List Byte) (start : Nat) : Prop :=
  InFieldName header start ∧ ((header.drop start).take name.length).map toupper = name.map toupper ∧
    OccursAt tail header (start + name.length)

variable {header respelled needle name tail : List Byte} {index start : Nat}

theorem InFieldName.tchar (inName : InFieldName header index) :
    ∃ byte, header[index]? = some byte ∧ isTchar byte = true := by
  obtain ⟨lineEnd, colon, _, after, before, _, tchars⟩ := inName
  exact tchars index after before

theorem InFieldName.ne_colon (inName : InFieldName header index) : header[index]? ≠ some 58 := by
  intro isColon
  obtain ⟨byte, isByte, tchar⟩ := inName.tchar
  rw [isColon] at isByte
  cases isByte
  rw [isTchar_colon] at tchar
  cases tchar

variable {other : Nat}

theorem exists_lineFeed (inName : InFieldName header index)
    (behind : other ≤ index) (outside : ¬InFieldName header other) :
    ∃ between, other ≤ between ∧ between < index ∧ header[between]? = some 10 := by
  obtain ⟨lineEnd, colon, ends, after, before, isColon, tchars⟩ := inName
  have isBehind : other < lineEnd + 2 := by
    by_contra notBehind
    exact outside ⟨lineEnd, colon, ends, by omega, by omega, isColon, tchars⟩
  refine ⟨lineEnd + 1, by omega, by omega, ?_⟩
  have second : (header.drop lineEnd)[1]? = some 10 := by
    obtain ⟨rest, isDrop⟩ := ends
    rw [← isDrop]
    rfl
  rwa [getElem?_drop] at second

/-- Token characters that follow in a field name are in it up to the first other
character, which is the colon. -/
theorem InFieldName.run {count : Nat} (inName : InFieldName header start)
    (tchars : ∀ offset, offset < count →
      ∃ byte, header[start + offset]? = some byte ∧ isTchar byte = true)
    {last : Byte} (isLast : header[start + count]? = some last)
    (notTchar : isTchar last = false) :
    last = 58 ∧ ∀ offset, offset < count → InFieldName header (start + offset) := by
  obtain ⟨lineEnd, colon, ends, after, before, isColon, inside⟩ := inName
  have isEnd : colon = start + count := by
    rcases Nat.lt_trichotomy colon (start + count) with early | equal | late
    · obtain ⟨byte, isByte, isTchar⟩ := tchars (colon - start) (by omega)
      rw [show start + (colon - start) = colon by omega, isColon] at isByte
      cases isByte
      rw [isTchar_colon] at isTchar
      cases isTchar
    · exact equal
    · obtain ⟨byte, isByte, tchar⟩ := inside (start + count) (by omega) late
      rw [isLast] at isByte
      cases isByte
      rw [notTchar] at tchar
      cases tchar
  constructor
  · rw [← isEnd, isColon] at isLast
    exact (Option.some.inj isLast).symm
  · intro offset isOffset
    exact ⟨lineEnd, colon, ends, by omega, by omega, isColon, inside⟩

namespace Respells

theorem refl (header : List Byte) : Respells header header :=
  fun _ => .inl rfl

theorem toupper (respells : Respells header respelled) (index : Nat) :
    (respelled[index]?).map AtHost.toupper = (header[index]?).map AtHost.toupper := by
  rcases respells index with same | ⟨-, same⟩
  · rw [same]
  · exact same

theorem map_toupper (respells : Respells header respelled) :
    respelled.map AtHost.toupper = header.map AtHost.toupper := by
  apply ext_getElem?
  intro index
  rw [getElem?_map, getElem?_map]
  exact respells.toupper index

theorem length (respells : Respells header respelled) : respelled.length = header.length := by
  have same := congrArg List.length respells.map_toupper
  rwa [length_map, length_map] at same

theorem of_notInFieldName (respells : Respells header respelled)
    (outside : ¬InFieldName header index) :
    respelled[index]? = header[index]? := by
  rcases respells index with same | ⟨inName, -⟩
  · exact same
  · exact absurd inName outside

theorem notLetter (respells : Respells header respelled) {byte : Byte}
    (notLetter : isLetter byte = false) :
    respelled[index]? = some byte ↔ header[index]? = some byte := by
  have same := respells.toupper index
  constructor
  · intro isByte
    rw [isByte, map_some, eq_comm, map_eq_some_iff] at same
    obtain ⟨other, isOther, equal⟩ := same
    rw [isOther, eq_of_toupper equal.symm notLetter]
  · intro isByte
    rw [isByte, map_some, map_eq_some_iff] at same
    obtain ⟨other, isOther, equal⟩ := same
    rw [isOther, eq_of_toupper equal.symm notLetter]

end Respells

variable {offset : Nat}

theorem notInFieldName_of_noLineFeed {count : Nat} (outside : ¬InFieldName header start)
    (noLineFeed : ∀ offset, offset < count →
      header[start + offset]? ≠ some 10) (isOffset : offset < count) :
    ¬InFieldName header (start + offset) := by
  intro inName
  obtain ⟨between, after, before, lineFeed⟩ :=
    exists_lineFeed inName (Nat.le_add_right start offset) outside
  apply noLineFeed (between - start) (by omega)
  rwa [show start + (between - start) = between by omega]

theorem occursAt_respelled_iff (respells : Respells header respelled)
    (noLineFeed : 10 ∉ needle) (outside : ¬InFieldName header start) :
    OccursAt needle respelled start ↔ OccursAt needle header start := by
  have fromRange : (∀ offset, offset < needle.length → header[start + offset]? ≠ some 10) →
      (OccursAt needle respelled start ↔ OccursAt needle header start) := by
    intro free
    rw [occursAt_iff_getElem?, occursAt_iff_getElem?]
    apply forall₂_congr
    intro offset inside
    rw [respells.of_notInFieldName (notInFieldName_of_noLineFeed outside free inside)]
  constructor
  · intro occurs
    refine (fromRange ?_).mp occurs
    intro offset inside lineFeed
    have here := (respells.notLetter (by decide)).mpr lineFeed
    rw [occursAt_iff_getElem?.mp occurs offset inside] at here
    exact noLineFeed (Option.some.inj here ▸ getElem_mem inside)
  · intro occurs
    refine (fromRange ?_).mpr occurs
    intro offset inside here
    rw [occursAt_iff_getElem?.mp occurs offset inside] at here
    exact noLineFeed (Option.some.inj here ▸ getElem_mem inside)

structure IsFieldNeedle (name tail : List Byte) : Prop where
  tchars : ∀ byte ∈ name, isTchar byte = true
  lower : name[1]? = some 111
  colon : tail.head? = some 58
  noLineFeed : 10 ∉ tail

instance : Decidable (IsFieldNeedle name tail) :=
  decidable_of_iff (name.all isTchar = true ∧
      name[1]? = some 111 ∧ tail.head? = some 58 ∧ 10 ∉ tail)
    ⟨fun ⟨tchars, lower, colon, noLineFeed⟩ =>
      ⟨List.all_eq_true.mp tchars, lower, colon, noLineFeed⟩,
      fun ⟨tchars, lower, colon, noLineFeed⟩ =>
        ⟨List.all_eq_true.mpr tchars, lower, colon, noLineFeed⟩⟩

namespace IsFieldNeedle

theorem append_noLineFeed (isNeedle : IsFieldNeedle name tail) : 10 ∉ name ++ tail := by
  intro member
  rcases mem_append.mp member with inName | inTail
  · have tchar := isNeedle.tchars 10 inName
    rw [isTchar_separators.1] at tchar
    cases tchar
  · exact isNeedle.noLineFeed inTail

theorem long (isNeedle : IsFieldNeedle name tail) : 1 < name.length := by
  exact (List.getElem?_eq_some_iff.mp isNeedle.lower).1

theorem tail_length (isNeedle : IsFieldNeedle name tail) : 0 < tail.length := by
  cases tail with
  | nil => exact nomatch isNeedle.colon
  | cons first rest => exact Nat.succ_pos _

theorem colon_of_occursAt (isNeedle : IsFieldNeedle name tail)
    (occurs : OccursAt tail header (start + name.length)) :
    header[start + name.length]? = some 58 := by
  have first := occursAt_iff_getElem?.mp occurs 0 isNeedle.tail_length
  rw [Nat.add_zero] at first
  rw [first, ← isNeedle.colon, List.head?_eq_getElem?, getElem?_eq_getElem isNeedle.tail_length]

end IsFieldNeedle

theorem occursAt_append_needle_iff : OccursAt (name ++ tail) header start ↔
      OccursAt name header start ∧ OccursAt tail header (start + name.length) := by
  simp only [occursAt_iff_getElem?]
  constructor
  · intro occurs
    constructor
    · intro offset inside
      rw [occurs offset (by rw [length_append]; omega), getElem_append_left inside]
    · intro offset inside
      have later := occurs (name.length + offset) (by
        rw [length_append]
        omega)
      rw [getElem_append_right (Nat.le_add_right _ _)] at later
      simpa only [Nat.add_assoc, Nat.add_sub_cancel_left] using later
  · rintro ⟨front, behind⟩ offset inside
    rw [length_append] at inside
    rcases Nat.lt_or_ge offset name.length with before | after
    · rw [getElem_append_left before]
      exact front offset before
    · obtain ⟨further, rfl⟩ := Nat.exists_eq_add_of_le after
      rw [getElem_append_right after, ← Nat.add_assoc, behind further (by omega)]
      simp only [Nat.add_sub_cancel_left]

theorem getElem?_of_map_toupper (same : ((header.drop start).take name.length).map toupper =
      name.map toupper) (inside : offset < name.length) :
    ∃ byte, header[start + offset]? = some byte ∧ toupper byte = toupper name[offset] := by
  have here := congrArg (·[offset]?) same
  simp only [getElem?_map, getElem?_take_of_lt inside,
    getElem?_drop, getElem?_eq_getElem inside] at here
  obtain ⟨byte, isByte, equal⟩ := map_eq_some_iff.mp here
  exact ⟨byte, isByte, equal⟩

theorem NamedAt.inFieldName (isNeedle : IsFieldNeedle name tail)
    (named : NamedAt name tail header start) (inside : offset < name.length) :
    InFieldName header (start + offset) := by
  obtain ⟨inName, same, occurs⟩ := named
  refine (inName.run ?_ (isNeedle.colon_of_occursAt occurs) isTchar_colon).2 offset inside
  intro other isOther
  obtain ⟨byte, isByte, equal⟩ := getElem?_of_map_toupper same isOther
  refine ⟨byte, isByte, ?_⟩
  rw [isTchar_of_toupper equal]
  exact isNeedle.tchars _ (getElem_mem isOther)

theorem namedAt_of_occursAt (respells : Respells header respelled)
    (isNeedle : IsFieldNeedle name tail)
    (occurs : OccursAt (name ++ tail) respelled start)
    (inName : InFieldName header start) : NamedAt name tail header start := by
  obtain ⟨front, behind⟩ := occursAt_append_needle_iff.mp occurs
  refine ⟨inName, ?_, ?_⟩
  · have same := respells.map_toupper
    rw [map_take, map_drop, ← same, ← map_drop, ← map_take, ← prefix_iff_eq_take.mp front]
  · have colon : header[start + name.length]? = some 58 :=
      (respells.notLetter (by decide)).mp (isNeedle.colon_of_occursAt behind)
    refine (occursAt_respelled_iff respells isNeedle.noLineFeed ?_).mp behind
    intro colonInName
    exact colonInName.ne_colon colon

theorem NamedAt.not_overlaps (isNeedle : IsFieldNeedle name tail)
    (named : NamedAt name tail header start)
    (otherNamed : NamedAt name tail header other) (behind : start < other) :
    start + name.length < other := by
  by_contra overlaps
  have colon := isNeedle.colon_of_occursAt named.2.2
  have inName := otherNamed.inFieldName isNeedle
    (show start + name.length - other < name.length by omega)
  rw [show other + (start + name.length - other) = start + name.length by omega] at inName
  exact inName.ne_colon colon

open Classical in
noncomputable def respell (spelling : Nat → Byte → Byte) (header : List Byte) : List Byte :=
  header.mapIdx fun index byte =>
    if InFieldName header index then spelling index byte else byte

noncomputable def capitals (header : List Byte) : List Byte :=
  respell (fun _ => toupper) header

noncomputable def spellAt (name : List Byte) (start : Nat) (header : List Byte) : List Byte :=
  respell (fun index byte =>
    if start ≤ index then (name[index - start]?).getD (toupper byte)
    else toupper byte) header

variable {spelling : Nat → Byte → Byte}

theorem getElem?_respell_of_inFieldName (inName : InFieldName header index) :
    (respell spelling header)[index]? = (header[index]?).map (spelling index) := by
  rw [respell, getElem?_mapIdx]
  simp only [inName, if_true]

theorem respells_respell (same : ∀ index byte, header[index]? = some byte →
      InFieldName header index → toupper (spelling index byte) = toupper byte) :
    Respells header (respell spelling header) := by
  intro index
  by_cases inName : InFieldName header index
  · refine .inr ⟨inName, ?_⟩
    obtain ⟨byte, isByte, -⟩ := inName.tchar
    rw [getElem?_respell_of_inFieldName inName, isByte, map_some,
      map_some, map_some, same index byte isByte inName]
  · left
    rw [respell, getElem?_mapIdx]
    simp only [inName, if_false, Option.map_id']

theorem respells_capitals (header : List Byte) : Respells header (capitals header) :=
  respells_respell fun _ byte _ _ => toupper_toupper byte

theorem respells_spellAt (named : NamedAt name tail header start) :
    Respells header (spellAt name start header) := by
  apply respells_respell
  intro index byte isByte _
  split
  · rename_i behind
    cases isNamed : name[index - start]? with
    | none => exact toupper_toupper byte
    | some spelled =>
      obtain ⟨inside, rfl⟩ := List.getElem?_eq_some_iff.mp isNamed
      obtain ⟨here, isHere, equal⟩ :=
        getElem?_of_map_toupper named.2.1 inside
      rw [show start + (index - start) = index by omega, isByte] at isHere
      cases isHere
      exact equal.symm
  · exact toupper_toupper byte

theorem not_capital_of_occursAt (isNeedle : IsFieldNeedle name tail)
    (occurs : OccursAt (name ++ tail) (respell spelling header) start)
    (inName : InFieldName header (start + 1)) :
    spelling (start + 1) ≠ toupper := by
  intro isCapital
  have front := (occursAt_append_needle_iff.mp occurs).1
  have second := occursAt_iff_getElem?.mp front 1 isNeedle.long
  rw [← getElem?_eq_getElem isNeedle.long, isNeedle.lower,
    getElem?_respell_of_inFieldName inName, isCapital,
    map_eq_some_iff] at second
  obtain ⟨byte, -, equal⟩ := second
  exact toupper_ne_lower (by decide) (by decide) byte equal

theorem fixedAt_of_capitals (isNeedle : IsFieldNeedle name tail)
    (occurs : OccursAt (name ++ tail) (capitals header) start) :
    FixedAt (name ++ tail) header start := by
  have respells := respells_capitals header
  have outside : ¬InFieldName header start := by
    intro inName
    have named := namedAt_of_occursAt respells isNeedle occurs inName
    exact not_capital_of_occursAt isNeedle occurs (named.inFieldName isNeedle isNeedle.long) rfl
  exact ⟨(occursAt_respelled_iff respells isNeedle.append_noLineFeed outside).mp occurs, outside⟩

theorem occursAt_spellAt (isNeedle : IsFieldNeedle name tail)
    (named : NamedAt name tail header start) :
    OccursAt (name ++ tail) (spellAt name start header) start := by
  have respells := respells_spellAt named
  rw [occursAt_append_needle_iff]
  constructor
  · rw [occursAt_iff_getElem?]
    intro offset inside
    have inName := named.inFieldName isNeedle inside
    obtain ⟨byte, isByte, -⟩ := inName.tchar
    rw [spellAt, getElem?_respell_of_inFieldName inName, isByte,
      map_some, if_pos (Nat.le_add_right _ _), Nat.add_sub_cancel_left,
      getElem?_eq_getElem inside]
    rfl
  · refine (occursAt_respelled_iff respells isNeedle.noLineFeed ?_).mpr named.2.2
    intro colonInName
    exact colonInName.ne_colon (isNeedle.colon_of_occursAt named.2.2)

theorem eq_or_fixedAt_of_spellAt (isNeedle : IsFieldNeedle name tail)
    (named : NamedAt name tail header start)
    (occurs : OccursAt (name ++ tail) (spellAt name start header) other) :
    other = start ∨ FixedAt (name ++ tail) header other := by
  have respells := respells_spellAt named
  by_cases inName : InFieldName header other
  · left
    have otherNamed := namedAt_of_occursAt respells isNeedle occurs inName
    by_contra different
    refine not_capital_of_occursAt isNeedle occurs
      (otherNamed.inFieldName isNeedle isNeedle.long) ?_
    have long := isNeedle.long
    funext byte
    rcases Nat.lt_or_gt_of_ne different with before | behind
    · have apart := otherNamed.not_overlaps isNeedle named before
      exact if_neg (by omega)
    · have apart := named.not_overlaps isNeedle otherNamed behind
      rw [if_pos (by omega), getElem?_eq_none (by omega)]
      rfl
  · exact .inr ⟨(occursAt_respelled_iff respells isNeedle.append_noLineFeed
      inName).mp occurs, inName⟩

theorem notInFieldName_of_slash (respells : Respells header respelled)
    (tchars : ∀ byte ∈ name, isTchar byte = true)
    (slash : tail.head? = some 47)
    (occurs : OccursAt (name ++ tail) respelled start) :
    ¬InFieldName header start := by
  intro inName
  obtain ⟨front, behind⟩ := occursAt_append_needle_iff.mp occurs
  have inHeader : ∀ offset, offset < name.length →
      ∃ byte, header[start + offset]? = some byte ∧ isTchar byte = true := by
    intro offset inside
    have same := respells.toupper (start + offset)
    rw [occursAt_iff_getElem?.mp front offset inside, map_some, eq_comm, map_eq_some_iff] at same
    obtain ⟨byte, isByte, equal⟩ := same
    refine ⟨byte, isByte, ?_⟩
    rw [isTchar_of_toupper equal]
    exact tchars _ (getElem_mem inside)
  cases tail with
  | nil => cases slash
  | cons first rest =>
    cases slash
    have isSlash := occursAt_iff_getElem?.mp behind 0 (Nat.succ_pos _)
    have inHeaderSlash : header[start + name.length]? = some 47 :=
      (respells.notLetter (by decide)).mp isSlash
    have isColon :=
      (inName.run inHeader inHeaderSlash isTchar_separators.2.1).1
    exact absurd isColon (by decide)

theorem httpVersion_parts : ascii "HTTP/1." = ascii "HTTP" ++ ascii "/1." ∧
      (∀ byte ∈ ascii "HTTP", isTchar byte = true) ∧
      (ascii "/1.").head? = some 47 ∧ 10 ∉ ascii "HTTP" ++ ascii "/1." := by
  decide +kernel

theorem occursAt_httpVersion_iff (respells : Respells header respelled) :
    OccursAt (ascii "HTTP/1.") respelled start ↔ OccursAt (ascii "HTTP/1.") header start := by
  obtain ⟨parts, tchars, slash, noLineFeed⟩ := httpVersion_parts
  rw [parts]
  constructor
  · intro occurs
    have outside := notInFieldName_of_slash respells tchars slash occurs
    exact (occursAt_respelled_iff respells noLineFeed outside).mp occurs
  · intro occurs
    have outside :=
      notInFieldName_of_slash (Respells.refl header) tchars slash occurs
    exact (occursAt_respelled_iff respells noLineFeed outside).mpr occurs

end SerialModem.Socket
