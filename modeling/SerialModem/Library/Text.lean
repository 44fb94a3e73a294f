import Mathlib.Data.List.Infix

/-!
# Texts on a line

Texts are sent as ASCII, with numbers in decimal, and are read piece by piece: a
reader sees a prefix of what was sent, looks for a marker in it and cuts it into
lines.
-/

namespace SerialModem.Library

open List

abbrev Text := List Char

def encodeAscii (text : Text) : List UInt8 :=
  text.map fun character => UInt8.ofNat character.toNat

def decodeAscii (bytes : List UInt8) : Text :=
  bytes.map fun byte => Char.ofNat byte.toNat

def IsAscii (text : Text) : Prop :=
  ∀ character ∈ text, character.toNat < 128

theorem decodeAscii_encodeAscii {text : Text} (isAscii : IsAscii text) :
    decodeAscii (encodeAscii text) = text := by
  induction text with
  | nil => rfl
  | cons character rest ih =>
    obtain ⟨small, restAscii⟩ := forall_mem_cons.mp isAscii
    have exact : (UInt8.ofNat character.toNat).toNat = character.toNat := by
      rw [UInt8.toNat_ofNat']
      exact Nat.mod_eq_of_lt (by omega)
    change Char.ofNat (UInt8.ofNat character.toNat).toNat ::
      decodeAscii (encodeAscii rest) = character :: rest
    rw [exact, Char.ofNat_toNat, ih restAscii]

theorem toNat_ofNat_of_ascii {code : Nat} (small : code < 128) :
    (Char.ofNat code).toNat = code := by
  have valid : code.isValidChar := .inl (by omega)
  rw [Char.ofNat, dif_pos valid]
  rfl

theorem mem_encodeAscii {text : Text} {byte : UInt8} (member : byte ∈ encodeAscii text) :
    ∃ character ∈ text, UInt8.ofNat character.toNat = byte :=
  List.mem_map.mp member

def decimal (number : Nat) : Text :=
  Nat.toDigits 10 number

def readDecimal (text : Text) : Option Nat :=
  if text ≠ [] ∧ text.all Char.isDigit then
    some (Nat.ofDigitChars 10 text 0)
  else
    none

variable {character : Char}

theorem isDigit_of_mem_decimal {number : Nat}
    (member : character ∈ decimal number) : character.isDigit :=
  Nat.isDigit_of_mem_toDigits (by decide) (by decide) member

theorem readDecimal_decimal (number : Nat) : readDecimal (decimal number) = some number := by
  have digits : (decimal number).all Char.isDigit :=
    List.all_eq_true.mpr fun _ => isDigit_of_mem_decimal
  rw [readDecimal, if_pos ⟨Nat.toDigits_ne_nil, digits⟩, decimal, Nat.ofDigitChars_ten_toDigits]

theorem isDigit_toNat (digit : character.isDigit) :
    48 ≤ character.toNat ∧ character.toNat ≤ 57 := by
  simpa [Char.isDigit, UInt32.le_iff_toNat_le] using digit

theorem not_mem_decimal {number : Nat}
    (other : character.isDigit = false) : character ∉ decimal number := by
  intro member
  rw [isDigit_of_mem_decimal member] at other
  cases other

theorem mem_of_mem_intercalate {α : Type*} {separator element : α} {parts : List (List α)}
    (member : element ∈ [separator].intercalate parts) :
    element = separator ∨ ∃ part ∈ parts, element ∈ part := by
  induction parts with
  | nil => cases member
  | cons part rest ih =>
    cases rest with
    | nil =>
      rw [intercalate_singleton] at member
      exact .inr ⟨part, mem_cons_self, member⟩
    | cons next rest =>
      rw [intercalate_cons_cons, append_assoc] at member
      rcases mem_append.mp member with inPart | later
      · exact .inr ⟨part, mem_cons_self, inPart⟩
      · rcases mem_append.mp later with isSeparator | inRest
        · exact .inl (mem_singleton.mp isSeparator)
        · rcases ih inRest with found | ⟨other, among, inside⟩
          · exact .inl found
          · exact .inr ⟨other, mem_cons_of_mem _ among, inside⟩

section Prefixes

variable {α : Type*}

theorem suffix_of_marker {marker : α} {seen unread front tail : List α}
    (whole : seen ++ unread = front ++ marker :: tail)
    (first : marker ∉ front) (found : marker ∈ seen) : unread <:+ tail := by
  rcases append_eq_append_iff.mp whole with
    ⟨rest, isFront, _⟩ | ⟨rest, isSeen, isTail⟩
  · rw [isFront] at first
    exact absurd (mem_append_left rest found) first
  · cases rest with
    | nil =>
      rw [isSeen, append_nil] at found
      exact absurd found first
    | cons next rest =>
      rw [cons_append] at isTail
      exact ⟨rest, (List.cons.inj isTail).2.symm⟩

variable [BEq α] [LawfulBEq α]

theorem line_of_prefix {newline : α} {lines : List (List α)}
    (clean : ∀ line ∈ lines, newline ∉ line) {seen : List α}
    (isPrefix : seen <+: lines.flatMap (· ++ [newline])) {part : List α}
    (member : part ∈ seen.splitOn newline) :
    part = [] ∨ ∃ line ∈ lines, part <+: line := by
  induction lines generalizing seen with
  | nil =>
    rw [prefix_nil.mp isPrefix, splitOn_nil] at member
    exact .inl (mem_singleton.mp member)
  | cons line rest ih =>
    obtain ⟨lineClean, restClean⟩ := forall_mem_cons.mp clean
    obtain ⟨unread, whole⟩ := isPrefix
    rw [flatMap_cons, append_assoc] at whole
    rcases append_eq_append_iff.mp whole with
      ⟨left, isLine, _⟩ | ⟨left, isSeen, isLeft⟩
    · -- The reader is still in the first line.
      rw [isLine] at lineClean
      rw [splitOn_eq_singleton fun inside =>
        lineClean (mem_append_left left inside)] at member
      rw [mem_singleton.mp member, isLine]
      exact .inr ⟨seen ++ left, mem_cons_self, prefix_append seen left⟩
    · cases left with
      | nil =>
        rw [append_nil] at isSeen
        rw [isSeen, splitOn_eq_singleton lineClean] at member
        rw [mem_singleton.mp member]
        exact .inr ⟨line, mem_cons_self, prefix_rfl⟩
      | cons next left =>
        rw [singleton_append, cons_append] at isLeft
        obtain ⟨isNewline, isRest⟩ := List.cons.inj isLeft
        rw [isSeen, ← isNewline, splitOn_append_cons_self_of_not_mem lineClean] at member
        rcases mem_cons.mp member with isFirst | later
        · rw [isFirst]
          exact .inr ⟨line, mem_cons_self, prefix_rfl⟩
        · rcases ih restClean ⟨unread, isRest.symm⟩ later with empty | ⟨found, inRest, starts⟩
          · exact .inl empty
          · exact .inr ⟨found, mem_cons_of_mem _ inRest, starts⟩

end Prefixes

end SerialModem.Library
