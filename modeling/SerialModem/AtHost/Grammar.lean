import SerialModem.AtHost.Command
import Mathlib.Data.Bool.Basic

/-!
# The grammar of AT commands

`cmd_grammar_check` reads a string that ends with a NUL, character after
character.  It is modelled on the memory from the string on, with the NUL as the
last byte that may be read, and compared with the grammar in its comment.
-/

namespace SerialModem.AtHost

open List

def IsLetter (upper character : Byte) : Prop :=
  character = upper ∨ character = upper + 32

inductive CommandTail : List Byte → Prop
  | nothing : CommandTail []
  | read : CommandTail [63]
  | set : CommandTail [61]
  | test : CommandTail [61, 63]
  | parameters {first : Byte} (notQuestion : first ≠ 63) (rest : List Byte) :
      CommandTail (61 :: first :: rest)

/-- What may follow `AT`. -/
inductive CommandForm : List Byte → Prop
  | nothing : CommandForm []
  /-- `E0` and `E1`. -/
  | echo {letter flag : Byte} (isE : IsLetter 69 letter)
      (isFlag : flag = 48 ∨ flag = 49) : CommandForm [letter, flag]
  | named {separator : Byte} {body tail : List Byte}
      (isSeparator : separator = 43 ∨ separator = 37 ∨ separator = 35)
      (nonempty : body ≠ [])
      (isBody : ∀ character ∈ body, isBodyCharacter character = true)
      (isTail : CommandTail tail) :
      CommandForm (separator :: (body ++ tail))

/-- The grammar of a command line. -/
inductive IsCommand : List Byte → Prop
  | intro {first second : Byte} {rest : List Byte}
      (isA : IsLetter 65 first) (isT : IsLetter 84 second)
      (form : CommandForm rest) : IsCommand (first :: second :: rest)

def isEchoCommand (cmd : List Byte) : Option Bool := do
  let letter ← cmd[0]?
  if toupper letter ≠ 69 then
    return false
  let flag ← cmd[1]?
  if flag ≠ 48 ∧ flag ≠ 49 then
    return false
  let last ← cmd[2]?
  return last == 0

def scanBody : List Byte → Option (List Byte)
  | [] => none
  | character :: rest =>
    if isBodyCharacter character then
      scanBody rest
    else
      some (character :: rest)

/-- What `cmd_grammar_check` does behind the body. -/
def checkTail (cmd : List Byte) : Option Bool := do
  let first ← cmd[0]?
  if first = 0 then
    return true
  if first ≠ 61 ∧ first ≠ 63 then
    return false
  let second ← cmd[1]?
  if first = 63 then
    return second == 0
  if second = 0 then
    return true
  if second ≠ 63 then
    return true
  let third ← cmd[2]?
  return third == 0

/-- `cmd_grammar_check` on the memory from `cmd` on; `none` is a read behind
that memory, and `true` stands for the result zero. -/
def cmdGrammarCheckOn (cmd : List Byte) (length : Nat) : Option Bool := do
  if length < 2 then
    return false
  let first ← cmd[0]?
  if toupper first ≠ 65 then
    return false
  let second ← cmd[1]?
  if toupper second ≠ 84 then
    return false
  let cmd := cmd.drop 2
  let separator ← cmd[0]?
  if separator = 0 then
    return true
  if ← isEchoCommand cmd then
    return true
  if separator ≠ 43 ∧ separator ≠ 37 ∧ separator ≠ 35 then
    return false
  let body := cmd.drop 1
  let cmd ← scanBody body
  if cmd.length = body.length then
    return false
  checkTail cmd

theorem scanBody_eq (text : List Byte) :
    scanBody (text ++ [0]) = some (text.dropWhile isBodyCharacter ++ [0]) := by
  induction text with
  | nil => rfl
  | cons character rest ih =>
    by_cases isBody : isBodyCharacter character = true
    · rw [cons_append, scanBody, if_pos isBody, ih, dropWhile_cons_of_pos isBody]
    · rw [cons_append, scanBody, if_neg isBody, dropWhile_cons_of_neg isBody]
      rfl

@[simp]
theorem charAt_cons_zero (first : Byte) (rest : List Byte) : charAt (first :: rest) 0 = first := rfl

@[simp]
theorem charAt_cons_succ (first : Byte) (rest : List Byte) (index : Nat) :
    charAt (first :: rest) (index + 1) = charAt rest index := rfl

theorem head_append_nul (cmd : List Byte) : (cmd ++ [0])[0]? = some (charAt cmd 0) := by
  cases cmd with
  | nil | cons first rest => rfl

theorem isEchoCommand_eq (text : List Byte) : isEchoCommand (text ++ [0]) =
      some (decide (toupper (charAt text 0) = 69 ∧
        (charAt text 1 = 48 ∨ charAt text 1 = 49) ∧ charAt text 2 = 0)) := by
  cases text with
  | nil => rfl
  | cons letter rest =>
    by_cases isE : toupper letter = 69
    · cases rest with
      | nil => simp [isEchoCommand, charAt, isE]
      | cons flag rest =>
        by_cases isFlag : flag = 48 ∨ flag = 49
        · cases rest with
          | nil => simp [isEchoCommand, charAt, isE, isFlag]; grind
          | cons last rest =>
            simp [isEchoCommand, charAt, isE, isFlag]; grind
        · simp [isEchoCommand, charAt, isE]; grind
    · simp [isEchoCommand, charAt, isE]

/-- What `cmd_grammar_check` finds behind the body. -/
def tailAccepted (tail : List Byte) : Bool :=
  if charAt tail 0 = 0 then true
  else if charAt tail 0 ≠ 61 ∧ charAt tail 0 ≠ 63 then false
  else if charAt tail 0 = 63 then charAt tail 1 == 0
  else if charAt tail 1 = 0 then true
  else if charAt tail 1 = 63 then charAt tail 2 == 0
  else true

def bodyAccepted (body : List Byte) : Bool :=
  if (body.dropWhile isBodyCharacter).length = body.length then
    false
  else
    tailAccepted (body.dropWhile isBodyCharacter)

theorem cmdGrammarCheck_cons (first second : Byte) (cmd : List Byte) :
    cmdGrammarCheck (first :: second :: cmd) =
      if toupper first ≠ 65 ∨ toupper second ≠ 84 then false
      else if charAt cmd 0 = 0 then true
      else if toupper (charAt cmd 0) = 69 ∧
        (charAt cmd 1 = 48 ∨ charAt cmd 1 = 49) ∧ charAt cmd 2 = 0 then true
      else if charAt cmd 0 ≠ 43 ∧ charAt cmd 0 ≠ 37 ∧ charAt cmd 0 ≠ 35 then false
      else bodyAccepted (cmd.drop 1) := by
  have two : ¬cmd.length + 1 + 1 < 2 := by omega
  unfold cmdGrammarCheck
  simp only [length_cons, two, false_or, charAt_cons_zero, charAt_cons_succ,
    drop_succ_cons, drop_zero]
  rfl

theorem checkTail_eq (tail : List Byte) : checkTail (tail ++ [0]) = some (tailAccepted tail) := by
  cases tail with
  | nil => rfl
  | cons first rest =>
    cases rest with
    | nil => simp [checkTail, tailAccepted, charAt]; grind
    | cons second rest =>
      cases rest with
      | nil | cons third rest => simp [checkTail, tailAccepted, charAt]; grind

/-- The check on memory reads nothing behind the NUL, and agrees with the one on
strings. -/
theorem cmdGrammarCheckOn_eq (text : List Byte) :
    cmdGrammarCheckOn (text ++ [0]) text.length = some (cmdGrammarCheck text) := by
  cases text with
  | nil => rfl
  | cons first rest =>
    cases rest with
    | nil => rfl
    | cons second cmd =>
      have two : ¬cmd.length + 1 + 1 < 2 := by omega
      rw [cmdGrammarCheck_cons]
      unfold cmdGrammarCheckOn
      simp only [cons_append, length_cons, two, drop_succ_cons, drop_zero,
        getElem?_cons_zero, getElem?_cons_succ, head_append_nul,
        isEchoCommand_eq, Option.bind_eq_bind, Option.bind_some]
      by_cases isA : toupper first = 65
      · by_cases isT : toupper second = 84
        · by_cases ends : charAt cmd 0 = 0
          · simp [isA, isT, ends]
          · have nonempty : cmd ≠ [] := by
              rintro rfl
              exact ends rfl
            rw [drop_append_of_le_length (length_pos_of_ne_nil nonempty), scanBody_eq]
            simp only [isA, isT, ends, Option.bind_some, checkTail_eq,
              length_append, Nat.add_right_cancel_iff, bodyAccepted]
            grind
        · simp [isA, isT]
      · simp [isA]

theorem toupper_eq_iff {upper : Byte} (isUpper : 65 ≤ upper ∧ upper ≤ 90) (character : Byte) :
    toupper character = upper ↔ IsLetter upper character := by
  unfold toupper IsLetter
  split
  · rename_i isLower
    have other : character ≠ upper := by
      rintro rfl
      grind
    grind
  · rename_i notLower
    have other : character ≠ upper + 32 := by
      rintro rfl
      grind
    grind

theorem tailAccepted_iff {tail : List Byte} (nulFree : 0 ∉ tail) :
    tailAccepted tail = true ↔ CommandTail tail := by
  constructor
  · intro accepted
    cases tail with
    | nil => exact .nothing
    | cons first rest =>
      have notNul : first ≠ 0 := fun isNul => nulFree (by simp [isNul])
      cases rest with
      | nil =>
        have isMark : first = 61 ∨ first = 63 := by
          simp only [tailAccepted, charAt_cons_zero] at accepted
          grind
        rcases isMark with rfl | rfl
        · exact .set
        · exact .read
      | cons second rest =>
        have secondNotNul : second ≠ 0 :=
          fun isNul => nulFree (by simp [isNul])
        have isSet : first = 61 ∧ (second = 63 → rest = []) := by
          cases rest with
          | nil =>
            simp only [tailAccepted, charAt_cons_zero, charAt_cons_succ] at accepted
            grind
          | cons third rest =>
            have thirdNotNul : third ≠ 0 :=
              fun isNul => nulFree (by simp [isNul])
            simp only [tailAccepted, charAt_cons_zero, charAt_cons_succ] at accepted
            grind
        obtain ⟨rfl, only⟩ := isSet
        by_cases isQuestion : second = 63
        · rw [isQuestion, only isQuestion]
          exact .test
        · exact .parameters isQuestion rest
  · intro isTail
    cases isTail with
    | nothing | read | set | test => rfl
    | @parameters first notQuestion rest =>
      have notNul : first ≠ 0 := fun isNul => nulFree (by simp [isNul])
      simp [tailAccepted, notQuestion, notNul]

theorem CommandTail.dropWhile {tail : List Byte} (isTail : CommandTail tail) :
    tail.dropWhile isBodyCharacter = tail := by
  cases isTail with
  | nothing | read | set | test | parameters notQuestion rest => rfl

theorem bodyAccepted_iff {text : List Byte} (nulFree : 0 ∉ text) :
    bodyAccepted text = true ↔ ∃ body tail, text = body ++ tail ∧ body ≠ [] ∧
      (∀ character ∈ body, isBodyCharacter character = true) ∧ CommandTail tail := by
  have split := takeWhile_append_dropWhile (p := isBodyCharacter) (l := text)
  constructor
  · intro accepted
    unfold bodyAccepted at accepted
    split at accepted
    · cases accepted
    · rename_i shorter
      refine ⟨_, _, split.symm, ?_, ?_, ?_⟩
      · intro empty
        rw [empty, nil_append] at split
        exact shorter (by rw [split])
      · intro character member
        exact List.all_eq_true.mp all_takeWhile character member
      · apply (tailAccepted_iff ?_).mp accepted
        exact fun member => nulFree ((dropWhile_sublist _).subset member)
  · rintro ⟨body, tail, rfl, nonempty, isBody, isTail⟩
    have dropped : (body ++ tail).dropWhile isBodyCharacter = tail := by
      rw [dropWhile_append_of_pos isBody, isTail.dropWhile]
    unfold bodyAccepted
    rw [dropped, if_neg]
    · exact (tailAccepted_iff fun member =>
        nulFree (mem_append_right _ member)).mpr isTail
    · have positive := length_pos_of_ne_nil nonempty
      rw [length_append]
      omega

theorem commandForm_iff {cmd : List Byte} (nulFree : 0 ∉ cmd) :
    CommandForm cmd ↔ charAt cmd 0 = 0 ∨ (toupper (charAt cmd 0) = 69 ∧
        (charAt cmd 1 = 48 ∨ charAt cmd 1 = 49) ∧ charAt cmd 2 = 0) ∨
      ((charAt cmd 0 = 43 ∨ charAt cmd 0 = 37 ∨ charAt cmd 0 = 35) ∧
        bodyAccepted (cmd.drop 1) = true) := by
  constructor
  · intro form
    cases form with
    | nothing => exact .inl rfl
    | echo isE isFlag =>
      exact .inr (.inl ⟨(toupper_eq_iff (by decide) _).mpr isE, isFlag, rfl⟩)
    | named isSeparator nonempty isBody isTail =>
      refine .inr (.inr ⟨isSeparator, ?_⟩)
      exact (bodyAccepted_iff fun member =>
        nulFree (mem_cons_of_mem _ member)).mpr ⟨_, _, rfl, nonempty, isBody, isTail⟩
  · intro accepted
    cases cmd with
    | nil => exact .nothing
    | cons first rest =>
      have notNul : first ≠ 0 := fun isNul => nulFree (by simp [isNul])
      have restFree : 0 ∉ rest :=
        fun member => nulFree (mem_cons_of_mem _ member)
      rcases accepted with isNul | ⟨isE, isFlag, ends⟩ | ⟨isSeparator, named⟩
      · exact absurd isNul notNul
      · cases rest with
        | nil =>
          have nul : charAt [first] 1 = 0 := rfl
          rw [nul] at isFlag
          exact absurd isFlag (by decide)
        | cons flag rest =>
          have isLast : rest = [] := by
            cases rest with
            | nil => rfl
            | cons last rest =>
              exact absurd (by simp [show last = 0 from ends]) restFree
          rw [isLast]
          exact .echo ((toupper_eq_iff (by decide) _).mp isE) isFlag
      · obtain ⟨body, tail, isRest, nonempty, isBody, isTail⟩ :=
          (bodyAccepted_iff restFree).mp named
        rw [show rest = body ++ tail from isRest]
        exact .named isSeparator nonempty isBody isTail

/-- What `cmd_grammar_check` accepts is the grammar in its comment, and it reads
no character behind the NUL. -/
theorem cmdGrammarCheck_exact {text : List Byte} (nulFree : 0 ∉ text) :
    ∃ accepted, cmdGrammarCheckOn (text ++ [0]) text.length = some accepted ∧
      (accepted = true ↔ IsCommand text) := by
  refine ⟨_, cmdGrammarCheckOn_eq text, ?_⟩
  cases text with
  | nil =>
    exact ⟨by rintro ⟨⟩, by rintro ⟨⟩⟩
  | cons first rest =>
    cases rest with
    | nil => exact ⟨by rintro ⟨⟩, by rintro ⟨⟩⟩
    | cons second cmd =>
      have cmdFree : 0 ∉ cmd := fun member =>
        nulFree (mem_cons_of_mem _ (mem_cons_of_mem _ member))
      have form := commandForm_iff cmdFree
      rw [cmdGrammarCheck_cons]
      constructor
      · intro accepted
        have isA : toupper first = 65 := by grind
        have isT : toupper second = 84 := by grind
        refine .intro ((toupper_eq_iff (by decide) first).mp isA)
          ((toupper_eq_iff (by decide) second).mp isT) (form.mpr ?_)
        grind
      · rintro ⟨isA, isT, isForm⟩
        have upperA := (toupper_eq_iff (by decide) first).mpr isA
        have upperT := (toupper_eq_iff (by decide) second).mpr isT
        have cases := form.mp isForm
        grind

/-- A read command and its memory. -/
theorem cmdGrammarCheck_exact_read :
    ∃ accepted, cmdGrammarCheckOn (ascii "AT+CFUN?" ++ [0]) 8 = some accepted ∧
      (accepted = true ↔ IsCommand (ascii "AT+CFUN?")) :=
  cmdGrammarCheck_exact (by decide)

end SerialModem.AtHost
