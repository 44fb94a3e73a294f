import SerialModem.AtHost.Command
import SerialModem.Library.Occurrence
import SerialModem.Library.Text

/-!
# The format of the final result

`nrf_modem_at_cmd` leaves the final result directly behind the information text,
and `format_final_result` moves it by a line end in the same buffer.  It looks for
the final result by its text, so that it may take a part of the information text
for it.
-/

namespace SerialModem.AtHost

open Library List Option

def stringAt (index : Nat) (buf : List Byte) : Option (List Byte) :=
  if 0 ∈ buf.drop index then
    some ((buf.drop index).takeWhile fun byte => byte ≠ 0)
  else
    none

/-- `memmove` inside a buffer; `none` where it would leave the buffer. -/
def memmove (destination source count : Nat) (buf : List Byte) : Option (List Byte) :=
  if destination + count ≤ buf.length ∧ source + count ≤ buf.length then
    some (buf.take destination ++ (buf.drop source).take count ++ buf.drop (destination + count))
  else
    none

def storeByte (index : Nat) (byte : Byte) (buf : List Byte) : Option (List Byte) :=
  if index < buf.length then
    some (buf.set index byte)
  else
    none

/-- The search of `format_final_result`. -/
def findFinalResult (buf : List Byte) : Option Nat :=
  (strrstr buf (ascii "OK\r\n")).orElse fun _ =>
  (strrstr buf (ascii "ERROR\r\n")).orElse fun _ =>
  (strrstr buf (ascii "+CME ERROR:")).orElse fun _ =>
    strrstr buf (ascii "+CMS ERROR:")

/-- `format_final_result` on its buffer; `none` is an access outside of it. -/
def formatFinalResultIn (buf : List Byte) (bufLen bufMaxLen : Nat) : Option (List Byte) := do
  let text ← stringAt 0 buf
  match findFinalResult text with
  | none => some buf
  | some result =>
    if result ≠ crlfStr.length ∧ bufLen + crlfStr.length < bufMaxLen then do
      let moving ← stringAt result buf
      let moved ← memmove (result + crlfStr.length) result moving.length buf
      let first ← storeByte result 13 moved
      let second ← storeByte (result + 1) 10 first
      storeByte (bufLen + crlfStr.length) 0 second
    else
      some buf

/-- A C string in its buffer. -/
def bufferOf (text rest : List Byte) : List Byte :=
  text ++ 0 :: rest

theorem stringAt_bufferOf {text rest : List Byte} (nulFree : 0 ∉ text)
    {index : Nat} (within : index ≤ text.length) :
    stringAt index (bufferOf text rest) = some (text.drop index) := by
  have behind : (bufferOf text rest).drop index =
      text.drop index ++ 0 :: rest := drop_append_of_le_length within
  have plain : ∀ byte ∈ text.drop index, (decide (byte ≠ 0)) = true := by
    intro byte member
    exact decide_eq_true fun isNul =>
      nulFree (isNul ▸ mem_of_mem_drop member)
  rw [stringAt, behind, if_pos (by simp), takeWhile_append_of_pos plain]
  simp

theorem storeByte_append {front tail : List Byte} {old byte : Byte} :
    storeByte front.length byte (front ++ old :: tail) = some (front ++ byte :: tail) := by
  rw [storeByte, if_pos (by simp), set_append_right _ _ (Nat.le_refl _), Nat.sub_self]
  rfl

theorem memmove_bufferOf (front moving rest : List Byte) (first second : Byte) :
    ∃ old older, memmove (front.length + 2) front.length moving.length
      (bufferOf (front ++ moving) (first :: second :: rest)) =
        some (front ++ old :: older :: (moving ++ second :: rest)) := by
  have isBuffer : bufferOf (front ++ moving) (first :: second :: rest) =
      front ++ (moving ++ 0 :: first :: second :: rest) := by
    rw [bufferOf, append_assoc]
  obtain ⟨old, older, behind, isTail⟩ : ∃ old older behind,
      moving ++ 0 :: first :: second :: rest = old :: older :: behind := by
    rcases moving with _ | ⟨old, _ | ⟨older, behind⟩⟩
    · exact ⟨_, _, _, rfl⟩
    · exact ⟨_, _, _, rfl⟩
    · exact ⟨_, _, _, rfl⟩
  have kept : (bufferOf (front ++ moving) (first :: second :: rest)).take
      (front.length + 2) = front ++ [old, older] := by
    rw [isBuffer, isTail, take_length_add_append]
    rfl
  have moved : ((bufferOf (front ++ moving) (first :: second :: rest)).drop
      front.length).take moving.length = moving := by
    rw [isBuffer, drop_left, take_left]
  have last : (bufferOf (front ++ moving) (first :: second :: rest)).drop
      (front.length + 2 + moving.length) = second :: rest := by
    rw [bufferOf, show front.length + 2 + moving.length =
      (front ++ moving).length + 2 by rw [length_append]; omega,
      drop_length_add_append]
    rfl
  refine ⟨old, older, ?_⟩
  rw [memmove, if_pos, kept, moved, last]
  · simp
  · simp only [bufferOf, length_append, length_cons]
    omega

theorem formatFinalResult_of_none {text : List Byte}
    (nothing : findFinalResult text = none) (bufMaxLen : Nat) :
    formatFinalResult text bufMaxLen = text := by
  unfold findFinalResult at nothing
  unfold formatFinalResult
  dsimp only
  rw [nothing]

variable {result : Nat}

theorem formatFinalResult_of_some {text : List Byte}
    (found : findFinalResult text = some result) (bufMaxLen : Nat) :
    formatFinalResult text bufMaxLen =
      if result ≠ crlfStr.length ∧ text.length + crlfStr.length < bufMaxLen then
        text.take result ++ crlfStr ++ text.drop result
      else
        text := by
  unfold findFinalResult at found
  unfold formatFinalResult
  dsimp only
  rw [found]

variable {needle : List Byte} {index : Nat}

theorem occursAt_iff_take {text : List Byte} : OccursAt needle text index ↔
      (text.drop index).take needle.length = needle := by
  rw [OccursAt, prefix_iff_eq_take]
  exact eq_comm

theorem lastIndexOf_none {text : List Byte} {count : Nat}
    (nothing : lastIndexOf text needle count = none) :
    ∀ index, index < count → ¬OccursAt needle text index := by
  induction count with
  | zero =>
    intro index below
    exact absurd below (Nat.not_lt_zero index)
  | succ count ih =>
    rw [lastIndexOf] at nothing
    split at nothing
    · cases nothing
    · rename_i other
      intro index below
      rcases Nat.lt_succ_iff_lt_or_eq.mp below with earlier | rfl
      · exact ih nothing index earlier
      · exact fun occurs => other (occursAt_iff_take.mp occurs)

theorem lastIndexOf_some {text : List Byte} {count last : Nat}
    (found : lastIndexOf text needle count = some last) :
    OccursAt needle text last ∧
      ∀ later, last < later → later < count → ¬OccursAt needle text later := by
  induction count with
  | zero => cases found
  | succ count ih =>
    rw [lastIndexOf] at found
    split at found
    · rename_i same
      cases found
      refine ⟨occursAt_iff_take.mpr same, ?_⟩
      intro later behind below
      omega
    · rename_i other
      obtain ⟨occurs, nothing⟩ := ih found
      refine ⟨occurs, ?_⟩
      intro later behind below
      rcases Nat.lt_succ_iff_lt_or_eq.mp below with earlier | rfl
      · exact nothing later behind earlier
      · exact fun occurs => other (occursAt_iff_take.mp occurs)

theorem strrstr_occursAt {text : List Byte}
    (found : strrstr text needle = some index) : OccursAt needle text index := by
  unfold strrstr at found
  split at found
  · cases found
  · exact (lastIndexOf_some found).1

theorem strrstr_eq_none_iff {text : List Byte} (nonempty : needle ≠ []) :
    strrstr text needle = none ↔ ¬needle <:+: text := by
  have positive := length_pos_iff.mpr nonempty
  rw [← exists_occursAt_iff]
  constructor
  · rintro nothing ⟨index, occurs⟩
    have within := occurs.within nonempty
    unfold strrstr at nothing
    rw [if_neg (by omega)] at nothing
    exact lastIndexOf_none nothing index (by omega) occurs
  · intro nowhere
    cases found : strrstr text needle with
    | none => rfl
    | some index => exact absurd ⟨index, strrstr_occursAt found⟩ nowhere

theorem strrstr_of_lastAt {text : List Byte} (nonempty : needle ≠ [])
    (last : LastAt needle text index) :
    strrstr text needle = some index := by
  have within := last.1.within nonempty
  have positive := length_pos_iff.mpr nonempty
  cases found : strrstr text needle with
  | none =>
    exact absurd (exists_occursAt_iff.mp ⟨index, last.1⟩) ((strrstr_eq_none_iff nonempty).mp found)
  | some other =>
    have occurs := strrstr_occursAt found
    have notBehind : ¬index < other := fun behind => last.2 other behind occurs
    unfold strrstr at found
    rw [if_neg (by omega)] at found
    have notBefore : ¬other < index := fun before =>
      (lastIndexOf_some found).2 index before (by omega) last.1
    rw [show other = index by omega]

/-- What `format_final_result` looks for, in its order. -/
def finalResultTokens : List (List Byte) :=
  [ascii "OK\r\n", ascii "ERROR\r\n", ascii "+CME ERROR:", ascii "+CMS ERROR:"]

theorem findFinalResult_eq (text : List Byte) :
    findFinalResult text = finalResultTokens.findSome? (strrstr text) := by
  unfold findFinalResult finalResultTokens
  simp only [findSome?_cons, findSome?_nil]
  cases strrstr text (ascii "OK\r\n") <;>
    cases strrstr text (ascii "ERROR\r\n") <;>
    cases strrstr text (ascii "+CME ERROR:") <;>
    cases strrstr text (ascii "+CMS ERROR:") <;> rfl

theorem finalResultTokens_head {token : List Byte} (member : token ∈ finalResultTokens) :
    ∃ first rest, token = first :: rest ∧ first ≠ 13 ∧ first ≠ 10 := by
  simp only [finalResultTokens, mem_cons, not_mem_nil, or_false] at member
  rcases member with rfl | rfl | rfl | rfl
  · exact ⟨79, ascii "K\r\n", rfl, by decide, by decide⟩
  · exact ⟨69, ascii "RROR\r\n", rfl, by decide, by decide⟩
  · exact ⟨43, ascii "CME ERROR:", rfl, by decide, by decide⟩
  · exact ⟨43, ascii "CMS ERROR:", rfl, by decide, by decide⟩

theorem findFinalResult_occursAt {text : List Byte} (found : findFinalResult text = some result) :
    ∃ token ∈ finalResultTokens, OccursAt token text result := by
  rw [findFinalResult_eq] at found
  obtain ⟨token, member, isFound⟩ := exists_of_findSome?_eq_some found
  exact ⟨token, member, strrstr_occursAt isFound⟩

theorem findFinalResult_le {text : List Byte}
    (found : findFinalResult text = some result) : result ≤ text.length := by
  obtain ⟨token, member, occurs⟩ := findFinalResult_occursAt found
  obtain ⟨first, rest, rfl, -, -⟩ := finalResultTokens_head member
  have within := occurs.within (cons_ne_nil first rest)
  omega

variable {rest : List Byte}

theorem insertCrlf_bufferOf {front moving : List Byte} (nulFree : 0 ∉ front ++ moving)
    (room : (front ++ moving).length + 2 < (bufferOf (front ++ moving) rest).length) :
    (do
      let behind ← stringAt front.length (bufferOf (front ++ moving) rest)
      let moved ← memmove (front.length + crlfStr.length) front.length
        behind.length (bufferOf (front ++ moving) rest)
      let first ← storeByte front.length 13 moved
      let second ← storeByte (front.length + 1) 10 first
      storeByte ((front ++ moving).length + crlfStr.length) 0 second) =
      some (bufferOf (front ++ crlfStr ++ moving) (rest.drop 2)) := by
  have isString : stringAt front.length (bufferOf (front ++ moving) rest) = some moving := by
    rw [stringAt_bufferOf nulFree (by simp), drop_left]
  obtain ⟨first, second, behind, rfl⟩ : ∃ first second behind,
      rest = first :: second :: behind := by
    simp only [bufferOf, length_append, length_cons] at room
    rcases rest with _ | ⟨first, _ | ⟨second, behind⟩⟩
    · simp only [length_nil] at room
      omega
    · simp only [length_cons, length_nil] at room
      omega
    · exact ⟨first, second, behind, rfl⟩
  obtain ⟨old, older, isMoved⟩ :=
    memmove_bufferOf front moving behind first second
  have third : storeByte (front.length + 1) 10
      (front ++ 13 :: older :: (moving ++ second :: behind)) =
      some (front ++ 13 :: 10 :: (moving ++ second :: behind)) := by
    have stored := @storeByte_append (front ++ [13]) (moving ++ second :: behind) older 10
    simpa using stored
  have last : storeByte ((front ++ moving).length + 2) 0
      (front ++ 13 :: 10 :: (moving ++ second :: behind)) =
      some (front ++ 13 :: 10 :: (moving ++ 0 :: behind)) := by
    have stored := @storeByte_append (front ++ 13 :: 10 :: moving) behind second 0
    rw [show (front ++ 13 :: 10 :: moving).length = (front ++ moving).length + 2 by
        simp only [length_append, length_cons]; omega] at stored
    simpa using stored
  rw [isString, bind_eq_bind, bind_some,
    show crlfStr.length = 2 from rfl, isMoved]
  simp only [bind_some, storeByte_append, third, last, bufferOf, crlfStr]
  simp

theorem formatFinalResultIn_eq {text : List Byte} (nulFree : 0 ∉ text) :
    formatFinalResultIn (bufferOf text rest) text.length (bufferOf text rest).length =
      some (bufferOf (formatFinalResult text (bufferOf text rest).length)
        (rest.drop ((formatFinalResult text (bufferOf text rest).length).length -
          text.length))) := by
  have whole : stringAt 0 (bufferOf text rest) = some text :=
    stringAt_bufferOf nulFree (Nat.zero_le _)
  unfold formatFinalResultIn
  rw [whole, bind_eq_bind, bind_some]
  cases found : findFinalResult text with
  | none =>
    rw [formatFinalResult_of_none found, Nat.sub_self]
    rfl
  | some result =>
    have within := findFinalResult_le found
    rw [formatFinalResult_of_some found]
    dsimp only
    split
    · rename_i inserted
      have parts := take_append_drop result text
      have isFront : (text.take result).length = result := by
        rw [length_take]
        omega
      generalize text.take result = front at parts isFront ⊢
      generalize text.drop result = moving at parts ⊢
      subst parts isFront
      have lengths : (front ++ crlfStr ++ moving).length - (front ++ moving).length = 2 := by
        simp only [length_append, crlfStr, length_cons, length_nil]
        omega
      rw [lengths]
      exact insertCrlf_bufferOf nulFree inserted.2
    · rw [Nat.sub_self]
      rfl

/-- The lines that end the response of a command. -/
inductive FinalLine where
  | ok
  | error
  | cmeError (number : Nat)
  | cmsError (number : Nat)
  deriving DecidableEq

namespace FinalLine

def text : FinalLine → List Byte
  | ok => ascii "OK\r\n"
  | error => ascii "ERROR\r\n"
  | cmeError number =>
    ascii "+CME ERROR: " ++ encodeAscii (decimal number) ++ crlfStr
  | cmsError number =>
    ascii "+CMS ERROR: " ++ encodeAscii (decimal number) ++ crlfStr

/-- What `format_final_result` looks for before this line. -/
def earlierTokens : FinalLine → List (List Byte)
  | ok => []
  | error => [ascii "OK\r\n"]
  | cmeError _ => [ascii "OK\r\n", ascii "ERROR\r\n"]
  | cmsError _ => [ascii "OK\r\n", ascii "ERROR\r\n", ascii "+CME ERROR:"]

/-- What `format_final_result` recognises this line by. -/
def token : FinalLine → List Byte
  | ok => ascii "OK\r\n"
  | error => ascii "ERROR\r\n"
  | cmeError _ => ascii "+CME ERROR:"
  | cmsError _ => ascii "+CMS ERROR:"

end FinalLine

/-- The lines of a response before its final one. -/
def informationText (lines : List (List Byte)) : List Byte :=
  lines.flatMap (· ++ crlfStr)

/-- The response as `cmd_send` has it in its buffer. -/
def modemResponse (lines : List (List Byte)) (final : FinalLine) : List Byte :=
  crlfStr ++ informationText lines ++ final.text

/-- The response with an empty line before its final result, where the
information text asks for it and the buffer has room. -/
def formattedResponse (lines : List (List Byte)) (final : FinalLine)
    (bufMaxLen : Nat) : List Byte :=
  if lines ≠ [] ∧ (modemResponse lines final).length + crlfStr.length < bufMaxLen then
    crlfStr ++ informationText lines ++ crlfStr ++ final.text
  else
    modemResponse lines final

theorem digit_of_mem_decimal {number : Nat} {byte : Byte}
    (member : byte ∈ encodeAscii (decimal number)) : 48 ≤ byte ∧ byte ≤ 57 := by
  obtain ⟨character, inDecimal, rfl⟩ := mem_encodeAscii member
  obtain ⟨least, most⟩ := isDigit_toNat (isDigit_of_mem_decimal inDecimal)
  rw [UInt8.le_iff_toNat_le, UInt8.le_iff_toNat_le, UInt8.toNat_ofNat', Nat.mod_eq_of_lt (by omega)]
  exact ⟨least, most⟩

theorem notMem_decimal {number : Nat} {byte : Byte} (other : byte < 48 ∨ 57 < byte) :
    byte ∉ encodeAscii (decimal number) := by
  intro member
  have digit := digit_of_mem_decimal member
  grind

theorem not_infix_numbered {front token : List Byte} {number : Nat} {last : Byte}
    (plain : 10 ∉ front) (other : last < 48 ∨ 57 < last) :
    ¬token ++ [last] ++ crlfStr <:+: front ++ encodeAscii (decimal number) ++ crlfStr := by
  have isEnd : ∀ text : List Byte, text ++ crlfStr = text ++ [13] ++ [10] := by
    intro text
    simp [crlfStr]
  intro isInfix
  rw [isEnd (front ++ _), infix_concat_iff] at isInfix
  rcases isInfix with isSuffix | inside
  · rw [← isEnd] at isSuffix
    obtain ⟨before, same⟩ := isSuffix
    rw [← append_assoc, append_left_inj, ← append_assoc] at same
    have lasts := congrArg List.getLast? same
    have digits : encodeAscii (decimal number) ≠ [] := by
      rw [encodeAscii, ne_eq, map_eq_nil_iff]
      exact Nat.toDigits_ne_nil
    rw [getLast?_concat, getLast?_append_of_ne_nil _ digits] at lasts
    exact notMem_decimal other (mem_of_getLast? lasts.symm)
  · have member : (10 : Byte) ∈ token ++ [last] ++ crlfStr :=
      mem_append_right _ (by decide)
    have inText := inside.subset member
    simp only [mem_append, mem_singleton] at inText
    rcases inText with (inFront | inNumber) | isCr
    · exact plain inFront
    · exact notMem_decimal (by decide) inNumber
    · exact absurd isCr (by decide)

theorem notMem_numbered {front : List Byte} (plain : 43 ∉ front) (number : Nat) :
    43 ∉ front ++ (32 :: encodeAscii (decimal number) ++ crlfStr) := by
  intro member
  simp only [mem_append, mem_cons, crlfStr] at member
  rcases member with inFront | (isBlank | inNumber) | inEnd
  · exact plain inFront
  · exact absurd isBlank (by decide)
  · exact notMem_decimal (by decide) inNumber
  · exact absurd inEnd (by decide)

namespace FinalLine

theorem text_eq (final : FinalLine) : ∃ first rest tail,
    final.token = first :: rest ∧ final.text = first :: rest ++ tail ∧
      first ∉ rest ++ tail := by
  obtain ⟨okOnce, errorOnce, cmeOnce, cmsOnce⟩ : 79 ∉ ascii "K\r\n" ∧ 69 ∉ ascii "RROR\r\n" ∧
        43 ∉ ascii "CME ERROR:" ∧ 43 ∉ ascii "CMS ERROR:" := by
    decide
  cases final with
  | ok =>
    exact ⟨79, ascii "K\r\n", [], rfl, rfl, (append_nil _).symm ▸ okOnce⟩
  | error =>
    exact ⟨69, ascii "RROR\r\n", [], rfl, rfl, (append_nil _).symm ▸ errorOnce⟩
  | cmeError number =>
    exact ⟨43, ascii "CME ERROR:", _, rfl, rfl, notMem_numbered cmeOnce number⟩
  | cmsError number =>
    exact ⟨43, ascii "CMS ERROR:", _, rfl, rfl, notMem_numbered cmsOnce number⟩

theorem not_infix_text {final : FinalLine} {token : List Byte}
    (earlier : token ∈ final.earlierTokens) : ¬token <:+: final.text := by
  obtain ⟨notOk, cmePlain, cmsPlain, letters, cmsOnce, plus⟩ :
      ¬ascii "OK\r\n" <:+: text .error ∧ 10 ∉ ascii "+CME ERROR: " ∧
        10 ∉ ascii "+CMS ERROR: " ∧ ascii "+CME" ≠ ascii "+CMS" ∧
        43 ∉ ascii "CMS ERROR:" ∧ 43 ∈ ascii "+CME ERROR:" := by
    decide
  cases final with
  | ok => cases earlier
  | error =>
    rw [mem_singleton.mp earlier]
    exact notOk
  | cmeError number =>
    rcases mem_pair.mp earlier with rfl | rfl
    · exact @not_infix_numbered _ (ascii "O") number 75 cmePlain (by decide)
    · exact @not_infix_numbered _ (ascii "ERRO") number 82 cmePlain (by decide)
  | cmsError number =>
    rw [earlierTokens, mem_cons, mem_pair] at earlier
    rcases earlier with rfl | rfl | rfl
    · exact @not_infix_numbered _ (ascii "O") number 75 cmsPlain (by decide)
    · exact @not_infix_numbered _ (ascii "ERRO") number 82 cmsPlain (by decide)
    · intro isInfix
      have isText : text (.cmsError number) = 43 :: (ascii "CMS ERROR:" ++
            (32 :: encodeAscii (decimal number) ++ crlfStr)) := rfl
      rw [isText, infix_cons_iff] at isInfix
      rcases isInfix with isPrefix | inside
      · -- The third letter differs.
        have same : ascii "+CME" = ascii "+CMS" :=
          (List.IsPrefix.take isPrefix 4).eq_of_length rfl
        exact letters same
      · exact notMem_numbered cmsOnce number (inside.subset plus)

theorem finalResultTokens_eq (final : FinalLine) :
    ∃ later, finalResultTokens = final.earlierTokens ++ final.token :: later := by
  cases final with
  | ok | error | cmeError number => exact ⟨_, rfl⟩
  | cmsError number => exact ⟨[], rfl⟩

theorem mem_tokens {final : FinalLine} {token : List Byte}
    (earlier : token ∈ final.earlierTokens) : token ∈ finalResultTokens := by
  obtain ⟨later, isSplit⟩ := final.finalResultTokens_eq
  rw [isSplit]
  exact mem_append_left _ earlier

end FinalLine

theorem lineFeed_of_token {token : List Byte}
    (member : token ∈ finalResultTokens) : 10 ∉ token.dropLast := by
  simp only [finalResultTokens, mem_cons, not_mem_nil, or_false] at member
  obtain ⟨inOk, inError, inCme, inCms⟩ :
      10 ∉ (ascii "OK\r\n").dropLast ∧ 10 ∉ (ascii "ERROR\r\n").dropLast ∧
        10 ∉ (ascii "+CME ERROR:").dropLast ∧
        10 ∉ (ascii "+CMS ERROR:").dropLast := by
    decide
  rcases member with rfl | rfl | rfl | rfl
  · exact inOk
  · exact inError
  · exact inCme
  · exact inCms

variable {lines : List (List Byte)}

theorem getLast?_informationText : (crlfStr ++ informationText lines).getLast? = some 10 := by
  rcases eq_nil_or_concat lines with rfl | ⟨before, last, rfl⟩
  · rfl
  · have ends : crlfStr ++ informationText (before.concat last) =
        crlfStr ++ (informationText before ++ last ++ [13]) ++ [10] := by
      simp [informationText, crlfStr]
    rw [ends, getLast?_concat]

variable {final : FinalLine}

theorem infix_modemResponse_iff {token : List Byte} (earlier : token ∈ final.earlierTokens) :
    token <:+: modemResponse lines final ↔ token <:+: informationText lines := by
  have member := FinalLine.mem_tokens earlier
  have within := lineFeed_of_token member
  rw [modemResponse, infix_append_of_separator within getLast?_informationText,
    infix_append_of_separator within rfl]
  obtain ⟨first, rest, rfl, notCr, notLf⟩ := finalResultTokens_head member
  constructor
  · rintro ((inFront | inLines) | inFinal)
    · have isFirst := inFront.subset (mem_cons_self ..)
      rcases mem_pair.mp isFirst with isCr | isLf
      · exact absurd isCr notCr
      · exact absurd isLf notLf
    · exact inLines
    · exact absurd inFinal (FinalLine.not_infix_text earlier)
  · exact fun inLines => .inl (.inr inLines)

def finalLineStart (lines : List (List Byte)) : Nat :=
  (crlfStr ++ informationText lines).length

theorem lastAt_finalLine (lines : List (List Byte)) (final : FinalLine) :
    LastAt final.token (modemResponse lines final) (finalLineStart lines) := by
  obtain ⟨first, rest, tail, isToken, isText, own⟩ := final.text_eq
  rw [isToken, modemResponse, isText]
  exact lastAt_of_notMem own

theorem findFinalResult_of_clean
    (clean : ∀ token ∈ final.earlierTokens, ¬token <:+: informationText lines) :
    findFinalResult (modemResponse lines final) = some (finalLineStart lines) := by
  obtain ⟨later, isSplit⟩ := final.finalResultTokens_eq
  have nonempty : ∀ token ∈ finalResultTokens, token ≠ [] := by
    intro token member isEmpty
    obtain ⟨first, rest, isToken, -⟩ := finalResultTokens_head member
    rw [isEmpty] at isToken
    cases isToken
  have nothing : final.earlierTokens.findSome? (strrstr (modemResponse lines final)) = none := by
    rw [findSome?_eq_none_iff]
    intro token earlier
    rw [strrstr_eq_none_iff (nonempty token (FinalLine.mem_tokens earlier)),
      infix_modemResponse_iff earlier]
    exact clean token earlier
  have own : final.token ∈ finalResultTokens := by
    rw [isSplit]
    exact mem_append_right _ (mem_cons_self ..)
  rw [findFinalResult_eq, isSplit, findSome?_append, nothing,
    findSome?_cons, strrstr_of_lastAt (nonempty _ own) (lastAt_finalLine lines final)]
  rfl

theorem findFinalResult_of_token {token : List Byte} (earlier : token ∈ final.earlierTokens)
    (inLines : token <:+: informationText lines) :
    ∃ result first, findFinalResult (modemResponse lines final) = some result ∧
      result < finalLineStart lines ∧
      (modemResponse lines final)[result]? = some first ∧
      first ≠ 13 ∧ first ≠ 10 := by
  obtain ⟨later, isSplit⟩ := final.finalResultTokens_eq
  cases found : final.earlierTokens.findSome? (strrstr (modemResponse lines final)) with
  | none =>
    obtain ⟨first, rest, rfl, -, -⟩ :=
      finalResultTokens_head (FinalLine.mem_tokens earlier)
    have nothing := List.findSome?_eq_none_iff.mp found _ earlier
    rw [strrstr_eq_none_iff (cons_ne_nil first rest), infix_modemResponse_iff earlier] at nothing
    exact absurd inLines nothing
  | some result =>
    obtain ⟨hit, isEarlier, isFound⟩ := exists_of_findSome?_eq_some found
    have occurs := strrstr_occursAt isFound
    obtain ⟨first, rest, rfl, notCr, notLf⟩ :=
      finalResultTokens_head (FinalLine.mem_tokens isEarlier)
    refine ⟨result, first, ?_, ?_, ?_, notCr, notLf⟩
    · rw [findFinalResult_eq, isSplit, findSome?_append, found]
      rfl
    · by_contra behind
      apply FinalLine.not_infix_text isEarlier
      rw [OccursAt, modemResponse, drop_append,
        drop_of_length_le (Nat.le_of_not_lt behind)] at occurs
      exact occurs.isInfix.trans (drop_suffix _ _).isInfix
    · obtain ⟨tail, isDrop⟩ := occurs
      have atResult := congrArg List.head? isDrop
      rw [head?_drop] at atResult
      exact atResult.symm

theorem nulFree_modemResponse (nulFree : ∀ line ∈ lines, 0 ∉ line) (final : FinalLine) :
    0 ∉ modemResponse lines final := by
  have inFinal : 0 ∉ final.text := by
    obtain ⟨inOk, inError, inCme, inCms⟩ : 0 ∉ ascii "OK\r\n" ∧ 0 ∉ ascii "ERROR\r\n" ∧
          0 ∉ ascii "+CME ERROR: " ∧ 0 ∉ ascii "+CMS ERROR: " := by
      decide
    cases final with
    | ok => exact inOk
    | error => exact inError
    | cmeError number =>
      intro member
      rcases mem_append.mp member with isText | isEnd
      · rcases mem_append.mp isText with inFront | inNumber
        · exact inCme inFront
        · exact notMem_decimal (by decide) inNumber
      · exact absurd isEnd (by decide)
    | cmsError number =>
      intro member
      rcases mem_append.mp member with isText | isEnd
      · rcases mem_append.mp isText with inFront | inNumber
        · exact inCms inFront
        · exact notMem_decimal (by decide) inNumber
      · exact absurd isEnd (by decide)
  intro member
  rcases mem_append.mp member with inFront | isFinal
  · rcases mem_append.mp inFront with isStart | inLines
    · exact absurd isStart (by decide)
    · obtain ⟨line, isLine, inLine⟩ := mem_flatMap.mp inLines
      rcases mem_append.mp inLine with isText | isEnd
      · exact nulFree line isLine isText
      · exact absurd isEnd (by decide)
  · exact inFinal isFinal

theorem bufferOf_inj {text other behind : List Byte} (nulFree : 0 ∉ text)
    (otherFree : 0 ∉ other) (same : bufferOf text rest = bufferOf other behind) : text = other := by
  have read := @stringAt_bufferOf text rest nulFree 0 (Nat.zero_le _)
  rw [same, stringAt_bufferOf otherFree (Nat.zero_le _)] at read
  exact (Option.some.inj read).symm

theorem nulFree_formatFinalResult {text : List Byte} (nulFree : 0 ∉ text)
    (bufMaxLen : Nat) : 0 ∉ formatFinalResult text bufMaxLen := by
  cases found : findFinalResult text with
  | none => rwa [formatFinalResult_of_none found]
  | some result =>
    rw [formatFinalResult_of_some found]
    split
    · intro member
      rcases mem_append.mp member with inFront | isBehind
      · rcases mem_append.mp inFront with isFront | isEnd
        · exact nulFree (mem_of_mem_take isFront)
        · exact absurd isEnd (by decide)
      · exact nulFree (mem_of_mem_drop isBehind)
    · exact nulFree

theorem nulFree_formattedResponse (nulFree : 0 ∉ modemResponse lines final)
    (bufMaxLen : Nat) : 0 ∉ formattedResponse lines final bufMaxLen := by
  unfold formattedResponse
  split
  · intro member
    rcases mem_append.mp member with inFront | isFinal
    · rcases mem_append.mp inFront with inLines | isEnd
      · exact nulFree (mem_append_left _ inLines)
      · exact absurd isEnd (by decide)
    · exact nulFree (mem_append_right _ isFinal)
  · exact nulFree

theorem formatFinalResult_of_full {text : List Byte} {bufMaxLen : Nat}
    (full : bufMaxLen ≤ text.length + crlfStr.length) :
    formatFinalResult text bufMaxLen = text := by
  cases found : findFinalResult text with
  | none => exact formatFinalResult_of_none found bufMaxLen
  | some result =>
    rw [formatFinalResult_of_some found, if_neg (by omega)]

theorem finalLineStart_eq_iff : finalLineStart lines = crlfStr.length ↔ lines = [] := by
  cases lines with
  | nil => exact ⟨fun _ => rfl, fun _ => rfl⟩
  | cons line rest =>
    refine ⟨fun same => ?_, fun impossible => by cases impossible⟩
    simp only [finalLineStart, informationText, flatMap_cons,
      length_append, crlfStr, length_cons] at same
    omega

theorem formatFinalResult_of_clean
    (clean : ∀ token ∈ final.earlierTokens, ¬token <:+: informationText lines)
    (bufMaxLen : Nat) :
    formatFinalResult (modemResponse lines final) bufMaxLen =
      formattedResponse lines final bufMaxLen := by
  have isFront : (modemResponse lines final).take (finalLineStart lines) =
      crlfStr ++ informationText lines := take_left
  have isFinal : (modemResponse lines final).drop (finalLineStart lines) = final.text := drop_left
  rw [formatFinalResult_of_some (findFinalResult_of_clean clean),
    formattedResponse, isFront, isFinal]
  simp only [ne_eq, finalLineStart_eq_iff]

theorem formatFinalResult_of_token {token : List Byte} (earlier : token ∈ final.earlierTokens)
    (inLines : token <:+: informationText lines) {bufMaxLen : Nat}
    (room : (modemResponse lines final).length + crlfStr.length < bufMaxLen) :
    formatFinalResult (modemResponse lines final) bufMaxLen ≠
      formattedResponse lines final bufMaxLen := by
  obtain ⟨result, first, found, before, atResult, notCr, -⟩ :=
    findFinalResult_of_token earlier inLines
  have some : lines ≠ [] := by
    rintro rfl
    obtain ⟨first, rest, rfl, -⟩ :=
      finalResultTokens_head (FinalLine.mem_tokens earlier)
    exact cons_ne_nil first rest (infix_nil.mp inLines)
  have isFormatted : formattedResponse lines final bufMaxLen =
      crlfStr ++ informationText lines ++ (crlfStr ++ final.text) := by
    rw [formattedResponse, if_pos ⟨some, room⟩, append_assoc _ crlfStr]
  rw [formatFinalResult_of_some found, isFormatted]
  intro same
  split at same
  · have atFormatted : (crlfStr ++ informationText lines ++
        (crlfStr ++ final.text))[result]? = Option.some first := by
      rw [getElem?_append_left before, ← atResult, modemResponse, getElem?_append_left before]
    have within : result ≤ (modemResponse lines final).length :=
      findFinalResult_le found
    have isCr : ((modemResponse lines final).take result ++ crlfStr ++
        (modemResponse lines final).drop result)[result]? = Option.some 13 := by
      rw [append_assoc, getElem?_append_right
          (by rw [length_take]; omega), length_take_of_le within,
        Nat.sub_self]
      rfl
    rw [same, atFormatted] at isCr
    exact notCr (Option.some.inj isCr)
  · have lengths := congrArg List.length same
    simp only [modemResponse, length_append, crlfStr, length_cons, length_nil] at lengths
    omega

theorem formatFinalResult_iff (lines : List (List Byte)) (final : FinalLine) (bufMaxLen : Nat) :
    formatFinalResult (modemResponse lines final) bufMaxLen =
        formattedResponse lines final bufMaxLen ↔
      bufMaxLen ≤ (modemResponse lines final).length + crlfStr.length ∨
        ∀ token ∈ final.earlierTokens, ¬token <:+: informationText lines := by
  by_cases full : bufMaxLen ≤ (modemResponse lines final).length + crlfStr.length
  · refine ⟨fun _ => .inl full, fun _ => ?_⟩
    rw [formatFinalResult_of_full full, formattedResponse, if_neg (by omega)]
  · constructor
    · intro formatted
      right
      intro token earlier inLines
      exact formatFinalResult_of_token earlier inLines (Nat.lt_of_not_le full) formatted
    · rintro (isFull | clean)
      · exact absurd isFull full
      · exact formatFinalResult_of_clean clean bufMaxLen

/-- When the buffer holds the response with its empty line, ended by a NUL, and
is unchanged behind. -/
theorem formatFinalResultIn_exact {lines : List (List Byte)}
    (nulFree : ∀ line ∈ lines, 0 ∉ line) (final : FinalLine)
    (rest : List Byte) :
    formatFinalResultIn (bufferOf (modemResponse lines final) rest)
        (modemResponse lines final).length
        (bufferOf (modemResponse lines final) rest).length =
      some (bufferOf (formattedResponse lines final
          (bufferOf (modemResponse lines final) rest).length)
        (rest.drop ((formattedResponse lines final
          (bufferOf (modemResponse lines final) rest).length).length -
            (modemResponse lines final).length))) ↔
      (bufferOf (modemResponse lines final) rest).length ≤
          (modemResponse lines final).length + crlfStr.length ∨
        ∀ token ∈ final.earlierTokens, ¬token <:+: informationText lines := by
  have isFree := nulFree_modemResponse nulFree final
  generalize isSize : (bufferOf (modemResponse lines final) rest).length = size
  rw [← formatFinalResult_iff, ← isSize, formatFinalResultIn_eq isFree, isSize]
  constructor
  · intro same
    exact bufferOf_inj (nulFree_formatFinalResult isFree size)
      (nulFree_formattedResponse isFree size) (Option.some.inj same)
  · intro same
    rw [same]

/-- The answer to a read command. -/
theorem formatFinalResultIn_exact_read : formatFinalResultIn
        (bufferOf (modemResponse [ascii "+CFUN: 1"] .ok) (replicate 8 0))
        16 25 =
      some (bufferOf (formattedResponse [ascii "+CFUN: 1"] .ok 25) (replicate 6 0)) :=
  (@formatFinalResultIn_exact [ascii "+CFUN: 1"] (by decide)
    .ok (replicate 8 0)).mpr (.inr (by rintro token ⟨⟩))

/-- A line that ends with `OK` is taken for the final result. -/
theorem final_result_in_information_text :
    modemResponse [ascii "BOOK"] .error = ascii "\r\nBOOK\r\nERROR\r\n" ∧
      formatFinalResultIn (bufferOf (modemResponse [ascii "BOOK"] .error) (replicate 8 0)) 15 24 =
        some (bufferOf (ascii "\r\nBO\r\nOK\r\nERROR\r\n") (replicate 6 0)) ∧
      formatFinalResultIn (bufferOf (modemResponse [ascii "BOOK"] .error) (replicate 8 0)) 15 24 ≠
        some (bufferOf (formattedResponse [ascii "BOOK"] .error 24) (replicate 6 0)) := by
  decide

end SerialModem.AtHost
