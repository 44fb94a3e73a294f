import SerialModem.Dfu.System

/-!
# What the script makes of the answers

`OK` is found where the device has sent it, because nothing else that the device
sends while a command is executed contains the letter.  A status of zero is only
read on a line that reports a success, however the line is cut.
-/

namespace SerialModem.Dfu

open Library AtHost List

/-- The letter that only `OK` contains. -/
def WithoutK (text : Text) : Prop :=
  'K' ∉ text

instance (text : Text) : Decidable (WithoutK text) :=
  inferInstanceAs (Decidable ('K' ∉ text))

theorem WithoutK.append {first second : Text} (left : WithoutK first)
    (right : WithoutK second) : WithoutK (first ++ second) := by
  intro member
  rcases mem_append.mp member with inFirst | inSecond
  · exact left inFirst
  · exact right inSecond

theorem WithoutK.suffix {text part : Text} (without : WithoutK text)
    (isSuffix : part <:+ text) : WithoutK part :=
  fun member => without (isSuffix.subset member)

theorem withoutK_line (line : XdfuLine) : WithoutK line.text := by
  obtain ⟨type, operation, failed⟩ := line
  cases type <;> cases operation <;> cases failed <;> decide

theorem withoutK_lines (lines : List XdfuLine) : WithoutK (lines.flatMap XdfuLine.text) := by
  intro member
  obtain ⟨line, _, inLine⟩ := mem_flatMap.mp member
  exact withoutK_line line inLine

theorem withoutK_error : WithoutK errorText := by
  decide

theorem withoutK_xdatamode : WithoutK xdatamodeText := by
  decide

/-- The text ends with the answer `OK` and what has been sent since. -/
structure Confirms (text since : Text) : Prop where
  answer : ∃ before, text = before ++ okText ++ since ∧ WithoutK before

theorem Confirms.append {text since : Text} (confirms : Confirms text since)
    (more : Text) : Confirms (text ++ more) (since ++ more) := by
  obtain ⟨before, rfl, without⟩ := confirms.answer
  exact ⟨before, by simp, without⟩

variable {buffer : Text}

theorem mem_of_waitForResponse (found : waitForResponse "OK" buffer = some true) :
    'K' ∈ buffer := by
  unfold waitForResponse at found
  split at found
  · rename_i isOk
    have part : ['O', 'K'] <:+: buffer := by
      simpa [isIn] using isOk
    exact part.subset (by decide)
  · split at found <;> simp at found

theorem waitForResponse_ne {unread : Text} (without : WithoutK (buffer ++ unread)) :
    waitForResponse "OK" buffer ≠ some true := by
  intro found
  exact without (mem_append_left _ (mem_of_waitForResponse found))

theorem Confirms.unread {unread since : Text} (confirms : Confirms (buffer ++ unread) since)
    (found : waitForResponse "OK" buffer = some true) :
    unread <:+ ['\r', '\n'] ++ since := by
  obtain ⟨before, whole, without⟩ := confirms.answer
  have isOk : okText = ['\r', '\n', 'O'] ++ 'K' :: ['\r', '\n'] := by decide
  rw [isOk, ← append_assoc, append_assoc, cons_append] at whole
  refine suffix_of_marker whole ?_ (mem_of_waitForResponse found)
  exact without.append (by decide)

def SilentLine (line : Text) : Prop :=
  '\n' ∉ line ∧ ∀ part ∈ line.inits, lineStatus part ≠ some 0

instance (line : Text) : Decidable (SilentLine line) :=
  inferInstanceAs (Decidable (_ ∧ _))

def Silent (text : Text) : Prop :=
  ∃ lines : List Text, text = lines.flatMap (· ++ ['\n']) ∧ ∀ line ∈ lines, SilentLine line

theorem Silent.append {first second : Text} (left : Silent first)
    (right : Silent second) : Silent (first ++ second) := by
  obtain ⟨firstLines, rfl, firstSilent⟩ := left
  obtain ⟨secondLines, rfl, secondSilent⟩ := right
  refine ⟨firstLines ++ secondLines, by simp, ?_⟩
  intro line member
  rcases mem_append.mp member with inFirst | inSecond
  · exact firstSilent line inFirst
  · exact secondSilent line inSecond

theorem Silent.line {line : Text} (silent : SilentLine line) : Silent (line ++ ['\n']) := by
  refine ⟨[line], by simp, ?_⟩
  refine forall_mem_singleton.mpr ?_
  exact silent

theorem silentLine_of_failed (line : XdfuLine) (failed : line.failed = true) :
    SilentLine line.body := by
  obtain ⟨type, operation, isFailed⟩ := line
  cases failed
  cases type <;> cases operation <;> decide

theorem silent_of_failed {lines : List XdfuLine} (failed : ∀ line ∈ lines, line.failed = true) :
    Silent (lines.flatMap XdfuLine.text) := by
  refine ⟨lines.map XdfuLine.body, ?_, ?_⟩
  · rw [flatMap_map]
    rfl
  · intro part member
    obtain ⟨line, isMember, rfl⟩ := List.mem_map.mp member
    exact silentLine_of_failed line (failed line isMember)

theorem silent_xdatamode : Silent xdatamodeText := by
  refine ⟨[['\r'], "#XDATAMODE: 0\r".toList], by decide, ?_⟩
  decide

theorem silent_of_lineEnd {text : Text} (isSuffix : text <:+ ['\r', '\n']) : Silent text := by
  have cases : text = ['\r', '\n'] ∨ text = ['\n'] ∨ text = [] := by
    have member := (mem_tails text ['\r', '\n']).mpr isSuffix
    simpa using member
  rcases cases with rfl | rfl | rfl
  · have returns : SilentLine ['\r'] := by decide
    exact Silent.line returns
  · have nothing : SilentLine [] := by decide
    exact Silent.line nothing
  · exact ⟨[], rfl, by simp⟩

theorem Silent.waitForUrc_ne {unread : Text}
    (silent : Silent (buffer ++ unread)) : waitForUrc buffer ≠ some 0 := by
  obtain ⟨lines, whole, silentLines⟩ := silent
  intro found
  unfold waitForUrc at found
  split at found
  · obtain ⟨part, isPart, reads⟩ := exists_of_findSome?_eq_some found
    rcases line_of_prefix (fun line member => (silentLines line member).1)
      ⟨unread, whole⟩ isPart with rfl | ⟨line, member, starts⟩
    · revert reads
      decide
    · exact (silentLines line member).2 part ((mem_inits part line).mpr starts) reads
  · cases found

end SerialModem.Dfu
