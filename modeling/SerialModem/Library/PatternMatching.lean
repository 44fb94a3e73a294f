import Mathlib.Data.List.Infix

/-!
# One-counter pattern matching

A one-counter matcher keeps the number of pattern items matched so far.  An
item that continues the match advances the counter; any other item sends the
counter to a fallback value that depends on the item alone.  Two fallbacks are
studied: the restart fallback tries the item as the first one of the pattern,
the drop fallback forgets it.

The restart matcher is exact when no nonempty border of a matched part could
have been continued by an item that the matched part refuses.  This condition
is also necessary.
-/

namespace SerialModem.Library.PatternMatching

open List

universe u

variable {alpha : Type u} [DecidableEq alpha]

def advance (pattern : List alpha) (fallback : alpha → Nat) (matched : Nat) (item : alpha) : Nat :=
  if pattern[matched]? = some item then
    matched + 1
  else
    fallback item

def restartFallback (pattern : List alpha) (item : alpha) : Nat :=
  if pattern[0]? = some item then 1 else 0

def dropFallback (_item : alpha) : Nat := 0

def scan (pattern : List alpha) (fallback : alpha → Nat) (stream : List alpha) : Nat :=
  stream.foldl (advance pattern fallback) 0

def Unfinished (pattern : List alpha) (fallback : alpha → Nat) (stream : List alpha) : Prop :=
  ∀ initial, initial <+: stream → scan pattern fallback initial < pattern.length

omit [DecidableEq alpha] in
theorem prefix_append_cases {initial first second : List alpha}
    (isPrefix : initial <+: first ++ second) :
    initial <+: first ∨ ∃ rest, initial = first ++ rest ∧ rest <+: second := by
  rcases prefix_or_prefix_of_prefix isPrefix (prefix_append first second) with inFirst | ⟨rest, rfl⟩
  · exact .inl inFirst
  · exact .inr ⟨rest, rfl, (prefix_append_right_inj first).mp isPrefix⟩

variable {pattern : List alpha} {fallback : alpha → Nat} {stream : List alpha}

theorem unfinished_iff_take : (∀ count, count < stream.length + 1 →
      scan pattern fallback (stream.take count) < pattern.length) ↔
      Unfinished pattern fallback stream := by
  constructor
  · intro bounded initial isInitial
    rw [prefix_iff_eq_take.mp isInitial]
    exact bounded initial.length (Nat.lt_succ_of_le isInitial.length_le)
  · intro unfinished count _
    exact unfinished _ (List.take_prefix count stream)

instance (pattern : List alpha) (fallback : alpha → Nat)
    (stream : List alpha) : Decidable (Unfinished pattern fallback stream) :=
  decidable_of_iff _ unfinished_iff_take

theorem Unfinished.nil (nonempty : pattern ≠ [])
    (fallback : alpha → Nat) : Unfinished pattern fallback [] := by
  intro initial isInitial
  rw [prefix_nil.mp isInitial]
  exact length_pos_iff.mpr nonempty

variable {item : alpha}

theorem unfinished_append_singleton_iff :
    Unfinished pattern fallback (stream ++ [item]) ↔ Unfinished pattern fallback stream ∧
        scan pattern fallback (stream ++ [item]) < pattern.length := by
  constructor
  · intro unfinished
    exact ⟨fun initial isInitial =>
        unfinished initial (isInitial.trans (prefix_append _ _)),
      unfinished _ (prefix_refl _)⟩
  · rintro ⟨before, last⟩ initial isInitial
    rcases prefix_concat_iff.mp isInitial with whole | shorter
    · rw [whole]
      exact last
    · exact before initial shorter

/-- Every nonempty proper border of a matched part is continued by the item
that continues the matched part. -/
def RestartSafe (pattern : List alpha) : Prop :=
  ∀ matched, matched < pattern.length → ∀ border, border < matched → 0 < border →
      pattern.take border <:+ pattern.take matched →
      pattern[border]? = pattern[matched]?

instance (pattern : List alpha) : Decidable (RestartSafe pattern) :=
  inferInstanceAs (Decidable (∀ matched, matched < pattern.length →
    ∀ border, border < matched → 0 < border → pattern.take border <:+ pattern.take matched →
      pattern[border]? = pattern[matched]?))

def Constant (pattern : List alpha) : Prop :=
  ∀ index, index < pattern.length → pattern[index]? = pattern[0]?

instance (pattern : List alpha) : Decidable (Constant pattern) :=
  inferInstanceAs (Decidable (∀ index, index < pattern.length → pattern[index]? = pattern[0]?))

variable {matched : Nat}

theorem advance_of_match (next : pattern[matched]? = some item) :
    advance pattern fallback matched item = matched + 1 := by
  simp [advance, next]

theorem advance_of_mismatch (next : pattern[matched]? ≠ some item) :
    advance pattern fallback matched item = fallback item := by
  simp [advance, next]

theorem restartFallback_le_one (pattern : List alpha) (item : alpha) :
    restartFallback pattern item ≤ 1 := by
  unfold restartFallback
  split <;> omega

omit [DecidableEq alpha] in
theorem dropFallback_le_one (item : alpha) : dropFallback item ≤ 1 :=
  Nat.zero_le 1

theorem scan_append_singleton (pattern : List alpha) (fallback : alpha → Nat)
    (stream : List alpha) (item : alpha) :
    scan pattern fallback (stream ++ [item]) =
      advance pattern fallback (scan pattern fallback stream) item := by
  simp [scan]

theorem foldl_advance_le (pattern : List alpha) (bounded : ∀ item, fallback item ≤ 1) :
    ∀ (stream : List alpha) (matched : Nat),
      stream.foldl (advance pattern fallback) matched ≤ matched + stream.length
  | [], matched => by simp
  | item :: rest, matched => by
    have tail :=
      foldl_advance_le pattern bounded rest (advance pattern fallback matched item)
    have step : advance pattern fallback matched item ≤ matched + 1 := by
      unfold advance
      split
      · exact Nat.le_refl _
      · exact Nat.le_trans (bounded item) (Nat.le_add_left 1 matched)
    simp only [foldl_cons, length_cons]
    omega

theorem foldl_advance_drop (pattern : List alpha) (fallback : alpha → Nat) :
    ∀ (count matched : Nat), matched + count ≤ pattern.length →
      ((pattern.drop matched).take count).foldl (advance pattern fallback) matched = matched + count
  | 0, matched, _ => by simp
  | count + 1, matched, within => by
    have inside : matched < pattern.length := by omega
    have tail :=
      foldl_advance_drop pattern fallback count (matched + 1) (by omega)
    rw [drop_eq_getElem_cons inside, take_succ_cons, foldl_cons,
      advance_of_match (getElem?_eq_getElem inside), tail]
    omega

theorem scan_take (pattern : List alpha) (fallback : alpha → Nat)
    {count : Nat} (within : count ≤ pattern.length) :
    scan pattern fallback (pattern.take count) = count := by
  simpa [scan] using foldl_advance_drop pattern fallback count 0 (by omega)

/-- `matched` is the length of the longest prefix of the pattern that ends the
stream. -/
structure Longest
    (pattern stream : List alpha) (matched : Nat) : Prop where
  within : matched ≤ pattern.length
  suffix : pattern.take matched <:+ stream
  maximal : ∀ other, other ≤ pattern.length → pattern.take other <:+ stream → other ≤ matched

omit [DecidableEq alpha] in
theorem take_succ_suffix_append_singleton_iff
    {pattern stream : List alpha} {item : alpha} {count : Nat}
    (within : count < pattern.length) :
    pattern.take (count + 1) <:+ stream ++ [item] ↔
      pattern.take count <:+ stream ∧ pattern[count]? = some item := by
  have split : pattern.take (count + 1) = pattern.take count ++ [pattern[count]] := by
    simp
  rw [getElem?_eq_getElem within, split]
  constructor
  · rintro ⟨initial, equality⟩
    rw [← append_assoc] at equality
    obtain ⟨sameStream, sameItem⟩ := append_inj' equality rfl
    exact ⟨⟨initial, sameStream⟩, by simpa using sameItem⟩
  · rintro ⟨⟨initial, sameStream⟩, sameItem⟩
    refine ⟨initial, ?_⟩
    rw [← append_assoc, sameStream, Option.some.inj sameItem]

omit [DecidableEq alpha] in
theorem longest_nil (pattern : List alpha) : Longest pattern [] 0 where
  within := Nat.zero_le _
  suffix := by simp
  maximal := by
    intro other within suffix
    have empty : (pattern.take other).length = 0 := by
      simpa using congrArg List.length (suffix_nil.mp suffix)
    rw [length_take] at empty
    omega

omit [DecidableEq alpha] in
theorem Longest.append_match {pattern stream : List alpha}
    (longest : Longest pattern stream matched)
    (unfinished : matched < pattern.length)
    (next : pattern[matched]? = some item) :
    Longest pattern (stream ++ [item]) (matched + 1) where
  within := unfinished
  suffix :=
    (take_succ_suffix_append_singleton_iff unfinished).mpr ⟨longest.suffix, next⟩
  maximal := by
    intro other within suffix
    cases other with
    | zero => exact Nat.zero_le _
    | succ other =>
      have shorter :=
        (take_succ_suffix_append_singleton_iff within).mp suffix
      exact Nat.succ_le_succ <| longest.maximal other (Nat.le_of_lt within) shorter.1

omit [DecidableEq alpha] in
theorem Longest.le_one_of_mismatch {pattern stream : List alpha} (safe : RestartSafe pattern)
    (longest : Longest pattern stream matched)
    (unfinished : matched < pattern.length)
    (next : pattern[matched]? ≠ some item)
    {other : Nat} (within : other ≤ pattern.length)
    (suffix : pattern.take other <:+ stream ++ [item]) :
    other ≤ 1 := by
  by_contra long
  obtain ⟨border, rfl⟩ : ∃ border, other = border + 1 :=
    ⟨other - 1, by omega⟩
  obtain ⟨borderSuffix, borderNext⟩ :=
    (take_succ_suffix_append_singleton_iff within).mp suffix
  have borderLe := longest.maximal border (by omega) borderSuffix
  have borderNe : border ≠ matched := by
    rintro rfl
    exact next borderNext
  have inMatched : pattern.take border <:+ pattern.take matched :=
    suffix_of_suffix_length_le borderSuffix longest.suffix (by
      rw [length_take, length_take]
      omega)
  have continued :=
    safe matched unfinished border (by omega) (by omega) inMatched
  exact next (continued ▸ borderNext)

theorem Longest.append_mismatch {pattern stream : List alpha} (safe : RestartSafe pattern)
    (longest : Longest pattern stream matched)
    (unfinished : matched < pattern.length)
    (next : pattern[matched]? ≠ some item) :
    Longest pattern (stream ++ [item]) (restartFallback pattern item) := by
  have positive : 0 < pattern.length := by omega
  have upper : ∀ other, other ≤ pattern.length →
      pattern.take other <:+ stream ++ [item] → other ≤ 1 :=
    fun _ within suffix =>
      longest.le_one_of_mismatch safe unfinished next within suffix
  have single : pattern.take 1 <:+ stream ++ [item] ↔ pattern[0]? = some item := by
    have unfolded :=
      @take_succ_suffix_append_singleton_iff _ pattern stream item 0 positive
    simpa using unfolded
  by_cases first : pattern[0]? = some item
  · have one : restartFallback pattern item = 1 := by
      simp [restartFallback, first]
    rw [one]
    exact ⟨positive, single.mpr first, upper⟩
  · have zero : restartFallback pattern item = 0 := by
      simp [restartFallback, first]
    rw [zero]
    refine ⟨Nat.zero_le _, by simp, ?_⟩
    intro other within suffix
    have short := upper other within suffix
    by_contra nonzero
    obtain rfl : other = 1 := by omega
    exact first (single.mp suffix)

theorem Longest.advance {pattern stream : List alpha} (safe : RestartSafe pattern)
    (longest : Longest pattern stream matched)
    (unfinished : matched < pattern.length) (item : alpha) :
    Longest pattern (stream ++ [item])
      (advance pattern (restartFallback pattern) matched item) := by
  by_cases next : pattern[matched]? = some item
  · rw [advance_of_match next]
    exact longest.append_match unfinished next
  · rw [advance_of_mismatch next]
    exact longest.append_mismatch safe unfinished next

omit [DecidableEq alpha] in
theorem Longest.finished_iff {pattern stream : List alpha}
    (longest : Longest pattern stream matched) :
    matched = pattern.length ↔ pattern <:+ stream := by
  constructor
  · intro finished
    simpa [finished] using longest.suffix
  · intro suffix
    apply Nat.le_antisymm longest.within
    exact longest.maximal pattern.length (Nat.le_refl _) (by simpa using suffix)

theorem scan_longest (safe : RestartSafe pattern)
    (unfinished : Unfinished pattern (restartFallback pattern) stream) :
    Longest pattern stream (scan pattern (restartFallback pattern) stream) := by
  induction stream using reverseRecOn with
  | nil => exact longest_nil pattern
  | append_singleton stream item ih =>
    have before := (unfinished_append_singleton_iff.mp unfinished).1
    rw [scan_append_singleton]
    exact (ih before).advance safe (before stream (prefix_refl stream)) item

theorem scan_finishes_iff_suffix (safe : RestartSafe pattern)
    (unfinished : Unfinished pattern (restartFallback pattern) stream)
    (item : alpha) :
    scan pattern (restartFallback pattern) (stream ++ [item]) = pattern.length ↔
      pattern <:+ stream ++ [item] := by
  have longest := scan_longest safe unfinished
  have inside := unfinished stream (prefix_refl stream)
  rw [scan_append_singleton]
  exact (longest.advance safe inside item).finished_iff

theorem exists_missed_occurrence (unsafePattern : ¬ RestartSafe pattern) :
    ∃ stream, pattern <:+ stream ∧ Unfinished pattern (restartFallback pattern) stream := by
  unfold RestartSafe at unsafePattern
  push Not at unsafePattern
  obtain ⟨matched, inside, border, short, positive, suffix, differs⟩ :=
    unsafePattern
  have borderInside : border < pattern.length := by omega
  refine ⟨pattern.take matched ++ pattern.drop border, ?_, ?_⟩
  · obtain ⟨initial, equality⟩ := suffix
    exact ⟨initial, by
      rw [← equality, append_assoc, take_append_drop]⟩
  · intro initial isInitial
    rcases prefix_append_cases isInitial with inFirst | ⟨rest, rfl, inSecond⟩
    · rw [prefix_iff_eq_take.mp inFirst, take_take, scan_take _ _ (by omega)]
      omega
    · rw [scan, foldl_append, ← scan, scan_take _ _ (Nat.le_of_lt inside)]
      cases rest with
      | nil => exact inside
      | cons item rest =>
        have headItem : pattern[border]? = some item := by
          have front := inSecond.getElem (i := 0) (by simp)
          rw [getElem?_eq_getElem borderInside]
          simpa using front.symm
        have refused : pattern[matched]? ≠ some item := by
          rw [← headItem]
          exact fun same => differs same.symm
        have bound :=
          foldl_advance_le pattern (restartFallback_le_one pattern) rest
            (restartFallback pattern item)
        have first := restartFallback_le_one pattern item
        have lengths := inSecond.length_le
        simp only [length_cons, length_drop] at lengths
        rw [foldl_cons, advance_of_mismatch refused]
        omega

omit [DecidableEq alpha] in
theorem Constant.restartSafe (constant : Constant pattern) : RestartSafe pattern := by
  intro matched inside border short _ _
  rw [constant matched inside, constant border (by omega)]

theorem Constant.advance_eq (constant : Constant pattern) (inside : matched < pattern.length) (item : alpha) :
    advance pattern (restartFallback pattern) matched item =
      advance pattern dropFallback matched item := by
  by_cases next : pattern[matched]? = some item
  · rw [advance_of_match next, advance_of_match next]
  · rw [advance_of_mismatch next, advance_of_mismatch next]
    rw [constant matched inside] at next
    simp [restartFallback, dropFallback, next]

/-- A pattern that is not constant separates the two fallbacks: on the stream
below the restart matcher finishes with the last item and the drop matcher
does not finish. -/
theorem exists_separating_stream (varied : ¬ Constant pattern) :
    ∃ stream item, Unfinished pattern (restartFallback pattern) stream ∧
      scan pattern (restartFallback pattern) (stream ++ [item]) = pattern.length ∧
      Unfinished pattern dropFallback (stream ++ [item]) := by
  unfold Constant at varied
  push Not at varied
  obtain ⟨index, inside, headDiffers⟩ := varied
  have patternPositive : 0 < pattern.length := by omega
  obtain ⟨head, tail, shape⟩ : ∃ head tail, pattern = head :: tail :=
    exists_cons_of_length_pos patternPositive
  have refused : pattern[index]? ≠ some head := by
    simpa [shape] using headDiffers
  have headFirst : pattern[0]? = some head := by simp [shape]
  have tailDrop : tail = pattern.drop 1 := by simp [shape]
  have afterPrefix : ∀ (fallback : alpha → Nat) (rest : List alpha),
      scan pattern fallback (pattern.take index ++ head :: rest) =
        rest.foldl (advance pattern fallback) (fallback head) := by
    intro fallback rest
    rw [scan, foldl_append, ← scan, scan_take _ _ (Nat.le_of_lt inside), foldl_cons,
      advance_of_mismatch refused]
  have unfinishedOf : ∀ (fallback : alpha → Nat) (rest : List alpha),
      (∀ part, part <+: rest → part.foldl (advance pattern fallback) (fallback head) <
          pattern.length) →
      Unfinished pattern fallback (pattern.take index ++ head :: rest) := by
    intro fallback rest bounded initial isInitial
    rcases prefix_append_cases isInitial with inFirst | ⟨later, rfl, inSecond⟩
    · rw [prefix_iff_eq_take.mp inFirst, take_take, scan_take _ _ (by omega)]
      omega
    · cases later with
      | nil =>
        rw [append_nil, scan_take _ _ (Nat.le_of_lt inside)]
        exact inside
      | cons first later =>
        obtain ⟨rfl, part⟩ := cons_prefix_cons.mp inSecond
        rw [afterPrefix]
        exact bounded later part
  have restartHead : restartFallback pattern head = 1 := by
    simp [restartFallback, headFirst]
  have tailNonempty : tail ≠ [] := by
    rintro rfl
    simp only [shape, length_singleton] at inside
    obtain rfl : index = 0 := by omega
    exact headDiffers rfl
  obtain ⟨body, last, tailShape⟩ : ∃ body last, tail = body ++ [last] :=
    ⟨tail.dropLast, tail.getLast tailNonempty, (dropLast_append_getLast tailNonempty).symm⟩
  have lengths : pattern.length = body.length + 2 := by
    simp [shape, tailShape]
  refine ⟨pattern.take index ++ head :: body, last, ?_, ?_, ?_⟩
  · apply unfinishedOf
    intro part isPart
    have bound := foldl_advance_le pattern
      (restartFallback_le_one pattern) part (restartFallback pattern head)
    have partLength := isPart.length_le
    omega
  · rw [append_assoc, cons_append, ← tailShape, afterPrefix, restartHead, tailDrop]
    have complete :=
      foldl_advance_drop pattern (restartFallback pattern) (pattern.length - 1) 1 (by omega)
    rw [take_of_length_le (by simp)] at complete
    omega
  · rw [append_assoc, cons_append, ← tailShape]
    apply unfinishedOf
    intro part isPart
    have bound := foldl_advance_le pattern dropFallback_le_one part (dropFallback head)
    have partLength := isPart.length_le
    simp only [tailShape, length_append, length_singleton] at partLength
    simp only [dropFallback] at bound ⊢
    omega

end SerialModem.Library.PatternMatching
