import Mathlib.Data.List.Nodup
import Mathlib.Data.List.Perm.Subperm
import SerialModem.Dfu.WriteTransfer

/-!
# What a write transfer puts on the target

The callback remembers a failed write for the notification, and goes on writing.
What arrives is therefore a prefix of the transfer exactly if no later write
succeeds.
-/

namespace SerialModem.Dfu

open Library AtHost List

/-- The writer begins a transfer of `len` bytes, on an accepted command. -/
structure Begins (cfg : WriterConfig) (started : Writer) (len : Nat) :
    Prop where
  accepted : ∃ params writer, Writer.handleAtXdfuWrite cfg true params writer = (true, started)
  expected : started.context.len = len

/-- Chunks of a transfer of `len` bytes; the transfer may be cut short. -/
structure IsCut (chunks : List (List Byte)) (len : Nat) : Prop where
  nonempty : ∀ chunk ∈ chunks, chunk ≠ []
  within : chunks.flatten.length ≤ len

/-- A prefix of the transfer is on the target, each byte once and, in a firmware
segment, at its address. -/
def ReachesPrefix (result : Nat → Int) (chunks : List (List Byte)) (started : Writer) : Prop :=
  ∃ count, (started.receiveChunks result chunks).reached =
    placements started.startAddr 0 (chunks.flatten.take count)

/-- The notification reports success exactly if every byte was written. -/
def NotifiesExactly (result : Nat → Int) (chunks : List (List Byte)) (len : Nat)
    (started : Writer) : Prop :=
  (started.receiveChunks result chunks).datamodeExit.1.failed = false ↔
    ∀ index, index < len → ∃ placement ∈ (started.receiveChunks result chunks).reached,
        placement.index = index

/-- No write of `count` calls succeeds after one that has failed. -/
def FailuresLast (result : Nat → Int) (first count : Nat) : Prop :=
  ∀ failed later, failed < later → later < count →
    result (first + failed) ≠ 0 → result (first + later) ≠ 0

def arrivals (result : Nat → Int) : Nat → Option Nat → Nat → List (List Byte) → List Placement
  | _, _, _, [] => []
  | call, addr, index, chunk :: rest =>
    if result call = 0 then
      placements addr index chunk ++ arrivals result (call + 1) (addr.map (sizeAdd · chunk.length))
          (index + chunk.length) rest
    else
      arrivals result (call + 1) addr (index + chunk.length) rest

variable {result : Nat → Int} {chunk : List Byte} {chunks rest : List (List Byte)}

variable {call : Nat}

theorem arrivals_cons_of_written (succeeds : result call = 0) (addr : Option Nat) (index : Nat) :
    arrivals result call addr index (chunk :: rest) = placements addr index chunk ++
        arrivals result (call + 1) (addr.map (sizeAdd · chunk.length))
          (index + chunk.length) rest := by
  rw [arrivals, if_pos succeeds]

theorem arrivals_cons_of_failed (fails : result call ≠ 0) (addr : Option Nat) (index : Nat) :
    arrivals result call addr index (chunk :: rest) =
      arrivals result (call + 1) addr (index + chunk.length) rest := by
  rw [arrivals, if_neg fails]

theorem forall_call_succ (condition : Nat → Prop) {count : Nat} :
    (∀ number, number < count + 1 → condition (call + number)) ↔ condition call ∧
        ∀ number, number < count → condition (call + 1 + number) := by
  constructor
  · intro all
    refine ⟨all 0 (Nat.succ_pos count), ?_⟩
    intro number isCall
    have shifted := all (number + 1) (Nat.succ_lt_succ isCall)
    rwa [show call + (number + 1) = call + 1 + number by omega] at shifted
  · rintro ⟨first, others⟩ number isCall
    cases number with
    | zero => exact first
    | succ number =>
      have shifted := others number (Nat.lt_of_succ_lt_succ isCall)
      rwa [show call + 1 + number = call + (number + 1) by omega] at shifted

theorem failuresLast_succ {count : Nat} : FailuresLast result call (count + 1) ↔ (result call ≠ 0 →
        ∀ number, number < count → result (call + 1 + number) ≠ 0) ∧
      FailuresLast result (call + 1) count := by
  constructor
  · intro last
    constructor
    · intro fails number isCall
      have shifted := last 0 (number + 1) (Nat.succ_pos number) (Nat.succ_lt_succ isCall) fails
      rwa [show call + (number + 1) = call + 1 + number by omega] at shifted
    · intro failed later isLater isCall fails
      have shifted := last (failed + 1) (later + 1) (Nat.succ_lt_succ isLater)
        (Nat.succ_lt_succ isCall)
      rw [show call + (failed + 1) = call + 1 + failed by omega,
        show call + (later + 1) = call + 1 + later by omega] at shifted
      exact shifted fails
  · rintro ⟨first, others⟩ failed later isLater isCall fails
    cases later with
    | zero => exact absurd isLater (Nat.not_lt_zero failed)
    | succ later =>
      have isOther := Nat.lt_of_succ_lt_succ isCall
      rw [show call + (later + 1) = call + 1 + later by omega]
      cases failed with
      | zero => exact first fails later isOther
      | succ failed =>
        rw [show call + (failed + 1) = call + 1 + failed by omega] at fails
        exact others failed later (Nat.lt_of_succ_lt_succ isLater) isOther fails

theorem length_arrivals_le (call : Nat) (addr : Option Nat) (index : Nat) :
    (arrivals result call addr index chunks).length ≤ chunks.flatten.length := by
  induction chunks generalizing call addr index with
  | nil => exact Nat.le_refl 0
  | cons chunk rest ih =>
    rw [flatten_cons, length_append]
    by_cases succeeds : result call = 0
    · rw [arrivals_cons_of_written succeeds, length_append, length_placements]
      exact Nat.add_le_add_left (ih _ _ _) _
    · rw [arrivals_cons_of_failed succeeds]
      exact Nat.le_trans (ih _ _ _) (Nat.le_add_left _ _)

theorem mem_arrivals_index {addr : Option Nat} {index : Nat} {placement : Placement}
    (member : placement ∈ arrivals result call addr index chunks) :
    index ≤ placement.index := by
  induction chunks generalizing call addr index with
  | nil => exact absurd member not_mem_nil
  | cons chunk rest ih =>
    by_cases succeeds : result call = 0
    · rw [arrivals_cons_of_written succeeds] at member
      rcases mem_append.mp member with here | later
      · exact mem_placements_index here
      · exact Nat.le_trans (Nat.le_add_right _ _) (ih later)
    · rw [arrivals_cons_of_failed succeeds] at member
      exact Nat.le_trans (Nat.le_add_right _ _) (ih member)

variable (addr : Option Nat)

theorem arrivals_of_succeed (index : Nat)
    (succeed : ∀ number, number < chunks.length → result (call + number) = 0) :
    arrivals result call addr index chunks = placements addr index chunks.flatten := by
  induction chunks generalizing call addr index with
  | nil => rfl
  | cons chunk rest ih =>
    obtain ⟨first, others⟩ :=
      (forall_call_succ fun call => result call = 0).mp succeed
    rw [arrivals_cons_of_written first, ih _ _ others, flatten_cons, placements_append]

theorem length_arrivals_eq_iff (index : Nat) (nonempty : ∀ chunk ∈ chunks, chunk ≠ []) :
    (arrivals result call addr index chunks).length = chunks.flatten.length ↔
      ∀ number, number < chunks.length → result (call + number) = 0 := by
  constructor
  · intro complete
    induction chunks generalizing call addr index with
    | nil => exact fun number isCall => absurd isCall (Nat.not_lt_zero number)
    | cons chunk rest ih =>
      obtain ⟨someChunk, someRest⟩ := forall_mem_cons.mp nonempty
      rw [flatten_cons, length_append] at complete
      by_cases succeeds : result call = 0
      · rw [arrivals_cons_of_written succeeds, length_append, length_placements] at complete
        exact (forall_call_succ fun call => result call = 0).mpr ⟨succeeds,
          ih _ _ someRest (Nat.add_left_cancel complete)⟩
      · rw [arrivals_cons_of_failed succeeds] at complete
        have positive := length_pos_iff.mpr someChunk
        have bounded := @length_arrivals_le result rest (call + 1) addr (index + chunk.length)
        omega
  · intro succeed
    rw [arrivals_of_succeed addr index succeed, length_placements]

theorem arrivals_eq_nil_iff (index : Nat) (nonempty : ∀ chunk ∈ chunks, chunk ≠ []) :
    arrivals result call addr index chunks = [] ↔
      ∀ number, number < chunks.length → result (call + number) ≠ 0 := by
  induction chunks generalizing call addr index with
  | nil =>
    exact iff_of_true rfl fun number isCall =>
      absurd isCall (Nat.not_lt_zero number)
  | cons chunk rest ih =>
    obtain ⟨someChunk, someRest⟩ := forall_mem_cons.mp nonempty
    rw [length_cons, forall_call_succ fun call => result call ≠ 0]
    by_cases succeeds : result call = 0
    · rw [arrivals_cons_of_written succeeds]
      apply iff_of_false
      · intro isNil
        have isEmpty := congrArg List.length (append_eq_nil_iff.mp isNil).1
        rw [length_placements] at isEmpty
        exact someChunk (length_eq_zero_iff.mp isEmpty)
      · intro fails
        exact fails.1 succeeds
    · rw [arrivals_cons_of_failed succeeds, ih _ _ someRest]
      exact (and_iff_right succeeds).symm

theorem arrivals_prefix_iff (index : Nat) (nonempty : ∀ chunk ∈ chunks, chunk ≠ []) :
    (∃ count, arrivals result call addr index chunks =
      placements addr index (chunks.flatten.take count)) ↔
      FailuresLast result call chunks.length := by
  induction chunks generalizing call addr index with
  | nil =>
    apply iff_of_true
    · exact ⟨0, rfl⟩
    · intro failed later _ isCall
      exact absurd isCall (Nat.not_lt_zero later)
  | cons chunk rest ih =>
    obtain ⟨someChunk, someRest⟩ := forall_mem_cons.mp nonempty
    rw [length_cons, failuresLast_succ, flatten_cons]
    by_cases succeeds : result call = 0
    · rw [arrivals_cons_of_written succeeds, ← ih (addr.map (sizeAdd · chunk.length))
          (index + chunk.length) someRest]
      constructor
      · rintro ⟨count, isPrefix⟩
        refine ⟨fun fails => absurd succeeds fails, count - chunk.length, ?_⟩
        have covered : chunk.length ≤ count := by
          have lengths := congrArg List.length isPrefix
          rw [length_append, length_placements, length_placements, length_take] at lengths
          omega
        rw [take_append, take_of_length_le covered, placements_append] at isPrefix
        exact append_cancel_left isPrefix
      · rintro ⟨-, count, isPrefix⟩
        refine ⟨chunk.length + count, ?_⟩
        rw [take_length_add_append, placements_append, isPrefix]
    · rw [arrivals_cons_of_failed succeeds]
      constructor
      · rintro ⟨count, isPrefix⟩
        -- The first byte of the chunk has not arrived, so none has.
        have isNil : arrivals result (call + 1) addr (index + chunk.length) rest = [] := by
          rw [eq_nil_iff_forall_not_mem]
          intro placement member
          have isBehind := mem_arrivals_index member
          have positive := length_pos_iff.mpr someChunk
          have someTaken : 0 < ((chunk ++ rest.flatten).take count).length := by
            rw [← length_placements addr index, ← isPrefix]
            exact length_pos_of_mem member
          obtain ⟨first, isFirst, atIndex⟩ :=
            @exists_mem_placements addr index 0 _ someTaken
          rw [← isPrefix] at isFirst
          have firstBehind := mem_arrivals_index isFirst
          omega
        have fail :=
          (arrivals_eq_nil_iff addr (index + chunk.length) someRest).mp isNil
        refine ⟨fun _ => fail, ?_⟩
        intro failed later _ isCall _
        exact fail later isCall
      · rintro ⟨others, -⟩
        refine ⟨0, ?_⟩
        rw [take_zero, placements_nil]
        exact (arrivals_eq_nil_iff addr (index + chunk.length) someRest).mpr (others succeeds)

namespace Writer

variable {writer : Writer}

theorem receiveChunks_cons : writer.receiveChunks result (chunk :: rest) =
      (writer.datamodeSend result chunk).2.receiveChunks result rest :=
  rfl

theorem receiveChunks_reached (usable : writer.writeFunction ≠ none)
    (nonempty : ∀ chunk ∈ chunks, chunk ≠ []) :
    (writer.receiveChunks result chunks).reached = writer.reached ++
        arrivals result writer.calls writer.startAddr writer.received
          chunks := by
  induction chunks generalizing writer with
  | nil => exact (append_nil _).symm
  | cons chunk rest ih =>
    obtain ⟨someChunk, someRest⟩ := forall_mem_cons.mp nonempty
    rw [receiveChunks_cons]
    by_cases succeeds : result writer.calls = 0
    · have takes := datamodeSend_takes someChunk usable succeeds
      rw [ih takes.usable someRest, takes.reached,
        takes.calls, takes.startAddr, takes.received, append_assoc,
        arrivals_cons_of_written succeeds]
    · have rejects := datamodeSend_rejects someChunk usable succeeds
      rw [ih rejects.usable someRest, rejects.reached,
        rejects.calls, rejects.startAddr, rejects.received,
        arrivals_cons_of_failed succeeds]

theorem receiveChunks_status_ne (usable : writer.writeFunction ≠ none)
    (nonempty : ∀ chunk ∈ chunks, chunk ≠ [])
    (failed : writer.xdfuStatus ≠ 0) :
    (writer.receiveChunks result chunks).xdfuStatus ≠ 0 := by
  induction chunks generalizing writer with
  | nil => exact failed
  | cons chunk rest ih =>
    obtain ⟨someChunk, someRest⟩ := forall_mem_cons.mp nonempty
    rw [receiveChunks_cons]
    by_cases succeeds : result writer.calls = 0
    · have takes := datamodeSend_takes someChunk usable succeeds
      exact ih takes.usable someRest (takes.status.trans_ne failed)
    · have rejects := datamodeSend_rejects someChunk usable succeeds
      exact ih rejects.usable someRest rejects.status

theorem receiveChunks_status_eq_zero_iff (usable : writer.writeFunction ≠ none)
    (nonempty : ∀ chunk ∈ chunks, chunk ≠ [])
    (clean : writer.xdfuStatus = 0) :
    (writer.receiveChunks result chunks).xdfuStatus = 0 ↔ ∀ number, number < chunks.length →
        result (writer.calls + number) = 0 := by
  induction chunks generalizing writer with
  | nil =>
    exact iff_of_true clean fun number isCall =>
      absurd isCall (Nat.not_lt_zero number)
  | cons chunk rest ih =>
    obtain ⟨someChunk, someRest⟩ := forall_mem_cons.mp nonempty
    rw [receiveChunks_cons, length_cons, forall_call_succ fun call => result call = 0]
    by_cases succeeds : result writer.calls = 0
    · have takes := datamodeSend_takes someChunk usable succeeds
      rw [ih takes.usable someRest (takes.status.trans clean), takes.calls]
      exact (and_iff_right succeeds).symm
    · have rejects := datamodeSend_rejects someChunk usable succeeds
      exact iff_of_false (receiveChunks_status_ne rejects.usable someRest rejects.status)
        fun all => succeeds all.1

theorem receiveChunks_bytesWritten (usable : writer.writeFunction ≠ none)
    (nonempty : ∀ chunk ∈ chunks, chunk ≠ [])
    (clean : writer.xdfuStatus = 0)
    (succeed : ∀ number, number < chunks.length → result (writer.calls + number) = 0)
    (within : writer.xdfuBytesWritten + chunks.flatten.length ≤ Device.sizeMax) :
    (writer.receiveChunks result chunks).xdfuBytesWritten =
      writer.xdfuBytesWritten + chunks.flatten.length := by
  induction chunks generalizing writer with
  | nil => rfl
  | cons chunk rest ih =>
    obtain ⟨someChunk, someRest⟩ := forall_mem_cons.mp nonempty
    obtain ⟨first, others⟩ :=
      (forall_call_succ fun call => result call = 0).mp succeed
    have takes := datamodeSend_takes someChunk usable first
    rw [flatten_cons, length_append, ← Nat.add_assoc] at within ⊢
    have counted : (writer.datamodeSend result chunk).2.xdfuBytesWritten =
        writer.xdfuBytesWritten + chunk.length := by
      rw [takes.bytesWritten clean, sizeAdd, Nat.mod_eq_of_lt (by omega)]
    rw [receiveChunks_cons, ← counted]
    rw [← counted] at within
    rw [← takes.calls] at others
    exact ih takes.usable someRest (takes.status.trans clean) others within

theorem receiveChunks_context_len (usable : writer.writeFunction ≠ none)
    (nonempty : ∀ chunk ∈ chunks, chunk ≠ []) :
    (writer.receiveChunks result chunks).context.len = writer.context.len := by
  induction chunks generalizing writer with
  | nil => rfl
  | cons chunk rest ih =>
    obtain ⟨someChunk, someRest⟩ := forall_mem_cons.mp nonempty
    have calls : Calls chunk writer (writer.datamodeSend result chunk).2 := by
      by_cases succeeds : result writer.calls = 0
      · exact (datamodeSend_takes someChunk usable succeeds).toCalls
      · exact (datamodeSend_rejects someChunk usable succeeds).toCalls
    rw [receiveChunks_cons, ih calls.usable someRest, calls.expected]

/-- With an invalid segment type nothing is written, and the status says so. -/
theorem receiveChunks_of_unusable (unusable : writer.writeFunction = none)
    (nonempty : ∀ chunk ∈ chunks, chunk ≠ []) :
    (writer.receiveChunks result chunks).reached = writer.reached ∧
      (writer.receiveChunks result chunks =
        writer ∨ (writer.receiveChunks result chunks).xdfuStatus ≠ 0) := by
  induction chunks generalizing writer with
  | nil => exact ⟨rfl, .inl rfl⟩
  | cons chunk rest ih =>
    obtain ⟨someChunk, someRest⟩ := forall_mem_cons.mp nonempty
    have sent : (writer.datamodeSend result chunk).2 =
        ({ writer with xdfuStatus := -einval } : Writer).account chunk := by
      rw [datamodeSend_of_ne_nil someChunk, write, unusable]
    have still : (writer.datamodeSend result chunk).2.writeFunction = none := by
      rw [sent]
      exact unusable
    obtain ⟨reached, status⟩ := ih still someRest
    rw [receiveChunks_cons]
    refine ⟨reached.trans (by rw [sent]; rfl), .inr ?_⟩
    rcases status with same | failed
    · rw [same, sent]
      exact (by decide : -einval ≠ 0)
    · exact failed

end Writer

theorem Begins.started {cfg : WriterConfig} {started : Writer} {len : Nat}
    (begins : Begins cfg started len) :
    started.xdfuStatus = 0 ∧ started.xdfuBytesWritten = 0 ∧
      started.received = 0 ∧ started.reached = [] ∧ 0 < len ∧
      len ≤ Device.sizeMax := by
  obtain ⟨params, writer, accepted⟩ := begins.accepted
  have expected := begins.expected
  unfold Writer.handleAtXdfuWrite at accepted
  split at accepted
  · simp at accepted
  · rename_i type _
    split_ifs at accepted with wrongCount
    · simp at accepted
    · split at accepted
      · simp at accepted
      · simp at accepted
      · rename_i addr len' _ isLen
        have bounded : len' ≤ Device.sizeMax := by
          have filtered := (Option.mem_filter_iff.mp isLen).2
          exact of_decide_eq_true filtered
        unfold Writer.startWrite at accepted
        split_ifs at accepted with isZero
        · simp at accepted
        · obtain rfl := (Prod.mk.inj accepted).2
          have isLen' : len' = len := by
            rw [← expected]
            cases type <;> rfl
          subst isLen'
          exact ⟨rfl, rfl, rfl, rfl, Nat.pos_of_ne_zero isZero, bounded⟩

section Law

variable {cfg : WriterConfig} {started : Writer} {len : Nat}

theorem reachesPrefix_iff (begins : Begins cfg started len) (cut : IsCut chunks len) :
    ReachesPrefix result chunks started ↔ started.writeFunction = none ∨
        FailuresLast result started.calls chunks.length := by
  obtain ⟨-, -, received, reached, -⟩ := begins.started
  unfold ReachesPrefix
  by_cases unusable : started.writeFunction = none
  · refine iff_of_true ⟨0, ?_⟩ (.inl unusable)
    exact (Writer.receiveChunks_of_unusable unusable cut.nonempty).1.trans reached
  · rw [Writer.receiveChunks_reached unusable cut.nonempty, reached, received,
      nil_append, arrivals_prefix_iff _ _ cut.nonempty,
      or_iff_right unusable]

/-- Every byte is on the target exactly if no write has failed and the transfer
was not cut short. -/
theorem all_arrive_iff {call : Nat} {addr : Option Nat} (cut : IsCut chunks len) :
    (∀ index, index < len → ∃ placement ∈ arrivals result call addr 0 chunks,
        placement.index = index) ↔
      (∀ number, number < chunks.length → result (call + number) = 0) ∧
        chunks.flatten.length = len := by
  constructor
  · intro all
    have covers : List.range len ⊆ (arrivals result call addr 0 chunks).map Placement.index := by
      intro index member
      exact List.mem_map.mpr (all index (mem_range.mp member))
    have enough := (nodup_range.subperm covers).length_le
    rw [length_range, length_map] at enough
    have bounded := @length_arrivals_le result chunks call addr 0
    have within := cut.within
    exact ⟨(length_arrivals_eq_iff addr 0 cut.nonempty).mp (by omega), by omega⟩
  · rintro ⟨succeed, complete⟩ index isIndex
    rw [arrivals_of_succeed addr 0 succeed]
    obtain ⟨placement, member, atIndex⟩ :=
      @exists_mem_placements addr 0 index chunks.flatten (by omega)
    exact ⟨placement, member, by omega⟩

theorem notifiesExactly (begins : Begins cfg started len) (cut : IsCut chunks len) :
    NotifiesExactly result chunks len started := by
  obtain ⟨clean, bytesWritten, received, reached, positive, bounded⟩ :=
    begins.started
  have within := cut.within
  have reports : (started.receiveChunks result chunks).datamodeExit.1.failed = false ↔
      (started.receiveChunks result chunks).xdfuStatus = 0 ∧
        (started.receiveChunks result chunks).xdfuBytesWritten =
          (started.receiveChunks result chunks).context.len := by
    unfold Writer.datamodeExit
    grind [Device.eio]
  unfold NotifiesExactly
  rw [reports]
  by_cases unusable : started.writeFunction = none
  · obtain ⟨same, status⟩ :=
      Writer.receiveChunks_of_unusable unusable cut.nonempty
    rw [same, reached]
    apply iff_of_false
    · rintro ⟨isZero, written⟩
      rcases status with unchanged | failed
      · rw [unchanged, bytesWritten, begins.expected] at written
        omega
      · exact failed isZero
    · intro all
      obtain ⟨_, member, _⟩ := all 0 positive
      exact not_mem_nil member
  · rw [Writer.receiveChunks_reached unusable cut.nonempty, reached, received,
      nil_append, all_arrive_iff cut,
      Writer.receiveChunks_status_eq_zero_iff unusable cut.nonempty clean,
      Writer.receiveChunks_context_len unusable cut.nonempty, begins.expected]
    apply and_congr_right
    intro succeed
    rw [Writer.receiveChunks_bytesWritten unusable cut.nonempty clean succeed
      (by omega), bytesWritten, Nat.zero_add]

/-- Every transfer, in every cut and with every pattern of failures, puts a
prefix on the target and is reported as it was, exactly if no write succeeds
after one that has failed, or the segment type lets nothing be written. -/
theorem writePrefix_iff (begins : Begins cfg started len) (cut : IsCut chunks len) :
    ReachesPrefix result chunks started ∧ NotifiesExactly result chunks len started ↔
      started.writeFunction = none ∨ FailuresLast result started.calls chunks.length := by
  rw [reachesPrefix_iff begins cut]
  exact and_iff_left (notifiesExactly begins cut)

end Law

def twoByteTransfer : Writer :=
  (Writer.initial.handleAtXdfuWrite ⟨false, false⟩ true ["0".toList, "0".toList, "2".toList]).2

def firstWriteFails (call : Nat) : Int :=
  if call = 0 then -Device.eio else 0

theorem twoByteTransfer_begins : Begins ⟨false, false⟩ twoByteTransfer 2 where
  accepted := ⟨["0".toList, "0".toList, "2".toList], Writer.initial, by decide⟩
  expected := by decide

theorem twoByteTransfer_cut : IsCut [[1], [2]] 2 where
  nonempty := by decide
  within := by decide

/-- The last write of the two may fail. -/
theorem writePrefix_iff_two_bytes : ReachesPrefix (fun call => -call) [[1], [2]] twoByteTransfer ∧
      NotifiesExactly (fun call => -call) [[1], [2]] 2 twoByteTransfer := by
  refine (writePrefix_iff twoByteTransfer_begins twoByteTransfer_cut).mpr (.inr ?_)
  intro failed later isLater isCall fails
  have isFirst : failed = 0 := by
    have isSecond : later < 2 := isCall
    omega
  subst isFirst
  exact absurd rfl fails

/-- The second byte of a transfer reaches the target without the first. -/
theorem chunk_after_failed_write : Begins ⟨false, false⟩ twoByteTransfer 2 ∧ IsCut [[1], [2]] 2 ∧
      (twoByteTransfer.receiveChunks firstWriteFails [[1], [2]]).reached = [⟨1, none, 2⟩] ∧
      ¬(ReachesPrefix firstWriteFails [[1], [2]] twoByteTransfer ∧
        NotifiesExactly firstWriteFails [[1], [2]] 2 twoByteTransfer) := by
  obtain ⟨reached, usable, fails, succeeds⟩ :
      (twoByteTransfer.receiveChunks firstWriteFails [[1], [2]]).reached = [⟨1, none, 2⟩] ∧
        twoByteTransfer.writeFunction ≠ none ∧
        firstWriteFails (twoByteTransfer.calls + 0) ≠ 0 ∧
        firstWriteFails (twoByteTransfer.calls + 1) = 0 := by
    decide
  refine ⟨twoByteTransfer_begins, twoByteTransfer_cut, reached, ?_⟩
  rintro ⟨isPrefix, -⟩
  rcases (reachesPrefix_iff twoByteTransfer_begins twoByteTransfer_cut).mp
    isPrefix with unusable | last
  · exact usable unusable
  · exact last 0 1 Nat.zero_lt_one (by decide) fails succeeds

end SerialModem.Dfu
