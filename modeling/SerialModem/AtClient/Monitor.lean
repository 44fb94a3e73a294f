import Mathlib.Data.List.Forall2
import SerialModem.AtClient.Response
import SerialModem.Library.DoubledSeparator
import SerialModem.Socket.Strings

/-!
# Notifications and their monitors

`sm_monitor_dispatch` cuts a buffer into notifications and queues a copy of each
one that some monitor waits for.  The work item `sm_monitor_task` calls the
handlers.  It runs on the same work queue as the code that dispatches, so each
call and each run of the work item is one step.
-/

namespace SerialModem.AtClient

open Library List Option
open AtHost (Byte ascii crlfStr)
open Socket (strstr cString strstr_eq_some_iff strstr_eq_none_iff cString_of_notMem)

/-- `struct sm_monitor_entry`.  The handler is known by the place of its monitor
in the list of all monitors. -/
structure MonitorEntry where
  /-- `none` is `MON_ANY`. -/
  filter : Option (List Byte)
  paused : Bool
  deriving DecidableEq

namespace MonitorEntry

/-- The test in `sm_monitor_dispatch`, on the bytes of a notification. -/
def isInterested (notif : List Byte) (entry : MonitorEntry) : Bool :=
  !entry.paused && match entry.filter with
    | none => true
    | some filter => (strnstr notif filter).isSome

def hasMatch (notif : List Byte) (entry : MonitorEntry) : Bool :=
  match entry.filter with
  | none => true
  | some filter => (strstr notif filter).isSome

end MonitorEntry

variable (monitors : List MonitorEntry)

/-- What a call of `sm_monitor_dispatch` does: the notifications that it sees,
and the copies that it queues. -/
structure Dispatched where
  pieces : List (List Byte)
  queued : List (List Byte)
  deriving DecidableEq

/-- The delimiter of `sm_monitor_dispatch`. -/
def delimiter : List Byte := crlfStr ++ crlfStr

def notifLen (current : List Byte) : Nat :=
  match strnstr current delimiter with
  | some index => index + 2
  | none => current.length

/-- The loop of `sm_monitor_dispatch`; `none` when it needs more iterations than
`fuel`.  `room` is how many allocations succeed before one fails. -/
def dispatchLoop (room : Option Nat) :
    (fuel : Nat) → (current : List Byte) → (allocated : Nat) → Option Dispatched
  | 0, _, _ => none
  | fuel + 1, current, allocated =>
    if current = [] then
      some ⟨[], []⟩
    else if notifLen current = 0 then
      some ⟨[], []⟩
    else
      let notif := current.take (notifLen current)
      let next (allocated : Nat) : Option Dispatched :=
        match strnstr current delimiter with
        | some index =>
          dispatchLoop room fuel (current.drop (index + 2)) allocated
        | none => some ⟨[], []⟩
      if monitors.any (MonitorEntry.isInterested notif) then
        if room = some allocated then
          some ⟨[notif], []⟩
        else
          (next (allocated + 1)).map fun rest =>
            ⟨notif :: rest.pieces, cString notif :: rest.queued⟩
      else
        (next allocated).map fun rest =>
          ⟨notif :: rest.pieces, rest.queued⟩

/-- The queue of notifications, and what the monitors are called with. -/
structure MonitorSystem where
  /-- The data in `at_monitor_fifo`. -/
  fifo : List (List Byte)
  /-- `at_monitor_work` is submitted. -/
  workPending : Bool
  calls : List (Nat × List Byte)
  /-- The buffers of the calls of `sm_monitor_dispatch`; no code reads this. -/
  dispatched : List (List Byte)
  cuts : List (List (List Byte))
  deriving DecidableEq

def smMonitorDispatch (room : Option Nat) (notif : List Byte)
    (system : MonitorSystem) : Option MonitorSystem :=
  (dispatchLoop monitors room (notif.length + 1) notif 0).map fun result =>
    { system with
      fifo := system.fifo ++ result.queued
      workPending := system.workPending || !result.queued.isEmpty
      dispatched := system.dispatched ++ [notif]
      cuts := system.cuts ++ [result.pieces] }

/-- The handlers that `sm_monitor_task` calls for one notification, from the
monitor at `index` on. -/
def notifyMonitors (notif : List Byte) : (index : Nat) → List MonitorEntry → List (Nat × List Byte)
  | _, [] => []
  | index, entry :: rest =>
    if !entry.paused && entry.hasMatch notif then
      (index, notif) :: notifyMonitors notif (index + 1) rest
    else
      notifyMonitors notif (index + 1) rest

/-- The loop of `sm_monitor_task`. -/
def notifyAll : (fifo : List (List Byte)) → List (Nat × List Byte)
  | [] => []
  | notif :: rest => notifyMonitors notif 0 monitors ++ notifyAll rest

def smMonitorTask (system : MonitorSystem) : MonitorSystem :=
  { system with
    fifo := []
    workPending := false
    calls := system.calls ++ notifyAll monitors system.fifo }

inductive MonitorAction where
  | dispatch (notif : List Byte) (room : Option Nat)
  | task
  deriving DecidableEq

def monitorStep (action : MonitorAction) (system : MonitorSystem) : Option MonitorSystem :=
  match action with
  | .dispatch notif room => smMonitorDispatch monitors room notif system
  | .task =>
    if system.workPending then some (smMonitorTask monitors system) else none

def freshMonitors : MonitorSystem where
  fifo := []
  workPending := false
  calls := []
  dispatched := []
  cuts := []

def Dispatches (_ : MonitorSystem) (action : MonitorAction) : Prop :=
  match action with
  | .dispatch notif room => 0 ∉ notif ∧ room = none
  | .task => True

instance {system : MonitorSystem} {action : MonitorAction} : Decidable (Dispatches system action) :=
  match action with
  | .dispatch _ _ => inferInstanceAs (Decidable (_ ∧ _))
  | .task => inferInstanceAs (Decidable True)

abbrev MonitorReachable : MonitorSystem → Prop :=
  Reachable (monitorStep monitors) Dispatches (fun system =>
    system = freshMonitors)

/-- The monitor is active, and its filter, if it has one, occurs in the notification. -/
def MonitorEntry.Wants (entry : MonitorEntry) (notif : List Byte) : Prop :=
  entry.paused = false ∧ ∀ filter ∈ entry.filter, filter <:+: notif

instance {entry : MonitorEntry} {notif : List Byte} : Decidable (entry.Wants notif) :=
  inferInstanceAs (Decidable (_ ∧ _))

theorem isSome_strstr_iff (haystack needle : List Byte) :
    (strstr haystack needle).isSome = true ↔ needle <:+: haystack := by
  by_cases empty : needle = []
  · subst empty
    refine iff_of_true ?_ nil_infix
    rw [strstr, find?_isSome]
    exact ⟨0, mem_range.mpr (Nat.succ_pos _), rfl⟩
  · rw [← exists_occursAt_iff, ← not_iff_not, Bool.not_eq_true,
      isSome_eq_false_iff, isNone_iff_eq_none,
      strstr_eq_none_iff empty, not_exists]

theorem hasMatch_iff (entry : MonitorEntry) (notif : List Byte) :
    (!entry.paused && entry.hasMatch notif) = true ↔ entry.Wants notif := by
  rw [Bool.and_eq_true, Bool.not_eq_true', MonitorEntry.Wants, MonitorEntry.hasMatch]
  apply and_congr_right
  intro _
  cases entry.filter with
  | none => simp
  | some filter => simp [isSome_strstr_iff]

variable {notif : List Byte}

theorem isInterested_iff (entry : MonitorEntry) (noNul : 0 ∉ notif) :
    entry.isInterested notif = true ↔ entry.Wants notif := by
  rw [← hasMatch_iff, MonitorEntry.isInterested, MonitorEntry.hasMatch]
  simp only [strnstr, cString_of_notMem noNul]

def Relevant (notif : List Byte) : Prop :=
  ∃ entry ∈ monitors, entry.Wants notif

instance {notif : List Byte} : Decidable (Relevant monitors notif) :=
  inferInstanceAs (Decidable (∃ entry ∈ monitors, _))

theorem crlf_primitive : Primitive crlfStr := by
  intro shift positive inside
  have isOne : shift = 1 := by
    change shift < 2 at inside
    omega
  subst isOne
  decide

variable {current : List Byte}

theorem notifLen_pos (nonempty : current ≠ []) : notifLen current ≠ 0 := by
  rw [notifLen]
  cases strnstr current delimiter with
  | none => exact length_eq_zero_iff.not.mpr nonempty
  | some index => exact Nat.succ_ne_zero _

variable {monitors}

theorem rest_length (nonempty : current ≠ []) (index : Nat) :
    (current.drop (index + 2)).length < current.length := by
  have positive := length_pos_iff.mpr nonempty
  rw [length_drop]
  omega

theorem dispatchLoop_isSome (room : Option Nat) {fuel : Nat} :
    ∀ {current : List Byte} {allocated : Nat}, current.length < fuel →
      (dispatchLoop monitors room fuel current allocated).isSome = true := by
  induction fuel with
  | zero => exact fun enough => absurd enough (Nat.not_lt_zero _)
  | succ fuel ih =>
    intro current allocated enough
    rw [dispatchLoop]
    by_cases empty : current = []
    · rw [if_pos empty]
      rfl
    · rw [if_neg empty, if_neg (notifLen_pos empty)]
      cases strnstr current delimiter with
      | none =>
        dsimp only
        by_cases wanted : monitors.any (MonitorEntry.isInterested
            (current.take (notifLen current))) = true
        · rw [if_pos wanted]
          by_cases full : room = some allocated
          · rw [if_pos full]
            rfl
          · rw [if_neg full]
            rfl
        · rw [if_neg wanted]
          rfl
      | some index =>
        have shorter := rest_length empty index
        have goesOn (count : Nat) := @ih (current.drop (index + 2)) count (by omega)
        dsimp only
        by_cases wanted : monitors.any (MonitorEntry.isInterested
            (current.take (notifLen current))) = true
        · rw [if_pos wanted]
          by_cases full : room = some allocated
          · rw [if_pos full]
            rfl
          · rw [if_neg full, isSome_map]
            exact goesOn _
        · rw [if_neg wanted, isSome_map]
          exact goesOn _

theorem any_isInterested_iff (noNul : 0 ∉ notif) :
    monitors.any (MonitorEntry.isInterested notif) = true ↔ Relevant monitors notif := by
  rw [List.any_eq_true, Relevant]
  apply exists_congr
  intro entry
  rw [isInterested_iff entry noNul]

theorem dispatchLoop_found {fuel allocated index : Nat} {current : List Byte}
    (noNul : 0 ∉ current) (nonempty : current ≠ [])
    (found : strnstr current delimiter = some index) :
    ∃ count, dispatchLoop monitors none (fuel + 1) current allocated =
      (dispatchLoop monitors none fuel (current.drop (index + 2)) count).map fun rest =>
          ⟨current.take (index + 2) :: rest.pieces,
            [current.take (index + 2)].filter (Relevant monitors ·) ++ rest.queued⟩ := by
  have isLength : notifLen current = index + 2 := by rw [notifLen, found]
  have clean : 0 ∉ current.take (index + 2) :=
    fun member => noNul (mem_of_mem_take member)
  rw [dispatchLoop, if_neg nonempty, if_neg (notifLen_pos nonempty), isLength, found]
  dsimp only
  by_cases wanted : Relevant monitors (current.take (index + 2))
  · refine ⟨allocated + 1, ?_⟩
    rw [if_pos ((any_isInterested_iff clean).mpr wanted), if_neg nofun,
      cString_of_notMem clean, filter_cons_of_pos (by simpa using wanted)]
    rfl
  · refine ⟨allocated, ?_⟩
    rw [if_neg (mt (any_isInterested_iff clean).mp wanted),
      filter_cons_of_neg (by simpa using wanted)]
    rfl

theorem dispatchLoop_missing {fuel allocated : Nat} (noNul : 0 ∉ current)
    (nonempty : current ≠ []) (missing : strnstr current delimiter = none) :
    dispatchLoop monitors none (fuel + 1) current allocated =
      some ⟨[current], [current].filter (Relevant monitors ·)⟩ := by
  have isWhole : current.take (notifLen current) = current := by
    rw [notifLen, missing, take_length]
  rw [dispatchLoop, if_neg nonempty, if_neg (notifLen_pos nonempty), isWhole, missing]
  dsimp only
  by_cases wanted : Relevant monitors current
  · rw [if_pos ((any_isInterested_iff noNul).mpr wanted), if_neg nofun,
      cString_of_notMem noNul, filter_cons_of_pos (by simpa using wanted)]
    rfl
  · rw [if_neg (mt (any_isInterested_iff noNul).mp wanted),
      filter_cons_of_neg (by simpa using wanted)]
    rfl

theorem strnstr_delimiter (noNul : 0 ∉ current) :
    strnstr current delimiter = strstr current (crlfStr ++ crlfStr) := by
  rw [strnstr, cString_of_notMem noNul, delimiter]

theorem dispatchLoop_cuts {fuel : Nat} :
    ∀ {current : List Byte} {allocated : Nat}, current.length < fuel → 0 ∉ current →
      ∃ result, dispatchLoop monitors none fuel current allocated = some result ∧
        Cut crlfStr current result.pieces ∧
        result.queued = result.pieces.filter (Relevant monitors ·) := by
  induction fuel with
  | zero => exact fun enough => absurd enough (Nat.not_lt_zero _)
  | succ fuel ih =>
    intro current allocated enough noNul
    by_cases nonempty : current = []
    · subst nonempty
      exact ⟨⟨[], []⟩, rfl, Cut.empty, rfl⟩
    · have isSearch := strnstr_delimiter noNul
      cases found : strnstr current delimiter with
      | none =>
        refine ⟨_, dispatchLoop_missing noNul nonempty found, Cut.last nonempty ?_, rfl⟩
        rw [isSearch] at found
        exact (strstr_eq_none_iff (by decide)).mp found
      | some index =>
        obtain ⟨count, isLoop⟩ := @dispatchLoop_found monitors fuel
          allocated index current noNul nonempty found
        have shorter := rest_length nonempty index
        obtain ⟨rest, isRest, cuts, queued⟩ := @ih (current.drop (index + 2)) count (by omega)
          (fun member => noNul (mem_of_mem_drop member))
        rw [isSearch] at found
        refine ⟨_, by rw [isLoop, isRest]; rfl, ?_, ?_⟩
        · exact Cut.next ((strstr_eq_some_iff (by decide)).mp found) cuts
        · dsimp only
          rw [queued, ← filter_append]
          rfl

/-- The notifications that the monitor is called with, in order. -/
def MonitorSystem.calledWith (index : Nat) (system : MonitorSystem) : List (List Byte) :=
  (system.calls.filter fun call => call.1 = index).map Prod.snd

theorem le_of_mem_notifyMonitors {call : Nat × List Byte} :
    ∀ {monitors : List MonitorEntry} {index : Nat},
      call ∈ notifyMonitors notif index monitors → index ≤ call.1 := by
  intro monitors
  induction monitors with
  | nil => nofun
  | cons entry rest ih =>
    intro index member
    rw [notifyMonitors] at member
    split at member
    · rcases mem_cons.mp member with rfl | later
      · exact Nat.le_refl index
      · exact Nat.le_of_succ_le (ih later)
    · exact Nat.le_of_succ_le (ih member)

theorem notifyMonitors_filter {notif : List Byte} :
    ∀ {monitors : List MonitorEntry} {index place : Nat} {entry : MonitorEntry},
      monitors[place]? = some entry →
      (notifyMonitors notif index monitors).filter (fun call => call.1 = index + place) =
        if entry.Wants notif then [(index + place, notif)] else [] := by
  intro monitors
  induction monitors with
  | nil => nofun
  | cons first rest ih =>
    intro index place entry isEntry
    rw [notifyMonitors]
    cases place with
    | zero =>
      have same : first = entry := Option.some.inj isEntry
      subst same
      have others : (notifyMonitors notif (index + 1) rest).filter
          (fun call => call.1 = index + 0) = [] := by
        rw [filter_eq_nil_iff]
        intro call member isIndex
        have later := le_of_mem_notifyMonitors member
        have same := of_decide_eq_true isIndex
        omega
      by_cases wanted : first.Wants notif
      · rw [if_pos ((hasMatch_iff first notif).mpr wanted), if_pos wanted,
          filter_cons_of_pos (by simp), others]
        rfl
      · rw [if_neg (mt (hasMatch_iff first notif).mp wanted), if_neg wanted, others]
    | succ place =>
      have isLater : rest[place]? = some entry := isEntry
      have later := @ih (index + 1) place entry isLater
      rw [show index + 1 + place = index + (place + 1) by omega] at later
      split
      · rw [filter_cons_of_neg (by simp), later]
      · exact later

theorem notifyAll_filter {index : Nat} {entry : MonitorEntry}
    (isEntry : monitors[index]? = some entry) (fifo : List (List Byte)) :
    ((notifyAll monitors fifo).filter fun call => call.1 = index).map Prod.snd =
      fifo.filter (entry.Wants ·) := by
  induction fifo with
  | nil => rfl
  | cons notif rest ih =>
    have once := @notifyMonitors_filter notif monitors 0 index entry isEntry
    rw [Nat.zero_add] at once
    rw [notifyAll, filter_append, map_append, ih, once]
    by_cases wanted : entry.Wants notif
    · rw [if_pos wanted, filter_cons_of_pos (by simpa using wanted)]
      rfl
    · rw [if_neg wanted, filter_cons_of_neg (by simpa using wanted)]
      rfl

/-- What has been dispatched is cut, each handler has been called or has yet to be
called for what its monitor waits for, and what is queued is waited for by the
work item. -/
structure MonitorSystem.Delivers (monitors : List MonitorEntry)
    (system : MonitorSystem) : Prop where
  cut : List.Forall₂ (CutBetween crlfStr) system.dispatched system.cuts
  delivered : ∀ index entry, monitors[index]? = some entry →
    system.calledWith index ++ system.fifo.filter (entry.Wants ·) =
      system.cuts.flatten.filter (entry.Wants ·)
  pending : system.workPending = false → system.fifo = []

theorem filter_relevant {index : Nat} {entry : MonitorEntry}
    (isEntry : monitors[index]? = some entry) (pieces : List (List Byte)) :
    (pieces.filter (Relevant monitors ·)).filter (entry.Wants ·) =
      pieces.filter (entry.Wants ·) := by
  rw [List.filter_filter]
  apply filter_congr
  intro piece _
  have relevant : entry.Wants piece → Relevant monitors piece :=
    fun wanted => ⟨entry, mem_of_getElem? isEntry, wanted⟩
  by_cases wanted : entry.Wants piece
  · simp [wanted, relevant wanted]
  · simp [wanted]

variable {system : MonitorSystem}

theorem delivers_dispatch {after : MonitorSystem}
    (delivers : system.Delivers monitors) (noNul : 0 ∉ notif)
    (taken : smMonitorDispatch monitors none notif system = some after) :
    after.Delivers monitors := by
  obtain ⟨result, isResult, cuts, queued⟩ := @dispatchLoop_cuts monitors
    (notif.length + 1) notif 0 (Nat.lt_succ_self _) noNul
  rw [smMonitorDispatch, isResult] at taken
  cases taken
  constructor
  · exact rel_append delivers.cut (List.Forall₂.cons
      (cuts.cutBetween (by decide) crlf_primitive) List.Forall₂.nil)
  · intro index entry isEntry
    have before := delivers.delivered index entry isEntry
    dsimp only [MonitorSystem.calledWith] at before ⊢
    rw [filter_append, ← append_assoc, before, queued,
      filter_relevant isEntry, flatten_append, filter_append,
      flatten_singleton]
  · intro idle
    obtain ⟨wasIdle, noneQueued⟩ := Bool.or_eq_false_iff.mp idle
    have isEmpty : result.queued = [] := by simpa using noneQueued
    dsimp only
    rw [delivers.pending wasIdle, isEmpty, append_nil]

theorem delivers_task (delivers : system.Delivers monitors) :
    (smMonitorTask monitors system).Delivers monitors where
  cut := delivers.cut
  delivered := by
    intro index entry isEntry
    have before := delivers.delivered index entry isEntry
    dsimp only [MonitorSystem.calledWith, smMonitorTask] at before ⊢
    rw [filter_append, map_append, notifyAll_filter isEntry, filter_nil, append_nil]
    exact before
  pending := fun _ => rfl

/-- What was dispatched reaches the monitors, in every run. -/
theorem delivers_of_reachable (reachable : MonitorReachable monitors system) :
    system.Delivers monitors := by
  induction reachable with
  | start isInitial =>
    rw [isInitial]
    exact ⟨List.Forall₂.nil, fun _ _ _ => rfl, fun _ => rfl⟩
  | next action _ allowed taken ih =>
    cases action with
    | dispatch notif room =>
      obtain ⟨noNul, rfl⟩ := allowed
      exact delivers_dispatch ih noNul taken
    | task =>
      rw [monitorStep] at taken
      split at taken
      · cases taken
        exact delivers_task ih
      · cases taken

/-- Every call of `sm_monitor_dispatch` returns and cuts its buffer between the
halves of each CRLFCRLF.  When the work item has run, the handler of each active
monitor has been called once, in order, for each notification that contains its
filter, and for no other. -/
theorem notifications_delivered {system : MonitorSystem}
    (reachable : MonitorReachable monitors system) :
    (∀ notif room, (smMonitorDispatch monitors room notif system).isSome = true) ∧
    List.Forall₂ (CutBetween crlfStr) system.dispatched system.cuts ∧
    (∀ index entry, monitors[index]? = some entry →
      system.calledWith index ++ system.fifo.filter (entry.Wants ·) =
        system.cuts.flatten.filter (entry.Wants ·)) ∧
    (system.workPending = false → ∀ index entry, monitors[index]? = some entry →
        system.calledWith index = system.cuts.flatten.filter (entry.Wants ·)) := by
  have delivers := delivers_of_reachable reachable
  refine ⟨fun notif room => ?_, delivers.cut, delivers.delivered, ?_⟩
  · rw [smMonitorDispatch, isSome_map]
    exact dispatchLoop_isSome room (Nat.lt_succ_self _)
  · intro idle index entry isEntry
    have called := delivers.delivered index entry isEntry
    rw [delivers.pending idle, filter_nil, append_nil] at called
    exact called

def threeMonitors : List MonitorEntry :=
  [⟨none, false⟩, ⟨none, true⟩, ⟨some (ascii "+CEREG"), false⟩]

/-- Two notifications come in one buffer. -/
theorem two_notifications_delivered :
    ∃ system, MonitorReachable threeMonitors system ∧ system.calledWith 0 =
        [ascii "\r\nRING\r\n", ascii "\r\n+CEREG: 1\r\n"] ∧
      system.calledWith 1 = [] ∧
      system.calledWith 2 = [ascii "\r\n+CEREG: 1\r\n"] ∧
      ∀ index entry, threeMonitors[index]? = some entry → system.calledWith index =
          system.cuts.flatten.filter (entry.Wants ·) := by
  have ran : (runChecked (monitorStep threeMonitors)
      (fun system action => decide (Dispatches system action))
      [.dispatch (ascii "\r\nRING\r\n\r\n+CEREG: 1\r\n") none, .task]
      freshMonitors).map (fun system => (system.workPending,
        system.calledWith 0, system.calledWith 1, system.calledWith 2)) =
      some (false, [ascii "\r\nRING\r\n", ascii "\r\n+CEREG: 1\r\n"], [],
        [ascii "\r\n+CEREG: 1\r\n"]) := by
    decide
  obtain ⟨system, isRun, seen⟩ := map_eq_some_iff.mp ran
  have reachable : MonitorReachable threeMonitors system :=
    reachable_of_runChecked _ (fun _ _ _ passed => of_decide_eq_true passed) (.start rfl) isRun
  obtain ⟨idle, first, second, third⟩ := by simpa using seen
  exact ⟨system, reachable, first, second, third, (notifications_delivered reachable).2.2.2 idle⟩

end SerialModem.AtClient
