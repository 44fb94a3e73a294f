import SerialModem.Fota.System

/-!
# What a rejected start leaves of the running session

A session is what its own start command and its own events make it: the URL
that the download library reads until the terminal event, and the variables that
`AT#XFOTA` reports.  While the firmware downloads, a start command that reaches
`do_fota_start` is always rejected, and yet it has freed the URL and reset the
variables.  A start command that is turned down before leaves both alone.
-/

namespace SerialModem.Fota

open AtHost List Function Option
open Library

variable {cfg : Config} {env : Environment} {world after : World}

/-! ## Sessions -/

/-- What a start command has set up. -/
structure Session where
  hostname : List Byte
  path : List Byte
  downloading : Bool
  vars : Option FotaVars
  deriving DecidableEq

def FotaVars.afterEvent (cfg : Config) (vars : FotaVars) : FotaDownloadEvt → FotaVars
  | .progress progress =>
    { vars with
      smFotaStage := .download
      smFotaStatus := .ok
      smFotaInfo := progress }
  | .finished =>
    { vars with
      smFotaStage := .activate
      smFotaInfo := 0
      smModemFullFota := vars.smFotaType == .fullMfw
      smFotaBlPendingValidate :=
        if cfg.blSupported then
          vars.smFotaType == .mcubootBl
        else
          vars.smFotaBlPendingValidate }
  | .erasePending => { vars with smFotaStage := .downloadErasePending }
  | .eraseDone => { vars with smFotaStage := .init }
  | _ => vars

def Session.continued (cfg : Config) (evt : FotaDownloadEvt) (session : Session) : Session :=
  { session with
    downloading := session.downloading && !evt.terminal
    vars := session.vars.map fun vars => vars.afterEvent cfg evt }

def Session.afterEvent (cfg : Config) (session : Session) : FotaDownloadEvt → Option Session
  | .error _ => none
  | .cancelled => none
  | evt => some (session.continued cfg evt)

def nextSession (cfg : Config) : Option Session → Entry → Option Session
  | _, .accepted hostname path => some ⟨hostname, path, true, none⟩
  | some session, .begun vars => some { session with vars := some vars }
  | some session, .event evt => session.afterEvent cfg evt
  | _, .postProcessed => none
  | session, _ => session

/-- The session that is going on at the end of the log. -/
def sessionOf (cfg : Config) (log : List Entry) : Option Session :=
  log.foldl (nextSession cfg) none

/-- A download runs, or an image waits for its activation. -/
def Session.Ongoing (session : Session) : Prop :=
  session.downloading = true ∨ ∃ vars, session.vars = some vars ∧ vars.smFotaStage = .activate

/-- Buffers and variables are as the start command of the session has left them. -/
structure Session.Kept (session : Session) (world : World) : Prop where
  /-- The library's pointers are the module's buffers, and these hold the
  URL. -/
  buffers : session.downloading = true → ∃ download,
    world.download = some download ∧ world.fotaHostname = some download.host ∧
      world.fotaPath = some download.file ∧
      world.heap download.host = some (session.hostname ++ [0]) ∧
      world.heap download.file = some (session.path ++ [0])
  vars : ∀ vars, session.vars = some vars → world.vars = vars

theorem sessionOf_concat (log : List Entry) (entry : Entry) :
    sessionOf cfg (log ++ [entry]) = nextSession cfg (sessionOf cfg log) entry := by
  simp [sessionOf]

variable {session : Session} {evt : FotaDownloadEvt}

theorem Session.continued_of_afterEvent {later : Session}
    (continues : session.afterEvent cfg evt = some later) :
    later = session.continued cfg evt := by
  cases evt with
  | error _ | cancelled => cases continues
  | progress _ | finished | eraseTimeout | erasePending | eraseDone | other =>
    exact (Option.some.inj continues).symm

theorem Session.afterEvent_of_not_terminal (session : Session) (goesOn : evt.terminal = false) :
    session.afterEvent cfg evt = some (session.continued cfg evt) := by
  cases evt with
  | error _ | cancelled | finished => cases goesOn
  | progress _ | eraseTimeout | erasePending | eraseDone | other => rfl

variable {vars : FotaVars}

theorem FotaVars.stage_afterEvent (goesOn : evt.terminal = false)
    (stages : vars.smFotaStage ≠ .complete ∧ vars.smFotaStage ≠ .activate) :
    (vars.afterEvent cfg evt).smFotaStage ≠ .complete ∧
      (vars.afterEvent cfg evt).smFotaStage ≠ .activate := by
  cases evt with
  | error _ | cancelled | finished => cases goesOn
  | progress _ | erasePending | eraseDone => exact ⟨by rintro ⟨⟩, by rintro ⟨⟩⟩
  | eraseTimeout | other => exact stages

def Entry.Neutral : Entry → Prop
  | .refused _ | .ended _ | .urc _ _ | .response _ => True
  | _ => False

theorem nextSession_neutral (session : Option Session) {entry : Entry}
    (neutral : entry.Neutral) : nextSession cfg session entry = session := by
  cases entry with
  | refused _ | ended _ | urc _ _ | response _ => cases session <;> rfl
  | accepted _ _ | begun _ | event _ | postProcessed => cases neutral

theorem sessionOf_append_neutral (log : List Entry) :
    ∀ (entries : List Entry), (∀ entry ∈ entries, entry.Neutral) →
      sessionOf cfg (log ++ entries) = sessionOf cfg log := by
  intro entries neutral
  induction entries generalizing log with
  | nil => rw [append_nil]
  | cons entry rest ih =>
    obtain ⟨first, later⟩ := forall_mem_cons.mp neutral
    rw [append_cons, ih _ later, sessionOf_concat, nextSession_neutral _ first]

@[simp]
theorem World.record_log (entry : Entry) (world : World) :
    (world.record entry).log = world.log ++ [entry] := rfl

theorem Session.Kept.of_eq (kept : session.Kept world) (download : after.download = world.download)
    (hostname : after.fotaHostname = world.fotaHostname)
    (path : after.fotaPath = world.fotaPath)
    (heap : ∀ address content, world.heap address = some content →
      world.fotaHostname = some address ∨ world.fotaPath = some address →
        after.heap address = some content) (vars : after.vars = world.vars) :
    session.Kept after where
  buffers downloading := by
    obtain ⟨running, isRunning, isHost, isPath, host, file⟩ :=
      kept.buffers downloading
    exact ⟨running, download.trans isRunning, hostname.trans isHost,
      path.trans isPath, heap _ _ host (.inl isHost),
      heap _ _ file (.inr isPath)⟩
  vars session's isSession := vars.trans (kept.vars session's isSession)

/-! ## What the steps do -/

/-- A start command with these parameters reaches `do_fota_start`. -/
def PassesChecks (cfg : Config) (command : Command) (answers : CommandAnswers)
    (vars : FotaVars) : Prop :=
  ∃ op params operation start, command = .set (.ok op) params ∧
    startOperation cfg op = some operation ∧
      checkStart cfg operation params answers vars = .ok start

variable {params : StartParams}

variable {answers : CommandAnswers}

theorem stage_of_checkStart {operation : StartOperation} {start : Start}
    (passed : checkStart cfg operation params answers vars = .ok start) :
    vars.smFotaStage ≠ .activate := by
  intro activating
  rw [checkStart, if_pos activating] at passed
  cases passed

theorem doFotaMfwRead_spec (answers : CommandAnswers) (world : World) :
    ∃ entries, (∀ entry ∈ entries, entry.Neutral) ∧ (doFotaMfwRead answers world).2 =
        { world with log := world.log ++ entries } := by
  unfold doFotaMfwRead
  split
  · exact ⟨[], by simp, by simp⟩
  · split
    · exact ⟨[], by simp, by simp⟩
    · exact ⟨[_], by simp [Entry.Neutral], rfl⟩

theorem handleAtFota_cases (pipe : Option PipeId) (command : Command)
    (answers : CommandAnswers) (world : World) :
    (∃ later entries, (∀ entry ∈ entries, entry.Neutral) ∧
      handleAtFota cfg env pipe command answers world =
        { world with fotaPipe := later, log := world.log ++ entries }) ∨
    ∃ start, PassesChecks cfg command answers world.vars ∧ world.vars.smFotaStage ≠ .activate ∧
      handleAtFota cfg env pipe command answers world =
        { world with fotaPipe := pipe, progress := some (.checked start) } := by
  unfold handleAtFota
  split
  · rename_i op params
    split
    · exact .inl ⟨pipe, [_], by simp [Entry.Neutral], rfl⟩
    · rename_i op
      split
      · rename_i operation starts
        dsimp only
        split
        · exact .inl ⟨pipe, [_], by simp [Entry.Neutral], rfl⟩
        · rename_i start passed
          exact .inr ⟨start, ⟨op, params, operation, start, rfl, starts, passed⟩,
            stage_of_checkStart passed, rfl⟩
      · refine .inl ⟨pipe, ?_⟩
        split
        · exact ⟨[_], by simp [Entry.Neutral], rfl⟩
        · obtain ⟨entries, neutral, same⟩ :=
            doFotaMfwRead_spec answers { world with fotaPipe := pipe }
          refine ⟨entries ++ [.ended (doFotaMfwRead answers
            { world with fotaPipe := pipe }).1], ?_, ?_⟩
          · intro entry member
            rcases mem_append.mp member with reported | last
            · exact neutral entry reported
            · rw [mem_singleton.mp last]
              trivial
          · simp [same, World.record]
        · exact ⟨[_], by simp [Entry.Neutral], rfl⟩
        · exact ⟨[_], by simp [Entry.Neutral], rfl⟩
  · exact .inl ⟨world.fotaPipe, [.response (testText cfg), .ended 0], by simp [Entry.Neutral],
      by simp [World.record]⟩
  · exact .inl ⟨world.fotaPipe, [_], by simp [Entry.Neutral], rfl⟩

/-- `do_fota_start` has failed: the buffers are gone. -/
structure StartFailed (world after : World) : Prop where
  noHostname : after.fotaHostname = none
  noPath : after.fotaPath = none
  download : after.download = world.download
  vars : after.vars = world.vars
  log : ∃ entries, (∀ entry ∈ entries, entry.Neutral) ∧ after.log = world.log ++ entries

/-- `do_fota_start` has succeeded: the library downloads from the buffers. -/
structure StartAccepted (world after : World) : Prop where
  idle : world.download = none
  vars : after.vars = world.vars
  session : ∃ session : Session, session.downloading = true ∧
    session.vars = none ∧ session.Kept after ∧
      after.log = world.log ++ [.accepted session.hostname session.path]

theorem kMalloc_spec {answer : Option Address} {content : List Byte}
    {heap later : Heap} {address : Address}
    (allocated : kMalloc answer content heap = some (address, later)) :
    heap address = none ∧ later = update heap address (some content) := by
  unfold kMalloc at allocated
  split at allocated
  · cases allocated
  · split at allocated
    · cases allocated
    · rename_i free
      cases allocated
      exact ⟨not_isSome_iff_eq_none.mp free, rfl⟩

def Requested (host file : Address × List Byte) (world : World) (result : Int × World) : Prop :=
  (result.1 ≠ 0 ∧ result.2 = world) ∨ result.1 = 0 ∧ world.download = none ∧ ∃ download : Download,
      download.host = host.1 ∧ download.file = file.1 ∧
        result.2 = { world with
          download := some download
          log := world.log ++ [.accepted host.2 file.2] }

theorem fotaDownloadStart_requested (host file : Address × List Byte)
    (secTag : Int) (pdnId : Nat) (type : DfuTargetImageType) (answer : Int)
    (world : World) :
    Requested host file world (fotaDownloadStart env host file secTag pdnId type answer world) := by
  unfold fotaDownloadStart
  split
  · exact .inl ⟨env.downloadRunning_ne_zero, rfl⟩
  · rename_i running
    split
    · exact .inr ⟨rfl, not_isSome_iff_eq_none.mp running, _, rfl, rfl,
        rfl⟩
    · rename_i failed
      exact .inl ⟨failed, rfl⟩

theorem requestDownload_requested (start : Start)
    (host file : Address × List Byte) (answer : Int) (world : World) :
    Requested host file world (requestDownload env start host file answer world) := by
  have invalid : (-einval : Int) ≠ 0 := by decide
  unfold requestDownload
  split
  · split
    · exact .inl ⟨invalid, rfl⟩
    · exact fotaDownloadStart_requested _ _ _ _ _ _ _
  · split
    · exact fotaDownloadStart_requested _ _ _ _ _ _ _
    · exact .inl ⟨invalid, rfl⟩

theorem doFotaStart_cases (start : Start) (answers : StartAnswers)
    (world : World) {result : Int × World}
    (called : doFotaStart env start answers world = result) :
    (result.1 ≠ 0 ∧ StartFailed world result.2) ∨ result.1 = 0 ∧ StartAccepted world result.2 := by
  have freed : StartFailed world world.freeUri :=
    ⟨rfl, rfl, rfl, rfl, [], by simp, by simp [World.freeUri]⟩
  have invalid : (-einval : Int) ≠ 0 := by decide
  have noMemory : (-enomem : Int) ≠ 0 := by decide
  unfold doFotaStart at called
  dsimp only at called
  split at called
  · subst called
    exact .inl ⟨invalid, freed⟩
  · split at called
    · subst called
      exact .inl ⟨invalid, freed⟩
    · split at called
      · subst called
        exact .inl ⟨invalid, freed⟩
      · split at called
        · subst called
          exact .inl ⟨noMemory, freed⟩
        · rename_i parser _ _ _ _ host heap hostAllocated
          split at called
          · subst called
            exact .inl ⟨noMemory, rfl, rfl, rfl, rfl, [], by simp, by simp [World.freeUri]⟩
          · rename_i _ file later fileAllocated
            obtain ⟨_, hostStored⟩ := kMalloc_spec hostAllocated
            obtain ⟨fileFree, fileStored⟩ := kMalloc_spec fileAllocated
            have apart : host ≠ file := by
              rintro rfl
              rw [hostStored, update_self] at fileFree
              cases fileFree
            have requested := @requestDownload_requested env start
              (host, start.uri.take parser.pathOff)
              (file, start.uri.drop (parser.pathOff + 1)) answers.start
              { world.freeUri with
                heap := later
                fotaHostname := some host
                fotaPath := some file }
            rcases requested with
              ⟨failed, same⟩ | ⟨succeeded, idle, download, isHost, isFile, same⟩
            · rw [freeUnlessStarted, if_neg failed, same] at called
              subst called
              exact .inl ⟨failed, rfl, rfl, rfl, rfl, [_], by simp [Entry.Neutral], rfl⟩
            · rw [freeUnlessStarted, if_pos succeeded, same] at called
              subst called
              refine .inr ⟨rfl, idle, rfl, ⟨start.uri.take parser.pathOff,
                  start.uri.drop (parser.pathOff + 1), true, none⟩,
                rfl, rfl, ⟨?_, ?_⟩, rfl⟩
              · intro _
                refine ⟨download, rfl, by simp [isHost], by simp [isFile], ?_, ?_⟩
                · change later download.host = _
                  rw [isHost, fileStored, update_of_ne apart, hostStored, update_self]
                · change later download.file = _
                  rw [isFile, fileStored, update_self]
              · intro vars isNone
                cases isNone

/-- After `do_fota_start` the variables start anew. -/
theorem finishStart_spec (operation : StartOperation) (err : Int)
    (answers : FinishAnswers) (world : World) :
    ∃ vars settings, vars.smFotaStage = .init ∧ finishStart operation err answers world =
        { world with
          vars := vars
          settings := settings
          log := world.log ++ [if err = 0 then .begun vars else .refused err] }
    := by
  unfold finishStart
  by_cases succeeded : err = 0
  · rw [if_pos succeeded]
    cases operation <;> exact ⟨_, _, rfl, by simp [succeeded]; rfl⟩
  · rw [if_neg succeeded]
    cases operation <;> exact ⟨_, _, rfl, by simp [succeeded]; rfl⟩

theorem fotaDlHandler_log (evt : FotaDownloadEvt) (written : Nat) (world : World) :
    ∃ entries, (∀ entry ∈ entries, entry.Neutral) ∧
      (fotaDlHandler cfg evt written world).log = world.log ++ entries := by
  cases evt with
  | eraseTimeout | other => exact ⟨[], by simp, by simp [fotaDlHandler]⟩
  | progress _ | finished | erasePending | eraseDone | error _ | cancelled =>
    exact ⟨[_], by simp [Entry.Neutral], rfl⟩

theorem fotaDlHandler_progress (evt : FotaDownloadEvt) (written : Nat) (world : World) :
    (fotaDlHandler cfg evt written world).progress = world.progress := by
  cases evt <;> rfl

theorem fotaDlHandler_vars (written : Nat) (world : World) {later : Session}
    (continues : session.afterEvent cfg evt = some later) :
    (fotaDlHandler cfg evt written world).vars = world.vars.afterEvent cfg evt := by
  cases evt with
  | error _ | cancelled => cases continues
  | progress _ | finished | eraseTimeout | erasePending | eraseDone | other => rfl

theorem fotaDlHandler_buffers {evt : FotaDownloadEvt} (written : Nat)
    (world : World) (goesOn : evt.terminal = false) :
    (fotaDlHandler cfg evt written world).fotaHostname = world.fotaHostname ∧
      (fotaDlHandler cfg evt written world).fotaPath = world.fotaPath ∧
      (fotaDlHandler cfg evt written world).heap = world.heap ∧
      (fotaDlHandler cfg evt written world).download = world.download := by
  cases evt with
  | finished | error _ | cancelled => cases goesOn
  | progress _ | eraseTimeout | erasePending | eraseDone | other => exact ⟨rfl, rfl, rfl, rfl⟩

/-! ## The invariant -/

def Starting : Option Progress → Prop
  | some (.checked _) => True
  | some (.returned _ err) => err ≠ 0
  | none => False

structure Coherent (cfg : Config) (world : World) : Prop where
  downloading : world.download.isSome → ∃ session,
    sessionOf cfg world.log = some session ∧ session.downloading = true
  kept : ∀ session, sessionOf cfg world.log = some session → session.Ongoing → session.Kept world
  begun : (∀ operation, world.progress ≠ some (.returned operation 0)) →
    ∀ session, sessionOf cfg world.log = some session → session.vars ≠ none
  stages : ∀ session vars, sessionOf cfg world.log = some session →
    session.downloading = true → session.vars = some vars →
      vars.smFotaStage ≠ .complete ∧ vars.smFotaStage ≠ .activate
  starting : Starting world.progress →
    ∀ session, sessionOf cfg world.log = some session → ¬session.Ongoing

theorem Session.Ongoing.of_downloading
    (downloading : session.downloading = true) : session.Ongoing :=
  .inl downloading

namespace Coherent

theorem session_of_download (coherent : Coherent cfg world) (running : world.download.isSome) :
    ∃ session, sessionOf cfg world.log = some session ∧
      session.downloading = true ∧ session.Kept world := by
  obtain ⟨session, isSession, downloading⟩ := coherent.downloading running
  exact ⟨session, isSession, downloading,
    coherent.kept session isSession (.of_downloading downloading)⟩

theorem download_of_session (coherent : Coherent cfg world) {session : Session}
    (isSession : sessionOf cfg world.log = some session)
    (downloading : session.downloading = true) : world.download.isSome := by
  obtain ⟨_, running, _⟩ :=
    (coherent.kept session isSession (.of_downloading downloading)).buffers downloading
  rw [running]
  rfl

theorem noDownload_of_starting (coherent : Coherent cfg world)
    (isStarting : Starting world.progress) : world.download = none := by
  apply not_isSome_iff_eq_none.mp
  intro running
  obtain ⟨session, isSession, downloading⟩ := coherent.downloading running
  exact coherent.starting isStarting session isSession (.of_downloading downloading)

theorem of_same (coherent : Coherent cfg world)
    (session : sessionOf cfg after.log = sessionOf cfg world.log)
    (download : after.download = world.download)
    (hostname : after.fotaHostname = world.fotaHostname)
    (path : after.fotaPath = world.fotaPath)
    (heap : ∀ address content, world.heap address = some content →
      world.fotaHostname = some address ∨ world.fotaPath = some address →
        after.heap address = some content)
    (vars : after.vars = world.vars)
    (progress : after.progress = world.progress) : Coherent cfg after where
  downloading running := by
    rw [session]
    exact coherent.downloading (download ▸ running)
  kept other isSession ongoing :=
    (coherent.kept other (session ▸ isSession) ongoing).of_eq download hostname path heap vars
  begun notReturned other isSession :=
    coherent.begun (progress ▸ notReturned) other (session ▸ isSession)
  stages other vars isSession :=
    coherent.stages other vars (session ▸ isSession)
  starting isStarting other isSession :=
    coherent.starting (progress ▸ isStarting) other (session ▸ isSession)

end Coherent

/-- While the firmware downloads, no start command passes the checks that come
before `do_fota_start`. -/
def SparesSession (cfg : Config) (world : World) : Action → Prop
  | .command _ command answers =>
    world.download.isSome → ¬PassesChecks cfg command answers world.vars
  | _ => True

namespace Coherent

theorem command (coherent : Coherent cfg world) {pipe : Option PipeId}
    {command : Command} {answers : CommandAnswers}
    (idle : world.progress.isNone)
    (spares : world.download.isSome → ¬PassesChecks cfg command answers world.vars) :
    Coherent cfg (handleAtFota cfg env pipe command answers world) := by
  rcases @handleAtFota_cases cfg env pipe command answers world
    with ⟨later, entries, neutral, same⟩ | ⟨start, passes, stage, same⟩
  · rw [same]
    exact coherent.of_same (sessionOf_append_neutral _ _ neutral) rfl rfl rfl
      (fun _ _ stored _ => stored) rfl rfl
  · rw [same]
    have notStarting : ∀ operation, world.progress ≠ some (.returned operation 0) := by
      intro operation returned
      rw [returned] at idle
      cases idle
    refine ⟨coherent.downloading, ?_, fun _ => coherent.begun notStarting, coherent.stages, ?_⟩
    · intro session isSession ongoing
      exact (coherent.kept session isSession ongoing).of_eq rfl rfl rfl
        (fun _ _ stored _ => stored) rfl
    · rintro _ session isSession (downloading | ⟨vars, isVars, activating⟩)
      · exact spares (coherent.download_of_session isSession downloading) passes
      · have kept := coherent.kept session isSession (.inr ⟨vars, isVars, activating⟩)
        rw [kept.vars vars isVars] at stage
        exact stage activating

theorem start (coherent : Coherent cfg world) {start : Start} {answers : StartAnswers} {err : Int}
    (checked : world.progress = some (.checked start))
    (called : doFotaStart env start answers world = (err, after)) :
    Coherent cfg { after with
      progress := some (.returned start.operation err) } := by
  have isStarting : Starting world.progress := by
    rw [checked]
    trivial
  have idle := coherent.noDownload_of_starting isStarting
  rcases doFotaStart_cases start answers world called with
    ⟨refused, failed⟩ | ⟨succeeded, accepted⟩
  · obtain ⟨entries, neutral, log⟩ := failed.log
    have same : sessionOf cfg after.log = sessionOf cfg world.log :=
      log ▸ sessionOf_append_neutral _ _ neutral
    have notOngoing : ∀ session, sessionOf cfg after.log = some session → ¬session.Ongoing :=
      fun session isSession =>
        coherent.starting isStarting session (same ▸ isSession)
    refine ⟨?_, ?_, ?_, ?_, fun _ => notOngoing⟩
    · intro running
      rw [show after.download = none from failed.download.trans idle] at running
      cases running
    · intro session isSession ongoing
      exact absurd ongoing (notOngoing session isSession)
    · intro _ session isSession
      refine coherent.begun ?_ session (same ▸ isSession)
      rw [checked]
      rintro _ ⟨⟩
    · intro session vars isSession downloading
      exact absurd (.of_downloading downloading) (notOngoing session isSession)
  · obtain ⟨session, downloading, noVars, kept, log⟩ := accepted.session
    have started : sessionOf cfg after.log = some session := by
      rw [log, sessionOf_concat, nextSession]
      rw [← downloading, ← noVars]
    have only : ∀ other, sessionOf cfg after.log = some other → other = session := by
      intro other isOther
      exact Option.some.inj (isOther.symm.trans started)
    refine ⟨fun _ => ⟨session, started, downloading⟩, ?_, ?_, ?_, ?_⟩
    · intro other isOther _
      rw [only other isOther]
      exact ⟨kept.buffers, kept.vars⟩
    · intro notReturned
      exact absurd (by rw [← succeeded]) (notReturned start.operation)
    · intro other vars isOther _ isVars
      rw [only other isOther, noVars] at isVars
      cases isVars
    · exact fun refused => absurd succeeded refused

theorem finish (coherent : Coherent cfg world) {operation : StartOperation}
    {err : Int} {answers : FinishAnswers}
    (returned : world.progress = some (.returned operation err)) :
    Coherent cfg (finishStart operation err answers { world with progress := none }) := by
  obtain ⟨vars, settings, isInit, same⟩ := finishStart_spec operation err
    answers { world with progress := none }
  rw [same]
  by_cases succeeded : err = 0
  · subst succeeded
    have next : sessionOf cfg (world.log ++ [.begun vars]) =
        (sessionOf cfg world.log).map fun session =>
          { session with vars := some vars } := by
      rw [sessionOf_concat]
      cases sessionOf cfg world.log <;> rfl
    simp only [if_pos]
    refine ⟨?_, ?_, ?_, ?_, ?_⟩
    · intro running
      obtain ⟨session, isSession, downloading⟩ := coherent.downloading running
      exact ⟨{ session with vars := some vars }, by rw [next, isSession]; rfl, downloading⟩
    · intro session isSession ongoing
      obtain ⟨before, isBefore, rfl⟩ :=
        map_eq_some_iff.mp (next.symm.trans isSession)
      refine ⟨?_, ?_⟩
      · intro downloading
        exact (coherent.kept before isBefore (.of_downloading downloading)).buffers downloading
      · rintro _ ⟨⟩
        rfl
    · intro _ session isSession
      obtain ⟨before, _, rfl⟩ :=
        map_eq_some_iff.mp (next.symm.trans isSession)
      exact some_ne_none vars
    · intro session other isSession _ isVars
      obtain ⟨before, _, rfl⟩ :=
        map_eq_some_iff.mp (next.symm.trans isSession)
      cases isVars
      rw [isInit]
      decide
    · rintro ⟨⟩
  · have isStarting : Starting world.progress := by
      rw [returned]
      exact succeeded
    have idle := coherent.noDownload_of_starting isStarting
    have unchanged : sessionOf cfg (world.log ++ [.refused err]) = sessionOf cfg world.log :=
      sessionOf_append_neutral _ [_] (by simp [Entry.Neutral])
    simp only [if_neg succeeded]
    refine ⟨?_, ?_, ?_, ?_, ?_⟩
    · intro running
      rw [show world.download = none from idle] at running
      cases running
    · intro session isSession ongoing
      exact absurd ongoing (coherent.starting isStarting session (unchanged ▸ isSession))
    · intro _ session isSession
      refine coherent.begun ?_ session (unchanged ▸ isSession)
      rintro other same
      cases returned.symm.trans same
      exact succeeded rfl
    · intro session other isSession downloading
      exact absurd (.of_downloading downloading)
        (coherent.starting isStarting session (unchanged ▸ isSession))
    · rintro ⟨⟩

theorem event (coherent : Coherent cfg world) {evt : FotaDownloadEvt}
    {written : Nat} (running : world.download.isSome)
    (isAfter : after = (fotaDlHandler cfg evt written world).record (.event evt)) :
    Coherent cfg { after with
      download := if evt.terminal then none else after.download } := by
  obtain ⟨session, isSession, downloading, kept⟩ :=
    coherent.session_of_download running
  have notStarting : ¬Starting world.progress := by
    intro isStarting
    exact coherent.starting isStarting session isSession (.of_downloading downloading)
  obtain ⟨entries, neutral, log⟩ :=
    @fotaDlHandler_log cfg evt written world
  have next : sessionOf cfg after.log = session.afterEvent cfg evt := by
    rw [isAfter, World.record_log, sessionOf_concat, log,
      sessionOf_append_neutral _ _ neutral, isSession]
    rfl
  have progress : after.progress = world.progress := by
    rw [isAfter]
    exact fotaDlHandler_progress evt written world
  have goesOn : ∀ later, session.afterEvent cfg evt = some later →
      later.downloading = true → evt.terminal = false := by
    intro later continues stillDownloading
    rw [Session.continued_of_afterEvent continues] at stillDownloading
    simpa [Session.continued, downloading] using stillDownloading
  refine ⟨?_, ?_, ?_, ?_, ?_⟩
  · intro stillRunning
    by_cases terminal : evt.terminal = true
    · rw [if_pos terminal] at stillRunning
      cases stillRunning
    · have notTerminal := Bool.eq_false_iff.mpr terminal
      refine ⟨session.continued cfg evt,
        next.trans (session.afterEvent_of_not_terminal notTerminal), ?_⟩
      simp [Session.continued, downloading, notTerminal]
  · intro later isLater _
    have continues := next.symm.trans isLater
    refine ⟨?_, ?_⟩
    · intro stillDownloading
      have notTerminal := goesOn later continues stillDownloading
      obtain ⟨sameHostname, samePath, sameHeap, sameDownload⟩ :=
        @fotaDlHandler_buffers cfg evt written world notTerminal
      obtain ⟨download, isDownload, isHost, isPath, host, file⟩ :=
        kept.buffers downloading
      rw [Session.continued_of_afterEvent continues, isAfter]
      refine ⟨download, ?_, sameHostname.trans isHost, samePath.trans isPath,
        (congrFun sameHeap _).trans host, (congrFun sameHeap _).trans file⟩
      simpa [notTerminal, World.record] using sameDownload.trans isDownload
    · intro vars isVars
      rw [Session.continued_of_afterEvent continues] at isVars
      obtain ⟨before, isBefore, rfl⟩ := map_eq_some_iff.mp isVars
      rw [isAfter, ← kept.vars before isBefore]
      exact fotaDlHandler_vars written world continues
  · intro notReturned later isLater
    rw [Session.continued_of_afterEvent (next.symm.trans isLater)]
    intro noVars
    exact coherent.begun (progress ▸ notReturned) session isSession (map_eq_none_iff.mp noVars)
  · intro later vars isLater stillDownloading isVars
    have continues := next.symm.trans isLater
    have notTerminal := goesOn later continues stillDownloading
    rw [Session.continued_of_afterEvent continues] at isVars
    obtain ⟨before, isBefore, rfl⟩ := map_eq_some_iff.mp isVars
    exact FotaVars.stage_afterEvent notTerminal
      (coherent.stages session before isSession downloading isBefore)
  · intro isStarting
    exact absurd (progress ▸ isStarting) notStarting

theorem postProcess (coherent : Coherent cfg world) {urcPipe : Option PipeId}
    {written : Nat} (idle : world.progress.isNone) :
    Coherent cfg (smFotaPostProcess urcPipe written world) := by
  unfold smFotaPostProcess
  split
  · exact coherent
  · rename_i finished
    have ended : ∀ log, sessionOf cfg (log ++ [.postProcessed]) = none := by
      intro log
      rw [sessionOf_concat]
      cases sessionOf cfg log <;> rfl
    have noDownload : world.download = none := by
      apply not_isSome_iff_eq_none.mp
      intro running
      obtain ⟨session, isSession, downloading, kept⟩ :=
        coherent.session_of_download running
      have begun : session.vars ≠ none := by
        refine coherent.begun ?_ session isSession
        intro operation returned
        rw [returned] at idle
        cases idle
      obtain ⟨vars, isVars⟩ := ne_none_iff_exists'.mp begun
      refine finished ?_
      rw [kept.vars vars isVars]
      exact coherent.stages session vars isSession downloading isVars
    refine ⟨?_, ?_, ?_, ?_, ?_⟩
    · intro running
      rw [show (World.download _) = none from noDownload] at running
      cases running
    · intro session isSession
      rw [World.record_log, ended] at isSession
      cases isSession
    · intro _ session isSession
      rw [World.record_log, ended] at isSession
      cases isSession
    · intro session _ isSession
      rw [World.record_log, ended] at isSession
      cases isSession
    · intro _ session isSession
      rw [World.record_log, ended] at isSession
      cases isSession

end Coherent

theorem Initial.coherent (initial : Initial world) : Coherent cfg world where
  downloading running := by
    rw [initial.noDownload] at running
    cases running
  kept session isSession := by
    rw [initial.noLog] at isSession
    cases isSession
  begun _ session isSession := by
    rw [initial.noLog] at isSession
    cases isSession
  stages session _ isSession := by
    rw [initial.noLog] at isSession
    cases isSession
  starting _ session isSession := by
    rw [initial.noLog] at isSession
    cases isSession

theorem step_coherent {action : Action} (coherent : Coherent cfg world)
    (spares : SparesSession cfg world action)
    (taken : step cfg env action world = some after) : Coherent cfg after := by
  cases action with
  | command pipe command answers =>
    rw [step] at taken
    split at taken
    · rename_i idle
      cases taken
      exact coherent.command idle spares
    · cases taken
  | doFotaStart answers =>
    rw [step] at taken
    split at taken
    · rename_i start checked
      cases taken
      exact coherent.start checked rfl
    · cases taken
  | finishStart answers =>
    rw [step] at taken
    split at taken
    · rename_i operation err returned
      cases taken
      exact coherent.finish returned
    · cases taken
  | event evt written =>
    rw [step] at taken
    split at taken
    · rename_i running
      cases taken
      exact coherent.event running rfl
    · cases taken
  | postProcess urcPipe written =>
    rw [step] at taken
    split at taken
    · rename_i idle
      cases taken
      exact coherent.postProcess idle
    · cases taken
  | takeBlock address content =>
    rw [step] at taken
    split at taken
    · rename_i free
      cases taken
      refine coherent.of_same rfl rfl rfl rfl ?_ rfl rfl
      intro other stored isStored _
      have different : other ≠ address := by
        rintro rfl
        rw [isStored] at free
        cases free
      exact (update_of_ne different _ _).trans isStored
    · cases taken
  | releaseBlock address =>
    rw [step] at taken
    split at taken
    · rename_i foreign
      cases taken
      refine coherent.of_same rfl rfl rfl rfl ?_ rfl rfl
      rintro other stored isStored isBuffer
      have different : other ≠ address := by
        rintro rfl
        exact isBuffer.elim foreign.1 foreign.2
      exact (update_of_ne different _ _).trans isStored
    · cases taken

theorem reachable_coherent (reached : Reachable (step cfg env) (SparesSession cfg) Initial world) :
    Coherent cfg world :=
  reached.invariant (fun _ initial => initial.coherent)
    fun _ _ _ coherent spares taken => step_coherent coherent spares taken

/-! ## A start command during a session -/

structure WholeAnswers where
  command : CommandAnswers
  start : StartAnswers
  finish : FinishAnswers

/-- `AT#XFOTA` from its parameters to the end, with nothing in between. -/
def startCommand (cfg : Config) (env : Environment) (pipe : Option PipeId)
    (op : Nat) (params : StartParams) (answers : WholeAnswers)
    (world : World) : World :=
  let checked := handleAtFota cfg env pipe (.set (.ok op) params) answers.command world
  match checked.progress with
  | some (.checked start) =>
    let (err, returned) := doFotaStart env start answers.start checked
    finishStart start.operation err answers.finish { returned with progress := none }
  | _ => checked

/-- The buffers, the variables and the settings are left alone. -/
structure Undisturbed (before after : World) : Prop where
  hostname : after.fotaHostname = before.fotaHostname
  path : after.fotaPath = before.fotaPath
  heap : ∀ address, before.fotaHostname = some address ∨
    before.fotaPath = some address → after.heap address = before.heap address
  vars : after.vars = before.vars
  settings : after.settings = before.settings

/-- While a session goes on, every start command is rejected, and it leaves the
session alone exactly if it is turned down before `do_fota_start`. -/
theorem startCommand_ongoing {pipe : Option PipeId} {op : Nat}
    {answers : WholeAnswers} (coherent : Coherent cfg world)
    (isSession : sessionOf cfg world.log = some session)
    (ongoing : session.Ongoing) (idle : world.progress = none)
    (starts : (startOperation cfg op).isSome) :
    (∃ err, (startCommand cfg env pipe op params answers world).log.getLast? =
      some (.refused err)) ∧
    (Undisturbed world (startCommand cfg env pipe op params answers world) ↔
      ¬PassesChecks cfg (.set (.ok op) params) answers.command world.vars) := by
  obtain ⟨operation, starts⟩ := isSome_iff_exists.mp starts
  have kept := coherent.kept session isSession ongoing
  cases checked : checkStart cfg operation params answers.command world.vars with
  | error err =>
    have turnedDown : startCommand cfg env pipe op params answers world =
        { world with fotaPipe := pipe }.record (.refused err) := by
      simp [startCommand, handleAtFota, starts, checked, World.record, idle]
    have notPassed : ¬PassesChecks cfg (.set (.ok op) params) answers.command world.vars := by
      rintro ⟨_, _, other, start, ⟨⟩, same, passed⟩
      cases starts.symm.trans same
      cases checked.symm.trans passed
    rw [turnedDown]
    refine ⟨⟨err, by simp⟩, fun _ => notPassed, fun _ => ?_⟩
    exact ⟨rfl, rfl, fun _ _ => rfl, rfl, rfl⟩
  | ok start =>
    have passes : PassesChecks cfg (.set (.ok op) params) answers.command world.vars :=
      ⟨op, params, operation, start, rfl, starts, checked⟩
    have running : world.download.isSome := by
      rcases ongoing with downloading | ⟨vars, isVars, activating⟩
      · exact coherent.download_of_session isSession downloading
      · have stage := stage_of_checkStart checked
        rw [kept.vars vars isVars] at stage
        exact absurd activating stage
    obtain ⟨other, sameSession, downloading⟩ := coherent.downloading running
    cases Option.some.inj (isSession.symm.trans sameSession)
    obtain ⟨download, _, isHost, _⟩ := kept.buffers downloading
    have reached : handleAtFota cfg env pipe (.set (.ok op) params) answers.command world =
          { world with
            fotaPipe := pipe
            progress := some (.checked start) } := by
      simp [handleAtFota, starts, checked]
    cases called : doFotaStart env start answers.start
      { world with fotaPipe := pipe, progress := some (.checked start) } with
    | mk err returned =>
      rcases doFotaStart_cases start answers.start _ called with
        ⟨refused, failed⟩ | ⟨_, accepted⟩
      · obtain ⟨vars, settings, _, finished⟩ := finishStart_spec
          start.operation err answers.finish { returned with progress := none }
        have whole : startCommand cfg env pipe op params answers world =
            { returned with
              vars := vars
              settings := settings
              progress := none
              log := returned.log ++ [.refused err] } := by
          rw [startCommand, reached]
          simp only [called]
          rw [finished, if_neg refused]
        rw [whole]
        refine ⟨⟨err, by simp⟩, ?_, fun notPassed => absurd passes notPassed⟩
        intro undisturbed
        have released := undisturbed.hostname
        rw [isHost] at released
        exact absurd (failed.noHostname.symm.trans released) (by simp)
      · rw [show world.download = none from accepted.idle] at running
        cases running

/-- A FOTA session holds its buffers and its variables in every state of a run
in which, while the firmware downloads, each start command is turned down before
`do_fota_start`; and it is those start commands that leave it alone. -/
theorem session_survives_rejected_starts
    (reached : Reachable (step cfg env) (SparesSession cfg) Initial world)
    {session : Session} (isSession : sessionOf cfg world.log = some session)
    (ongoing : session.Ongoing) :
    session.Kept world ∧ ∀ pipe op params answers, world.progress = none →
        (startOperation cfg op).isSome →
        (∃ err, (startCommand cfg env pipe op params answers
          world).log.getLast? = some (.refused err)) ∧
        (Undisturbed world (startCommand cfg env pipe op params answers world) ↔
          ¬PassesChecks cfg (.set (.ok op) params) answers.command world.vars) := by
  have coherent := reachable_coherent reached
  refine ⟨coherent.kept session isSession ongoing, ?_⟩
  intro pipe op params answers idle starts
  exact startCommand_ongoing coherent isSession ongoing idle starts

/-! ## Runs -/

def fullConfig : Config where
  blSupported := true
  fullFota := true
  useExtPartition := true
  modemTimeout := 60

/-- `http_parser_parse_url` on `http://` URLs. -/
def parseHttpUrl (uri : List Byte) : Option ParsedUrl :=
  if hasScheme "http://" uri then
    let off := 7 + ((uri.drop 7).takeWhile (· ≠ 47)).length
    some ⟨decide (off < uri.length), decide (7 < off), off⟩
  else
    none

def plainEnvironment : Environment where
  parseUrl := parseHttpUrl
  pathInside := by
    intro uri parser parsed hasPath
    unfold parseHttpUrl at parsed
    split at parsed
    · cases parsed
      exact of_decide_eq_true hasPath
    · cases parsed
  downloadRunning := -ealready
  downloadRunning_ne_zero := by decide
  erasePending := 5
  offsetDirty := 2621440

def bootedWorld : World where
  vars := ⟨false, false, 0, .none, .init, .ok, 0⟩
  fotaPipe := none
  fotaHostname := none
  fotaPath := none
  heap := fun _ => none
  download := none
  settings := ⟨false, false, 0⟩
  progress := none
  log := []

theorem bootedWorld_initial : Initial bootedWorld :=
  ⟨rfl, rfl, rfl, rfl, rfl, rfl⟩

def quietAnswers : CommandAnswers where
  cancel := 0
  area := (0, 0)
  offset := fun _ => (0, 0)
  firstOffset := (0, 0)
  erase := 0
  deviceReady := true
  fullModemCfg := 0
  fdevGet := 0

/-- `AT#XFOTA=1,<file_url>`. -/
def startApp (uri : Except Int (List Byte)) : Action :=
  .command (some 0) (.set (.ok 1) ⟨3, uri, none, none⟩) quietAnswers

def exampleUri : List Byte := ascii "http://a/b"

def downloadingRun : List Action :=
  [startApp (.ok exampleUri), .doFotaStart ⟨some 1, some 2, 0⟩,
    .finishStart ⟨none, 3⟩, .event (.progress 10) 3]

/-- Whether a start command reaches `do_fota_start`. -/
def passesChecks (cfg : Config) (command : Command) (answers : CommandAnswers)
    (vars : FotaVars) : Bool :=
  match command with
  | .set (.ok op) params =>
    match startOperation cfg op with
    | some operation => (checkStart cfg operation params answers vars).isOk
    | none => false
  | _ => false

theorem passesChecks_of {command : Command} (passes : PassesChecks cfg command answers vars) :
    passesChecks cfg command answers vars = true := by
  obtain ⟨op, params, operation, start, rfl, starts, passed⟩ := passes
  simp [passesChecks, starts, passed, Except.isOk, Except.toBool]

def sparesSession (cfg : Config) (world : World) : Action → Bool
  | .command _ command answers =>
    !(world.download.isSome && passesChecks cfg command answers world.vars)
  | _ => true

theorem sparesSession_sound {action : Action} (spares : sparesSession cfg world action = true) :
    SparesSession cfg world action := by
  cases action with
  | command pipe command answers =>
    intro running passes
    simp [sparesSession, running, passesChecks_of passes] at spares
  | doFotaStart _ | finishStart _ | event _ _ | postProcess _ _ | takeBlock _ _
  | releaseBlock _ => trivial

def exampleSession : Session where
  hostname := ascii "http://a"
  path := ascii "b"
  downloading := true
  vars := some ⟨false, false, 0, .app, .download, .ok, 10⟩

/-- A start without a URL is rejected while the firmware downloads. -/
theorem session_survives_rejected_starts_noUrl : ∃ world session,
      sessionOf fullConfig world.log = some session ∧ session.Ongoing ∧
      Entry.refused (-einval) ∈ world.log ∧ session.Kept world := by
  have evaluated : (runChecked (step fullConfig plainEnvironment) (sparesSession fullConfig)
      (downloadingRun ++ [startApp (.error (-einval))]) bootedWorld).map
        (fun world => (sessionOf fullConfig world.log,
          decide (Entry.refused (-einval) ∈ world.log))) =
        some (some exampleSession, true) := by
    decide
  obtain ⟨world, ran, seen⟩ := map_eq_some_iff.mp evaluated
  obtain ⟨isSession, rejected⟩ := Prod.mk.inj seen
  have reached := reachable_of_runChecked _ (fun _ _ _ spares => sparesSession_sound spares)
    (.start bootedWorld_initial) ran
  have ongoing : exampleSession.Ongoing := .of_downloading rfl
  exact ⟨world, exampleSession, isSession, ongoing, of_decide_eq_true rejected,
    (session_survives_rejected_starts reached isSession ongoing).1⟩

/-- A second `AT#XFOTA=1` is rejected while the firmware downloads.  The library
goes on reading buffers that are freed, and the stage is forgotten. -/
theorem rejected_start_frees_buffers : ∃ world session download,
      Reachable (step fullConfig plainEnvironment) (fun _ _ => True) Initial world ∧
      sessionOf fullConfig world.log = some session ∧
      session.downloading = true ∧
      Entry.refused (-ealready) ∈ world.log ∧
      world.download = some download ∧
      world.heap download.host = none ∧ world.heap download.file = none ∧
      world.vars.smFotaStage = .init ∧ ¬session.Kept world := by
  have evaluated : (runActions (step fullConfig plainEnvironment)
      (downloadingRun ++ [startApp (.ok exampleUri),
        .doFotaStart ⟨some 1, some 2, 0⟩, .finishStart ⟨none, 3⟩])
      bootedWorld).map (fun world =>
        (sessionOf fullConfig world.log, world.download, world.vars.smFotaStage,
          decide (Entry.refused (-ealready) ∈ world.log ∧
            world.heap 1 = none ∧ world.heap 2 = none))) =
        some (some exampleSession, some ⟨1, 2, -1, 0, .mcuboot⟩, .init, true)
      := by
    decide
  obtain ⟨world, ran, seen⟩ := map_eq_some_iff.mp evaluated
  obtain ⟨isSession, rest⟩ := Prod.mk.inj seen
  obtain ⟨isDownload, rest⟩ := Prod.mk.inj rest
  obtain ⟨isInit, rest⟩ := Prod.mk.inj rest
  obtain ⟨rejected, noHost, noFile⟩ := of_decide_eq_true rest
  refine ⟨world, exampleSession, _, reachable_of_run _ bootedWorld_initial
      ran, isSession, rfl, rejected, isDownload, noHost, noFile, isInit, ?_⟩
  intro kept
  have vars := kept.vars _ rfl
  rw [vars] at isInit
  cases isInit

end SerialModem.Fota
