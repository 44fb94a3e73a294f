import SerialModem.Socket.Handles

/-!
# Sockets and channels

A socket belongs to the channel that has used it last.  Its pipe is written by
the commands on the socket, and by two helpers that take whatever channel is
current: `update_poll_events`, when the channel of the socket is gone, and
`set_xapoll_events`, which the HTTP client calls from poll work as well.
-/

namespace SerialModem.Socket

open Library Library.Program Option
open AtHost

variable {cfg : Config} {env : Environment} {modem : Modem}

def Stranded (world : World) (slot : Slot) : Prop :=
  smAtHostGetCtxFrom (world.socks slot).pipe world.host = none

def StaysOn (world : World) (slot : Slot) (pipe : Option PipeId) : Prop :=
  pipe = (world.socks slot).pipe ∨ Stranded world slot

theorem smAtHostGetAsyncPollCtx_eq (pipe : Option PipeId) (host : Host) :
    smAtHostGetAsyncPollCtx pipe host = smAtHostGetCtxFrom pipe host := by
  rw [smAtHostGetAsyncPollCtx]
  cases found : smAtHostGetCtxFrom pipe host with
  | none => rfl
  | some c =>
    cases pipe with
    | none => cases found
    | some p =>
      have member : c ∈ host.instanceList :=
        List.mem_of_find?_eq_some found
      simp [smAtCtxCheck, member]

/-- The slot holds another socket, is free, or is on a channel that is
allowed. -/
def SmSocket.Settled (allowed : Option PipeId → Prop) (old sock : SmSocket) :
    Prop :=
  old.generation < sock.generation ∨ sock.generation = old.generation ∧
      (sock.fd = invalidSocket ∨ sock.fd = old.fd ∧ allowed sock.pipe)

namespace SmSocket.Settled

variable {allowed : Option PipeId → Prop} {old sock changed : SmSocket}

theorem start (sock : SmSocket) (own : allowed sock.pipe) : SmSocket.Settled allowed sock sock :=
  .inr ⟨rfl, .inr ⟨rfl, own⟩⟩

theorem keep (settled : SmSocket.Settled allowed old sock)
    (generation : changed.generation = sock.generation)
    (fd : changed.fd = sock.fd)
    (pipe : sock.fd = old.fd → allowed sock.pipe → allowed changed.pipe) :
    SmSocket.Settled allowed old changed := by
  rcases settled with newer | ⟨sameGeneration, free | ⟨sameFd, isAllowed⟩⟩
  · exact .inl (newer.trans_eq generation.symm)
  · exact .inr ⟨generation.trans sameGeneration, .inl (fd.trans free)⟩
  · exact .inr ⟨generation.trans sameGeneration, .inr ⟨fd.trans sameFd, pipe sameFd isAllowed⟩⟩

theorem clear (settled : SmSocket.Settled allowed old sock)
    (generation : changed.generation = sock.generation)
    (free : changed.fd = invalidSocket) :
    SmSocket.Settled allowed old changed := by
  rcases settled with newer | ⟨sameGeneration, _⟩
  · exact .inl (newer.trans_eq generation.symm)
  · exact .inr ⟨generation.trans sameGeneration, .inl free⟩

theorem generation_le (settled : SmSocket.Settled allowed old sock) :
    old.generation ≤ sock.generation := by
  rcases settled with newer | ⟨same, _⟩
  · exact newer.le
  · exact same.ge

theorem of_open (settled : SmSocket.Settled allowed old sock) (stillOpen : sock.fd ≠ invalidSocket)
    (same : sock.generation = old.generation) :
    sock.fd = old.fd ∧ allowed sock.pipe := by
  rcases settled with newer | ⟨_, free | kept⟩
  · exact absurd same newer.ne'
  · exact absurd free stillOpen
  · exact kept

theorem replace (settled : SmSocket.Settled allowed old sock)
    (generation : changed.generation = sock.generation + 1) :
    SmSocket.Settled allowed old changed := by
  rcases settled with newer | ⟨sameGeneration, _⟩ <;>
    exact .inl (by omega)

end SmSocket.Settled

/-- Where effects from `base` may leave a socket. -/
def MayStay (permits : Permits) (base : World) (slot : Slot) (pipe : Option PipeId) : Prop :=
  StaysOn base slot pipe ∨ permits.attaches slot pipe

def Rehomes (cfg : Config) (permits : Permits) (base : World) : Prop :=
  ∀ world slot, Effects cfg permits base world → permits.attaches slot (world.socks slot).pipe →
    pollCtxFromSock slot world = none →
    MayStay permits base slot (smAtHostGetCurrentPipe cfg world.host)

variable {permits : Permits} {base after : World}

theorem Effect.settled {before : World} (rehomes : Rehomes cfg permits base)
    (reached : Effects cfg permits base before)
    (effect : Effect cfg permits before after) (slot : Slot)
    (settled : SmSocket.Settled (MayStay permits base slot) (base.socks slot) (before.socks slot)) :
    SmSocket.Settled (MayStay permits base slot) (base.socks slot) (after.socks slot) := by
  have assigned : ∀ {target : Slot} {sock : SmSocket},
      (target = slot → SmSocket.Settled (MayStay permits base slot) (base.socks slot) sock) →
      SmSocket.Settled (MayStay permits base slot) (base.socks slot)
        ((before.setSock target sock).socks slot) := by
    intro target sock here
    by_cases equal : target = slot
    · subst equal
      rw [World.socks_setSock_self]
      exact here rfl
    · rw [World.socks_setSock_of_ne _ _ (Ne.symm equal)]
      exact settled
  have unmoved : ∀ {target : Slot} {sock : SmSocket},
      sock.generation = (before.socks target).generation →
      sock.fd = (before.socks target).fd →
      sock.pipe = (before.socks target).pipe →
      SmSocket.Settled (MayStay permits base slot) (base.socks slot)
        ((before.setSock target sock).socks slot) := by
    intro target sock generation fd pipe
    apply assigned
    rintro rfl
    exact settled.keep generation fd fun _ isAllowed => pipe ▸ isAllowed
  cases effect with
  | member same => exact unmoved same.generation same.fd same.pipe
  | init =>
    apply assigned
    rintro rfl
    exact settled.clear rfl rfl
  | store =>
    apply assigned
    rintro rfl
    exact settled.replace rfl
  | drop =>
    apply assigned
    rintro rfl
    exact settled.clear rfl rfl
  | attach permitted =>
    apply assigned
    rintro rfl
    exact settled.keep rfl rfl fun _ _ => .inr permitted
  | reassign lost =>
    apply assigned
    rintro rfl
    refine settled.keep rfl rfl ?_
    rintro _ ((own | stranded) | attached)
    · -- The channel was lost before the step.
      apply Or.inl
      apply Or.inr
      rw [Stranded, ← own, ← reached.getCtxFrom, ← smAtHostGetAsyncPollCtx_eq]
      exact lost
    · exact .inl (.inr stranded)
    · exact rehomes _ _ reached attached lost
  | select | arm | settings | reenable | xapoll | rearm | sendCallback | xsendntf =>
    exact unmoved rfl rfl rfl
  | _ => exact settled

theorem Effects.settled (rehomes : Rehomes cfg permits base)
    (effects : Effects cfg permits base after) (slot : Slot) :
    SmSocket.Settled (MayStay permits base slot) (base.socks slot) (after.socks slot) := by
  induction effects with
  | refl => exact SmSocket.Settled.start _ (.inl (.inl rfl))
  | tail reached last ih =>
    exact last.settled rehomes reached slot ih

def servedPipe (c : CtxId) (host : Host) : Option PipeId :=
  if smAtCtxCheck c host then (host.ctx c).pipe else none

variable {c : CtxId}

theorem currentPipe_eq_servedPipe {host : Host} (current : host.currentCtx = some c) :
    smAtHostGetCurrentPipe cfg host = servedPipe c host := by
  rw [smAtHostGetCurrentPipe, smAtHostGetCurrent_of_current current]
  rfl

theorem servedPipe_congr {before after : Host} (frame : Frame before after)
    (c : CtxId) : servedPipe c after = servedPipe c before := by
  rw [servedPipe, smAtCtxCheck, frame.instanceList, frame.pipe]
  rfl

theorem Effects.currentPipe {before : World} (serving : ¬permits.serves)
    (effects : Effects cfg permits before after)
    (current : before.host.currentCtx = some c) :
    smAtHostGetCurrentPipe cfg after.host = servedPipe c before.host := by
  rw [currentPipe_eq_servedPipe ((effects.current serving).trans current),
    servedPipe_congr effects.frame]

def CommandOnChannel (world : World) : Prop :=
  ∀ c, commandCtx world.machine = some c → world.host.currentCtx = some c

def ExitOnChannel (base : World) (event : Event) : Prop :=
  ∀ c flags, event = .handlerExit c httpDatamodeCallback flags → flags.exitHandler = false →
    ∀ r req slot, base.datamodeReq = some r →
      base.httpRequests r = some req → findSocket req.fd base = some slot →
      StaysOn base slot (servedPipe c base.host)

/-- When poll work starts for an idle channel, the socket of each request there is on the pipe
that is current then, or its channel is gone. -/
def PollOnChannel (cfg : Config) (base : World) (c : CtxId) : Prop :=
  ∀ pipe, (base.host.ctx c).pipe = some pipe → isIdlePipe (some pipe) base.host = true →
    ∀ slot target, base.occupied slot = true → StaysOn base slot (some pipe) →
      (findRequest (base.socks slot).fd base).isSome = true →
      findSocket (base.socks slot).fd base = some target →
      StaysOn base target (smAtHostGetCurrentPipe cfg base.host)

/-- What is asked of a step for every socket to keep its channel. -/
def KeepsChannels (cfg : Config) (env : Environment) (world : World) : WorldAction → Prop
  | .machine action => ∀ machine,
      machineStep cfg (outside env) action world.machine = some machine →
      (∀ event ∈ machine.host.history.drop world.host.history.length,
        ExitOnChannel (world.afterMachine machine) event) ∧
      ∀ work c, startedWork world.machine action = some work →
        work.polls = some c → PollOnChannel cfg (world.afterMachine machine) c
  | .command _ _ => CommandOnChannel world
  | _ => True

/-- A command on the channel has named the socket, or the channel is gone. -/
inductive Moves (world : World) (action : WorldAction) (after : World)
    (slot : Slot) (pipe : Option PipeId) : Prop
  | command {command : SocketCommand} {parser : AtParser} {c : CtxId}
      (isCommand : action = .command command parser)
      (executes : commandCtx world.machine = some c)
      (named : parser.Names world slot)
      (channel : pipe = (world.host.ctx c).pipe)
  | stranded (lost : smAtHostGetCtxFrom (world.socks slot).pipe after.host = none)

/-- The socket is still on its pipe, or has been moved rightly. -/
def KeptOrMoved (world : World) (action : WorldAction) (after : World)
    (slot : Slot) (pipe : Option PipeId) : Prop :=
  pipe = (world.socks slot).pipe ∨ Moves world action after slot pipe

theorem commandCtx_live {machine : Machine} (isCommandCtx : commandCtx machine = some c) :
    c ∈ machine.host.instanceList := by
  unfold commandCtx at isCommandCtx
  split at isCommandCtx
  · split at isCommandCtx
    · rename_i inAtMode
      cases isCommandCtx
      simp only [inAtModeCtx, smAtCtxCheck, Bool.and_eq_true, List.contains_iff_mem] at inAtMode
      exact inAtMode.1
    · cases isCommandCtx
  · cases isCommandCtx

variable {world : World} {action : WorldAction}

theorem Effects.keeps_channel {slot : Slot} (same : base.socks = world.socks)
    (rehomes : Rehomes cfg permits base)
    (effects : Effects cfg permits base after)
    (attached : ∀ pipe, permits.attaches slot pipe → KeptOrMoved world action after slot pipe) :
    SmSocket.Settled (KeptOrMoved world action after slot)
      (world.socks slot) (after.socks slot) := by
  have settled := effects.settled rehomes slot
  rw [same] at settled
  rcases settled with newer | ⟨sameGeneration, free | ⟨sameFd, mayStay⟩⟩
  · exact .inl newer
  · exact .inr ⟨sameGeneration, .inl free⟩
  · refine .inr ⟨sameGeneration, .inr ⟨sameFd, ?_⟩⟩
    rcases mayStay with (own | stranded) | moved
    · rw [same] at own
      exact .inl own
    · refine .inr (.stranded ?_)
      rw [effects.getCtxFrom, ← same]
      exact stranded
    · exact attached _ moved

theorem command_keeps_channel {command : SocketCommand} {parser : AtParser}
    (onChannel : CommandOnChannel world) :
    Ends world (runCommand cfg env modem command parser) fun _ after => ∀ slot, SmSocket.Settled
        (KeptOrMoved world (.command command parser) after slot)
        (world.socks slot) (after.socks slot) := by
  let attaches (slot : Slot) (pipe : Option PipeId) : Prop :=
    parser.Names world slot ∧ ∃ c, commandCtx world.machine = some c ∧
      pipe = (world.host.ctx c).pipe
  have current : ∀ {c state}, commandCtx world.machine = some c →
      Effects cfg (command.permissions attaches) world state →
      smAtHostGetCurrentPipe cfg state.host = (world.host.ctx c).pipe := by
    intro c state isCommandCtx effects
    exact effects.currentPipe_of_current id (onChannel c isCommandCtx)
      (commandCtx_live isCommandCtx)
  have mayAttach : ∀ c, commandCtx world.machine = some c → ∀ slot, parser.Names world slot →
        MayAttach cfg (command.permissions attaches) (world.locked c) slot := by
    intro c isCommandCtx slot named state effects
    exact ⟨named, c, isCommandCtx, current isCommandCtx ((world.locked_effects c).trans effects)⟩
  refine (runCommand_effects mayAttach).mono ?_
  intro _ after effects slot
  have rehomes : Rehomes cfg (command.permissions attaches) world := by
    rintro state target reached ⟨named, c, isCommandCtx, _⟩ lost
    exact .inr ⟨named, c, isCommandCtx, current isCommandCtx reached⟩
  apply effects.keeps_channel rfl rehomes
  rintro pipe ⟨named, c, isCommandCtx, channel⟩
  exact .inr (.command rfl isCommandCtx named channel)

def workPermissions (attaches : Slot → Option PipeId → Prop) (leaves : Prop) : Permits :=
  { machinePermissions attaches with sessions := leaves, serves := leaves }

instance (attaches : Slot → Option PipeId → Prop) (leaves : Prop) :
    Fact (workPermissions attaches leaves).bodies :=
  ⟨trivial⟩

theorem workPermissions_narrows (attaches : Slot → Option PipeId → Prop) (leaves : Prop) :
    (workPermissions attaches leaves).Narrows (machinePermissions attaches) where
  opens := id
  attaches _ _ := id
  sessions _ := trivial
  serves _ := trivial
  requests := id
  streams := id
  bodies := id
  acknowledges := id
  notifies := id
  renews := id
  queues _ _ := id

section

variable {base : World}

theorem rehomes_staysOn {permits : Permits}
    (own : ∀ slot pipe, permits.attaches slot pipe → StaysOn base slot pipe) :
    Rehomes cfg permits base := by
  intro state slot reached attached lost
  apply Or.inl
  apply Or.inr
  rcases own slot _ attached with same | stranded
  · rw [Stranded, ← same, ← reached.getCtxFrom, ← smAtHostGetAsyncPollCtx_eq]
    exact lost
  · exact stranded

theorem Effects.staysOn {permits : Permits} {after : World}
    (own : ∀ slot pipe, permits.attaches slot pipe → StaysOn base slot pipe)
    (closed : ¬permits.opens) (effects : Effects cfg permits base after)
    {slot : Slot} (occupied : after.occupied slot = true) :
    StaysOn base slot (after.socks slot).pipe := by
  have sameFd := effects.sameFd closed slot
  rcases effects.settled (rehomes_staysOn own) slot with
    newer | ⟨_, free | ⟨_, stays | attached⟩⟩
  · rw [sameFd.2] at newer
    exact absurd newer (lt_irrefl _)
  · simp [World.occupied, free] at occupied
  · exact stays
  · exact own slot _ attached

theorem ExitOnChannel.mayAttach {event : Event} (onChannel : ExitOnChannel base event) :
    ExitMayAttach cfg (machinePermissions (StaysOn base)) base event := by
  intro c flags isExit normally middle reached current r req slot
    isDatamodeReq isRequest found state effects
  have onBase : base.datamodeReq = some r := by
    rcases reached.datamodeReq id id with same | cleared
    · exact same ▸ isDatamodeReq
    · rw [cleared] at isDatamodeReq
      cases isDatamodeReq
  obtain ⟨old, isOld, sameFd⟩ := reached.sameHandles id r req isRequest
  rw [sameFd, reached.findSocket id] at found
  have stays := onChannel c flags isExit normally r old slot onBase isOld found
  rw [effects.currentPipe id current, servedPipe_congr reached.frame]
  exact stays

/-- The HTTP client leaves the sockets of an idle channel where they are. -/
theorem PollOnChannel.permitted {c : CtxId} {leaves : Prop} (onChannel : PollOnChannel cfg base c)
    (leavesDatamode : ∀ pipe, (base.host.ctx c).pipe = some pipe →
      (inDatamodePipe (some pipe) base.host = true ↔ leaves)) :
    PollPermitted cfg (workPermissions (StaysOn base) leaves) base c where
  notifies := trivial
  renews := trivial
  queues _ _ := trivial
  leaves := by
    intro pipe isPipe inDatamode
    have permitted := (leavesDatamode pipe isPipe).mp inDatamode
    exact ⟨permitted, permitted⟩
  mayAttach := by
    intro pipe isPipe idle state slot target reached isOfPipe hasRequest found later effects
    have stays : ¬leaves := by
      rw [← leavesDatamode pipe isPipe, not_datamode_of_idle idle]
      exact Bool.false_ne_true
    have sameFd := reached.sameFd id slot
    simp only [ofPipe, Bool.and_eq_true, beq_iff_eq] at isOfPipe
    obtain ⟨occupied, ofThisPipe⟩ := isOfPipe
    have onPipe := reached.staysOn (fun _ _ => id) id occupied
    rw [ofThisPipe] at onPipe
    have occupiedBefore : base.occupied slot = true := by
      rw [World.occupied, ← sameFd.1]
      exact occupied
    rw [sameFd.1] at hasRequest found
    rw [reached.findSocket id] at found
    rw [effects.currentPipe_of_steady stays stays]
    exact onChannel pipe isPipe idle slot target occupiedBefore onPipe
      ((reached.sameHandles id).findRequest hasRequest) found

end

theorem machine_keeps_channel {action : MachineAction}
    (keeps : KeepsChannels cfg env world (.machine action)) :
    Ends world (machineAction cfg env modem action)
      fun _ after => ∀ slot, SmSocket.Settled (KeptOrMoved world (.machine action) after slot)
        (world.socks slot) (after.socks slot) := by
  cases stepped : machineStep cfg (outside env) action world.machine with
  | none =>
    unfold machineAction
    rw [ends_bind, ends_get, stepped]
    split <;> exact ends_failure _
  | some machine =>
    let base := world.afterMachine machine
    obtain ⟨exits, polls⟩ := keeps machine stepped
    let leaves : Prop := ∃ work c pipe,
      startedWork world.machine action = some work ∧ work.polls = some c ∧
      (base.host.ctx c).pipe = some pipe ∧
      inDatamodePipe (some pipe) base.host = true
    have narrows := workPermissions_narrows (StaysOn base) leaves
    refine (machineAction_effects narrows ?_ ?_).mono ?_
    · intro again same event member
      rw [stepped] at same
      cases same
      exact (exits event member).mayAttach
    · intro again same work started
      rw [stepped] at same
      cases same
      apply WorkPermitted.of_polls fun _ _ => trivial
      intro c polled
      apply (polls work c started polled).permitted
      intro pipe isPipe
      constructor
      · intro inDatamode
        exact ⟨work, c, pipe, started, polled, isPipe, inDatamode⟩
      · rintro ⟨otherWork, otherC, otherPipe, startedOther, polledOther, isOther, inDatamode⟩
        rw [started] at startedOther
        cases startedOther
        rw [polled] at polledOther
        cases polledOther
        have samePipe : some pipe = some otherPipe := isPipe.symm.trans isOther
        rw [samePipe]
        exact inDatamode
    · rintro _ after ⟨again, same, effects⟩ slot
      rw [stepped] at same
      cases same
      have sameSocks : (world.afterMachine machine).socks = world.socks :=
        rfl
      apply effects.keeps_channel sameSocks (rehomes_staysOn fun _ _ => id)
      rintro pipe (own | stranded)
      · exact .inl own
      · refine .inr (.stranded ?_)
        rw [effects.getCtxFrom]
        exact stranded

theorem worldStep_keeps_channel (keeps : KeepsChannels cfg env world action)
    (taken : worldStep cfg env modem action world = some after) (slot : Slot) :
    SmSocket.Settled (KeptOrMoved world action after slot)
      (world.socks slot) (after.socks slot) := by
  obtain ⟨⟨value, final⟩, performed, rfl⟩ := map_eq_some_iff.mp taken
  have unmoved : ∀ {acknowledges : Prop},
      Effects cfg (interruptPermissions acknowledges) world final →
      SmSocket.Settled (KeptOrMoved world action final slot)
        (world.socks slot) (final.socks slot) := by
    intro acknowledges effects
    apply effects.keeps_channel rfl fun _ _ _ => False.elim
    intro pipe
    exact False.elim
  cases action with
  | machine action => exact machine_keeps_channel keeps value final performed slot
  | command command parser =>
    exact command_keeps_channel keeps value final performed slot
  | pollCallback fd revents =>
    cases worldStep_effects taken with
    | pollCallback effects => exact unmoved effects
  | sendCallback fd status bytesSent =>
    cases worldStep_effects taken with
    | sendCallback effects => exact unmoved effects
  | httpTimeout expired =>
    cases worldStep_effects taken with
    | httpTimeout _ effects => exact unmoved effects

section

variable {start final : World} {taken : List (World × WorldAction × World)} {slot : Slot}

theorem generation_le_of_run
    (run : Execution (worldStep cfg env modem) (KeepsChannels cfg env) start taken final) :
    (start.socks slot).generation ≤ (final.socks slot).generation := by
  induction run with
  | refl => exact Nat.le_refl _
  | next _ keeps stepped ih =>
    exact ih.trans (worldStep_keeps_channel keeps stepped slot).generation_le

theorem run_keeps_channel
    (run : Execution (worldStep cfg env modem) (KeepsChannels cfg env) start taken final)
    (stillOpen : (final.socks slot).fd ≠ invalidSocket)
    (same : (final.socks slot).generation = (start.socks slot).generation) :
    (final.socks slot).pipe = (start.socks slot).pipe ∨
      ∃ world action after, (world, action, after) ∈ taken ∧
        Moves world action after slot (after.socks slot).pipe := by
  induction run with
  | refl => exact .inl rfl
  | @next taken state after action before keeps stepped ih =>
    have settled := worldStep_keeps_channel keeps stepped slot
    have sameBefore : (state.socks slot).generation = (start.socks slot).generation := by
      have atLeast : (start.socks slot).generation ≤
          (state.socks slot).generation := generation_le_of_run before
      have atMost := settled.generation_le
      omega
    obtain ⟨sameFd, kept⟩ :=
      settled.of_open stillOpen (same.trans sameBefore.symm)
    have wasOpen : (state.socks slot).fd ≠ invalidSocket :=
      sameFd ▸ stillOpen
    rcases ih wasOpen sameBefore with
      unmoved | ⟨world, earlier, later, member, moves⟩
    · rcases kept with own | moves
      · exact .inl (own.trans unmoved)
      · exact .inr ⟨state, action, after, by simp, moves⟩
    · exact .inr ⟨world, earlier, later, by simp [member], moves⟩

end

/-- In a run whose steps keep the channels, the pipe of an open socket is only
changed by a command that names the socket, on the channel that executes the
command, or when the old channel has no context.  A socket that is still open
at the end is on the channel on which it was, unless there was such a step. -/
theorem socket_keeps_channel {start final : World} {taken : List (World × WorldAction × World)}
    (run : Execution (worldStep cfg env modem) (KeepsChannels cfg env) start taken final) :
    (∀ world action after slot, (world, action, after) ∈ taken → after.occupied slot = true →
      (after.socks slot).generation = (world.socks slot).generation →
      world.occupied slot = true ∧ KeptOrMoved world action after slot (after.socks slot).pipe) ∧
    ∀ slot, final.occupied slot = true →
      (final.socks slot).generation = (start.socks slot).generation →
      (final.socks slot).pipe = (start.socks slot).pipe ∨
        ∃ world action after, (world, action, after) ∈ taken ∧
          Moves world action after slot (after.socks slot).pipe := by
  constructor
  · intro world action after slot member stillOpen same
    induction run with
    | refl => cases member
    | next _ keeps stepped ih =>
      rcases List.mem_append.mp member with earlier | isLast
      · exact ih earlier
      · obtain ⟨rfl, rfl, rfl⟩ : _ ∧ _ ∧ _ := by simpa using isLast
        have settled := worldStep_keeps_channel keeps stepped slot
        obtain ⟨sameFd, kept⟩ := settled.of_open ((occupied_iff _ slot).mp stillOpen) same
        rw [World.occupied, sameFd] at stillOpen
        exact ⟨stillOpen, kept⟩
  · intro slot stillOpen same
    exact run_keeps_channel run ((occupied_iff final slot).mp stillOpen) same

def endsBody : Event → Bool
  | .handlerExit _ handler flags =>
    handler == httpDatamodeCallback && !flags.exitHandler
  | _ => false

/-- A check for the runs below, in which no work item of the socket module is
started and no request body ends. -/
def keepsChannels (cfg : Config) (env : Environment) (world : World) : WorldAction → Bool
  | .machine action =>
    (startedWork world.machine action).isNone &&
      (machineStep cfg (outside env) action world.machine).all fun machine =>
        (machine.host.history.drop world.host.history.length).all fun event => !endsBody event
  | .command _ _ =>
    (commandCtx world.machine).all fun c => world.host.currentCtx == some c
  | _ => true

theorem keepsChannels_sound (checked : keepsChannels cfg env world action = true) :
    KeepsChannels cfg env world action := by
  cases action with
  | machine action =>
    obtain ⟨idle, silent⟩ := (Bool.and_eq_true_iff).mp checked
    intro machine stepped
    rw [stepped, all_some, List.all_eq_true] at silent
    constructor
    · rintro event member c flags rfl normally
      have notBody := silent _ member
      simp [endsBody, normally] at notBody
    · intro work c started
      rw [started] at idle
      cases idle
  | command command parser =>
    intro c isCommandCtx
    simpa [keepsChannels, isCommandCtx] using checked
  | _ => trivial

def openSecondChannel : List WorldAction :=
  [.machine (.pipeOpened 1), .machine (.host .dispatch),
    .machine (.takeMessage (some 1)), .machine .endMessages]

/-- A socket that the first channel has opened is on the second channel at the
end of a run: a step of the run has moved it there. -/
theorem connected_socket_moved :
    ∃ (start final : World) (taken : List (World × WorldAction × World)),
      (start.socks 0).pipe = some 0 ∧ (final.socks 0).pipe = some 1 ∧
      ∃ world action after, (world, action, after) ∈ taken ∧
        Moves world action after 0 (after.socks 0).pipe := by
  have evaluated : ((runActions (worldStep plusConfig (sessionEnv 0 consumeAll) calmModem)
      (openSecondChannel ++ lineActions 0 .xsocket (numbers [1, 1, 0] []))
      bootedWorld).bind fun start =>
        (runChecked (worldStep plusConfig (sessionEnv 0 consumeAll) calmModem)
          (keepsChannels plusConfig (sessionEnv 0 consumeAll))
          (lineActions 1 .xconnect (numbers [0, 0, 80] (ascii "a")))
          start).map fun final => (start, final)).map (fun run =>
            ((run.1.socks 0).pipe, (run.2.socks 0).pipe,
              run.2.occupied 0, decide ((run.2.socks 0).generation = (run.1.socks 0).generation))) =
      some (some 0, some 1, true, true) := by decide +kernel
  obtain ⟨⟨start, final⟩, ran, seen⟩ := map_eq_some_iff.mp evaluated
  obtain ⟨_, _, rest⟩ := bind_eq_some_iff.mp ran
  obtain ⟨_, checked, isRun⟩ := map_eq_some_iff.mp rest
  cases isRun
  obtain ⟨taken, run⟩ := execution_of_runChecked
    (fun _ _ => keepsChannels_sound) _ Execution.refl checked
  obtain ⟨fromPipe, toPipe, stillOpen, same⟩ := by
    simpa only [Prod.mk.injEq, decide_eq_true_eq] using seen
  refine ⟨start, final, taken, fromPipe, toPipe, ?_⟩
  refine ((socket_keeps_channel run).2 0 stillOpen same).resolve_left ?_
  rw [fromPipe, toPipe]
  decide

/-- A modem that takes the host `a` from every URL. -/
def webModem : Modem :=
  { calmModem with
    httpParserParseUrl := fun _ => some ⟨none, some (7, 1), none, none, none⟩ }

/-- A socket of the second channel runs a request.  When it can be written, the
HTTP client moves it to the first channel. -/
theorem http_client_moves_socket : ∃ world after : World,
      WorldReachable plusConfig (sessionEnv 0 consumeAll) webModem world ∧
      worldStep plusConfig (sessionEnv 0 consumeAll) webModem
        (.machine (.host .dispatch)) world = some after ∧
      after.occupied 0 = true ∧
      (after.socks 0).generation = (world.socks 0).generation ∧
      (world.socks 0).pipe = some 1 ∧ (after.socks 0).pipe = some 0 ∧
      ¬KeptOrMoved world (.machine (.host .dispatch)) after 0 (after.socks 0).pipe := by
  obtain ⟨world, reachable, seen⟩ := exists_world_run plusConfig (sessionEnv 0 consumeAll) webModem
    (openSecondChannel ++ lineActions 1 .xsocket (numbers [1, 1, 0] []) ++
      lineActions 1 .xhttpcreq (numbers [0, 0, 0] (ascii "http://a/")) ++
      [.pollCallback 0 zsockPollout])
    (fun world => (worldStep plusConfig (sessionEnv 0 consumeAll) webModem
      (.machine (.host .dispatch)) world).map fun after =>
        ((world.socks 0).pipe, (after.socks 0).pipe, after.occupied 0,
          decide ((after.socks 0).generation = (world.socks 0).generation),
          (smAtHostGetCtxFrom (some 1) after.host).isSome))
    (some (some 1, some 0, true, true, true)) (by decide +kernel)
  obtain ⟨after, taken, seenAfter⟩ := map_eq_some_iff.mp seen
  obtain ⟨onSecond, onFirst, stillOpen, same, alive⟩ := by
    simpa only [Prod.mk.injEq, decide_eq_true_eq] using seenAfter
  refine ⟨world, after, reachable, taken, stillOpen, same, onSecond, onFirst, ?_⟩
  rintro (kept | ⟨isCommand⟩ | lost)
  · rw [onFirst, onSecond] at kept
    cases kept
  · cases isCommand
  · rw [onSecond] at lost
    rw [lost] at alive
    cases alive

end SerialModem.Socket
