import SerialModem.Socket.Steps

/-!
# Handles

A command names its socket by the descriptor, and `find_socket` compares it with
every slot.  A free slot holds `INVALID_SOCKET`, which is also a number that the
host can send.
-/

namespace SerialModem.Socket

open Library Library.Program
open AtHost

variable {cfg : Config} {env : Environment} {modem : Modem}

def World.IsOpen (world : World) (handle : Int) : Prop :=
  ∃ slot, world.occupied slot = true ∧ (world.socks slot).fd = handle

structure AtParser.HasHandle (parser : AtParser) (handle : Int) : Prop where
  count : 1 < parser.count
  num : parser.num 1 = .done handle

def SocketCommand.takesHandle : SocketCommand → Bool
  | .xclose => true
  | .xbind => true
  | .xconnect => true
  | .xsend => true
  | .xsendto => true
  | .xrecv => true
  | .xrecvfrom => true
  | .xlisten => true
  | .xaccept => true
  | .xhttpcreq => true
  | _ => false

theorem findSocket_isSome (handle : Int) (world : World) :
    (findSocket handle world).isSome = true ↔ ∃ slot, (world.socks slot).fd = handle := by
  unfold findSocket
  rw [List.find?_isSome]
  constructor
  · rintro ⟨slot, _, same⟩
    exact ⟨slot, by simpa using same⟩
  · rintro ⟨slot, same⟩
    exact ⟨slot, List.mem_finRange slot, by simpa using same⟩

theorem findSocket_fd {handle : Int} {world : World} {slot : Slot}
    (found : findSocket handle world = some slot) :
    (world.socks slot).fd = handle := by
  have holds := List.find?_some found
  simpa using holds

theorem occupied_iff (world : World) (slot : Slot) :
    world.occupied slot = true ↔ (world.socks slot).fd ≠ invalidSocket := by
  simp [World.occupied]

section

variable {parser : AtParser} {handle : Int} {world : World}

theorem withSocket_rejects (unknown : findSocket handle world = none) (next : Slot → SocketM Int) :
    withSocket handle next world = some (-einval, world) := by
  rw [withSocket, run_bind, run_get, Option.bind_some, unknown]
  rfl

theorem withHandle_rejects (unknown : findSocket handle world = none)
    (num : parser.num 1 = .done handle) (next : Int → Slot → SocketM Int) :
    withParam (parser.num 1) (fun fd => withSocket fd (next fd)) world = some (-einval, world) := by
  rw [num]
  exact withSocket_rejects unknown (next handle)

variable {command : SocketCommand}

theorem handler_rejects (takes : command.takesHandle = true) (given : parser.HasHandle handle)
    (unknown : findSocket handle world = none) :
    command.handler cfg env modem parser world = some (-einval, world) := by
  cases command with
  | xclose =>
    rw [SocketCommand.handler, handleAtClose, if_pos given.count]
    exact withHandle_rejects unknown given.num _
  | xbind | xconnect | xsend | xsendto | xrecv | xrecvfrom | xlisten | xaccept =>
    exact withHandle_rejects unknown given.num _
  | xhttpcreq =>
    rw [SocketCommand.handler, handleAtHttpcreq]
    split
    · rfl
    · exact withHandle_rejects unknown given.num _
  | xsocket | xssocket | xapoll | xrecvcfg | xhttpcdata | xhttpccancel => cases takes

def rejected (cfg : Config) (c : CtxId) (host : Host) : Host :=
  addExecutingLock c (-1) (rspSendError cfg (addExecutingLock c 1 host))

theorem command_rejects {c : CtxId}
    (takes : command.takesHandle = true) (given : parser.HasHandle handle)
    (unknown : findSocket handle world = none)
    (receives : commandCtx world.machine = some c) :
    worldStep cfg env modem (.command command parser) world =
      some (world.setHost (rejected cfg c world.host)) := by
  have unknownLocked : findSocket handle
      (world.setHost (addExecutingLock c 1 world.host)) = none := unknown
  have handled : command.handler cfg env modem parser
      (world.setHost (addExecutingLock c 1 world.host)) =
        some (-einval, world.setHost (addExecutingLock c 1 world.host)) :=
    handler_rejects takes given unknownLocked
  rw [worldStep, WorldAction.perform, runCommand, run_bind, run_get, Option.bind_some, receives]
  simp only [run_bind, modifyHost, run_modify, Option.bind_some, handled]
  rfl

end

/-- A handle denotes the open socket with this descriptor, and a command on any
other handle answers ERROR and changes nothing. -/
structure ValidatesHandle (cfg : Config) (env : Environment) (modem : Modem)
    (world : World) (handle : Int) : Prop where
  lookup : (findSocket handle world).isSome = true ↔ world.IsOpen handle
  denotes : ∀ slot, findSocket handle world = some slot →
    world.occupied slot = true ∧ (world.socks slot).fd = handle
  rejects : ¬world.IsOpen handle → ∀ command parser c, command.takesHandle = true →
      parser.HasHandle handle → commandCtx world.machine = some c →
      command.handler cfg env modem parser world = some (-einval, world) ∧
      worldStep cfg env modem (.command command parser) world =
        some (world.setHost (rejected cfg c world.host))

/-- Every handle is validated, but for the one that marks free slots. -/
theorem validatesHandle_iff (world : World) (handle : Int) :
    ValidatesHandle cfg env modem world handle ↔
      handle ≠ invalidSocket ∨ ∀ slot, world.occupied slot = true := by
  constructor
  · intro validates
    by_contra marksFree
    push Not at marksFree
    obtain ⟨isMarker, slot, free⟩ := marksFree
    have holds : (world.socks slot).fd = handle := by
      rw [isMarker]
      by_contra used
      exact free ((occupied_iff world slot).mpr used)
    obtain ⟨open', occupied, same⟩ := validates.lookup.mp
      ((findSocket_isSome handle world).mpr ⟨slot, holds⟩)
    exact (occupied_iff world open').mp occupied (same.trans isMarker)
  · intro condition
    have occupied : ∀ slot, (world.socks slot).fd = handle → world.occupied slot = true := by
      intro slot same
      rcases condition with notMarker | full
      · rw [occupied_iff, same]
        exact notMarker
      · exact full slot
    have lookup : (findSocket handle world).isSome = true ↔ world.IsOpen handle := by
      rw [findSocket_isSome]
      constructor
      · rintro ⟨slot, same⟩
        exact ⟨slot, occupied slot same, same⟩
      · rintro ⟨slot, _, same⟩
        exact ⟨slot, same⟩
    refine ⟨lookup, ?_, ?_⟩
    · intro slot found
      exact ⟨occupied slot (findSocket_fd found), findSocket_fd found⟩
    · intro closed command parser c takes given receives
      have unknown : findSocket handle world = none := by
        cases found : findSocket handle world with
        | none => rfl
        | some slot => exact absurd (lookup.mp (by rw [found]; rfl)) closed
      exact ⟨handler_rejects takes given unknown, command_rejects takes given unknown receives⟩

/-- AT#XCLOSE=-1 succeeds although no socket has this descriptor. -/
theorem close_minus_one_succeeds :
    WorldReachable plusConfig (sessionEnv 0 consumeAll) calmModem bootedWorld ∧
      ¬bootedWorld.IsOpen (-1) ∧
      findSocket (-1) bootedWorld = some 0 ∧
      (SocketCommand.xclose.handler plusConfig (sessionEnv 0 consumeAll)
        calmModem (numbers [-1] []) bootedWorld).map Prod.fst = some 0 ∧
      ¬ValidatesHandle plusConfig (sessionEnv 0 consumeAll) calmModem bootedWorld (-1) := by
  have closed : ¬bootedWorld.IsOpen (-1) := by
    rintro ⟨slot, occupied, same⟩
    exact (occupied_iff bootedWorld slot).mp occupied same
  have found : findSocket (-1) bootedWorld = some 0 := by decide
  refine ⟨Reachable.start bootedWorld_initial, closed, found, by decide, ?_⟩
  intro validates
  exact closed (validates.lookup.mp (by rw [found]; rfl))

end SerialModem.Socket
