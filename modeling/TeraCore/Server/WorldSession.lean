import TeraCore.Commons.Run

/-!
# World sessions: the receive queue

The socket puts the packets of a client into the receive queue of its session; an update of the
session takes them out, one after another, and hands them to the handlers of their opcodes.

A packet for a player in the game can come too early, before there is a player.  It goes back to the
end of the queue, for the next update; the update is over when such a packet is at the front again.

## Main definitions

* `Packet`, `SessionStatus`, `OpcodeTable`
* `Session`: what the login of a session has come to
* `UpdateLoop`: an update that is under way, with the packets that it took and deleted
* `Outcome`: what happens while one packet is looked at
* `UpdateLoop.step`: one turn of the loop
-/

namespace TeraCore.Server

open Commons

/-- A packet; `id` is its address. -/
structure Packet where
  id : ℕ
  opcode : ℕ
  deriving DecidableEq

/-- When an opcode is processed. -/
inductive SessionStatus where
  | authed
  | loggedIn
  | transfer
  | loggedInOrRecentlyLoggedOut
  | never
  | unhandled
  deriving DecidableEq

structure OpcodeTable where
  numMsgTypes : ℕ
  status : ℕ → SessionStatus

def CMSG_CHAR_ENUM : ℕ := 0x037

inductive Presence where
  | inWorld
  | notInWorld
  deriving DecidableEq

/-- **The state of a login**, as far as an update looks at it. -/
structure Session where
  /-- There is a socket, and it is not closed. -/
  socketOpen : Bool
  player : Option Presence
  playerRecentlyLogout : Bool
  playerLogout : Bool
  inQueue : Bool
  /-- There are bots of the player. -/
  playerBots : Bool
  deriving DecidableEq

/-- **What happens while a packet is looked at.** -/
structure Outcome where
  /-- What the handler of the packet, and the scripts before it, make of the session. -/
  handler : Session → Session
  /-- A `ByteBufferException` comes from the handler. -/
  handlerThrows : Bool
  /-- What the bots make of the session. -/
  bots : Session → Session
  /-- The socket closes. -/
  closed : Bool
  /-- What the socket queues before the packet can be put back, and afterwards. -/
  arrived : List Packet
  arrivedLater : List Packet

/-- **An update under way.** -/
structure UpdateLoop where
  session : Session
  recvQueue : List Packet
  deletePacket : Bool
  firstDelayedPacket : Option Packet
  /-- The packets that were taken, that were deleted and that came in, so far. -/
  taken : List Packet
  deleted : List Packet
  arrived : List Packet

def UpdateLoop.start (session : Session) (recvQueue : List Packet) : UpdateLoop where
  session := session
  recvQueue := recvQueue
  deletePacket := true
  firstDelayedPacket := none
  taken := []
  deleted := []
  arrived := []

variable (table : OpcodeTable) (session : Session) (packet : Packet)

/-- **The packet comes too early**: it is for a player in the game, and there is none yet. -/
def OpcodeTable.tooEarly : Bool :=
  decide (packet.opcode < table.numMsgTypes) &&
    decide (table.status packet.opcode = .loggedIn) &&
    session.player.isNone && !session.playerRecentlyLogout

/-- What comes of the session when its handler gets the packet, if it does. -/
def OpcodeTable.dispatch (outcome : Outcome) : Session :=
  -- an opcode that does not exist is logged
  if packet.opcode ≥ table.numMsgTypes then session
  else
    match table.status packet.opcode with
    | .loggedIn =>
      let handled := decide (session.player = some .inWorld)
      let session := if handled then outcome.handler session else session
      -- an exception skips the bots
      if session.playerBots && !(handled && outcome.handlerThrows) then outcome.bots session
      else session
    | .loggedInOrRecentlyLoggedOut =>
      if session.player.isNone && !session.playerRecentlyLogout && !session.playerLogout then
        session
      else outcome.handler session
    | .transfer =>
      if session.player = some .notInWorld then outcome.handler session else session
    | .authed =>
      if session.inQueue then session
      else
        let session :=
          if packet.opcode = CMSG_CHAR_ENUM then { session with playerRecentlyLogout := false }
          else session
        outcome.handler session
    | .never | .unhandled => session

namespace UpdateLoop

/-- **The condition of the loop**, with the filter of the update. -/
def goesOn (filter : Session → Packet → Bool) (l : UpdateLoop) : Bool :=
  match l.recvQueue with
  | [] => false
  | packet :: _ =>
    l.session.socketOpen && decide (some packet ≠ l.firstDelayedPacket) && filter l.session packet

/-- **The body of the loop**, for the packet at the front of the queue. -/
def body (table : OpcodeTable) (l : UpdateLoop) (packet : Packet) (rest : List Packet)
    (outcome : Outcome) : UpdateLoop :=
  let early := table.tooEarly l.session packet
  let session := table.dispatch l.session packet outcome
  let deletePacket := if early then false else l.deletePacket
  { session := { session with socketOpen := session.socketOpen && !outcome.closed }
    recvQueue :=
      rest ++ outcome.arrived ++ (if early then [packet] else []) ++ outcome.arrivedLater
    deletePacket := deletePacket
    firstDelayedPacket :=
      if early && l.firstDelayedPacket.isNone then some packet else l.firstDelayedPacket
    taken := l.taken ++ [packet]
    deleted := if deletePacket then l.deleted ++ [packet] else l.deleted
    arrived := l.arrived ++ outcome.arrived ++ outcome.arrivedLater }

/-- **A turn of the loop**, if it goes on. -/
def step (table : OpcodeTable) (filter : Session → Packet → Bool) (l : UpdateLoop)
    (outcome : Outcome) : UpdateLoop :=
  match l.recvQueue with
  | [] => l
  | packet :: rest => if l.goesOn filter then l.body table packet rest outcome else l

end UpdateLoop

/-- **An update**: turns of the loop, with what happens in them. -/
def Session.update (table : OpcodeTable) (filter : Session → Packet → Bool) (session : Session)
    (recvQueue : List Packet) (outcomes : List Outcome) : UpdateLoop :=
  run (UpdateLoop.step table filter) (.start session recvQueue) outcomes

end TeraCore.Server
