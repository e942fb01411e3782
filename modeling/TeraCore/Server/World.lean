import TeraCore.Commons.OrderedMap
import TeraCore.Commons.Run

/-!
# The world's sessions and the login queue

The world has one session for each account.  When there are as many as the limit allows, the
session of a player waits in a queue; the first of it is admitted when another session goes.

Sessions are told apart by their addresses.  An address may be used again after its session is
deleted, but not before.

## Main definitions

* `WorldSession`, `World`: the sessions, the queue, and what happened to the queue
* `AddQueuedPlayer`, `RemoveQueuedPlayer`: in and out of the queue
* `AddSession_`: a new session comes in the place of the account's old one
* `UpdateSessions`: new sessions come and others end
-/

namespace TeraCore.LoginQueue

open Commons

/-- The address of a session. -/
abbrev Address : Type := ℕ

abbrev AccountId : Type := ℕ

/-- What is sent to a session that comes or waits. -/
inductive Packet where
  /-- `SendAuthResponse(AUTH_OK, true)` -/
  | authOk
  /-- `SendAuthResponse(AUTH_WAIT_QUEUE, false, position)` -/
  | authWaitQueue (position : ℕ)
  /-- `SendAuthWaitQue`; the position 0 says that the wait is over. -/
  | waitQue (position : ℕ)
  | addonsInfo | clientCacheVersion | accountDataTimes | tutorialsData
deriving DecidableEq

def Packet.position : Packet → Option ℕ
  | .authWaitQueue position => some position
  | .waitQue position => some position
  | _ => none

structure WorldSession where
  accountId : AccountId
  security : ℕ
  m_inQueue : Bool
  sent : List Packet
  /-- `KickPlayer` closed its socket. -/
  kicked : Bool
deriving DecidableEq

namespace WorldSession

/-- A session before the world has it. -/
def new (accountId : AccountId) (security : ℕ) : WorldSession where
  accountId := accountId
  security := security
  m_inQueue := false
  sent := []
  kicked := false

def setInQueue (state : Bool) (s : WorldSession) : WorldSession := { s with m_inQueue := state }

def send (packets : List Packet) (s : WorldSession) : WorldSession :=
  { s with sent := s.sent ++ packets }

/-- What a queued session is sent when it is admitted. -/
def accept (s : WorldSession) : WorldSession := (s.setInQueue false).send
  [.waitQue 0, .addonsInfo, .clientCacheVersion, .accountDataTimes, .tutorialsData]

def kickPlayer (s : WorldSession) : WorldSession := { s with kicked := true }

/-- The position that the session was told last. -/
def lastPosition (s : WorldSession) : Option ℕ := (s.sent.filterMap Packet.position).getLast?

end WorldSession

/-- What happens to the queue. -/
inductive QueueEvent where
  | joined (sess : Address)
  /-- A queued session ends, or another one takes its place. -/
  | left (sess : Address)
  /-- A session is admitted, with the number of sessions then that stay and do not wait. -/
  | admitted (sess : Address) (staying limit : ℕ)
deriving DecidableEq

structure World where
  m_sessions : OrderedMap AccountId Address
  m_QueuedPlayer : List Address
  /-- The times at which accounts were disconnected. -/
  m_disconnects : OrderedMap AccountId ℕ
  m_playerLimit : ℕ
  m_maxActiveSessionCount : ℕ
  m_maxQueuedSessionCount : ℕ
  /-- The sessions that are not deleted. -/
  live : OrderedMap Address WorldSession
  /-- What has happened to the queue. -/
  history : List QueueEvent

namespace World

variable (w : World)

/-- The world without sessions. -/
def start (limit : ℕ) : World where
  m_sessions := .empty
  m_QueuedPlayer := []
  m_disconnects := .empty
  m_playerLimit := limit
  m_maxActiveSessionCount := 0
  m_maxQueuedSessionCount := 0
  live := .empty
  history := []

def GetActiveAndQueuedSessionCount : ℕ := w.m_sessions.size

def GetActiveSessionCount : ℕ := w.m_sessions.size - w.m_QueuedPlayer.length

def UpdateMaxSessionCounters : World :=
  { w with
    m_maxActiveSessionCount := max w.m_maxActiveSessionCount w.GetActiveSessionCount
    m_maxQueuedSessionCount := max w.m_maxQueuedSessionCount w.m_QueuedPlayer.length }

variable (sess : Address)

/-- A session is changed. -/
def modify (f : WorldSession → WorldSession) : World :=
  match w.live.find? sess with
  | none => w
  | some s => { w with live := w.live.set sess (f s) }

def delete : World := { w with live := w.live.erase sess }

/-! ## The queue -/

/-- The flag of a session. -/
def isInQueue : Bool := (w.live.find? sess).any (·.m_inQueue)

/-- **The sessions that do not wait and stay** when `sess` goes. -/
def staying : ℕ :=
  w.m_sessions.values.countP fun p => p ≠ sess ∧ w.isInQueue p = false

def AddQueuedPlayer : World :=
  let w := w.modify sess (.setInQueue true)
  let w := { w with
    m_QueuedPlayer := w.m_QueuedPlayer ++ [sess]
    history := w.history ++ [QueueEvent.joined sess] }
  -- `GetQueuePos`
  w.modify sess (.send [.authWaitQueue (w.m_QueuedPlayer.idxOf sess + 1)])

/-- The sessions from one in the queue on are told their positions. -/
def sendPositions (w : World) : List Address → ℕ → World
  | [], _ => w
  | sess :: rest, position =>
    sendPositions (w.modify sess (.send [.waitQue position])) rest (position + 1)

/-- The first part of `RemoveQueuedPlayer`: a session that waits is taken out of the queue. -/
def takeOut : World :=
  if sess ∈ w.m_QueuedPlayer then
    let w := w.modify sess (.setInQueue false)
    { w with
      m_QueuedPlayer := w.m_QueuedPlayer.erase sess
      history := w.history ++ [QueueEvent.left sess] }
  else w

/-- The first of the queue is admitted. -/
def acceptFirst (popSess : Address) (staying : ℕ) : World :=
  let w := w.modify popSess .accept
  { w with
    m_QueuedPlayer := w.m_QueuedPlayer.tail
    history := w.history ++ [QueueEvent.admitted popSess staying w.m_playerLimit] }

/-- **`RemoveQueuedPlayer`**, and whether the session was in the queue. -/
def RemoveQueuedPlayer : World × Bool :=
  let i := w.m_QueuedPlayer.idxOf sess
  let found := decide (sess ∈ w.m_QueuedPlayer)
  let sessions := w.GetActiveSessionCount
  -- a session that was not queued goes too; none is subtracted from none
  let sessions := if sess ∈ w.m_QueuedPlayer then sessions else sessions - 1
  let staying := w.staying sess
  let w := w.takeOut sess
  match w.m_QueuedPlayer with
  | [] => (w, found)
  | popSess :: rest =>
    if w.m_playerLimit = 0 ∨ sessions < w.m_playerLimit then
      ((w.acceptFirst popSess staying).sendPositions rest 1, found)
    else (w.sendPositions (w.m_QueuedPlayer.drop i) (i + 1), found)

/-! ## Sessions that come -/

/-- `SEC_PLAYER` -/
def IsPlayerAccount (security : ℕ) : Bool := security == 0

/-- How long a disconnected account may come back past the queue, and what time it is. -/
structure Clock where
  tolerance : ℕ
  now : ℕ

/-- The loop of `HasRecentlyDisconnected`: times that are over are forgotten on the way. -/
def findDisconnect (c : Clock) (account : AccountId) (m : OrderedMap AccountId ℕ) :
    List (AccountId × ℕ) → OrderedMap AccountId ℕ × Bool
  | [] => (m, false)
  | (id, time) :: rest =>
    if (time : ℤ) - c.now < c.tolerance then
      if id = account then (m, true) else findDisconnect c account m rest
    else findDisconnect c account (m.erase id) rest

def HasRecentlyDisconnected (c : Clock) (account : AccountId) : World × Bool :=
  if c.tolerance = 0 then (w, false)
  else
    let r := findDisconnect c account w.m_disconnects w.m_disconnects.entries
    ({ w with m_disconnects := r.1 }, r.2)

/-- A session that is to be added. -/
structure Arrival where
  /-- Where the session would be put in memory. -/
  place : Address
  accountId : AccountId
  security : ℕ
  /-- Whether the session that the account has is `PlayerLoading`. -/
  playerLoading : Bool
  clock : Clock

/-- **Where a new session is put**: anywhere but on one that is not deleted. -/
def newAddress (place : Address) : Address :=
  if w.live.contains place then w.live.keys.sum + 1 else place

/-- `RemoveSession`: the session of the account is kicked, unless its player is loading. -/
def RemoveSession (id : AccountId) (playerLoading : Bool) : World × Bool :=
  match w.m_sessions.find? id with
  | none => (w, true)
  | some sess => if playerLoading then (w, false) else (w.modify sess .kickPlayer, true)

/-- The account's old session is deleted; true when it was not in the queue, or there is none. -/
def removeOld (id : AccountId) : World × Bool :=
  match w.m_sessions.find? id with
  | none => (w, true)
  | some old =>
    let r := w.RemoveQueuedPlayer old
    (r.1.delete old, !r.2)

/-- What `AddSession_` does when the session is in `m_sessions`: it has to wait, or it has not. -/
def admitOrQueue (a : Arrival) (sess : Address) (decreaseSession : Bool) : World :=
  let Sessions := w.GetActiveAndQueuedSessionCount
  let Sessions := if decreaseSession then Sessions - 1 else Sessions
  if 0 < w.m_playerLimit ∧ w.m_playerLimit ≤ Sessions ∧ IsPlayerAccount a.security = true then
    let r := w.HasRecentlyDisconnected a.clock a.accountId
    if r.2 then
      (r.1.modify sess (.send [.authOk, .addonsInfo, .clientCacheVersion,
        .tutorialsData])).UpdateMaxSessionCounters
    else (r.1.AddQueuedPlayer sess).UpdateMaxSessionCounters
  else
    (w.modify sess (.send [.authOk, .addonsInfo, .clientCacheVersion,
      .tutorialsData])).UpdateMaxSessionCounters

/-- **`AddSession_`**, of a session that was made. -/
def AddSession_ (a : Arrival) : World :=
  let sess := w.newAddress a.place
  let w := { w with live := w.live.set sess (.new a.accountId a.security) }
  let r := w.RemoveSession a.accountId a.playerLoading
  if r.2 then
    let old := r.1.removeOld a.accountId
    let w := { old.1 with m_sessions := old.1.m_sessions.set a.accountId sess }
    w.admitOrQueue a sess old.2
  else (r.1.modify sess .kickPlayer).delete sess

/-! ## Sessions that end -/

/-- The time at which a session ended that was not queued is kept. -/
def noteDisconnect (c : Clock) (sess : Address) (queued : Bool) : World :=
  if queued = false ∧ c.tolerance ≠ 0 then
    match w.live.find? sess with
    | none => w
    | some s => { w with m_disconnects := w.m_disconnects.set s.accountId c.now }
  else w

/-- What `UpdateSessions` does when the `Update` of a session returned false. -/
def endSession (c : Clock) (id : AccountId) (sess : Address) : World :=
  let r := w.RemoveQueuedPlayer sess
  -- it is removed a second time, from a queue that it is not in
  let w := ((r.1.noteDisconnect c sess r.2).RemoveQueuedPlayer sess).1
  ({ w with m_sessions := w.m_sessions.erase id }).delete sess

/-- A turn of the loop over `m_sessions`, with what `Update` returns for the account's session. -/
def updateSession (c : Clock) (visit : AccountId × Bool) : World :=
  match w.m_sessions.find? visit.1 with
  | none => w
  | some sess => if visit.2 then w else w.endSession c visit.1 sess

/-- **`UpdateSessions`**.  The map has no order of its own: `visits` are its accounts in the order
in which they come. -/
def UpdateSessions (arrivals : List Arrival) (c : Clock) (visits : List (AccountId × Bool)) :
    World :=
  visits.foldl (fun w visit => w.updateSession c visit) (arrivals.foldl AddSession_ w)

/-! ## Steps -/

inductive Op where
  | addSession (a : Arrival)
  | updateSessions (arrivals : List Arrival) (c : Clock) (visits : List (AccountId × Bool))
  | setPlayerAmountLimit (limit : ℕ)

def step (w : World) : Op → World
  | .addSession a => w.AddSession_ a
  | .updateSessions arrivals c visits => w.UpdateSessions arrivals c visits
  | .setPlayerAmountLimit limit => { w with m_playerLimit := limit }

end World

end TeraCore.LoginQueue
