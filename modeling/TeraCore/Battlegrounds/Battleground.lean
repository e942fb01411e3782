import TeraCore.Battlegrounds.BattlegroundQueue

/-!
# Battlegrounds: who is in one

A battleground counts the players of either team who are in it, and those who are invited, which
includes the ones who are in it.  The players are in a map, with the team that each plays for.

A player who answers an invitation is taken off the queue.  One who accepts enters the battleground,
and one who declines, or does not answer in time, is not counted as invited any more.

## Main definitions

* `Battleground`: the players and the counters
* `Battleground.addPlayer`, `removePlayerAtLeave`, `eventPlayerLoggedIn`, `eventPlayerLoggedOut`
* `Battleground.getFreeSlotsForTeam`: how many players may be invited
* `BgWorld`: a battleground and its queue
-/

namespace TeraCore

open Commons

structure BattlegroundPlayer where
  offlineRemoveTime : ℕ
  /-- The team of the player, which is none for an entry that nobody filled in. -/
  team : Option Team
  deriving DecidableEq

inductive BattlegroundStatus
  | none
  | waitQueue
  | waitJoin
  | inProgress
  | waitLeave
  deriving DecidableEq

/-- `GetTeamIndexByTeamId`: everything but the alliance is the horde. -/
def getTeamIndexByTeamId : Option Team → Team
  | some .alliance => .alliance
  | _ => .horde

structure Battleground where
  instanceId : ℕ
  status : BattlegroundStatus
  maxPlayersPerTeam : ℕ
  minPlayersPerTeam : ℕ
  /-- `m_Players` -/
  players : OrderedMap Guid BattlegroundPlayer
  /-- `m_PlayersCount` -/
  playersCount : Team → ℕ
  /-- `m_InvitedAlliance`, `m_InvitedHorde` -/
  invitedCount : Team → ℕ

/-- A word is decreased, and wraps below zero. -/
def decrease : ℕ → ℕ
  | 0 => 2 ^ 32 - 1
  | n + 1 => n

/-- How long a player may stay offline, in seconds. -/
def maxOfflineTime : ℕ := 300

namespace Battleground

variable (bg : Battleground)

/-- `CreateNewBattleground` -/
def create (instanceId maxPlayersPerTeam minPlayersPerTeam : ℕ) : Battleground :=
  ⟨instanceId, .waitJoin, maxPlayersPerTeam, minPlayersPerTeam, OrderedMap.empty, fun _ => 0,
    fun _ => 0⟩

def updatePlayersCountByTeam (team : Option Team) (remove : Bool) : Battleground :=
  { bg with
    playersCount := fun team' =>
      if team' = getTeamIndexByTeamId team then
        if remove then decrease (bg.playersCount team') else bg.playersCount team' + 1
      else bg.playersCount team' }

def increaseInvitedCount (team : Option Team) : Battleground :=
  { bg with
    invitedCount := fun team' =>
      if team' = getTeamIndexByTeamId team then bg.invitedCount team' + 1
      else bg.invitedCount team' }

def decreaseInvitedCount (team : Option Team) : Battleground :=
  { bg with
    invitedCount := fun team' =>
      if team' = getTeamIndexByTeamId team then decrease (bg.invitedCount team')
      else bg.invitedCount team' }

variable (guid : Guid)

def getPlayerTeam : Option Team :=
  (bg.players.find? guid).bind BattlegroundPlayer.team

/-- **`AddPlayer`**, with the battleground team of the player. -/
def addPlayer (bgTeam : Team) : Battleground :=
  { bg with players := bg.players.set guid ⟨0, some bgTeam⟩ }.updatePlayersCountByTeam
    (some bgTeam) false

/-- `m_Players[guid].OfflineRemoveTime`, which makes an entry if there is none. -/
def setOfflineRemoveTime (time : ℕ) : Battleground :=
  { bg with
    players := bg.players.set guid
      { (bg.players.find? guid).getD ⟨0, none⟩ with offlineRemoveTime := time } }

def eventPlayerLoggedIn : Battleground := bg.setOfflineRemoveTime guid 0

def eventPlayerLoggedOut (gameTime : ℕ) : Battleground :=
  bg.setOfflineRemoveTime guid (gameTime + maxOfflineTime)

/-- **`RemovePlayerAtLeave`**, of a player whose faction is `faction` if the player is online. -/
def removePlayerAtLeave (faction : Option Team) : Battleground :=
  match bg.players.find? guid with
  | none => bg
  | some _ =>
    let team := bg.getPlayerTeam guid
    ({ bg.updatePlayersCountByTeam team true with
      players := bg.players.erase guid }).decreaseInvitedCount (team.or faction)

end Battleground

/-! ## With the queue -/

structure BgWorld where
  queue : BattlegroundQueue
  bg : Battleground

namespace BgWorld

variable (w : BgWorld)

variable (now : BitVec 32) (bracketId : ℕ) (side : Team) (inWorld : Guid → Bool)

/-- A group that is selected for a side is invited, in the list of the side.  Those of its players
who are in the world are counted. -/
def inviteGroup (group : ℕ) : BgWorld :=
  { queue := (w.queue.moveToSide bracketId side group).inviteGroupToBG now group w.bg.instanceId
      (some side)
    bg :=
      if w.queue.uninvited group then
        ((w.queue.ginfo group).players.elems.filter inWorld).foldl
          (fun bg _ => bg.increaseInvitedCount (some side)) w.bg
      else w.bg }

def inviteSelected (groups : List ℕ) : BgWorld :=
  groups.foldl (fun w group => w.inviteGroup now bracketId side inWorld group) w

/-- The team of the group of a player, if the player is invited to this battleground. -/
def invitedTeam (guid : Guid) : Option Team :=
  (w.queue.queuedPlayers.find? guid).bind fun player =>
    let info := w.queue.ginfo player.groupInfo
    if info.isInvitedToBGInstanceGUID = w.bg.instanceId then some info.team else none

/-- A player accepts: the queue forgets the player, who leaves this battleground if it is the
current one, and then enters it. -/
def accept (guid : Guid) (faction : Option Team) : BgWorld :=
  match w.invitedTeam guid with
  | none => w
  | some team =>
    { queue := w.queue.removePlayer guid
      bg := (w.bg.removePlayerAtLeave guid faction).addPlayer guid team }

/-- A player declines, or did not answer in time: `RemovePlayer` of the queue, which decreases the
invited count. -/
def decline (guid : Guid) : BgWorld :=
  { queue := w.queue.removePlayer guid
    bg := match w.invitedTeam guid with
      | none => w.bg
      | some team => w.bg.decreaseInvitedCount (some team) }

inductive Op
  | addGroup (now : BitVec 32) (join : QueueJoin)
  | invite (now : BitVec 32) (bracketId : ℕ) (side : Team) (inWorld : Guid → Bool)
    (groups : List ℕ)
  | accept (guid : Guid) (faction : Option Team)
  | decline (guid : Guid)
  | loggedOut (guid : Guid) (gameTime : ℕ)
  | loggedIn (guid : Guid)
  | leave (guid : Guid) (faction : Option Team)
  | setStatus (status : BattlegroundStatus)

def step : Op → BgWorld
  | .addGroup now join => { w with queue := w.queue.addGroup now join }
  | .invite now bracketId side inWorld groups =>
    w.inviteSelected now bracketId side inWorld groups
  | .accept guid faction => w.accept guid faction
  | .decline guid => w.decline guid
  | .loggedOut guid gameTime => { w with bg := w.bg.eventPlayerLoggedOut guid gameTime }
  | .loggedIn guid => { w with bg := w.bg.eventPlayerLoggedIn guid }
  | .leave guid faction => { w with bg := w.bg.removePlayerAtLeave guid faction }
  | .setStatus status => { w with bg := { w.bg with status } }

end BgWorld

end TeraCore
