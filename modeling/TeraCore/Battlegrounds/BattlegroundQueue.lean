import TeraCore.Commons.OrderedMap
import TeraCore.Commons.OrderedSet
import TeraCore.Entities.ObjectGuid
import Mathlib.Data.BitVec

/-!
# Battlegrounds: the queue

Players queue for a battleground alone or as a group.  A queue has four lists of groups for every
bracket of levels, two for each team: the premade groups and rated arena teams, and the others.  It
also has the group of every player who is queued.

Groups move between the lists.  A premade group that nobody plays against becomes a normal one.  A
group changes its team when an arena match needs it on the other side.

A group is named by its address, and addresses are not used again.

## Main definitions

* `GroupQueueInfo`, `BattlegroundQueue`: a group, and the lists
* `BattlegroundQueue.addGroup`, `removePlayer`, `inviteGroupToBG`: the life of a group
* `BattlegroundQueue.checkPremadeMatch`, `checkSkirmishForSameFaction`: the selections that move
  groups
* `BattlegroundQueue.ratedMatch`: the pairing of rated arena teams
-/

namespace TeraCore

open Commons

/-- The two teams. -/
inductive Team
  | alliance
  | horde
  deriving DecidableEq

namespace Team

def other : Team → Team
  | alliance => horde
  | horde => alliance

/-- `TeamId`, the number of a team. -/
def index : Team → ℕ
  | alliance => 0
  | horde => 1

end Team

/-- A group in the queue, or a player who joined alone. -/
structure GroupQueueInfo where
  players : OrderedSet Guid
  team : Team
  bgTypeId : ℕ
  isRated : Bool
  arenaType : ℕ
  arenaTeamId : ℕ
  joinTime : BitVec 32
  removeInviteTime : BitVec 32
  /-- The battleground that the group is invited to, or 0. -/
  isInvitedToBGInstanceGUID : ℕ
  arenaTeamRating : BitVec 32
  arenaMatchmakerRating : BitVec 32
  opponentsTeamRating : BitVec 32
  opponentsMatchmakerRating : BitVec 32
  deriving DecidableEq

instance : Inhabited GroupQueueInfo :=
  ⟨OrderedSet.empty, .alliance, 0, false, 0, 0, 0, 0, 0, 0, 0, 0, 0⟩

/-- How long an invitation holds, in milliseconds. -/
def inviteAcceptWaitTime : BitVec 32 := 40000

def GroupQueueInfo.invite (info : GroupQueueInfo) (now : BitVec 32) (instanceId : ℕ)
    (side : Option Team) : GroupQueueInfo :=
  let info := { info with team := side.getD info.team }
  if info.isInvitedToBGInstanceGUID = 0 then
    { info with
      isInvitedToBGInstanceGUID := instanceId
      removeInviteTime := now + inviteAcceptWaitTime }
  else info

structure PlayerQueueInfo where
  lastOnlineTime : BitVec 32
  groupInfo : ℕ
  deriving DecidableEq

structure SelectionPool where
  selectedGroups : List ℕ
  playerCount : ℕ
  deriving DecidableEq

/-- What a leader asks for who joins the queue. -/
structure QueueJoin where
  leader : Guid
  /-- The team of the leader. -/
  team : Team
  /-- The members of the group, or none if the leader joins alone. -/
  grp : Option (List Guid)
  bgTypeId : ℕ
  bracketId : ℕ
  arenaType : ℕ
  isRated : Bool
  isPremade : Bool
  arenaRating : BitVec 32
  matchmakerRating : BitVec 32
  arenateamid : ℕ
  deriving DecidableEq

def QueueJoin.members (join : QueueJoin) : List Guid := join.grp.getD [join.leader]

structure BattlegroundQueue where
  queuedPlayers : OrderedMap Guid PlayerQueueInfo
  /-- The lists of groups, by bracket and index. -/
  queuedGroups : ℕ → ℕ → List ℕ
  selectionPools : Team → SelectionPool
  /-- The groups in memory, by their addresses. -/
  groups : OrderedMap ℕ GroupQueueInfo
  nextGroup : ℕ

/-! ## Indices -/

def maxBattlegroundBrackets : ℕ := 16

/-- `BG_QUEUE_PREMADE_ALLIANCE`, `BG_QUEUE_PREMADE_HORDE` -/
def bgQueuePremade (team : Team) : ℕ := team.index

/-- `BG_QUEUE_NORMAL_ALLIANCE`, `BG_QUEUE_NORMAL_HORDE` -/
def bgQueueNormal (team : Team) : ℕ := 2 + team.index

namespace SelectionPool

def init : SelectionPool := ⟨[], 0⟩

/-- Is there still room, or was the group added? -/
def addGroup (pool : SelectionPool) (group : ℕ) (ginfo : GroupQueueInfo) (desiredCount : ℕ) :
    Bool × SelectionPool :=
  if ginfo.isInvitedToBGInstanceGUID = 0 ∧
      pool.playerCount + ginfo.players.size ≤ desiredCount then
    (true, ⟨pool.selectedGroups ++ [group], pool.playerCount + ginfo.players.size⟩)
  else (decide (pool.playerCount < desiredCount), pool)

end SelectionPool

namespace BattlegroundQueue

/-- The queue of a server that starts. -/
def start : BattlegroundQueue :=
  ⟨OrderedMap.empty, fun _ _ => [], fun _ => .init, OrderedMap.empty, 0⟩

variable (q : BattlegroundQueue)

/-- A group in memory. -/
def ginfo (group : ℕ) : GroupQueueInfo := q.groups.get group

def setGroup (group : ℕ) (info : GroupQueueInfo) : BattlegroundQueue :=
  { q with groups := q.groups.set group info }

/-- One of the lists is changed. -/
def modifyList (bracketId index : ℕ) (f : List ℕ → List ℕ) : BattlegroundQueue :=
  { q with
    queuedGroups := fun bracketId' index' =>
      if bracketId' = bracketId ∧ index' = index then f (q.queuedGroups bracketId' index')
      else q.queuedGroups bracketId' index' }

def setPool (team : Team) (pool : SelectionPool) : BattlegroundQueue :=
  { q with
    selectionPools := fun team' => if team' = team then pool else q.selectionPools team' }

/-- The group was not invited yet. -/
def uninvited (group : ℕ) : Bool := (q.ginfo group).isInvitedToBGInstanceGUID == 0

/-! ## Joining and leaving -/

/-- The list that a group joins. -/
def joinIndex (join : QueueJoin) : ℕ :=
  if !join.isRated && !join.isPremade then bgQueueNormal join.team else bgQueuePremade join.team

/-- **`AddGroup`** -/
def addGroup (now : BitVec 32) (join : QueueJoin) : BattlegroundQueue :=
  let group := q.nextGroup
  { q.modifyList join.bracketId (joinIndex join) (· ++ [group]) with
    queuedPlayers := join.members.foldl (fun players guid => players.set guid ⟨now, group⟩)
      q.queuedPlayers
    groups := q.groups.set group
      { players := OrderedSet.ofList join.members
        team := join.team
        bgTypeId := join.bgTypeId
        isRated := join.isRated
        arenaType := join.arenaType
        arenaTeamId := join.arenateamid
        joinTime := now
        removeInviteTime := 0
        isInvitedToBGInstanceGUID := 0
        arenaTeamRating := join.arenaRating
        arenaMatchmakerRating := join.matchmakerRating
        opponentsTeamRating := 0
        opponentsMatchmakerRating := 0 }
    nextGroup := group + 1 }

/-- The bracket and the index of the list that has a group, looked for in the lists of the team of
the group, in those of the highest bracket first. -/
def findGroup (group : ℕ) : Option (ℕ × ℕ) :=
  (List.range maxBattlegroundBrackets).reverse.findSome? fun bracketId =>
    let team := (q.ginfo group).team
    -- The loop over the two lists goes on after it found the group, so the last list counts.
    if group ∈ q.queuedGroups bracketId (bgQueueNormal team) then
      some (bracketId, bgQueueNormal team)
    else if group ∈ q.queuedGroups bracketId (bgQueuePremade team) then
      some (bracketId, bgQueuePremade team)
    else none

/-- `RemovePlayer`, to a number of turns. -/
def removePlayerTurns : ℕ → BattlegroundQueue → Guid → BattlegroundQueue
  | 0, q, _ => q
  | turns + 1, q, guid =>
    match q.queuedPlayers.find? guid with
    | none => q
    | some info =>
      match q.findGroup info.groupInfo with
      | none => q
      | some (bracketId, index) =>
        let group := q.ginfo info.groupInfo
        let left := group.players.erase guid
        let q := { q.setGroup info.groupInfo { group with players := left } with
          queuedPlayers := q.queuedPlayers.erase guid }
        match left.elems with
        | [] =>
          { q.modifyList bracketId index (·.erase info.groupInfo) with
            groups := q.groups.erase info.groupInfo }
        | next :: _ =>
          -- Everyone leaves a rated group that is not invited.
          if group.isInvitedToBGInstanceGUID = 0 ∧ group.isRated = true then
            removePlayerTurns turns q next
          else q

/-- **`RemovePlayer`**.  Every turn takes a player off the queue. -/
def removePlayer (guid : Guid) : BattlegroundQueue :=
  removePlayerTurns q.queuedPlayers.size q guid

def inviteGroupToBG (now : BitVec 32) (group instanceId : ℕ) (side : Option Team) :
    BattlegroundQueue :=
  q.setGroup group ((q.ginfo group).invite now instanceId side)

/-! ## Selections -/

/-- The loop that adds the groups of a list to a pool while there is room. -/
def fillPool (desiredCount : ℕ) : List ℕ → SelectionPool → SelectionPool
  | [], pool => pool
  | group :: rest, pool =>
    if q.uninvited group then
      match pool.addGroup group (q.ginfo group) desiredCount with
      | (true, pool) => fillPool desiredCount rest pool
      | (false, pool) => pool
    else fillPool desiredCount rest pool

variable (bracketId : ℕ)

/-- The first group of a premade list goes to the front of the normal list, when it waited long
enough or is too small. -/
def movePremade (timeBefore : BitVec 32) (minPlayersPerTeam : ℕ) (team : Team) :
    BattlegroundQueue :=
  match q.queuedGroups bracketId (bgQueuePremade team) with
  | [] => q
  | group :: _ =>
    if q.uninvited group && (decide ((q.ginfo group).joinTime < timeBefore) ||
        decide ((q.ginfo group).players.size < minPlayersPerTeam)) then
      (q.modifyList bracketId (bgQueueNormal team) (group :: ·)).modifyList bracketId
        (bgQueuePremade team) List.tail
    else q

def checkPremadeMatch (now premadeWait : BitVec 32) (bracketId minPlayersPerTeam
    maxPlayersPerTeam : ℕ) : Bool × BattlegroundQueue :=
  let first team := (q.queuedGroups bracketId (bgQueuePremade team)).find? q.uninvited
  match first .alliance, first .horde with
  | some aliGroup, some hordeGroup =>
    let pool team group := ((q.selectionPools team).addGroup group (q.ginfo group)
      maxPlayersPerTeam).2
    let ali := pool .alliance aliGroup
    let horde := pool .horde hordeGroup
    let maxPlayers := min ali.playerCount horde.playerCount
    let fill team := q.fillPool maxPlayers (q.queuedGroups bracketId (bgQueueNormal team))
    (true, (q.setPool .alliance (fill .alliance ali)).setPool .horde (fill .horde horde))
  | _, _ =>
    let timeBefore := now - premadeWait
    (false, (q.movePremade bracketId timeBefore minPlayersPerTeam .alliance).movePremade bracketId
      timeBefore minPlayersPerTeam .horde)

/-- What a selection reads of the server and of the template. -/
structure SelectionEnv where
  /-- The configured invitation type is not 0. -/
  balanced : Bool
  isTesting : Bool
  isBattleground : Bool
  deriving DecidableEq

/-- The loop that selects the groups of a team until there are enough players.  The iterator stays
at the last group that was selected. -/
def fillNormal (minPlayers maxPlayers : ℕ) :
    List ℕ → SelectionPool → SelectionPool × List ℕ
  | [], pool => (pool, [])
  | group :: rest, pool =>
    if q.uninvited group then
      let pool := (pool.addGroup group (q.ginfo group) maxPlayers).2
      if minPlayers ≤ pool.playerCount then (pool, group :: rest)
      else fillNormal minPlayers maxPlayers rest pool
    else fillNormal minPlayers maxPlayers rest pool

def checkNormalMatch (env : SelectionEnv) (bracketId minPlayers maxPlayers : ℕ) :
    Bool × BattlegroundQueue :=
  let fill team := q.fillNormal minPlayers maxPlayers
    (q.queuedGroups bracketId (bgQueueNormal team)) (q.selectionPools team)
  let filled := (q.setPool .alliance (fill .alliance).1).setPool .horde (fill .horde).1
  let count team := (fill team).1.playerCount
  let enough := decide (minPlayers ≤ count .alliance) && decide (minPlayers ≤ count .horde)
  if env.balanced && enough then
    -- More groups of the team with fewer players are invited.
    let team := if count .horde < count .alliance then Team.horde else .alliance
    let pool := q.fillPool (count team.other) (fill team).2.tail (fill team).1
    let filled := filled.setPool team pool
    let diff := (pool.playerCount : ℤ) - count team.other
    if 2 < diff.natAbs then (false, filled)
    else (true, filled)
  else
    (env.isTesting && env.isBattleground && (decide (count .alliance ≠ 0) ||
      decide (count .horde ≠ 0)) || enough, filled)

/-- A selected group goes to the other team.  It is looked for in its old list behind the place of
an iterator. -/
def moveToOther (team : Team) (anchor group : ℕ) : BattlegroundQueue :=
  ((q.setGroup group { q.ginfo group with team := team.other }).modifyList bracketId
    (bgQueueNormal team.other) (group :: ·)).modifyList bracketId (bgQueueNormal team)
      fun groups => groups.take (anchor + 1) ++ (groups.drop (anchor + 1)).erase group

/-- The loop over the selected groups.  To erase from the list invalidates the iterator, and
`stale` is the place that it then has for each later group. -/
def moveSelected (bracketId : ℕ) (team : Team) :
    List ℕ → (anchor : ℕ) → (stale : ℕ → ℕ) → BattlegroundQueue → BattlegroundQueue
  | [], _, _, q => q
  | group :: rest, anchor, stale, q =>
    moveSelected bracketId team rest (stale 0) (fun n => stale (n + 1))
      (q.moveToOther bracketId team anchor group)

/-- The team whose players play against each other. -/
def skirmishTeam (minPlayersPerTeam : ℕ) : Team :=
  if (q.selectionPools .horde).playerCount = minPlayersPerTeam then .horde else .alliance

def checkSkirmishForSameFaction (bracketId minPlayersPerTeam : ℕ) (stale : ℕ → ℕ) :
    Bool × BattlegroundQueue :=
  if (q.selectionPools .alliance).playerCount < minPlayersPerTeam ∧
      (q.selectionPools .horde).playerCount < minPlayersPerTeam then (false, q)
  else
    let team := q.skirmishTeam minPlayersPerTeam
    let q := q.setPool team.other .init
    match (q.selectionPools team).selectedGroups.getLast? with
    | none => (false, q)
    | some ginfo =>
      let groups := q.queuedGroups bracketId (bgQueueNormal team)
      let anchor := groups.idxOf ginfo
      if anchor = groups.length then (false, q)
      else
        let pool := q.fillPool minPlayersPerTeam (groups.drop (anchor + 1)) .init
        let q := q.setPool team.other pool
        if pool.playerCount ≠ minPlayersPerTeam then (false, q)
        else (true, q.moveSelected bracketId team pool.selectedGroups anchor stale)

/-! ## Rated arenas -/

/-- What the pairing reads of the server. -/
structure RatedEnv where
  now : BitVec 32
  /-- The configured difference. -/
  configMaxRatingDifference : BitVec 32
  ratingDiscardTimer : BitVec 32
  /-- The instance id of the arena that is created, if one is. -/
  newArena : Option ℕ

variable (env : RatedEnv)

/-- `GetMaxRatingDifference` -/
def RatedEnv.maxRatingDifference : BitVec 32 :=
  if env.configMaxRatingDifference = 0 then 5000 else env.configMaxRatingDifference

variable (arenaRating : BitVec 32)

/-- The rating to look for: that of the latest team, or else of a front team. -/
def soughtRating : Option (BitVec 32) :=
  if arenaRating ≠ 0 then some arenaRating
  else
    match (q.queuedGroups bracketId (bgQueuePremade .alliance)).head?,
      (q.queuedGroups bracketId (bgQueuePremade .horde)).head? with
    | none, none => none
    | some front1, none => some (q.ginfo front1).arenaMatchmakerRating
    | none, some front2 => some (q.ginfo front2).arenaMatchmakerRating
    | some front1, some front2 =>
      if (q.ginfo front1).joinTime < (q.ginfo front2).joinTime then
        some (q.ginfo front1).arenaMatchmakerRating
      else some (q.ginfo front2).arenaMatchmakerRating

/-- Does a group match the rating, or did it wait so long that its rating does not count? -/
def matchesRating (group : ℕ) : Bool :=
  let arenaMinRating :=
    if arenaRating ≤ env.maxRatingDifference then 0 else arenaRating - env.maxRatingDifference
  let arenaMaxRating := arenaRating + env.maxRatingDifference
  let discardTime := env.now - env.ratingDiscardTimer
  let info := q.ginfo group
  q.uninvited group &&
    (decide (arenaMinRating ≤ info.arenaMatchmakerRating ∧
        info.arenaMatchmakerRating ≤ arenaMaxRating) ||
      decide (info.joinTime < discardTime))

def sameFactionOpponent (groups : List ℕ) (found : ℕ) : Option ℕ :=
  (groups.drop (groups.idxOf found)).find? fun group =>
    q.matchesRating env arenaRating group &&
      decide ((q.ginfo found).arenaTeamId ≠ (q.ginfo group).arenaTeamId)

/-- The two teams that play, for either side. -/
def ratedPair (bracketId : ℕ) (arenaRating : BitVec 32) : Option (ℕ × ℕ) :=
  let groups team := q.queuedGroups bracketId (bgQueuePremade team)
  let found team := (groups team).find? (q.matchesRating env arenaRating)
  match found .alliance, found .horde with
  | some aTeam, some hTeam => some (aTeam, hTeam)
  | some aTeam, none =>
    (q.sameFactionOpponent env arenaRating (groups .alliance) aTeam).map fun hTeam => (aTeam, hTeam)
  | none, some aTeam =>
    (q.sameFactionOpponent env arenaRating (groups .horde) aTeam).map fun hTeam => (aTeam, hTeam)
  | none, none => none

/-- Both teams record the ratings of the other. -/
def recordOpponents (aTeam hTeam : ℕ) : BattlegroundQueue :=
  let a := q.ginfo aTeam
  let h := q.ginfo hTeam
  (q.setGroup aTeam { a with
    opponentsTeamRating := h.arenaTeamRating
    opponentsMatchmakerRating := h.arenaMatchmakerRating }).setGroup hTeam { h with
      opponentsTeamRating := a.arenaTeamRating
      opponentsMatchmakerRating := a.arenaMatchmakerRating }

/-- A group that plays for the other team goes to the list of that team. -/
def moveToSide (side : Team) (group : ℕ) : BattlegroundQueue :=
  if (q.ginfo group).team ≠ side then
    (q.modifyList bracketId (bgQueuePremade side) (group :: ·)).modifyList bracketId
      (bgQueuePremade side.other) (·.erase group)
  else q

/-- The match that is started: the team for either side, and the arena. -/
def ratedStart (bracketId : ℕ) (arenaRating : BitVec 32) : Option (ℕ × ℕ × ℕ) :=
  (q.soughtRating bracketId arenaRating).bind fun rating =>
    (q.ratedPair env bracketId rating).bind fun pair =>
      env.newArena.map fun arena => (pair.1, pair.2, arena)

/-- **The rated part of `BattlegroundQueueUpdate`**. -/
def ratedMatch (bracketId : ℕ) (arenaRating : BitVec 32) : BattlegroundQueue :=
  match q.ratedStart env bracketId arenaRating with
  | none => q
  | some (aTeam, hTeam, arena) =>
    ((((q.recordOpponents aTeam hTeam).moveToSide bracketId .alliance aTeam).moveToSide bracketId
      .horde hTeam).inviteGroupToBG env.now aTeam arena (some .alliance)).inviteGroupToBG env.now
        hTeam arena (some .horde)

/-! ## Runs -/

inductive Op
  | addGroup (now : BitVec 32) (join : QueueJoin)
  | removePlayer (guid : Guid)
  | inviteGroupToBG (now : BitVec 32) (group instanceId : ℕ) (side : Option Team)
  | initPools
  | checkPremadeMatch (now premadeWait : BitVec 32) (bracketId minPlayers maxPlayers : ℕ)
  | checkNormalMatch (env : SelectionEnv) (bracketId minPlayers maxPlayers : ℕ)
  | checkSkirmish (bracketId minPlayers : ℕ)
  | ratedMatch (env : RatedEnv) (bracketId : ℕ) (arenaRating : BitVec 32)

/-- The groups that a skirmish moves. -/
def movedBySkirmish (bracketId minPlayersPerTeam : ℕ) : List ℕ :=
  let (starts, q') := q.checkSkirmishForSameFaction bracketId minPlayersPerTeam fun _ => 0
  if starts then (q'.selectionPools (q.skirmishTeam minPlayersPerTeam).other).selectedGroups else []

/-- A skirmish.  The iterator that the erasure of a group has invalidated is used for the next one,
and then there is no result. -/
def skirmish (bracketId minPlayersPerTeam : ℕ) : Option BattlegroundQueue :=
  if (q.movedBySkirmish bracketId minPlayersPerTeam).length ≤ 1 then
    some (q.checkSkirmishForSameFaction bracketId minPlayersPerTeam fun _ => 0).2
  else none

/-- **A step**, which may have no result. -/
def step : Op → Option BattlegroundQueue
  | .addGroup now join => some (q.addGroup now join)
  | .removePlayer guid => some (q.removePlayer guid)
  | .inviteGroupToBG now group instanceId side => some (q.inviteGroupToBG now group instanceId side)
  | .initPools => some ((q.setPool .alliance .init).setPool .horde .init)
  | .checkPremadeMatch now premadeWait bracketId minPlayers maxPlayers =>
    some (q.checkPremadeMatch now premadeWait bracketId minPlayers maxPlayers).2
  | .checkNormalMatch env bracketId minPlayers maxPlayers =>
    some (q.checkNormalMatch env bracketId minPlayers maxPlayers).2
  | .checkSkirmish bracketId minPlayers => q.skirmish bracketId minPlayers
  | .ratedMatch env bracketId arenaRating => some (q.ratedMatch env bracketId arenaRating)

/-- What the callers see to: who joins is not in the queue yet, a group joins with its leader, and a
group is invited for its own team. -/
def Allowed : Op → Prop
  | .addGroup _ join =>
    join.bracketId < maxBattlegroundBrackets ∧ (∀ members ∈ join.grp, join.leader ∈ members) ∧
      ∀ guid ∈ join.members, q.queuedPlayers.contains guid = false
  | .inviteGroupToBG _ group _ side =>
    q.groups.contains group = true ∧ ∀ team ∈ side, team = (q.ginfo group).team
  | _ => True

instance : ∀ op, Decidable (q.Allowed op) := by
  intro op
  cases op <;> dsimp only [Allowed] <;> infer_instance

/-- The groups behind the last one of the own side that fit the other side. -/
def skirmishPool (bracketId minPlayersPerTeam : ℕ) : SelectionPool :=
  let team := q.skirmishTeam minPlayersPerTeam
  let groups := q.queuedGroups bracketId (bgQueueNormal team)
  match (q.selectionPools team).selectedGroups.getLast? with
  | none => .init
  | some ginfo => q.fillPool minPlayersPerTeam (groups.drop (groups.idxOf ginfo + 1)) .init

/-- A skirmish that has enough players for either side needs one group at most for the other. -/
def MovesOne : Op → Prop
  | .checkSkirmish bracketId minPlayers =>
    (minPlayers ≤ (q.selectionPools .alliance).playerCount ∨
        minPlayers ≤ (q.selectionPools .horde).playerCount) →
      (q.skirmishPool bracketId minPlayers).playerCount = minPlayers →
        (q.skirmishPool bracketId minPlayers).selectedGroups.length ≤ 1
  | _ => True

instance : ∀ op, Decidable (q.MovesOne op) := by
  intro op
  cases op <;> dsimp only [MovesOne] <;> infer_instance

end BattlegroundQueue

end TeraCore
