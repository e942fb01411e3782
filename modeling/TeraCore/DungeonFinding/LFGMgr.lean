import TeraCore.Commons.Run
import TeraCore.DungeonFinding.LFGData

/-!
# The dungeon finder

Players join, alone or with their group after a role check, and leave.  An update searches the
queues for full groups and announces what it found; the players answer, and a proposal ends in a
new group or with its players back in the queue, without those who did not accept.

## Main definitions

* `MgrEnv`: what the dungeon finder asks of the rest of the server during a call
* `LFGMgr.joinLfg`, `LFGMgr.leaveLfg`, `LFGMgr.updateRoleCheck`, `LFGMgr.updateProposal`,
  `LFGMgr.update`: the operations
* `LFGMgr.removeProposal`, `LFGMgr.makeNewGroup`: how a proposal ends
* `LfgOp`, `LFGMgr.step`: the operations as the steps of a machine
-/

namespace TeraCore

open Commons

/-! ## The rest of the server -/

inductive LfgType where
  | none
  | dungeon
  | raid
  | heroic
  | random
  deriving DecidableEq

/-- A dungeon that can be asked for. -/
structure LFGDungeonData where
  id : ℕ
  type : ℕ
  group : ℕ

/-- The dungeon with its type in the top byte. -/
def LFGDungeonData.entry (dungeon : LFGDungeonData) : ℕ := dungeon.id + dungeon.type * 2 ^ 24

/-- The type a number stands for.  Numbers without a type are refused as `none` is. -/
def LfgType.ofByte : ℕ → LfgType
  | 1 => dungeon
  | 2 => raid
  | 5 => heroic
  | 6 => random
  | _ => none

/-- **What the dungeon finder asks of the rest of the server** during a call. -/
structure MgrEnv where
  now : ℕ
  /-- Is the player in the world? -/
  findPlayer : Guid → Bool
  /-- Does the player's ignore list have the player with this number? -/
  ignores : Guid → ℕ → Bool
  /-- Is the player in a battleground or an arena, or in the queue for one? -/
  usesBgSystem : Guid → Bool
  hasDeserter : Guid → Bool
  hasCooldown : Guid → Bool
  getLFGDungeon : ℕ → Option LFGDungeonData
  /-- The dungeons a random dungeon can stand for, by the group of dungeons. -/
  cachedDungeonMapStore : ℕ → LfgDungeonSet
  /-- Who leads a group when its leader leaves: the first of the others who is in the world. -/
  nextLeader : Guid → Guid → Option Guid
  /-- Is the last member of a dungeon group outside its dungeon? -/
  leftDungeon : Guid → Bool
  random : RandomSource

namespace MgrEnv

variable (env : MgrEnv)

def getDungeonType (dungeonId : ℕ) : LfgType :=
  match env.getLFGDungeon dungeonId with
  | none => .none
  | some dungeon => LfgType.ofByte dungeon.type

def getDungeonsByRandom (randomdungeon : ℕ) : LfgDungeonSet :=
  env.cachedDungeonMapStore ((env.getLFGDungeon randomdungeon).elim 0 LFGDungeonData.group)

end MgrEnv

/-! ## The restrictions on joining -/

inductive LfgJoinResult where
  | ok
  | failed
  | groupFull
  | internalError
  | notMeetReqs
  | partyNotMeetReqs
  | mixedRaidDungeon
  | multiRealm
  | disconnected
  | partyInfoFailed
  | dungeonInvalid
  | deserter
  | partyDeserter
  | randomCooldown
  | partyRandomCooldown
  | tooMuchMembers
  | usingBgSystem
  deriving DecidableEq

/-- What a player who tried to join is told. -/
structure LfgJoinResultData where
  result : LfgJoinResult := .ok
  state : LfgRoleCheckState := .default
  lockmap : OrderedMap Guid LfgLockMap := OrderedMap.empty

/-- A player who wants to join, or has the group join. -/
structure JoinRequest where
  player : Guid
  isPlayer : isGroup player = false
  roles : LfgRoles
  dungeons : LfgDungeonSet

/-- What the restrictions on joining leave of a request. -/
structure JoinCheck where
  result : LfgJoinResult := .ok
  dungeons : LfgDungeonSet
  /-- The random dungeon asked for, 0 if none was. -/
  rDungeonId : ℕ := 0
  isRaid : Bool := false
  isDungeon : Bool := false
  lockmap : OrderedMap Guid LfgLockMap := OrderedMap.empty

namespace JoinCheck

/-- A dungeon for five players: there may be no raid in the request. -/
def addDungeon (check : JoinCheck) : JoinCheck :=
  { check with
    result := if check.isRaid then .mixedRaidDungeon else check.result, isDungeon := true }

/-- One dungeon of the request. -/
def addType (check : JoinCheck) (dungeons : LfgDungeonSet) : LfgType → JoinCheck
  | .random =>
    if 1 < dungeons.size then { check with result := .dungeonInvalid }.addDungeon
    else { check with rDungeonId := dungeons.elems.headD 0 }.addDungeon
  | .heroic | .dungeon => check.addDungeon
  | .raid =>
    { check with
      result := if check.isDungeon then .mixedRaidDungeon else check.result, isRaid := true }
  | .none => { check with result := .dungeonInvalid }

end JoinCheck

namespace LFGMgr

variable (env : MgrEnv)

/-- The result for a member of a group. -/
def checkMember (plrg : Guid) : LfgJoinResult :=
  if env.hasDeserter plrg then .partyDeserter
  else if env.hasCooldown plrg then .partyRandomCooldown
  else if env.usesBgSystem plrg then .usingBgSystem
  else .ok

/-- The result for a group: all members have to be in the world, and free to join. -/
def checkMembers (players : LfgGuidSet) : LfgJoinResult :=
  if maxGroupSize < players.size then .tooMuchMembers
  else
    let members := players.elems.filter env.findPlayer
    match (members.map (checkMember env)).find? (· ≠ .ok) with
    | some result => result
    | none => if members.length ≠ players.size then .disconnected else .ok

def checkJoiner (player : Guid) (dungeons : LfgDungeonSet) (grp : Option LfgGroupData) :
    LfgJoinResult :=
  if env.usesBgSystem player then .usingBgSystem
  else if env.hasDeserter player then .deserter
  else if env.hasCooldown player then .randomCooldown
  else if dungeons.elems = [] then .notMeetReqs
  else grp.elim .ok fun data => checkMembers env data.players

variable (s : LFGMgr)

/-- Without the dungeons that are locked for one of the players, and the locks met.  There are
no locks to report if a dungeon is left. -/
def getCompatibleDungeons (dungeons : LfgDungeonSet) (players : List Guid) :
    LfgDungeonSet × OrderedMap Guid LfgLockMap :=
  let result := players.foldl (fun result guid =>
    (s.players guid).lockedDungeons.entries.foldl (fun (dungeons, lockMap) lock =>
      let dungeonId := lock.1 % 2 ^ 24
      if dungeonId ∈ dungeons then
        (dungeons.erase dungeonId, lockMap.set guid
          (((lockMap.find? guid).getD OrderedMap.empty).set dungeonId lock.2))
      else (dungeons, lockMap)) result) (dungeons, OrderedMap.empty)
  if result.1.elems ≠ [] then (result.1, OrderedMap.empty) else result

/-- **The restrictions on joining.** -/
def checkJoin (player : Guid) (dungeons : LfgDungeonSet) (grp : Option LfgGroupData) : JoinCheck :=
  let check := dungeons.elems.foldl (fun (check : JoinCheck) dungeonId =>
      if check.result = .ok then check.addType dungeons (env.getDungeonType dungeonId) else check)
    { result := checkJoiner env player dungeons grp, dungeons := dungeons }
  if check.result = .ok then
    let dungeons :=
      if check.rDungeonId ≠ 0 then env.getDungeonsByRandom check.rDungeonId else dungeons
    let players := grp.elim [player] fun data => data.players.elems.filter env.findPlayer
    let (dungeons, lockmap) := s.getCompatibleDungeons dungeons players
    if dungeons.elems = [] then
      { check with
        result := if grp.isSome then .partyNotMeetReqs else .notMeetReqs
        dungeons := dungeons, lockmap := lockmap }
    else { check with dungeons := dungeons, lockmap := lockmap }
  else check

/-! ## Role checks -/

/-- The role check after a player's answer; none given is a player who left. -/
def answerRoleCheck (roleCheck : LfgRoleCheck) (guid : Guid) (roles : LfgRoles) : LfgRoleCheck :=
  if guid = 0 then { roleCheck with state := .aborted }
  else if roles < playerRoleTank then { roleCheck with state := .noRole }
  else
    let selected := roleCheck.roles.set guid roles
    if selected.values.all (· ≠ playerRoleNone) then
      -- the check works on a copy of the roles
      let state := if (checkGroupRoles selected).1 then .finished else .wrongRoles
      { roleCheck with roles := selected, state := state }
    else { roleCheck with roles := selected }

/-- **A player selects roles** for the group.  A group whose role check is finished joins. -/
def updateRoleCheck (gguid guid : Guid) (roles : LfgRoles) (s : LFGMgr) : LFGMgr :=
  if gguid = 0 then s
  else
    match s.roleChecks.find? gguid with
    | none => s
    | some roleCheck =>
      let roleCheck := answerRoleCheck roleCheck guid roles
      match roleCheck.state with
      | .initialiting => { s with roleChecks := s.roleChecks.set gguid roleCheck }
      | .finished =>
        let s := roleCheck.roles.entries.foldl
          (fun s e => (s.setState e.1 .queued).setRoles e.1 e.2) s
        let s := s.setState gguid .queued
        let s := s.updateQueue (s.queueId gguid)
          (·.addQueueData gguid env.now roleCheck.dungeons roleCheck.roles)
        { s with roleChecks := s.roleChecks.erase gguid }
      | _ =>
        let s := roleCheck.roles.keys.foldl clearState s
        let s := s.restoreState gguid
        { s with roleChecks := s.roleChecks.erase gguid }

/-- A group begins a role check, or begins it anew. -/
def beginRoleCheck (gguid : Guid) (req : JoinRequest) (check : JoinCheck) (isContinue : Bool)
    (s : LFGMgr) : LFGMgr :=
  let members := (s.getPlayers gguid).elems.filter env.findPlayer
  let roleCheck := s.roleChecks.get gguid
  let roleCheck : LfgRoleCheck :=
    { cancelTime := env.now + 40 * 1000
      roles := members.foldl (fun roles pguid => roles.set pguid playerRoleNone) roleCheck.roles
      state := .initialiting
      dungeons := check.dungeons
      rDungeonId := check.rDungeonId
      leader := req.player }
  let dungeons :=
    if check.rDungeonId ≠ 0 then OrderedSet.ofList [check.rDungeonId] else check.dungeons
  let s := { s with roleChecks := s.roleChecks.set gguid roleCheck }
  let s := s.setState gguid .rolecheck
  let s := members.foldl (fun s pguid =>
    let s := s.setState pguid .rolecheck
    if isContinue then s else s.setSelectedDungeons pguid dungeons) s
  s.updateRoleCheck env gguid req.player req.roles

/-! ## Joining -/

variable (req : JoinRequest)

/-- The player joins alone. -/
def joinQueue (check : JoinCheck) (s : LFGMgr) : LFGMgr :=
  let s := s.updateQueue (s.queueId req.player)
    (·.addQueueData req.player env.now check.dungeons (OrderedMap.empty.set req.player req.roles))
  let dungeons :=
    if check.rDungeonId ≠ 0 then OrderedSet.ofList [check.rDungeonId] else check.dungeons
  let s := s.setSelectedDungeons req.player dungeons
  (s.setState req.player .queued).setRoles req.player req.roles

def playerGroup (player : Guid) : Option LfgGroupData :=
  if s.getGroup player = 0 then none else some (s.groups (s.getGroup player))

/-- The guid that joins: the group's, or the player's own. -/
def joinGuid (player : Guid) : Guid :=
  if s.getGroup player = 0 then player else s.getGroup player

/-- Does the player's group look for more players for a dungeon it is in? -/
def isContinue (player : Guid) : Bool :=
  (s.playerGroup player).any fun data =>
    data.isLFGGroup && s.getState (s.joinGuid player) ≠ .finishedDungeon

/-- The dungeons asked for.  A group in a dungeon asks for that one. -/
def joinDungeons : LfgDungeonSet :=
  if s.isContinue req.player then
    OrderedSet.ofList [(s.groups (s.joinGuid req.player)).getDungeon]
  else req.dungeons

/-- Has the player joined for the same dungeons already? -/
def joinedAlready : Bool :=
  s.getState (s.joinGuid req.player) = .queued &&
    (s.players req.player).selectedDungeons = s.joinDungeons req

/-- The restrictions on a request. -/
def joinCheck (s : LFGMgr) : JoinCheck :=
  checkJoin env s req.player (s.joinDungeons req) (s.playerGroup req.player)

/-- **A player joins**, alone or with the group; and what the player is told.  One who is queued
for other dungeons leaves the queue before the restrictions are looked at. -/
def joinLfg (s : LFGMgr) : Option LfgJoinResultData × LFGMgr :=
  if req.dungeons.elems = [] then (none, s)
  else
    let gguid := s.joinGuid req.player
    let isContinue := s.isContinue req.player
    if s.joinedAlready req then (some {}, s)
    else
      let check := s.joinCheck env req
      let s :=
        if s.getState gguid = .queued then s.updateQueue (s.queueId gguid) (·.removeFromQueue gguid)
        else s
      if check.result ≠ .ok then
        let lockmap := if check.dungeons.elems = [] then check.lockmap else OrderedMap.empty
        (some { result := check.result, lockmap := lockmap }, s)
      else if check.isRaid then (none, s)
      else if s.getGroup req.player ≠ 0 then (none, s.beginRoleCheck env gguid req check isContinue)
      else (some { result := check.result, lockmap := check.lockmap }, s.joinQueue env req check)

/-! ## The end of a proposal -/

inductive LfgUpdateType where
  | proposalFailed
  | proposalDeclined
  deriving DecidableEq

end LFGMgr

/-- The queue entry a player of a proposal came with: the group's, or the player's own. -/
def LfgProposalPlayer.queueGuid (p : LfgProposalPlayer) (player : Guid) : Guid :=
  if p.group ≠ 0 then p.group else player

/-- Those who did not accept, with the entries they came with. -/
def LfgProposal.toRemove (p : LfgProposal) (type : LFGMgr.LfgUpdateType) : LfgGuidSet :=
  OrderedSet.ofList ((p.players.entries.filter fun e =>
    e.2.accept = .deny || (e.2.accept = .pending && type = .proposalFailed)).map fun e =>
      e.2.queueGuid e.1)

namespace LFGMgr

variable (toRemove : LfgGuidSet) (s : LFGMgr) (e : Guid × LfgProposalPlayer)

/-- A player of a proposal that is over goes back to the queue, or to where they were before. -/
def releasePlayer : LFGMgr :=
  let gguid := e.2.queueGuid e.1
  if gguid ∈ toRemove then
    let s := s.clearState e.1
    if gguid ≠ e.1 then s.restoreState gguid else s
  else
    let s := s.setState e.1 .queued
    if gguid ≠ e.1 then s.setState gguid .queued else s

theorem restated_releasePlayer : Restated s (s.releasePlayer toRemove e) := by
  simp only [releasePlayer]
  split_ifs
  · exact (Restated.clearState s _).trans (Restated.restoreState _ _)
  · exact Restated.clearState s _
  · exact (Restated.setState s _ _).trans (Restated.setState _ _ _)
  · exact Restated.setState s _ _

variable (id : ℕ) (p : LfgProposal) (type : LfgUpdateType)

/-- **A proposal is over without a group**: the entries of those who did not accept leave the
queue, the others go back to it. -/
def removeProposal (s : LFGMgr) : LFGMgr :=
  let toRemove := p.toRemove type
  let s := p.players.entries.foldl (releasePlayer toRemove) s
  let s := s.updateQueue (s.queueId (p.players.keys.headD 0)) fun q =>
    let q := toRemove.elems.foldl LFGQueue.removeFromQueue q
    (p.queues.filter (· ∉ toRemove)).foldl LFGQueue.addToQueue q
  { s with proposals := s.proposals.erase id }

@[simp] theorem removeProposal_proposals (s : LFGMgr) :
    (s.removeProposal id p type).proposals = s.proposals.erase id :=
  congrArg (ProposalPool.erase · id)
    (Restated.foldl (restated_releasePlayer (p.toRemove type)) p.players.entries s).proposals

variable (env : MgrEnv)

/-- **A player or group leaves**: the queue, the role check, or the proposal. -/
def leaveLfg (guid : Guid) (s : LFGMgr) : LFGMgr :=
  let gguid := if isGroup guid then guid else s.getGroup guid
  match s.getState guid with
  | .queued =>
    if gguid ≠ 0 then
      let s := s.updateQueue (s.queueId gguid) (·.removeFromQueue gguid)
      let s := s.restoreState gguid
      (s.getPlayers gguid).elems.foldl clearState s
    else (s.updateQueue (s.queueId guid) (·.removeFromQueue guid)).clearState guid
  | .rolecheck => s.updateRoleCheck env gguid 0 playerRoleNone
  | .proposal =>
    let pguid := if gguid = guid then (s.groups gguid).leader else guid
    match s.proposals.store.entries.find? fun e => e.2.players.contains pguid with
    | none => s
    | some (id, p) =>
      let players := p.players.mapVals fun player answer =>
        if player = pguid then { answer with accept := .deny } else answer
      s.removeProposal id { p with players := players } .proposalDeclined
  | _ => s

/-! ## The group of an accepted proposal -/

/-- A player has been added to a group. -/
def onAddMember (gguid guid : Guid) (s : LFGMgr) : LFGMgr :=
  if s.isOptionEnabled then
    let s :=
      if (s.groups gguid).leader = guid then s.setLeader gguid guid
      else
        let gstate := s.getState gguid
        let s := if s.getState guid = .queued then s.leaveLfg env guid else s
        if gstate = .queued then s.leaveLfg env gguid else s
    (s.setGroup guid gguid).addPlayerToGroup gguid guid
  else s

/-- A player is about to leave a group, without a kick. -/
def onRemoveMember (gguid guid : Guid) (s : LFGMgr) : LFGMgr :=
  if s.isOptionEnabled then
    -- a group that is being formed after a proposal
    if s.getState gguid = .proposal then (s.setGroup guid 0).removePlayerFromGroup gguid guid
    else
      let s := (s.leaveLfg env guid).setState guid .none
      (s.setGroup guid 0).removePlayerFromGroup gguid guid
  else s

/-- A group has been disbanded. -/
def onDisband (gguid : Guid) (s : LFGMgr) : LFGMgr :=
  if s.isOptionEnabled then
    let s := (s.getPlayers gguid).elems.foldl
      (fun s guid => (s.clearState guid).setGroup guid 0) s
    s.updateGroup gguid fun _ => {}
  else s

def onChangeLeader (gguid newLeaderGuid : Guid) (s : LFGMgr) : LFGMgr :=
  if s.isOptionEnabled then s.setLeader gguid newLeaderGuid else s

/-- A player leaves a group for another: the group gets a new leader if it needs one, and is
disbanded if too few are left. -/
def removeMember (gguid guid : Guid) (s : LFGMgr) : LFGMgr :=
  let data := s.groups gguid
  let least := if data.isLFGGroup then 1 else 2
  let s := s.onRemoveMember env gguid guid
  if least < data.players.size then
    let s :=
      if data.leader = guid then
        match env.nextLeader gguid guid with
        | some leader => s.onChangeLeader gguid leader
        | none => s
      else s
    let members := (data.players.erase guid).elems
    if (data.isLFGGroup && members.length = 1 && env.leftDungeon gguid) ||
        members.countP env.findPlayer < least then
      s.onDisband gguid
    else s
  else s.onDisband gguid

variable (s : LFGMgr)

/-- The next group number, unless the server has run out of them and shuts down. -/
def generateGroupId : Option (ℕ × LFGMgr) :=
  if 0xFFFFFFFE ≤ s.nextGroupId then none
  else some (s.nextGroupId, { s with nextGroupId := s.nextGroupId + 1 })

/-- A new group of the dungeon finder, with its leader. -/
def createGroup (leader : Guid) (s : LFGMgr) : Option (Guid × LFGMgr) :=
  s.generateGroupId.map fun (lowguid, s) =>
    let gguid := groupGuid lowguid
    let s := s.updateGroup gguid fun data => { data with leader := leader, isLFGGroup := true }
    (gguid, (s.onAddMember env gguid leader).setState gguid .proposal)

/-- A player of the proposal comes into its group, if in the world.  The first one makes the
group if there is none yet. -/
def joinNewGroup (grp : Option Guid × LFGMgr) (pguid : Guid) : Option Guid × LFGMgr :=
  let s := grp.2
  if env.findPlayer pguid then
    let group := s.getGroup pguid
    let s := if group ≠ 0 ∧ some group ≠ grp.1 then s.removeMember env group pguid else s
    match grp.1 with
    | none =>
      match s.createGroup env pguid with
      | some (gguid, s) => (some gguid, s)
      | none => (none, s)
    | some gguid =>
        if group ≠ gguid then (some gguid, s.onAddMember env gguid pguid) else (grp.1, s)
  else grp

/-- **The players of an accepted proposal form their group**, the leader first. -/
def makeNewGroup (p : LfgProposal) (s : LFGMgr) : LFGMgr :=
  match env.getLFGDungeon p.dungeonId with
  | none => s -- an assertion fails
  | some dungeon =>
    let guids := p.players.keys
    let players := guids.filter (· = p.leader) ++ guids.filter (· ≠ p.leader)
    let grp :=
      if p.group ≠ 0 ∧ (s.getPlayers p.group).elems ≠ [] then some p.group else none
    match players.foldl (joinNewGroup env) (grp, s) with
    | (none, s) => s -- nobody is in the world, and there is no group to set up
    | (some gguid, s) => (s.setDungeon gguid dungeon.entry).setState gguid .dungeon

/-- **A player answers a proposal.**  When all have accepted, their group is made. -/
def updateProposal (id : ℕ) (guid : Guid) (accept : Bool) (s : LFGMgr) : LFGMgr :=
  match s.proposals.find? id with
  | none => s
  | some p =>
    match p.players.find? guid with
    | none => s
    | some player =>
      let answer : LfgAnswer := if accept then .agree else .deny
      let p := { p with players := p.players.set guid { player with accept := answer } }
      if !accept then s.removeProposal id p .proposalDeclined
      else if p.players.values.any (·.accept ≠ .agree) then
        { s with proposals := s.proposals.modify id fun _ => p }
      else
        let p := { p with state := .success }
        let s := { s with proposals := s.proposals.modify id fun _ => p }
        let team := s.queueId guid
        let s := p.players.entries.foldl (fun s e =>
          (s.updateQueue team (·.getJoinTime (e.2.queueGuid e.1) env.now)).setState e.1 .dungeon) s
        let s := s.updateQueue team fun q => p.queues.foldl LFGQueue.removeFromQueue q
        let s := s.makeNewGroup env p
        { s with proposals := s.proposals.erase id }

/-! ## Updates -/

/-- A role check that has taken too long is over. -/
def removeOldRoleCheck (now : ℕ) (s : LFGMgr) (e : Guid × LfgRoleCheck) : LFGMgr :=
  if now < e.2.cancelTime then s
  else
    let s := e.2.roles.keys.foldl clearState s
    { s with roleChecks := s.roleChecks.erase e.1 }

/-- A proposal that has taken too long is over. -/
def removeOldProposal (now : ℕ) (s : LFGMgr) (e : ℕ × LfgProposal) : LFGMgr :=
  if e.2.cancelTime < now then s.removeProposal e.1 e.2 .proposalFailed else s

/-- A vote that has taken too long is over. -/
def removeOldBoot (now : ℕ) (s : LFGMgr) (e : Guid × LfgPlayerBoot) : LFGMgr :=
  if e.2.cancelTime < now then
    let s := e.2.votes.keys.foldl (fun s pguid => s.setState pguid .dungeon) s
    let s := s.setState e.1 .dungeon
    { s with boots := s.boots.erase e.1 }
  else s

/-- What has taken too long is over. -/
def removeOld (now : ℕ) (s : LFGMgr) : LFGMgr :=
  let s := s.roleChecks.entries.foldl (removeOldRoleCheck now) s
  let s := s.proposals.store.entries.foldl (removeOldProposal now) s
  s.boots.entries.foldl (removeOldBoot now) s

/-- What the queues ask of the dungeon finder and the rest of the server. -/
def queueEnv : QueueEnv where
  getState := s.getState
  isLfgGroup := s.isLfgGroup
  findPlayer := env.findPlayer
  ignores := env.ignores
  now := env.now
  random := env.random

/-- A search of one team's queue. -/
def findGroupsIn (team : ℕ) : LFGMgr :=
  let st := ((s.queueEnv env).findGroups ⟨s.queue team, s.proposals⟩).2
  { s with queues := s.queues.set team st.queue, proposals := st.proposals }

/-- A search of all queues. -/
def findGroups : LFGMgr := s.queues.keys.foldl (findGroupsIn env) s

/-- A player of a proposal learns of it. -/
def announcePlayer (guid : Guid) : LFGMgr :=
  let s := s.setState guid .proposal
  if s.getGroup guid ≠ 0 then s.setState (s.getGroup guid) .proposal else s

theorem restated_announcePlayer (guid : Guid) : Restated s (s.announcePlayer guid) := by
  simp only [announcePlayer]
  split_ifs
  · exact (Restated.setState s _ _).trans (Restated.setState _ _ _)
  · exact Restated.setState s _ _

/-- The players of a proposal learn of it. -/
def announce (e : ℕ × LfgProposal) : LFGMgr :=
  let s := e.2.players.keys.foldl announcePlayer s
  if e.2.state = .success then s.updateProposal env e.1 (e.2.players.keys.getLastD 0) true else s

/-- **The new proposals are announced**: those from the last one on. -/
def announceFrom (lastProposalId : ℕ) (s : LFGMgr) : LFGMgr :=
  if lastProposalId ≠ s.proposals.lastId then
    (s.proposals.store.entries.dropWhile (·.1 ≠ s.proposals.lastId)).foldl (announce env) s
  else s

/-- The timer of the queues' statistics. -/
def updateTimers (diff : ℕ) (s : LFGMgr) : LFGMgr :=
  if 15 * 1000 < s.queueTimer then
    { s with queueTimer := 0, queues := s.queues.mapVals fun _ q => q.updateQueueTimers }
  else { s with queueTimer := (s.queueTimer + diff) % 2 ^ 32 }

/-- **An update**: what is over is removed, the queues are searched, what has been found is
announced. -/
def update (diff : ℕ) (s : LFGMgr) : LFGMgr :=
  if s.isOptionEnabled then
    let s := s.removeOld env.now
    let lastProposalId := s.proposals.lastId
    ((s.findGroups env).announceFrom env lastProposalId).updateTimers diff
  else s

end LFGMgr

/-! ## The machine -/

/-- The operations of the dungeon finder. -/
inductive LfgOp where
  | joinLfg (env : MgrEnv) (req : JoinRequest)
  | leaveLfg (env : MgrEnv) (guid : Guid)
  | setRoles (env : MgrEnv) (guid : Guid) (roles : LfgRoles)
  | updateProposal (env : MgrEnv) (id : ℕ) (guid : Guid) (accept : Bool)
  | update (env : MgrEnv) (diff : ℕ)

namespace LFGMgr

/-- **A step.**  Roles are selected for the player's group, if there is one. -/
def step (s : LFGMgr) : LfgOp → LFGMgr
  | .joinLfg env req => (s.joinLfg env req).2
  | .leaveLfg env guid => s.leaveLfg env guid
  | .setRoles env guid roles => s.updateRoleCheck env (s.getGroup guid) guid roles
  | .updateProposal env id guid accept => s.updateProposal env id guid accept
  | .update env diff => s.update env diff

end LFGMgr

end TeraCore
