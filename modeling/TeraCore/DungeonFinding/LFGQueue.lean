import TeraCore.DungeonFinding.LFG
import TeraCore.Groups.Group

/-!
# The dungeon finder's queue

The queue keeps the data of every queued player and group, the guids that are new, the guids
that have been tried, and a cache of the answers of checks.  `findGroups` tries every new guid
with the others, and a list of entries that makes a full group becomes a proposal.

## Main definitions

* `LFGQueue`: the queue, and its operations under the source's names
* `QueueEnv`: what the queue asks of the rest of the server
* `checkEntries`: the verdict of a check, before it has any effect
* `checkCompatibility`, `findNewGroups`, `findGroups`: the search
-/

namespace TeraCore

open Commons

structure LFGQueue where
  queueDataStore : OrderedMap Guid LfgQueueData := OrderedMap.empty
  compatibleMapStore : OrderedMap LfgKey LfgCompatibilityData := OrderedMap.empty
  currentQueueStore : List Guid := []
  newToQueueStore : List Guid := []

instance : Inhabited LFGQueue := ⟨{}⟩

namespace LFGQueue

variable (q : LFGQueue)

/-! ## The lists and the cache -/

variable (guid : Guid)

def addToNewQueue : LFGQueue :=
  { q with newToQueueStore := q.newToQueueStore ++ [guid] }

def removeFromNewQueue : LFGQueue :=
  { q with newToQueueStore := q.newToQueueStore.filter (· ≠ guid) }

def addToCurrentQueue : LFGQueue :=
  { q with currentQueueStore := q.currentQueueStore ++ [guid] }

def removeFromCurrentQueue : LFGQueue :=
  { q with currentQueueStore := q.currentQueueStore.filter (· ≠ guid) }

/-- Forget every answer whose key mentions the guid. -/
def removeFromCompatibles : LFGQueue :=
  { q with compatibleMapStore := q.compatibleMapStore.filterKeys fun key => !key.mentions guid }

/-- Cache an answer; roles that are there stay. -/
def setCompatibles (key : LfgKey) (compatibles : LfgCompatibility) : LFGQueue :=
  let roles := ((q.compatibleMapStore.find? key).getD {}).roles
  { q with compatibleMapStore := q.compatibleMapStore.set key ⟨compatibles, roles⟩ }

def setCompatibilityData (key : LfgKey) (data : LfgCompatibilityData) : LFGQueue :=
  { q with compatibleMapStore := q.compatibleMapStore.set key data }

/-- The cached answer. -/
def getCompatibles (key : LfgKey) : LfgCompatibility :=
  match q.compatibleMapStore.find? key with
  | some data => data.compatibility
  | none => .pending

/-! ## The best combination an entry is part of -/

/-- The number of guids of a key, in a byte. -/
def keySize (key : LfgKey) : ℕ := (key.count '|' + 1) % 2 ^ 8

end LFGQueue

/-- One player's role is no longer needed. -/
def LfgQueueData.take (data : LfgQueueData) (role : LfgRoles) : LfgQueueData :=
  if role &&& playerRoleTank ≠ 0 then { data with tanks := data.tanks - 1 }
  else if role &&& playerRoleHealer ≠ 0 then { data with healers := data.healers - 1 }
  else { data with dps := data.dps - 1 }

/-- A combination that is larger than the best one becomes the best one. -/
def LfgQueueData.updateBestCompatibleInQueue (data : LfgQueueData) (key : LfgKey)
    (roles : LfgRolesMap) : LfgQueueData :=
  let storedSize := if data.bestCompatible = [] then 0 else LFGQueue.keySize data.bestCompatible
  if LFGQueue.keySize key ≤ storedSize then data
  else
    roles.values.foldl LfgQueueData.take
      { data with
        bestCompatible := key
        tanks := .ofNat 8 lfgTanksNeeded
        healers := .ofNat 8 lfgHealersNeeded
        dps := .ofNat 8 lfgDpsNeeded }

namespace LFGQueue

variable (q : LFGQueue)

variable (guid : Guid)

/-- The best of the cached combinations that mention the guid. -/
def findBestCompatibleInQueue (data : LfgQueueData) : LfgQueueData :=
  q.compatibleMapStore.entries.foldl (fun data e =>
    if e.2.compatibility = .withLessPlayers ∧ e.1.mentions guid then
      data.updateBestCompatibleInQueue e.1 e.2.roles
    else data) data

/-! ## Entries -/

def addToQueue : LFGQueue :=
  if q.queueDataStore.contains guid then q.addToNewQueue guid else q

/-- **An entry leaves**: the lists, the cache, and the combinations of the others. -/
def removeFromQueue : LFGQueue :=
  let q := ((q.removeFromNewQueue guid).removeFromCurrentQueue guid).removeFromCompatibles guid
  let refreshed := q.queueDataStore.mapVals fun k data =>
    if k ≠ guid ∧ data.bestCompatible.mentions guid then
      q.findBestCompatibleInQueue k { data with bestCompatible := [] }
    else data
  { q with queueDataStore := refreshed.erase guid }

def addQueueData (joinTime : ℕ) (dungeons : LfgDungeonSet) (rolesMap : LfgRolesMap) : LFGQueue :=
  let data : LfgQueueData := { joinTime := joinTime, dungeons := dungeons, roles := rolesMap }
  { q with queueDataStore := q.queueDataStore.set guid data }.addToQueue guid

/-- The time an entry joined.  Asking for it makes an entry for a guid that has none. -/
def getJoinTime (now : ℕ) : LFGQueue :=
  if q.queueDataStore.contains guid then q
  else
    let data : LfgQueueData :=
      { joinTime := now, dungeons := OrderedSet.empty, roles := OrderedMap.empty }
    { q with queueDataStore := q.queueDataStore.set guid data }

/-- Entries without a best combination look for one. -/
def updateQueueTimers : LFGQueue :=
  { q with
    queueDataStore := q.queueDataStore.mapVals fun guid data =>
      if data.bestCompatible = [] then q.findBestCompatibleInQueue guid data else data }

end LFGQueue

/-! ## The verdict of a check -/

/-- Random choices: an element of a container, and the toss of a coin, for each new proposal. -/
structure RandomSource where
  pick : ℕ → List ℕ → ℕ
  pick_mem : ∀ id l, l ≠ [] → pick id l ∈ l
  coin : ℕ → Guid → Bool

/-- **What the queue asks of the rest of the server** during a search. -/
structure QueueEnv where
  getState : Guid → LfgState
  isLfgGroup : Guid → Bool
  /-- Is the player in the world? -/
  findPlayer : Guid → Bool
  /-- Does the player's ignore list have the player with this number? -/
  ignores : Guid → ℕ → Bool
  now : ℕ
  random : RandomSource

namespace QueueEnv

variable (env : QueueEnv) (data : OrderedMap Guid LfgQueueData)

/-- Does one of two players in the world ignore the other? -/
def hasIgnore (guid1 guid2 : Guid) : Bool :=
  env.findPlayer guid1 && env.findPlayer guid2 &&
    (env.ignores guid1 (guidLopart guid2) || env.ignores guid2 (guidLopart guid1))

/-- Are all entries of the list queued? -/
def allQueued (check : List Guid) : Bool :=
  check ≠ [] && check.all fun guid => env.getState guid = .queued

/-- What has been counted of the entries of a list. -/
structure Counted where
  numPlayers : ℕ := 0
  numLfgGroups : ℕ := 0
  /-- The first dungeon group, 0 if there is none. -/
  group : Guid := 0
  proposalGroups : OrderedMap Guid Guid := OrderedMap.empty

/-- One entry more. -/
def Counted.add (c : Counted) (guid : Guid) (roles : LfgRolesMap) : Counted where
  numPlayers := (c.numPlayers + roles.size) % 2 ^ 8
  numLfgGroups := if env.isLfgGroup guid then c.numLfgGroups + 1 else c.numLfgGroups
  group := if env.isLfgGroup guid ∧ c.numLfgGroups = 0 then guid else c.group
  proposalGroups := roles.keys.foldl
    (fun groups player => groups.set player (if isGroup guid then guid else 0)) c.proposalGroups

/-- The walk over the entries, which ends early when there are too many dungeon groups or
players.  It fails at an entry without data. -/
def countEntries : List Guid → Counted → Except Guid Counted
  | [], c => .ok c
  | guid :: check, c =>
    if c.numLfgGroups < 2 ∧ c.numPlayers ≤ maxGroupSize then
      match data.find? guid with
      | none => .error guid
      | some d => countEntries check (c.add env guid d.roles)
    else .ok c

/-- One player more, unless one who is there already ignores them or is ignored. -/
def mergePlayer (proposalRoles : LfgRolesMap) (player : Guid × LfgRoles) : LfgRolesMap :=
  if proposalRoles.keys.any fun other => other ≠ player.1 && env.hasIgnore player.1 other then
    proposalRoles
  else proposalRoles.set player.1 player.2

/-- The players of the entries. -/
def mergeRoles (check : List Guid) : LfgRolesMap :=
  check.foldl (fun proposalRoles guid =>
    (data.get guid).roles.entries.foldl env.mergePlayer proposalRoles) OrderedMap.empty

def commonDungeons : List Guid → LfgDungeonSet
  | [] => OrderedSet.empty
  | guid :: check =>
    check.foldl (fun dungeons guid => dungeons.inter (data.get guid).dungeons)
      (data.get guid).dungeons

inductive Verdict where
  | incompatible (compatibles : LfgCompatibility)
  | lessPlayers (roles : LfgRolesMap)
  | full (counted : Counted) (roles : LfgRolesMap) (dungeons : LfgDungeonSet)

/-- **The verdict of a check**, or the entry that is listed without data. -/
def checkEntries (check : List Guid) : Except Guid Verdict :=
  match countEntries env data check {} with
  | .error guid => .error guid
  | .ok counted =>
    if check.length = 1 ∧ counted.numPlayers ≠ maxGroupSize then
      .ok (.lessPlayers (checkGroupRoles (data.get (check.headD 0)).roles).2)
    else if 1 < counted.numLfgGroups then .ok (.incompatible .multipleLfgGroups)
    else if maxGroupSize < counted.numPlayers then .ok (.incompatible .tooMuchPlayers)
    else if 1 < check.length then
      let proposalRoles := mergeRoles env data check
      if (counted.numPlayers + 2 ^ 8 - proposalRoles.size % 2 ^ 8) % 2 ^ 8 ≠ 0 then
        .ok (.incompatible .hasIgnores)
      else
        match checkGroupRoles proposalRoles with
        | (false, _) => .ok (.incompatible .noRoles)
        | (true, proposalRoles) =>
          let proposalDungeons := commonDungeons data check
          if proposalDungeons.elems = [] then .ok (.incompatible .noDungeons)
          else if counted.numPlayers ≠ maxGroupSize then .ok (.lessPlayers proposalRoles)
          else .ok (.full counted proposalRoles proposalDungeons)
    else
      -- a single entry of five players: its roles and dungeons were checked when it joined
      let queue := data.get (check.headD 0)
      .ok (.full counted (checkGroupRoles queue.roles).2 queue.dungeons)

/-- Who leads the new group: a player who wants to, if there is one. -/
def chooseLeader (id : ℕ) (roles : LfgRolesMap) : Guid :=
  (roles.entries.foldl (fun (found, leader) player =>
    if player.2 &&& playerRoleLeader ≠ 0 then
      if !found || leader = 0 || env.random.coin id player.1 then (true, player.1)
      else (true, leader)
    else if !found && (leader = 0 || env.random.coin id player.1) then (found, player.1)
    else (found, leader)) (false, 0)).2

/-- **The proposal of a full group.** -/
def createProposal (id : ℕ) (check : List Guid) (counted : Counted) (roles : LfgRolesMap)
    (dungeons : LfgDungeonSet) : LfgProposal :=
  let isNew := !(check.length = 1 && counted.proposalGroups.values.any fun group =>
    counted.group ≠ 0 && group ≠ counted.group)
  { dungeonId := env.random.pick id dungeons.elems
    state := .initiating
    group := counted.group
    leader := env.chooseLeader id roles
    cancelTime := env.now + 120
    isNew := isNew
    queues := check
    players := roles.mapVals fun player role =>
      let group := counted.proposalGroups.get player
      let accept := if !isNew && group ≠ 0 && group = counted.group then .agree else .pending
      { role := role, group := group, accept := accept } }

end QueueEnv

/-! ## The search -/

/-- The queue and the live proposals, which a search changes. -/
structure MatchState where
  queue : LFGQueue
  proposals : ProposalPool

namespace MatchState

/-- The state after a change of the queue. -/
def update (st : MatchState) (f : LFGQueue → LFGQueue) : MatchState :=
  { st with queue := f st.queue }

end MatchState

namespace QueueEnv

variable (env : QueueEnv)

variable (check : List Guid)

/-- A full group becomes a proposal, and its entries leave the lists. -/
def propose (counted : Counted) (roles : LfgRolesMap) (dungeons : LfgDungeonSet) (st : MatchState) :
    MatchState where
  queue := check.foldl (fun q guid => (q.removeFromNewQueue guid).removeFromCurrentQueue guid)
    st.queue
  proposals := st.proposals.addProposal
    (env.createProposal (st.proposals.lastId + 1) check counted roles dungeons)

/-- A combination for every entry of the list. -/
def noteLessPlayers (roles : LfgRolesMap) (q : LFGQueue) : LFGQueue :=
  let key := concatenateGuids check
  let store := check.foldl (fun store guid =>
    match store.find? guid with
    | some d => store.set guid (d.updateBestCompatibleInQueue key roles)
    | none => store) q.queueDataStore
  { q with queueDataStore := store }.setCompatibilityData key ⟨.withLessPlayers, roles⟩

variable (st : MatchState)

/-- **A check without the one before it**: the verdict and its effects. -/
def applyVerdict : LfgCompatibility × MatchState :=
  let key := concatenateGuids check
  match checkEntries env st.queue.queueDataStore check with
  | .error guid => (.pending, st.update (·.removeFromQueue guid))
  | .ok (.incompatible compatibles) => (compatibles, st.update (·.setCompatibles key compatibles))
  | .ok (.lessPlayers roles) => (.withLessPlayers, st.update (noteLessPlayers check roles))
  | .ok (.full counted roles dungeons) =>
    if env.allQueued check then
      (.matched,
        (env.propose check counted roles dungeons st).update (·.setCompatibles key .matched))
    else (.badStates, st.update (·.setCompatibles key .badStates))

/-- **Is the list of entries compatible?**  A list of more than two is checked without its first
entry before; a full group becomes a proposal. -/
def checkCompatibility : List Guid → MatchState → LfgCompatibility × MatchState
  | [], st => (.wrongGroupSize, st)
  | front :: rest, st =>
    if maxGroupSize < rest.length + 1 then (.wrongGroupSize, st)
    else if 1 < rest.length then
      match checkCompatibility rest st with
      | (child, st) =>
        if child.isCompatible then env.applyVerdict (front :: rest) st
        else (child, st.update (·.setCompatibles (concatenateGuids (front :: rest)) child))
    else env.applyVerdict (front :: rest) st

/-- The cached answer for a list, or that of a check if none is cached. -/
def cachedOrChecked : LfgCompatibility × MatchState :=
  match st.queue.getCompatibles (concatenateGuids check) with
  | .pending => env.checkCompatibility check st
  | compatibles => (compatibles, st)

/-- The answer for a list.  A full group whose entries were not all queued matches once they
are. -/
def answer : LfgCompatibility × MatchState :=
  match env.cachedOrChecked check st with
  | (.badStates, st) =>
    if env.allQueued check then
      (.matched, st.update (·.setCompatibles (concatenateGuids check) .matched))
    else (.badStates, st)
  | other => other

/-- **The search for a group**, with a bound on its depth.  The entries of `all` are taken from
the list as they are tried, also by the searches inside. -/
def findNewGroups : ℕ → List Guid → List Guid → MatchState →
    LfgCompatibility × List Guid × MatchState
  | 0, _, all, st => (.pending, all, st)
  | depth + 1, check, all, st =>
    match env.answer check st with
    | (.withLessPlayers, st) => tryQueued depth check all st
    | (compatibles, st) => (compatibles, all, st)
where
  /-- The loop over the entries that are left. -/
  tryQueued : ℕ → List Guid → List Guid → MatchState →
      LfgCompatibility × List Guid × MatchState
  | _, _, [], st => (.withLessPlayers, [], st)
  | 0, _, all, st => (.pending, all, st)
  | depth + 1, check, guid :: all, st =>
    match findNewGroups depth (check ++ [guid]) all st with
    | (.matched, all, st) => (.matched, all, st)
    | (_, all, st) => tryQueued depth check all st

/-- The loop over the new entries, each tried with a copy of the others. -/
def findGroupsFrom : ℕ → ℕ → MatchState → ℕ × MatchState
  | 0, proposals, st => (proposals, st)
  | count + 1, proposals, st =>
    match st.queue.newToQueueStore with
    | [] => (proposals, st)
    | frontguid :: _ =>
      let st := st.update (·.removeFromNewQueue frontguid)
      let temporalList := st.queue.currentQueueStore
      match env.findNewGroups (2 * temporalList.length + 2) [frontguid] temporalList st with
      | (.matched, _, st) => findGroupsFrom count ((proposals + 1) % 2 ^ 8) st
      | (_, _, st) => findGroupsFrom count proposals (st.update (·.addToCurrentQueue frontguid))

/-- **Find groups for the new entries**; the number found, and the state after. -/
def findGroups : ℕ × MatchState :=
  env.findGroupsFrom st.queue.newToQueueStore.length 0 st

end QueueEnv

end TeraCore
