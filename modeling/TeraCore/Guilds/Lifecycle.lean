import TeraCore.Commons.Run
import TeraCore.Guilds.Roster

/-!
# Guilds: from the charter to the disbanding

A guild is created with five default ranks and its leader as the only member.  Ranks are added
and removed at the end of the list, members join with the lowest rank, and the guild disbands
when its last member leaves.  A guild read from the database is repaired before it is used.

A character is in one guild at most.  The guild a character is in is kept with the character,
and is what `addMember` reads.

## Main definitions

* `Guild.handleAddNewRank`, `Guild.handleRemoveRank`, `Guild.handleSetLeader`: the leader's
  commands on the ranks and on the leadership
* `Guild.validate`: the repair of a guild read from the database
* `GuildWorld`: a guild, and the guild id of every character
* `GuildWorld.create`, `GuildWorld.addMember`, `GuildWorld.deleteMember`,
  `GuildWorld.handleLeaveMember`: joining and leaving
* `GuildOp`, `GuildWorld.step`: one operation on the guild
-/

namespace TeraCore

open Commons

/-- No rank was passed. -/
def guildRankNone : BitVec 8 := 0xFF

def guildRanksMinCount : BitVec 8 := 5
def guildRanksMaxCount : BitVec 8 := 10

/-- A tab entry that has not been given its tab. -/
def tabUndefined : BitVec 8 := 0xFF

def langGuildMaster : ℕ := 811
def langGuildOfficer : ℕ := 812
def langGuildVeteran : ℕ := 813
def langGuildMember : ℕ := 814
def langGuildInitiate : ℕ := 815

def classWarrior : BitVec 8 := 1
def maxClasses : BitVec 8 := 12

namespace Guild

/-! ## Ranks -/

/-- A new rank has no rights on any tab. -/
def RankInfo.new (rankId : BitVec 8) (name : String) (rights : BitVec 32) : RankInfo where
  rankId := rankId
  name := name
  rights := rights
  bankMoneyPerDay := 0
  bankTabRightsAndSlots := fun _ => ⟨tabUndefined, 0, 0⟩

/-- Gives the entries of the bought tabs their tab. -/
def RankInfo.createMissingTabsIfNeeded (r : RankInfo) (tabs : BitVec 8) : RankInfo :=
  { r with bankTabRightsAndSlots := fun i =>
      let rightsAndSlots := r.bankTabRightsAndSlots i
      if i.val < tabs.toNat ∧ rightsAndSlots.tabId.toNat ≠ i.val then
        let rightsAndSlots := { rightsAndSlots with tabId := BitVec.ofNat 8 i.val }
        if r.rankId = grGuildmaster then rightsAndSlots.setGuildMasterValues else rightsAndSlots
      else rightsAndSlots }

variable (g : Guild)

/-- Appends a rank, whose id is its index. The entries of the bought tabs are created on a copy
of the rank, after the rank is stored. -/
def createRank (name : String) (rights : BitVec 32) : Guild :=
  let newRankId := g.getRanksSize
  if guildRanksMaxCount ≤ newRankId then g
  else { g with ranks := g.ranks ++ [RankInfo.new newRankId name rights] }

/-- The five ranks of a new guild. `text` is the server's table of texts. -/
def createDefaultGuildRanks (text : ℕ → String) : Guild :=
  let g := g.createRank (text langGuildMaster) grRightAll
  let g := g.createRank (text langGuildOfficer) grRightAll
  let g := g.createRank (text langGuildVeteran) (grRightGchatlisten ||| grRightGchatspeak)
  let g := g.createRank (text langGuildMember) (grRightGchatlisten ||| grRightGchatspeak)
  g.createRank (text langGuildInitiate) (grRightGchatlisten ||| grRightGchatspeak)

def handleAddNewRank (player : Guid) (name : String) : Guild :=
  if guildRanksMaxCount ≤ g.getRanksSize then g
  else if g.isLeader player then g.createRank name (grRightGchatlisten ||| grRightGchatspeak)
  else g

/-- The last rank goes, whichever id was sent. -/
def handleRemoveRank (player : Guid) (rankId : BitVec 8) : Guild :=
  if g.getRanksSize ≤ guildRanksMinCount ∨ g.getRanksSize ≤ rankId ∨ !g.isLeader player then g
  else { g with ranks := g.ranks.dropLast }

def handleRemoveLowestRank (player : Guid) : Guild :=
  g.handleRemoveRank player g.getLowestRankId

/-! ## The leader -/

/-- **`Guild::HandleSetLeader`**: the named member is promoted to the guild master's rank, then
the player is demoted to an officer. -/
def handleSetLeader (player : Guid) (name : String) : Option GuildCommandError × Guild :=
  if !g.isLeader player then (some .guildPermissions, g)
  else match g.getMember player with
    | none => (none, g)
    | some oldLeader =>
      match g.getMemberByName name with
      | none => (none, g)
      | some newLeader =>
        (none, (g.setLeaderGUID newLeader).setMember (oldLeader.changeRank grOfficer))

/-! ## The repair of a loaded guild -/

/-- Are the loaded ranks unusable: too few, too many, or with an id that is not the index? -/
def brokenRanks : Bool :=
  g.getRanksSize < guildRanksMinCount || guildRanksMaxCount < g.getRanksSize ||
    (g.ranks.take g.getRanksSize.toNat).zipIdx.any fun r => r.1.rankId.toNat != r.2

/-- Unusable ranks are replaced by the default ones; the others get their missing tabs. -/
def repairRanks (text : ℕ → String) : Guild :=
  if g.brokenRanks then { g with ranks := [] }.createDefaultGuildRanks text
  else { g with ranks := g.ranks.map (·.createMissingTabsIfNeeded g.getPurchasedTabsSize) }

/-- Members of a rank past the last one get the lowest rank. -/
def repairMembers : Guild :=
  { g with members := g.members.mapVals fun _ m =>
      if g.getRanksSize < m.rankId then m.changeRank g.getLowestRankId else m }

/-- A leader who is not a member is succeeded by a member; one without the guild master's rank
gets it. `none` when there is no member to succeed. -/
def repairLeader : Option Guild :=
  match g.getMember g.leaderGuid with
  | none => g.deleteMember g.leaderGuid
  | some leader =>
    if leader.isRank grGuildmaster then some g else some (g.setLeaderGUID leader)

/-- The leader is the only guild master, unless the server allows several. -/
def repairGuildmasters (allowMultipleGuildMaster : Bool) : Guild :=
  if allowMultipleGuildMaster then g
  else { g with members := g.members.mapVals fun _ m =>
      if m.rankId = grGuildmaster ∧ !m.isSamePlayer g.leaderGuid then m.changeRank grOfficer
      else m }

/-- **`Guild::Validate`**: the guild after its repair, or `none` when it is disbanded. -/
def validate (text : ℕ → String) (allowMultipleGuildMaster : Bool) : Option Guild :=
  ((g.repairRanks text).repairMembers.repairLeader).map
    (·.repairGuildmasters allowMultipleGuildMaster)

end Guild

/-! ## Joining and leaving -/

/-- The guid of a character: a player's guid has no high part. -/
def characterGuid (lowguid : BitVec 32) : Guid := lowguid.toNat

/-- What joining reads of a character who is not in the world. -/
structure CharacterRow where
  name : String
  level : BitVec 8
  class' : BitVec 8
  deriving DecidableEq

def CharacterRow.checkStats (c : CharacterRow) : Bool :=
  !(c.level < 1 || c.class' < classWarrior || maxClasses ≤ c.class')

/-- The character who joins: in the world, or a row of the character table, if there is one. -/
inductive Candidate where
  | inWorld (name : String)
  | offline (row : Option CharacterRow)
  deriving DecidableEq

/-- The name a candidate joins under, unless it cannot join. -/
def Candidate.admitted : Candidate → Option String
  | .inWorld name => some name
  | .offline none => none
  | .offline (some row) => if row.checkStats then some row.name else none

/-- **A guild among the characters**: the guild, while it exists, and the guild id of every
character, `0` for a character in no guild. -/
structure GuildWorld where
  guild : Option Guild
  guildIdOf : ℕ → ℕ

namespace GuildWorld

/-- The characters who are no longer members are in no guild. -/
def dismiss (g : Guild) (g' : Option Guild) (guildIdOf : ℕ → ℕ) : ℕ → ℕ := fun lowguid =>
  if g.members.contains lowguid && !g'.any (·.members.contains lowguid) then 0
  else guildIdOf lowguid

variable (w : GuildWorld)

/-- The guild becomes `g'`, or disbands. -/
def after (g : Guild) (g' : Option Guild) : GuildWorld :=
  { guild := g', guildIdOf := dismiss g g' w.guildIdOf }

/-- A new member without notes or withdrawals. -/
def newMember (guid : Guid) (name : String) (rankId : BitVec 8) : Guild.Member where
  guid := guid
  name := name
  rankId := rankId
  publicNote := ""
  officerNote := ""
  bankWithdraw := fun _ => 0

/-- **`Guild::AddMember`**: a character in no guild joins with a rank, the lowest one when none
is passed. -/
def addMember (guid : Guid) (c : Candidate) (rankId : BitVec 8) : GuildWorld :=
  match w.guild with
  | none => w
  | some g =>
    let lowguid := guidLopart guid
    if w.guildIdOf lowguid ≠ 0 then w
    else match c.admitted with
      | none => w
      | some name =>
        let rankId := if rankId = guildRankNone then g.getLowestRankId else rankId
        { guild := some { g with members := g.members.set lowguid (newMember guid name rankId) }
          guildIdOf := Function.update w.guildIdOf lowguid g.id }

/-- A new guild, before its ranks and members. -/
def founded (id : ℕ) (leaderGuid : Guid) : Guild where
  id := id
  leaderGuid := leaderGuid
  motd := "No message set."
  ranks := []
  members := OrderedMap.empty
  purchasedTabs := 0
  bankMoney := 0

/-- **`Guild::Create`** by a leader in the world: the guild, with its default ranks and its
leader. A leader who is in a guild creates none. -/
def create (guildIdOf : ℕ → ℕ) (id : ℕ) (leader : BitVec 32) (name : String)
    (text : ℕ → String) : Option GuildWorld :=
  let leaderGuid := characterGuid leader
  let g := (founded id leaderGuid).createDefaultGuildRanks text
  let w := addMember ⟨some g, guildIdOf⟩ leaderGuid (.inWorld name) grGuildmaster
  if guildIdOf leader.toNat = 0 then some w else none

def deleteMember (guid : Guid) : GuildWorld :=
  match w.guild with
  | none => w
  | some g =>
    match g.deleteMember guid with
    | none => w.after g none
    | some g' => { guild := some g', guildIdOf := Function.update w.guildIdOf (guidLopart guid) 0 }

/-- `Guild::HandleLeaveMember`: a leader leaves only alone, and disbands the guild. -/
def handleLeaveMember (player : Guid) : GuildWorld :=
  match w.guild with
  | none => w
  | some g =>
    if g.isLeader player then
      if 1 < g.members.size then w else w.after g none
    else w.deleteMember player

end GuildWorld

/-! ## Operations -/

/-- One operation on the guild, or a character joining or leaving another guild. -/
inductive GuildOp where
  | addNewRank (player : BitVec 32) (name : String)
  | removeLowestRank (player : BitVec 32)
  | addMember (character : BitVec 32) (c : Candidate)
  | deleteMember (character : BitVec 32)
  | removeMember (player : BitVec 32) (name : String)
  | leaveMember (player : BitVec 32)
  | updateMemberRank (player : BitVec 32) (name : String) (demote : Bool)
  | setLeader (player : BitVec 32) (name : String)
  | otherGuild (character : BitVec 32) (guildId : ℕ)
  deriving DecidableEq

namespace GuildWorld

/-- A command on the guild that keeps its members. -/
def onGuild (w : GuildWorld) (f : Guild → Guild) : GuildWorld :=
  { w with guild := w.guild.map f }

/-- Another guild admits a character of no guild, or loses one of its members. -/
def otherGuild (w : GuildWorld) (lowguid guildId : ℕ) : GuildWorld :=
  match w.guild with
  | none => w
  | some g =>
    if w.guildIdOf lowguid = g.id ∨ guildId = g.id then w
    else { w with guildIdOf := Function.update w.guildIdOf lowguid guildId }

/-- **One operation.** After the disbanding nothing is left to operate on. -/
def step (w : GuildWorld) : GuildOp → GuildWorld
  | .addNewRank player name => w.onGuild (·.handleAddNewRank (characterGuid player) name)
  | .removeLowestRank player => w.onGuild (·.handleRemoveLowestRank (characterGuid player))
  | .addMember character c => w.addMember (characterGuid character) c guildRankNone
  | .deleteMember character => w.deleteMember (characterGuid character)
  | .removeMember player name =>
    match w.guild with
    | none => w
    | some g => w.after g (g.handleRemoveMember (characterGuid player) name).2
  | .leaveMember player => w.handleLeaveMember (characterGuid player)
  | .updateMemberRank player name demote =>
    w.onGuild fun g => (g.handleUpdateMemberRank (characterGuid player) name demote).2
  | .setLeader player name =>
    w.onGuild fun g => (g.handleSetLeader (characterGuid player) name).2
  | .otherGuild character guildId => w.otherGuild character.toNat guildId

end GuildWorld

end TeraCore
