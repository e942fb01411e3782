import TeraCore.Commons.First
import TeraCore.Groups.Roll

/-!
# Groups

A group is a list of member slots, a leader's guid, and the rolls being held.  A raid also has
one counter for each of its eight subgroups, a redundant copy of the slots' subgroup numbers.
Beside the slots the group keeps references to the members that are logged in.

## Main definitions

* `Group`, `Group.MemberSlot`: the state
* `Group.create`, `Group.addMember`, `Group.removeMember`, `Group.changeLeader`,
  `Group.convertToRaid`, `Group.changeMembersGroup`: the operations on the members
* `Group.startRoll`, `Group.countRollVote`, `Group.endRoll`: the operations on the rolls
* `Group.handleGroupChangeSubGroup`: the packet handler that moves a member
-/

namespace TeraCore

open Commons

def maxGroupSize : ℕ := 5

def maxRaidSize : ℕ := 40

def maxRaidSubgroups : ℕ := 8

/-- Does the guid name a player? -/
def isPlayerGuid (guid : Guid) : Bool := guidHipart guid == 0 && guid != 0

/-- How a member leaves. -/
inductive RemoveMethod where
  | default
  | kick
  | leave
  | kickLfg
  deriving DecidableEq

namespace Group

/-- A member's slot: the subgroup, and the flags of the member. -/
structure MemberSlot where
  guid : Guid
  group : ℕ
  flags : BitVec 8
  deriving DecidableEq

/-- The counters of a raid, one for each subgroup. -/
abbrev SubGroupsCounts := Fin maxRaidSubgroups → BitVec 8

end Group

/-- **A group.** `memberMgr` are the references to the members that are logged in, the last one
linked first; `isBG` and `isBF` say whether it belongs to a battleground or a battlefield. -/
structure Group where
  leaderGuid : Guid
  groupType : BitVec 8
  isBG : Bool
  isBF : Bool
  memberSlots : List Group.MemberSlot
  memberMgr : List Guid
  subGroupsCounts : Option Group.SubGroupsCounts
  rolls : List Roll

def grouptypeBg : BitVec 8 := 0x1
def grouptypeRaid : BitVec 8 := 0x2
def grouptypeBgraid : BitVec 8 := grouptypeBg ||| grouptypeRaid
def grouptypeUnk1 : BitVec 8 := 0x4
def grouptypeLfg : BitVec 8 := 0x8

def memberFlagAssistant : BitVec 8 := 0x1

namespace Group

variable (g : Group)

def isRaidGroup : Bool := g.groupType &&& grouptypeRaid != 0

def isLFGGroup : Bool := g.groupType &&& grouptypeLfg != 0

def getMembersCount : ℕ := g.memberSlots.length

def isFull : Bool :=
  if g.isRaidGroup then decide (maxRaidSize ≤ g.getMembersCount)
  else decide (maxGroupSize ≤ g.getMembersCount)

variable (guid : Guid)

/-- The first slot of a guid. -/
def getMemberSlot : Option MemberSlot :=
  g.memberSlots.find? fun s => s.guid = guid

def isMember : Bool := (g.getMemberSlot guid).isSome

def isLeader : Bool := g.leaderGuid == guid

def isAssistant : Bool :=
  (g.getMemberSlot guid).any fun s => s.flags &&& memberFlagAssistant != 0

/-! ## The counters of the subgroups -/

variable (counts : SubGroupsCounts)

variable (subgroup : ℕ)

/-- One counter goes up. -/
def increaseCount : SubGroupsCounts :=
  fun i => if i.val = subgroup then counts i + 1 else counts i

/-- One counter goes down. -/
def decreaseCount : SubGroupsCounts :=
  fun i => if i.val = subgroup then counts i - 1 else counts i

def subGroupCounterIncrease : Group :=
  { g with subGroupsCounts := g.subGroupsCounts.map (increaseCount · subgroup) }

def subGroupCounterDecrease : Group :=
  { g with subGroupsCounts := g.subGroupsCounts.map (decreaseCount · subgroup) }

/-- Allocates the counters of a raid, and counts the slots. -/
def initRaidSubGroupsCounter : Group :=
  let counts : SubGroupsCounts :=
    fun i => BitVec.ofNat 8 (g.memberSlots.countP fun s => s.group = i.val)
  { g with subGroupsCounts := some counts }

/-- The first subgroup with a free place. -/
def firstFreeSubGroup : Option (Fin maxRaidSubgroups) :=
  (List.finRange maxRaidSubgroups).find? fun i => (counts i).toNat < maxGroupSize

def hasFreeSlotSubGroup : Bool :=
  g.subGroupsCounts.any fun counts =>
    (List.finRange maxRaidSubgroups).any fun i =>
      i.val = subgroup && (counts i).toNat < maxGroupSize

/-! ## Members -/

/-- A logged in member is linked: a player has one reference to the group. -/
def linkMember : Group :=
  { g with memberMgr := guid :: g.memberMgr.erase guid }

def delinkMember : Group :=
  { g with memberMgr := g.memberMgr.erase guid }

/-- The new member's slot in a subgroup. -/
def pushSlot : Group :=
  let g : Group := { g with memberSlots := g.memberSlots ++ [⟨guid, subgroup, 0⟩] }
  let g := g.subGroupCounterIncrease subgroup
  if isPlayerGuid guid then g.linkMember guid else g

/-- **`Group::AddMember`.** A raid takes the first subgroup with a free place, and refuses the
member when there is none. -/
def addMember : Bool × Group :=
  match g.subGroupsCounts with
  | none => (true, g.pushSlot guid 0)
  | some counts =>
    match firstFreeSubGroup counts with
    | none => (false, g)
    | some subgroup => (true, g.pushSlot guid subgroup)

/-- A new group, before its leader is added: a battleground's or a battlefield's is a raid. -/
def fresh (leader : Guid) (isBG isBF : Bool) : Group :=
  let g : Group :=
    { leaderGuid := leader
      groupType := if isBG || isBF then grouptypeBgraid else 0
      isBG := isBG
      isBF := isBF
      memberSlots := []
      memberMgr := []
      subGroupsCounts := none
      rolls := [] }
  if g.isRaidGroup then g.initRaidSubGroupsCounter else g

def create (leader : Guid) (isBG isBF : Bool) : Group :=
  ((fresh leader isBG isBF).addMember leader).2

def convertToLFG : Group :=
  { g with groupType := g.groupType ||| grouptypeLfg ||| grouptypeUnk1 }

def convertToRaid : Group :=
  { g with groupType := g.groupType ||| grouptypeRaid }.initRaidSubGroupsCounter

/-- Gives or takes the assistant's flag. -/
def setAssistant (apply : Bool) : Group :=
  let toggle (s : MemberSlot) : MemberSlot :=
    { s with flags :=
        if apply then s.flags ||| memberFlagAssistant else s.flags &&& ~~~memberFlagAssistant }
  { g with memberSlots := modifyFirst (fun s => s.guid = guid) toggle g.memberSlots }

variable (inWorld : Guid → Bool)

/-- **`Group::ChangeLeader`.** Leadership does not go to a player who is not in the world. -/
def changeLeader : Group :=
  if g.isMember guid && inWorld guid then { g with leaderGuid := guid }.setAssistant guid false
  else g

/-- The slot goes, and its subgroup's counter with it. -/
def eraseSlot : Group :=
  match g.getMemberSlot guid with
  | none => g
  | some slot =>
    { g.subGroupCounterDecrease slot.group with
      memberSlots := g.memberSlots.eraseP fun s => s.guid = guid }

/-- The first member who is in the world becomes the leader, if there is one. -/
def pickNewLeader : Group :=
  match g.memberSlots.find? fun s => inWorld s.guid with
  | none => g
  | some slot => g.changeLeader slot.guid inWorld

/-- What a removal reads of the world: who is in it, the map of the group's dungeon (`0` for
none), and where the leader is. -/
structure RemoveEnv where
  inWorld : Guid → Bool
  dungeonMapId : ℕ
  leaderIsAlive : Bool
  leaderMapId : ℕ

/-- The least number of members a removal has to find, otherwise the group disbands. -/
def minMembersToRemove : ℕ := if g.isBG || g.isLFGGroup || g.isBF then 1 else 2

/-- The number of members and references below which a group disbands after a removal. -/
def minMembersAfterRemove : ℕ := if g.isLFGGroup || g.isBG then 1 else 2

/-- A removed player's reference goes, if the player is found or the group is an ordinary one;
then their votes, and their slot. -/
def detachMember : Group :=
  let g := if inWorld guid || !(g.isBG || g.isBF) then g.delinkMember guid else g
  -- The vote that is counted next is the removed player's, who has none left in the roll.
  let g : Group := { g with rolls := g.rolls.map fun r => r.removeVoter guid }
  g.eraseSlot guid

/-- A removed leader is succeeded. -/
def dropMember : Group :=
  let g := g.detachMember guid inWorld
  if g.leaderGuid = guid then g.pickNewLeader inWorld else g

/-- Does a dungeon group of one member disband? -/
def lfgDisbands (env : RemoveEnv) : Bool :=
  g.isLFGGroup && g.getMembersCount == 1 &&
    (env.dungeonMapId == 0 || !env.inWorld g.leaderGuid ||
      (env.leaderIsAlive && env.leaderMapId != env.dungeonMapId))

/-- **`Group::RemoveMember`**: `none` when the group disbands. -/
def removeMember (method : RemoveMethod) (env : RemoveEnv) : Option Group :=
  -- A dungeon group's vote kick is left to the vote.
  if g.isLFGGroup ∧ method = .kick then some g
  else if g.minMembersToRemove < g.getMembersCount then
    let g := g.dropMember guid env.inWorld
    if g.lfgDisbands env then none
    else if g.memberMgr.length < g.minMembersAfterRemove ∧
        g.getMembersCount < g.minMembersAfterRemove then none
    else some g
  else none

/-- The slot's subgroup is another. -/
def moveSlot (group : ℕ) : Group :=
  let move (s : MemberSlot) : MemberSlot := { s with group := group }
  { g with memberSlots := modifyFirst (fun s => s.guid = guid) move g.memberSlots }

def changeMembersGroup (group : ℕ) : Group :=
  if !g.isRaidGroup then g
  else match g.getMemberSlot guid with
    | none => g
    | some slot =>
      if slot.group = group then g
      else
        ((g.moveSlot guid group).subGroupCounterIncrease group).subGroupCounterDecrease slot.group

/-- `WorldSession::HandleGroupChangeSubGroupOpcode`: the leader or an assistant moves a member
to a subgroup with a free place. -/
def handleGroupChangeSubGroup (sender guid : Guid) (groupNr : ℕ) : Group :=
  if groupNr ≥ maxRaidSubgroups then g
  else if !(g.isLeader sender || g.isAssistant sender) then g
  else if !g.hasFreeSlotSubGroup groupNr then g
  else g.changeMembersGroup guid groupNr

/-! ## Rolls -/

/-- The members who roll, in the order of their references: those who may loot the item and are
near it; `autoPass` are the players who pass on group loot. -/
def rollingPlayers (mayLoot autoPass : Guid → Bool) : List (Guid × Bool) :=
  (g.memberMgr.filter mayLoot).map fun guid => (guid, autoPass guid)

/-- One item of `Group::GroupLoot` or `Group::NeedBeforeGreed`: a roll over it, unless no
member rolls.  Nobody passes automatically on a quest item. -/
def startRoll (itemGUID : Guid) (loot : ℕ) (lootItemsEmpty : Bool)
    (mayLoot autoPass : Guid → Bool) : Group :=
  match g.rollingPlayers mayLoot autoPass with
  | [] => g
  | players => { g with rolls := g.rolls ++ [Roll.start itemGUID loot lootItemsEmpty players] }

/-- Is it the valid roll over the item? -/
def isRollOf (item : Guid) (r : Roll) : Bool := r.itemGUID == item && r.isValid

/-- **`Group::CountRollVote`**: a player's message on a roll.  The second component is the roll
when it is resolved early. -/
def countRollVote (player item : Guid) (rollType : BitVec 8) : Group × Option Roll :=
  match g.rolls.find? (isRollOf item) with
  | none => (g, none)
  | some roll =>
    match roll.playerVote.find? player with
    -- the player joined the group after the roll began
    | none => (g, none)
    | some _ =>
      if roll.lootItemsEmpty then (g, none)
      else
        let roll := roll.vote player rollType
        if roll.isComplete then
          ({ g with rolls := g.rolls.eraseP (isRollOf item) }, some roll)
        else
          ({ g with rolls := modifyFirst (isRollOf item) (·.vote player rollType) g.rolls }, none)

/-- The timer of a loot's rolls expires. -/
def endRoll (loot : ℕ) : Group :=
  { g with rolls := g.rolls.filter fun r => r.loot ≠ some loot }

/-- A deleted loot leaves its rolls without a target. -/
def invalidateLoot (loot : ℕ) : Group :=
  { g with rolls := g.rolls.map fun r => if r.loot = some loot then { r with loot := none } else r }

end Group

end TeraCore
