import TeraCore.Guilds.Guild

/-!
# Guilds: the roster commands

The commands of a guild's members on the guild: the message of the day, invitations, removals,
promotions and demotions, notes, and the guild master's edit of a rank.  Every command but the
last is guarded by a right of the member's rank.

A command answers with the error it sends, if any, and the guild after it.  The commands that
find their player by name take what they read of that player.

## Main definitions

* `Guild.deleteMember`, `Guild.findNewLeader`: a member leaves
* `Guild.handleSetMOTD`, `Guild.handleInviteMember`, `Guild.handleRemoveMember`,
  `Guild.handleUpdateMemberRank`, `Guild.handleSetMemberNote`: the guarded commands
* `Guild.handleSetRankInfo`: the guild master's edit of a rank
-/

namespace TeraCore

open Commons

namespace Guild

/-! ## Members leaving -/

variable (g : Guild)

/-- The new leader takes the guild master's rank. -/
def setLeaderGUID (leader : Member) : Guild :=
  { g with leaderGuid := leader.guid }.setMember (leader.changeRank grGuildmaster)

/-- The first member of the highest rank, other than the one with number `lowguid`. -/
def findNewLeader (lowguid : ℕ) : Option Member :=
  g.members.entries.foldl (fun newLeader e =>
    if e.1 = lowguid then newLeader
    else match newLeader with
      | none => some e.2
      | some l => if e.2.rankId < l.rankId then some e.2 else some l) none

/-- **`Guild::DeleteMember`** outside a disbanding: `none` when the guild is left without
members and disbands. -/
def deleteMember (guid : Guid) : Option Guild :=
  let lowguid := guidLopart guid
  if g.leaderGuid = guid then
    match g.findNewLeader lowguid with
    | none => none
    | some newLeader =>
      let g := g.setLeaderGUID newLeader
      some { g with members := g.members.erase lowguid }
  else some { g with members := g.members.erase lowguid }

/-! ## The commands -/

variable (player : Guid)

def handleSetMOTD (motd : String) : Option GuildCommandError × Guild :=
  if g.motd = motd then (none, g)
  else if !g.hasRankRight player grRightSetmotd then (some .guildPermissions, g)
  else (none, { g with motd := motd })

/-- What an invitation reads of the invited player. -/
structure Invitee where
  ignoresInviter : Bool
  otherTeam : Bool
  inGuild : Bool
  guildIdInvited : ℕ
  deriving DecidableEq

/-- Invites a player: the invited player's pending guild becomes this one. `allowTwoSide` is the
server's setting for guilds across the two sides. -/
def handleInviteMember (allowTwoSide : Bool) (invitee : Option Invitee) :
    Option GuildCommandError × Option Invitee :=
  match invitee with
  | none => (some .guildPlayerNotFoundS, none)
  | some i =>
    if i.ignoresInviter then (none, some i)
    else if !allowTwoSide && i.otherTeam then (some .guildNotAllied, some i)
    else if i.inGuild then (some .alreadyInGuildS, some i)
    else if i.guildIdInvited ≠ 0 then (some .alreadyInvitedToGuildS, some i)
    else if !g.hasRankRight player grRightInvite then (some .guildPermissions, some i)
    else (none, some { i with guildIdInvited := g.id })

/-- Removes the named member, unless it is a guild master or ranks as high as the player.  The
guild is `none` when it disbands. -/
def handleRemoveMember (name : String) : Option GuildCommandError × Option Guild :=
  if !g.hasRankRight player grRightRemove then (some .guildPermissions, some g)
  else match g.getMemberByName name with
    | none => (none, some g)
    | some member =>
      if member.isRank grGuildmaster then (some .guildLeaderLeave, some g)
      else match g.getMember player with
        | none => (some .guildRankTooHighS, some g)
        | some memberMe =>
          if member.isRankNotLower memberMe.rankId then (some .guildRankTooHighS, some g)
          else (none, g.deleteMember member.guid)

/-- Promotes or demotes the named member by one rank. -/
def handleUpdateMemberRank (name : String) (demote : Bool) : Option GuildCommandError × Guild :=
  if !g.hasRankRight player (if demote then grRightDemote else grRightPromote) then
    (some .guildPermissions, g)
  else match g.getMemberByName name with
    | none => (none, g)
    | some member =>
      if member.isSamePlayer player then (some .guildNameInvalid, g)
      else match g.getMember player with
        -- the right was granted to a member
        | none => (none, g)
        | some memberMe =>
          if demote then
            if member.isRankNotLower memberMe.rankId then (some .guildRankTooHighS, g)
            else if g.getLowestRankId ≤ member.rankId then (some .guildRankTooLowS, g)
            else (none, g.setMember (member.changeRank (member.rankId + 1)))
          else if member.isRankNotLower (memberMe.rankId + 1) then (some .guildRankTooHighS, g)
          else (none, g.setMember (member.changeRank (member.rankId - 1)))

/-- Sets the public or the officer note of the named member. -/
def handleSetMemberNote (name note : String) (isPublic : Bool) : Option GuildCommandError × Guild :=
  if !g.hasRankRight player (if isPublic then grRightEpnote else grRightEoffnote) then
    (some .guildPermissions, g)
  else match g.getMemberByName name with
    | none => (none, g)
    | some member =>
      if isPublic then (none, g.setMember { member with publicNote := note })
      else (none, g.setMember { member with officerNote := note })

/-- Changes the rank with an id. -/
def setRankInfo (rankId : BitVec 8) (f : RankInfo → RankInfo) : Guild :=
  if rankId < g.getRanksSize then { g with ranks := g.ranks.modify rankId.toNat f } else g

/-- Stores one tab's values, if the tab has been bought. -/
def setRankBankTabRightsAndSlots (rankId : BitVec 8) (v : GuildBankRightsAndSlots) : Guild :=
  if v.tabId < g.getPurchasedTabsSize then
    g.setRankInfo rankId (·.setBankTabSlotsAndRights v)
  else g

/-- **`Guild::HandleSetRankInfo`**: the guild master's edit of a rank. -/
def handleSetRankInfo (rankId : BitVec 8) (name : String) (rights moneyPerDay : BitVec 32)
    (rightsAndSlots : List GuildBankRightsAndSlots) :
    Option GuildCommandError × Guild :=
  if !g.isLeader player then (some .guildPermissions, g)
  else match g.getRankInfo rankId with
    | none => (none, g)
    | some _ =>
      let g := g.setRankInfo rankId fun r =>
        ({ r with name := name }.setRights rights).setBankMoneyPerDay moneyPerDay
      (none, rightsAndSlots.foldl (fun g v => g.setRankBankTabRightsAndSlots rankId v) g)

end Guild

end TeraCore
