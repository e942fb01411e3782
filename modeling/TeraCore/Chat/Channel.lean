import Mathlib.Data.Finset.Insert
import Mathlib.Data.Finset.Erase
import TeraCore.Commons.OrderedMap

/-!
# Chat channels

A custom channel keeps its members, each with some flags, and the guid of its owner.  The first
who joins becomes the owner; when the owner leaves or is removed, another member does.  Moderators
kick and ban; the owner names another owner.

The entry of a member is looked up with an operator that inserts an entry where there is none.

## Main definitions

* `Channel`: a channel
* `Channel.answer`: what a request does, and the reply
* `Room`, `step`: a channel with those who are inside
-/

namespace TeraCore.Chat

open Commons

/-! ## Members -/

structure PlayerInfo where
  player : ℕ
  flags : BitVec 8
  deriving DecidableEq

instance : Inhabited PlayerInfo := ⟨⟨0, 0⟩⟩

namespace PlayerInfo

def MEMBER_FLAG_NONE : BitVec 8 := 0x00
def MEMBER_FLAG_OWNER : BitVec 8 := 0x01
def MEMBER_FLAG_MODERATOR : BitVec 8 := 0x02
def MEMBER_FLAG_MUTED : BitVec 8 := 0x08

variable (info : PlayerInfo)

/-- A flag is set or removed. -/
def withFlag (flag : BitVec 8) (state : Bool) : PlayerInfo :=
  { info with flags := if state then info.flags ||| flag else info.flags &&& ~~~flag }

def IsOwner : Bool := info.flags &&& MEMBER_FLAG_OWNER != 0
def SetOwner (state : Bool) : PlayerInfo :=
  info.withFlag MEMBER_FLAG_OWNER state

def IsModerator : Bool := info.flags &&& MEMBER_FLAG_MODERATOR != 0
def SetModerator (state : Bool) : PlayerInfo :=
  info.withFlag MEMBER_FLAG_MODERATOR state

def IsMuted : Bool := info.flags &&& MEMBER_FLAG_MUTED != 0
def SetMuted (state : Bool) : PlayerInfo :=
  info.withFlag MEMBER_FLAG_MUTED state

end PlayerInfo

/-! ## Players -/

/-- What a channel asks of a player. -/
structure ChatPlayer where
  guid : ℕ
  security : ℕ
  team : ℕ
  hasGroup : Bool

def IsPlayerAccount (gmlevel : ℕ) : Bool := decide (gmlevel = 0)

/-- From a game master up to the console. -/
def IsGMAccount (gmlevel : ℕ) : Bool := decide (2 ≤ gmlevel ∧ gmlevel ≤ 4)

/-- Who is in the world, and the settings of the server. -/
structure World where
  FindPlayer : ℕ → Option ChatPlayer
  FindPlayerByName : String → Option ChatPlayer
  /-- `CONFIG_RESTRICTED_LFG_CHANNEL` -/
  restrictedLfgChannel : Bool
  /-- `CONFIG_ALLOW_TWO_SIDE_INTERACTION_CHANNEL` -/
  twoSideInteraction : Bool

/-- The security of a player, that of a player's account when the player is not found. -/
def World.security (world : World) (guid : ℕ) : ℕ :=
  ((world.FindPlayer guid).map (·.security)).getD 0

/-- What a request comes to, for the one who makes it. -/
inductive Reply where
  | alreadyMember
  | banned
  | wrongPassword
  | notInLfg
  | notMember
  | notModerator
  | notOwner
  | playerNotFound
  /-- Nothing is said. -/
  | nothing
  | done
  | joined
  | left
  /-- A player was kicked or banned. -/
  | removed (guid : ℕ)
  deriving DecidableEq

/-! ## Channels -/

structure Channel where
  players : OrderedMap ℕ PlayerInfo
  banned : Finset ℕ
  m_ownership : Bool
  m_password : String
  m_flags : BitVec 8
  m_channelId : ℕ
  m_ownerGUID : ℕ

/-- What the database keeps of a custom channel. -/
structure SavedChannel where
  ownership : Bool
  password : String
  bannedList : List ℕ

namespace Channel

def CHANNEL_FLAG_CUSTOM : BitVec 8 := 0x01
def CHANNEL_FLAG_LFG : BitVec 8 := 0x40

/-- A custom channel that is made for its first member; it is loaded if it was saved. -/
def new (saved : Option SavedChannel) : Channel where
  players := .empty
  banned := ((saved.map (·.bannedList)).getD []).toFinset.erase 0
  m_ownership := (saved.map (·.ownership)).getD true
  m_password := (saved.map (·.password)).getD ""
  m_flags := CHANNEL_FLAG_CUSTOM
  m_channelId := 0
  m_ownerGUID := 0

variable (c : Channel)

def IsConstant : Bool := decide (c.m_channelId ≠ 0)
def HasFlag (flag : BitVec 8) : Bool := c.m_flags &&& flag != 0
def IsOn (who : ℕ) : Bool := c.players.contains who
def IsBanned (guid : ℕ) : Bool := decide (guid ∈ c.banned)

/-- `players[p]`, with a change of the entry; an entry that is not there is inserted first. -/
def modify (p : ℕ) (f : PlayerInfo → PlayerInfo) : Channel :=
  { c with players := c.players.set p (f (c.players.get p)) }

/-- `SetModerator`, for a guid. -/
def setModerator (p : ℕ) (set : Bool) : Channel :=
  if (c.players.get p).IsModerator ≠ set then c.modify p (·.SetModerator set) else c

/-- `SetMute`, for a guid. -/
def setMute (p : ℕ) (set : Bool) : Channel :=
  if (c.players.get p).IsMuted ≠ set then c.modify p (·.SetMuted set) else c

/-- **`SetOwner`**, for a guid. -/
def setOwner (guid : ℕ) : Channel :=
  let c :=
    if c.m_ownerGUID ≠ 0 then
      if c.IsOn c.m_ownerGUID then c.modify c.m_ownerGUID (·.SetOwner false) else c
    else c
  let c := { c with m_ownerGUID := guid }
  if guid ≠ 0 then (c.modify guid (·.SetModerator true)).modify guid (·.SetOwner true) else c

variable (world : World)

def join (p : ℕ) (pass : String) : Reply × Channel :=
  if c.IsOn p then (if c.IsConstant then .nothing else .alreadyMember, c)
  else if c.IsBanned p then (.banned, c)
  else if c.m_password ≠ "" ∧ pass ≠ c.m_password then (.wrongPassword, c)
  else if c.HasFlag CHANNEL_FLAG_LFG ∧ world.restrictedLfgChannel ∧
      (world.FindPlayer p).any (fun player => IsPlayerAccount player.security && player.hasGroup)
    then (.notInLfg, c)
  else
    let c := { c with players := c.players.set p ⟨p, PlayerInfo.MEMBER_FLAG_NONE⟩ }
    if !c.IsConstant ∧ c.m_ownerGUID = 0 ∧ c.m_ownership then
      (.joined, (c.setOwner p).modify p (·.SetModerator true))
    else (.joined, c)

def leave (p : ℕ) (send : Bool) : Reply × Channel :=
  if !c.IsOn p then (if send then .notMember else .nothing, c)
  else
    let changeowner := (c.players.get p).IsOwner
    let c := { c with players := c.players.erase p }
    if !c.IsConstant ∧ changeowner ∧ c.m_ownership then
      match c.players.entries with
      | [] => (.left, c)
      | first :: _ =>
        let newowner := first.2.player
        (.left, (c.modify newowner (·.SetModerator true)).setOwner newowner)
    else (.left, c)

/-- What a moderator may do: a member does it, who is a moderator or a game master. -/
def asModerator (good : ℕ) (act : Reply × Channel) : Reply × Channel :=
  if !c.IsOn good then (.notMember, c)
  else if !(c.players.get good).IsModerator ∧ !IsGMAccount (world.security good) then
    (.notModerator, c)
  else act

def kickOrBan (good : ℕ) (badname : String) (ban : Bool) : Reply × Channel :=
  c.asModerator world good <|
    match world.FindPlayerByName badname with
    | none => (.playerNotFound, c)
    | some bad =>
      if !c.IsOn bad.guid then (.playerNotFound, c)
      else if !IsGMAccount (world.security good) ∧ bad.guid = c.m_ownerGUID ∧
          good ≠ c.m_ownerGUID then
        (.notOwner, c)
      else
        let changeowner := decide (c.m_ownerGUID = bad.guid)
        let c := if ban then { c with banned := insert bad.guid c.banned } else c
        let c := { c with players := c.players.erase bad.guid }
        if changeowner ∧ c.m_ownership ∧ c.players.entries ≠ [] then
          (.removed bad.guid, (c.modify good (·.SetModerator true)).setOwner good)
        else (.removed bad.guid, c)

/-- **`UnBan`** -/
def unBan (good : ℕ) (badname : String) : Reply × Channel :=
  c.asModerator world good <|
    match world.FindPlayerByName badname with
    | none => (.playerNotFound, c)
    | some bad =>
      if !c.IsBanned bad.guid then (.playerNotFound, c)
      else (.done, { c with banned := c.banned.erase bad.guid })

def password (p : ℕ) (pass : String) : Reply × Channel :=
  c.asModerator world p (.done, { c with m_password := pass })

/-- **`SetMode`**: a moderator is made or unmade (`mod`), or a member is muted or unmuted. -/
def setMode (p : ℕ) (p2n : String) (mod set : Bool) : Reply × Channel :=
  match world.FindPlayer p with
  | none => (.nothing, c)
  | some player =>
    c.asModerator world p <|
      match world.FindPlayerByName p2n with
      | none => (.playerNotFound, c)
      | some newp =>
        if p = c.m_ownerGUID ∧ newp.guid = c.m_ownerGUID ∧ mod then (.nothing, c)
        else if !c.IsOn newp.guid then (.playerNotFound, c)
        else if (!IsGMAccount player.security ∨ !IsGMAccount newp.security) ∧
            player.team ≠ newp.team ∧ !world.twoSideInteraction then
          (.playerNotFound, c)
        else if c.m_ownerGUID = newp.guid ∧ c.m_ownerGUID ≠ p then (.notOwner, c)
        else if mod then (.done, c.setModerator newp.guid set)
        else (.done, c.setMute newp.guid set)

/-- **`SetOwner`**, for a name. -/
def setOwnerByName (p : ℕ) (newname : String) : Reply × Channel :=
  match world.FindPlayer p with
  | none => (.nothing, c)
  | some player =>
    if !c.IsOn p then (.notMember, c)
    else if !IsGMAccount player.security ∧ p ≠ c.m_ownerGUID then (.notOwner, c)
    else
      match world.FindPlayerByName newname with
      | none => (.playerNotFound, c)
      | some newp =>
        if !c.IsOn newp.guid then (.playerNotFound, c)
        else if newp.team ≠ player.team ∧ !world.twoSideInteraction then (.playerNotFound, c)
        else (.done, (c.modify newp.guid (·.SetModerator true)).setOwner newp.guid)

end Channel

/-! ## Requests -/

inductive Request where
  | join (p : ℕ) (pass : String)
  | leave (p : ℕ) (send : Bool)
  | kickOrBan (good : ℕ) (badname : String) (ban : Bool)
  | unBan (good : ℕ) (badname : String)
  | setOwner (p : ℕ) (newname : String)
  | setMode (p : ℕ) (p2n : String) (mod set : Bool)
  | password (p : ℕ) (pass : String)

/-- What a request comes to. -/
def Channel.answer (c : Channel) (world : World) : Request → Reply × Channel
  | .join p pass => c.join world p pass
  | .leave p send => c.leave p send
  | .kickOrBan good badname ban => c.kickOrBan world good badname ban
  | .unBan good badname => c.unBan world good badname
  | .setOwner p newname => c.setOwnerByName world p newname
  | .setMode p p2n mod set => c.setMode world p p2n mod set
  | .password p pass => c.password world p pass

/-- The channel, until it is deleted; who has joined and has not left since; and whom the last
request has kicked or banned. -/
structure Room where
  channel : Option Channel
  inside : Finset ℕ
  removed : Option ℕ

def Room.new (saved : Option SavedChannel) : Room := ⟨some (.new saved), ∅, none⟩

def Request.inside (inside : Finset ℕ) : Request → Reply → Finset ℕ
  | .join p _, .joined => insert p inside
  | .leave p _, .left => inside.erase p
  | _, .removed guid => inside.erase guid
  | _, _ => inside

def Reply.removed? : Reply → Option ℕ
  | .removed guid => some guid
  | _ => none

/-- `LeftChannel` of the manager, after a request to leave: a channel without members is
deleted. -/
def Request.leftChannel (c : Channel) : Request → Option Channel
  | .leave _ _ => if c.players.size = 0 ∧ !c.IsConstant then none else some c
  | _ => some c

def step (room : Room) (op : World × Request) : Room :=
  match room.channel with
  | none => { room with removed := none }
  | some c =>
    let (reply, c) := c.answer op.1 op.2
    ⟨op.2.leftChannel c, op.2.inside room.inside reply, reply.removed?⟩

end TeraCore.Chat
