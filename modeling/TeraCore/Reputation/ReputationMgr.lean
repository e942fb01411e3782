import Mathlib.Data.Rat.Init
import TeraCore.Commons.OrderedMap
import TeraCore.Commons.Run

/-!
# Reputation

The factions with which a player has a reputation are kept by the numbers of their places in the
client's list.  The standing is stored relative to a base, which depends on race and class.  Four
counters of eight bits say how many factions are visible, and with how many the player is honored,
revered and exalted.

A change of a reputation spills over to other factions: those that a table names, or the faction's
sub-factions, or its parent, or the other factions of the parent.  What is done in turn when quests
notice a change are further changes.

## Main definitions

* `FactionEntry`, `FactionStore`, `ReputationTables`, `FactionState`, `ReputationMgr`
* `ReputationToRank`, `GetRank`
* `Initialize`, `SetReputation`, `SetOneFactionReputation`, `SetVisible`, `SetAtWar`, `SetInactive`
* `step`
-/

namespace TeraCore.Reputation

open Commons

abbrev FACTION_FLAG_VISIBLE : BitVec 8 := 0x01

abbrev FACTION_FLAG_AT_WAR : BitVec 8 := 0x02

abbrev FACTION_FLAG_HIDDEN : BitVec 8 := 0x04

abbrev FACTION_FLAG_INVISIBLE_FORCED : BitVec 8 := 0x08

abbrev FACTION_FLAG_PEACE_FORCED : BitVec 8 := 0x10

abbrev FACTION_FLAG_INACTIVE : BitVec 8 := 0x20

abbrev FACTION_FLAG_SPECIAL : BitVec 8 := 0x80

inductive ReputationRank where
  | HATED | HOSTILE | UNFRIENDLY | NEUTRAL | FRIENDLY | HONORED | REVERED | EXALTED
deriving DecidableEq

/-- The number of a rank. -/
def ReputationRank.num : ReputationRank → ℕ
  | HATED => 0
  | HOSTILE => 1
  | UNFRIENDLY => 2
  | NEUTRAL => 3
  | FRIENDLY => 4
  | HONORED => 5
  | REVERED => 6
  | EXALTED => 7

abbrev Reputation_Cap : ℤ := 42999

abbrev Reputation_Bottom : ℤ := -42000

/-- The ranks from the highest on, with `PointsInRank`. -/
def PointsInRank : List (ReputationRank × ℤ) :=
  [(.EXALTED, 1000), (.REVERED, 21000), (.HONORED, 12000), (.FRIENDLY, 6000), (.NEUTRAL, 3000),
    (.UNFRIENDLY, 3000), (.HOSTILE, 3000), (.HATED, 36000)]

/-- The loop of `ReputationToRank`. -/
def rankBelow (standing limit : ℤ) : List (ReputationRank × ℤ) → ReputationRank
  | [] => .HATED
  | (rank, points) :: ranks =>
    if limit - points ≤ standing then rank else rankBelow standing (limit - points) ranks

def ReputationToRank (standing : ℤ) : ReputationRank :=
  rankBelow standing (Reputation_Cap + 1) PointsInRank

/-! ## Tables -/

/-- A row of the factions' table. -/
structure FactionEntry where
  ID : ℕ
  reputationListID : ℤ
  BaseRepRaceMask : Fin 4 → BitVec 32
  BaseRepClassMask : Fin 4 → BitVec 32
  BaseRepValue : Fin 4 → ℤ
  ReputationFlags : Fin 4 → BitVec 32
  team : ℕ
  spilloverRateIn : ℚ
  spilloverRateOut : ℚ
  spilloverMaxRankIn : ℕ

def FactionEntry.CanHaveReputation (f : FactionEntry) : Bool := 0 ≤ f.reputationListID

/-- **The factions' table**: ids differ, and so do the numbers in the client's list. -/
structure FactionStore where
  rows : List FactionEntry
  id_nodup : (rows.map (·.ID)).Nodup
  list_nodup : ((rows.filter (·.CanHaveReputation)).map (·.reputationListID)).Nodup

namespace FactionStore

variable (store : FactionStore)

def LookupEntry (id : ℕ) : Option FactionEntry := store.rows.find? fun f => f.ID = id

/-- The factions of a parent; none when there are none. -/
def GetFactionTeamList (team : ℕ) : Option (List ℕ) :=
  match (store.rows.filter fun f => f.team = team ∧ team ≠ 0).map (·.ID) with
  | [] => none
  | ids => some ids

end FactionStore

abbrev MAX_SPILLOVER_FACTIONS : ℕ := 4

/-- A faction to which a reputation spills over, with its rate and the highest rank that profits. -/
structure SpilloverFaction where
  faction : ℕ
  faction_rate : ℚ
  faction_rank : ℕ

structure ReputationTables where
  sFactionStore : FactionStore
  GetRepSpilloverTemplate : ℕ → Option (Fin MAX_SPILLOVER_FACTIONS → SpilloverFaction)
  /-- `RATE_REPUTATION_GAIN` -/
  rate : ℚ

structure Character where
  raceMask : BitVec 32
  classMask : BitVec 32

/-- The first of the four values of a faction that is for the player's race and class. -/
def FactionEntry.valueFor (f : FactionEntry) (player : Character) : Option (Fin 4) :=
  (List.finRange 4).find? fun i =>
    (f.BaseRepRaceMask i &&& player.raceMask != 0 ||
      f.BaseRepRaceMask i == 0 && f.BaseRepClassMask i != 0) &&
    (f.BaseRepClassMask i &&& player.classMask != 0 || f.BaseRepClassMask i == 0)

variable (player : Character) (f : FactionEntry)

def GetBaseReputation : ℤ :=
  ((f.valueFor player).map f.BaseRepValue).getD 0

def GetBaseRank : ReputationRank :=
  ReputationToRank (GetBaseReputation player f)

/-- `GetDefaultStateFlags`, of which eight bits are stored. -/
def GetDefaultStateFlags : BitVec 8 :=
  (((f.valueFor player).map f.ReputationFlags).getD 0).setWidth 8

/-! ## The player's factions -/

structure FactionState where
  ID : ℕ
  ReputationListID : ℕ
  Standing : ℤ
  Flags : BitVec 8
deriving DecidableEq

def FactionState.hasFlag (f : FactionState) (flag : BitVec 8) : Bool := f.Flags &&& flag != 0

/-- **What a player has of reputation.** -/
structure ReputationMgr where
  _factions : OrderedMap ℕ FactionState
  _visibleFactionCount : BitVec 8
  _honoredFactionCount : BitVec 8
  _reveredFactionCount : BitVec 8
  _exaltedFactionCount : BitVec 8
  /-- The factions whose standing was ever set. -/
  touched : List ℕ
  /-- The factions whose standing was set in the last call. -/
  justSet : List ℕ

def countRank (least : ReputationRank) (old_rank new_rank : ReputationRank) (count : BitVec 8) :
    BitVec 8 :=
  let count := if least.num ≤ old_rank.num then count - 1 else count
  if least.num ≤ new_rank.num then count + 1 else count

/-- A rational number without its fraction. -/
def truncate (x : ℚ) : ℤ := if 0 ≤ x then x.floor else x.ceil

namespace ReputationMgr

variable (tables : ReputationTables) (player : Character) (m : ReputationMgr)

/-- The place of a faction in the client's list. -/
def listId (f : FactionEntry) : ℕ := f.reputationListID.toNat

def GetState (f : FactionEntry) : Option FactionState :=
  if f.CanHaveReputation then m._factions.find? (listId f) else none

def GetReputation (f : FactionEntry) : ℤ :=
  match m.GetState f with
  | some state => GetBaseReputation player f + state.Standing
  | none => 0

def GetRank (f : FactionEntry) : ReputationRank := ReputationToRank (m.GetReputation player f)

/-- `GetReputationRank` of the player. -/
def GetReputationRank (id : ℕ) : ReputationRank :=
  match tables.sFactionStore.LookupEntry id with
  | some f => m.GetRank player f
  | none => ReputationToRank 0

def UpdateRankCounters (old_rank new_rank : ReputationRank) : ReputationMgr :=
  { m with
    _exaltedFactionCount := countRank .EXALTED old_rank new_rank m._exaltedFactionCount
    _reveredFactionCount := countRank .REVERED old_rank new_rank m._reveredFactionCount
    _honoredFactionCount := countRank .HONORED old_rank new_rank m._honoredFactionCount }

/-- A turn of the loop of `Initialize`. -/
def initFaction (m : ReputationMgr) (f : FactionEntry) : ReputationMgr :=
  if f.ID ≠ 0 ∧ f.CanHaveReputation then
    let flags := GetDefaultStateFlags player f
    let m := if flags &&& FACTION_FLAG_VISIBLE != 0 then
        { m with _visibleFactionCount := m._visibleFactionCount + 1 }
      else m
    let m := m.UpdateRankCounters .HOSTILE (GetBaseRank player f)
    { m with _factions := m._factions.set (listId f) ⟨f.ID, listId f, 0, flags⟩ }
  else m

def Initialize : ReputationMgr :=
  tables.sFactionStore.rows.foldl (initFaction player) ⟨.empty, 0, 0, 0, 0, [], []⟩

/-! ## Flags -/

/-- `SetVisible` of a state, which is stored under a number. -/
def setVisible (id : ℕ) (faction : FactionState) : ReputationMgr :=
  if (faction.hasFlag FACTION_FLAG_INVISIBLE_FORCED || faction.hasFlag FACTION_FLAG_HIDDEN) &&
      !faction.hasFlag FACTION_FLAG_SPECIAL then m
  else if faction.hasFlag FACTION_FLAG_VISIBLE then m
  else
    { m with
      _factions := m._factions.set id { faction with
        Flags := faction.Flags ||| FACTION_FLAG_VISIBLE }
      _visibleFactionCount := m._visibleFactionCount + 1 }

def SetVisible (f : FactionEntry) : ReputationMgr :=
  match m.GetState f with
  | none => m
  | some faction => m.setVisible (listId f) faction

/-- `SetAtWar` of a state. -/
def atWar (faction : FactionState) (atWar : Bool) : FactionState :=
  if atWar && faction.hasFlag FACTION_FLAG_PEACE_FORCED then faction
  else if atWar then { faction with Flags := faction.Flags ||| FACTION_FLAG_AT_WAR }
  else { faction with Flags := faction.Flags &&& ~~~FACTION_FLAG_AT_WAR }

def SetAtWar (repListID : ℕ) (on : Bool) : ReputationMgr :=
  match m._factions.find? repListID with
  | none => m
  | some faction =>
    if faction.hasFlag FACTION_FLAG_INVISIBLE_FORCED || faction.hasFlag FACTION_FLAG_HIDDEN then m
    else { m with _factions := m._factions.set repListID (atWar faction on) }

/-- `SetInactive` of a state. -/
def inactive (faction : FactionState) (inactive : Bool) : FactionState :=
  if inactive && (faction.hasFlag FACTION_FLAG_INVISIBLE_FORCED ||
      faction.hasFlag FACTION_FLAG_HIDDEN || !faction.hasFlag FACTION_FLAG_VISIBLE) then faction
  else if inactive then { faction with Flags := faction.Flags ||| FACTION_FLAG_INACTIVE }
  else { faction with Flags := faction.Flags &&& ~~~FACTION_FLAG_INACTIVE }

def SetInactive (repListID : ℕ) (on : Bool) : ReputationMgr :=
  match m._factions.find? repListID with
  | none => m
  | some faction => { m with _factions := m._factions.set repListID (inactive faction on) }

/-! ## Standings -/

/-- The standing that is set: the sum with what there is when it is an increment, within bounds. -/
def newStanding (f : FactionEntry) (old standing : ℤ) (incremental : Bool) : ℤ :=
  let standing := if incremental then
      (standing * tables.rate + 1 / 2 : ℚ).floor + old + GetBaseReputation player f
    else standing
  if Reputation_Cap < standing then Reputation_Cap
  else if standing < Reputation_Bottom then Reputation_Bottom
  else standing

/-- The faction is at war when the rank is hostile or worse. -/
def warByRank (id : ℕ) (new_rank : ReputationRank) : ReputationMgr :=
  if new_rank.num ≤ ReputationRank.HOSTILE.num then
    match m._factions.find? id with
    | none => m
    | some faction => { m with _factions := m._factions.set id (atWar faction true) }
  else m

/-- **`SetOneFactionReputation`** -/
def SetOneFactionReputation (f : FactionEntry) (standing : ℤ) (incremental : Bool) :
    ReputationMgr :=
  match m.GetState f with
  | none => m
  | some faction =>
    let BaseRep := GetBaseReputation player f
    let standing := newStanding tables player f faction.Standing standing incremental
    let old_rank := ReputationToRank (faction.Standing + BaseRep)
    let new_rank := ReputationToRank standing
    let faction := { faction with Standing := standing - BaseRep }
    let m := { m with
      _factions := m._factions.set (listId f) faction
      touched := listId f :: m.touched
      justSet := listId f :: m.justSet }
    ((m.setVisible (listId f) faction).warByRank (listId f) new_rank).UpdateRankCounters
      old_rank new_rank

/-- A spillover that a table names. -/
def spillTemplate (standing : ℤ) (incremental : Bool) (m : ReputationMgr) (s : SpilloverFaction) :
    ReputationMgr :=
  if s.faction ≠ 0 ∧ (m.GetReputationRank tables player s.faction).num ≤ s.faction_rank then
    match tables.sFactionStore.LookupEntry s.faction with
    | none => m
    | some f => m.SetOneFactionReputation tables player f (truncate (standing * s.faction_rate))
        incremental
  else m

def spillTeam (factionEntry : FactionEntry) (spillOverRepOut : ℚ) (incremental : Bool)
    (m : ReputationMgr) (id : ℕ) : ReputationMgr :=
  match tables.sFactionStore.LookupEntry id with
  | none => m
  | some f =>
    if f.ID = factionEntry.ID ∨ f.spilloverMaxRankIn < (m.GetRank player f).num then m
    else
      let spilloverRep := truncate (spillOverRepOut * f.spilloverRateIn)
      if spilloverRep ≠ 0 ∨ !incremental then
        m.SetOneFactionReputation tables player f spilloverRep incremental
      else m

/-- The spillover of the factions' own table. -/
def spillover (f : FactionEntry) (standing : ℤ) (incremental : Bool) : ReputationMgr :=
  match tables.sFactionStore.GetFactionTeamList f.ID with
  | some flist => flist.foldl (spillTeam tables player f standing incremental) m
  | none =>
    if f.team ≠ 0 ∧ f.spilloverRateOut ≠ 0 then
      let spillOverRepOut := standing * f.spilloverRateOut
      match tables.sFactionStore.LookupEntry f.team with
      | none => m
      | some parent =>
        if (m.GetState parent).any (·.hasFlag FACTION_FLAG_SPECIAL) then
          m.SetOneFactionReputation tables player parent (truncate spillOverRepOut) incremental
        else
          ((tables.sFactionStore.GetFactionTeamList f.team).getD []).foldl
            (spillTeam tables player f spillOverRepOut incremental) m
    else m

/-- **`SetReputation`**, after the scripts have had their say about the standing. -/
def SetReputation (f : FactionEntry) (standing : ℤ) (incremental : Bool) : ReputationMgr :=
  let m := match tables.GetRepSpilloverTemplate f.ID with
    | some repTemplate =>
      (List.finRange MAX_SPILLOVER_FACTIONS).foldl
        (fun m i => spillTemplate tables player standing incremental m (repTemplate i)) m
    | none => m.spillover tables player f standing incremental
  m.SetOneFactionReputation tables player f standing incremental

end ReputationMgr

/-! ## Steps -/

/-- The calls; a faction is named by its id. -/
inductive Op where
  | setReputation (faction : ℕ) (standing : ℤ) (incremental : Bool)
  | setOneFactionReputation (faction : ℕ) (standing : ℤ) (incremental : Bool)
  | setVisible (faction : ℕ)
  | setAtWar (repListID : ℕ) (on : Bool)
  | setInactive (repListID : ℕ) (on : Bool)

/-- **A call.** -/
def step (tables : ReputationTables) (player : Character) (m : ReputationMgr) (op : Op) :
    ReputationMgr :=
  let m := { m with justSet := [] }
  match op with
  | .setReputation faction standing incremental =>
    match tables.sFactionStore.LookupEntry faction with
    | none => m
    | some f => m.SetReputation tables player f standing incremental
  | .setOneFactionReputation faction standing incremental =>
    match tables.sFactionStore.LookupEntry faction with
    | none => m
    | some f => m.SetOneFactionReputation tables player f standing incremental
  | .setVisible faction =>
    match tables.sFactionStore.LookupEntry faction with
    | none => m
    | some f => m.SetVisible f
  | .setAtWar repListID on => m.SetAtWar repListID on
  | .setInactive repListID on => m.SetInactive repListID on

end TeraCore.Reputation
