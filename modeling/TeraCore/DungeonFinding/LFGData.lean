import TeraCore.DungeonFinding.LFGQueue

/-!
# The dungeon finder's stores

The dungeon finder keeps a record for every player and every group: where it is, where it was
before it joined, and what it asked for.  Besides these it keeps a queue for each team, the live
proposals, the role checks of groups that want to join, and the votes to kick a player.

The group of a player stands in the player's record, and the members of a group in the group's:
these are the dungeon finder's copies of the membership, which its hooks keep up to date.

## Main results

* `LFGMgr.getState_setState`: the states after a change
* `LFGMgr.Restated.foldl`: a loop over players that changes their states
-/

namespace TeraCore

open Commons

/-- The dungeons a player may not enter, and why. -/
abbrev LfgLockMap := OrderedMap ℕ ℕ

/-! ## Players and groups -/

/-- **A player's record.** -/
structure LfgPlayerData where
  state : LfgState := .none
  /-- The state to go back to. -/
  oldState : LfgState := .none
  team : ℕ := 0
  /-- The player's group, 0 if there is none. -/
  group : Guid := 0
  roles : LfgRoles := 0
  selectedDungeons : LfgDungeonSet := OrderedSet.empty
  lockedDungeons : LfgLockMap := OrderedMap.empty

/-- The states a record goes back to. -/
def LfgState.isIdle : LfgState → Bool
  | none | dungeon | finishedDungeon => true
  | _ => false

namespace LfgPlayerData

def setState (data : LfgPlayerData) : LfgState → LfgPlayerData
  | .none =>
    { data with
      roles := 0, selectedDungeons := OrderedSet.empty, oldState := .none, state := .none }
  | .finishedDungeon =>
    { data with
      roles := 0, selectedDungeons := OrderedSet.empty
      oldState := .finishedDungeon, state := .finishedDungeon }
  | .dungeon => { data with oldState := .dungeon, state := .dungeon }
  | state => { data with state := state }

def clearState (data : LfgPlayerData) : LfgPlayerData :=
  { data with selectedDungeons := OrderedSet.empty, roles := 0, state := data.oldState }

variable (data : LfgPlayerData) (state : LfgState)

@[simp] theorem setState_state : (data.setState state).state = state := by cases state <;> rfl

@[simp] theorem setState_team : (data.setState state).team = data.team := by cases state <;> rfl

@[simp] theorem setState_group : (data.setState state).group = data.group := by cases state <;> rfl

theorem setState_oldState : (data.setState state).oldState =
    if state.isIdle then state else data.oldState := by
  cases state <;> rfl

end LfgPlayerData

/-- **A group's record.** -/
structure LfgGroupData where
  state : LfgState := .none
  /-- The state to go back to. -/
  oldState : LfgState := .none
  leader : Guid := 0
  /-- The dungeon the group is in, with its type. -/
  dungeon : ℕ := 0
  players : LfgGuidSet := OrderedSet.empty
  /-- Has the dungeon finder made the group? -/
  isLFGGroup : Bool := false
  /-- The votes that may still end with a kick. -/
  kicksLeft : ℕ := 3

namespace LfgGroupData

variable (data : LfgGroupData)

def decreaseKicksLeft : LfgGroupData :=
  { data with kicksLeft := data.kicksLeft - 1 }

/-- Has the group been in a dungeon? -/
def isLfgGroup : Bool := data.oldState ≠ .none

def setState (state : LfgState) : LfgGroupData :=
  { data with oldState := if state.isIdle then state else data.oldState, state := state }

def restoreState : LfgGroupData := { data with state := data.oldState }

/-- The group's dungeon, without its type. -/
def getDungeon : ℕ := data.dungeon % 2 ^ 24

end LfgGroupData

/-! ## Role checks and votes -/

inductive LfgRoleCheckState where
  | default
  | finished
  | initialiting
  | missingRole
  | wrongRoles
  | aborted
  | noRole
  deriving DecidableEq

/-- **The role check** of a group that wants to join. -/
structure LfgRoleCheck where
  cancelTime : ℕ := 0
  roles : LfgRolesMap := OrderedMap.empty
  state : LfgRoleCheckState := .default
  dungeons : LfgDungeonSet := OrderedSet.empty
  /-- The random dungeon asked for, 0 if none was. -/
  rDungeonId : ℕ := 0
  leader : Guid := 0

instance : Inhabited LfgRoleCheck := ⟨{}⟩

/-- **A vote to kick a player.** -/
structure LfgPlayerBoot where
  cancelTime : ℕ := 0
  inProgress : Bool := false
  votes : OrderedMap Guid LfgAnswer := OrderedMap.empty
  /-- Who is to be kicked. -/
  victim : Guid := 0

instance : Inhabited LfgPlayerBoot := ⟨{}⟩

/-! ## The stores -/

/-- **The dungeon finder.** -/
structure LFGMgr where
  queueTimer : ℕ := 0
  /-- Is the dungeon finder or the raid browser switched on? -/
  isOptionEnabled : Bool := true
  /-- The queues, by team. -/
  queues : OrderedMap ℕ LFGQueue := OrderedMap.empty
  proposals : ProposalPool := ProposalPool.empty
  roleChecks : OrderedMap Guid LfgRoleCheck := OrderedMap.empty
  boots : OrderedMap Guid LfgPlayerBoot := OrderedMap.empty
  players : Guid → LfgPlayerData := fun _ => {}
  groups : Guid → LfgGroupData := fun _ => {}
  /-- The number of the next group that is made. -/
  nextGroupId : ℕ := 1

namespace LFGMgr

variable (s : LFGMgr) (guid gguid : Guid)

/-- A player's record after a change. -/
def updatePlayer (f : LfgPlayerData → LfgPlayerData) : LFGMgr :=
  { s with players := Function.update s.players guid (f (s.players guid)) }

/-- A group's record after a change. -/
def updateGroup (f : LfgGroupData → LfgGroupData) : LFGMgr :=
  { s with groups := Function.update s.groups gguid (f (s.groups gguid)) }

def getState : LfgState :=
  if isGroup guid then (s.groups guid).state else (s.players guid).state

def setState (state : LfgState) : LFGMgr :=
  if isGroup guid then s.updateGroup guid (·.setState state)
  else s.updatePlayer guid (·.setState state)

def clearState : LFGMgr := s.updatePlayer guid (·.clearState)

def restoreState : LFGMgr := s.updateGroup gguid (·.restoreState)

def setRoles (roles : LfgRoles) : LFGMgr := s.updatePlayer guid ({ · with roles := roles })

def setSelectedDungeons (dungeons : LfgDungeonSet) : LFGMgr :=
  s.updatePlayer guid ({ · with selectedDungeons := dungeons })

def getGroup : Guid := (s.players guid).group

def setGroup : LFGMgr := s.updatePlayer guid ({ · with group := gguid })

def getTeam : ℕ := (s.players guid).team

def getPlayers : LfgGuidSet := (s.groups gguid).players

def addPlayerToGroup (gguid guid : Guid) : LFGMgr :=
  s.updateGroup gguid fun data => { data with players := data.players.insert guid }

def removePlayerFromGroup (gguid guid : Guid) : LFGMgr :=
  s.updateGroup gguid fun data => { data with players := data.players.erase guid }

def setLeader (leader : Guid) : LFGMgr := s.updateGroup gguid ({ · with leader := leader })

def setDungeon (dungeon : ℕ) : LFGMgr := s.updateGroup gguid ({ · with dungeon := dungeon })

def isLfgGroup : Bool := guid ≠ 0 && isGroup guid && (s.groups guid).isLfgGroup

/-! ## The queue of a guid -/

/-- The queue of a player or a group: that of the player's team, or of the first member's. -/
def queueId : ℕ :=
  if isGroup guid then
    match (s.getPlayers guid).elems with
    | [] => 0
    | pguid :: _ => if pguid ≠ 0 then s.getTeam pguid else 0
  else s.getTeam guid

/-- A team's queue. -/
def queue (team : ℕ) : LFGQueue := s.queues.get team

/-- A team's queue after a change. -/
def updateQueue (team : ℕ) (f : LFGQueue → LFGQueue) : LFGMgr :=
  { s with queues := s.queues.set team (f (s.queue team)) }

/-! ## The records after a change -/

variable {guid gguid}

@[simp] theorem updatePlayer_players (f : LfgPlayerData → LfgPlayerData) (j : Guid) :
    (s.updatePlayer guid f).players j = if j = guid then f (s.players guid) else s.players j :=
  Function.update_apply _ _ _ _

@[simp] theorem updateGroup_groups (f : LfgGroupData → LfgGroupData) (j : Guid) :
    (s.updateGroup gguid f).groups j = if j = gguid then f (s.groups gguid) else s.groups j :=
  Function.update_apply _ _ _ _

@[simp] theorem updatePlayer_groups (f : LfgPlayerData → LfgPlayerData) :
    (s.updatePlayer guid f).groups = s.groups := rfl

@[simp] theorem updateGroup_players (f : LfgGroupData → LfgGroupData) :
    (s.updateGroup gguid f).players = s.players := rfl

theorem getState_setState (guid : Guid) (state : LfgState) (j : Guid) :
    (s.setState guid state).getState j = if j = guid then state else s.getState j := by
  unfold setState getState
  by_cases hj : j = guid
  · subst hj
    cases hg : isGroup j <;> simp [LfgGroupData.setState]
  · cases hg : isGroup guid <;> simp [hj]

/-! ## Changes of states only -/

/-- **Only what records say about states, roles and dungeons is different**; a player who went
back to a state of rest still does. -/
structure Restated (s s' : LFGMgr) : Prop where
  isOptionEnabled : s'.isOptionEnabled = s.isOptionEnabled
  queues : s'.queues = s.queues
  proposals : s'.proposals = s.proposals
  roleChecks : s'.roleChecks = s.roleChecks
  boots : s'.boots = s.boots
  nextGroupId : s'.nextGroupId = s.nextGroupId
  group : ∀ p, s'.getGroup p = s.getGroup p
  team : ∀ p, s'.getTeam p = s.getTeam p
  members : ∀ g, s'.getPlayers g = s.getPlayers g
  oldState : ∀ p, (s.players p).oldState.isIdle = true → (s'.players p).oldState.isIdle = true

namespace Restated

variable {s} {s' s'' : LFGMgr}

theorem refl (s : LFGMgr) : Restated s s :=
  ⟨rfl, rfl, rfl, rfl, rfl, rfl, fun _ => rfl, fun _ => rfl, fun _ => rfl, fun _ h => h⟩

theorem trans (h : Restated s s') (h' : Restated s' s'') : Restated s s'' where
  isOptionEnabled := h'.isOptionEnabled.trans h.isOptionEnabled
  queues := h'.queues.trans h.queues
  proposals := h'.proposals.trans h.proposals
  roleChecks := h'.roleChecks.trans h.roleChecks
  boots := h'.boots.trans h.boots
  nextGroupId := h'.nextGroupId.trans h.nextGroupId
  group p := (h'.group p).trans (h.group p)
  team p := (h'.team p).trans (h.team p)
  members g := (h'.members g).trans (h.members g)
  oldState p hp := h'.oldState p (h.oldState p hp)

theorem foldl {α : Type*} {f : LFGMgr → α → LFGMgr} (h : ∀ s a, Restated s (f s a)) (l : List α)
    (s : LFGMgr) : Restated s (l.foldl f s) := by
  induction l generalizing s with
  | nil => exact refl s
  | cons a l ih => exact (h s a).trans (ih _)

theorem updatePlayer (s : LFGMgr) (guid : Guid) {f : LfgPlayerData → LfgPlayerData}
    (hgroup : ∀ d, (f d).group = d.group) (hteam : ∀ d, (f d).team = d.team)
    (hold : ∀ d, d.oldState.isIdle = true → (f d).oldState.isIdle = true) :
    Restated s (s.updatePlayer guid f) := by
  refine ⟨rfl, rfl, rfl, rfl, rfl, rfl, fun p => ?_, fun p => ?_, fun _ => rfl, fun p hp => ?_⟩
  · rw [getGroup, updatePlayer_players]
    split_ifs with h
    · rw [hgroup, h, getGroup]
    · rfl
  · rw [getTeam, updatePlayer_players]
    split_ifs with h
    · rw [hteam, h, getTeam]
    · rfl
  · rw [updatePlayer_players]
    split_ifs with h
    · exact hold _ (h ▸ hp)
    · exact hp

theorem updateGroup (s : LFGMgr) (gguid : Guid) {f : LfgGroupData → LfgGroupData}
    (hplayers : ∀ d, (f d).players = d.players) : Restated s (s.updateGroup gguid f) := by
  refine ⟨rfl, rfl, rfl, rfl, rfl, rfl, fun _ => rfl, fun _ => rfl, fun g => ?_, fun _ h => h⟩
  rw [getPlayers, updateGroup_groups]
  split_ifs with h
  · rw [hplayers, h, getPlayers]
  · rfl

theorem setState (s : LFGMgr) (guid : Guid) (state : LfgState) :
    Restated s (s.setState guid state) := by
  unfold LFGMgr.setState
  split_ifs
  · exact updateGroup s guid fun _ => rfl
  · refine updatePlayer s guid (by simp) (by simp) fun d hd => ?_
    rw [LfgPlayerData.setState_oldState]
    split_ifs with h
    · exact h
    · exact hd

theorem clearState (s : LFGMgr) (guid : Guid) : Restated s (s.clearState guid) :=
  updatePlayer s guid (fun _ => rfl) (fun _ => rfl) fun _ h => h

theorem restoreState (s : LFGMgr) (gguid : Guid) : Restated s (s.restoreState gguid) :=
  updateGroup s gguid fun _ => rfl

theorem setRoles (s : LFGMgr) (guid : Guid) (roles : LfgRoles) :
    Restated s (s.setRoles guid roles) :=
  updatePlayer s guid (fun _ => rfl) (fun _ => rfl) fun _ h => h

theorem setSelectedDungeons (s : LFGMgr) (guid : Guid) (dungeons : LfgDungeonSet) :
    Restated s (s.setSelectedDungeons guid dungeons) :=
  updatePlayer s guid (fun _ => rfl) (fun _ => rfl) fun _ h => h

end Restated

end LFGMgr

end TeraCore
