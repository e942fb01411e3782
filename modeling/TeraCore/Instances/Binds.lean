import TeraCore.Instances.InstanceSaveMgr

/-!
# Instances: who is bound to them

A player is bound to an instance, or the group of the player is.  The bind is in the maps of the
player or the group, by difficulty and map, and refers to the save of the instance.  The save lists
the players and groups that are bound to it.

A save whose lists get empty is destroyed from inside the removal, unless the lists are locked, as
they are while the save is being reset.

A save is named by its address.  Addresses are not used again, so that a bind to a save that was
destroyed can be told from one to a new save.  A step that uses a save that was destroyed, or that
destroys one that is still listed as bound, has no result.

## Main definitions

* `Holder`: who is bound, a player or a group
* `BindWorld`: the saves, and the binds
* `BindWorld.bindToInstance`, `BindWorld.unbindInstance`: of a player or a group
* `BindWorld.resetSave`: everyone is unbound, and the save is destroyed
-/

namespace TeraCore

open Commons

inductive Holder
  | player (guid : ℕ)
  | group (id : ℕ)
  deriving DecidableEq

/-- A save in memory. -/
structure BoundSave extends InstanceSave where
  instanceId : ℕ
  canReset : Bool
  playerList : List ℕ
  groupList : List ℕ
  deriving DecidableEq

namespace BoundSave

variable (save : BoundSave)

/-- How often a holder is in the list of its kind. -/
def count : Holder → ℕ
  | .player guid => save.playerList.count guid
  | .group id => save.groupList.count id

/-- `AddPlayer`, `AddGroup` -/
def add : Holder → BoundSave
  | .player guid => { save with playerList := save.playerList ++ [guid] }
  | .group id => { save with groupList := save.groupList ++ [id] }

/-- `list.remove` of a player or a group -/
def remove : Holder → BoundSave
  | .player guid => { save with playerList := save.playerList.filter (· ≠ guid) }
  | .group id => { save with groupList := save.groupList.filter (· ≠ id) }

/-- Both lists are empty. -/
def isEmpty : Bool := save.playerList.isEmpty && save.groupList.isEmpty

end BoundSave

/-- `InstancePlayerBind`, `InstanceGroupBind` -/
structure InstanceBind where
  save : ℕ
  perm : Bool
  deriving DecidableEq

structure BindWorld where
  /-- The saves in memory, by their addresses. -/
  saves : OrderedMap ℕ BoundSave
  instanceSaveById : OrderedMap ℕ ℕ
  /-- The binds of a holder, by difficulty and map. -/
  boundInstances : Holder → ℕ → OrderedMap ℕ InstanceBind
  /-- Is the group one of a battleground or a battlefield? -/
  isBGGroup : ℕ → Bool
  lockInstLists : Bool
  nextSave : ℕ

namespace BindWorld

/-- The server starts without saves. -/
def start (isBGGroup : ℕ → Bool) : BindWorld :=
  ⟨OrderedMap.empty, OrderedMap.empty, fun _ _ => OrderedMap.empty, isBGGroup, false, 0⟩

variable (w : BindWorld)

variable (address : ℕ)

def setSave (save : BoundSave) : BindWorld :=
  { w with saves := w.saves.set address save }

variable (holder : Holder)

def setBound (difficulty : ℕ) (binds : OrderedMap ℕ InstanceBind) : BindWorld :=
  { w with
    boundInstances := fun holder' difficulty' =>
      if holder' = holder ∧ difficulty' = difficulty then binds
      else w.boundInstances holder' difficulty' }

/-- `delete`, which asserts that nobody is listed. -/
def destroy : Option BindWorld :=
  match w.saves.find? address with
  | none => none
  | some save => if save.isEmpty then some { w with saves := w.saves.erase address } else none

def removeInstanceSave (instanceId : ℕ) : Option BindWorld :=
  match w.instanceSaveById.find? instanceId with
  | none => some w
  | some address => (w.destroy address).map fun w =>
      { w with instanceSaveById := w.instanceSaveById.erase instanceId }

def unloadIfEmpty (save : BoundSave) : Option BindWorld :=
  if save.isEmpty && !w.lockInstLists then w.removeInstanceSave save.instanceId else some w

/-- `InstanceSave::RemovePlayer`, `InstanceSave::RemoveGroup` -/
def removeHolder : Option BindWorld :=
  match w.saves.find? address with
  | none => none
  | some save => (w.setSave address (save.remove holder)).unloadIfEmpty (save.remove holder)

/-- `InstanceSave::AddPlayer`, `InstanceSave::AddGroup` -/
def addHolder : Option BindWorld :=
  (w.saves.find? address).map fun save => w.setSave address (save.add holder)

/-- **`UnbindInstance`** of a player or a group. -/
def unbindInstance (mapid difficulty : ℕ) : Option BindWorld :=
  match (w.boundInstances holder difficulty).find? mapid with
  | none => some w
  | some bind => (w.removeHolder bind.save holder).map fun w =>
      w.setBound holder difficulty ((w.boundInstances holder difficulty).erase mapid)

/-- `SetCanReset(false)`, which only players do. -/
def forbidReset (permanent : Bool) : BindWorld :=
  match holder, w.saves.find? address with
  | .player _, some save =>
    if permanent then w.setSave address { save with canReset := false } else w
  | _, _ => w

/-- The lists change when the holder is not bound to the save yet. -/
def rebind (old : Option ℕ) (address : ℕ) : Option BindWorld :=
  match old with
  | none => w.addHolder address holder
  | some old =>
    if old = address then some w
    else (w.removeHolder old holder).bind fun w => w.addHolder address holder

/-- **`BindToInstance`** of a player or a group. -/
def bindToInstance (save? : Option ℕ) (permanent : Bool) : Option BindWorld :=
  match save?, holder with
  | none, _ => some w
  | some address, holder =>
    if (match holder with | .player _ => false | .group id => w.isBGGroup id) then some w
    else match w.saves.find? address with
      | none => none
      | some save =>
        let bind := (w.boundInstances holder save.difficulty).find? save.mapid
        (w.rebind holder (bind.map InstanceBind.save) address).map fun w =>
          let w := w.forbidReset address holder permanent
          w.setBound holder save.difficulty
            ((w.boundInstances holder save.difficulty).set save.mapid ⟨address, permanent⟩)

/-- `AddInstanceSave`, of a map and a difficulty that exist. -/
def addInstanceSave (mapid instanceId difficulty : ℕ) (canReset : Bool) : BindWorld :=
  if w.instanceSaveById.contains instanceId || instanceId == 0 then w
  else
    { w with
      saves := w.saves.set w.nextSave
        { mapid, difficulty, instanceId, canReset, playerList := [], groupList := [] }
      instanceSaveById := w.instanceSaveById.set instanceId w.nextSave
      nextSave := w.nextSave + 1 }

/-! ## A reset -/

/-- The loop of `_ResetSave` over the players or the groups, to a number of turns. -/
def unbindAll (list : BoundSave → List ℕ) (holder : ℕ → Holder) (address : ℕ) :
    ℕ → BindWorld → Option BindWorld
  | 0, _ => none
  | turns + 1, w =>
    match w.saves.find? address with
    | none => none
    | some save =>
      match list save with
      | [] => some w
      | first :: _ =>
        (w.unbindInstance (holder first) save.mapid save.difficulty).bind
          (unbindAll list holder address turns)

/-- The loop over the players, which takes at most a turn for each. -/
def unbindPlayers : Option BindWorld :=
  match w.saves.find? address with
  | none => none
  | some save => unbindAll BoundSave.playerList .player address (save.playerList.length + 1) w

/-- The loop over the groups, which takes at most a turn for each. -/
def unbindGroups : Option BindWorld :=
  match w.saves.find? address with
  | none => none
  | some save => unbindAll BoundSave.groupList .group address (save.groupList.length + 1) w

/-- **`_ResetSave`** of a save that is registered. -/
def resetSave (instanceId : ℕ) : Option BindWorld :=
  match w.instanceSaveById.find? instanceId with
  | none => none
  | some address => do
    let w ← { w with lockInstLists := true }.unbindPlayers address
    let w ← w.unbindGroups address
    let w ← w.destroy address
    some { w with
      instanceSaveById := w.instanceSaveById.erase instanceId
      lockInstLists := false }

/-! ## Runs -/

inductive Op
  | addInstanceSave (mapid instanceId difficulty : ℕ) (canReset : Bool)
  | bindToInstance (holder : Holder) (save? : Option ℕ) (permanent : Bool)
  | unbindInstance (holder : Holder) (mapid difficulty : ℕ)
  | resetSave (instanceId : ℕ)
  deriving DecidableEq

def step : Op → Option BindWorld
  | .addInstanceSave mapid instanceId difficulty canReset =>
    some (w.addInstanceSave mapid instanceId difficulty canReset)
  | .bindToInstance holder save? permanent => w.bindToInstance holder save? permanent
  | .unbindInstance holder mapid difficulty => w.unbindInstance holder mapid difficulty
  | .resetSave instanceId => w.resetSave instanceId

/-- What the callers see to: they bind to a save that is in memory, and reset one that is
registered. -/
def Allowed : Op → Prop
  | .bindToInstance _ (some address) _ => w.saves.contains address = true
  | .resetSave instanceId => w.instanceSaveById.contains instanceId = true
  | _ => True

instance (w : BindWorld) : ∀ op, Decidable (w.Allowed op)
  | .addInstanceSave .. => .isTrue trivial
  | .bindToInstance _ none _ => .isTrue trivial
  | .bindToInstance _ (some address) _ =>
    inferInstanceAs (Decidable (w.saves.contains address = true))
  | .unbindInstance .. => .isTrue trivial
  | .resetSave instanceId =>
    inferInstanceAs (Decidable (w.instanceSaveById.contains instanceId = true))

end BindWorld

end TeraCore
