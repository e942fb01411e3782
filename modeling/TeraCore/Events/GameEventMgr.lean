import TeraCore.Commons.OrderedSet
import TeraCore.Commons.Run

/-!
# Game events

A game event changes the world while it is active: it gives quests to creatures and gameobjects,
puts items into the lists of vendors, and spawns creatures and gameobjects.  Its negative list names
what is spawned while it is not active.

An object that is to go is taken out of the world, where it could be found, and is put on a list; it
stays in the map until the next update.

## Main definitions

* `EventConfig`: what the events do, as it is loaded
* `EventWorld`: what they change
* `UpdateEventQuests`, `UpdateEventNPCVendor`, `GameEventSpawn`, `GameEventUnspawn`
* `StartEvent`, `StopEvent`
-/

namespace TeraCore.GameEvents

open Commons

/-- A creature or gameobject entry, and a quest. -/
abbrev QuestRelation : Type := ℕ × ℕ

structure VendorItem where
  item : ℕ
  maxcount : ℤ
  incrtime : ℕ
  ExtendedCost : ℕ
deriving DecidableEq

structure NPCVendorEntry where
  entry : ℕ
  item : ℕ
  maxcount : ℤ
  incrtime : ℕ
  ExtendedCost : ℕ
deriving DecidableEq

/-- **What the events do.**  Events are numbered from 1; the lists of guids have a negative number
for what is spawned while the event is not active. -/
structure EventConfig where
  /-- `mGameEvent.size()` -/
  size : ℕ
  mGameEventCreatureQuests : ℕ → List QuestRelation
  mGameEventGameObjectQuests : ℕ → List QuestRelation
  mGameEventVendors : ℕ → List NPCVendorEntry
  mGameEventCreatureGuids : ℤ → List ℕ
  mGameEventGameobjectGuids : ℤ → List ℕ
  /-- `GetCreatureData` is not null. -/
  hasCreatureData : ℕ → Bool
  /-- `GetGOData` is not null. -/
  hasGOData : ℕ → Bool
  /-- `isSpawnedByDefault` -/
  isSpawnedByDefault : ℕ → Bool

structure Spawn where
  /-- The guid is one of its cell's. -/
  grid : Bool
  inMap : ℕ
  /-- How many of them are on the list of what is to be removed. -/
  leaving : ℕ
  /-- `GetObjectInWorld` finds one of them. -/
  found : Bool
deriving DecidableEq

/-- No object, and none to come. -/
def Spawn.none : Spawn where
  grid := false
  inMap := 0
  leaving := 0
  found := false

/-- The objects that stay in the map. -/
def Spawn.spawned (s : Spawn) : ℕ := s.inMap - s.leaving

structure EventWorld where
  m_ActiveEvents : OrderedSet ℕ
  creatureQuests : List QuestRelation
  gameObjectQuests : List QuestRelation
  vendorItems : ℕ → List VendorItem
  creatures : ℕ → Spawn
  gameobjects : ℕ → Spawn

namespace EventConfig

variable (cfg : EventConfig)

/-- A list of guids, if the event's number is not out of range. -/
def guidsOf (guids : ℤ → List ℕ) (event_id : ℤ) : List ℕ :=
  let internal_event_id := (cfg.size : ℤ) + event_id - 1
  if internal_event_id < 0 ∨ 2 * (cfg.size : ℤ) - 1 ≤ internal_event_id then []
  else guids event_id

def creatureGuids : ℤ → List ℕ := cfg.guidsOf cfg.mGameEventCreatureGuids

def gameobjectGuids : ℤ → List ℕ := cfg.guidsOf cfg.mGameEventGameobjectGuids

end EventConfig

/-! ## Quests -/

variable (quests : ℕ → List QuestRelation) (active : OrderedSet ℕ)

/-- `hasCreatureQuestActiveEventExcept`, `hasGameObjectQuestActiveEventExcept`: the quest is one of
another active event's, for whatever creature. -/
def hasQuestActiveEventExcept (quest_id event_id : ℕ) : Bool :=
  active.elems.any fun e => e ≠ event_id && (quests e).any fun r => r.2 = quest_id

/-- What `UpdateEventQuests` makes of the relations of one kind. -/
def updateRelations (event_id : ℕ) (activate : Bool) (relations : List QuestRelation) :
    List QuestRelation :=
  (quests event_id).foldl (fun relations r =>
    if activate then relations ++ [r]
    else if hasQuestActiveEventExcept quests active r.2 event_id then relations
    -- one entry is erased, however many there are
    else relations.erase r) relations

/-! ## Vendors -/

variable (items : ℕ → List VendorItem) (v : NPCVendorEntry)

def AddVendorItem : ℕ → List VendorItem :=
  fun entry =>
    if entry = v.entry then items entry ++ [⟨v.item, v.maxcount, v.incrtime, v.ExtendedCost⟩]
    else items entry

/-- `RemoveVendorItem`: every item with the number goes. -/
def RemoveVendorItem : ℕ → List VendorItem :=
  fun entry =>
    if entry = v.entry then (items entry).filter fun i => i.item ≠ v.item else items entry

/-! ## Spawns -/

/-- How the objects of one kind come into the map. -/
structure SpawnRule where
  hasData : ℕ → Bool
  /-- `LoadCreatureFromDB` first looks for an object of the guid. -/
  looksFirst : Bool
  isSpawnedByDefault : ℕ → Bool

def EventConfig.creatureRule (cfg : EventConfig) : SpawnRule where
  hasData := cfg.hasCreatureData
  looksFirst := true
  isSpawnedByDefault _ := true

def EventConfig.gameobjectRule (cfg : EventConfig) : SpawnRule where
  hasData := cfg.hasGOData
  looksFirst := false
  isSpawnedByDefault := cfg.isSpawnedByDefault

variable (rule : SpawnRule)

/-- An object is loaded, and can be found. -/
def Spawn.load (guid : ℕ) (s : Spawn) : Spawn :=
  if rule.hasData guid then
    let s := { s with grid := true }
    if rule.looksFirst && s.found then s
    else if rule.isSpawnedByDefault guid then
      { s with inMap := s.inMap + 1, found := true }
    else s
  else s

/-- The object that is found is put on the list: `AddObjectToRemoveList` first removes it from the
world. -/
def Spawn.unload (guid : ℕ) (s : Spawn) : Spawn :=
  if rule.hasData guid then
    let s := { s with grid := false }
    if s.found then { s with leaving := s.leaving + 1, found := false } else s
  else s

/-- **`RemoveAllObjectsInRemoveList`** -/
def Spawn.update (s : Spawn) : Spawn := { s with inMap := s.inMap - s.leaving, leaving := 0 }

def spawnAll (guids : List ℕ) (objects : ℕ → Spawn) : ℕ → Spawn :=
  guids.foldl (fun objects guid => Function.update objects guid ((objects guid).load rule guid))
    objects

def unspawnAll (needed : ℕ → Bool) (guids : List ℕ) (objects : ℕ → Spawn) : ℕ → Spawn :=
  guids.foldl (fun objects guid =>
    if needed guid then objects
    else Function.update objects guid ((objects guid).unload rule guid)) objects

/-- `hasCreatureActiveEventExcept`, `hasGameObjectActiveEventExcept` -/
def hasActiveEventExcept (guids : ℤ → List ℕ) (active : OrderedSet ℕ) (guid event_id : ℕ) : Bool :=
  active.elems.any fun e => e ≠ event_id && (guids e).contains guid

namespace EventWorld

variable (cfg : EventConfig) (w : EventWorld)

variable (event_id : ℕ)

def UpdateEventQuests (activate : Bool) : EventWorld :=
  { w with
    creatureQuests :=
      updateRelations cfg.mGameEventCreatureQuests w.m_ActiveEvents event_id activate
      w.creatureQuests
    gameObjectQuests := updateRelations cfg.mGameEventGameObjectQuests w.m_ActiveEvents event_id
      activate w.gameObjectQuests }

def UpdateEventNPCVendor (activate : Bool) : EventWorld :=
  { w with
    vendorItems := (cfg.mGameEventVendors event_id).foldl (fun items v =>
      if activate then AddVendorItem items v else RemoveVendorItem items v) w.vendorItems }

def GameEventSpawn (event_id : ℤ) : EventWorld :=
  { w with
    creatures := spawnAll cfg.creatureRule (cfg.creatureGuids event_id) w.creatures
    gameobjects := spawnAll cfg.gameobjectRule (cfg.gameobjectGuids event_id) w.gameobjects }

/-- `GameEventUnspawn`: what another active event needs stays, unless it is a negative list. -/
def GameEventUnspawn (event_id : ℤ) : EventWorld :=
  { w with
    creatures := unspawnAll cfg.creatureRule
      (fun guid => 0 < event_id &&
        hasActiveEventExcept cfg.creatureGuids w.m_ActiveEvents guid event_id.toNat)
      (cfg.creatureGuids event_id) w.creatures
    gameobjects := unspawnAll cfg.gameobjectRule
      (fun guid => 0 < event_id &&
        hasActiveEventExcept cfg.gameobjectGuids w.m_ActiveEvents guid event_id.toNat)
      (cfg.gameobjectGuids event_id) w.gameobjects }

def ApplyNewEvent : EventWorld :=
  let w := w.GameEventSpawn cfg event_id
  let w := w.GameEventUnspawn cfg (-event_id)
  let w := w.UpdateEventQuests cfg event_id true
  w.UpdateEventNPCVendor cfg event_id true

def UnApplyEvent : EventWorld :=
  let w := w.GameEventUnspawn cfg event_id
  let w := w.GameEventSpawn cfg (-event_id)
  let w := w.UpdateEventQuests cfg event_id false
  w.UpdateEventNPCVendor cfg event_id false

def StartEvent : EventWorld :=
  ({ w with m_ActiveEvents := w.m_ActiveEvents.insert event_id }).ApplyNewEvent cfg event_id

def StopEvent : EventWorld :=
  ({ w with m_ActiveEvents := w.m_ActiveEvents.erase event_id }).UnApplyEvent cfg event_id

def updateMaps : EventWorld :=
  { w with
    creatures := fun guid => (w.creatures guid).update
    gameobjects := fun guid => (w.gameobjects guid).update }

end EventWorld

inductive EventOp where
  | start (event_id : ℕ)
  | stop (event_id : ℕ)
  | updateMaps

def step (cfg : EventConfig) (w : EventWorld) : EventOp → EventWorld
  | .start event_id => w.StartEvent cfg event_id
  | .stop event_id => w.StopEvent cfg event_id
  | .updateMaps => w.updateMaps

/-- The guid is in the positive list of an event. -/
def EventConfig.isListed (cfg : EventConfig) (guids : ℤ → List ℕ) (guid : ℕ) : Bool :=
  (List.range cfg.size).any fun e => 0 < e && (guids e).contains guid

/-- **The world before the first event starts.**  The objects of the positive lists do not come with
their grids. -/
def EventWorld.start (cfg : EventConfig) (base : EventWorld) : EventWorld :=
  { base with
    m_ActiveEvents := .empty
    creatures := fun guid =>
      if cfg.isListed cfg.creatureGuids guid then .none else base.creatures guid
    gameobjects := fun guid =>
      if cfg.isListed cfg.gameobjectGuids guid then .none else base.gameobjects guid }

end TeraCore.GameEvents
