import TeraCore.Commons.OrderedMap
import TeraCore.Commons.OrderedSet
import Mathlib.Algebra.Ring.Int.Defs

/-!
# Pools

A pool holds creatures, gameobjects, other pools and quests, and lets only some of them be
spawned at a time.  Which are is drawn at random, and drawn again when a creature or a gameobject
is ready to respawn.

One map counts the spawned members of every pool, and its keys are the spawned pools.  The tables
of the pools do not change once they are loaded.  What the manager does is therefore a function
of them, of what is spawned, and of the rolls to come; with the rolls come the rows that the
database has saved for a pool of quests.  A pool of pools is spawned and despawned by recursion:
`none` is a recursion that goes deeper than there are pools.

## Main definitions

* `ActivePoolData`: the spawned objects, and the counters
* `PoolGroup`: the members of one kind of a pool, and how they are drawn
* `PoolMgr`: the tables
* `PoolMgr.spawnPool`, `PoolMgr.despawnPool`, `PoolMgr.updatePool`: the operations
-/

namespace TeraCore

open Commons

/-- What a pool can hold. -/
inductive PoolKind where
  | creature
  | gameobject
  | pool
  | quest
  deriving DecidableEq

/-! ## What is spawned -/

structure ActivePoolData where
  mSpawnedCreatures : OrderedSet ℕ
  mSpawnedGameobjects : OrderedSet ℕ
  mActiveQuests : OrderedSet ℕ
  mSpawnedPools : OrderedMap ℕ (BitVec 32)

namespace ActivePoolData

def empty : ActivePoolData := ⟨OrderedSet.empty, OrderedSet.empty, OrderedSet.empty,
  OrderedMap.empty⟩

variable (s : ActivePoolData)

/-- The number of spawned objects and pools of a pool, zero for one without a counter. -/
def getActiveObjectCount (poolId : ℕ) : BitVec 32 :=
  (s.mSpawnedPools.find? poolId).getD 0

def isActiveObject : PoolKind → ℕ → Bool
  | .creature, guid => guid ∈ s.mSpawnedCreatures
  | .gameobject, guid => guid ∈ s.mSpawnedGameobjects
  | .pool, guid => s.mSpawnedPools.contains guid
  | .quest, guid => guid ∈ s.mActiveQuests

/-- `++mSpawnedPools[poolId]` -/
def increment (poolId : ℕ) : ActivePoolData :=
  { s with mSpawnedPools := s.mSpawnedPools.set poolId (s.getActiveObjectCount poolId + 1) }

/-- The counter goes down, if it is not zero. The pool gets one if it has none. -/
def decrement (poolId : ℕ) : ActivePoolData :=
  let val := s.getActiveObjectCount poolId
  { s with mSpawnedPools := s.mSpawnedPools.set poolId (if 0 < val then val - 1 else val) }

def activateObject (kind : PoolKind) (guid poolId : ℕ) : ActivePoolData :=
  match kind with
  | .creature =>
    { s with mSpawnedCreatures := s.mSpawnedCreatures.insert guid }.increment poolId
  | .gameobject =>
    { s with mSpawnedGameobjects := s.mSpawnedGameobjects.insert guid }.increment poolId
  | .pool => { s with mSpawnedPools := s.mSpawnedPools.set guid 0 }.increment poolId
  | .quest => { s with mActiveQuests := s.mActiveQuests.insert guid }.increment poolId

def removeObject (kind : PoolKind) (guid poolId : ℕ) : ActivePoolData :=
  match kind with
  | .creature =>
    { s with mSpawnedCreatures := s.mSpawnedCreatures.erase guid }.decrement poolId
  | .gameobject =>
    { s with mSpawnedGameobjects := s.mSpawnedGameobjects.erase guid }.decrement poolId
  | .pool => { s with mSpawnedPools := s.mSpawnedPools.erase guid }.decrement poolId
  | .quest => { s with mActiveQuests := s.mActiveQuests.erase guid }.decrement poolId

end ActivePoolData

/-- What is drawn at one place: a chance, an index, and the saved quests of a pool. -/
structure PoolRoll (F : Type*) where
  chance : F
  index : ℕ
  savedQuests : List ℕ

/-- What is spawned, and the rolls to come. -/
structure PoolWorld (F : Type*) where
  mSpawnedData : ActivePoolData
  rolls : ℕ → PoolRoll F

namespace PoolWorld

variable {F : Type*}

variable (w : PoolWorld F)

/-- The first roll is used up. -/
def rolled : PoolWorld F := { w with rolls := fun n => w.rolls (n + 1) }

def activate (kind : PoolKind) (guid poolId : ℕ) : PoolWorld F :=
  { w with mSpawnedData := w.mSpawnedData.activateObject kind guid poolId }

def remove (kind : PoolKind) (guid poolId : ℕ) : PoolWorld F :=
  { w with mSpawnedData := w.mSpawnedData.removeObject kind guid poolId }

/-- `SelectRandomContainerElement` -/
def selectRandom (quests : OrderedSet ℕ) : ℕ :=
  quests.elems.getD ((w.rolls 0).index % quests.size) 0

end PoolWorld

/-! ## The members of one kind -/

structure PoolObject (F : Type*) where
  guid : ℕ
  chance : F

structure PoolGroup (F : Type*) where
  poolId : ℕ
  explicitlyChanced : List (PoolObject F)
  equalChanced : List (PoolObject F)

namespace PoolGroup

variable {F : Type*}

/-- A group without members, as the tables have it for a pool that they name nowhere. -/
def none : PoolGroup F := ⟨0, [], []⟩

def isEmpty (g : PoolGroup F) : Bool := g.explicitlyChanced.isEmpty && g.equalChanced.isEmpty

/-- The members, in the order in which they are despawned. -/
def objects (g : PoolGroup F) : List (PoolObject F) := g.equalChanced ++ g.explicitlyChanced

section Roll

variable [Sub F] [Zero F] [LT F] [DecidableLT F]

/-- The first member at which the roll is below zero and which can be drawn. -/
def rollExplicit (s : ActivePoolData) (kind : PoolKind) (triggerFrom : ℕ) :
    F → List (PoolObject F) → Option (PoolObject F)
  | _, [] => .none
  | roll, obj :: objs =>
    if roll - obj.chance < 0 ∧ (obj.guid = triggerFrom ∨ s.isActiveObject kind obj.guid = false)
    then some obj
    else rollExplicit s kind triggerFrom (roll - obj.chance) objs

variable (g : PoolGroup F) (s : ActivePoolData) (kind : PoolKind)

/-- A member of equal chance, if it can be drawn. -/
def rollEqual (triggerFrom index : ℕ) : Option (PoolObject F) :=
  match g.equalChanced[index % g.equalChanced.length]? with
  | .none => .none
  | some obj =>
    if obj.guid = triggerFrom ∨ s.isActiveObject kind obj.guid = false then some obj else .none

/-- The triggering object is spawned at this time, and can be drawn too. -/
def rollOne (triggerFrom : ℕ) (roll : PoolRoll F) : Option (PoolObject F) :=
  match rollExplicit s kind triggerFrom roll.chance g.explicitlyChanced with
  | some obj => some obj
  | .none => g.rollEqual s kind triggerFrom roll.index

end Roll

/-- The spawned members are despawned, or the one with the guid when it is not zero. -/
def despawnObject (g : PoolGroup F) (despawn1Object : ℕ → PoolWorld F → Option (PoolWorld F))
    (kind : PoolKind) (guid : ℕ) (w : PoolWorld F) : Option (PoolWorld F) :=
  g.objects.foldlM (fun w obj =>
    if w.mSpawnedData.isActiveObject kind obj.guid ∧ (guid = 0 ∨ obj.guid = guid) then
      (despawn1Object obj.guid w).map fun w => w.remove kind obj.guid g.poolId
    else some w) w

variable [Sub F] [Zero F] [LT F] [DecidableLT F]

/-- The turns of `spawnObject`, with the triggering object and the one that was despawned for
another. -/
def spawnTurns (g : PoolGroup F) (spawn1Object despawn1Object : ℕ → PoolWorld F →
    Option (PoolWorld F)) (kind : PoolKind) : ℕ → ℕ → ℕ → PoolWorld F → Option (PoolWorld F)
  | 0, _, _, w => some w
  | turns + 1, triggerFrom, lastDespawned, w =>
    match g.rollOne w.mSpawnedData kind triggerFrom (w.rolls 0) with
    | .none =>
        g.spawnTurns spawn1Object despawn1Object kind turns triggerFrom lastDespawned w.rolled
    | some obj =>
      if obj.guid = lastDespawned then
        g.spawnTurns spawn1Object despawn1Object kind turns triggerFrom lastDespawned w.rolled
      else if obj.guid = triggerFrom then
        g.spawnTurns spawn1Object despawn1Object kind turns 0 lastDespawned w.rolled
      else
        (spawn1Object obj.guid (w.rolled.activate kind obj.guid g.poolId)).bind fun w =>
          if triggerFrom ≠ 0 then
            -- One spawn, one despawn: the counter is as before.
            (g.despawnObject despawn1Object kind triggerFrom w).bind
              (g.spawnTurns spawn1Object despawn1Object kind turns 0 triggerFrom)
          else g.spawnTurns spawn1Object despawn1Object kind turns 0 lastDespawned w

/-- The triggering object is spawned and counted, so there is one more to draw. -/
def spawnObject (g : PoolGroup F) (spawn1Object despawn1Object : ℕ → PoolWorld F →
    Option (PoolWorld F)) (kind : PoolKind) (limit : BitVec 32) (triggerFrom : ℕ)
    (w : PoolWorld F) : Option (PoolWorld F) :=
  let count := (limit - w.mSpawnedData.getActiveObjectCount g.poolId).toInt
  let count := if triggerFrom ≠ 0 then count + 1 else count
  g.spawnTurns spawn1Object despawn1Object kind count.toNat triggerFrom 0 w

end PoolGroup

/-! ## Quests

A group of quests is not drawn one by one.  It gets the quests that are saved for it, or a choice
of quests that are not active, with active ones where there are too few of the others. -/

namespace PoolGroup

variable {F : Type*}

/-- The saved quests are activated, as many as the limit allows. A limit of zero allows all. -/
def activateSaved (g : PoolGroup F) : List ℕ → BitVec 32 → PoolWorld F → PoolWorld F
  | [], _, w => w
  | quest :: quests, limit, w =>
    let w := w.activate .quest quest g.poolId
    if limit - 1 = 0 then w else g.activateSaved quests (limit - 1) w

/-- Active quests are added to the new ones, until these are as many as the limit. -/
def recycle (limit : BitVec 32) : ℕ → OrderedSet ℕ → OrderedSet ℕ → PoolWorld F →
    OrderedSet ℕ × PoolWorld F
  | 0, newQuests, _, w => (newQuests, w)
  | turns + 1, newQuests, currentQuests, w =>
    let quest := w.selectRandom currentQuests
    let newQuests := newQuests.insert quest
    let currentQuests := currentQuests.erase quest
    if newQuests.size < limit.toNat ∧ currentQuests.size ≠ 0 then
      recycle limit turns newQuests currentQuests w.rolled
    else (newQuests, w.rolled)

/-- New quests are activated at random, as many as the limit allows. -/
def activateNew (g : PoolGroup F) : ℕ → BitVec 32 → OrderedSet ℕ → PoolWorld F → PoolWorld F
  | 0, _, _, w => w
  | turns + 1, limit, newQuests, w =>
    let quest := w.selectRandom newQuests
    let w := w.rolled.activate .quest quest g.poolId
    let newQuests := newQuests.erase quest
    if limit - 1 ≠ 0 ∧ newQuests.size ≠ 0 then g.activateNew turns (limit - 1) newQuests w else w

/-- `PoolGroup<Quest>::SpawnObject` -/
def spawnQuests (g : PoolGroup F) (limit : BitVec 32) (triggerFrom : ℕ) (w : PoolWorld F) :
    Option (PoolWorld F) :=
  if triggerFrom = 0 ∧ (w.rolls 0).savedQuests ≠ [] then
    some (g.activateSaved (w.rolls 0).savedQuests limit w.rolled)
  else
    let w := if triggerFrom = 0 then w.rolled else w
    let currentQuests := w.mSpawnedData.mActiveQuests
    let newQuests := OrderedSet.ofList ((g.equalChanced.map PoolObject.guid).filter fun quest =>
      w.mSpawnedData.isActiveObject .quest quest = false)
    (g.despawnObject (fun _ => some) .quest 0 w).map fun w =>
      let chosen :=
        if newQuests.size < limit.toNat ∧ currentQuests.size ≠ 0 then
          recycle limit currentQuests.size newQuests currentQuests w
        else (newQuests, w)
      if chosen.1.size = 0 then chosen.2
      else g.activateNew chosen.1.size limit chosen.1 chosen.2

end PoolGroup

/-! ## The manager -/

structure PoolTemplateData where
  maxLimit : BitVec 32

/-- The tables of the pools. -/
structure PoolMgr (F : Type*) where
  maxPoolId : ℕ
  mPoolTemplate : ℕ → PoolTemplateData
  mPoolCreatureGroups : ℕ → PoolGroup F
  mPoolGameobjectGroups : ℕ → PoolGroup F
  mPoolPoolGroups : ℕ → PoolGroup F
  mPoolQuestGroups : ℕ → PoolGroup F
  mCreatureSearchMap : OrderedMap ℕ ℕ
  mGameobjectSearchMap : OrderedMap ℕ ℕ
  mPoolSearchMap : OrderedMap ℕ ℕ

namespace PoolMgr

variable {F : Type*}

def groups (m : PoolMgr F) : PoolKind → ℕ → PoolGroup F
  | .creature => m.mPoolCreatureGroups
  | .gameobject => m.mPoolGameobjectGroups
  | .pool => m.mPoolPoolGroups
  | .quest => m.mPoolQuestGroups

/-- The map from members to their pools; quests are not looked up in it. -/
def searchMap (m : PoolMgr F) : PoolKind → OrderedMap ℕ ℕ
  | .creature => m.mCreatureSearchMap
  | .gameobject => m.mGameobjectSearchMap
  | .pool => m.mPoolSearchMap
  | .quest => OrderedMap.empty

/-- The pool of a member, zero for none. -/
def isPartOfAPool (m : PoolMgr F) (kind : PoolKind) (guid : ℕ) : ℕ :=
  ((m.searchMap kind).find? guid).getD 0

/-- `Despawn1Object`: pools are despawned by `despawnPool`. -/
def despawn1Object (despawnPool : ℕ → PoolWorld F → Option (PoolWorld F)) (kind : PoolKind)
    (guid : ℕ) (w : PoolWorld F) : Option (PoolWorld F) :=
  if kind = .pool then despawnPool guid w else some w

/-- The members of one kind are despawned. -/
def despawnGroup (m : PoolMgr F) (despawnPool : ℕ → PoolWorld F → Option (PoolWorld F))
    (kind : PoolKind) (poolId : ℕ) (w : PoolWorld F) : Option (PoolWorld F) :=
  if (m.groups kind poolId).isEmpty then some w
  else (m.groups kind poolId).despawnObject (despawn1Object despawnPool kind) kind 0 w

/-- `DespawnPool`, to a depth. -/
def despawnPoolTo (m : PoolMgr F) : ℕ → ℕ → PoolWorld F → Option (PoolWorld F)
  | 0, _, _ => none
  | depth + 1, poolId, w => do
    let w ← m.despawnGroup (m.despawnPoolTo depth) .creature poolId w
    let w ← m.despawnGroup (m.despawnPoolTo depth) .gameobject poolId w
    let w ← m.despawnGroup (m.despawnPoolTo depth) .pool poolId w
    m.despawnGroup (m.despawnPoolTo depth) .quest poolId w

variable [Sub F] [Zero F] [LT F] [DecidableLT F]

variable (m : PoolMgr F)

/-- `SpawnPool<T>`, with the recursions that spawn and despawn pools. -/
def spawnGroup (spawnPool despawnPool : ℕ → PoolWorld F → Option (PoolWorld F)) (kind : PoolKind)
    (poolId triggerFrom : ℕ) (w : PoolWorld F) : Option (PoolWorld F) :=
  if (m.groups kind poolId).isEmpty then some w
  else if kind = .quest then
    (m.groups kind poolId).spawnQuests (m.mPoolTemplate poolId).maxLimit triggerFrom w
  else
    (m.groups kind poolId).spawnObject (if kind = .pool then spawnPool else fun _ => some)
      (despawn1Object despawnPool kind) kind (m.mPoolTemplate poolId).maxLimit triggerFrom w

/-- `SpawnPool`, to a depth. -/
def spawnPoolTo (m : PoolMgr F) : ℕ → ℕ → PoolWorld F → Option (PoolWorld F)
  | 0, _, _ => none
  | depth + 1, poolId, w => do
    let w ← m.spawnGroup (m.spawnPoolTo depth) (m.despawnPoolTo depth) .pool poolId 0 w
    let w ← m.spawnGroup (m.spawnPoolTo depth) (m.despawnPoolTo depth) .gameobject poolId 0 w
    let w ← m.spawnGroup (m.spawnPoolTo depth) (m.despawnPoolTo depth) .creature poolId 0 w
    m.spawnGroup (m.spawnPoolTo depth) (m.despawnPoolTo depth) .quest poolId 0 w

/-- No chain of pools is longer than this, unless it comes back to a pool. -/
def maxDepth : ℕ := m.maxPoolId + 2

def spawnPool (poolId : ℕ) (w : PoolWorld F) : Option (PoolWorld F) :=
  m.spawnPoolTo m.maxDepth poolId w

def despawnPool (poolId : ℕ) (w : PoolWorld F) : Option (PoolWorld F) :=
  m.despawnPoolTo m.maxDepth poolId w

/-- The pool of an object that is ready to respawn draws again, or the pool's mother does. -/
def updatePool (kind : PoolKind) (poolId guid : ℕ) (w : PoolWorld F) : Option (PoolWorld F) :=
  if m.isPartOfAPool .pool poolId ≠ 0 then
    m.spawnGroup m.spawnPool m.despawnPool .pool (m.isPartOfAPool .pool poolId) poolId w
  else m.spawnGroup m.spawnPool m.despawnPool kind poolId guid w

/-! ## Runs -/

inductive Op where
  | spawnPool (poolId : ℕ)
  | despawnPool (poolId : ℕ)
  | updatePool (kind : PoolKind) (poolId guid : ℕ)
  deriving DecidableEq

/-- One operation; after one that does not return, nothing happens. -/
def step (w : Option (PoolWorld F)) : Op → Option (PoolWorld F)
  | .spawnPool poolId => w.bind (m.spawnPool poolId)
  | .despawnPool poolId => w.bind (m.despawnPool poolId)
  | .updatePool kind poolId guid => w.bind (m.updatePool kind poolId guid)

end PoolMgr

end TeraCore
