import TeraCore.Commons.OrderedSet
import Mathlib.Algebra.Group.Nat.Defs

/-!
# Instance ids

The map manager hands out the ids of instances.  It has a bit for every id, and the id that it
hands out next.  At startup the ids that are stored in the database are registered, in ascending
order; later an id is free for the next instance when its own is over.

The vector of bits grows when an id beyond its size is handed out.  What the standard library has
allocated for it is not determined by the program, so the capacity is an argument of the handing
out.  A bit that is written outside of the vector is not there afterwards.

## Main definitions

* `MapManager`: the bits, and the next id
* `MapManager.generateInstanceId`, `MapManager.freeInstanceId`: an id is handed out, and is free
  again
* `InstanceIds`: the ids of the instances that exist, and what happens to them
-/

namespace TeraCore

open Commons

/-- The value of an unsigned 32-bit word. -/
def word (n : ℕ) : ℕ := n % 2 ^ 32

theorem word_of_lt {n : ℕ} (h : n < 2 ^ 32) : word n = n := Nat.mod_eq_of_lt h

theorem word_lt (n : ℕ) : word n < 2 ^ 32 := Nat.mod_lt _ (by decide)

/-- `0xFFFFFFFF` -/
def lastWord : ℕ := 4294967295

/-- `std::vector<bool>::resize` -/
def resize (bits : List Bool) (size : ℕ) : List Bool :=
  bits.take size ++ List.replicate (size - bits.length) false

/-- The next multiple of 32, but a multiple of 32 is left as it is. -/
def roundUp (id : ℕ) : ℕ := word (id / 32 * 32 + if 0 < id % 32 then 32 else 0)

structure MapManager where
  instanceIds : List Bool
  nextInstanceId : ℕ
  /-- `World::StopNow` has been called. -/
  stopped : Bool
  deriving DecidableEq

namespace MapManager

/-- Before the database is read. -/
def new : MapManager := ⟨[], 0, false⟩

variable (m : MapManager)

/-- `maxId` is the largest stored id, zero for none. -/
def initInstanceIds (maxId : ℕ) : MapManager :=
  { m with nextInstanceId := 1, instanceIds := resize m.instanceIds (roundUp maxId) }

def setNextInstanceId (id : ℕ) : MapManager := { m with nextInstanceId := id }

def registerInstanceId (id : ℕ) : MapManager :=
  { m with instanceIds := m.instanceIds.set id true }

/-- An id without a bit is free. -/
def isFree (ids : List Bool) (id : ℕ) : Bool :=
  (decide (id < ids.length) && !ids.getD id false) || decide (ids.length ≤ id)

/-- The search for the id that comes after `id`; it does not get past the end of the bits. -/
def searchFree (ids : List Bool) (id : ℕ) : ℕ :=
  ((List.range' (word (id + 1)) (ids.length + 1)).find? fun i =>
    decide (i < lastWord) && isFree ids i).getD (word (id + 1))

/-- The vector is extended to what has been allocated for it, or to the rounded id. -/
def allocate (ids : List Bool) (capacity id : ℕ) : List Bool :=
  if word ids.length ≤ id then
    if ids.length < capacity then resize ids capacity else resize ids (roundUp id)
  else ids

def generateInstanceId (capacity : ℕ) : ℕ × MapManager :=
  let newInstanceId := m.nextInstanceId
  let next := searchFree m.instanceIds newInstanceId
  (newInstanceId,
    { instanceIds := (allocate m.instanceIds capacity newInstanceId).set newInstanceId true
      nextInstanceId := next
      stopped := m.stopped || newInstanceId == next })

def freeInstanceId (id : ℕ) : MapManager :=
  { m with
    nextInstanceId := if id < m.nextInstanceId then id else m.nextInstanceId
    instanceIds := m.instanceIds.set id false }

end MapManager

/-! ## Runs -/

/-- What is said of the ids: a bit was written in a vector of a size, or an id was handed out while
others were live. -/
inductive IdEvent where
  | wrote (index size : ℕ)
  | returned (id : ℕ) (live : OrderedSet ℕ)

/-- The manager, the ids that are live, and what has happened. -/
structure InstanceIds where
  mgr : MapManager
  live : OrderedSet ℕ
  log : List IdEvent

namespace InstanceIds

/-- One row of the table of instances: its id is registered, and not handed out next. -/
def register (w : InstanceIds) (id : ℕ) : InstanceIds :=
  let mgr := if w.mgr.nextInstanceId = id then w.mgr.setNextInstanceId (word (id + 1)) else w.mgr
  { mgr := mgr.registerInstanceId id
    live := w.live.insert id
    log := .wrote id mgr.instanceIds.length :: w.log }

/-- The startup with stored ids. -/
def load (stored : OrderedSet ℕ) : InstanceIds :=
  stored.elems.foldl register
    ⟨MapManager.new.initInstanceIds (stored.elems.getLast?.getD 0), OrderedSet.empty, []⟩

inductive Op where
  | generateInstanceId (capacity : ℕ)
  | freeInstanceId (id : ℕ)
  deriving DecidableEq

def step (w : InstanceIds) : Op → InstanceIds
  | .generateInstanceId capacity =>
    let reply := w.mgr.generateInstanceId capacity
    { mgr := reply.2
      live := w.live.insert reply.1
      log := .wrote reply.1 reply.2.instanceIds.length :: .returned reply.1 w.live :: w.log }
  | .freeInstanceId id =>
    { mgr := w.mgr.freeInstanceId id
      live := w.live.erase id
      log := .wrote id w.mgr.instanceIds.length :: w.log }

end InstanceIds

end TeraCore
