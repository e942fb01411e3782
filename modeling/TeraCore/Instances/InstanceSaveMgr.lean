import TeraCore.Commons.Multimap
import TeraCore.Commons.OrderedMap
import TeraCore.Maps.MapManager

/-!
# Resets of instances

A normal instance is reset at a time of its own.  The instances of a raid or of a heroic dungeon
are reset all at once: a map and a difficulty with a reset period have a reset time, before which
the players inside are warned three times.  Both kinds of events wait in one queue.

An event has a type, zero for a single instance, and one to four for what is next for a map: the
first of the warnings to the reset itself.  Its fields are of 8 and 16 bits.

## Main definitions

* `InstanceEnv`: the table of the periods, and the configuration
* `InstanceSaveManager.scheduleReset`: an event is added, or one like it is removed
* `InstanceSaveManager.resetOrWarnAll`: a warning or a reset of a map
* `InstanceSaveManager.updateTurn`, `InstanceSaveManager.update`: the events that are due
* `InstanceSaveManager.loadResetTimes`: the queue at startup
-/

namespace TeraCore

open Commons

def minute : ℕ := 60
def hour : ℕ := 60 * minute
def day : ℕ := 24 * hour

/-- `a - b` of unsigned 32-bit words -/
def wordSub (a b : ℕ) : ℕ := word (a + (2 ^ 32 - b))

/-- `MAKE_PAIR32` -/
def makePair32 (l h : ℕ) : ℕ := l % 2 ^ 16 + h % 2 ^ 16 * 2 ^ 16

/-- `PAIR32_LOPART` -/
def loPart (pair : ℕ) : ℕ := pair % 2 ^ 16

/-- `PAIR32_HIPART` -/
def hiPart (pair : ℕ) : ℕ := pair / 2 ^ 16 % 2 ^ 16

structure MapDifficulty where
  resetTime : ℕ
  deriving DecidableEq

/-- **What the manager reads of the rest of the server.** The difficulties of the table are those
of the enumeration. -/
structure InstanceEnv where
  sMapDifficultyMap : OrderedMap ℕ MapDifficulty
  instanceable : ℕ → Bool
  /-- A period at the configured rate: `(resetTime * rate / DAY) * DAY`, with floats. -/
  atRate : ℕ → ℕ
  resetTimeHour : ℕ
  narrow : ∀ key mapDiff, sMapDifficultyMap.find? key = some mapDiff → key < 2 ^ 24

namespace InstanceEnv

def getMapDifficultyData (env : InstanceEnv) (mapid difficulty : ℕ) : Option MapDifficulty :=
  env.sMapDifficultyMap.find? (makePair32 mapid difficulty)

/-- The time of the day at which maps are reset. -/
def diff (env : InstanceEnv) : ℕ := env.resetTimeHour * hour

/-- The delay between two resets, at least one day. -/
def period (env : InstanceEnv) (mapDiff : MapDifficulty) : ℕ :=
  if word (env.atRate mapDiff.resetTime) < day then day else word (env.atRate mapDiff.resetTime)

/-- A server with one map that has a period. -/
def oneMap (mapid resetTime : ℕ) (atRate : ℕ → ℕ) (resetTimeHour : ℕ) : InstanceEnv where
  sMapDifficultyMap := OrderedMap.empty.set (makePair32 mapid 0) ⟨resetTime⟩
  instanceable _ := true
  atRate := atRate
  resetTimeHour := resetTimeHour
  narrow key mapDiff h := by
    rw [OrderedMap.find?_set] at h
    split_ifs at h with hkey
    · rw [hkey, makePair32]
      omega
    · cases h

theorem find?_oneMap {mapid resetTime : ℕ} {atRate : ℕ → ℕ} {resetTimeHour key : ℕ}
    {mapDiff : MapDifficulty}
    (h : (oneMap mapid resetTime atRate resetTimeHour).sMapDifficultyMap.find? key = some mapDiff) :
    mapDiff = ⟨resetTime⟩ := by
  rw [oneMap, OrderedMap.find?_set] at h
  split_ifs at h
  · exact (Option.some.inj h).symm
  · cases h

end InstanceEnv

structure InstResetEvent where
  type : ℕ
  difficulty : ℕ
  mapid : ℕ
  instanceId : ℕ
  deriving DecidableEq

/-- The fields take what fits into them. -/
def InstResetEvent.new (t mapid d instanceid : ℕ) : InstResetEvent :=
  ⟨t % 2 ^ 8, d % 2 ^ 8, mapid % 2 ^ 16, instanceid % 2 ^ 16⟩

/-- `operator==` -/
def InstResetEvent.same (event event' : InstResetEvent) : Bool :=
  event.instanceId == event'.instanceId

structure InstanceSave where
  mapid : ℕ
  difficulty : ℕ
  deriving DecidableEq

structure InstanceSaveManager where
  instanceSaveById : OrderedMap ℕ InstanceSave
  resetTimeByMapDifficulty : OrderedMap ℕ ℕ
  resetTimeQueue : Multimap ℤ InstResetEvent
  /-- The calls of `_ResetInstance`, the last one first. -/
  resets : List (ℕ × ℕ)

namespace InstanceSaveManager

def new : InstanceSaveManager := ⟨OrderedMap.empty, OrderedMap.empty, Multimap.empty, []⟩

/-- `ResetTimeDelay` of an event's type -/
def resetTimeDelay (type : ℕ) : ℤ := [3600, 900, 300, 60].getD (type - 1) 0

variable (mgr : InstanceSaveManager)

def getResetTimeFor (mapid difficulty : ℕ) : ℕ :=
  (mgr.resetTimeByMapDifficulty.find? (makePair32 mapid difficulty)).getD 0

def setResetTimeFor (mapid difficulty t : ℕ) : InstanceSaveManager :=
  { mgr with
    resetTimeByMapDifficulty := mgr.resetTimeByMapDifficulty.set (makePair32 mapid difficulty) t }

/-- An event is added; or one like it is removed, at that time, or else at any time. -/
def scheduleReset (add : Bool) (time : ℤ) (event : InstResetEvent) : InstanceSaveManager :=
  if add then { mgr with resetTimeQueue := mgr.resetTimeQueue.insert time event }
  else if mgr.resetTimeQueue.entries.any fun e => e.1 == time && e.2.same event then
    { mgr with
      resetTimeQueue := mgr.resetTimeQueue.eraseFirst fun e => e.1 == time && e.2.same event }
  else { mgr with resetTimeQueue := mgr.resetTimeQueue.eraseFirst fun e => e.2.same event }

variable (env : InstanceEnv)

/-- `_ResetInstance`: the save of the instance is removed. -/
def resetInstance (mapid instanceId : ℕ) : InstanceSaveManager :=
  let mgr := { mgr with resets := (mapid, instanceId) :: mgr.resets }
  if env.instanceable mapid then
    { mgr with instanceSaveById := mgr.instanceSaveById.erase instanceId }
  else mgr

/-- The time of the reset after one at `resetTime`. -/
def nextReset (mapDiff : MapDifficulty) (resetTime : ℕ) : ℕ :=
  word ((resetTime + minute) / day * day + env.period mapDiff + env.diff)

/-- `_ResetOrWarnAll`: the players are warned; or the saves of the map are removed, and the next
reset is scheduled. -/
def resetOrWarnAll (mapid difficulty : ℕ) (warn : Bool) (resetTime : ℕ) : InstanceSaveManager :=
  if ¬ env.instanceable mapid then mgr
  else if warn then mgr
  else match env.getMapDifficultyData mapid difficulty with
    | none => mgr
    | some mapDiff =>
      if mapDiff.resetTime = 0 then mgr
      else
        let mgr := { mgr with
          instanceSaveById := mgr.instanceSaveById.filterKeys fun id =>
            !((mgr.instanceSaveById.find? id).any fun (save : InstanceSave) =>
              save.mapid == mapid && save.difficulty == difficulty) }
        let next := nextReset env mapDiff resetTime
        (mgr.setResetTimeFor mapid difficulty next).scheduleReset true (wordSub next hour)
          (.new 1 mapid difficulty 0)

/-- `++event.type` -/
def countUp (event : InstResetEvent) : InstResetEvent :=
  { event with type := (event.type + 1) % 2 ^ 8 }

variable (now : ℕ)

/-- **One turn of the loop of `Update`**, if an event is due. What is erased at its end is the first
event then. -/
def updateTurn (mgr : InstanceSaveManager) : Option InstanceSaveManager :=
  match mgr.resetTimeQueue.entries with
  | [] => none
  | (t, event) :: _ =>
    if (now : ℤ) ≤ t then none
    else
      let mgr :=
        if event.type = 0 then mgr.resetInstance env event.mapid event.instanceId
        else
          let resetTime := mgr.getResetTimeFor event.mapid event.difficulty
          let mgr := mgr.resetOrWarnAll env event.mapid event.difficulty (event.type ≠ 4) resetTime
          if event.type ≠ 4 then
            -- The event of the queue counts up, and the scheduled one is a copy of it.
            let event := countUp event
            { mgr with resetTimeQueue := mgr.resetTimeQueue.modifyBegin fun _ => event
              }.scheduleReset true (resetTime - resetTimeDelay event.type) event
          else mgr
      some { mgr with resetTimeQueue := mgr.resetTimeQueue.eraseBegin }

/-- The loop of `Update`, to a number of turns. -/
def updateLoop (env : InstanceEnv) (now : ℕ) : ℕ → InstanceSaveManager → Option InstanceSaveManager
  | 0, _ => none
  | turns + 1, mgr =>
    match updateTurn env now mgr with
    | none => some mgr
    | some mgr => updateLoop env now turns mgr

/-- A number of turns in which the loop is over, as long as the times are words. -/
def maxTurns (mgr : InstanceSaveManager) : ℕ :=
  let n := mgr.resetTimeQueue.entries.length
  (n * n + n) * (4 * (now + hour) + 5) + 1

/-- **`Update`**: `none` is a loop that is not over after `maxTurns` turns. -/
def update (mgr : InstanceSaveManager) : Option InstanceSaveManager :=
  updateLoop env now (mgr.maxTurns now) mgr

/-! ## Loading -/

/-- A row of the table `instance`. -/
structure InstanceRow where
  id : ℕ
  mapid : ℕ
  difficulty : ℕ
  resetTime : ℕ
  deriving DecidableEq

/-- A row of the table `instance_reset`. -/
structure ResetRow where
  mapid : ℕ
  difficulty : ℕ
  resetTime : ℕ
  deriving DecidableEq

/-- What is read at startup: the instances in the order of their ids, the resets, and the latest
respawns of creatures by instance. -/
structure InstanceTables where
  instances : List InstanceRow
  respawns : List (ℕ × ℕ)
  resets : List ResetRow

/-- The reset times of normal instances, with the pair of the map and the difficulty. -/
def instResetTimes (rows : List InstanceRow) : OrderedMap ℕ (ℕ × ℕ) :=
  rows.foldl (fun times row => if row.resetTime ≠ 0 then
    times.set row.id (makePair32 row.mapid row.difficulty, row.resetTime) else times) .empty

/-- A respawn moves a reset. Only the first row is read: the loop asks the rows of the instances
for the next one. -/
def moveByRespawn (respawns : List (ℕ × ℕ)) (times : OrderedMap ℕ (ℕ × ℕ)) : OrderedMap ℕ (ℕ × ℕ) :=
  match respawns.head? with
  | none => times
  | some (respawn, id) =>
    match times.find? id with
    | none => times
    | some (pair, _) => times.set id (pair, word (respawn + 2 * hour))

/-- The resets of normal instances that are not over. -/
def scheduleInstances (times : OrderedMap ℕ (ℕ × ℕ)) (mgr : InstanceSaveManager) :
    InstanceSaveManager :=
  times.entries.foldl (fun mgr e => if now < e.2.2 then
    mgr.scheduleReset true e.2.2 (.new 0 (loPart e.2.1) (hiPart e.2.1) e.1) else mgr) mgr

/-- A stored reset time is set to the configured hour of its day. -/
def normalise (resetTime : ℕ) : ℕ := resetTime / day * day + env.diff

def readReset (mgr : InstanceSaveManager) (row : ResetRow) : InstanceSaveManager :=
  match env.getMapDifficultyData row.mapid row.difficulty with
  | none => mgr
  | some _ => mgr.setResetTimeFor row.mapid row.difficulty (normalise env row.resetTime)

/-- The reset time of a map at startup: a new one if there is none, and the next one if it is
over. -/
def loadedTime (mapDiff : MapDifficulty) (stored : ℕ) : ℕ :=
  let today := now / day * day
  let t := if stored = 0 then today + env.period mapDiff + env.diff else stored
  if t < now then
    t / day * day + (((today - t / day * day) / env.period mapDiff + 1) * env.period mapDiff +
      env.diff)
  else t

/-- What is next for a map: a warning that is not over, or the reset. -/
def firstType (now t : ℕ) : ℕ :=
  if (now : ℤ) < t - resetTimeDelay 1 then 1
  else if (now : ℤ) < t - resetTimeDelay 2 then 2
  else if (now : ℤ) < t - resetTimeDelay 3 then 3
  else 4

/-- One map and difficulty of the table, with the instances that have a reset time of their own. -/
def loadGlobal (rows : List InstanceRow) (mgr : InstanceSaveManager) (entry : ℕ × MapDifficulty) :
    InstanceSaveManager :=
  if entry.2.resetTime = 0 then mgr
  else
    let mapid := loPart entry.1
    let difficulty := hiPart entry.1
    let t := loadedTime env now entry.2 (mgr.getResetTimeFor mapid difficulty)
    let type := firstType now t
    let mgr := (mgr.setResetTimeFor mapid difficulty t).scheduleReset true
      (t - resetTimeDelay type) (.new type mapid difficulty 0)
    (rows.filter fun row =>
      row.resetTime ≠ 0 ∧ makePair32 row.mapid row.difficulty = entry.1).foldl
      (fun mgr row => mgr.scheduleReset true (t - resetTimeDelay type)
        (.new type mapid difficulty row.id)) mgr

/-- **`LoadResetTimes`**, without the registering of the ids. -/
def loadResetTimes (tables : InstanceTables) (mgr : InstanceSaveManager) : InstanceSaveManager :=
  let times := moveByRespawn tables.respawns (instResetTimes tables.instances)
  let mgr := tables.resets.foldl (readReset env) (scheduleInstances now times mgr)
  env.sMapDifficultyMap.entries.foldl (loadGlobal env now tables.instances) mgr

end InstanceSaveManager

end TeraCore
