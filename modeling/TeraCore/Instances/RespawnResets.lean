import Mathlib.Data.List.Induction
import TeraCore.Instances.GlobalResets

/-!
# Resets of instances: moved by respawns

At startup the reset time of a normal instance is moved to two hours after the last respawn in it.
The instances and the respawns are two results that are open at the same time.  The loop over the
respawns asks the result of the instances for its next row.  That one is at its end by then, so the
loop makes one turn, for the first respawn.  An event has 16 bits for the number of its instance.

## Main results

* `times_loadInstances`: the times that `loadResetTimes` goes on with
* `movesResets_iff`: when the resets are moved as they should be
-/

namespace TeraCore

open Commons OrderedMap

/-! ## Results with a cursor -/

/-- A result of a query that has rows: the current one and those that are not fetched. -/
structure QueryResult (ρ : Type*) where
  current : ρ
  rest : List ρ
  deriving DecidableEq

namespace QueryResult

variable {ρ σ : Type*}

def ofRows : List ρ → Option (QueryResult ρ)
  | [] => none
  | row :: rows => some ⟨row, rows⟩

/-- `do turn while (result->NextRow())`, with the result as it is afterwards.  At its end a result
has no next row, however often it is asked. -/
def doWhileNextRow (turn : ρ → σ → σ) : ρ → List ρ → σ → QueryResult ρ × σ
  | row, [], s => (⟨row, []⟩, turn row s)
  | row, next :: rest, s => doWhileNextRow turn next rest (turn row s)

theorem doWhileNextRow_rest (turn : ρ → σ → σ) (row : ρ) (rest : List ρ) (s : σ) :
    (doWhileNextRow turn row rest s).1.rest = [] := by
  induction rest generalizing row s with
  | nil => rfl
  | cons next rest ih => exact ih next (turn row s)

theorem doWhileNextRow_snd (turn : ρ → σ → σ) (row : ρ) (rest : List ρ) (s : σ) :
    (doWhileNextRow turn row rest s).2 = (row :: rest).foldl (fun s row => turn row s) s := by
  induction rest generalizing row s with
  | nil => rfl
  | cons next rest ih => exact ih next (turn row s)

end QueryResult

namespace InstanceSaveManager

open QueryResult

/-! ## The two loops -/

/-- What the second loop works on: the times, the updates of the table `instance`, and the respawns
it has read. -/
structure RespawnState where
  times : OrderedMap ℕ (ℕ × ℕ)
  updates : List (ℕ × ℕ)
  visited : List (ℕ × ℕ)

/-- A turn of the first loop. -/
def readInstance (row : InstanceRow) (times : OrderedMap ℕ (ℕ × ℕ)) : OrderedMap ℕ (ℕ × ℕ) :=
  if row.resetTime ≠ 0 then times.set row.id (makePair32 row.mapid row.difficulty, row.resetTime)
  else times

/-- A turn of the second loop, for a respawn and its instance. -/
def moveReset (respawn : ℕ × ℕ) (s : RespawnState) : RespawnState :=
  let s := { s with visited := s.visited ++ [respawn] }
  let resettime := word (respawn.1 + 2 * hour)
  match s.times.find? respawn.2 with
  | none => s
  | some (pair, stored) =>
    if stored ≠ resettime then
      { s with
        updates := s.updates ++ [(respawn.2, resettime)]
        times := s.times.set respawn.2 (pair, resettime) }
    else s

/-- **The loops over the instances and over the respawns.** The second one asks `result`. -/
def loadInstances (tables : InstanceTables) : RespawnState :=
  match ofRows tables.instances with
  | none => ⟨OrderedMap.empty, [], []⟩
  | some result =>
    let (result, times) := doWhileNextRow readInstance result.current result.rest OrderedMap.empty
    match ofRows tables.respawns with
    | none => ⟨times, [], []⟩
    | some result2 =>
      (doWhileNextRow (fun _ => moveReset result2.current) result.current result.rest
        ⟨times, [], []⟩).2

theorem loadInstances_eq {tables : InstanceTables} (hinst : tables.instances ≠ []) :
    loadInstances tables =
      (tables.respawns.take 1).foldl (fun s respawn => moveReset respawn s)
        ⟨instResetTimes tables.instances, [], []⟩ := by
  obtain ⟨row, rest, hrows⟩ := List.exists_cons_of_ne_nil hinst
  have hrest := doWhileNextRow_rest readInstance row rest OrderedMap.empty
  have htimes := doWhileNextRow_snd readInstance row rest OrderedMap.empty
  rw [loadInstances, instResetTimes, hrows, ofRows]
  rcases hresult : doWhileNextRow readInstance row rest OrderedMap.empty with ⟨result, times⟩
  rw [hresult] at hrest htimes
  cases hrespawns : tables.respawns with
  | nil => simp only [ofRows, hresult, htimes]; rfl
  | cons respawn respawns =>
    simp only [ofRows, hresult]
    rw [show result.rest = [] from hrest, show times = _ from htimes]
    rfl

theorem loadInstances_nil {tables : InstanceTables} (hinst : tables.instances = []) :
    loadInstances tables = ⟨OrderedMap.empty, [], []⟩ := by
  rw [loadInstances, hinst, ofRows]

theorem times_loadInstances (tables : InstanceTables) :
    (loadInstances tables).times =
      moveByRespawn tables.respawns (instResetTimes tables.instances) := by
  by_cases hinst : tables.instances = []
  · rw [loadInstances_nil hinst, hinst, moveByRespawn]
    cases tables.respawns <;> rfl
  · rw [loadInstances_eq hinst, moveByRespawn]
    cases tables.respawns with
    | nil => rfl
    | cons respawn respawns =>
      obtain ⟨time, id⟩ := respawn
      simp only [List.take_succ_cons, List.take_zero, List.foldl_cons, List.foldl_nil,
        List.head?_cons, moveReset]
      cases hfind : (instResetTimes tables.instances).find? id with
      | none => rfl
      | some entry =>
        obtain ⟨pair, stored⟩ := entry
        dsimp only
        split
        · rfl
        · rename_i hsame
          rw [not_not] at hsame
          refine ext_find? fun key => ?_
          rw [find?_set]
          split
          · rename_i hkey
            rw [hkey, hfind, hsame]
          · rfl

/-! ## What they are for -/

/-- The reset time an instance should have: two hours after the last respawn in it, or else the
stored one. -/
def movedTime (respawns : List (ℕ × ℕ)) (row : InstanceRow) : ℕ :=
  match respawns.find? fun respawn => respawn.2 = row.id with
  | some respawn => respawn.1 + 2 * hour
  | none => row.resetTime

/-- The reset time in the table after the updates. -/
def storedTime (updates : List (ℕ × ℕ)) (row : InstanceRow) : ℕ :=
  updates.foldl (fun resettime update => if update.1 = row.id then update.2 else resettime)
    row.resetTime

/-- The instances come in the order of their ids, and the respawns are grouped by instance.  Maps
and difficulties are read as 16 and 8 bits. -/
structure InstanceTables.Ordered (tables : InstanceTables) : Prop where
  instances : tables.instances.Pairwise fun row row' => row.id < row'.id
  respawns : tables.respawns.Pairwise fun respawn respawn' => respawn.2 ≠ respawn'.2
  mapid : ∀ row ∈ tables.instances, row.mapid < 2 ^ 16
  difficulty : ∀ row ∈ tables.instances, row.difficulty < 2 ^ 8

/-- The event for an instance that is reset alone. -/
def InstanceRow.event (row : InstanceRow) : InstResetEvent := ⟨0, row.difficulty, row.mapid, row.id⟩

/-- **What the loops are for**: every respawn is read once, normal instances are reset two hours
after the last respawn or at their stored time, in memory and in the table, and every one whose
time is not over has its event. -/
structure MovesResets (env : InstanceEnv) (now : ℕ) (tables : InstanceTables) : Prop where
  visited : tables.instances ≠ [] → (loadInstances tables).visited = tables.respawns
  times : ∀ row ∈ tables.instances, row.resetTime ≠ 0 →
    (loadInstances tables).times.find? row.id =
      some (makePair32 row.mapid row.difficulty, movedTime tables.respawns row)
  stored : ∀ row ∈ tables.instances, row.resetTime ≠ 0 →
    storedTime (loadInstances tables).updates row = movedTime tables.respawns row
  events : ((loadResetTimes env now tables new).resetTimeQueue.entries.filter
      fun e => e.2.type = 0).Perm
    ((tables.instances.filter fun row =>
        row.resetTime ≠ 0 ∧ now < movedTime tables.respawns row).map fun row =>
      ((movedTime tables.respawns row : ℤ), row.event))

/-! ## The events -/

variable {env : InstanceEnv} {now : ℕ} {tables : InstanceTables}

/-- The events of the times that are not over. -/
def dueEvents (now : ℕ) (entries : List (ℕ × ℕ × ℕ)) : List (ℤ × InstResetEvent) :=
  (entries.filter fun e => now < e.2.2).map fun e =>
    ((e.2.2 : ℤ), .new 0 (loPart e.2.1) (hiPart e.2.1) e.1)

theorem perm_scheduleInstances (now : ℕ) (times : OrderedMap ℕ (ℕ × ℕ))
    (mgr : InstanceSaveManager) :
    (scheduleInstances now times mgr).resetTimeQueue.entries.Perm
      (dueEvents now times.entries ++ mgr.resetTimeQueue.entries) := by
  rw [scheduleInstances, dueEvents]
  induction times.entries generalizing mgr with
  | nil => exact .refl _
  | cons e entries ih =>
    rw [List.foldl_cons]
    refine (ih _).trans ?_
    split
    · rename_i hdue
      rw [List.filter_cons_of_pos (by simpa using hdue), List.map_cons]
      refine ((Multimap.perm_insert _ _ _).append_left _).trans ?_
      exact List.perm_middle
    · rename_i hdue
      rw [List.filter_cons_of_neg (by simpa using hdue)]

theorem filter_scheduleReset_global {mgr : InstanceSaveManager} {time : ℤ} {event : InstResetEvent}
    (htype : event.type ≠ 0) :
    ((mgr.scheduleReset true time event).resetTimeQueue.entries.filter fun e => e.2.type = 0) =
      mgr.resetTimeQueue.entries.filter fun e => e.2.type = 0 := by
  rw [scheduleReset, if_pos rfl]
  exact Multimap.filter_insertEntry_of_not _ _ (decide_eq_false htype) _

theorem filter_loadGlobal (env : InstanceEnv) (now : ℕ) (rows : List InstanceRow)
    (mgr : InstanceSaveManager) (entry : ℕ × MapDifficulty) :
    ((loadGlobal env now rows mgr entry).resetTimeQueue.entries.filter fun e => e.2.type = 0) =
      mgr.resetTimeQueue.entries.filter fun e => e.2.type = 0 := by
  have htype : ∀ (t mapid d id : ℕ),
      (InstResetEvent.new (firstType now t) mapid d id).type ≠ 0 := by
    intro t mapid d id
    have hmem := firstType_mem now t
    rw [InstResetEvent.new]
    dsimp only
    omega
  rw [loadGlobal]
  split
  · rfl
  · refine (foldl_frame (fun mgr : InstanceSaveManager =>
      mgr.resetTimeQueue.entries.filter fun e => e.2.type = 0)
      (fun mgr row => filter_scheduleReset_global (htype _ _ _ _)) _ _).trans ?_
    exact filter_scheduleReset_global (htype _ _ _ _)

theorem perm_events (env : InstanceEnv) (now : ℕ) (tables : InstanceTables) :
    ((loadResetTimes env now tables new).resetTimeQueue.entries.filter
      fun e => e.2.type = 0).Perm (dueEvents now (loadInstances tables).times.entries) := by
  have hglobals : ∀ mgr : InstanceSaveManager,
      ((env.sMapDifficultyMap.entries.foldl (loadGlobal env now tables.instances)
        mgr).resetTimeQueue.entries.filter fun e => e.2.type = 0) =
          mgr.resetTimeQueue.entries.filter fun e => e.2.type = 0 := fun mgr =>
    foldl_frame (fun mgr : InstanceSaveManager =>
      mgr.resetTimeQueue.entries.filter fun e => e.2.type = 0)
      (filter_loadGlobal env now tables.instances) _ mgr
  have hresets : ∀ mgr : InstanceSaveManager,
      (tables.resets.foldl (readReset env) mgr).resetTimeQueue = mgr.resetTimeQueue := fun mgr =>
    foldl_frame (fun mgr : InstanceSaveManager => mgr.resetTimeQueue)
      (fun mgr row => by rw [readReset]; split <;> rfl) _ mgr
  rw [loadResetTimes, hglobals, hresets, times_loadInstances]
  refine ((perm_scheduleInstances now _ new).filter _).trans ?_
  rw [List.filter_append]
  have hall : (dueEvents now (moveByRespawn tables.respawns
      (instResetTimes tables.instances)).entries).filter (fun e => e.2.type = 0) =
        dueEvents now
          (moveByRespawn tables.respawns (instResetTimes tables.instances)).entries := by
    refine List.filter_eq_self.mpr fun e he => ?_
    obtain ⟨entry, -, rfl⟩ := List.mem_map.mp he
    rfl
  rw [hall]
  exact .of_eq (List.append_nil _)

/-! ## The times -/

theorem find?_instResetTimes {rows : List InstanceRow}
    (h : rows.Pairwise fun row row' => row.id < row'.id) {key : ℕ} {entry : ℕ × ℕ} :
    (instResetTimes rows).find? key = some entry ↔
      ∃ row ∈ rows, row.resetTime ≠ 0 ∧ row.id = key ∧
        entry = (makePair32 row.mapid row.difficulty, row.resetTime) := by
  induction rows using List.reverseRecOn with
  | nil => simp [instResetTimes]
  | append_singleton rows row ih =>
    obtain ⟨hrows, -, hlast⟩ := List.pairwise_append.mp h
    have hsnoc : instResetTimes (rows ++ [row]) = readInstance row (instResetTimes rows) := by
      rw [instResetTimes, List.foldl_append]
      rfl
    have hne : ∀ row' ∈ rows, row'.id ≠ row.id := fun row' hmem =>
      Nat.ne_of_lt (hlast row' hmem row (List.mem_singleton_self row))
    simp only [hsnoc, readInstance, List.mem_append, List.mem_singleton, or_and_right, exists_or,
      exists_eq_left]
    split
    · rename_i hnormal
      rw [find?_set]
      split
      · rename_i hkey
        subst hkey
        constructor
        · exact fun hentry => .inr ⟨hnormal, rfl, (Option.some.inj hentry).symm⟩
        · rintro (⟨row', hmem, -, hid, -⟩ | ⟨-, -, rfl⟩)
          · exact absurd hid (hne row' hmem)
          · rfl
      · rename_i hkey
        rw [ih hrows, or_iff_left fun hrow => hkey hrow.2.1.symm]
    · rename_i hnormal
      rw [ih hrows, or_iff_left fun hrow => hnormal hrow.1]

theorem find?_moveByRespawn (respawn : ℕ × ℕ) (respawns : List (ℕ × ℕ))
    (times : OrderedMap ℕ (ℕ × ℕ)) (key : ℕ) :
    (moveByRespawn (respawn :: respawns) times).find? key =
      (times.find? key).map fun entry =>
        if key = respawn.2 then (entry.1, word (respawn.1 + 2 * hour)) else entry := by
  obtain ⟨time, id⟩ := respawn
  rw [moveByRespawn, List.head?_cons]
  dsimp only
  cases hfind : times.find? id with
  | none =>
    by_cases hkey : key = id
    · rw [hkey, hfind]
      rfl
    · cases times.find? key <;> simp [hkey]
  | some entry =>
    rw [find?_set]
    by_cases hkey : key = id
    · rw [hkey, hfind]
      simp
    · cases times.find? key <;> simp [hkey]

theorem visited_loadInstances (hinst : tables.instances ≠ []) :
    (loadInstances tables).visited = tables.respawns.take 1 := by
  rw [loadInstances_eq hinst]
  cases tables.respawns with
  | nil => rfl
  | cons respawn respawns =>
    simp only [List.take_succ_cons, List.take_zero, List.foldl_cons, List.foldl_nil, moveReset]
    cases (instResetTimes tables.instances).find? respawn.2 with
    | none => rfl
    | some entry =>
      dsimp only
      split <;> rfl

theorem find?_times (htables : tables.Ordered) (hone : tables.respawns.length ≤ 1)
    (hword : ∀ respawn ∈ tables.respawns, ∀ row ∈ tables.instances, row.resetTime ≠ 0 →
      row.id = respawn.2 → respawn.1 + 2 * hour < 2 ^ 32) {key : ℕ} {entry : ℕ × ℕ} :
    (loadInstances tables).times.find? key = some entry ↔
      ∃ row ∈ tables.instances, row.resetTime ≠ 0 ∧ row.id = key ∧
        entry = (makePair32 row.mapid row.difficulty, movedTime tables.respawns row) := by
  rw [times_loadInstances]
  rcases hrespawns : tables.respawns with _ | ⟨respawn, _ | ⟨respawn', respawns⟩⟩
  · exact find?_instResetTimes htables.instances
  · rw [find?_moveByRespawn, Option.map_eq_some_iff]
    simp only [find?_instResetTimes htables.instances]
    have hmoved : ∀ row ∈ tables.instances, row.resetTime ≠ 0 →
        (if row.id = respawn.2 then (makePair32 row.mapid row.difficulty,
            word (respawn.1 + 2 * hour))
          else (makePair32 row.mapid row.difficulty, row.resetTime)) =
          (makePair32 row.mapid row.difficulty, movedTime [respawn] row) := by
      intro row hrow hnormal
      by_cases hid : row.id = respawn.2
      · have hfits := hword respawn (hrespawns ▸ List.mem_cons_self) row hrow hnormal hid
        rw [if_pos hid, movedTime, List.find?_cons_of_pos (by simpa using hid.symm), word,
          Nat.mod_eq_of_lt hfits]
      · rw [if_neg hid, movedTime, List.find?_cons_of_neg (by simpa using Ne.symm hid),
          List.find?_nil]
    constructor
    · rintro ⟨_, ⟨row, hrow, hnormal, rfl, rfl⟩, rfl⟩
      exact ⟨row, hrow, hnormal, rfl, hmoved row hrow hnormal⟩
    · rintro ⟨row, hrow, hnormal, rfl, rfl⟩
      exact ⟨_, ⟨row, hrow, hnormal, rfl, rfl⟩, hmoved row hrow hnormal⟩
  · rw [hrespawns, List.length_cons, List.length_cons] at hone
    omega

/-! ## When they do it -/

theorem new_makePair32 (mapid difficulty id : ℕ) :
    InstResetEvent.new 0 (loPart (makePair32 mapid difficulty))
        (hiPart (makePair32 mapid difficulty)) id =
      .new 0 mapid difficulty id := by
  have hmap : loPart (makePair32 mapid difficulty) % 2 ^ 16 = mapid % 2 ^ 16 := by
    rw [loPart, makePair32]
    omega
  have hdiff : hiPart (makePair32 mapid difficulty) % 2 ^ 8 = difficulty % 2 ^ 8 := by
    rw [hiPart, makePair32]
    omega
  rw [InstResetEvent.new, InstResetEvent.new, hmap, hdiff]

/-- **The event names the instance** when its number is of 16 bits. -/
theorem new_eq_event (htables : tables.Ordered) {row : InstanceRow} (hrow : row ∈ tables.instances)
    (hid : row.id < 2 ^ 16) :
    InstResetEvent.new 0 (loPart (makePair32 row.mapid row.difficulty))
        (hiPart (makePair32 row.mapid row.difficulty)) row.id =
      row.event := by
  rw [new_makePair32, InstResetEvent.new, Nat.mod_eq_of_lt (htables.difficulty row hrow),
    Nat.mod_eq_of_lt (htables.mapid row hrow), Nat.mod_eq_of_lt hid]
  rfl

theorem instanceId_lt_of_mem_dueEvents {entries : List (ℕ × ℕ × ℕ)} {e : ℤ × InstResetEvent}
    (he : e ∈ dueEvents now entries) : e.2.instanceId < 2 ^ 16 := by
  obtain ⟨entry, -, rfl⟩ := List.mem_map.mp he
  exact Nat.mod_lt _ (by decide)

section

variable (htables : tables.Ordered) (hone : tables.respawns.length ≤ 1)
  (hword : ∀ respawn ∈ tables.respawns, ∀ row ∈ tables.instances, row.resetTime ≠ 0 →
    row.id = respawn.2 → respawn.1 + 2 * hour < 2 ^ 32)
include htables hone hword

theorem perm_times :
    (loadInstances tables).times.entries.Perm
      ((tables.instances.filter fun row => row.resetTime ≠ 0).map fun row =>
        (row.id, makePair32 row.mapid row.difficulty, movedTime tables.respawns row)) := by
  have hnodup : ((tables.instances.filter fun row => row.resetTime ≠ 0).map fun row =>
      (row.id, makePair32 row.mapid row.difficulty, movedTime tables.respawns row)).Nodup := by
    refine List.Nodup.of_map Prod.fst ?_
    rw [List.map_map]
    exact List.pairwise_map.mpr ((htables.instances.filter _).imp fun h => Nat.ne_of_lt h)
  refine (List.perm_ext_iff_of_nodup (List.Nodup.of_map _ (keys_nodup _)) hnodup).mpr ?_
  rintro ⟨key, entry⟩
  rw [mem_entries, find?_times htables hone hword, List.mem_map]
  constructor
  · rintro ⟨row, hrow, hnormal, rfl, rfl⟩
    exact ⟨row, List.mem_filter.mpr ⟨hrow, decide_eq_true hnormal⟩, rfl⟩
  · rintro ⟨row, hrow, heq⟩
    obtain ⟨rfl, rfl⟩ := Prod.mk.inj heq
    obtain ⟨hrow, hnormal⟩ := List.mem_filter.mp hrow
    exact ⟨row, hrow, of_decide_eq_true hnormal, rfl, rfl⟩

theorem storedTime_updates {row : InstanceRow} (hrow : row ∈ tables.instances)
    (hnormal : row.resetTime ≠ 0) :
    storedTime (loadInstances tables).updates row = movedTime tables.respawns row := by
  rw [loadInstances_eq (List.ne_nil_of_mem hrow)]
  rcases hrespawns : tables.respawns with _ | ⟨respawn, _ | ⟨respawn', respawns⟩⟩
  · rfl
  · simp only [List.take_succ_cons, List.take_zero, List.foldl_cons, List.foldl_nil, moveReset]
    by_cases hid : row.id = respawn.2
    · have hfits := hword respawn (hrespawns ▸ List.mem_cons_self) row hrow hnormal hid
      have hmoved : movedTime [respawn] row = respawn.1 + 2 * hour := by
        rw [movedTime, List.find?_cons_of_pos (by simpa using hid.symm)]
      have hfind : (instResetTimes tables.instances).find? respawn.2 =
          some (makePair32 row.mapid row.difficulty, row.resetTime) :=
        (find?_instResetTimes htables.instances).mpr ⟨row, hrow, hnormal, hid, rfl⟩
      rw [hfind, hmoved, word, Nat.mod_eq_of_lt hfits]
      dsimp only
      split
      · simp [storedTime, hid]
      · rename_i hsame
        exact not_not.mp hsame
    · have hmoved : movedTime [respawn] row = row.resetTime := by
        rw [movedTime, List.find?_cons_of_neg (by simpa using Ne.symm hid), List.find?_nil]
      rw [hmoved]
      cases (instResetTimes tables.instances).find? respawn.2 with
      | none => rfl
      | some entry =>
        dsimp only
        split
        · simp [storedTime, Ne.symm hid]
        · rfl
  · rw [hrespawns, List.length_cons, List.length_cons] at hone
    omega

end

theorem filter_due (now : ℕ) (tables : InstanceTables) :
    ((tables.instances.filter fun row => row.resetTime ≠ 0).filter fun row =>
        decide (now < movedTime tables.respawns row)) =
      tables.instances.filter fun row =>
        row.resetTime ≠ 0 ∧ now < movedTime tables.respawns row := by
  rw [List.filter_filter]
  refine List.filter_congr fun row _ => ?_
  rw [← Bool.decide_and]
  exact decide_eq_decide.mpr and_comm

/-- **The events are those of the instances that are due** when these have numbers of 16 bits. -/
theorem perm_events_of_lt (env : InstanceEnv) (htables : tables.Ordered)
    (hone : tables.respawns.length ≤ 1)
    (hword : ∀ respawn ∈ tables.respawns, ∀ row ∈ tables.instances, row.resetTime ≠ 0 →
      row.id = respawn.2 → respawn.1 + 2 * hour < 2 ^ 32)
    (hid : ∀ row ∈ tables.instances, row.resetTime ≠ 0 → now < movedTime tables.respawns row →
      row.id < 2 ^ 16) :
    ((loadResetTimes env now tables new).resetTimeQueue.entries.filter
        fun e => e.2.type = 0).Perm
      ((tables.instances.filter fun row =>
          row.resetTime ≠ 0 ∧ now < movedTime tables.respawns row).map fun row =>
        ((movedTime tables.respawns row : ℤ), row.event)) := by
  refine (perm_events env now tables).trans ?_
  refine (((perm_times htables hone hword).filter _).map _).trans (.of_eq ?_)
  rw [List.filter_map, List.map_map]
  refine (List.map_congr_left fun row hrow => ?_).trans (congrArg _ (filter_due now tables))
  obtain ⟨hnormal, hdue⟩ := List.mem_filter.mp hrow
  obtain ⟨hmem, hnormal⟩ := List.mem_filter.mp hnormal
  exact congrArg _ (new_eq_event htables hmem
    (hid row hmem (of_decide_eq_true hnormal) (of_decide_eq_true hdue)))

/-- Where the events are right, the instances that are due have numbers of 16 bits. -/
theorem MovesResets.id_lt (h : MovesResets env now tables) {row : InstanceRow}
    (hrow : row ∈ tables.instances) (hnormal : row.resetTime ≠ 0)
    (hdue : now < movedTime tables.respawns row) : row.id < 2 ^ 16 := by
  have hmem : ((movedTime tables.respawns row : ℤ), row.event) ∈
      dueEvents now (loadInstances tables).times.entries := by
    refine ((perm_events env now tables).symm.trans h.events).mem_iff.mpr ?_
    exact List.mem_map_of_mem (List.mem_filter.mpr ⟨hrow, decide_eq_true ⟨hnormal, hdue⟩⟩)
  exact instanceId_lt_of_mem_dueEvents hmem

/-- **Resets are moved by respawns** if and only if there are no instances, or at most one of them
has respawns, the time of a normal one is a word, and those that are due have numbers of 16
bits. -/
theorem movesResets_iff (env : InstanceEnv) (now : ℕ) {tables : InstanceTables}
    (htables : tables.Ordered) :
    MovesResets env now tables ↔ tables.instances = [] ∨
      (tables.respawns.length ≤ 1 ∧
        (∀ respawn ∈ tables.respawns, ∀ row ∈ tables.instances, row.resetTime ≠ 0 →
          row.id = respawn.2 → respawn.1 + 2 * hour < 2 ^ 32) ∧
        ∀ row ∈ tables.instances, row.resetTime ≠ 0 → now < movedTime tables.respawns row →
          row.id < 2 ^ 16) := by
  constructor
  · intro h
    refine or_iff_not_imp_left.mpr fun hinst => ?_
    have hvisited := h.visited hinst
    rw [visited_loadInstances hinst] at hvisited
    have hone : tables.respawns.length ≤ 1 := by
      rw [← hvisited, List.length_take]
      exact min_le_left _ _
    refine ⟨hone, fun respawn hrespawn row hrow hnormal hid => ?_,
      fun row hrow hnormal hdue => h.id_lt hrow hnormal hdue⟩
    have hrespawns : tables.respawns = [respawn] := by
      rcases hrespawns : tables.respawns with _ | ⟨r, _ | ⟨r', rs⟩⟩
      · exact absurd (hrespawns ▸ hrespawn) List.not_mem_nil
      · have hmem : respawn ∈ [r] := hrespawns ▸ hrespawn
        rw [List.mem_singleton.mp hmem]
      · rw [hrespawns, List.length_cons, List.length_cons] at hone
        omega
    have htimes := h.times row hrow hnormal
    rw [times_loadInstances, hrespawns, find?_moveByRespawn,
      (find?_instResetTimes htables.instances).mpr ⟨row, hrow, hnormal, rfl, rfl⟩, movedTime,
      List.find?_cons_of_pos (by simpa using hid.symm), Option.map_some, if_pos hid] at htimes
    have hword := congrArg Prod.snd (Option.some.inj htimes)
    dsimp only at hword
    exact hword ▸ Nat.mod_lt _ (by decide)
  · rintro (hinst | ⟨hone, hword, hid⟩)
    · refine ⟨fun h => absurd hinst h, ?_, ?_, ?_⟩
      · rw [hinst]
        exact fun row hrow => absurd hrow List.not_mem_nil
      · rw [hinst]
        exact fun row hrow => absurd hrow List.not_mem_nil
      · refine (perm_events env now tables).trans (.of_eq ?_)
        rw [loadInstances_nil hinst, hinst]
        rfl
    · refine ⟨fun hinst => ?_, fun row hrow hnormal => ?_, fun row hrow hnormal => ?_,
        perm_events_of_lt env htables hone hword hid⟩
      · rw [visited_loadInstances hinst, List.take_of_length_le hone]
      · exact (find?_times htables hone hword).mpr ⟨row, hrow, hnormal, rfl, rfl⟩
      · exact storedTime_updates htables hone hword hrow hnormal

/-- Two instances, and a respawn in the first of them. -/
def oneRespawn : InstanceTables :=
  ⟨[⟨5, 33, 0, 100 * day⟩, ⟨6, 33, 0, 100 * day⟩], [(100 * day, 5)], []⟩

theorem movesResets_iff_oneRespawn :
    MovesResets weekEnv (99 * day) oneRespawn ↔ oneRespawn.instances = [] ∨
      (oneRespawn.respawns.length ≤ 1 ∧
        (∀ respawn ∈ oneRespawn.respawns, ∀ row ∈ oneRespawn.instances, row.resetTime ≠ 0 →
          row.id = respawn.2 → respawn.1 + 2 * hour < 2 ^ 32) ∧
        ∀ row ∈ oneRespawn.instances, row.resetTime ≠ 0 →
          99 * day < movedTime oneRespawn.respawns row → row.id < 2 ^ 16) :=
  movesResets_iff weekEnv (99 * day) ⟨by decide, by decide, by decide, by decide⟩

/-- Respawns in both instances. -/
def twoRespawns : InstanceTables :=
  ⟨[⟨5, 33, 0, 100 * day⟩, ⟨6, 33, 0, 100 * day⟩], [(100 * day, 5), (100 * day, 6)], []⟩

/-- **The second respawn is not read**: the reset of its instance stays where it was. -/
theorem not_movesResets_twoRespawns :
    ¬ ∀ (env : InstanceEnv) (now : ℕ) (tables : InstanceTables), tables.Ordered →
      MovesResets env now tables := by
  intro h
  have htimes := (h weekEnv (99 * day) twoRespawns
    ⟨by decide, by decide, by decide, by decide⟩).times
    ⟨6, 33, 0, 100 * day⟩ (by decide) (by decide)
  exact absurd htimes (by decide)

end InstanceSaveManager

end TeraCore
