import TeraCore.Commons.Run
import TeraCore.Instances.Turns
import Mathlib.Tactic.IntervalCases

/-!
# Resets of instances: the schedule of the maps

A map that has a period has one event in the queue.  It is next to the reset time of the map: an
hour, fifteen, five minutes or one before it.  A turn puts the next event of the map into the queue
and takes the first one away, which is the one that was worked off if the next one is behind it.

The times between resets are multiples of a day, except for the first one after a startup that
finds the stored reset time over.  Then whole periods are added to it, and a period is not a whole
number of days, since it is rounded with floats.  If the hour of that reset time is late, the reset
after it is less than a day later.

## Main results

* `InstanceSaveManager.OnTime.turn`: one turn
* `InstanceSaveManager.keepsSchedule_after`: every run after a startup that fits
* `InstanceSaveManager.not_keepsSchedule_after_pause`: a server that was paused for many periods
-/

namespace TeraCore

open Commons OrderedMap

namespace InstanceSaveManager

/-! ## What is claimed -/

/-- Is the entry an event of the map and difficulty? -/
def isGlobalOf (key : ℕ) (e : ℤ × InstResetEvent) : Bool :=
  e.2.type != 0 && makePair32 e.2.mapid e.2.difficulty == key

structure InTime (env : InstanceEnv) (mgr : InstanceSaveManager) (e : ℤ × InstResetEvent) :
    Prop where
  type : 1 ≤ e.2.type ∧ e.2.type ≤ 4
  periodic : ∃ mapDiff, env.getMapDifficultyData e.2.mapid e.2.difficulty = some mapDiff ∧
    mapDiff.resetTime ≠ 0
  time : e.1 = mgr.getResetTimeFor e.2.mapid e.2.difficulty - resetTimeDelay e.2.type

/-- **The queue is in step**: it has one event for every map and difficulty with a period, and no
other events of maps. -/
structure InStep (env : InstanceEnv) (mgr : InstanceSaveManager) : Prop where
  one : ∀ key mapDiff, env.sMapDifficultyMap.find? key = some mapDiff → mapDiff.resetTime ≠ 0 →
    mgr.resetTimeQueue.entries.countP (isGlobalOf key) = 1
  globals : ∀ e ∈ mgr.resetTimeQueue.entries, e.2.type ≠ 0 → InTime env mgr e

/-- **What a turn is to do**: the first event is taken away, and that of a map is followed by the
next one. A reset moves the reset time forward by a day, and that of no other map. -/
inductive ProperTurn (mgr mgr' : InstanceSaveManager) : Prop where
  | single (t : ℤ) (event : InstResetEvent) (rest : List (ℤ × InstResetEvent))
      (queue : mgr.resetTimeQueue.entries = (t, event) :: rest) (type : event.type = 0)
      (next : mgr'.resetTimeQueue.entries = rest)
      (times : mgr'.resetTimeByMapDifficulty = mgr.resetTimeByMapDifficulty)
  | warning (t : ℤ) (event : InstResetEvent) (rest : List (ℤ × InstResetEvent))
      (queue : mgr.resetTimeQueue.entries = (t, event) :: rest)
      (type : 1 ≤ event.type ∧ event.type ≤ 3)
      (next : mgr'.resetTimeQueue.entries.Perm
        ((mgr.getResetTimeFor event.mapid event.difficulty - resetTimeDelay (event.type + 1),
          { event with type := event.type + 1 }) :: rest))
      (times : mgr'.resetTimeByMapDifficulty = mgr.resetTimeByMapDifficulty)
  | reset (t : ℤ) (event : InstResetEvent) (rest : List (ℤ × InstResetEvent))
      (queue : mgr.resetTimeQueue.entries = (t, event) :: rest) (type : event.type = 4)
      (next : mgr'.resetTimeQueue.entries.Perm
        ((mgr'.getResetTimeFor event.mapid event.difficulty - resetTimeDelay 1,
          ⟨1, event.difficulty, event.mapid, 0⟩) :: rest))
      (forward : mgr.getResetTimeFor event.mapid event.difficulty + day ≤
        mgr'.getResetTimeFor event.mapid event.difficulty)
      (times : ∀ key, key ≠ makePair32 event.mapid event.difficulty →
        mgr'.resetTimeByMapDifficulty.find? key = mgr.resetTimeByMapDifficulty.find? key)

variable (env : InstanceEnv)

/-- **The schedule is kept** by a manager that is updated at the times of a list: after every update
the queue is in step, every turn of it is proper, and it ends. -/
def KeepsSchedule (env : InstanceEnv) : InstanceSaveManager → List ℕ → Prop
  | mgr, [] => InStep env mgr
  | mgr, now :: clocks => InStep env mgr ∧
      (∀ mgr₁ mgr₂, Relation.ReflTransGen (fun m m' => updateTurn env now m = some m') mgr mgr₁ →
        updateTurn env now mgr₁ = some mgr₂ → ProperTurn mgr₁ mgr₂) ∧
      ∃ mgr', update env now mgr = some mgr' ∧ KeepsSchedule env mgr' clocks

/-- The times that an update at `now` computes are words. -/
def TimesFit (now : ℕ) : Prop :=
  ∀ key mapDiff, env.sMapDifficultyMap.find? key = some mapDiff →
    now + 2 * minute + env.period mapDiff + env.diff ≤ 2 ^ 32

/-- The maps that have a period are maps of instances. -/
def Instanced : Prop :=
  ∀ key mapDiff, env.sMapDifficultyMap.find? key = some mapDiff → mapDiff.resetTime ≠ 0 →
    env.instanceable (loPart key) = true

/-! ## The next reset -/

/-- From the hour of the reset time, the next reset is a day later. -/
def Ready (mapDiff : MapDifficulty) (resetTime : ℕ) : Prop :=
  (resetTime + minute) % day + day ≤ env.period mapDiff + env.diff + minute

theorem ready_of_period (mapDiff : MapDifficulty) (days : ℕ) :
    Ready env mapDiff (days * day + env.period mapDiff + env.diff) := by
  have hday := day_le_period env mapDiff
  rw [Ready, minute_eq]
  rw [day_eq] at *
  omega

variable {env : InstanceEnv} {mapDiff : MapDifficulty} {mgr mgr' : InstanceSaveManager}
  {e : ℤ × InstResetEvent} {now : ℕ} {tables : InstanceTables} {todo : List (ℕ × MapDifficulty)}
  {entry : ℕ × MapDifficulty}

theorem ready_nextReset {resetTime : ℕ} (hready : Ready env mapDiff resetTime)
    (h : resetTime + minute + env.period mapDiff + env.diff < 2 ^ 32) :
    resetTime + day ≤ nextReset env mapDiff resetTime ∧
      Ready env mapDiff (nextReset env mapDiff resetTime) := by
  rw [(lt_nextReset h).1]
  refine ⟨?_, ready_of_period env mapDiff _⟩
  rw [Ready, minute_eq] at hready
  rw [minute_eq]
  rw [day_eq] at *
  omega

/-! ## One turn -/

/-- What the turns preserve. -/
structure OnTime (env : InstanceEnv) (mgr : InstanceSaveManager) : Prop where
  inStep : InStep env mgr
  narrow : ∀ e ∈ mgr.resetTimeQueue.entries, Narrow e.2
  ready : ∀ e ∈ mgr.resetTimeQueue.entries, e.2.type ≠ 0 → ∀ mapDiff,
    env.getMapDifficultyData e.2.mapid e.2.difficulty = some mapDiff →
      Ready env mapDiff (mgr.getResetTimeFor e.2.mapid e.2.difficulty)

theorem getResetTimeFor_congr
    (h : mgr'.resetTimeByMapDifficulty = mgr.resetTimeByMapDifficulty) (mapid difficulty : ℕ) :
    mgr'.getResetTimeFor mapid difficulty = mgr.getResetTimeFor mapid difficulty := by
  rw [getResetTimeFor, h, getResetTimeFor]

theorem isGlobalOf_of_type (h : e.2.type ≠ 0) (key : ℕ) :
    isGlobalOf key e = (makePair32 e.2.mapid e.2.difficulty == key) := by
  rw [isGlobalOf, bne_iff_ne.mpr h, Bool.true_and]

theorem OnTime.next (h : OnTime env mgr) (hfits : TimesFit env now)
    (he : e ∈ mgr.resetTimeQueue.entries) (hdue : e.1 < now) (htype : e.2.type = 4)
    (hfound : env.getMapDifficultyData e.2.mapid e.2.difficulty = some mapDiff) :
    e.1 = mgr.getResetTimeFor e.2.mapid e.2.difficulty - minute ∧
      mgr.getResetTimeFor e.2.mapid e.2.difficulty + day ≤
        nextReset env mapDiff (mgr.getResetTimeFor e.2.mapid e.2.difficulty) ∧
      Ready env mapDiff (nextReset env mapDiff (mgr.getResetTimeFor e.2.mapid e.2.difficulty)) := by
  have hglobal : e.2.type ≠ 0 := by omega
  have htime : e.1 = mgr.getResetTimeFor e.2.mapid e.2.difficulty - (minute : ℕ) := by
    rw [(h.inStep.globals e he hglobal).time, htype]
    rfl
  have hclock := hfits _ mapDiff hfound
  have hword : mgr.getResetTimeFor e.2.mapid e.2.difficulty + minute + env.period mapDiff +
      env.diff < 2 ^ 32 := by omega
  exact ⟨htime, ready_nextReset (h.ready e he hglobal mapDiff hfound) hword⟩

theorem OnTime.forward (h : OnTime env mgr) (hfits : TimesFit env now) : Forward env now mgr where
  narrow := h.narrow
  forward e he hdue htype mapDiff hfound := by
    have hnext := h.next hfits he hdue htype hfound
    have hclock := hfits _ mapDiff hfound
    have hday := day_le_period env mapDiff
    have hhour := hour_eq
    rw [day_eq] at *
    exact ⟨by omega, fun _ => by omega⟩

theorem OnTime.other_key
    (h : OnTime env mgr) {t : ℤ} {event : InstResetEvent} {rest : List (ℤ × InstResetEvent)}
    (first : DueFirst now mgr t event rest) (htype : event.type ≠ 0)
    (he : e ∈ rest) (hglobal : e.2.type ≠ 0) :
    makePair32 e.2.mapid e.2.difficulty ≠ makePair32 event.mapid event.difficulty := by
  intro hkey
  have hmem : (t, event) ∈ mgr.resetTimeQueue.entries := first.entries ▸ List.mem_cons_self
  obtain ⟨mapDiff, hfound, hperiod⟩ := (h.inStep.globals _ hmem htype).periodic
  have hone := h.inStep.one _ mapDiff hfound hperiod
  rw [first.entries, List.countP_cons_of_pos
    (by rw [isGlobalOf_of_type htype, BEq.rfl])] at hone
  have hnone := List.countP_eq_zero.mp (Nat.succ_inj.mp hone) e he
  exact hnone (by rw [isGlobalOf_of_type hglobal, hkey, BEq.rfl])

theorem OnTime.replace (h : OnTime env mgr) {t time : ℤ} {event new : InstResetEvent}
    {rest : List (ℤ × InstResetEvent)} (first : DueFirst now mgr t event rest)
    (htype : event.type ≠ 0)
    (hentries : mgr'.resetTimeQueue.entries.Perm ((time, new) :: rest))
    (hnew : Narrow new ∧ new.type ≠ 0) (hmapid : new.mapid = event.mapid)
    (hdifficulty : new.difficulty = event.difficulty)
    (htime : time = mgr'.getResetTimeFor event.mapid event.difficulty - resetTimeDelay new.type)
    (hready : ∀ mapDiff, env.getMapDifficultyData event.mapid event.difficulty = some mapDiff →
      Ready env mapDiff (mgr'.getResetTimeFor event.mapid event.difficulty))
    (hother : ∀ e ∈ rest, e.2.type ≠ 0 → mgr'.getResetTimeFor e.2.mapid e.2.difficulty =
      mgr.getResetTimeFor e.2.mapid e.2.difficulty) : OnTime env mgr' := by
  have hmem : (t, event) ∈ mgr.resetTimeQueue.entries := first.entries ▸ List.mem_cons_self
  have hrest : ∀ e ∈ rest, e ∈ mgr.resetTimeQueue.entries := fun e he =>
    first.entries ▸ List.mem_cons_of_mem _ he
  refine ⟨⟨fun key mapDiff hfound hperiod => ?_, fun e he hglobal => ?_⟩, fun e he => ?_,
    fun e he hglobal => ?_⟩
  · have hsame : isGlobalOf key (time, new) = isGlobalOf key (t, event) := by
      rw [isGlobalOf_of_type hnew.2, isGlobalOf_of_type htype, hmapid, hdifficulty]
    rw [hentries.countP_eq, List.countP_cons, hsame, ← List.countP_cons, ← first.entries]
    exact h.inStep.one key mapDiff hfound hperiod
  · rcases List.mem_cons.mp (hentries.mem_iff.mp he) with rfl | he
    · refine ⟨⟨Nat.one_le_iff_ne_zero.mpr hnew.2, hnew.1.type⟩, ?_, ?_⟩
      · rw [hmapid, hdifficulty]
        exact (h.inStep.globals _ hmem htype).periodic
      · rw [hmapid, hdifficulty]
        exact htime
    · have hglobals := h.inStep.globals e (hrest e he) hglobal
      refine ⟨hglobals.type, hglobals.periodic, ?_⟩
      rw [hother e he hglobal, hglobals.time]
  · rcases List.mem_cons.mp (hentries.mem_iff.mp he) with rfl | he
    · exact hnew.1
    · exact h.narrow e (hrest e he)
  · rcases List.mem_cons.mp (hentries.mem_iff.mp he) with rfl | he
    · rw [hmapid, hdifficulty]
      exact hready
    · rw [hother e he hglobal]
      exact h.ready e (hrest e he) hglobal

theorem new_of_narrow {type mapid difficulty : ℕ} (h : Narrow ⟨type, difficulty, mapid, 0⟩) :
    InstResetEvent.new type mapid difficulty 0 = ⟨type, difficulty, mapid, 0⟩ := by
  obtain ⟨htype, hdifficulty, hmapid⟩ := h
  have hsmall : type < 2 ^ 8 := htype.trans_lt (by decide)
  rw [InstResetEvent.new, Nat.mod_eq_of_lt hsmall, Nat.mod_eq_of_lt hmapid,
    Nat.mod_eq_of_lt hdifficulty, Nat.zero_mod]

theorem loPart_makePair32 {mapid : ℕ} (h : mapid < 2 ^ 16) (difficulty : ℕ) :
    loPart (makePair32 mapid difficulty) = mapid := by
  rw [loPart, makePair32]
  omega

theorem resetTimeDelay_succ_lt {type : ℕ} (h : 1 ≤ type ∧ type ≤ 3) :
    resetTimeDelay (type + 1) < resetTimeDelay type := by
  obtain ⟨hone, hthree⟩ := h
  interval_cases type <;> decide

theorem first_warning {resetTime next : ℕ} (h : resetTime + day ≤ next) (hword : next < 2 ^ 32) :
    ((wordSub next hour : ℕ) : ℤ) = next - resetTimeDelay 1 ∧
      (resetTime - minute : ℤ) ≤ next - resetTimeDelay 1 := by
  have hdelay : resetTimeDelay 1 = 3600 := rfl
  rw [day_eq] at h
  rw [wordSub_of_le (by rw [hour_eq]; omega) hword, hdelay, hour_eq, minute_eq]
  omega

/-- **One turn** keeps the queue in step, and is proper. -/
theorem OnTime.turn
    (hinst : Instanced env) (h : OnTime env mgr) (hfits : TimesFit env now)
    (hturn : Turn env now mgr mgr') :
    OnTime env mgr' ∧ ProperTurn mgr mgr' := by
  have hmem : ∀ {t event rest}, DueFirst now mgr t event rest →
      (t, event) ∈ mgr.resetTimeQueue.entries := fun first =>
    first.entries ▸ List.mem_cons_self
  have hrest : ∀ {t event rest}, DueFirst now mgr t event rest → ∀ e ∈ rest,
      e ∈ mgr.resetTimeQueue.entries := fun first e he =>
    first.entries ▸ List.mem_cons_of_mem _ he
  cases hturn with
  | single t event rest first type entries times =>
    refine ⟨⟨⟨fun key mapDiff hfound hperiod => ?_, fun e he hglobal => ?_⟩, fun e he => ?_,
      fun e he => ?_⟩, .single t event rest first.entries type entries times⟩
    · have hone := h.inStep.one key mapDiff hfound hperiod
      rw [first.entries, List.countP_cons_of_neg (by simp [isGlobalOf, type])] at hone
      rw [entries, hone]
    · have hglobals := h.inStep.globals e (hrest first e (entries ▸ he)) hglobal
      refine ⟨hglobals.type, hglobals.periodic, ?_⟩
      rw [getResetTimeFor_congr times, hglobals.time]
    · exact h.narrow e (hrest first e (entries ▸ he))
    · rw [getResetTimeFor_congr times]
      exact h.ready e (hrest first e (entries ▸ he))
  | dropped t event rest first type noPeriod =>
    -- A map whose event is in the queue has a period, and is one of the maps that are reset.
    have htype : event.type ≠ 0 := by omega
    obtain ⟨mapDiff, hfound, hperiod⟩ := (h.inStep.globals _ (hmem first) htype).periodic
    have hmapid := loPart_makePair32 (h.narrow _ (hmem first)).mapid event.difficulty
    have hmap := hinst _ mapDiff hfound hperiod
    rw [hmapid] at hmap
    exact absurd (noPeriod mapDiff hfound hmap) hperiod
  | warned t event rest first type entries times =>
    have hglobals := h.inStep.globals _ (hmem first) type.1
    have htype : 1 ≤ event.type ∧ event.type ≤ 3 := by
      have hle : 1 ≤ event.type ∧ event.type ≤ 4 := hglobals.type
      omega
    have hcount : countUp event = { event with type := event.type + 1 } := by
      rw [countUp, Nat.mod_eq_of_lt (by omega)]
    -- The next event is later than the one that is worked off, and so it is behind it.
    have hlater : ¬ (mgr.getResetTimeFor event.mapid event.difficulty -
        resetTimeDelay (event.type + 1) : ℤ) < t := by
      have htime : t = mgr.getResetTimeFor event.mapid event.difficulty -
        resetTimeDelay event.type := hglobals.time
      have hlt := resetTimeDelay_succ_lt htype
      omega
    rw [hcount, requeue, if_neg hlater] at entries
    have hperm := entries ▸ Multimap.perm_insertEntry
      (mgr.getResetTimeFor event.mapid event.difficulty - resetTimeDelay (event.type + 1))
      { event with type := event.type + 1 } rest
    refine ⟨h.replace first type.1 hperm ⟨hcount ▸ narrow_countUp (h.narrow _ (hmem first)) type.2,
      Nat.succ_ne_zero _⟩ rfl rfl ?_ (fun mapDiff hfound => ?_) fun e _ _ => ?_,
      .warning t event rest first.entries htype hperm times⟩
    · rw [getResetTimeFor_congr times]
    · rw [getResetTimeFor_congr times]
      exact h.ready _ (hmem first) type.1 mapDiff hfound
    · rw [getResetTimeFor_congr times]
  | renewed t event rest first type mapDiff found next hnext entries times =>
    have hnarrow := h.narrow _ (hmem first)
    obtain ⟨htime, hforward, hready⟩ := h.next hfits (hmem first) first.due type found
    dsimp only at htime hforward hready
    rw [← hnext] at hforward hready
    have hnew : InstResetEvent.new 1 event.mapid event.difficulty 0 =
        ⟨1, event.difficulty, event.mapid, 0⟩ :=
      new_of_narrow ⟨(by decide : 1 ≤ 4), hnarrow.difficulty, hnarrow.mapid⟩
    have hnext' : mgr'.getResetTimeFor event.mapid event.difficulty = next := by
      rw [getResetTimeFor, times, find?_set_self, Option.getD_some]
    have hfirst := first_warning hforward (hnext ▸ word_lt _)
    have hlater : ¬ (next - resetTimeDelay 1 : ℤ) < t := by
      rw [htime, not_lt]
      exact hfirst.2
    rw [hnew, hfirst.1, requeue, if_neg hlater] at entries
    have hperm := entries ▸ Multimap.perm_insertEntry (next - resetTimeDelay 1 : ℤ)
      (InstResetEvent.mk 1 event.difficulty event.mapid 0) rest
    have hother : ∀ key, key ≠ makePair32 event.mapid event.difficulty →
        mgr'.resetTimeByMapDifficulty.find? key = mgr.resetTimeByMapDifficulty.find? key :=
      fun key hkey => by rw [times, find?_set_of_ne _ _ hkey]
    refine ⟨h.replace first (by omega) hperm ⟨⟨(by decide : 1 ≤ 4), hnarrow.difficulty,
      hnarrow.mapid⟩, Nat.one_ne_zero⟩ rfl rfl (by rw [hnext']) (fun mapDiff' hfound => ?_)
        fun e he hglobal => ?_,
      .reset t event rest first.entries type (by rwa [hnext']) (by rwa [hnext']) hother⟩
    · rw [found] at hfound
      cases hfound
      rwa [hnext']
    · rw [getResetTimeFor, hother _ (h.other_key first (by omega) he hglobal), getResetTimeFor]

/-! ## Runs -/

theorem OnTime.keepsSchedule
    (hinst : Instanced env) (h : OnTime env mgr) {clocks : List ℕ}
    (hclocks : ∀ now ∈ clocks, TimesFit env now) :
    KeepsSchedule env mgr clocks := by
  induction clocks generalizing mgr with
  | nil => exact h.inStep
  | cons now clocks ih =>
    have hfits := hclocks now List.mem_cons_self
    have hreached : ∀ mgr₁,
        Relation.ReflTransGen (fun m m' => updateTurn env now m = some m') mgr mgr₁ →
        OnTime env mgr₁ := by
      intro mgr₁ hturns
      induction hturns with
      | refl => exact h
      | tail _ hturn ih => exact (ih.turn hinst hfits (turn_of_updateTurn hturn)).1
    refine ⟨h.inStep, fun mgr₁ mgr₂ hturns hturn => ?_, ?_⟩
    · exact ((hreached mgr₁ hturns).turn hinst hfits (turn_of_updateTurn hturn)).2
    · obtain ⟨mgr', hmgr, hend, -⟩ := update_rule (OnTime env) (fun mgr₁ mgr₂ hinv hturn =>
        ⟨(hinv.turn hinst hfits hturn).1, load_lt_of_turn (hinv.forward hfits) hturn⟩) h
      exact ⟨mgr', hmgr, ih hend fun later hlater => hclocks later (List.mem_cons_of_mem _ hlater)⟩

/-! ## The startup -/

/-- **The stored times for which a reset is a day before the next**: when a stored time is over, the
time of the day of the new one, which is whole periods after it, is not too late. -/
def FitsStored (env : InstanceEnv) (now : ℕ) (row : ResetRow) : Prop :=
  ∀ mapDiff, env.getMapDifficultyData row.mapid row.difficulty = some mapDiff →
    mapDiff.resetTime ≠ 0 → normalise env row.resetTime ≠ 0 → normalise env row.resetTime < now →
    let periods := (now / day * day - row.resetTime / day * day) / env.period mapDiff + 1
    (periods * env.period mapDiff + env.diff + minute) % day + day ≤
      env.period mapDiff + env.diff + minute

theorem normalise_div (hhour : env.resetTimeHour ≤ 23) (resetTime : ℕ) :
    normalise env resetTime / day * day = resetTime / day * day := by
  rw [normalise, InstanceEnv.diff, hour_eq, day_eq]
  omega

theorem ready_loadedTime {stored : ℕ} (hhour : env.resetTimeHour ≤ 23)
    (hstored : stored = 0 ∨ ∃ row : ResetRow, stored = normalise env row.resetTime ∧
      env.getMapDifficultyData row.mapid row.difficulty = some mapDiff ∧
      mapDiff.resetTime ≠ 0 ∧ FitsStored env now row) :
    Ready env mapDiff (loadedTime env now mapDiff stored) := by
  have hperiod := day_le_period env mapDiff
  rw [loadedTime]
  rcases hstored with rfl | ⟨row, rfl, hfound, hresets, hfits⟩
  · rw [if_pos rfl, if_neg]
    · exact ready_of_period env mapDiff _
    · rw [day_eq] at *
      omega
  by_cases hzero : normalise env row.resetTime = 0
  · rw [if_pos hzero, if_neg]
    · exact ready_of_period env mapDiff _
    · rw [day_eq] at *
      omega
  rw [if_neg hzero]
  split_ifs with hover
  · have hlate := hfits mapDiff hfound hresets hzero hover
    rw [normalise_div hhour, Ready]
    -- Whole days before the periods do not matter.
    have hday : ∀ days n : ℕ, (days * day + n + minute) % day = (n + minute) % day := by
      intro days n
      rw [Nat.add_assoc, Nat.mul_add_mod_self_right]
    rwa [hday]
  · -- A stored time that is not over is at the hour of the reset.
    rw [Ready, normalise, InstanceEnv.diff, minute_eq, hour_eq]
    rw [day_eq] at *
    omega

theorem firstType_mem (now t : ℕ) : 1 ≤ firstType now t ∧ firstType now t ≤ 4 := by
  rw [firstType]
  split_ifs <;> omega

theorem makePair32_parts {key : ℕ} (h : key < 2 ^ 24) :
    makePair32 (loPart key) (hiPart key) = key ∧ hiPart key < 2 ^ 8 := by
  rw [makePair32, loPart, hiPart]
  omega

/-- **Between the maps of the startup**: the maps that are left have no event yet, and their times
are the stored ones. -/
structure Loading (env : InstanceEnv) (tables : InstanceTables) (todo : List (ℕ × MapDifficulty))
    (mgr : InstanceSaveManager) : Prop where
  narrow : ∀ e ∈ mgr.resetTimeQueue.entries, Narrow e.2
  one : ∀ key mapDiff, env.sMapDifficultyMap.find? key = some mapDiff → mapDiff.resetTime ≠ 0 →
    (key, mapDiff) ∉ todo → mgr.resetTimeQueue.entries.countP (isGlobalOf key) = 1
  globals : ∀ e ∈ mgr.resetTimeQueue.entries, e.2.type ≠ 0 → InTime env mgr e ∧
    ∀ e' ∈ todo, e'.1 ≠ makePair32 e.2.mapid e.2.difficulty
  ready : ∀ e ∈ mgr.resetTimeQueue.entries, e.2.type ≠ 0 → ∀ mapDiff,
    env.getMapDifficultyData e.2.mapid e.2.difficulty = some mapDiff →
      Ready env mapDiff (mgr.getResetTimeFor e.2.mapid e.2.difficulty)
  stored : ∀ e ∈ todo, ∀ resetTime, mgr.resetTimeByMapDifficulty.find? e.1 = some resetTime →
    ∃ row ∈ tables.resets, makePair32 row.mapid row.difficulty = e.1 ∧
      resetTime = normalise env row.resetTime

theorem Loading.countP_eq_zero (h : Loading env tables todo mgr) (hentry : entry ∈ todo) :
    mgr.resetTimeQueue.entries.countP (isGlobalOf entry.1) = 0 := by
  refine List.countP_eq_zero.mpr fun e he hglobal => ?_
  obtain ⟨htype, hkey⟩ := Bool.and_eq_true_iff.mp hglobal
  exact (h.globals e he (bne_iff_ne.mp htype)).2 entry hentry (beq_iff_eq.mp hkey).symm

theorem loadGlobal_of_zero {rows : List InstanceRow} (h : entry.2.resetTime = 0) :
    loadGlobal env now rows mgr entry = mgr := if_pos h

theorem loadGlobal_of_ne {rows : List InstanceRow} (h : entry.2.resetTime ≠ 0)
    (hrows : ∀ row ∈ rows, row.resetTime ≠ 0 → makePair32 row.mapid row.difficulty ≠ entry.1) :
    loadGlobal env now rows mgr entry =
      let t := loadedTime env now entry.2 (mgr.getResetTimeFor (loPart entry.1) (hiPart entry.1))
      (mgr.setResetTimeFor (loPart entry.1) (hiPart entry.1) t).scheduleReset true
        (t - resetTimeDelay (firstType now t))
        (.new (firstType now t) (loPart entry.1) (hiPart entry.1) 0) := by
  have hnone : (rows.filter fun row =>
      row.resetTime ≠ 0 ∧ makePair32 row.mapid row.difficulty = entry.1) = [] :=
    List.filter_eq_nil_iff.mpr fun row hrow => by simpa using hrows row hrow
  rw [loadGlobal, if_neg h]
  rw [hnone, List.foldl_nil]

theorem Loading.add {key : ℕ} {time : ℤ} {t : ℕ}
    {new : InstResetEvent} (h : Loading env tables ((key, mapDiff) :: todo) mgr)
    (hentries : mgr'.resetTimeQueue.entries.Perm ((time, new) :: mgr.resetTimeQueue.entries))
    (htimes : mgr'.resetTimeByMapDifficulty = mgr.resetTimeByMapDifficulty.set key t)
    (hnarrow : Narrow new) (htype : new.type ≠ 0) (hkey : makePair32 new.mapid new.difficulty = key)
    (htime : time = t - resetTimeDelay new.type)
    (hfound : env.sMapDifficultyMap.find? key = some mapDiff) (hperiod : mapDiff.resetTime ≠ 0)
    (hready : Ready env mapDiff t) (hfirst : ∀ e ∈ todo, key < e.1) :
    Loading env tables todo mgr' := by
  have hnext : mgr'.getResetTimeFor new.mapid new.difficulty = t := by
    rw [getResetTimeFor, htimes, hkey, find?_set_self, Option.getD_some]
  -- The events of the other maps have the times that they had.
  have hother : ∀ e ∈ mgr.resetTimeQueue.entries, e.2.type ≠ 0 →
      mgr'.getResetTimeFor e.2.mapid e.2.difficulty =
        mgr.getResetTimeFor e.2.mapid e.2.difficulty := fun e he hglobal => by
    have hne := (h.globals e he hglobal).2 _ List.mem_cons_self
    rw [getResetTimeFor, htimes, find?_set_of_ne _ _ hne.symm, getResetTimeFor]
  refine ⟨fun e he => ?_, fun key' mapDiff' hfound' hperiod' hnot => ?_, fun e he hglobal => ?_,
    fun e he hglobal => ?_, fun e he resetTime hstored => ?_⟩
  · rcases List.mem_cons.mp (hentries.mem_iff.mp he) with rfl | he
    · exact hnarrow
    · exact h.narrow e he
  · rw [hentries.countP_eq, List.countP_cons, isGlobalOf_of_type htype, hkey]
    by_cases hsame : key' = key
    · rw [hsame, h.countP_eq_zero List.mem_cons_self, BEq.rfl]
      rfl
    · rw [beq_eq_false_iff_ne.mpr (Ne.symm hsame)]
      refine h.one key' mapDiff' hfound' hperiod' fun hmem => ?_
      rcases List.mem_cons.mp hmem with heq | hmem
      · exact hsame (congrArg Prod.fst heq)
      · exact hnot hmem
  · rcases List.mem_cons.mp (hentries.mem_iff.mp he) with rfl | he
    · refine ⟨⟨⟨Nat.one_le_iff_ne_zero.mpr htype, hnarrow.type⟩, ⟨mapDiff, ?_, hperiod⟩, ?_⟩,
        fun e' he' => ?_⟩
      · rw [InstanceEnv.getMapDifficultyData, hkey]
        exact hfound
      · rw [hnext]
        exact htime
      · rw [hkey]
        exact (hfirst e' he').ne'
    · obtain ⟨hold, hkeys⟩ := h.globals e he hglobal
      refine ⟨⟨hold.type, hold.periodic, ?_⟩, fun e' he' => hkeys e' (List.mem_cons_of_mem _ he')⟩
      rw [hother e he hglobal, hold.time]
  · rcases List.mem_cons.mp (hentries.mem_iff.mp he) with rfl | he
    · intro mapDiff' hfound'
      rw [InstanceEnv.getMapDifficultyData, hkey, hfound] at hfound'
      cases hfound'
      rwa [hnext]
    · rw [hother e he hglobal]
      exact h.ready e he hglobal
  · rw [htimes, find?_set_of_ne _ _ (hfirst e he).ne'] at hstored
    exact h.stored e (List.mem_cons_of_mem _ he) resetTime hstored

theorem Loading.loadGlobal
    (hhour : env.resetTimeHour ≤ 23) (hfits : ∀ row ∈ tables.resets, FitsStored env now row)
    (hrows : ∀ row ∈ tables.instances, row.resetTime ≠ 0 → ∀ mapDiff,
      env.sMapDifficultyMap.find? (makePair32 row.mapid row.difficulty) = some mapDiff →
        mapDiff.resetTime = 0)
    (hfound : env.sMapDifficultyMap.find? entry.1 = some entry.2)
    (hfirst : ∀ e ∈ todo, entry.1 < e.1) (h : Loading env tables (entry :: todo) mgr) :
    Loading env tables todo (loadGlobal env now tables.instances mgr entry) := by
  obtain ⟨key, mapDiff⟩ := entry
  by_cases hperiod : mapDiff.resetTime = 0
  · rw [loadGlobal_of_zero hperiod]
    refine ⟨h.narrow, fun key' mapDiff' hfound' hperiod' hnot => ?_, fun e he hglobal => ?_,
      h.ready,
      fun e he => h.stored e (List.mem_cons_of_mem _ he)⟩
    · refine h.one key' mapDiff' hfound' hperiod' fun hmem => ?_
      rcases List.mem_cons.mp hmem with heq | hmem
      · cases heq
        exact hperiod' hperiod
      · exact hnot hmem
    · obtain ⟨htime, hkeys⟩ := h.globals e he hglobal
      exact ⟨htime, fun e' he' => hkeys e' (List.mem_cons_of_mem _ he')⟩
  rw [loadGlobal_of_ne hperiod fun row hrow hreset hkey =>
    hperiod (hrows row hrow hreset mapDiff (hkey ▸ hfound))]
  dsimp only
  generalize ht : loadedTime env now mapDiff (mgr.getResetTimeFor (loPart key) (hiPart key)) = t
  obtain ⟨hpair, hhigh⟩ := makePair32_parts (env.narrow key mapDiff hfound)
  have hnew : InstResetEvent.new (firstType now t) (loPart key) (hiPart key) 0 =
      ⟨firstType now t, hiPart key, loPart key, 0⟩ :=
    new_of_narrow ⟨(firstType_mem now t).2, hhigh, Nat.mod_lt _ (by decide)⟩
  rw [hnew]
  refine h.add (Multimap.perm_insert _ _ _) ?_ ⟨(firstType_mem now t).2, hhigh,
    Nat.mod_lt _ (by decide)⟩
    (Nat.one_le_iff_ne_zero.mp (firstType_mem now t).1) hpair rfl hfound hperiod ?_ hfirst
  · show mgr.resetTimeByMapDifficulty.set (makePair32 (loPart key) (hiPart key)) t = _
    rw [hpair]
  · -- The stored time is one of the table, if there is one.
    rw [← ht]
    refine ready_loadedTime hhour ?_
    rw [getResetTimeFor, hpair]
    cases hstored : mgr.resetTimeByMapDifficulty.find? key with
    | none => exact .inl rfl
    | some stored =>
      obtain ⟨row, hrow, hkey, hnormal⟩ := h.stored _ List.mem_cons_self stored hstored
      refine .inr ⟨row, hnormal, ?_, hperiod, hfits row hrow⟩
      rw [InstanceEnv.getMapDifficultyData, hkey]
      exact hfound

theorem scheduleInstances_spec (now : ℕ) (times : OrderedMap ℕ (ℕ × ℕ)) :
    (∀ e ∈ (scheduleInstances now times new).resetTimeQueue.entries,
      Narrow e.2 ∧ e.2.type = 0) ∧
    (scheduleInstances now times new).resetTimeByMapDifficulty = OrderedMap.empty := by
  rw [scheduleInstances]
  refine foldl_invariant (fun mgr : InstanceSaveManager =>
    (∀ e ∈ mgr.resetTimeQueue.entries, Narrow e.2 ∧ e.2.type = 0) ∧
      mgr.resetTimeByMapDifficulty = OrderedMap.empty) (fun mgr entry _ hmgr => ?_)
    ⟨fun e he => absurd he List.not_mem_nil, rfl⟩
  split_ifs
  · refine ⟨fun e he => ?_, hmgr.2⟩
    rcases (Multimap.mem_insert _ _ _).mp he with rfl | he
    · exact ⟨narrow_new (Nat.zero_le 4), rfl⟩
    · exact hmgr.1 e he
  · exact hmgr

theorem readResets_spec
    (hmgr : mgr.resetTimeByMapDifficulty = OrderedMap.empty) (resets : List ResetRow) :
    (resets.foldl (readReset env) mgr).resetTimeQueue = mgr.resetTimeQueue ∧
      ∀ key resetTime, (resets.foldl (readReset env) mgr).resetTimeByMapDifficulty.find? key =
        some resetTime → ∃ row ∈ resets, makePair32 row.mapid row.difficulty = key ∧
          resetTime = normalise env row.resetTime := by
  refine foldl_invariant (fun mgr' : InstanceSaveManager =>
    mgr'.resetTimeQueue = mgr.resetTimeQueue ∧ ∀ key resetTime,
      mgr'.resetTimeByMapDifficulty.find? key = some resetTime →
        ∃ row ∈ resets, makePair32 row.mapid row.difficulty = key ∧
          resetTime = normalise env row.resetTime) (fun mgr' row hrow hinv => ?_)
    ⟨rfl, fun key resetTime hstored => ?_⟩
  · rw [readReset]
    split
    · exact hinv
    · refine ⟨hinv.1, fun key resetTime hstored => ?_⟩
      rw [setResetTimeFor, find?_set] at hstored
      split_ifs at hstored with hkey
      · exact ⟨row, hrow, hkey.symm, (Option.some.inj hstored).symm⟩
      · exact hinv.2 key resetTime hstored
  · rw [hmgr] at hstored
    cases hstored

section

variable (hhour : env.resetTimeHour ≤ 23) (hfits : ∀ row ∈ tables.resets, FitsStored env now row)
  (hrows : ∀ row ∈ tables.instances, row.resetTime ≠ 0 →
    ∀ mapDiff, env.sMapDifficultyMap.find? (makePair32 row.mapid row.difficulty) = some mapDiff →
      mapDiff.resetTime = 0)
include hhour hfits hrows

theorem Loading.foldl (hfound : ∀ entry ∈ todo, env.sMapDifficultyMap.find? entry.1 = some entry.2)
    (hsorted : todo.Pairwise fun e e' => e.1 < e'.1) (h : Loading env tables todo mgr) :
    Loading env tables []
    (todo.foldl (InstanceSaveManager.loadGlobal env now tables.instances) mgr) := by
  induction todo generalizing mgr with
  | nil => exact h
  | cons entry todo ih =>
    obtain ⟨hfirst, hrest⟩ := List.pairwise_cons.mp hsorted
    exact ih (fun e he => hfound e (List.mem_cons_of_mem _ he)) hrest
      (h.loadGlobal hhour hfits hrows (hfound entry List.mem_cons_self) hfirst)

/-- **The startup** puts the queue in step. -/
theorem onTime_loadResetTimes : OnTime env (loadResetTimes env now tables new) := by
  obtain ⟨hsingles, htimes⟩ := scheduleInstances_spec now
    (moveByRespawn tables.respawns (instResetTimes tables.instances))
  obtain ⟨hqueue, hstored⟩ := readResets_spec htimes tables.resets
  have hstart : Loading env tables env.sMapDifficultyMap.entries
      (tables.resets.foldl (readReset env) (scheduleInstances now
        (moveByRespawn tables.respawns (instResetTimes tables.instances)) new)) := by
    rw [← hqueue] at hsingles
    refine ⟨fun e he => (hsingles e he).1, fun key mapDiff hfound _ hnot => ?_,
      fun e he hglobal => absurd (hsingles e he).2 hglobal,
      fun e he hglobal => absurd (hsingles e he).2 hglobal, fun e _ => hstored e.1⟩
    exact absurd (mem_entries.mpr hfound) hnot
  have hend := hstart.foldl hhour hfits hrows (fun entry hentry => mem_entries.mp hentry)
    env.sMapDifficultyMap.sorted
  exact ⟨⟨fun key mapDiff hfound hperiod => hend.one key mapDiff hfound hperiod List.not_mem_nil,
    fun e he hglobal => (hend.globals e he hglobal).1⟩, hend.narrow, hend.ready⟩

end

/-- **The schedule is kept** by every run, after a startup with stored times that fit. -/
theorem keepsSchedule_after {env : InstanceEnv} {now : ℕ} {tables : InstanceTables}
    {clocks : List ℕ} (hhour : env.resetTimeHour ≤ 23)
    (hrows : ∀ row ∈ tables.instances, row.resetTime ≠ 0 → ∀ mapDiff,
      env.sMapDifficultyMap.find? (makePair32 row.mapid row.difficulty) = some mapDiff →
        mapDiff.resetTime = 0)
    (hclocks : ∀ clock ∈ clocks, TimesFit env clock) (hinst : Instanced env)
    (hfits : ∀ row ∈ tables.resets, FitsStored env now row) :
    KeepsSchedule env (loadResetTimes env now tables new) clocks :=
  (onTime_loadResetTimes hhour hfits hrows).keepsSchedule hinst hclocks

/-- A raid that is reset once a week, at four o'clock. -/
def weekEnv : InstanceEnv := .oneMap 533 (7 * day) id 4

/-- The raid was reset a day ago, and an instance of another map is to be reset today. -/
def weekTables : InstanceTables := ⟨[⟨5, 33, 0, 100 * day + hour⟩], [], [⟨533, 0, 99 * day⟩]⟩

theorem keepsSchedule_after_week :
    KeepsSchedule weekEnv (loadResetTimes weekEnv (100 * day) weekTables new)
      [101 * day, 107 * day] := by
  refine keepsSchedule_after (by decide) ?_ ?_ (fun _ _ _ _ => rfl) ?_
  · intro row hrow _ mapDiff hfound
    obtain rfl := List.mem_singleton.mp hrow
    cases hfound
  · intro clock hclock key mapDiff hfound
    rw [InstanceEnv.find?_oneMap hfound]
    revert clock
    decide
  · intro row hrow mapDiff hfound
    obtain rfl := List.mem_singleton.mp hrow
    rw [InstanceEnv.find?_oneMap hfound]
    decide

/-- A map that is reset once a day, at a rate of 129/128. -/
def slowEnv : InstanceEnv := .oneMap 33 day (fun resetTime => resetTime * 129 / 128) 0

/-- The map was reset on the first day. -/
def pausedTables : InstanceTables := ⟨[], [], [⟨33, 0, day⟩]⟩

/-- **A server that was paused for 127 days**: the new reset time is late at night, and the reset
after it is 1350 seconds later. -/
theorem not_keepsSchedule_after_pause :
    ¬ ∀ (env : InstanceEnv) (now : ℕ) (tables : InstanceTables) (clocks : List ℕ),
      env.resetTimeHour ≤ 23 →
      (∀ row ∈ tables.instances, row.resetTime ≠ 0 → ∀ mapDiff,
        env.sMapDifficultyMap.find? (makePair32 row.mapid row.difficulty) = some mapDiff →
          mapDiff.resetTime = 0) →
      (∀ clock ∈ clocks, TimesFit env clock) → (now :: clocks).Pairwise (· ≤ ·) →
      Instanced env → KeepsSchedule env (loadResetTimes env now tables new) clocks := by
  intro h
  obtain ⟨-, hproper, -⟩ := h slowEnv 11144725 pausedTables [11144925] (by decide)
    (fun row hrow => absurd hrow List.not_mem_nil) (fun clock hclock key mapDiff hfound => by
      rw [InstanceEnv.find?_oneMap hfound, List.mem_singleton.mp hclock]
      decide) (by decide) fun _ _ _ _ => rfl
  have hqueue : (loadResetTimes slowEnv 11144725 pausedTables new).resetTimeQueue.entries =
      [(11144865, ⟨4, 0, 33, 0⟩)] := by decide +kernel
  have htimes : (loadResetTimes slowEnv 11144725 pausedTables new).getResetTimeFor 33 0 =
      11144925 := by decide +kernel
  have hnext : (updateTurn slowEnv 11144925 (loadResetTimes slowEnv 11144725 pausedTables new)).map
      (fun mgr => mgr.getResetTimeFor 33 0) = some 11146275 := by decide +kernel
  obtain ⟨mgr, hturn, hmgr⟩ := Option.map_eq_some_iff.mp hnext
  cases hproper _ mgr .refl hturn with
  | single t event rest queue type =>
    rw [hqueue] at queue
    cases queue
    cases type
  | warning t event rest queue type =>
    rw [hqueue] at queue
    cases queue
    exact absurd type.2 (by decide)
  | reset t event rest queue type _ forward =>
    rw [hqueue] at queue
    cases queue
    rw [htimes, hmgr, day_eq] at forward
    omega

end InstanceSaveManager

end TeraCore
