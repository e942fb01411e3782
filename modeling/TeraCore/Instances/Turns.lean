import TeraCore.Instances.InstanceSaveMgr
import Mathlib.Algebra.Group.Action.Defs
import Mathlib.Algebra.Order.BigOperators.Group.List
import Mathlib.Tactic.Ring

/-!
# Resets of instances: the loop of an update

An update works off the events that are due.  A turn of its loop removes an event of a single
instance, or replaces an event of a map by the next one.  The next one is inserted first, and what
is removed then is the first event of the queue: the one that was worked off, if the next one is
not before it.

The loop ends.  Every turn works off an event for good, or brings an event nearer to its reset, or
moves a reset time forward, and an event whose reset time is an hour ahead is no longer due.  The
reset times are unsigned words; one that wraps around does so with an event that is far ahead of
the others.

## Main results

* `InstanceSaveManager.turn_of_updateTurn`: a turn does one of these things
* `InstanceSaveManager.load_lt_of_turn`: every turn makes the load smaller
* `InstanceSaveManager.update_rule`: the loop ends, and keeps what turns preserve
-/

namespace TeraCore

open Commons

namespace InstanceSaveManager

/-! ## One turn -/

variable (t : ℤ) (old : InstResetEvent) (time : ℤ) (event : InstResetEvent)
  (rest : List (ℤ × InstResetEvent))

/-- What is left of a queue when a new event is inserted, and then the first one is removed: it is
the new event when that is before the first one. -/
def requeue : List (ℤ × InstResetEvent) :=
  if time < t then (t, old) :: rest else Multimap.insertEntry time event rest

theorem tail_insertEntry :
    (Multimap.insertEntry time event ((t, old) :: rest)).tail = requeue t old time event rest := by
  rw [requeue]
  split_ifs with hlt
  · rw [Multimap.insertEntry_cons_of_lt time event rest hlt, List.tail_cons]
  · rw [Multimap.insertEntry_cons_of_le time event rest (not_lt.mp hlt), List.tail_cons]

structure DueFirst (now : ℕ) (mgr : InstanceSaveManager) (t : ℤ) (event : InstResetEvent)
    (rest : List (ℤ × InstResetEvent)) : Prop where
  entries : mgr.resetTimeQueue.entries = (t, event) :: rest
  due : t < now

/-- **What one turn can do**: reset an instance, schedule the next event of a map, drop the event of
a map that has no period, or renew the reset time of a map. -/
inductive Turn (env : InstanceEnv) (now : ℕ) (mgr mgr' : InstanceSaveManager) : Prop where
  | single (t : ℤ) (event : InstResetEvent) (rest : List (ℤ × InstResetEvent))
      (first : DueFirst now mgr t event rest) (type : event.type = 0)
      (entries : mgr'.resetTimeQueue.entries = rest)
      (times : mgr'.resetTimeByMapDifficulty = mgr.resetTimeByMapDifficulty)
      (resets : mgr'.resets = (event.mapid, event.instanceId) :: mgr.resets)
  | warned (t : ℤ) (event : InstResetEvent) (rest : List (ℤ × InstResetEvent))
      (first : DueFirst now mgr t event rest) (type : event.type ≠ 0 ∧ event.type ≠ 4)
      (entries : mgr'.resetTimeQueue.entries = requeue t (countUp event)
        (mgr.getResetTimeFor event.mapid event.difficulty - resetTimeDelay (countUp event).type)
        (countUp event) rest)
      (times : mgr'.resetTimeByMapDifficulty = mgr.resetTimeByMapDifficulty)
      (resets : mgr'.resets = mgr.resets)
  | dropped (t : ℤ) (event : InstResetEvent) (rest : List (ℤ × InstResetEvent))
      (first : DueFirst now mgr t event rest) (type : event.type = 4)
      (noPeriod : ∀ mapDiff, env.getMapDifficultyData event.mapid event.difficulty = some mapDiff →
        env.instanceable event.mapid = true → mapDiff.resetTime = 0)
      (entries : mgr'.resetTimeQueue.entries = rest)
      (times : mgr'.resetTimeByMapDifficulty = mgr.resetTimeByMapDifficulty)
      (resets : mgr'.resets = mgr.resets)
  | renewed (t : ℤ) (event : InstResetEvent) (rest : List (ℤ × InstResetEvent))
      (first : DueFirst now mgr t event rest) (type : event.type = 4) (mapDiff : MapDifficulty)
      (found : env.getMapDifficultyData event.mapid event.difficulty = some mapDiff)
      (next : ℕ)
      (hnext : next = nextReset env mapDiff (mgr.getResetTimeFor event.mapid event.difficulty))
      (entries : mgr'.resetTimeQueue.entries = requeue t event (wordSub next hour)
        (.new 1 event.mapid event.difficulty 0) rest)
      (times : mgr'.resetTimeByMapDifficulty = mgr.resetTimeByMapDifficulty.set
        (makePair32 event.mapid event.difficulty) next)
      (resets : mgr'.resets = mgr.resets)

theorem resetOrWarnAll_warn (env : InstanceEnv) (mgr : InstanceSaveManager)
    (mapid difficulty resetTime : ℕ) :
    mgr.resetOrWarnAll env mapid difficulty true resetTime = mgr := by
  rw [resetOrWarnAll]
  by_cases hinst : env.instanceable mapid = true
  · rw [if_neg (not_not.mpr hinst), if_pos rfl]
  · rw [if_pos hinst]

variable {env : InstanceEnv} {mapid difficulty now : ℕ} {mgr mgr' : InstanceSaveManager} {t : ℤ}
  {event : InstResetEvent} {rest : List (ℤ × InstResetEvent)}

theorem resetOrWarnAll_of_not
    (hnot : ∀ mapDiff, env.getMapDifficultyData mapid difficulty = some mapDiff →
      env.instanceable mapid = true → mapDiff.resetTime = 0)
    (mgr : InstanceSaveManager) (warn : Bool) (resetTime : ℕ) :
    mgr.resetOrWarnAll env mapid difficulty warn resetTime = mgr := by
  rw [resetOrWarnAll]
  by_cases hinst : env.instanceable mapid = true
  · rw [if_neg (not_not.mpr hinst)]
    split
    · rfl
    · split
      · rfl
      · next mapDiff hfound => rw [if_pos (hnot mapDiff hfound hinst)]
  · rw [if_pos hinst]

theorem resetOrWarnAll_reset {mapDiff : MapDifficulty} (hinst : env.instanceable mapid = true)
    (hfound : env.getMapDifficultyData mapid difficulty = some mapDiff)
    (hperiod : mapDiff.resetTime ≠ 0) (mgr : InstanceSaveManager) (resetTime : ℕ) :
    ∃ saves, mgr.resetOrWarnAll env mapid difficulty false resetTime =
      ({ mgr with instanceSaveById := saves }.setResetTimeFor mapid difficulty
        (nextReset env mapDiff resetTime)).scheduleReset true
          (wordSub (nextReset env mapDiff resetTime) hour) (.new 1 mapid difficulty 0) := by
  rw [resetOrWarnAll, if_neg (not_not.mpr hinst), if_neg Bool.false_ne_true]
  simp only [hfound, if_neg hperiod]
  exact ⟨_, rfl⟩

theorem turn_of_updateTurn (h : updateTurn env now mgr = some mgr') : Turn env now mgr mgr' := by
  rw [updateTurn] at h
  split at h
  · cases h
  next t event rest hq =>
  split at h
  · cases h
  next hdue =>
  have hfirst : DueFirst now mgr t event rest := ⟨hq, not_le.mp hdue⟩
  by_cases hzero : event.type = 0
  · rw [if_pos hzero] at h
    cases h
    refine .single t event rest hfirst hzero ?_ ?_ ?_ <;> rw [resetInstance] <;> split <;>
      simp [hq]
  rw [if_neg hzero] at h
  by_cases hfour : event.type = 4
  · rw [if_neg (not_not.mpr hfour)] at h
    cases h
    rw [decide_eq_false (not_not.mpr hfour)]
    by_cases hnot : ∀ mapDiff,
        env.getMapDifficultyData event.mapid event.difficulty = some mapDiff →
        env.instanceable event.mapid = true → mapDiff.resetTime = 0
    · rw [resetOrWarnAll_of_not hnot]
      exact .dropped t event rest hfirst hfour hnot (by simp [hq]) rfl rfl
    · push Not at hnot
      obtain ⟨mapDiff, hfound, hinst, hperiod⟩ := hnot
      obtain ⟨saves, hsaves⟩ := resetOrWarnAll_reset hinst hfound hperiod mgr
        (mgr.getResetTimeFor event.mapid event.difficulty)
      rw [hsaves]
      refine .renewed t event rest hfirst hfour mapDiff hfound _ rfl ?_ rfl rfl
      rw [← tail_insertEntry, ← hq]
      rfl
  · rw [if_pos hfour] at h
    cases h
    rw [decide_eq_true hfour, resetOrWarnAll_warn]
    refine .warned t event rest hfirst ⟨hzero, hfour⟩ ?_ rfl rfl
    rw [← tail_insertEntry]
    simp [scheduleReset, hq]

theorem updateTurn_eq_none_iff :
    updateTurn env now mgr = none ↔ ∀ e ∈ mgr.resetTimeQueue.entries, (now : ℤ) ≤ e.1 := by
  rw [updateTurn]
  split
  · next hq => simp [hq]
  · next t event rest hq =>
    have hsorted := mgr.resetTimeQueue.sorted
    rw [hq, List.pairwise_cons] at hsorted
    split_ifs with hdue
    · refine iff_of_true rfl fun e he => ?_
      rw [hq, List.mem_cons] at he
      rcases he with rfl | he
      · exact hdue
      · exact hdue.trans (hsorted.1 e he)
    · refine iff_of_false (fun h => nomatch h) fun h => hdue (h (t, event) ?_)
      rw [hq]
      exact List.mem_cons_self

/-! ## Times -/

theorem minute_eq : minute = 60 := rfl

theorem hour_eq : hour = 3600 := rfl

theorem day_eq : day = 86400 := rfl

theorem resetTimeDelay_mem (type : ℕ) :
    0 ≤ resetTimeDelay type ∧ resetTimeDelay type ≤ (hour : ℕ) := by
  rw [resetTimeDelay, hour_eq]
  match type - 1 with
  | 0 | 1 | 2 | 3 => decide
  | n + 4 => simp

theorem wordSub_of_le {a b : ℕ} (h : b ≤ a) (ha : a < 2 ^ 32) : wordSub a b = a - b := by
  rw [wordSub, word]
  omega

theorem wordSub_of_lt {a b : ℕ} (h : a < b) (hb : b ≤ 2 ^ 32) : wordSub a b = a + (2 ^ 32 - b) := by
  rw [wordSub, word]
  omega

theorem day_le_period (env : InstanceEnv) (mapDiff : MapDifficulty) : day ≤ env.period mapDiff := by
  rw [InstanceEnv.period]
  split_ifs with h
  · exact le_refl day
  · exact not_lt.mp h

/-- **A reset moves the reset time forward**, as long as the times are words. -/
theorem lt_nextReset {mapDiff : MapDifficulty} {resetTime : ℕ}
    (h : resetTime + minute + env.period mapDiff + env.diff < 2 ^ 32) :
    nextReset env mapDiff resetTime =
        (resetTime + minute) / day * day + env.period mapDiff + env.diff ∧
      resetTime + minute < nextReset env mapDiff resetTime ∧
      day ≤ nextReset env mapDiff resetTime := by
  have hday := day_le_period env mapDiff
  rw [day_eq] at hday
  rw [nextReset, word, day_eq, minute_eq] at *
  omega

/-! ## The loop ends -/

/-- **The times are words**: the times that a reset now computes. -/
def ClockFits (env : InstanceEnv) (now : ℕ) : Prop :=
  ∀ key mapDiff, env.sMapDifficultyMap.find? key = some mapDiff →
    now + hour + minute + env.period mapDiff + env.diff < 2 ^ 32

/-- The fields of an event are those of an event for a map, or for an instance. -/
structure Narrow (event : InstResetEvent) : Prop where
  type : event.type ≤ 4
  difficulty : event.difficulty < 2 ^ 8
  mapid : event.mapid < 2 ^ 16

def dueEntries (now : ℕ) (entries : List (ℤ × InstResetEvent)) : List (ℤ × InstResetEvent) :=
  entries.filter fun e => e.1 < now

/-- An upper bound of the weights. -/
def heaviest (now : ℕ) : ℕ := 4 * (now + hour) + 5

variable (now mgr)

/-- What an event that is due may still cost: a single instance one turn; a map four turns for
every second up to the time when its reset is an hour ahead. -/
def weight (event : InstResetEvent) : ℕ :=
  if event.type = 0 then 1
  else
    let resetTime := mgr.getResetTimeFor event.mapid event.difficulty
    if now + hour ≤ resetTime then heaviest now
    else 4 * (now + hour - resetTime) + (4 - event.type) + 1

/-- **What the loop still has to do.** An event that is no longer due outweighs all the others,
because the time of its map may have wrapped around. -/
def load : ℕ :=
  let due := dueEntries now mgr.resetTimeQueue.entries
  due.length * due.length * heaviest now + (due.map fun e => mgr.weight now e.2).sum

theorem weight_le (event : InstResetEvent) : mgr.weight now event ≤ heaviest now := by
  unfold weight heaviest
  dsimp only
  split_ifs <;> omega

theorem sum_weight_le (due : List (ℤ × InstResetEvent)) :
    (due.map fun e => mgr.weight now e.2).sum ≤ due.length * heaviest now := by
  have hle :=
    List.sum_le_card_nsmul (due.map fun e => mgr.weight now e.2) (heaviest now) fun w hw =>
    by
      obtain ⟨e, -, rfl⟩ := List.mem_map.mp hw
      exact mgr.weight_le now e.2
  rwa [List.length_map, smul_eq_mul] at hle

theorem load_lt_maxTurns : mgr.load now < mgr.maxTurns now := by
  have hlength : (dueEntries now mgr.resetTimeQueue.entries).length ≤
      mgr.resetTimeQueue.entries.length := List.length_filter_le _ _
  have hsum := mgr.sum_weight_le now (dueEntries now mgr.resetTimeQueue.entries)
  have hsquare := Nat.mul_le_mul_right (heaviest now) (Nat.mul_le_mul hlength hlength)
  have hmul := Nat.mul_le_mul_right (heaviest now) hlength
  rw [load, maxTurns, add_mul]
  change _ < _ * heaviest now + _ * heaviest now + 1
  omega

variable {now mgr}

theorem load_lt_of_fewer (h : (dueEntries now mgr.resetTimeQueue.entries).length =
      (dueEntries now mgr'.resetTimeQueue.entries).length + 1) :
    mgr'.load now < mgr.load now := by
  have hsum := mgr'.sum_weight_le now (dueEntries now mgr'.resetTimeQueue.entries)
  have hpos : 0 < heaviest now := by unfold heaviest; omega
  unfold load
  dsimp only
  rw [h]
  -- The square of one more is larger by more than what all the others may weigh.
  have hsquare : ∀ n w : ℕ, (n + 1) * (n + 1) * w = n * n * w + n * w + (n * w + w) :=
    fun n w => by ring
  rw [hsquare]
  omega

theorem load_lt_of_lighter {e : ℤ × InstResetEvent}
    {due : List (ℤ × InstResetEvent)} (e' : ℤ × InstResetEvent)
    (h : dueEntries now mgr.resetTimeQueue.entries = e :: due)
    (h' : (dueEntries now mgr'.resetTimeQueue.entries).Perm (e' :: due))
    (hlighter : mgr'.weight now e'.2 < mgr.weight now e.2)
    (hdue : ∀ event, mgr'.weight now event ≤ mgr.weight now event) :
    mgr'.load now < mgr.load now := by
  have hsum : (due.map fun e => mgr'.weight now e.2).sum ≤
      (due.map fun e => mgr.weight now e.2).sum :=
    List.sum_le_sum fun e _ => hdue e.2
  unfold load
  dsimp only
  rw [h, h'.length_eq, (h'.map _).sum_eq, List.length_cons, List.length_cons, List.map_cons,
    List.map_cons, List.sum_cons, List.sum_cons]
  omega

/-- A turn that puts a lighter event in the place of the first one, or schedules it for later. -/
theorem load_lt_of_requeue {time : ℤ} {old new : InstResetEvent}
    (first : DueFirst now mgr t event rest)
    (entries : mgr'.resetTimeQueue.entries = requeue t old time new rest)
    (hnew : time < now → mgr'.weight now new < mgr.weight now event)
    (hold : time < now → mgr'.weight now old < mgr.weight now event)
    (hrest : time < now → ∀ e, mgr'.weight now e ≤ mgr.weight now e) :
    mgr'.load now < mgr.load now := by
  have hdue : dueEntries now mgr.resetTimeQueue.entries = (t, event) :: dueEntries now rest := by
    rw [first.entries, dueEntries, List.filter_cons_of_pos (by simpa using first.due), dueEntries]
  by_cases htime : time < now
  · by_cases hlt : time < t
    · -- The new event is the one that is erased, and the old one is worked off again.
      refine load_lt_of_lighter (t, old) hdue ?_ (hold htime) (hrest htime)
      rw [entries, requeue, if_pos hlt, dueEntries,
        List.filter_cons_of_pos (by simpa using first.due), dueEntries]
    · refine load_lt_of_lighter (time, new) hdue ?_ (hnew htime) (hrest htime)
      rw [entries, requeue, if_neg hlt]
      have hperm :=
        (Multimap.perm_insertEntry time new rest).filter fun e => decide (e.1 < (now : ℤ))
      rwa [List.filter_cons_of_pos (by simpa using htime)] at hperm
  · refine load_lt_of_fewer ?_
    rw [hdue, List.length_cons, entries, requeue, if_neg (by have := first.due; omega), dueEntries,
      dueEntries, Multimap.filter_insertEntry_of_not time new (by simpa using htime)]

theorem load_lt_of_tail (first : DueFirst now mgr t event rest)
    (entries : mgr'.resetTimeQueue.entries = rest) : mgr'.load now < mgr.load now := by
  refine load_lt_of_fewer ?_
  rw [entries, first.entries, dueEntries, List.filter_cons_of_pos (by simpa using first.due),
    List.length_cons, dueEntries]

theorem weight_of_far (htype : event.type ≠ 0)
    (hfar : now + hour ≤ mgr.getResetTimeFor event.mapid event.difficulty) :
    mgr.weight now event = heaviest now := by
  rw [weight, if_neg htype]
  exact if_pos hfar

theorem weight_of_near (htype : event.type ≠ 0)
    (hnear : mgr.getResetTimeFor event.mapid event.difficulty < now + hour) :
    mgr.weight now event =
      4 * (now + hour - mgr.getResetTimeFor event.mapid event.difficulty) +
        (4 - event.type) + 1 := by
  rw [weight, if_neg htype]
  exact if_neg (not_le.mpr hnear)

theorem weight_set_le {next : ℕ} (htimes : mgr'.resetTimeByMapDifficulty =
      mgr.resetTimeByMapDifficulty.set (makePair32 mapid difficulty) next)
    (hnear : next < now + hour) (hforward : mgr.getResetTimeFor mapid difficulty < now + hour →
      mgr.getResetTimeFor mapid difficulty < next)
    (event : InstResetEvent) : mgr'.weight now event ≤ mgr.weight now event := by
  by_cases htype : event.type = 0
  · rw [weight, weight, if_pos htype, if_pos htype]
  by_cases hkey : makePair32 event.mapid event.difficulty = makePair32 mapid difficulty
  · have hnext : mgr'.getResetTimeFor event.mapid event.difficulty = next := by
      rw [getResetTimeFor, htimes, hkey, OrderedMap.find?_set_self, Option.getD_some]
    have hold : mgr.getResetTimeFor event.mapid event.difficulty =
        mgr.getResetTimeFor mapid difficulty := by
      rw [getResetTimeFor, hkey, getResetTimeFor]
    rw [← hold] at hforward
    rw [← hnext] at hforward hnear
    by_cases hfar : now + hour ≤ mgr.getResetTimeFor event.mapid event.difficulty
    · rw [weight_of_far htype hfar]
      exact mgr'.weight_le now event
    · rw [weight_of_near htype hnear, weight_of_near htype (not_le.mp hfar)]
      omega
  · have hsame : mgr'.getResetTimeFor event.mapid event.difficulty =
        mgr.getResetTimeFor event.mapid event.difficulty := by
      rw [getResetTimeFor, htimes, OrderedMap.find?_set_of_ne _ _ hkey, getResetTimeFor]
    rw [weight, weight, hsame]

/-- The events are those of the enumeration, and a reset of a map that is due and near moves its
time forward. -/
structure Forward (env : InstanceEnv) (now : ℕ) (mgr : InstanceSaveManager) : Prop where
  narrow : ∀ e ∈ mgr.resetTimeQueue.entries, Narrow e.2
  forward : ∀ e ∈ mgr.resetTimeQueue.entries, e.1 < now → e.2.type = 4 → ∀ mapDiff,
    env.getMapDifficultyData e.2.mapid e.2.difficulty = some mapDiff → now + hour ≤ 2 ^ 32 ∧
      (mgr.getResetTimeFor e.2.mapid e.2.difficulty < now + hour →
        mgr.getResetTimeFor e.2.mapid e.2.difficulty <
          nextReset env mapDiff (mgr.getResetTimeFor e.2.mapid e.2.difficulty))

theorem load_lt_of_turn
    (hfwd : Forward env now mgr) (h : Turn env now mgr mgr') : mgr'.load now < mgr.load now := by
  cases h with
  | single t event rest first _ entries => exact load_lt_of_tail first entries
  | dropped t event rest first _ _ entries => exact load_lt_of_tail first entries
  | warned t event rest first type entries times =>
    have hnarrow := hfwd.narrow (t, event) (first.entries ▸ List.mem_cons_self)
    have htype : event.type ≤ 4 := hnarrow.type
    have hsame : ∀ e, mgr'.weight now e = mgr.weight now e := fun e => by
      rw [weight, weight, getResetTimeFor, times, getResetTimeFor]
    -- A warning is due only when its map is to be reset in less than an hour.
    have hlighter : (mgr.getResetTimeFor event.mapid event.difficulty -
        resetTimeDelay (countUp event).type : ℤ) < now →
        mgr'.weight now (countUp event) < mgr.weight now event := by
      intro hdue
      have hdelay := resetTimeDelay_mem (countUp event).type
      have hnear : mgr.getResetTimeFor event.mapid event.difficulty < now + hour := by omega
      have hcount : (countUp event).type = event.type + 1 := by
        show (event.type + 1) % 2 ^ 8 = _
        omega
      have hnew : mgr.weight now (countUp event) =
          4 * (now + hour - mgr.getResetTimeFor event.mapid event.difficulty) +
            (4 - (countUp event).type) + 1 := weight_of_near (by omega) hnear
      rw [hsame, hnew, weight_of_near type.1 hnear, hcount]
      omega
    exact load_lt_of_requeue first entries hlighter hlighter fun _ e => (hsame e).le
  | renewed t event rest first type mapDiff found next hnext entries times =>
    have hmem : (t, event) ∈ mgr.resetTimeQueue.entries := first.entries ▸ List.mem_cons_self
    obtain ⟨hclock, hforward⟩ := hfwd.forward (t, event) hmem first.due type mapDiff found
    dsimp only at hforward
    rw [← hnext] at hforward
    have hword : next < 2 ^ 32 := hnext ▸ word_lt _
    -- The next event is due only when the reset time has not wrapped around and is still near.
    have hnear : (wordSub next hour : ℤ) < now → next < now + hour := by
      intro hdue
      by_cases hle : hour ≤ next
      · rw [wordSub_of_le hle hword] at hdue
        omega
      · rw [wordSub_of_lt (not_le.mp hle) (by omega)] at hdue
        omega
    have hnext' : mgr'.getResetTimeFor event.mapid event.difficulty = next := by
      rw [getResetTimeFor, times, OrderedMap.find?_set_self, Option.getD_some]
    have hlighter : ∀ new : InstResetEvent, new.mapid = event.mapid →
        new.difficulty = event.difficulty → new.type = 1 ∨ new.type = 4 → next < now + hour →
        mgr'.weight now new < mgr.weight now event := by
      intro new hmapid hdifficulty hone hlt
      have hnew : mgr'.getResetTimeFor new.mapid new.difficulty = next := by
        rw [hmapid, hdifficulty, hnext']
      rw [weight_of_near (by omega) (hnew ▸ hlt), hnew]
      by_cases hfar : now + hour ≤ mgr.getResetTimeFor event.mapid event.difficulty
      · rw [weight_of_far (by omega) hfar, heaviest]
        omega
      · have := hforward (not_le.mp hfar)
        rw [weight_of_near (by omega) (not_le.mp hfar)]
        omega
    refine load_lt_of_requeue first entries (fun hdue => ?_) (fun hdue => ?_) fun hdue =>
      weight_set_le times (hnear hdue) hforward
    · have hnarrow := hfwd.narrow (t, event) hmem
      exact hlighter _ (Nat.mod_eq_of_lt hnarrow.mapid) (Nat.mod_eq_of_lt hnarrow.difficulty)
        (.inl rfl) (hnear hdue)
    · exact hlighter event rfl rfl (.inr type) (hnear hdue)

/-- The events are those of the enumeration; and the times are words, or only single instances are
due. -/
structure Finishes (env : InstanceEnv) (now : ℕ) (mgr : InstanceSaveManager) : Prop where
  narrow : ∀ e ∈ mgr.resetTimeQueue.entries, Narrow e.2
  fits : ClockFits env now ∨ ∀ e ∈ mgr.resetTimeQueue.entries, e.1 < now → e.2.type = 0

theorem narrow_new {type instanceid : ℕ} (h : type ≤ 4) :
    Narrow (.new type mapid difficulty instanceid) where
  type := (Nat.mod_le _ _).trans h
  difficulty := Nat.mod_lt _ (by decide)
  mapid := Nat.mod_lt _ (by decide)

theorem narrow_countUp (h : Narrow event) (hne : event.type ≠ 4) :
    Narrow (countUp event) where
  type := by
    have htype := h.type
    show (event.type + 1) % 2 ^ 8 ≤ 4
    omega
  difficulty := h.difficulty
  mapid := h.mapid

theorem mem_requeue {time : ℤ} {old new : InstResetEvent}
    {e : ℤ × InstResetEvent} (h : e ∈ requeue t old time new rest) :
    e = (t, old) ∨ e = (time, new) ∨ e ∈ rest := by
  rw [requeue] at h
  split_ifs at h
  · rcases List.mem_cons.mp h with rfl | hmem
    · exact .inl rfl
    · exact .inr (.inr hmem)
  · exact .inr (List.mem_cons.mp ((Multimap.perm_insertEntry _ _ _).mem_iff.mp h))

theorem Finishes.turn
    (hfin : Finishes env now mgr) (h : Turn env now mgr mgr') : Finishes env now mgr' := by
  -- A turn of an event that is not of a single instance is one with a clock that fits.
  have hclock : ∀ {t event rest}, DueFirst now mgr t event rest → event.type ≠ 0 →
      ClockFits env now := fun first type => hfin.fits.resolve_right fun h =>
    type (h _ (first.entries ▸ List.mem_cons_self) first.due)
  have hnarrow : ∀ {t event rest}, DueFirst now mgr t event rest → Narrow event :=
    fun first => hfin.narrow _ (first.entries ▸ List.mem_cons_self)
  have hrest : ∀ {t event rest}, DueFirst now mgr t event rest → ∀ e ∈ rest,
      e ∈ mgr.resetTimeQueue.entries :=
    fun first e he => first.entries ▸ List.mem_cons_of_mem _ he
  cases h with
  | single t event rest first _ entries =>
    refine ⟨fun e he => hfin.narrow e (hrest first e (entries ▸ he)),
      hfin.fits.imp_right fun h e he =>
      h e (hrest first e (entries ▸ he))⟩
  | dropped t event rest first type _ entries =>
    exact ⟨fun e he => hfin.narrow e (hrest first e (entries ▸ he)),
      .inl (hclock first (by omega))⟩
  | warned t event rest first type entries =>
    refine ⟨fun e he => ?_, .inl (hclock first type.1)⟩
    rcases mem_requeue (entries ▸ he) with rfl | rfl | he
    · exact narrow_countUp (hnarrow first) type.2
    · exact narrow_countUp (hnarrow first) type.2
    · exact hfin.narrow e (hrest first e he)
  | renewed t event rest first type mapDiff found next hnext entries =>
    refine ⟨fun e he => ?_, .inl (hclock first (by omega))⟩
    rcases mem_requeue (entries ▸ he) with rfl | rfl | he
    · exact hnarrow first
    · exact narrow_new (by decide)
    · exact hfin.narrow e (hrest first e he)

theorem Finishes.forward (hfin : Finishes env now mgr) : Forward env now mgr where
  narrow := hfin.narrow
  forward e he hdue htype mapDiff hfound := by
    have hclock := (hfin.fits.resolve_right fun h => by
      have hzero := h e he hdue
      rw [htype] at hzero
      cases hzero) _ mapDiff hfound
    refine ⟨by omega, fun hnear => ?_⟩
    have hfits : mgr.getResetTimeFor e.2.mapid e.2.difficulty + minute + env.period mapDiff +
      env.diff < 2 ^ 32 := by omega
    have hlt := (lt_nextReset hfits).2.1
    omega

/-- **The rule for an update.** What holds at first and is preserved by turns, each of which makes
the load smaller, holds after the update, which ends; and then no event is due. -/
theorem update_rule (Inv : InstanceSaveManager → Prop)
    (hturn : ∀ mgr mgr', Inv mgr → Turn env now mgr mgr' →
      Inv mgr' ∧ mgr'.load now < mgr.load now) (hmgr : Inv mgr) :
    ∃ mgr', update env now mgr = some mgr' ∧ Inv mgr' ∧
      ∀ e ∈ mgr'.resetTimeQueue.entries, (now : ℤ) ≤ e.1 := by
  have hloop : ∀ turns mgr, Inv mgr → mgr.load now < turns →
      ∃ mgr', updateLoop env now turns mgr = some mgr' ∧ Inv mgr' ∧
        ∀ e ∈ mgr'.resetTimeQueue.entries, (now : ℤ) ≤ e.1 := by
    intro turns
    induction turns with
    | zero => exact fun _ _ hload => absurd hload (Nat.not_lt_zero _)
    | succ turns ih =>
      intro mgr hinv hload
      rw [updateLoop]
      split
      · next hnone => exact ⟨mgr, rfl, hinv, updateTurn_eq_none_iff.mp hnone⟩
      · next mgr₁ hsome =>
        obtain ⟨hinv₁, hlt⟩ := hturn mgr mgr₁ hinv (turn_of_updateTurn hsome)
        exact ih mgr₁ hinv₁ (by omega)
  exact hloop _ mgr hmgr (mgr.load_lt_maxTurns now)

end InstanceSaveManager

end TeraCore
