import Mathlib.Algebra.Order.Ring.Int

/-!
# When game events are looked at

An event that comes back is looked at again when the first of all events is to start or to end.  It
is active after its start, and not at it; but the time to its end is counted from its start on.  So
an event that is looked at in the second of its start is found inactive, and stays so until another
event is due.

## Main results

* `checkedInTime_iff`: exactly then, or when a period is zero, a start is missed
-/

namespace TeraCore.GameEvents

/-- An event with the state `GAMEEVENT_NORMAL`. -/
structure GameEventData where
  start : ℤ
  end_ : ℤ
  /-- In minutes, as the length. -/
  occurence : BitVec 32
  length : BitVec 32

/-- One day. -/
def max_ge_check_delay : ℕ := 86400

def uint32 (x : ℤ) : ℕ := (x % 2 ^ 32).toNat

namespace GameEventData

variable (e : GameEventData) (currenttime : ℤ)

/-- Other events of this state are not loaded. -/
def isValid : Bool := 0 < e.length

/-- `occurence * MINUTE` -/
def period : ℕ := (e.occurence * 60).toNat

/-- `length * MINUTE` -/
def duration : ℕ := (e.length * 60).toNat

def phase : ℤ := (currenttime - e.start) % e.period

/-- **`CheckOneGameEvent`**; there is no answer if it divides by zero. -/
def CheckOneGameEvent : Option Bool :=
  if e.start < currenttime ∧ currenttime < e.end_ then
    if e.period = 0 then none else some (e.phase currenttime < e.duration)
  else some false

/-- The delay before it ends, or before its next start. -/
def remaining : ℤ :=
  if e.phase currenttime < e.duration then e.duration - e.phase currenttime
  else e.period - e.phase currenttime

def NextCheck : Option ℕ :=
  if e.end_ < currenttime then some max_ge_check_delay
  else if currenttime < e.start then some (uint32 (e.start - currenttime))
  else if e.period = 0 then none
  else
    let delay := uint32 (e.remaining currenttime)
    -- in case the end is before the next check
    if e.end_ < currenttime + delay then some (uint32 (e.end_ - currenttime)) else some delay

/-- What `NextCheck` makes unsigned numbers of. -/
def differences : List ℤ :=
  if e.end_ < currenttime then []
  else if currenttime < e.start then [e.start - currenttime]
  else [e.remaining currenttime, e.end_ - currenttime]

end GameEventData

/-- One turn of the loop of `Update`. -/
def lookAt (currenttime : ℤ) (nextEventDelay : ℕ) (e : GameEventData) : Option ℕ := do
  let _ ← e.CheckOneGameEvent currenttime
  let calcDelay ← e.NextCheck currenttime
  pure (min calcDelay nextEventDelay)

variable (events : List GameEventData) (currenttime : ℤ)

/-- **`Update`**; the next one is one second after this delay. -/
def nextEventDelay : Option ℕ :=
  events.foldlM (lookAt currenttime) max_ge_check_delay

/-- **Events are looked at in time**: the next update is at most one second after an event starts or
ends, no division is by zero, and no unsigned number was negative. -/
def CheckedInTime : Prop :=
  ∃ delay, nextEventDelay events currenttime = some delay ∧ ∀ e ∈ events,
    (∀ x ∈ e.differences currenttime, 0 ≤ x) ∧
      ∃ active, ∀ t, currenttime ≤ t → t < currenttime + max delay 1 →
        e.CheckOneGameEvent t = some active

namespace GameEventData

/-- Within a second the event is to start or to end. -/
def DueWithinSecond (e : GameEventData) (currenttime : ℤ) : Prop :=
  currenttime ≤ e.end_ ∧
    if currenttime < e.start then uint32 (e.start - currenttime) ≤ 1
    else e.end_ ≤ currenttime + 1 ∨
      if e.phase currenttime < e.duration then e.duration ≤ e.phase currenttime + 1
      else e.period ≤ e.phase currenttime + 1

variable {e : GameEventData} {currenttime} {t : ℤ} {delay : ℕ}

/-! ## One event -/

theorem uint32_le {x : ℤ} (h : 0 ≤ x) : (uint32 x : ℤ) ≤ x := by
  unfold uint32
  omega

theorem uint32_of_lt {x : ℤ} (h : 0 ≤ x) (hlt : x < 2 ^ 32) : (uint32 x : ℤ) = x := by
  unfold uint32
  omega

theorem one_lt_of_mul_sixty {x : BitVec 32} (h : (x * 60).toNat ≠ 0) : 1 < (x * 60).toNat := by
  have heven : (x * 60).toNat % 2 = 0 := by
    rw [BitVec.toNat_mul, Nat.mod_mod_of_dvd _ (by decide), Nat.mul_mod]
    rfl
  omega

theorem phase_bounds (h : e.period ≠ 0) (currenttime : ℤ) :
    0 ≤ e.phase currenttime ∧ e.phase currenttime < e.period := by
  have hpos : (0 : ℤ) < e.period := by omega
  exact ⟨Int.emod_nonneg _ hpos.ne', Int.emod_lt_of_pos _ hpos⟩

theorem remaining_bounds (h : e.period ≠ 0) (currenttime : ℤ) :
    0 < e.remaining currenttime ∧ e.remaining currenttime < 2 ^ 32 := by
  have hphase := phase_bounds h currenttime
  have hperiod : e.period < 2 ^ 32 := (e.occurence * 60).isLt
  have hduration : e.duration < 2 ^ 32 := (e.length * 60).isLt
  unfold remaining
  split <;> omega

/-- The time that passes before the phase reaches the end of the window, or of the period. -/
theorem phase_lt_iff (hperiod : e.period ≠ 0) (hle : currenttime ≤ t)
    (hlt : t - currenttime < e.remaining currenttime) :
    e.phase t < e.duration ↔ e.phase currenttime < e.duration := by
  have hphase := phase_bounds hperiod currenttime
  have hthen := phase_bounds hperiod t
  have hsum : e.phase t = (e.phase currenttime + (t - currenttime)) % e.period := by
    unfold phase
    rw [Int.emod_add_emod]
    congr 1
    omega
  unfold remaining at hlt
  by_cases hover : e.phase currenttime + (t - currenttime) < e.period
  · rw [Int.emod_eq_of_lt (by omega) hover] at hsum
    split_ifs at hlt <;> omega
  · -- the window is longer than the period
    split_ifs at hlt <;> omega

theorem nextCheck_of_started (hstart : e.start ≤ currenttime) (hend : currenttime ≤ e.end_)
    (hperiod : e.period ≠ 0) :
    ∃ delay, e.NextCheck currenttime = some delay ∧ delay ≤ e.remaining currenttime ∧
      delay ≤ e.end_ - currenttime ∧
      (delay ≤ 1 ↔ e.end_ ≤ currenttime + 1 ∨ e.remaining currenttime ≤ 1) := by
  have hremaining := remaining_bounds hperiod currenttime
  have hdelay := uint32_of_lt hremaining.1.le hremaining.2
  unfold NextCheck
  rw [if_neg (not_lt.mpr hend), if_neg (not_lt.mpr hstart), if_neg hperiod]
  dsimp only
  rw [hdelay]
  by_cases hclipped : e.end_ < currenttime + e.remaining currenttime
  · rw [if_pos hclipped]
    have hrest := uint32_of_lt (sub_nonneg.mpr hend) (by omega)
    refine ⟨_, rfl, ?_⟩
    omega
  · rw [if_neg hclipped]
    refine ⟨_, rfl, ?_⟩
    omega

/-- **Nothing changes before the delay has passed**, unless the event starts in this second. -/
theorem steady_of_nextCheck (h : e.NextCheck currenttime = some delay)
    (hstart : e.start = currenttime → currenttime + 1 < e.end_ → e.duration = 0) :
    ∃ active, ∀ t, currenttime ≤ t → t < currenttime + max delay 1 →
      e.CheckOneGameEvent t = some active := by
  by_cases hend : e.end_ < currenttime
  · refine ⟨false, fun t hle _ => ?_⟩
    exact if_neg fun hin => by omega
  by_cases hlater : currenttime < e.start
  · refine ⟨false, fun t _ hlt => ?_⟩
    have hdelay := uint32_le (sub_nonneg.mpr hlater.le)
    rw [NextCheck, if_neg hend, if_pos hlater] at h
    rw [Option.some.inj h] at hdelay
    exact if_neg fun hin => by omega
  · have hperiod : e.period ≠ 0 := fun hzero => by
      rw [NextCheck, if_neg hend, if_neg hlater, if_pos hzero] at h
      cases h
    obtain ⟨d, hd, hremaining, hclipped, -⟩ :=
      nextCheck_of_started (not_lt.mp hlater) (not_lt.mp hend) hperiod
    cases h.symm.trans hd
    have hpos := remaining_bounds hperiod currenttime
    by_cases hin : e.start < currenttime ∧ currenttime < e.end_
    · refine ⟨e.phase currenttime < e.duration, fun t hle hlt => ?_⟩
      rw [CheckOneGameEvent, if_pos ⟨by omega, by omega⟩, if_neg hperiod]
      exact congrArg some (decide_eq_decide.mpr (phase_lt_iff hperiod hle (by omega)))
    · refine ⟨false, fun t hle hlt => ?_⟩
      unfold CheckOneGameEvent
      by_cases hthen : e.start < t ∧ t < e.end_
      · -- the event starts in this second, but has no duration
        have hzero : e.duration = 0 := hstart (by omega) (by omega)
        have hphase := phase_bounds hperiod t
        rw [if_pos hthen, if_neg hperiod, hzero]
        exact congrArg some (decide_eq_false (by omega))
      · exact if_neg hthen

/-- **An event that starts in this second** is active in the next. -/
theorem checkOneGameEvent_after_start (hend : e.start + 1 < e.end_) (hperiod : e.period ≠ 0)
    (hduration : e.duration ≠ 0) : e.CheckOneGameEvent e.start = some false ∧
      e.CheckOneGameEvent (e.start + 1) = some true := by
  have hp : 1 < e.period := one_lt_of_mul_sixty hperiod
  have hd : 1 < e.duration := one_lt_of_mul_sixty hduration
  have hphase : e.phase (e.start + 1) = 1 := by
    unfold phase
    rw [add_sub_cancel_left]
    exact Int.emod_eq_of_lt (by decide) (by omega)
  refine ⟨if_neg fun hin => lt_irrefl _ hin.1, ?_⟩
  rw [CheckOneGameEvent, if_pos ⟨lt_add_one _, hend⟩, if_neg hperiod, hphase]
  exact congrArg some (decide_eq_true (by omega))

theorem nextCheck_eq_none_iff : e.NextCheck currenttime = none ↔
    e.start ≤ currenttime ∧ currenttime ≤ e.end_ ∧ e.period = 0 := by
  rw [← and_assoc, ← not_lt, ← not_lt]
  unfold NextCheck
  dsimp only
  split_ifs <;> simp [*]

theorem le_one_iff_dueWithinSecond (h : e.NextCheck currenttime = some delay) :
    delay ≤ 1 ↔ e.DueWithinSecond currenttime := by
  unfold DueWithinSecond
  by_cases hend : e.end_ < currenttime
  · rw [NextCheck, if_pos hend] at h
    rw [← Option.some.inj h]
    exact iff_of_false (by decide) fun hin => not_le.mpr hend hin.1
  by_cases hlater : currenttime < e.start
  · rw [NextCheck, if_neg hend, if_pos hlater] at h
    rw [← Option.some.inj h, if_pos hlater]
    exact (and_iff_right (not_lt.mp hend)).symm
  · have hperiod : e.period ≠ 0 := fun hzero => by
      rw [NextCheck, if_neg hend, if_neg hlater, if_pos hzero] at h
      cases h
    obtain ⟨d, hd, -, -, hone⟩ :=
      nextCheck_of_started (not_lt.mp hlater) (not_lt.mp hend) hperiod
    cases h.symm.trans hd
    rw [hone, if_neg hlater, and_iff_right (not_lt.mp hend)]
    refine or_congr_right ?_
    unfold remaining
    split_ifs <;> omega

theorem differences_nonneg (h : e.NextCheck currenttime ≠ none) {x : ℤ}
    (hx : x ∈ e.differences currenttime) : 0 ≤ x := by
  unfold differences at hx
  split_ifs at hx with hend hlater
  · cases hx
  · rw [List.mem_singleton.mp hx]
    omega
  · have hperiod : e.period ≠ 0 := fun hzero =>
      h (nextCheck_eq_none_iff.mpr ⟨not_lt.mp hlater, not_lt.mp hend, hzero⟩)
    have hpos := remaining_bounds hperiod currenttime
    rcases List.mem_cons.mp hx with rfl | hx
    · exact hpos.1.le
    · rw [List.mem_singleton.mp hx]
      omega

end GameEventData

/-! ## All events -/

variable {events} {currenttime}

theorem delay_spec (hlook : ∀ e ∈ events, e.NextCheck currenttime ≠ none) (before : ℕ) :
    ∃ delay, events.foldlM (lookAt currenttime) before = some delay ∧
      (∀ e ∈ events, ∀ d, e.NextCheck currenttime = some d → delay ≤ d) ∧ delay ≤ before ∧
      (delay = before ∨ ∃ e ∈ events, e.NextCheck currenttime = some delay) := by
  induction events generalizing before with
  | nil => exact ⟨before, rfl, fun e he => absurd he List.not_mem_nil, le_rfl, .inl rfl⟩
  | cons e events ih =>
    obtain ⟨d, hd⟩ := Option.ne_none_iff_exists'.mp (hlook e List.mem_cons_self)
    obtain ⟨active, hactive⟩ : ∃ active, e.CheckOneGameEvent currenttime = some active := by
      refine Option.ne_none_iff_exists'.mp fun hnone => hlook e List.mem_cons_self ?_
      unfold GameEventData.CheckOneGameEvent at hnone
      split_ifs at hnone with hin hzero
      exact GameEventData.nextCheck_eq_none_iff.mpr ⟨hin.1.le, hin.2.le, hzero⟩
    obtain ⟨delay, hfold, hall, hbefore, hone⟩ :=
      ih (fun e' he' => hlook e' (List.mem_cons_of_mem e he')) (min d before)
    refine ⟨delay, ?_, fun e' he' d' hd' => ?_, hbefore.trans (min_le_right _ _), ?_⟩
    · rw [List.foldlM_cons, lookAt, hactive, hd]
      exact hfold
    · rcases List.mem_cons.mp he' with rfl | he'
      · rw [← Option.some.inj (hd.symm.trans hd')]
        exact hbefore.trans (min_le_left _ _)
      · exact hall e' he' d' hd'
    · rcases hone with hmin | ⟨e', he', hd'⟩
      · rcases min_choice d before with heq | heq
        · exact .inr ⟨e, List.mem_cons_self, by rw [hd, hmin, heq]⟩
        · exact .inl (hmin.trans heq)
      · exact .inr ⟨e', List.mem_cons_of_mem e he', hd'⟩

theorem nextCheck_of_nextEventDelay {delay : ℕ}
    (h : nextEventDelay events currenttime = some delay) :
    ∀ e ∈ events, e.NextCheck currenttime ≠ none := by
  unfold nextEventDelay at h
  generalize max_ge_check_delay = before at h
  induction events generalizing before with
  | nil => exact fun e he => absurd he List.not_mem_nil
  | cons e events ih =>
    rw [List.foldlM_cons] at h
    obtain ⟨d, hstep, hrest⟩ := Option.bind_eq_some_iff.mp h
    obtain ⟨-, -, hstep⟩ := Option.bind_eq_some_iff.mp hstep
    obtain ⟨c, hc, -⟩ := Option.bind_eq_some_iff.mp hstep
    intro e' he'
    rcases List.mem_cons.mp he' with rfl | he'
    · rw [hc]
      exact Option.some_ne_none c
    · exact ih d hrest e' he'

/-- **Events are looked at in time** if no period is zero while its event may be active, and when
one starts, it or another is due within a second. -/
theorem checkedInTime_iff (events : List GameEventData) (currenttime : ℤ) :
    CheckedInTime events currenttime ↔
      (∀ e ∈ events, e.start ≤ currenttime → currenttime ≤ e.end_ → e.period ≠ 0) ∧
      ∀ e ∈ events, e.start = currenttime → currenttime + 1 < e.end_ → e.duration ≠ 0 →
        ∃ e' ∈ events, e'.DueWithinSecond currenttime := by
  have hlook_iff : (∀ e ∈ events, e.NextCheck currenttime ≠ none) ↔
      ∀ e ∈ events, e.start ≤ currenttime → currenttime ≤ e.end_ → e.period ≠ 0 := by
    refine forall₂_congr fun e _ => ?_
    rw [ne_eq, GameEventData.nextCheck_eq_none_iff, not_and, not_and]
  rw [← hlook_iff]
  constructor
  · rintro ⟨delay, hdelay, hsteady⟩
    have hlook := nextCheck_of_nextEventDelay hdelay
    obtain ⟨d, hd, -, -, hone⟩ := delay_spec hlook max_ge_check_delay
    cases hdelay.symm.trans hd
    refine ⟨hlook, fun e he hstart hend hduration => ?_⟩
    by_contra hnone
    have hlate : 1 < delay := by
      by_contra hsoon
      rcases hone with hmax | ⟨e', he', hd'⟩
      · exact hsoon (hmax ▸ by decide)
      · exact hnone ⟨e', he', (GameEventData.le_one_iff_dueWithinSecond hd').mp (not_lt.mp hsoon)⟩
    -- the event is found inactive, and is active one second later
    subst hstart
    obtain ⟨hat, hafter⟩ := GameEventData.checkOneGameEvent_after_start hend
      (hlook_iff.mp hlook e he le_rfl (by omega)) hduration
    obtain ⟨active, hactive⟩ := (hsteady e he).2
    have hfirst := hactive e.start le_rfl (by omega)
    have hsecond := hactive (e.start + 1) (by omega) (by omega)
    rw [hat] at hfirst
    rw [hafter, ← hfirst] at hsecond
    cases hsecond
  · rintro ⟨hlook, hstarts⟩
    obtain ⟨delay, hdelay, hall, -, -⟩ := delay_spec hlook max_ge_check_delay
    refine ⟨delay, hdelay, fun e he => ⟨fun x => GameEventData.differences_nonneg (hlook e he), ?_⟩⟩
    obtain ⟨d, hd⟩ := Option.ne_none_iff_exists'.mp (hlook e he)
    by_cases hstart : e.start = currenttime ∧ currenttime + 1 < e.end_ ∧ e.duration ≠ 0
    · obtain ⟨e', he', hdue⟩ := hstarts e he hstart.1 hstart.2.1 hstart.2.2
      obtain ⟨d', hd'⟩ := Option.ne_none_iff_exists'.mp (hlook e' he')
      have hsoon := (hall e' he' d' hd').trans
        ((GameEventData.le_one_iff_dueWithinSecond hd').mpr hdue)
      refine ⟨false, fun t hle hlt => if_neg fun hin => ?_⟩
      omega
    · obtain ⟨active, hactive⟩ := GameEventData.steady_of_nextCheck hd fun h hend => by
        by_contra hduration
        exact hstart ⟨h, hend, hduration⟩
      have hle := hall e he d hd
      exact ⟨active, fun t ht hlt => hactive t ht (by omega)⟩

def halfHours : GameEventData where
  start := 1293840000
  end_ := 1609459200
  occurence := 60
  length := 30

/-- It is found inactive when it starts, and is looked at again when it ends. -/
theorem not_checkedInTime_halfHours : halfHours.isValid = true ∧
    ¬ CheckedInTime [halfHours] halfHours.start := by
  refine ⟨rfl, ?_⟩
  rintro ⟨delay, hdelay, hsteady⟩
  have hnext : nextEventDelay [halfHours] halfHours.start = some 1800 := by decide +kernel
  cases hnext.symm.trans hdelay
  obtain ⟨-, active, hactive⟩ := hsteady halfHours List.mem_cons_self
  have hfirst := hactive halfHours.start le_rfl (by decide)
  have hsecond := hactive (halfHours.start + 1) (by decide) (by decide)
  exact absurd (hfirst.trans hsecond.symm) (by decide)

end TeraCore.GameEvents
