import Mathlib.Data.Nat.Find

/-!
# Civil time

A time is a number of seconds, and a day a number of days, from the start of 1970 on.  The years are
those of the Gregorian calendar, before its introduction too.

## Main definitions

* `yearStart`, `monthStart`: the first day of a year; the first day of a month, in its year
* `yearOf`, `monthOf`: the year of a day; the month of a day of a year

## Main results

* `yearStart_yearOf_le`, `lt_yearStart_yearOf`: a day is in its year
* `monthOf_spec`: a day of a year is in its month
-/

namespace Commons

/-- The first day of the year. -/
def yearStart (y : ℤ) : ℤ := 365 * (y - 1970) + (y - 1) / 4 - (y - 1) / 100 + (y - 1) / 400 - 477

theorem yearStart_le (y y' : ℤ) (h : y ≤ y') : yearStart y + 365 * (y' - y) ≤ yearStart y' := by
  unfold yearStart
  omega

theorem yearStart_succ_le (y : ℤ) : yearStart (y + 1) ≤ yearStart y + 366 := by
  unfold yearStart
  omega

/-- The year of a day.  The mean length of a year leads to the right one or to a neighbour. -/
def yearOf (day : ℤ) : ℤ :=
  let y := 1970 + day * 400 / 146097
  if day < yearStart y then y - 1 else if yearStart (y + 1) ≤ day then y + 1 else y

theorem yearStart_yearOf_le (day : ℤ) : yearStart (yearOf day) ≤ day := by
  unfold yearOf
  dsimp only
  split_ifs with hbefore hafter
  · unfold yearStart at *
    omega
  · exact hafter
  · exact Int.not_lt.mp hbefore

theorem lt_yearStart_yearOf (day : ℤ) : day < yearStart (yearOf day + 1) := by
  unfold yearOf
  dsimp only
  split_ifs with hbefore hafter
  · rw [Int.sub_add_cancel]
    exact hbefore
  · unfold yearStart at *
    omega
  · exact Int.not_le.mp hafter

def isLeap (y : ℤ) : Bool := y % 4 = 0 ∧ (y % 100 ≠ 0 ∨ y % 400 = 0)

/-- The first day of the month with a number below 12. -/
def monthStart (leap : Bool) (month : ℕ) : ℕ :=
  [0, 31, 59, 90, 120, 151, 181, 212, 243, 273, 304, 334].getD month 334 +
    if leap ∧ 2 ≤ month then 1 else 0

theorem monthStart_le (leap leap' : Bool) (month : ℕ) :
    monthStart leap month ≤ monthStart leap' month + 1 := by
  unfold monthStart
  split_ifs <;> omega

/-- The month of a day of the year. -/
def monthOf (leap : Bool) (yday : ℕ) : ℕ :=
  Nat.findGreatest (fun month => monthStart leap month ≤ yday) 11

theorem monthOf_spec (leap : Bool) {yday : ℕ} (h : yday < 366) :
    monthOf leap yday ≤ 11 ∧ monthStart leap (monthOf leap yday) ≤ yday ∧
      yday < monthStart leap (monthOf leap yday) + 32 := by
  have hzero : monthStart leap 0 ≤ yday := by cases leap <;> exact Nat.zero_le _
  have hle : monthOf leap yday ≤ 11 := Nat.findGreatest_le _
  refine ⟨hle, Nat.findGreatest_spec (P := fun month => monthStart leap month ≤ yday)
    (Nat.zero_le 11) hzero, ?_⟩
  rcases Nat.lt_or_eq_of_le hle with hmonth | hlast
  · -- the next month begins later, and no month is longer than 31 days
    have hnext : ¬ monthStart leap (monthOf leap yday + 1) ≤ yday :=
      Nat.findGreatest_is_greatest (P := fun month => monthStart leap month ≤ yday)
        (Nat.lt_succ_self _) hmonth
    have hlong : ∀ leap, ∀ month < 11, monthStart leap (month + 1) ≤
        monthStart leap month + 31 := by
      decide
    have hlen := hlong leap _ hmonth
    omega
  · have hlate : 366 ≤ monthStart leap 11 + 32 := by cases leap <;> decide
    rw [hlast]
    omega

end Commons
