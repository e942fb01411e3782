import Mathlib.Algebra.Order.BigOperators.Group.Finset
import Mathlib.Data.Finset.Max

/-!
# Points in tiers

Points are given to places that lie in tiers.  A place in a higher tier may get points only when
enough of them are given in the tiers below.

Whoever gives the points need not look at the tiers below: it is enough to look at the points that
are given at all.  The lowest of the higher tiers with a point in it had all of them below when it
got its first one.

## Main definitions

* `below`: the points in the tiers below one
* `Tiered`: every place with points has enough of them below

## Main results

* `Tiered.le_below`: when there are enough points, there are enough below
* `Tiered.raise`: a place that gets more points
-/

namespace Commons

variable {ι : Type*} (S : Finset ι) (tier : ι → ℕ)

/-- The points in the tiers below this one. -/
def below (points : ι → ℕ) (r : ℕ) : ℕ := ∑ i ∈ S with tier i < r, points i

/-- **Every place with points has enough of them below**: so many for each tier. -/
def Tiered (each : ℕ) (points : ι → ℕ) : Prop :=
  ∀ i ∈ S, 0 < points i → each * tier i ≤ below S tier points (tier i)

variable {S tier} {each r : ℕ} {points points' : ι → ℕ} {i : ι}

theorem below_mono (hle : ∀ j ∈ S, points j ≤ points' j) :
    below S tier points r ≤ below S tier points' r :=
  Finset.sum_le_sum fun j hj => hle j (Finset.mem_filter.mp hj).1

theorem below_eq (hempty : ∀ j ∈ S, r ≤ tier j → points j = 0) :
    below S tier points r = ∑ j ∈ S, points j := by
  refine Finset.sum_filter_of_ne fun j hj hne => ?_
  by_contra hnot
  exact hne (hempty j hj (Nat.le_of_not_lt hnot))

/-- Where no place between two tiers has points, what is below the higher one is below the other. -/
theorem below_le {r' : ℕ} (hempty : ∀ j ∈ S, r ≤ tier j → tier j < r' → points j = 0) :
    below S tier points r' ≤ below S tier points r := by
  simp only [below, Finset.sum_filter]
  refine Finset.sum_le_sum fun j hj => ?_
  by_cases hlow : tier j < r
  · rw [if_pos hlow]
    split_ifs <;> omega
  · rw [if_neg hlow]
    split_ifs with hhigh
    · exact (hempty j hj (Nat.le_of_not_lt hlow) hhigh).le
    · exact le_rfl

theorem Tiered.le_below (h : Tiered S tier each points)
    (henough : each * r ≤ ∑ j ∈ S, points j) : each * r ≤ below S tier points r := by
  by_cases hhigh : ∃ i ∈ S, 0 < points i ∧ r ≤ tier i
  · -- the lowest of the places with points that are not below
    have hne : (S.filter fun i => 0 < points i ∧ r ≤ tier i).Nonempty := by
      obtain ⟨i, hi, hpoints⟩ := hhigh
      exact ⟨i, Finset.mem_filter.mpr ⟨hi, hpoints⟩⟩
    obtain ⟨i, hi, hleast⟩ := Finset.exists_min_image _ tier hne
    obtain ⟨hi, hpoints, hr⟩ := Finset.mem_filter.mp hi
    have hbelow : below S tier points (tier i) ≤ below S tier points r := by
      apply below_le
      intro j hj hrj hlt
      by_contra hne
      have hle := hleast j (Finset.mem_filter.mpr ⟨hj, Nat.pos_of_ne_zero hne, hrj⟩)
      omega
    calc each * r ≤ each * tier i := Nat.mul_le_mul_left each hr
      _ ≤ below S tier points (tier i) := h i hi hpoints
      _ ≤ below S tier points r := hbelow
  · rw [below_eq fun j hj hr => ?_]
    · exact henough
    · by_contra hne
      exact hhigh ⟨j, hj, Nat.pos_of_ne_zero hne, hr⟩

theorem Tiered.congr (h : Tiered S tier each points) (heq : ∀ j ∈ S, points' j = points j) :
    Tiered S tier each points' := by
  intro j hj hpoints
  rw [heq j hj] at hpoints
  exact (h j hj hpoints).trans (below_mono fun i hi => (heq i hi).ge)

/-- **A place gets more points**, when there are enough for its tier. -/
theorem Tiered.raise (h : Tiered S tier each points)
    (henough : each * tier i ≤ ∑ j ∈ S, points j) (hi : points i ≤ points' i)
    (hother : ∀ j, j ≠ i → points' j = points j) : Tiered S tier each points' := by
  have hle : ∀ j ∈ S, points j ≤ points' j := by
    intro j _
    by_cases heq : j = i
    · exact heq ▸ hi
    · exact (hother j heq).ge
  intro j hj hpoints
  by_cases heq : j = i
  · rw [heq]
    exact (h.le_below henough).trans (below_mono hle)
  · rw [hother j heq] at hpoints
    exact (h j hj hpoints).trans (below_mono hle)

end Commons
