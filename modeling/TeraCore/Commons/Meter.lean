import Mathlib.Algebra.GroupWithZero.Nat

/-!
# One meter for spendings of several kinds

What is spent is counted on one meter, whatever its kind, and every kind has a limit of its own.  A
spending is allowed when the meter, with it, is within the limit of its kind.  Then no kind is ever
beyond its limit, though the meter may be.

## Main definitions

* `Meter.spent`, `Meter.spentAs`: what is spent, and what is spent as one kind
* `Meter.Within`: no kind is beyond its limit

## Main results

* `Meter.Within.snoc`: an allowed spending
-/

namespace Commons.Meter

variable {κ : Type*}

def spent (log : List (κ × ℕ)) : ℕ := (log.map Prod.snd).sum

theorem spent_append (log log' : List (κ × ℕ)) : spent (log ++ log') = spent log + spent log' := by
  simp [spent]

variable [DecidableEq κ]

def spentAs (log : List (κ × ℕ)) (kind : κ) : ℕ := spent (log.filter fun e => e.1 = kind)

/-- **No kind is beyond its limit**, if it has one. -/
def Within (limit : κ → Option ℕ) (log : List (κ × ℕ)) : Prop :=
  ∀ kind l, limit kind = some l → spentAs log kind ≤ l

theorem spentAs_append (log log' : List (κ × ℕ)) (kind : κ) :
    spentAs (log ++ log') kind = spentAs log kind + spentAs log' kind := by
  simp [spentAs, spent_append]

theorem spentAs_le_spent (log : List (κ × ℕ)) (kind : κ) : spentAs log kind ≤ spent log := by
  induction log with
  | nil => exact Nat.le_refl _
  | cons e log ih =>
    simp only [spentAs, spent, List.filter_cons, List.map_cons, List.sum_cons] at ih ⊢
    by_cases hkind : e.1 = kind
    · simpa [hkind] using ih
    · simp only [hkind, decide_false, Bool.false_eq_true, if_false]
      omega

theorem Within.nil {limit : κ → Option ℕ} : Within limit [] := fun _ _ _ => Nat.zero_le _

theorem Within.snoc {limit : κ → Option ℕ} {log : List (κ × ℕ)} (h : Within limit log) {kind : κ}
    {amount : ℕ} (hamount : ∀ l, limit kind = some l → amount = 0 ∨ spent log + amount ≤ l) :
    Within limit (log ++ [(kind, amount)]) := by
  intro kind' l hl
  rw [spentAs_append]
  by_cases hkind : kind = kind'
  · subst hkind
    have hone : spentAs [(kind, amount)] kind = amount := by simp [spentAs, spent]
    have hle := spentAs_le_spent log kind
    have hwithin := h kind l hl
    rcases hamount l hl with hzero | hroom
    · omega
    · omega
  · have hnone : spentAs [(kind, amount)] kind' = 0 := by simp [spentAs, spent, hkind]
    rw [hnone]
    exact h kind' l hl

end Commons.Meter
