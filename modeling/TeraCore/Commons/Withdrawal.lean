import Mathlib.Algebra.BigOperators.Group.List.Basic
import Mathlib.Algebra.GroupWithZero.Nat

/-!
# Taking an amount from stacks

An amount is taken from a list of stacks in their order.  A stack that is not larger than what is
still to be taken goes away; the first that is larger is made smaller, and the others stay.

## Main definitions

* `withdraw n cs`: what is left of each stack when `n` is taken
* `Withdrawable bound n taken cs`: the sums that are formed on the way stay below a bound

## Main results

* `sum_withdraw`: together the stacks are lowered by `n`, or by all that is there
* `withdrawable_of_sum`: they stay below it when all stacks together do
-/

namespace Commons

/-- **What is left of each stack** when `n` is taken from them in their order. -/
def withdraw : ℕ → List ℕ → List ℕ
  | _, [] => []
  | n, c :: cs => if c ≤ n then 0 :: withdraw (n - c) cs else (c - n) :: cs

@[simp] theorem withdraw_nil (n : ℕ) : withdraw n [] = [] := rfl

theorem withdraw_cons_of_le {n c : ℕ} (cs : List ℕ) (h : c ≤ n) :
    withdraw n (c :: cs) = 0 :: withdraw (n - c) cs := if_pos h

theorem withdraw_cons_of_lt {n c : ℕ} (cs : List ℕ) (h : n < c) :
    withdraw n (c :: cs) = (c - n) :: cs := if_neg (by omega)

@[simp] theorem withdraw_zero_cons (n : ℕ) (cs : List ℕ) :
    withdraw n (0 :: cs) = 0 :: withdraw n cs := withdraw_cons_of_le cs (Nat.zero_le n)

@[simp] theorem withdraw_zero (cs : List ℕ) : withdraw 0 cs = cs := by
  induction cs with
  | nil => rfl
  | cons c cs ih =>
    rcases Nat.eq_zero_or_pos c with rfl | hpos
    · rw [withdraw_zero_cons, ih]
    · rw [withdraw_cons_of_lt cs hpos, Nat.sub_zero]

/-- **What is taken** is what was asked for, or all there is. -/
theorem sum_withdraw (n : ℕ) (cs : List ℕ) : (withdraw n cs).sum + min n cs.sum = cs.sum := by
  induction cs generalizing n with
  | nil => simp
  | cons c cs ih =>
    rcases Nat.lt_or_ge n c with hlt | hle
    · rw [withdraw_cons_of_lt cs hlt, List.sum_cons, List.sum_cons]
      omega
    · have hrest := ih (n - c)
      rw [withdraw_cons_of_le cs hle, List.sum_cons, List.sum_cons]
      omega

/-- **The sums on the way stay below a bound**, from what is taken already on, and as long as it is
less than what is asked for. Empty stacks are passed by. -/
def Withdrawable (bound n : ℕ) : ℕ → List ℕ → Prop
  | _, [] => True
  | taken, c :: cs =>
    taken + c < bound ∧ (taken + c < n ∨ c = 0 → Withdrawable bound n (taken + c) cs)

theorem withdrawable_of_sum {bound n taken : ℕ} {cs : List ℕ} (h : taken + cs.sum < bound) :
    Withdrawable bound n taken cs := by
  induction cs generalizing taken with
  | nil => trivial
  | cons c cs ih =>
    rw [List.sum_cons] at h
    exact ⟨by omega, fun _ => ih (by omega)⟩

end Commons
