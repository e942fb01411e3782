import Mathlib.Algebra.BigOperators.Fin

/-!
# Slots

A container with a fixed, finite set of slots, each of which holds one thing or nothing.  A
measure of its things is summed over the slots, and changes slot by slot.

## Main definitions

* `Slots σ α`: what each slot holds
* `Slots.put`: the slots after one of them is filled or emptied
* `Slots.total f`: the sum of `f` over what the slots hold

## Main results

* `total_put`: the sum after one slot changes
* `Slots.Distinct`: no key is in two slots, and what keeps it so
-/

namespace Commons

/-- What each slot holds. -/
abbrev Slots (σ α : Type*) := σ → Option α

namespace Slots

variable {σ α κ : Type*} [DecidableEq σ]

/-- The slot `s` holds `v` from now on. -/
def put (c : Slots σ α) (s : σ) (v : Option α) : Slots σ α := Function.update c s v

@[simp] theorem put_self (c : Slots σ α) (s : σ) (v : Option α) : c.put s v s = v :=
  Function.update_self _ _ _

theorem put_of_ne (c : Slots σ α) {s s' : σ} (v : Option α) (h : s' ≠ s) :
    c.put s v s' = c s' :=
  Function.update_of_ne h _ _

/-- A measure of what a slot holds, `0` for nothing. -/
def weight (f : α → ℕ) (v : Option α) : ℕ := (v.map f).getD 0

@[simp] theorem weight_none (f : α → ℕ) : weight f none = 0 := rfl

@[simp] theorem weight_some (f : α → ℕ) (a : α) : weight f (some a) = f a := rfl

section Total

variable [Fintype σ]

/-- The sum of `f` over what the slots hold. -/
def total (f : α → ℕ) (c : Slots σ α) : ℕ := ∑ s, weight f (c s)

/-- **One slot changes**: what it held leaves the sum, and what it holds enters it. -/
theorem total_put (f : α → ℕ) (c : Slots σ α) (s : σ) (v : Option α) :
    total f (c.put s v) + weight f (c s) = total f c + weight f v := by
  have hrest : ∑ s' ∈ Finset.univ.erase s, weight f (c.put s v s') =
      ∑ s' ∈ Finset.univ.erase s, weight f (c s') :=
    Finset.sum_congr rfl fun s' hs' => by rw [put_of_ne c v (Finset.ne_of_mem_erase hs')]
  have hput := Finset.add_sum_erase Finset.univ (fun s' => weight f (c.put s v s'))
    (Finset.mem_univ s)
  have hold := Finset.add_sum_erase Finset.univ (fun s' => weight f (c s')) (Finset.mem_univ s)
  simp only [put_self] at hput
  rw [total, total, ← hput, ← hold, hrest]
  omega

end Total

/-! ## Keys -/

/-- **Distinct keys**: what two slots hold has two keys. -/
def Distinct (key : α → κ) (c : Slots σ α) : Prop :=
  ∀ s s' a a', c s = some a → c s' = some a' → key a = key a' → s = s'

variable {key : α → κ} {c : Slots σ α}

theorem Distinct.put_none (h : Distinct key c) (s : σ) : Distinct key (c.put s none) := by
  have hc : ∀ s' a, c.put s none s' = some a → c s' = some a := by
    intro s' a ha
    rcases eq_or_ne s' s with rfl | hs
    · rw [put_self] at ha
      cases ha
    · rwa [put_of_ne c none hs] at ha
  intro s₁ s₂ a₁ a₂ h₁ h₂
  exact h s₁ s₂ a₁ a₂ (hc s₁ a₁ h₁) (hc s₂ a₂ h₂)

theorem Distinct.put_some (h : Distinct key c) {s : σ} {a : α}
    (hnew : ∀ s' a', s' ≠ s → c s' = some a' → key a' ≠ key a) :
    Distinct key (c.put s (some a)) := by
  intro s₁ s₂ a₁ a₂ h₁ h₂ heq
  rcases eq_or_ne s₁ s with rfl | hs₁
  · rcases eq_or_ne s₂ s₁ with rfl | hs₂
    · rfl
    · rw [put_self] at h₁
      rw [put_of_ne c _ hs₂] at h₂
      cases h₁
      exact absurd heq.symm (hnew s₂ a₂ hs₂ h₂)
  · rcases eq_or_ne s₂ s with rfl | hs₂
    · rw [put_self] at h₂
      rw [put_of_ne c _ hs₁] at h₁
      cases h₂
      exact absurd heq (hnew s₁ a₁ hs₁ h₁)
    · rw [put_of_ne c _ hs₁] at h₁
      rw [put_of_ne c _ hs₂] at h₂
      exact h s₁ s₂ a₁ a₂ h₁ h₂ heq

end Slots

end Commons
