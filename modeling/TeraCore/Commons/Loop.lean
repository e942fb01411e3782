import Mathlib.Order.Basic

/-!
# Loops that are left from inside

A turn of a loop ends the loop with a result, or goes on from a new state.  A loop is run to a
number of turns.  An invariant that the turns keep and a measure that they decrease tell that the
loop ends, and how.

## Main definitions

* `Turn`: what a turn of a loop does
* `loop`: the loop, to a number of turns
* `Returns`: a call that is bounded in this way comes back

## Main results

* `loop_of_le`: more turns change nothing
* `loop_of_leave`: a loop whose first turn leaves it
* `loop_result`: what every result of a turn is, the result of the loop is
* `loop_spec`: a loop with an invariant and a measure ends, and its result is as it should be
-/

namespace Commons

variable {σ ρ : Type*}

inductive Turn (σ ρ : Type*)
  | leave (result : ρ)
  | goOn (state : σ)

/-- **The loop**, or nothing if the turns do not suffice. -/
def loop (turn : σ → Turn σ ρ) : ℕ → σ → Option ρ
  | 0, _ => none
  | turns + 1, s =>
    match turn s with
    | .leave r => some r
    | .goOn s' => loop turn turns s'

/-- **The call comes back with this result**, whatever bound is set beyond what it needs. -/
def Returns (f : ℕ → Option ρ) (r : ρ) : Prop := ∃ enough, ∀ bound ≥ enough, f bound = some r

variable {turn : σ → Turn σ ρ} {s : σ} {r : ρ}

theorem loop_of_le {turns turns' : ℕ} (h : loop turn turns s = some r) (hle : turns ≤ turns') :
    loop turn turns' s = some r := by
  induction turns generalizing s turns' with
  | zero => cases h
  | succ turns ih =>
    obtain ⟨turns', rfl⟩ : ∃ n, turns' = n + 1 := ⟨turns' - 1, by omega⟩
    rw [loop] at h ⊢
    cases hturn : turn s with
    | leave r' =>
      rw [hturn] at h
      exact h
    | goOn s' =>
      rw [hturn] at h
      exact ih h (by omega)

theorem loop_of_leave {turns : ℕ} (h : turn s = .leave r) (hturns : 1 ≤ turns) :
    loop turn turns s = some r := by
  obtain ⟨turns, rfl⟩ := Nat.exists_eq_add_of_le' hturns
  rw [loop, h]

theorem loop_result (Good : ρ → Prop) (hleave : ∀ s r, turn s = .leave r → Good r) {turns : ℕ}
    (h : loop turn turns s = some r) : Good r := by
  induction turns generalizing s with
  | zero => cases h
  | succ turns ih =>
    rw [loop] at h
    cases hturn : turn s with
    | leave r' =>
      rw [hturn] at h
      exact Option.some.inj h ▸ hleave s r' hturn
    | goOn s' =>
      rw [hturn] at h
      exact ih h

/-- **The loop rule.**  The turns keep an invariant and decrease a measure, and whoever leaves the
loop has a good result. -/
theorem loop_spec (turn : σ → Turn σ ρ) (Inv : σ → Prop) (Good : ρ → Prop) (μ : σ → ℕ)
    (hleave : ∀ s r, Inv s → turn s = .leave r → Good r)
    (hgoOn : ∀ s s', Inv s → turn s = .goOn s' → Inv s' ∧ μ s' < μ s) {turns : ℕ} (hs : Inv s)
    (hturns : μ s < turns) : ∃ r, loop turn turns s = some r ∧ Good r := by
  induction turns generalizing s with
  | zero => omega
  | succ turns ih =>
    rw [loop]
    cases hturn : turn s with
    | leave r => exact ⟨r, rfl, hleave s r hs hturn⟩
    | goOn s' =>
      obtain ⟨hs', hless⟩ := hgoOn s s' hs hturn
      exact ih hs' (by omega)

end Commons
