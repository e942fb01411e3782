import Mathlib.Tactic.NormNum

/-!
# Computations that draw

A computation that asks for random numbers, on its way to a result, is the tree of what it does
with each number that it may get.  It draws a percentage, from 0 to 100, or the index of an entry
of a list.  It may also be stuck, which stands for a computation that was given up.

What can come of it are the results at the leaves of the tree, over all numbers that may be drawn.

## Main definitions

* `Draws`, `Draws.bind`, `Draws.foldl`: computations, one after the other, and for each entry of a
  list
* `Outcome`: a result that can come of a computation
* `Ends`: a computation is not stuck, whatever is drawn

## Main results

* `outcome_bind`, `Ends.bind`: computations that are made one after the other
* `foldl_invariant`, `ends_foldl`: what each turn of a loop keeps
* `exists_outcome_foldl`: an outcome of a loop that goes through a turn of one's choice
-/

namespace Commons

inductive Draws (α : Type) where
  | done (a : α)
  | chance (next : ℚ → Draws α)
  | index (n : ℕ) (next : ℕ → Draws α)
  | stuck

namespace Draws

variable {α β σ ι : Type}

/-- One computation after the other. -/
def bind (x : Draws α) (f : α → Draws β) : Draws β :=
  match x with
  | done a => f a
  | chance next => chance fun r => (next r).bind f
  | index n next => index n fun i => (next i).bind f
  | stuck => stuck

/-- **What can come of a computation.** -/
def Outcome : Draws α → α → Prop
  | done a, b => b = a
  | chance next, b => ∃ r, 0 ≤ r ∧ r < 100 ∧ (next r).Outcome b
  | index n next, b => ∃ i < n, (next i).Outcome b
  | stuck, _ => False

/-- **A computation ends**, whatever is drawn. -/
def Ends : Draws α → Prop
  | done _ => True
  | chance next => ∀ r, 0 ≤ r → r < 100 → (next r).Ends
  | index n next => 0 < n ∧ ∀ i < n, (next i).Ends
  | stuck => False

def result : Draws α → Option α
  | done a => some a
  | _ => none

/-- For each entry of a list, a computation that changes a state. -/
def foldl (f : σ → ι → Draws σ) : σ → List ι → Draws σ
  | s, [] => done s
  | s, i :: l => (f s i).bind fun s' => foldl f s' l

variable {x : Draws α} {f : α → Draws β} {b : β} {g : σ → ι → Draws σ} {s s' : σ} {l : List ι}

theorem outcome_of_result {a : α} (h : x.result = some a) : x.Outcome a := by
  cases x with
  | done a' => exact (Option.some.inj h).symm
  | chance next => cases h
  | index n next => cases h
  | stuck => cases h

theorem outcome_bind : (x.bind f).Outcome b ↔ ∃ a, x.Outcome a ∧ (f a).Outcome b := by
  induction x with
  | done a => simp [bind, Outcome]
  | chance next ih =>
    simp only [bind, Outcome, ih]
    exact ⟨fun ⟨r, hr, hr', a, ha, hb⟩ => ⟨a, ⟨r, hr, hr', ha⟩, hb⟩,
      fun ⟨a, ⟨r, hr, hr', ha⟩, hb⟩ => ⟨r, hr, hr', a, ha, hb⟩⟩
  | index n next ih =>
    simp only [bind, Outcome, ih]
    exact ⟨fun ⟨i, hi, a, ha, hb⟩ => ⟨a, ⟨i, hi, ha⟩, hb⟩,
      fun ⟨a, ⟨i, hi, ha⟩, hb⟩ => ⟨i, hi, a, ha, hb⟩⟩
  | stuck => simp [bind, Outcome]

theorem Ends.bind (hx : x.Ends) (hf : ∀ a, x.Outcome a → (f a).Ends) : (x.bind f).Ends := by
  induction x with
  | done a => exact hf a rfl
  | chance next ih =>
    exact fun r hr hr' => ih r (hx r hr hr') fun a ha => hf a ⟨r, hr, hr', ha⟩
  | index n next ih => exact ⟨hx.1, fun i hi => ih i (hx.2 i hi) fun a ha => hf a ⟨i, hi, ha⟩⟩
  | stuck => exact hx

theorem Ends.exists_outcome (hx : x.Ends) : ∃ a, x.Outcome a := by
  induction x with
  | done a => exact ⟨a, rfl⟩
  | chance next ih =>
    obtain ⟨a, ha⟩ := ih 0 (hx 0 le_rfl (by norm_num))
    exact ⟨a, 0, le_rfl, by norm_num, ha⟩
  | index n next ih =>
    obtain ⟨a, ha⟩ := ih 0 (hx.2 0 hx.1)
    exact ⟨a, 0, hx.1, ha⟩
  | stuck => exact hx.elim

/-- **What each turn keeps**, the loop keeps. -/
theorem foldl_invariant (P : σ → Prop) (h : ∀ s, ∀ i ∈ l, ∀ s', P s → (g s i).Outcome s' → P s')
    (hs : P s) (hout : (foldl g s l).Outcome s') : P s' := by
  induction l generalizing s with
  | nil =>
    obtain rfl := hout
    exact hs
  | cons i l ih =>
    obtain ⟨s₁, hs₁, hout⟩ := outcome_bind.mp hout
    exact ih (fun s j hj => h s j (List.mem_cons_of_mem _ hj))
      (h s i List.mem_cons_self s₁ hs hs₁) hout

theorem ends_foldl (h : ∀ s, ∀ i ∈ l, (g s i).Ends) : (foldl g s l).Ends := by
  induction l generalizing s with
  | nil => trivial
  | cons i l ih =>
    exact (h s i List.mem_cons_self).bind fun s' _ =>
      ih fun s j hj => h s j (List.mem_cons_of_mem _ hj)

/-- **A turn of one's choice**: what an outcome of one turn has, and the others keep, an outcome of
the loop has. -/
theorem exists_outcome_foldl (P Q : σ → Prop) (hends : ∀ s, ∀ i ∈ l, (g s i).Ends)
    (hP : ∀ s, ∀ i ∈ l, ∀ s', P s → (g s i).Outcome s' → P s')
    (hQ : ∀ s, ∀ i ∈ l, ∀ s', Q s → (g s i).Outcome s' → Q s') {i : ι} (hi : i ∈ l)
    (hturn : ∀ s, P s → ∃ s', (g s i).Outcome s' ∧ Q s') (hs : P s) :
    ∃ s', (foldl g s l).Outcome s' ∧ Q s' := by
  induction l generalizing s with
  | nil => cases hi
  | cons j l ih =>
    have hends' : ∀ s, ∀ i ∈ l, (g s i).Ends := fun s i hi => hends s i (List.mem_cons_of_mem _ hi)
    rcases List.mem_cons.mp hi with rfl | hi
    · obtain ⟨s₁, hs₁, hQ₁⟩ := hturn s hs
      obtain ⟨s', hs'⟩ := (ends_foldl (s := s₁) hends').exists_outcome
      exact ⟨s', outcome_bind.mpr ⟨s₁, hs₁, hs'⟩,
        foldl_invariant Q (fun s k hk => hQ s k (List.mem_cons_of_mem _ hk)) hQ₁ hs'⟩
    · obtain ⟨s₁, hs₁⟩ := (hends s j List.mem_cons_self).exists_outcome
      obtain ⟨s', hs', hQ'⟩ := ih hends' (fun s k hk => hP s k (List.mem_cons_of_mem _ hk))
        (fun s k hk => hQ s k (List.mem_cons_of_mem _ hk)) hi (hP s j List.mem_cons_self s₁ hs hs₁)
      exact ⟨s', outcome_bind.mpr ⟨s₁, hs₁, hs'⟩, hQ'⟩

end Draws

end Commons
