import Mathlib.Tactic.Common

/-!
# Runs of a state machine

A component that answers one operation after another is a step function on its states.  Its
states over a whole history are the runs of that function, and what holds of every one of them
is proved from what one step preserves.

Some properties are preserved only by the steps that meet a side condition on the state they
start from.  `Admissible` is the histories all of whose steps meet it, and `run_invariant` is
the induction over them.

## Main definitions

* `run step s ops`: the state after the operations `ops`
* `Admissible step ok s ops`: every operation of `ops` meets `ok` in the state it starts from

## Main results

* `run_invariant`: what holds initially and is preserved by the steps that meet `ok` holds
  after every admissible run
* `Admissible.prefix`: every state a run passes through is the end of an admissible run
* `run_stepOption_invariant`, `stepOption_invariant`: the same for steps that may have no result
* `admissible_of_run_stepOption`: what a run with a result meets
* `foldl_frame`, `foldl_invariant`: what no turn of a loop changes, and what every one preserves
* `foldl_range_invariant`: the same for a loop that counts
-/

namespace Commons

variable {σ ι : Type*}

/-- The state after the operations `ops`, from `s`. -/
def run (step : σ → ι → σ) (s : σ) (ops : List ι) : σ :=
  ops.foldl step s

/-- **Admissible runs**: every operation meets `ok` in the state it is applied to. -/
def Admissible (step : σ → ι → σ) (ok : σ → ι → Prop) : σ → List ι → Prop
  | _, [] => True
  | s, i :: ops => ok s i ∧ Admissible step ok (step s i) ops

instance Admissible.decidable (step : σ → ι → σ) (ok : σ → ι → Prop)
    [∀ s i, Decidable (ok s i)] : ∀ s ops, Decidable (Admissible step ok s ops)
  | _, [] => instDecidableTrue
  | s, i :: ops =>
    @instDecidableAnd _ _ _ (Admissible.decidable step ok (step s i) ops)

variable {step : σ → ι → σ} {ok : σ → ι → Prop}

@[simp] theorem run_nil (s : σ) : run step s [] = s := rfl

@[simp] theorem run_cons (s : σ) (i : ι) (ops : List ι) :
    run step s (i :: ops) = run step (step s i) ops := rfl

theorem run_append (s : σ) (ops ops' : List ι) :
    run step s (ops ++ ops') = run step (run step s ops) ops' :=
  List.foldl_append

@[simp] theorem admissible_nil (s : σ) : Admissible step ok s [] := trivial

@[simp] theorem admissible_cons (s : σ) (i : ι) (ops : List ι) :
    Admissible step ok s (i :: ops) ↔ ok s i ∧ Admissible step ok (step s i) ops := Iff.rfl

theorem admissible_append {s : σ} {ops ops' : List ι} :
    Admissible step ok s (ops ++ ops') ↔
      Admissible step ok s ops ∧ Admissible step ok (run step s ops) ops' := by
  induction ops generalizing s with
  | nil => simp
  | cons i ops ih => simp [ih, and_assoc]

theorem Admissible.prefix {s : σ} {ops ops' : List ι}
    (h : Admissible step ok s (ops ++ ops')) : Admissible step ok s ops :=
  (admissible_append.mp h).1

theorem Admissible.and {ok' : σ → ι → Prop} {s : σ} {ops : List ι} (h : Admissible step ok s ops)
    (h' : Admissible step ok' s ops) : Admissible step (fun s i => ok s i ∧ ok' s i) s ops := by
  induction ops generalizing s with
  | nil => trivial
  | cons i ops ih => exact ⟨⟨h.1, h'.1⟩, ih h.2 h'.2⟩

/-- What follows from `ok` where an invariant of the steps that meet it holds is met by every
admissible run. -/
theorem Admissible.of_invariant {ok' : σ → ι → Prop} (Inv : σ → Prop)
    (hstep : ∀ s i, Inv s → ok s i → Inv (step s i)) (hok : ∀ s i, Inv s → ok s i → ok' s i) {s : σ}
    {ops : List ι} (hs : Inv s) (h : Admissible step ok s ops) : Admissible step ok' s ops := by
  induction ops generalizing s with
  | nil => trivial
  | cons i ops ih => exact ⟨hok s i hs h.1, ih (hstep s i hs h.1) h.2⟩

/-- Where an invariant makes two conditions say the same, runs meet both or none: it is enough that
steps that meet the second condition keep the invariant. -/
theorem admissible_congr {ok' : σ → ι → Prop} (Inv : σ → Prop) {s : σ} {ops : List ι}
    (hstep : ∀ s, ∀ i ∈ ops, Inv s → ok' s i → Inv (step s i))
    (hok : ∀ s, ∀ i ∈ ops, Inv s → (ok s i ↔ ok' s i)) (hs : Inv s) :
    Admissible step ok s ops ↔ Admissible step ok' s ops := by
  induction ops generalizing s with
  | nil => exact Iff.rfl
  | cons i ops ih =>
    have hi : i ∈ i :: ops := List.mem_cons_self
    rw [admissible_cons, admissible_cons, hok s i hi hs]
    refine and_congr_right fun hsi => ih (fun s j hj => ?_) (fun s j hj => ?_) (hstep s i hi hs hsi)
    · exact hstep s j (List.mem_cons_of_mem _ hj)
    · exact hok s j (List.mem_cons_of_mem _ hj)

/-- **The invariant rule.** What holds initially and is preserved by every step that meets
`ok` holds after every admissible run. -/
theorem run_invariant (Inv : σ → Prop)
    (hstep : ∀ s i, Inv s → ok s i → Inv (step s i)) {s : σ} {ops : List ι} (hs : Inv s)
    (h : Admissible step ok s ops) : Inv (run step s ops) := by
  induction ops generalizing s with
  | nil => exact hs
  | cons i ops ih => exact ih (hstep s i hs h.1) h.2

/-! ## Steps that may have no result -/

/-- A step that may have no result, after steps that may have none. -/
def stepOption (step : σ → ι → Option σ) (s? : Option σ) (i : ι) : Option σ :=
  s?.bind fun s => step s i

theorem run_stepOption_invariant {step : σ → ι → Option σ} (Inv : σ → Prop)
    (hstep : ∀ s i, Inv s → ok s i → ∃ s', step s i = some s' ∧ Inv s') {s : σ} {ops : List ι}
    (hs : Inv s)
    (h : Admissible (stepOption step) (fun s? i => ∀ s ∈ s?, ok s i) (some s) ops) :
    ∃ s', run (stepOption step) (some s) ops = some s' ∧ Inv s' := by
  refine run_invariant (fun s? => ∃ s', s? = some s' ∧ Inv s') (fun s? i hinv hok => ?_)
    ⟨s, rfl, hs⟩ h
  obtain ⟨s, rfl, hs⟩ := hinv
  exact hstep s i hs (hok s rfl)

theorem foldl_frame {τ : Type*} (g : σ → τ) (h : ∀ s i, g (step s i) = g s) (l : List ι) (s : σ) :
    g (l.foldl step s) = g s := by
  induction l generalizing s with
  | nil => rfl
  | cons i l ih => exact (ih _).trans (h s i)

theorem foldl_invariant (Inv : σ → Prop) {l : List ι} (h : ∀ s, ∀ i ∈ l, Inv s → Inv (step s i))
    {s : σ} (hs : Inv s) : Inv (l.foldl step s) := by
  induction l generalizing s with
  | nil => exact hs
  | cons i l ih =>
    exact ih (fun s j hj => h s j (List.mem_cons_of_mem _ hj)) (h s i List.mem_cons_self hs)

/-- What every turn of a counting loop takes from one number to the next holds after the loop. -/
theorem foldl_range_invariant {f : σ → ℕ → σ} (Inv : ℕ → σ → Prop)
    (h : ∀ i s, Inv i s → Inv (i + 1) (f s i)) {s : σ} (hs : Inv 0 s) (n : ℕ) :
    Inv n ((List.range n).foldl f s) := by
  induction n with
  | zero => exact hs
  | succ n ih =>
    rw [List.range_succ, List.foldl_append]
    exact h n _ ih

/-- **What every result of a step keeps** holds of the result of a run, if there is one. -/
theorem stepOption_invariant {step : σ → ι → Option σ} (Inv : σ → Prop)
    (hstep : ∀ s i s', Inv s → step s i = some s' → Inv s') {s : σ} {ops : List ι} (hs : Inv s) :
    ∀ s', run (stepOption step) (some s) ops = some s' → Inv s' := by
  refine foldl_invariant (fun s? => ∀ s', s? = some s' → Inv s')
    (fun s? i _ hinv s' hs' => ?_) fun s' hs' => ?_
  · obtain ⟨s, hs, hstep'⟩ := Option.bind_eq_some_iff.mp hs'
    exact hstep s i s' (hinv s hs) hstep'
  · cases hs'
    exact hs

end Commons
