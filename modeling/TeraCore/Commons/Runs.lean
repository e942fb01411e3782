import Mathlib.Data.List.SplitBy

/-!
# Runs that are collapsed

A list falls into its maximal runs of elements that a test finds alike.  Collapsing it replaces each
run of elements that the test holds of by one element, and leaves the others as they are.

## Main definitions

* `runs p l`: the maximal runs
* `collapse p c l`: each run of elements that `p` holds of is replaced by `c`

## Main results

* `collapse_concat`: what one more element changes
* `filter_collapse`: the other elements are kept, in order
* `collapse_collapse`: there is nothing to collapse any more
-/

namespace Commons

variable {α : Type*} (p : α → Bool) (c : α)

/-- The maximal runs of elements that the test finds alike. -/
def runs (l : List α) : List (List α) := l.splitBy fun a b => p a == p b

/-- What a run is replaced by. -/
def squeeze (run : List α) : List α := if run.any p then [c] else run

/-- **Every run of elements that the test holds of is replaced by one element.** -/
def collapse (l : List α) : List α := (runs p l).flatMap (squeeze p c)

/-- The test holds of the last element. -/
def endsIn (l : List α) : Bool := l.getLast?.any p

variable {p c} {l m run : List α} {x : α}

@[simp] theorem collapse_nil : collapse p c [] = [] := rfl

@[simp] theorem endsIn_nil : endsIn p [] = false := rfl

@[simp] theorem endsIn_concat : endsIn p (l ++ [x]) = p x := by simp [endsIn]

theorem collapse_append (h : ∀ x ∈ l.getLast?, ∀ y ∈ m.head?, p x ≠ p y) :
    collapse p c (l ++ m) = collapse p c l ++ collapse p c m := by
  have hruns : runs p (l ++ m) = runs p l ++ runs p m :=
    List.splitBy_append fun x hx y hy => beq_eq_false_iff_ne.mpr (h x hx y hy)
  rw [collapse, hruns, List.flatMap_append]
  rfl

theorem collapse_of_alike (hrun : run ≠ []) (h : ∀ y ∈ run, p y = p x) :
    collapse p c run = squeeze p c run := by
  have hchain : run.IsChain fun a b => (p a == p b) = true := by
    refine (List.pairwise_iff_forall_sublist.mpr fun {a b} hsub => ?_).isChain
    have hmem := hsub.subset
    rw [beq_iff_eq, h a (hmem (by simp)), h b (hmem (by simp))]
  rw [collapse, runs, List.splitBy_of_isChain hrun hchain, List.flatMap_singleton]

/-- A list ends with a run of elements that are alike, and the one before it is of the other
kind. -/
theorem exists_lastRun (p : α → Bool) (l : List α) (x : α) :
    ∃ front run, l ++ [x] = front ++ run ∧ run ≠ [] ∧ (∀ y ∈ run, p y = p x) ∧
      ∀ y ∈ front.getLast?, p y ≠ p x := by
  induction l using List.reverseRecOn generalizing x with
  | nil => exact ⟨[], [x], rfl, List.cons_ne_nil _ _, by simp, by simp⟩
  | append_singleton l z ih =>
    by_cases hz : p z = p x
    · obtain ⟨front, run, heq, -, halike, hfront⟩ := ih z
      refine ⟨front, run ++ [x], by rw [heq, List.append_assoc], by simp, fun y hy => ?_, ?_⟩
      · rcases List.mem_append.mp hy with hy | hy
        · exact (halike y hy).trans hz
        · rw [List.mem_singleton.mp hy]
      · exact hz ▸ hfront
    · exact ⟨l ++ [z], [x], rfl, List.cons_ne_nil _ _, by simp, by simpa using hz⟩

/-- **One more element** is one more element of the result, unless it goes on with a run that is
replaced. -/
theorem collapse_concat (l : List α) (x : α) : collapse p c (l ++ [x]) =
    if p x then (if endsIn p l then collapse p c l else collapse p c l ++ [c])
    else collapse p c l ++ [x] := by
  have hsingle : collapse p c [x] = if p x then [c] else [x] := by
    rw [collapse_of_alike (x := x) (List.cons_ne_nil _ _) (by simp)]
    simp [squeeze]
  induction l using List.reverseRecOn with
  | nil => simpa using hsingle
  | append_singleton l z _ =>
    rw [endsIn_concat]
    by_cases hz : p z = p x
    · obtain ⟨front, run, heq, hrun, halike, hfront⟩ := exists_lastRun p l z
      have hhead : ∀ a ∈ front.getLast?, ∀ b ∈ run.head?, p a ≠ p b := fun a ha b hb =>
        halike b (List.mem_of_mem_head? hb) ▸ hfront a ha
      have halike' : ∀ y ∈ run ++ [x], p y = p x := fun y hy => by
        rcases List.mem_append.mp hy with hy | hy
        · exact (halike y hy).trans hz
        · rw [List.mem_singleton.mp hy]
      have hhead' : ∀ a ∈ front.getLast?, ∀ b ∈ (run ++ [x]).head?, p a ≠ p b := fun a ha b hb =>
        halike' b (List.mem_of_mem_head? hb) ▸ hz ▸ hfront a ha
      rw [heq, List.append_assoc, collapse_append hhead, collapse_append hhead',
        collapse_of_alike hrun halike, collapse_of_alike (by simp) halike', hz]
      obtain ⟨y, hy⟩ := List.exists_mem_of_ne_nil run hrun
      cases hx : p x with
      | true =>
        have hany : run.any p = true := List.any_eq_true.mpr ⟨y, hy, by rw [halike y hy, hz, hx]⟩
        simp [squeeze, hany]
      | false =>
        have hany : run.any p = false := List.any_eq_false.mpr fun a ha => by
          rw [halike a ha, hz, hx]
          exact Bool.false_ne_true
        simp [squeeze, hany, hx]
    · rw [collapse_append (by simpa using hz), hsingle]
      cases hx : p x with
      | true => simp [Bool.eq_false_iff.mpr fun hpz => hz (hpz.trans hx.symm)]
      | false => simp

theorem filter_collapse (hc : p c = true) (l : List α) :
    (collapse p c l).filter (!p ·) = l.filter (!p ·) := by
  induction l using List.reverseRecOn with
  | nil => rfl
  | append_singleton l x ih =>
    rw [collapse_concat, List.filter_append, ← ih]
    split_ifs with hx <;> simp [hx, hc]

theorem endsIn_collapse (hc : p c = true) (l : List α) :
    endsIn p (collapse p c l) = endsIn p l := by
  induction l using List.reverseRecOn with
  | nil => rfl
  | append_singleton l x ih =>
    rw [collapse_concat, endsIn_concat]
    split_ifs with hx hl
    · rw [ih, hl, hx]
    · rw [endsIn_concat, hc, hx]
    · rw [endsIn_concat]

theorem collapse_collapse (hc : p c = true) (l : List α) :
    collapse p c (collapse p c l) = collapse p c l := by
  induction l using List.reverseRecOn with
  | nil => rfl
  | append_singleton l x ih =>
    rw [collapse_concat]
    split_ifs with hx hl
    · exact ih
    · rw [collapse_concat, if_pos hc, endsIn_collapse hc, if_neg hl, ih]
    · rw [collapse_concat, if_neg hx, ih]

theorem collapse_eq_nil_iff : collapse p c l = [] ↔ l = [] := by
  refine ⟨fun h => ?_, fun h => by rw [h, collapse_nil]⟩
  induction l using List.reverseRecOn with
  | nil => rfl
  | append_singleton l x ih =>
    rw [collapse_concat] at h
    split_ifs at h with hx hl
    · rw [ih h] at hl
      exact absurd hl Bool.false_ne_true
    · exact absurd h (List.append_ne_nil_of_right_ne_nil _ (List.cons_ne_nil _ _))
    · exact absurd h (List.append_ne_nil_of_right_ne_nil _ (List.cons_ne_nil _ _))

end Commons
