import TeraCore.Commons.OrderedMap

/-!
# Ballots in which everybody's first answer counts

A ballot opens with an answer for each of its voters, who may have to give it yet.  Calls come in
one after another, also from voters who have answered and from people who have no vote.  Of a
voter who has to answer the first call counts; everything else is ignored.

## Main definitions

* `Ballot.firstCall`: a voter's first call
* `Ballot.answers`: the answers after a list of calls
* `Ballot.count`: how often an answer was given

## Main results

* `Ballot.answers_snoc_of_open`, `Ballot.answers_snoc_of_answered`: one more call
* `Ballot.count_set`: what a counted call does to the counts
-/

namespace Commons.Ballot

variable {κ α β : Type*} [LinearOrder κ] {unanswered : α} {answer : β → α}

/-- What a voter answers in their first call. -/
def firstCall (unanswered : α) (answer : β → α) (calls : List (κ × β)) (k : κ) : α :=
  match calls.find? fun call => call.1 = k with
  | none => unanswered
  | some call => answer call.2

theorem firstCall_snoc (calls : List (κ × β)) (k : κ) (b : β) (j : κ) :
    firstCall unanswered answer (calls ++ [(k, b)]) j =
      if j = k ∧ ∀ call ∈ calls, call.1 ≠ k then answer b
      else firstCall unanswered answer calls j := by
  unfold firstCall
  rw [List.find?_append]
  cases hcall : calls.find? fun call => call.1 = j with
  | none =>
    have hnone : ∀ call ∈ calls, call.1 ≠ j := by simpa using List.find?_eq_none.mp hcall
    by_cases hj : k = j
    · subst hj
      rw [if_pos ⟨rfl, hnone⟩]
      simp
    · rw [if_neg fun h => hj h.1.symm]
      simp [hj]
  | some call =>
    have hmem := List.mem_of_find?_eq_some hcall
    have hj : call.1 = j := by simpa using List.find?_some hcall
    rw [if_neg fun h => h.2 call hmem (hj.trans h.1)]
    rfl

variable [DecidableEq α]

/-- **The answers after the calls.** -/
def answers (unanswered : α) (answer : β → α) (opening : OrderedMap κ α) (calls : List (κ × β)) :
    OrderedMap κ α :=
  opening.mapVals fun k a => if a = unanswered then firstCall unanswered answer calls k else a

/-- How many voters have the answer. -/
def count (votes : OrderedMap κ α) (a : α) : ℕ := votes.values.countP (· = a)

variable (opening : OrderedMap κ α) (calls : List (κ × β)) (k : κ)

theorem find?_answers :
    (answers unanswered answer opening calls).find? k = (opening.find? k).map fun a =>
      if a = unanswered then firstCall unanswered answer calls k else a := by
  simp [answers]

theorem contains_answers :
    (answers unanswered answer opening calls).contains k = opening.contains k := by
  simp [OrderedMap.contains, find?_answers]

@[simp] theorem answers_nil (opening : OrderedMap κ α) :
    answers unanswered answer opening ([] : List (κ × β)) = opening := by
  refine OrderedMap.ext_find? fun k => ?_
  rw [find?_answers]
  cases opening.find? k with
  | none => rfl
  | some a =>
    by_cases ha : a = unanswered
    · simp [ha, firstCall]
    · simp [ha]

theorem answers_snoc_of_open (hanswer : ∀ b, answer b ≠ unanswered) {opening : OrderedMap κ α}
    {calls : List (κ × β)} {k : κ}
    (h : (answers unanswered answer opening calls).find? k = some unanswered) (b : β) :
    answers unanswered answer opening (calls ++ [(k, b)]) =
      (answers unanswered answer opening calls).set k (answer b) := by
  obtain ⟨a, ha, hfirst⟩ := Option.map_eq_some_iff.mp ((find?_answers opening calls k).symm.trans h)
  have hopen : a = unanswered := by
    by_contra hne
    rw [if_neg hne] at hfirst
    exact hne hfirst
  subst hopen
  rw [if_pos rfl] at hfirst
  -- A first call would be an answer.
  have hnone : ∀ call ∈ calls, call.1 ≠ k := by
    unfold firstCall at hfirst
    cases hcall : calls.find? fun call => call.1 = k with
    | none => simpa using List.find?_eq_none.mp hcall
    | some call =>
      rw [hcall] at hfirst
      exact absurd hfirst (hanswer _)
  refine OrderedMap.ext_find? fun j => ?_
  rw [find?_answers, OrderedMap.find?_set, find?_answers, firstCall_snoc]
  by_cases hj : j = k
  · rw [hj, if_pos rfl, ha, Option.map_some, if_pos rfl, if_pos ⟨rfl, hnone⟩]
  · rw [if_neg hj, if_neg fun h => hj h.1]

theorem answers_snoc_of_answered {opening : OrderedMap κ α} {calls : List (κ × β)} {k : κ} {a : α}
    (h : (answers unanswered answer opening calls).find? k = some a) (ha : a ≠ unanswered) (b : β) :
    answers unanswered answer opening (calls ++ [(k, b)]) =
      answers unanswered answer opening calls := by
  obtain ⟨a₀, ha₀, hfirst⟩ :=
    Option.map_eq_some_iff.mp ((find?_answers opening calls k).symm.trans h)
  refine OrderedMap.ext_find? fun j => ?_
  rw [find?_answers, find?_answers, firstCall_snoc]
  by_cases hj : j = k ∧ ∀ call ∈ calls, call.1 ≠ k
  · -- Without a call the answer is the one the ballot opened with.
    have hnone : firstCall unanswered answer calls k = unanswered := by
      have hcall : calls.find? (fun call => decide (call.1 = k)) = none :=
        List.find?_eq_none.mpr fun call hmem => by simpa using hj.2 call hmem
      unfold firstCall
      rw [hcall]
    have hne : a₀ ≠ unanswered := by
      rintro rfl
      rw [if_pos rfl, hnone] at hfirst
      exact ha hfirst.symm
    rw [hj.1, ha₀, Option.map_some, Option.map_some, if_neg hne, if_neg hne]
  · rw [if_neg hj]

/-! ## Counts -/

/-- A counted call moves a voter from those who have to answer to those who gave the answer. -/
theorem count_set {votes : OrderedMap κ α} {k : κ} {w : α} (h : votes.find? k = some w) (a c : α) :
    count (votes.set k a) c + (if w = c then 1 else 0) =
      count votes c + if a = c then 1 else 0 := by
  have hset := OrderedMap.countP_values_set h a fun v => decide (v = c)
  simpa [count] using hset

theorem count_set_le (votes : OrderedMap κ α) (k : κ) (a c : α) :
    count (votes.set k a) c ≤ count votes c + if a = c then 1 else 0 := by
  cases h : votes.find? k with
  | none =>
    have hset := OrderedMap.countP_values_set_of_none h a fun v => decide (v = c)
    simp only [count, hset, decide_eq_true_eq, le_refl]
  | some w =>
    have hset := count_set h a c
    omega

end Commons.Ballot
