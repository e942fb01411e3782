import Mathlib.Data.List.Infix

/-!
# Searching in lists

A list is searched for the first place, from some place on, where a pattern stands.

## Main results

* `findFrom_eq_some_iff`, `findFrom_eq_none_iff`: what a search says
* `findFrom_of_append`: the pattern stands where its last element occurs for the first time
* `findFrom_singleton`: the first occurrence of an element
-/

namespace Commons

variable {α : Type*} [DecidableEq α]

/-- **The first place from `start` on** where the pattern stands in the list. -/
def findFrom (l pattern : List α) (start : ℕ) : Option ℕ :=
  (List.range (l.length + 1)).find? fun i => start ≤ i ∧ pattern <+: l.drop i

variable {l pattern front : List α} {start i : ℕ} {a : α}

theorem findFrom_eq_some_iff : findFrom l pattern start = some i ↔
    (start ≤ i ∧ pattern <+: l.drop i) ∧ i ≤ l.length ∧
      ∀ j < i, start ≤ j → ¬pattern <+: l.drop j := by
  simp [findFrom, Nat.lt_succ_iff, imp_iff_not_or]

theorem findFrom_eq_none_iff : findFrom l pattern start = none ↔
    ∀ i ≤ l.length, start ≤ i → ¬pattern <+: l.drop i := by
  simp [findFrom, Nat.lt_succ_iff]

theorem findFrom_eq_none_of_notMem (ha : a ∈ pattern) (hl : a ∉ l) (start : ℕ) :
    findFrom l pattern start = none :=
  findFrom_eq_none_iff.mpr fun _ _ _ hpre =>
    hl (List.mem_of_mem_drop (hpre.subset ha))

theorem findFrom_eq_none_of_lt (h : l.length < start) : findFrom l pattern start = none :=
  findFrom_eq_none_iff.mpr fun _ hi hstart => absurd (h.trans_le hstart) (not_lt.mpr hi)

theorem findFrom_of_append {rest : List α} (ha : a ∉ front ++ pattern) :
    findFrom (front ++ pattern ++ a :: rest) (pattern ++ [a]) 0 = some front.length := by
  refine findFrom_eq_some_iff.mpr ⟨⟨Nat.zero_le _, rest, ?_⟩, ?_, fun j hj _ hpre => ?_⟩
  · simp [List.append_assoc]
  · simp only [List.length_append, List.length_cons]
    omega
  · have hlast : (front ++ pattern ++ a :: rest)[j + pattern.length]? = some a := by
      rw [← List.getElem?_drop]
      obtain ⟨t, ht⟩ := hpre
      rw [← ht]
      simp
    have hlt : j + pattern.length < (front ++ pattern).length := by
      rw [List.length_append]
      omega
    rw [List.getElem?_append_left hlt] at hlast
    exact ha (List.mem_of_getElem? hlast)

/-- **The first occurrence of an element.** -/
theorem findFrom_singleton {l₀ l₁ : List α} (ha : a ∉ l₁) :
    findFrom (front ++ l₁ ++ a :: l₀) [a] front.length = some (front.length + l₁.length) := by
  refine findFrom_eq_some_iff.mpr ⟨⟨Nat.le_add_right _ _, l₀, ?_⟩, ?_, fun j hj hstart hpre => ?_⟩
  · rw [← List.length_append, List.drop_left]
    rfl
  · simp only [List.length_append, List.length_cons]
    omega
  · have hat : (front ++ l₁ ++ a :: l₀)[j]? = some a := by
      obtain ⟨t, ht⟩ := hpre
      rw [← Nat.add_zero j, ← List.getElem?_drop, ← ht]
      rfl
    rw [List.append_assoc, List.getElem?_append_right hstart,
      List.getElem?_append_left (by omega)] at hat
    exact ha (List.mem_of_getElem? hat)

theorem notMem_of_findFrom (h : findFrom l [a] start = some i) :
    a ∉ (l.drop start).take (i - start) := by
  obtain ⟨-, -, hfirst⟩ := findFrom_eq_some_iff.mp h
  intro ha
  obtain ⟨k, hk, heq⟩ := List.getElem_of_mem ha
  rw [List.length_take, List.length_drop] at hk
  rw [List.getElem_take, List.getElem_drop] at heq
  refine hfirst (start + k) (by omega) (Nat.le_add_right _ _) ⟨l.drop (start + k + 1), ?_⟩
  rw [List.singleton_append, ← heq, ← List.drop_eq_getElem_cons]

end Commons
