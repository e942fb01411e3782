import Mathlib.Order.Lattice
import Mathlib.Data.List.Nodup

/-!
# Ordered sets

A finite set as the list of its elements in increasing order.  The order is carried as a field,
so that a set has each element once and is walked from its smallest element to its largest.

## Main definitions

* `OrderedSet κ`: the elements, with the proof that they increase
* `insert`, `erase`, `inter`, `ofList`: a new element, a removal, the common elements of two
  sets, and the set of a list's elements

## Main results

* `mem_insert`, `mem_erase`, `mem_inter`, `mem_ofList`: the elements after an operation
* `size_insert`, `size_erase`, `size_ofList`: how many there are
* `ext`: two sets with the same elements are equal
-/

namespace Commons

/-- **An ordered set**: its elements, in increasing order. -/
structure OrderedSet (κ : Type*) [LinearOrder κ] where
  /-- The elements, smallest first. -/
  elems : List κ
  sorted : elems.Pairwise (· < ·)

namespace OrderedSet

variable {κ : Type*} [LinearOrder κ]

instance : DecidableEq (OrderedSet κ) := fun s s' =>
  decidable_of_iff (s.elems = s'.elems) (by cases s; cases s'; simp)

/-- The set without elements. -/
def empty : OrderedSet κ := ⟨[], List.Pairwise.nil⟩

instance : Membership κ (OrderedSet κ) := ⟨fun s k => k ∈ s.elems⟩

instance (k : κ) (s : OrderedSet κ) : Decidable (k ∈ s) :=
  inferInstanceAs (Decidable (k ∈ s.elems))

variable (s : OrderedSet κ)

/-- The number of elements. -/
def size : ℕ := s.elems.length

/-- Insertion in a list of elements, at its place. -/
def insertElem (k : κ) : List κ → List κ
  | [] => [k]
  | e :: es =>
    if k < e then k :: e :: es
    else if e < k then e :: insertElem k es
    else e :: es

theorem mem_insertElem {k j : κ} {es : List κ} : j ∈ insertElem k es ↔ j = k ∨ j ∈ es := by
  induction es with
  | nil => simp [insertElem]
  | cons e es ih =>
    simp only [insertElem]
    split_ifs with h₁ h₂
    · simp
    · simp only [List.mem_cons, ih]
      tauto
    · have hk : k = e := le_antisymm (not_lt.mp h₂) (not_lt.mp h₁)
      simp [hk]

theorem insertElem_sorted (k : κ) {es : List κ} (h : es.Pairwise (· < ·)) :
    (insertElem k es).Pairwise (· < ·) := by
  induction es with
  | nil => simp [insertElem]
  | cons e es ih =>
    rw [List.pairwise_cons] at h
    simp only [insertElem]
    split_ifs with h₁ h₂
    · refine List.pairwise_cons.mpr ⟨fun j hj => ?_, List.pairwise_cons.mpr h⟩
      rcases List.mem_cons.mp hj with rfl | hj
      · exact h₁
      · exact h₁.trans (h.1 j hj)
    · refine List.pairwise_cons.mpr ⟨fun j hj => ?_, ih h.2⟩
      rcases mem_insertElem.mp hj with rfl | hj
      · exact h₂
      · exact h.1 j hj
    · exact List.pairwise_cons.mpr h

/-- Insertion of an element. -/
def insert (k : κ) : OrderedSet κ :=
  ⟨insertElem k s.elems, insertElem_sorted k s.sorted⟩

/-- Removal of an element. -/
def erase (k : κ) : OrderedSet κ :=
  ⟨s.elems.filter fun e => e ≠ k, s.sorted.filter _⟩

/-- The elements two sets have in common. -/
def inter (s s' : OrderedSet κ) : OrderedSet κ :=
  ⟨s.elems.filter fun e => e ∈ s', s.sorted.filter _⟩

/-- The elements of a list. -/
def ofList (l : List κ) : OrderedSet κ := l.foldl insert empty

@[simp] theorem mem_elems {s : OrderedSet κ} {k : κ} : k ∈ s.elems ↔ k ∈ s := Iff.rfl

@[simp] theorem not_mem_empty (k : κ) : k ∉ (empty : OrderedSet κ) := List.not_mem_nil

theorem nodup : s.elems.Nodup := s.sorted.imp fun h => ne_of_lt h

@[simp] theorem mem_insert {s : OrderedSet κ} {k j : κ} : j ∈ s.insert k ↔ j = k ∨ j ∈ s :=
  mem_insertElem

@[simp] theorem mem_erase {s : OrderedSet κ} {k j : κ} : j ∈ s.erase k ↔ j ∈ s ∧ j ≠ k := by
  rw [← mem_elems, erase]
  simp

@[simp] theorem mem_inter {s s' : OrderedSet κ} {j : κ} : j ∈ s.inter s' ↔ j ∈ s ∧ j ∈ s' := by
  rw [← mem_elems, inter]
  simp

@[simp] theorem mem_ofList {l : List κ} {j : κ} : j ∈ ofList l ↔ j ∈ l := by
  suffices h : ∀ s : OrderedSet κ, j ∈ l.foldl insert s ↔ j ∈ s ∨ j ∈ l by simp [ofList, h]
  induction l with
  | nil => simp
  | cons k l ih =>
    intro s
    simp only [List.foldl_cons, ih, mem_insert, List.mem_cons]
    tauto

theorem size_insert {s : OrderedSet κ} {k : κ} (h : k ∉ s) : (s.insert k).size = s.size + 1 := by
  suffices hlist : ∀ es : List κ, k ∉ es → (insertElem k es).length = es.length + 1 from
    hlist s.elems h
  intro es hes
  induction es with
  | nil => rfl
  | cons e es ih =>
    rw [List.mem_cons, not_or] at hes
    simp only [insertElem]
    split_ifs with h₁ h₂
    · rfl
    · rw [List.length_cons, ih hes.2, List.length_cons]
    · exact absurd (le_antisymm (not_lt.mp h₂) (not_lt.mp h₁)) hes.1

theorem size_erase {s : OrderedSet κ} {k : κ} (h : k ∈ s) : (s.erase k).size = s.size - 1 := by
  have hfilter : (s.erase k).elems = s.elems.erase k := by
    rw [s.nodup.erase_eq_filter]
    exact List.filter_congr fun e _ => by by_cases he : e = k <;> simp [he]
  rw [size, hfilter, List.length_erase_of_mem h]
  rfl

theorem size_ofList {l : List κ} (h : l.Nodup) : (ofList l).size = l.length :=
  ((List.perm_ext_iff_of_nodup (nodup _) h).mpr fun _ => mem_ofList).length_eq

/-- **Extensionality**: a set is its elements. -/
theorem ext {s s' : OrderedSet κ} (h : ∀ k, k ∈ s ↔ k ∈ s') : s = s' := by
  have hperm : s.elems.Perm s'.elems := (List.perm_ext_iff_of_nodup s.nodup s'.nodup).mpr h
  have heq : s.elems = s'.elems := hperm.eq_of_pairwise
    (fun a b _ _ hab hba => absurd hab hba.asymm) s.sorted s'.sorted
  cases s
  cases s'
  simpa using heq

end OrderedSet

end Commons
