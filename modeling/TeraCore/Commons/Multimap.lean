import Mathlib.Order.Lattice
import Mathlib.Data.List.Count
import Mathlib.Data.List.Perm.Basic

/-!
# Multimaps in the order of their keys

A multimap has its entries in the order of their keys, and those with the same key in the order of
their insertion.  It is a queue when the keys are times: the first entry is the one that is due
next.

What is inserted is one entry more, and the place of it matters only to who looks at the first
one.  So most facts are about the entries up to their order, and about the entries that satisfy a
predicate, whose order an insertion does not change.

## Main definitions

* `Multimap`: the entries, in order
* `Multimap.insert`, `Multimap.eraseFirst`, `Multimap.eraseBegin`, `Multimap.modifyBegin`

## Main results

* `Multimap.perm_insert`: an insertion, up to the order
* `Multimap.filter_insertEntry`: an insertion, seen by who looks at some of the entries
* `eraseP_eq_filter`: the removal of the only entry that satisfies a predicate
-/

namespace Commons

/-- **A multimap**: its entries, smallest key first. -/
structure Multimap (κ ν : Type*) [LinearOrder κ] where
  entries : List (κ × ν)
  sorted : entries.Pairwise fun e e' => e.1 ≤ e'.1

namespace Multimap

variable {κ ν : Type*} [LinearOrder κ]

def empty : Multimap κ ν := ⟨[], List.Pairwise.nil⟩

/-- An entry is put behind the ones with keys that are not larger. -/
def insertEntry (k : κ) (v : ν) : List (κ × ν) → List (κ × ν)
  | [] => [(k, v)]
  | e :: es => if e.1 ≤ k then e :: insertEntry k v es else (k, v) :: e :: es

theorem perm_insertEntry (k : κ) (v : ν) (es : List (κ × ν)) :
    (insertEntry k v es).Perm ((k, v) :: es) := by
  induction es with
  | nil => exact .refl _
  | cons e es ih =>
    rw [insertEntry]
    split
    · exact (ih.cons e).trans (.swap _ _ _)
    · exact .refl _

theorem insertEntry_sorted (k : κ) (v : ν) {es : List (κ × ν)}
    (h : es.Pairwise fun e e' => e.1 ≤ e'.1) :
    (insertEntry k v es).Pairwise fun e e' => e.1 ≤ e'.1 := by
  induction es with
  | nil => exact List.pairwise_singleton _ _
  | cons e es ih =>
    obtain ⟨hfirst, hrest⟩ := List.pairwise_cons.mp h
    rw [insertEntry]
    split
    · next hle =>
      refine List.pairwise_cons.mpr ⟨fun e' he' => ?_, ih hrest⟩
      rcases List.mem_cons.mp ((perm_insertEntry k v es).mem_iff.mp he') with rfl | hmem
      · exact hle
      · exact hfirst e' hmem
    · next hlt =>
      have hke : k ≤ e.1 := (not_le.mp hlt).le
      refine List.pairwise_cons.mpr ⟨fun e' he' => ?_, h⟩
      rcases List.mem_cons.mp he' with rfl | hmem
      · exact hke
      · exact hke.trans (hfirst e' hmem)

variable (m : Multimap κ ν)

def insert (k : κ) (v : ν) : Multimap κ ν :=
  ⟨insertEntry k v m.entries, insertEntry_sorted k v m.sorted⟩

/-- The first entry that satisfies `p` is removed, if one does. -/
def eraseFirst (p : κ × ν → Bool) : Multimap κ ν :=
  ⟨m.entries.eraseP p, m.sorted.sublist List.eraseP_sublist⟩

/-- `erase(begin())` -/
def eraseBegin : Multimap κ ν := ⟨m.entries.tail, m.sorted.tail⟩

/-- The entries that satisfy `p`. -/
def filter (p : κ × ν → Bool) : Multimap κ ν :=
  ⟨m.entries.filter p, m.sorted.filter p⟩

/-- The value of the first entry is changed where it is. -/
def modifyBegin (f : ν → ν) : Multimap κ ν :=
  ⟨m.entries.modifyHead fun e => (e.1, f e.2), by
    obtain ⟨es, hes⟩ := m
    cases es with
    | nil => exact hes
    | cons e es =>
      obtain ⟨hfirst, hrest⟩ := List.pairwise_cons.mp hes
      exact List.pairwise_cons.mpr ⟨hfirst, hrest⟩⟩

variable (k : κ) (v : ν)

@[simp] theorem entries_insert : (m.insert k v).entries = insertEntry k v m.entries := rfl

@[simp] theorem entries_eraseBegin : m.eraseBegin.entries = m.entries.tail := rfl

@[simp] theorem entries_modifyBegin (f : ν → ν) :
    (m.modifyBegin f).entries = m.entries.modifyHead fun e => (e.1, f e.2) := rfl

@[simp] theorem entries_filter (p : κ × ν → Bool) : (m.filter p).entries = m.entries.filter p := rfl

theorem perm_insert : (m.insert k v).entries.Perm ((k, v) :: m.entries) :=
  perm_insertEntry k v m.entries

theorem mem_insert {e : κ × ν} : e ∈ (m.insert k v).entries ↔ e = (k, v) ∨ e ∈ m.entries := by
  rw [(m.perm_insert k v).mem_iff, List.mem_cons]

theorem insertEntry_append_of_le {es : List (κ × ν)} (hle : ∀ e ∈ es, e.1 ≤ k)
    (es' : List (κ × ν)) : insertEntry k v (es ++ es') = es ++ insertEntry k v es' := by
  induction es with
  | nil => rfl
  | cons e es ih =>
    rw [List.forall_mem_cons] at hle
    rw [List.cons_append, insertEntry, if_pos hle.1, ih hle.2]
    rfl

theorem insertEntry_cons_of_le {e : κ × ν} (es : List (κ × ν)) (hle : e.1 ≤ k) :
    insertEntry k v (e :: es) = e :: insertEntry k v es := if_pos hle

theorem insertEntry_cons_of_lt {e : κ × ν} (es : List (κ × ν)) (hlt : k < e.1) :
    insertEntry k v (e :: es) = (k, v) :: e :: es := if_neg (not_le.mpr hlt)

theorem filter_insertEntry_of_not {p : κ × ν → Bool} (hp : p (k, v) = false)
    (es : List (κ × ν)) : (insertEntry k v es).filter p = es.filter p := by
  induction es with
  | nil => simp [insertEntry, hp]
  | cons e es ih =>
    rw [insertEntry]
    split
    · rw [List.filter_cons, List.filter_cons, ih]
    · rw [List.filter_cons_of_neg (by simp [hp])]

/-- **The entries that satisfy a predicate** after an insertion of one that does. -/
theorem filter_insertEntry {p : κ × ν → Bool} (hp : p (k, v) = true) {es : List (κ × ν)}
    (h : es.Pairwise fun e e' => e.1 ≤ e'.1) :
    (insertEntry k v es).filter p = insertEntry k v (es.filter p) := by
  induction es with
  | nil => simp [insertEntry, hp]
  | cons e es ih =>
    obtain ⟨hfirst, hrest⟩ := List.pairwise_cons.mp h
    rw [insertEntry]
    split
    · next hle =>
      rw [List.filter_cons, List.filter_cons, ih hrest]
      split
      · rw [insertEntry, if_pos hle]
      · rfl
    · next hlt =>
      -- All the entries are behind the new one, whichever of them are left.
      have hbehind : ∀ e' ∈ (e :: es).filter p, ¬ e'.1 ≤ k := by
        intro e' he'
        rcases List.mem_cons.mp (List.mem_filter.mp he').1 with rfl | hmem
        · exact hlt
        · exact fun hle => hlt ((hfirst e' hmem).trans hle)
      rw [List.filter_cons_of_pos hp]
      cases hes : (e :: es).filter p with
      | nil => rfl
      | cons e' es' =>
        rw [insertEntry, if_neg (hbehind e' (hes ▸ List.mem_cons_self))]

theorem map_insertEntry {ν' : Type*} (f : ν → ν') (es : List (κ × ν)) :
    (insertEntry k v es).map (fun e => (e.1, f e.2)) =
      insertEntry k (f v) (es.map fun e => (e.1, f e.2)) := by
  induction es with
  | nil => rfl
  | cons e es ih =>
    rw [insertEntry, List.map_cons, insertEntry]
    split
    · rw [List.map_cons, ih]
    · rfl

end Multimap

theorem countP_le_one {α : Type*} {p : α → Bool} {l : List α}
    (h : l.Pairwise fun a b => ¬ (p a = true ∧ p b = true)) : l.countP p ≤ 1 := by
  induction l with
  | nil => exact Nat.zero_le 1
  | cons a l ih =>
    obtain ⟨hfirst, hrest⟩ := List.pairwise_cons.mp h
    by_cases ha : p a = true
    · have hnone : l.countP p = 0 :=
        List.countP_eq_zero.mpr fun b hb hpb => hfirst b hb ⟨ha, hpb⟩
      exact Nat.le_of_eq (by rw [List.countP_cons_of_pos ha, hnone, Nat.zero_add])
    · rw [List.countP_cons_of_neg ha]
      exact ih hrest

/-- **The only element that satisfies a predicate** is removed: the others are left. -/
theorem eraseP_eq_filter {α : Type*} {p : α → Bool} {l : List α} (h : l.countP p ≤ 1) :
    l.eraseP p = l.filter fun a => !p a := by
  induction l with
  | nil => rfl
  | cons a l ih =>
    by_cases ha : p a = true
    · rw [List.countP_cons_of_pos ha] at h
      rw [List.eraseP_cons_of_pos ha, List.filter_cons_of_neg (by simp [ha])]
      refine (List.filter_eq_self.mpr fun b hb => ?_).symm
      have hnone := List.countP_eq_zero.mp (Nat.le_zero.mp (Nat.le_of_succ_le_succ h)) b hb
      simpa using hnone
    · rw [List.countP_cons_of_neg ha] at h
      rw [List.eraseP_cons_of_neg ha, List.filter_cons_of_pos (by simpa using ha), ih h]

end Commons
