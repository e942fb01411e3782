import Mathlib.Algebra.GroupWithZero.Nat
import Mathlib.Order.Lattice
import Mathlib.Data.List.Nodup
import Mathlib.Data.List.Perm.Basic

/-!
# Ordered maps

A finite map as the list of its entries in increasing order of the keys.  The order is carried
as a field, so that a map has each key once and is walked in the order of its keys.

## Main definitions

* `OrderedMap κ ν`: the entries, with the proof that their keys increase
* `find?`, `set`, `insert`, `erase`: lookup, assignment, insertion of a new key, removal
* `filterKeys`, `mapVals`: the entries of some keys, and a function applied to every value

## Main results

* `find?_set`, `find?_erase`, `find?_mapVals`: the value of every key after an operation
* `mem_entries`: the entries are the graph of `find?`
* `perm_set`, `perm_erase`: the entries after a new key, and before a removed one
* `ext_find?`: two maps with the same `find?` are equal
* `countP_values_set`, `countP_values_erase`: a count of values after an operation
* `sumOf_set`, `sumOf_erase`: a sum over the values after an operation
-/

namespace Commons

/-- **An ordered map**: its entries, in increasing order of their keys. -/
structure OrderedMap (κ ν : Type*) [LinearOrder κ] where
  /-- The entries, smallest key first. -/
  entries : List (κ × ν)
  sorted : entries.Pairwise fun a b => a.1 < b.1

namespace OrderedMap

variable {κ ν ν' : Type*} [LinearOrder κ]

instance [DecidableEq ν] : DecidableEq (OrderedMap κ ν) := fun m m' =>
  decidable_of_iff (m.entries = m'.entries) (by cases m; cases m'; simp)

/-- The map without entries. -/
def empty : OrderedMap κ ν := ⟨[], List.Pairwise.nil⟩

/-- Lookup in a list of entries. -/
def findEntry (k : κ) : List (κ × ν) → Option ν
  | [] => none
  | e :: es => if e.1 = k then some e.2 else findEntry k es

variable (m : OrderedMap κ ν)

variable (k : κ)

/-- The value of a key. -/
def find? : Option ν := findEntry k m.entries

/-- The value of a key, or the default one of its type. -/
def get [Inhabited ν] (m : OrderedMap κ ν) (k : κ) : ν := (m.find? k).getD default

/-- Does the map have the key? -/
def contains : Bool := (m.find? k).isSome

/-- The keys, in increasing order. -/
def keys : List κ := m.entries.map Prod.fst

/-- The values, in the order of their keys. -/
def values : List ν := m.entries.map Prod.snd

/-- The number of entries. -/
def size : Nat := m.entries.length

/-- Assignment in a list of entries: the key's entry is replaced, or put in its place. -/
def setEntries (k : κ) (v : ν) : List (κ × ν) → List (κ × ν)
  | [] => [(k, v)]
  | e :: es =>
    if k < e.1 then (k, v) :: e :: es
    else if e.1 < k then e :: setEntries k v es
    else (k, v) :: es

theorem mem_setEntries_fst {k : κ} {v : ν} {es : List (κ × ν)} {e : κ × ν}
    (h : e ∈ setEntries k v es) : e = (k, v) ∨ e ∈ es := by
  induction es with
  | nil => simpa [setEntries] using h
  | cons e' es ih =>
    simp only [setEntries] at h
    split_ifs at h
    · simpa using h
    · rcases List.mem_cons.mp h with rfl | h
      · simp
      · rcases ih h with rfl | h <;> simp [*]
    · rcases List.mem_cons.mp h with rfl | h <;> simp [*]

variable (v : ν)

theorem setEntries_sorted {es : List (κ × ν)} (h : es.Pairwise fun a b => a.1 < b.1) :
    (setEntries k v es).Pairwise fun a b => a.1 < b.1 := by
  induction es with
  | nil => simp [setEntries]
  | cons e es ih =>
    rw [List.pairwise_cons] at h
    simp only [setEntries]
    split_ifs with h₁ h₂
    · refine List.pairwise_cons.mpr ⟨fun e' he' => ?_, List.pairwise_cons.mpr h⟩
      rcases List.mem_cons.mp he' with rfl | he'
      · exact h₁
      · exact h₁.trans (h.1 e' he')
    · refine List.pairwise_cons.mpr ⟨fun e' he' => ?_, ih h.2⟩
      rcases mem_setEntries_fst he' with rfl | he'
      · exact h₂
      · exact h.1 e' he'
    · have hk : k = e.1 := le_antisymm (not_lt.mp h₂) (not_lt.mp h₁)
      exact List.pairwise_cons.mpr ⟨fun e' he' => hk ▸ h.1 e' he', h.2⟩

/-- Assignment: the key's value becomes `v`. -/
def set : OrderedMap κ ν :=
  ⟨setEntries k v m.entries, setEntries_sorted k v m.sorted⟩

/-- Insertion: a key that is there keeps its value. -/
def insert : OrderedMap κ ν :=
  if m.contains k then m else m.set k v

/-- Removal of a key. -/
def erase : OrderedMap κ ν :=
  ⟨m.entries.filter fun e => e.1 ≠ k, m.sorted.filter _⟩

/-- The entries whose keys satisfy `p`. -/
def filterKeys (p : κ → Bool) (m : OrderedMap κ ν) : OrderedMap κ ν :=
  ⟨m.entries.filter fun e => p e.1, m.sorted.filter _⟩

/-- A function applied to every value. -/
def mapVals (f : κ → ν → ν') (m : OrderedMap κ ν) : OrderedMap κ ν' :=
  ⟨m.entries.map fun e => (e.1, f e.1 e.2), List.pairwise_map.mpr m.sorted⟩

/-! ## Keys and entries -/

theorem keys_sorted : m.keys.Pairwise (· < ·) :=
  List.pairwise_map.mpr m.sorted

theorem keys_nodup : m.keys.Nodup :=
  m.keys_sorted.imp fun h => ne_of_lt h

theorem mem_entries {m : OrderedMap κ ν} {k : κ} {v : ν} :
    (k, v) ∈ m.entries ↔ m.find? k = some v := by
  obtain ⟨es, hs⟩ := m
  simp only [find?]
  induction es with
  | nil => simp [findEntry]
  | cons e es ih =>
    rw [List.pairwise_cons] at hs
    simp only [List.mem_cons, findEntry]
    by_cases hk : e.1 = k
    · have hnot : (k, v) ∉ es := fun h => (hs.1 _ h).ne hk
      simp [hk, hnot, Prod.ext_iff, eq_comm]
    · have hne : (k, v) ≠ e := fun h => hk (h ▸ rfl)
      simp only [hk, if_false, hne, false_or]
      exact ih hs.2

@[simp] theorem length_keys : m.keys.length = m.size := List.length_map _

theorem mem_keys {m : OrderedMap κ ν} {k : κ} : k ∈ m.keys ↔ ∃ v, m.find? k = some v := by
  simp [keys, mem_entries]

theorem contains_iff {m : OrderedMap κ ν} {k : κ} :
    m.contains k = true ↔ ∃ v, m.find? k = some v := Option.isSome_iff_exists

theorem contains_iff_mem_keys {m : OrderedMap κ ν} {k : κ} :
    m.contains k = true ↔ k ∈ m.keys := contains_iff.trans mem_keys.symm

theorem contains_eq_false_iff {m : OrderedMap κ ν} {k : κ} :
    m.contains k = false ↔ m.find? k = none := by
  simp [contains]

theorem mem_values {m : OrderedMap κ ν} {v : ν} : v ∈ m.values ↔ ∃ k, m.find? k = some v := by
  simp [values, mem_entries]

theorem get_of_find? [Inhabited ν] {m : OrderedMap κ ν} {k : κ} {v : ν} (h : m.find? k = some v) :
    m.get k = v := by simp [get, h]

theorem find?_of_mem_keys [Inhabited ν] {m : OrderedMap κ ν} {k : κ} (h : k ∈ m.keys) :
    m.find? k = some (m.get k) := by
  obtain ⟨v, hv⟩ := mem_keys.mp h
  rw [hv, get_of_find? hv]

theorem values_eq_map_keys [Inhabited ν] (m : OrderedMap κ ν) : m.values = m.keys.map m.get := by
  simp only [values, keys, List.map_map]
  refine List.map_congr_left fun e he => ?_
  exact (get_of_find? (mem_entries.mp he)).symm

@[simp] theorem find?_empty : (empty : OrderedMap κ ν).find? k = none := rfl

@[simp] theorem keys_empty : (empty : OrderedMap κ ν).keys = [] := rfl

theorem size_eq_one_iff {m : OrderedMap κ ν} {k : κ} {v : ν} (h : m.find? k = some v) :
    m.size = 1 ↔ ∀ j w, m.find? j = some w → j = k := by
  constructor
  · intro hone j w hj
    obtain ⟨e, he⟩ := List.length_eq_one_iff.mp hone
    rw [← mem_entries, he, List.mem_singleton] at h hj
    exact (Prod.ext_iff.mp (hj.trans h.symm)).1
  · intro hall
    have hsub : m.keys.Subperm [k] := by
      refine List.subperm_of_subset m.keys_nodup fun j hj => ?_
      obtain ⟨w, hw⟩ := mem_keys.mp hj
      exact List.mem_singleton.mpr (hall j w hw)
    have hle := hsub.length_le
    have hpos := List.length_pos_of_mem (mem_keys.mpr ⟨v, h⟩)
    simp only [length_keys, List.length_singleton] at hle hpos
    omega

/-! ## The value of a key after an operation -/

theorem find?_set (j : κ) : (m.set k v).find? j = if j = k then some v else m.find? j := by
  obtain ⟨es, hs⟩ := m
  simp only [set, find?]
  induction es with
  | nil => simp [setEntries, findEntry, eq_comm]
  | cons e es ih =>
    rw [List.pairwise_cons] at hs
    simp only [setEntries]
    split_ifs with h₁ h₂ hj hj hj
    all_goals simp_all [findEntry]
    all_goals grind

@[simp] theorem find?_set_self : (m.set k v).find? k = some v := by simp [find?_set]

theorem find?_set_of_ne {j k : κ} (v : ν) (h : j ≠ k) :
    (m.set k v).find? j = m.find? j := by simp [find?_set, h]

theorem find?_insert (j : κ) :
    (m.insert k v).find? j = if j = k then some ((m.find? k).getD v) else m.find? j := by
  unfold insert
  split_ifs with hk hj hj
  · obtain ⟨w, hw⟩ := contains_iff.mp hk
    simp [hj, hw]
  · rfl
  · rw [Bool.not_eq_true, contains_eq_false_iff] at hk
    simp [hj, hk]
  · exact find?_set_of_ne m v hj

theorem find?_erase (k j : κ) : (m.erase k).find? j = if j = k then none else m.find? j := by
  apply Option.ext
  intro v
  rw [← mem_entries]
  split_ifs with h
  · simp [erase, h]
  · rw [← mem_entries]
    simp [erase, h]

@[simp] theorem find?_erase_self : (m.erase k).find? k = none := by
  simp [find?_erase]

theorem find?_erase_of_ne {j k : κ} (h : j ≠ k) :
    (m.erase k).find? j = m.find? j := by simp [find?_erase, h]

@[simp] theorem find?_filterKeys (p : κ → Bool) (k : κ) :
    (m.filterKeys p).find? k = if p k then m.find? k else none := by
  apply Option.ext
  intro v
  rw [← mem_entries]
  split_ifs with h
  · rw [← mem_entries]
    simp [filterKeys, h]
  · simp [filterKeys, h]

@[simp] theorem find?_mapVals (f : κ → ν → ν') (k : κ) :
    (m.mapVals f).find? k = (m.find? k).map (f k) := by
  obtain ⟨es, hs⟩ := m
  simp only [mapVals, find?]
  clear hs
  induction es with
  | nil => rfl
  | cons e es ih =>
    simp only [List.map_cons, findEntry, ih]
    split_ifs with he
    · subst he
      rfl
    · rfl

@[simp] theorem keys_mapVals (f : κ → ν → ν') : (m.mapVals f).keys = m.keys := by
  simp [keys, mapVals, Function.comp_def]

@[simp] theorem get_set_self [Inhabited ν] (m : OrderedMap κ ν) (k : κ) (v : ν) :
    (m.set k v).get k = v := get_of_find? (find?_set_self m k v)

theorem get_set_of_ne [Inhabited ν] (m : OrderedMap κ ν) {j k : κ} (v : ν) (h : j ≠ k) :
    (m.set k v).get j = m.get j := by rw [get, get, find?_set_of_ne m v h]

/-! ## The entries after an operation -/

theorem perm_set {m : OrderedMap κ ν} {k : κ} (v : ν) (h : m.find? k = none) :
    (m.set k v).entries.Perm ((k, v) :: m.entries) := by
  have hk : ∀ e ∈ m.entries, e.1 ≠ k := by
    rintro ⟨j, w⟩ he rfl
    rw [mem_entries, h] at he
    cases he
  simp only [set]
  generalize m.entries = es at hk
  induction es with
  | nil => exact List.Perm.refl _
  | cons e es ih =>
    simp only [setEntries]
    split_ifs with h₁ h₂
    · exact List.Perm.refl _
    · exact ((ih fun e' he' => hk e' (List.mem_cons_of_mem _ he')).cons e).trans
        (List.Perm.swap _ _ _)
    · exact absurd (le_antisymm (not_lt.mp h₁) (not_lt.mp h₂)) (hk e (by simp))

theorem perm_erase {m : OrderedMap κ ν} {k : κ} {v : ν} (h : m.find? k = some v) :
    m.entries.Perm ((k, v) :: (m.erase k).entries) := by
  refine (List.perm_ext_iff_of_nodup ?_ ?_).mpr fun e => ?_
  · exact m.sorted.imp fun hlt heq => (heq ▸ hlt).ne rfl
  · refine List.nodup_cons.mpr ⟨by simp [erase], ?_⟩
    exact (m.erase k).sorted.imp fun hlt heq => (heq ▸ hlt).ne rfl
  · obtain ⟨j, w⟩ := e
    rw [List.mem_cons, mem_entries, mem_entries, find?_erase]
    by_cases hj : j = k
    · subst hj
      simp [h, eq_comm]
    · simp [hj]

/-! ## Equality, and counts of values -/

theorem ext_find? {m m' : OrderedMap κ ν} (h : ∀ k, m.find? k = m'.find? k) : m = m' := by
  have hperm : m.entries.Perm m'.entries := by
    refine (List.perm_ext_iff_of_nodup ?_ ?_).mpr fun ⟨k, v⟩ => by rw [mem_entries, mem_entries, h]
    · exact m.sorted.imp fun hlt heq => (heq ▸ hlt).ne rfl
    · exact m'.sorted.imp fun hlt heq => (heq ▸ hlt).ne rfl
  have heq : m.entries = m'.entries := hperm.eq_of_pairwise
    (fun a b _ _ hab hba => absurd hab hba.asymm) m.sorted m'.sorted
  cases m
  cases m'
  simpa using heq

theorem keys_eq_of_mem_iff {ν' : Type*} {m : OrderedMap κ ν} {m' : OrderedMap κ ν'}
    (h : ∀ k, k ∈ m.keys ↔ k ∈ m'.keys) : m.keys = m'.keys :=
  ((List.perm_ext_iff_of_nodup m.keys_nodup m'.keys_nodup).mpr h).eq_of_pairwise
    (fun _ _ _ _ hab hba => absurd hab hba.asymm) m.keys_sorted m'.keys_sorted

theorem keys_set_of_mem {m : OrderedMap κ ν} {k : κ} (v : ν) (h : k ∈ m.keys) :
    (m.set k v).keys = m.keys := keys_eq_of_mem_iff fun j => by
  rw [mem_keys, find?_set]
  by_cases hj : j = k
  · simp [hj, h]
  · simp [hj, mem_keys]

theorem set_set (v w : ν) : (m.set k v).set k w = m.set k w :=
  ext_find? fun j => by
    simp only [find?_set]
    split_ifs <;> rfl

theorem set_get [Inhabited ν] {m : OrderedMap κ ν} {k : κ} (h : k ∈ m.keys) :
    m.set k (m.get k) = m :=
  ext_find? fun j => by
    rw [find?_set]
    split_ifs with hj
    · rw [hj, find?_of_mem_keys h]
    · rfl

theorem erase_set : (m.set k v).erase k = m.erase k :=
  ext_find? fun j => by
    rw [find?_erase, find?_erase, find?_set]
    split_ifs <;> rfl

theorem erase_of_find?_eq_none {m : OrderedMap κ ν} {k : κ} (h : m.find? k = none) :
    m.erase k = m :=
  ext_find? fun j => by
    rw [find?_erase]
    split_ifs with hj
    · rw [hj, h]
    · rfl

theorem values_perm_erase {m : OrderedMap κ ν} {k : κ} {v : ν} (h : m.find? k = some v) :
    m.values.Perm (v :: (m.erase k).values) := (perm_erase h).map Prod.snd

theorem values_set_perm : (m.set k v).values.Perm (v :: (m.erase k).values) :=
  erase_set m k v ▸ values_perm_erase (find?_set_self m k v)

theorem countP_values_set_of_none {m : OrderedMap κ ν} {k : κ} (h : m.find? k = none) (v : ν)
    (q : ν → Bool) :
    (m.set k v).values.countP q = m.values.countP q + if q v then 1 else 0 := by
  rw [(values_set_perm m k v).countP_eq, erase_of_find?_eq_none h, List.countP_cons]

theorem countP_values_set {m : OrderedMap κ ν} {k : κ} {w : ν} (h : m.find? k = some w) (v : ν)
    (q : ν → Bool) :
    (m.set k v).values.countP q + (if q w then 1 else 0) =
      m.values.countP q + if q v then 1 else 0 := by
  rw [(values_set_perm m k v).countP_eq, (values_perm_erase h).countP_eq, List.countP_cons,
    List.countP_cons]
  omega

theorem countP_values_erase {m : OrderedMap κ ν} {k : κ} {w : ν} (h : m.find? k = some w)
    (q : ν → Bool) :
    (m.erase k).values.countP q + (if q w then 1 else 0) = m.values.countP q := by
  rw [(values_perm_erase h).countP_eq, List.countP_cons]

/-! ## Sums of values -/

/-- The sum of `f` over the values. -/
def sumOf (f : ν → ℕ) (m : OrderedMap κ ν) : ℕ := (m.values.map f).sum

theorem sumOf_erase {m : OrderedMap κ ν} {k : κ} {w : ν} (h : m.find? k = some w) (f : ν → ℕ) :
    (m.erase k).sumOf f + f w = m.sumOf f := by
  have hperm := ((values_perm_erase h).map f).sum_nat
  rw [List.map_cons, List.sum_cons] at hperm
  rw [sumOf, sumOf, hperm]
  exact Nat.add_comm _ _

theorem sumOf_set_of_none {m : OrderedMap κ ν} {k : κ} (h : m.find? k = none) (v : ν)
    (f : ν → ℕ) : (m.set k v).sumOf f = m.sumOf f + f v := by
  rw [← sumOf_erase (find?_set_self m k v) f, erase_set, erase_of_find?_eq_none h]

theorem sumOf_set {m : OrderedMap κ ν} {k : κ} {w : ν} (h : m.find? k = some w) (v : ν)
    (f : ν → ℕ) : (m.set k v).sumOf f + f w = m.sumOf f + f v := by
  have hset := sumOf_erase (find?_set_self m k v) f
  have hold := sumOf_erase h f
  rw [erase_set] at hset
  omega

end OrderedMap

end Commons
