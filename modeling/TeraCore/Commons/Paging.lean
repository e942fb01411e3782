import Mathlib.Data.List.Count
import Mathlib.Data.List.Flatten
import Mathlib.Data.List.Nodup

/-!
# Lookups in pages

The rows of a table are looked up by their keys.  A long list of keys is cut into pages, and one
page is asked for after the other.  A reader that stops at the first page without a row gets all of
them only if no page with a row comes after one without.

## Main definitions

* `takePage`, `cutPages`: a list of keys is cut when a page is full
* `lookup table key page`: the rows with a key of the page
* `asked`: the pages that are asked for, up to the first without a row
* `readPages`: the reader, which may fail to ask for a page
* `Reaches`: no wanted row comes after a page without a row

## Main results

* `flatten_cutPages`: every key is on a page, in its order
* `readPages_eq_some_iff`: when no asking fails, and what is read
* `count_read`: how often a row is read
* `count_read_wanted_iff`: **the wanted rows are all read once** exactly if their keys are listed
  and `Reaches` holds
-/

namespace Commons

section Cut

variable {κ : Type*} (full : List κ → Bool)

/-- **The next page**, and the keys that are left: the page ends when it is full. -/
def takePage (taken : List κ) : List κ → List κ × List κ
  | [] => (taken, [])
  | k :: keys => if full (taken ++ [k]) then (taken ++ [k], keys) else takePage (taken ++ [k]) keys

/-- The pages of a list of keys, at most as many as the first number says. -/
def cutPages : ℕ → List κ → List (List κ)
  | 0, _ => []
  | _ + 1, [] => []
  | n + 1, k :: keys =>
    (takePage full [] (k :: keys)).1 :: cutPages n (takePage full [] (k :: keys)).2

variable {full}

theorem takePage_append (taken keys : List κ) :
    (takePage full taken keys).1 ++ (takePage full taken keys).2 = taken ++ keys := by
  induction keys generalizing taken with
  | nil => rfl
  | cons k keys ih =>
    rw [takePage]
    split_ifs
    · simp
    · simpa using ih (taken ++ [k])

theorem length_takePage_le (taken keys : List κ) :
    (takePage full taken keys).2.length ≤ keys.length - 1 := by
  induction keys generalizing taken with
  | nil => exact Nat.zero_le _
  | cons k keys ih =>
    rw [takePage]
    split_ifs
    · exact Nat.le_refl _
    · exact Nat.le_trans (ih (taken ++ [k])) (Nat.sub_le _ _)

/-- **Every key is on a page**, in its order. -/
theorem flatten_cutPages {n : ℕ} {keys : List κ} (h : keys.length ≤ n) :
    (cutPages full n keys).flatten = keys := by
  induction n generalizing keys with
  | zero => rw [List.length_eq_zero_iff.mp (Nat.le_zero.mp h)]; rfl
  | succ n ih =>
    cases keys with
    | nil => rfl
    | cons k keys =>
      have hlen := @length_takePage_le κ full [] (k :: keys)
      rw [cutPages, List.flatten_cons, ih (by omega), takePage_append, List.nil_append]

end Cut

section Read

variable {ρ κ : Type*} [DecidableEq κ] (table : List ρ) (key : ρ → κ)

/-- The rows of a page. -/
def lookup (page : List κ) : List ρ := table.filter fun row => key row ∈ page

/-- Is there no row of the page? -/
def Blank (page : List κ) : Prop := ∀ row ∈ table, key row ∉ page

instance (page : List κ) : Decidable (Blank table key page) :=
  inferInstanceAs (Decidable (∀ row ∈ table, _))

/-- The pages that are asked for: up to the first without a row. -/
def asked : List (List κ) → List (List κ)
  | [] => []
  | page :: pages => page :: if Blank table key page then [] else asked pages

/-- The rows that are read, if every page that is asked for can be. -/
def readPages (fits : List κ → Bool) : List (List κ) → Option (List ρ)
  | [] => some []
  | page :: pages =>
    if fits page then
      if Blank table key page then some []
      else (readPages fits pages).map (lookup table key page ++ ·)
    else none

/-- **No wanted row comes after a page without a row.** -/
def Reaches (wanted : κ → Prop) (pages : List (List κ)) : Prop :=
  pages.Pairwise fun page page' => Blank table key page →
    ∀ row ∈ lookup table key page', ¬wanted (key row)

instance (wanted : κ → Prop) [DecidablePred wanted] (pages : List (List κ)) :
    Decidable (Reaches table key wanted pages) :=
  inferInstanceAs (Decidable (List.Pairwise _ _))

variable {table key} {pages : List (List κ)} {page : List κ} {wanted : κ → Prop}

theorem mem_lookup {row : ρ} : row ∈ lookup table key page ↔ row ∈ table ∧ key row ∈ page := by
  simp [lookup]

theorem lookup_eq_nil_iff : lookup table key page = [] ↔ Blank table key page := by
  simp [lookup, Blank]

theorem asked_sublist (pages : List (List κ)) : (asked table key pages).Sublist pages := by
  induction pages with
  | nil => exact List.Sublist.refl _
  | cons page pages ih =>
    rw [asked]
    split_ifs
    · exact (List.nil_sublist _).cons_cons page
    · exact ih.cons_cons page

theorem readPages_eq_some_iff {fits : List κ → Bool} {rows : List ρ} :
    readPages table key fits pages = some rows ↔
      (∀ page ∈ asked table key pages, fits page = true) ∧
        rows = (asked table key pages).flatMap (lookup table key) := by
  induction pages generalizing rows with
  | nil =>
    rw [readPages, asked]
    simp
  | cons page pages ih =>
    rw [readPages, asked, List.forall_mem_cons, List.flatMap_cons]
    by_cases hfits : fits page = true
    · rw [if_pos hfits]
      by_cases hblank : Blank table key page
      · rw [if_pos hblank, if_pos hblank, lookup_eq_nil_iff.mpr hblank]
        simp [hfits]
      · rw [if_neg hblank, if_neg hblank, Option.map_eq_some_iff]
        constructor
        · rintro ⟨rows', hrows, rfl⟩
          obtain ⟨hall, rfl⟩ := ih.mp hrows
          exact ⟨⟨hfits, hall⟩, rfl⟩
        · rintro ⟨⟨-, hall⟩, rfl⟩
          exact ⟨_, ih.mpr ⟨hall, rfl⟩, rfl⟩
    · rw [if_neg hfits]
      simp [hfits]

theorem mem_flatten_asked_cons {k : κ} : k ∈ (asked table key (page :: pages)).flatten ↔
    k ∈ page ∨ ¬Blank table key page ∧ k ∈ (asked table key pages).flatten := by
  rw [asked]
  split_ifs with hblank <;> simp [hblank]

theorem asked_wanted_iff (hpages : pages.flatten.Nodup) :
    (∀ row ∈ table, wanted (key row) → key row ∈ (asked table key pages).flatten) ↔
      (∀ row ∈ table, wanted (key row) → key row ∈ pages.flatten) ∧
        Reaches table key wanted pages := by
  constructor
  · intro h
    refine ⟨fun row hrow hwanted => (asked_sublist pages).flatten.subset (h row hrow hwanted), ?_⟩
    -- In the rest of the pages those rows are wanted that are not on the first one.
    induction pages generalizing wanted with
    | nil => exact List.Pairwise.nil
    | cons page pages ih =>
      rw [List.flatten_cons, List.nodup_append] at hpages
      obtain ⟨-, hrest, hdisjoint⟩ := hpages
      have hlater : ∀ page' ∈ pages, ∀ row ∈ lookup table key page',
          key row ∉ page ∧ key row ∈ pages.flatten := by
        intro page' hpage' row hrow
        have hflat : key row ∈ pages.flatten :=
          List.mem_flatten.mpr ⟨page', hpage', (mem_lookup.mp hrow).2⟩
        exact ⟨fun hmem => hdisjoint _ hmem _ hflat rfl, hflat⟩
      refine List.pairwise_cons.mpr ⟨fun page' hpage' hblank row hrow hwanted => ?_, ?_⟩
      · rcases mem_flatten_asked_cons.mp (h row (mem_lookup.mp hrow).1 hwanted) with hmem | hmem
        · exact (hlater page' hpage' row hrow).1 hmem
        · exact hmem.1 hblank
      · have hreaches := @ih (fun k => wanted k ∧ k ∉ page) hrest fun row hrow hwanted =>
          ((mem_flatten_asked_cons.mp (h row hrow hwanted.1)).resolve_left hwanted.2).2
        refine hreaches.imp_of_mem fun _ hmem' hreach hblank row hrow hwanted => ?_
        exact hreach hblank row hrow ⟨hwanted, (hlater _ hmem' row hrow).1⟩
  · rintro ⟨hlisted, hreaches⟩ row hrow hwanted
    have hmem := hlisted row hrow hwanted
    clear hlisted
    induction pages with
    | nil => exact absurd hmem (by simp)
    | cons page pages ih =>
      obtain ⟨hfirst, hreaches⟩ := List.pairwise_cons.mp hreaches
      refine mem_flatten_asked_cons.mpr ?_
      rcases List.mem_append.mp (List.flatten_cons ▸ hmem) with hmem | hmem
      · exact .inl hmem
      · refine .inr ⟨fun hblank => ?_, ih (List.nodup_append.mp (List.flatten_cons ▸ hpages)).2.1
          hreaches hmem⟩
        obtain ⟨page', hpage', hkey⟩ := List.mem_flatten.mp hmem
        exact hfirst page' hpage' hblank row (mem_lookup.mpr ⟨hrow, hkey⟩) hwanted

variable [BEq ρ] [LawfulBEq ρ]

theorem count_flatMap_lookup (hpages : pages.flatten.Nodup) (row : ρ) :
    (pages.flatMap (lookup table key)).count row =
      if key row ∈ pages.flatten then table.count row else 0 := by
  induction pages with
  | nil => simp
  | cons page pages ih =>
    rw [List.flatten_cons, List.nodup_append] at hpages
    obtain ⟨-, hrest, hdisjoint⟩ := hpages
    rw [List.flatMap_cons, List.count_append, ih hrest, List.flatten_cons]
    have hpage : (lookup table key page).count row =
        if key row ∈ page then table.count row else 0 := by
      by_cases hmem : key row ∈ page
      · rw [if_pos hmem, lookup, List.count_filter (by simpa using hmem)]
      · rw [if_neg hmem, List.count_eq_zero]
        exact fun h => hmem (mem_lookup.mp h).2
    rw [hpage]
    by_cases hmem : key row ∈ page
    · have hnot : key row ∉ pages.flatten := fun h => hdisjoint _ hmem _ h rfl
      simp [hmem, hnot]
    · simp [hmem]

theorem count_read (hpages : pages.flatten.Nodup) (row : ρ) :
    ((asked table key pages).flatMap (lookup table key)).count row =
      if key row ∈ (asked table key pages).flatten then table.count row else 0 :=
  count_flatMap_lookup (hpages.sublist (asked_sublist pages).flatten) row

theorem count_read_wanted_iff (hpages : pages.flatten.Nodup) (htable : table.Nodup) :
    (∀ row ∈ table, wanted (key row) →
      ((asked table key pages).flatMap (lookup table key)).count row = 1) ↔
      (∀ row ∈ table, wanted (key row) → key row ∈ pages.flatten) ∧
        Reaches table key wanted pages := by
  rw [← asked_wanted_iff hpages]
  refine forall₂_congr fun row hrow => imp_congr_right fun _ => ?_
  rw [count_read hpages, List.count_eq_one_of_mem htable hrow]
  simp

end Read

end Commons
