import Mathlib.Data.List.Nodup
import Mathlib.Data.List.Perm.Basic
import Mathlib.Order.Lattice

/-!
# Numbers that are used again

Numbers are given out and come back.  A number that comes back is put at the end of a queue, from
which the next ones are taken; but when it is the largest that was given out, it is forgotten, and
the largest is the one below it.

The largest may go below a number that is neither used nor queued, never below one that is: so
what is given out is not in use.

## Main definitions

* `IdPool`, `IdPool.get`, `IdPool.release`
* `IdPool.Sound`: no number that is used or queued is there twice, or is above the largest

## Main results

* `Sound.get_not_mem`, `Sound.get`, `Sound.release`
-/

namespace Commons

/-- **A supply of numbers**: those that came back, and the largest one. -/
structure IdPool where
  free : List ℕ
  largest : ℕ
deriving DecidableEq

namespace IdPool

/-- A number, and what is left. -/
def get (p : IdPool) : ℕ × IdPool :=
  match p.free with
  | [] => (p.largest + 1, { p with largest := p.largest + 1 })
  | id :: free => (id, { p with free := free })

/-- A number comes back. -/
def release (p : IdPool) (id : ℕ) : IdPool :=
  if id = p.largest then { p with largest := p.largest - 1 } else { p with free := p.free ++ [id] }

/-- The supply when some numbers are used already: all others below the largest, from 1 on. -/
def load (used : List ℕ) : IdPool where
  largest := used.foldl max 1
  free := (List.range (used.foldl max 1)).filter fun id => 0 < id ∧ id ∉ used

/-- **The numbers that are used and those that are queued** differ, and none is above the
largest. -/
structure Sound (p : IdPool) (used : List ℕ) : Prop where
  nodup : (used ++ p.free).Nodup
  le : ∀ id ∈ used ++ p.free, id ≤ p.largest

variable {p : IdPool} {used used' : List ℕ} {id : ℕ}

theorem Sound.perm (h : Sound p used) (hperm : used.Perm used') : Sound p used' where
  nodup := (hperm.append_right p.free).nodup_iff.mp h.nodup
  le id hid := h.le id ((hperm.append_right p.free).mem_iff.mpr hid)

theorem Sound.lose (h : Sound p (id :: used)) : Sound p used where
  nodup := (List.nodup_cons.mp h.nodup).2
  le id' hid := h.le id' (List.mem_cons_of_mem _ hid)

theorem Sound.nodup_used (h : Sound p used) : used.Nodup := (List.nodup_append.mp h.nodup).1

/-- **What is given out is not in use.** -/
theorem Sound.get_not_mem (h : Sound p used) : p.get.1 ∉ used := by
  intro hmem
  obtain ⟨free, largest⟩ := p
  cases free with
  | nil =>
    have hle := h.le (largest + 1) (List.mem_append_left _ hmem)
    exact absurd hle (Nat.not_succ_le_self largest)
  | cons id free =>
    have hdisjoint := (List.nodup_append.mp h.nodup).2.2
    exact hdisjoint _ hmem _ List.mem_cons_self rfl

theorem Sound.get (h : Sound p used) : Sound p.get.2 (p.get.1 :: used) := by
  have hnot := h.get_not_mem
  obtain ⟨free, largest⟩ := p
  cases free with
  | nil =>
    have hnodup : used.Nodup := h.nodup_used
    refine ⟨?_, fun id hid => ?_⟩
    · change ((largest + 1) :: (used ++ [])).Nodup
      rw [List.append_nil]
      exact List.nodup_cons.mpr ⟨hnot, hnodup⟩
    · rcases List.mem_cons.mp hid with rfl | hid
      · exact Nat.le_refl _
      · exact Nat.le_succ_of_le (h.le id hid)
  | cons id free =>
    have hperm : (used ++ id :: free).Perm (id :: used ++ free) := List.perm_middle
    exact ⟨hperm.nodup_iff.mp h.nodup, fun id' hid => h.le id' (hperm.mem_iff.mpr hid)⟩

theorem Sound.release (h : Sound p (id :: used)) : Sound (p.release id) used := by
  obtain ⟨hid, hnodup⟩ := List.nodup_cons.mp h.nodup
  unfold IdPool.release
  split
  · rename_i hlargest
    refine ⟨hnodup, fun id' hid' => ?_⟩
    have hle := h.le id' (List.mem_cons_of_mem _ hid')
    have hne : id' ≠ id := fun heq => hid (heq ▸ hid')
    change id' ≤ p.largest - 1
    omega
  · have hperm : (id :: (used ++ p.free)).Perm (used ++ (p.free ++ [id])) := by
      rw [← List.append_assoc]
      exact (List.perm_append_singleton id (used ++ p.free)).symm
    exact ⟨hperm.nodup_iff.mp h.nodup, fun id' hid' => h.le id' (hperm.mem_iff.mpr hid')⟩

theorem Sound.releaseAll {ids : List ℕ} (h : Sound p (ids ++ used)) :
    Sound (ids.foldl IdPool.release p) used := by
  induction ids generalizing p with
  | nil => exact h
  | cons id ids ih => exact ih h.release

theorem le_foldl_max (l : List ℕ) (n : ℕ) : n ≤ l.foldl max n ∧ ∀ id ∈ l, id ≤ l.foldl max n := by
  induction l generalizing n with
  | nil => exact ⟨Nat.le_refl _, fun id hid => by cases hid⟩
  | cons id l ih =>
    obtain ⟨hle, hall⟩ := ih (max n id)
    refine ⟨(Nat.le_max_left n id).trans hle, fun id' hid => ?_⟩
    rcases List.mem_cons.mp hid with rfl | hid
    · exact (Nat.le_max_right n _).trans hle
    · exact hall id' hid

theorem sound_load (h : used.Nodup) : Sound (load used) used where
  nodup := by
    refine List.nodup_append.mpr ⟨h, List.nodup_range.filter _, ?_⟩
    rintro id hid id' hid' rfl
    exact (of_decide_eq_true (List.mem_filter.mp hid').2).2 hid
  le id hid := by
    rcases List.mem_append.mp hid with hid | hid
    · exact (le_foldl_max used 1).2 id hid
    · exact (List.mem_range.mp (List.mem_filter.mp hid).1).le

end IdPool

end Commons
