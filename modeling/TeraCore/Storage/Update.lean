import TeraCore.Storage.Storage

/-!
# One position that changes

A position is cleared, or an item is put there.  All other positions stay as they are, unless it is
a bag that goes: then the positions in it go with it.

## Main results

* `Storage.isPlace_iff`, `Storage.getBagByPos_eq`: what a position is, and a bag
* `Storage.getItemByPos_clear`, `Storage.getItemByPos_set`: what lies where after a change
-/

namespace TeraCore

namespace Storage

/-- Nothing lies at the position any more. -/
def clear (s : Storage) (p : Pos) : Storage := ⟨fun q => if q = p then none else s.cells q⟩

/-- An item lies at the position. -/
def set (s : Storage) (p : Pos) (i : Item) : Storage :=
  ⟨fun q => if q = p then some i else s.cells q⟩

variable {s : Storage} {env : StorageEnv} {p q : Pos} {i : Item}

/-- **What a player carries**: each item lies at one position only, and no stack is empty. The
counts are unsigned 32-bit numbers. -/
structure Carrying (s : Storage) (env : StorageEnv) : Prop where
  guid_inj : ∀ p q i j, s.getItemByPos env p = some i → s.getItemByPos env q = some j →
    i.guid = j.guid → p = q
  count_pos : ∀ p i, s.getItemByPos env p = some i → 0 < i.count
  count_lt : ∀ p i, s.getItemByPos env p = some i → i.count < 2 ^ 32

theorem isPlace_of_getItemByPos (h : s.getItemByPos env p = some i) : s.isPlace env p = true := by
  unfold getItemByPos at h
  split_ifs at h with hplace
  exact hplace

theorem cells_of_getItemByPos (h : s.getItemByPos env p = some i) : s.cells p = some i := by
  rw [getItemByPos, if_pos (isPlace_of_getItemByPos h)] at h
  exact h

variable {bag : ℕ} {j : Item}

theorem isBagSlot_lt (h : isBagSlot bag = true) : bag < bankSlotBagEnd := by
  simp only [isBagSlot, Bool.or_eq_true, Bool.and_eq_true, decide_eq_true_eq] at h
  simp only [inventorySlotBagStart, inventorySlotBagEnd, bankSlotBagStart, bankSlotBagEnd] at h ⊢
  omega

theorem isMainSlot_of_isBagSlot (h : isBagSlot bag = true) : isMainSlot bag = true := by
  simp [isMainSlot, isBagSlot_lt h]

theorem isBagSlot_of_mem_inventoryBags (h : bag ∈ inventoryBags) :
    isBagSlot bag = true := by
  simp only [inventoryBags, List.mem_cons, List.not_mem_nil, or_false] at h
  rcases h with rfl | rfl | rfl | rfl <;> rfl

theorem isBagSlot_of_getBagByPos (h : s.getBagByPos env bag = some i) :
    isBagSlot bag = true := by
  unfold getBagByPos at h
  split_ifs at h with hslot
  exact hslot

theorem getItemByPos_main {slot : ℕ} (h : isMainSlot slot = true) :
    s.getItemByPos env ⟨inventorySlotBag0, slot⟩ = s.cells ⟨inventorySlotBag0, slot⟩ := by
  rw [getItemByPos, if_pos]
  simp [isPlace, h]

theorem getBagByPos_eq (h : isBagSlot bag = true) :
    s.getBagByPos env bag =
      (s.getItemByPos env ⟨inventorySlotBag0, bag⟩).filter env.isBag := by
  rw [getItemByPos_main (isMainSlot_of_isBagSlot h), getBagByPos, if_pos h]

theorem getItemByPos_of_getBagByPos (h : s.getBagByPos env bag = some i) :
    s.getItemByPos env ⟨inventorySlotBag0, bag⟩ = some i := by
  rw [getBagByPos_eq (isBagSlot_of_getBagByPos h)] at h
  exact (Option.filter_eq_some_iff.mp h).1

theorem isPlace_iff : s.isPlace env p = true ↔
    p.bag = inventorySlotBag0 ∧ isMainSlot p.slot = true ∨
      ∃ b, s.getBagByPos env p.bag = some b ∧ p.slot < env.getBagSize b := by
  simp [isPlace, Option.any_eq_true]

theorem mem_bagPlaces : p ∈ s.bagPlaces env bag ↔
    p.bag = bag ∧ ∃ b, s.getBagByPos env bag = some b ∧ p.slot < env.getBagSize b := by
  unfold bagPlaces
  cases hb : s.getBagByPos env bag with
  | none => simp
  | some b =>
    simp only [mem_slotsOf, Nat.zero_le, true_and, Option.some.injEq, exists_eq_left']

theorem worn_of_isNotEmptyBag (h : s.isNotEmptyBag env i = true) :
    ∃ bag b, s.getBagByPos env bag = some b ∧ b.guid = i.guid := by
  simp only [isNotEmptyBag, List.any_eq_true, Option.any_eq_true, Bool.and_eq_true,
    beq_iff_eq] at h
  obtain ⟨bag, -, b, hb, hguid, -⟩ := h
  exact ⟨bag, b, hb, hguid⟩

theorem ne_of_mem_inventoryBags (h : bag ∈ inventoryBags) : bag ≠ inventorySlotBag0 := by
  rintro rfl
  exact absurd h (by decide)

theorem nodup_bagPlaces (bag : ℕ) : (s.bagPlaces env bag).Nodup := by
  unfold bagPlaces
  split
  · exact List.nodup_nil
  · exact nodup_slotsOf _ _ _

theorem slot_ne_of_isPlace (h : s.isPlace env p = true) (hbag : p.bag = inventorySlotBag0) :
    p.slot ≠ inventorySlotBag0 := by
  rcases isPlace_iff.mp h with ⟨-, hmain⟩ | ⟨b, hb, -⟩
  · intro heq
    rw [heq] at hmain
    exact absurd hmain (by decide)
  · have hlt := isBagSlot_lt (isBagSlot_of_getBagByPos hb)
    rw [hbag] at hlt
    exact absurd hlt (by decide)

theorem getBagByPos_congr {t : Storage} (h : t.getItemByPos env ⟨inventorySlotBag0, bag⟩ =
      s.getItemByPos env ⟨inventorySlotBag0, bag⟩) :
    t.getBagByPos env bag = s.getBagByPos env bag := by
  by_cases hslot : isBagSlot bag = true
  · rw [getBagByPos_eq hslot, getBagByPos_eq hslot, h]
  · rw [getBagByPos, getBagByPos, if_neg hslot, if_neg hslot]

/-- **A position that is cleared** is free, and there are no positions in it any more. -/
theorem getItemByPos_clear (hp : s.isPlace env p = true) :
    (s.clear p).getItemByPos env q =
      if q = p ∨ p.bag = inventorySlotBag0 ∧ q.bag = p.slot then none
      else s.getItemByPos env q := by
  by_cases hself : q = p
  · rw [if_pos (.inl hself)]
    simp [getItemByPos, clear, hself]
  by_cases hin : p.bag = inventorySlotBag0 ∧ q.bag = p.slot
  · rw [if_pos (.inr hin)]
    obtain ⟨hbag, hslot⟩ := hin
    have hnone : (s.clear p).getBagByPos env q.bag = none := by
      have hpos : (⟨inventorySlotBag0, q.bag⟩ : Pos) = p := by rw [← hbag, hslot]
      simp [getBagByPos, clear, hpos]
    rw [getItemByPos, if_neg]
    rw [isPlace_iff, hnone]
    rintro (⟨hown, -⟩ | ⟨b, hb, -⟩)
    · exact slot_ne_of_isPlace hp hbag (hslot.symm.trans hown)
    · cases hb
  · rw [if_neg (by tauto)]
    have hbag : (s.clear p).getBagByPos env q.bag = s.getBagByPos env q.bag := by
      have hpos : (⟨inventorySlotBag0, q.bag⟩ : Pos) ≠ p := by
        rintro rfl
        exact hin ⟨rfl, rfl⟩
      simp [getBagByPos, clear, hpos]
    simp only [getItemByPos, isPlace, hbag]
    simp [clear, hself]

section

variable (hp : s.getItemByPos env p = some i) (hentry : j.entry = i.entry)
include hp hentry

theorem getBagByPos_set (bag : ℕ) :
    ((s.set p j).getBagByPos env bag).map (·.entry) =
      (s.getBagByPos env bag).map (·.entry) := by
  by_cases hpos : (⟨inventorySlotBag0, bag⟩ : Pos) = p
  · have hcell := cells_of_getItemByPos hp
    have hisBag : env.isBag j = env.isBag i := by rw [StorageEnv.isBag, StorageEnv.isBag, hentry]
    subst hpos
    simp only [getBagByPos, set, hcell, if_true]
    split_ifs
    · rw [Option.filter_some, Option.filter_some, hisBag]
      split_ifs
      · exact congrArg some hentry
      · rfl
    · rfl
  · simp [getBagByPos, set, hpos]

theorem isPlace_set : (s.set p j).isPlace env q = s.isPlace env q := by
  have hbag := getBagByPos_set hp hentry q.bag
  rw [isPlace, isPlace]
  cases h : s.getBagByPos env q.bag <;> cases h' : (s.set p j).getBagByPos env q.bag <;>
    rw [h, h'] at hbag
  case some.some b b' =>
    have hsame : b'.entry = b.entry := Option.some.inj hbag
    have hsize : env.getBagSize b' = env.getBagSize b := by
      rw [StorageEnv.getBagSize, StorageEnv.getBagSize, hsame]
    rw [Option.any_some, Option.any_some, hsize]
  all_goals cases hbag

/-- **An item that changes**, but not its kind. -/
theorem getItemByPos_set :
    (s.set p j).getItemByPos env q = if q = p then some j else s.getItemByPos env q := by
  rw [getItemByPos, isPlace_set hp hentry]
  by_cases hself : q = p
  · rw [if_pos hself, hself, if_pos (isPlace_of_getItemByPos hp)]
    simp [set]
  · rw [if_neg hself, getItemByPos]
    simp [set, hself]

end

theorem getItemByPos_set_count (hp : s.getItemByPos env p = some i) (n : ℕ) :
    (s.set p { i with count := n }).getItemByPos env q =
      if q = p then some { i with count := n } else s.getItemByPos env q :=
  getItemByPos_set hp rfl

end Storage

end TeraCore
