import Mathlib.Data.Nat.Basic
import Mathlib.Algebra.Group.Nat.Defs

/-!
# Items

An item object is a stack of one kind of thing: it has a number of its own, the entry of its
kind, and a count.  The kind's template says how many fit in a stack.

## Main results

* `ItemTemplate.getMaxStackSize_pos`, `ItemTemplate.getMaxStackSize_lt`: a stack has room for one
  thing, and its size is below `2 ^ 31`
-/

namespace TeraCore

/-- What is read of an item's kind. -/
structure ItemTemplate where
  stackable : BitVec 32
  conjured : Bool
  deriving DecidableEq

/-- The size of a full stack; a kind with no limit, or none that makes sense, gets the largest
one. -/
def ItemTemplate.getMaxStackSize (t : ItemTemplate) : ℕ :=
  if t.stackable = 2147483647 ∨ t.stackable.toInt ≤ 0 then 0x7FFFFFFE else t.stackable.toNat

theorem ItemTemplate.getMaxStackSize_pos (t : ItemTemplate) : 0 < t.getMaxStackSize := by
  unfold getMaxStackSize
  split_ifs with h
  · decide
  · rw [not_or, BitVec.toInt_eq_toNat_cond] at h
    obtain ⟨-, hpos⟩ := h
    split_ifs at hpos <;> omega

theorem ItemTemplate.getMaxStackSize_lt (t : ItemTemplate) : t.getMaxStackSize < 2 ^ 31 := by
  unfold getMaxStackSize
  split_ifs with h
  · decide
  · rw [not_or, BitVec.toInt_eq_toNat_cond] at h
    obtain ⟨-, hpos⟩ := h
    split_ifs at hpos <;> omega

/-- **An item object**: its number, its kind, the size of the stack, and whether it is bound to
its owner. The count is an unsigned 32-bit field. -/
structure Item where
  guid : ℕ
  entry : ℕ
  count : ℕ
  soulBound : Bool
  duration : ℕ
  deriving DecidableEq

namespace Item

/-- `Item::SetCount(uint32)`. -/
def setCount (i : Item) (value : ℕ) : Item := { i with count := value % 2 ^ 32 }

@[simp] theorem setCount_entry (i : Item) (value : ℕ) : (i.setCount value).entry = i.entry := rfl

/-- The difference of two counts, as unsigned 32-bit numbers. -/
def countSub (a b : ℕ) : ℕ := (a + 2 ^ 32 - b) % 2 ^ 32

theorem countSub_of_le {a b : ℕ} (ha : a < 2 ^ 32) (h : b ≤ a) : countSub a b = a - b := by
  rw [countSub]
  omega

theorem countSub_of_lt {a b : ℕ} (hb : b < 2 ^ 32) (h : a < b) :
    countSub a b + b = a + 2 ^ 32 := by
  rw [countSub]
  omega

theorem countSub_lt (a b : ℕ) : countSub a b < 2 ^ 32 := Nat.mod_lt _ (Nat.two_pow_pos 32)

theorem setCount_count {i : Item} {value : ℕ} (h : value < 2 ^ 32) :
    (i.setCount value).count = value := Nat.mod_eq_of_lt h

/-- **`Item::CloneItem`**: a new object with the number `guid`, of the same kind. No object is
created for a count of zero, and none is larger than a full stack. `proto` is the table of the
kinds. -/
def cloneItem (i : Item) (proto : ℕ → ItemTemplate) (guid count : ℕ) : Option Item :=
  if count < 1 then none
  else some { i with
    guid := guid
    count := min count (proto i.entry).getMaxStackSize }

theorem cloneItem_eq {i : Item} {proto : ℕ → ItemTemplate} (guid : ℕ) {count : ℕ}
    (hpos : 0 < count) (hmax : count ≤ (proto i.entry).getMaxStackSize) :
    i.cloneItem proto guid count = some { i with guid := guid, count := count } := by
  rw [cloneItem, if_neg (by omega), Nat.min_eq_left hmax]

end Item

end TeraCore
