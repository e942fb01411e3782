import TeraCore.Commons.OrderedMap
import TeraCore.Entities.Item

/-!
# Inventories

The items a player carries, by their numbers.  What matters here is how many things of an entry
there are in all, whatever the slots and bags they lie in.

## Main results

* `Inventory.total_moveItemFromInventory`, `Inventory.total_setItemCount`,
  `Inventory.total_addItem`: the total after each
-/

namespace TeraCore

open Commons OrderedMap

/-- **An inventory**: its items by their numbers, with counts that fit their field. -/
structure Inventory where
  items : OrderedMap ℕ Item
  keyed : ∀ g i, items.find? g = some i → i.guid = g
  bounded : ∀ g i, items.find? g = some i → i.count < 2 ^ 32

/-- The part of an item in the total of an entry. -/
def Item.amountOf (entry : ℕ) (i : Item) : ℕ := if i.entry = entry then i.count else 0

namespace Inventory

/-- An inventory without items. -/
def empty : Inventory where
  items := OrderedMap.empty
  keyed := by
    intro g i h
    cases h
  bounded := by
    intro g i h
    cases h

variable (inv : Inventory)

def getItemByGuid (guid : ℕ) : Option Item := inv.items.find? guid

/-- How many things of an entry there are. -/
def total (entry : ℕ) : ℕ := inv.items.sumOf (Item.amountOf entry)

/-- `MoveItemFromInventory`: the item leaves its slot. An item that lies in no slot any more has
none to leave. -/
def moveItemFromInventory (guid : ℕ) : Inventory where
  items := inv.items.erase guid
  keyed := by
    intro g i h
    rw [find?_erase] at h
    split_ifs at h
    exact inv.keyed g i h
  bounded := by
    intro g i h
    rw [find?_erase] at h
    split_ifs at h
    exact inv.bounded g i h

/-- `SetCount` of an item, as the inventory sees it: nothing happens there when the item has left
it. -/
def setItemCount (guid value : ℕ) : Inventory where
  items :=
    match inv.items.find? guid with
    | none => inv.items
    | some i => inv.items.set guid (i.setCount value)
  keyed := by
    intro g i h
    cases hitem : inv.items.find? guid with
    | none =>
      rw [hitem] at h
      exact inv.keyed g i h
    | some old =>
      rw [hitem] at h
      simp only [find?_set] at h
      split_ifs at h with hg
      · cases h
        exact (inv.keyed guid old hitem).trans hg.symm
      · exact inv.keyed g i h
  bounded := by
    intro g i h
    cases hitem : inv.items.find? guid with
    | none =>
      rw [hitem] at h
      exact inv.bounded g i h
    | some old =>
      rw [hitem] at h
      simp only [find?_set] at h
      split_ifs at h with hg
      · cases h
        exact Nat.mod_lt _ (Nat.two_pow_pos 32)
      · exact inv.bounded g i h

/-- An item comes into a slot of its own. -/
def addItem (item : Item) (h : item.count < 2 ^ 32) : Inventory where
  items := inv.items.set item.guid item
  keyed := by
    intro g i hi
    rw [find?_set] at hi
    split_ifs at hi with hg
    · rw [← Option.some.inj hi, hg]
    · exact inv.keyed g i hi
  bounded := by
    intro g i hi
    rw [find?_set] at hi
    split_ifs at hi
    · rw [← Option.some.inj hi]
      exact h
    · exact inv.bounded g i hi

variable {inv} {guid : ℕ} {item : Item}

theorem find?_moveItemFromInventory (inv : Inventory) (guid g : ℕ) :
    (inv.moveItemFromInventory guid).items.find? g =
      if g = guid then none else inv.items.find? g :=
  find?_erase _ _ _

theorem items_setItemCount (h : inv.items.find? guid = some item) (value : ℕ) :
    (inv.setItemCount guid value).items = inv.items.set guid (item.setCount value) := by
  simp only [setItemCount, h]

theorem find?_setItemCount (h : inv.items.find? guid = some item) (value g : ℕ) :
    (inv.setItemCount guid value).items.find? g =
      if g = guid then some (item.setCount value) else inv.items.find? g := by
  rw [items_setItemCount h, find?_set]

theorem amountOf_setCount (i : Item) {value : ℕ} (h : value < 2 ^ 32) (entry : ℕ) :
    (i.setCount value).amountOf entry = if i.entry = entry then value else 0 := by
  rw [Item.amountOf, Item.setCount_entry, Item.setCount_count h]

/-! ## Totals -/

theorem total_moveItemFromInventory (h : inv.items.find? guid = some item) (entry : ℕ) :
    (inv.moveItemFromInventory guid).total entry + item.amountOf entry = inv.total entry :=
  sumOf_erase h _

theorem total_setItemCount (h : inv.items.find? guid = some item) (value entry : ℕ) :
    (inv.setItemCount guid value).total entry + item.amountOf entry =
      inv.total entry + (item.setCount value).amountOf entry := by
  rw [total, items_setItemCount h]
  exact sumOf_set h _ _

theorem total_addItem (h : item.count < 2 ^ 32) (hnew : inv.items.find? item.guid = none)
    (entry : ℕ) : (inv.addItem item h).total entry = inv.total entry + item.amountOf entry :=
  sumOf_set_of_none hnew item _

end Inventory

end TeraCore
