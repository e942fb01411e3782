import Mathlib.Data.List.Nodup
import TeraCore.Entities.Item

/-!
# Where a player's items lie

A player has numbered slots: what is worn, the bags, the backpack, the bank, the bank's bags, the
keyring and the currency tokens.  A bag that lies in a bag's slot has slots of its own.  A position
is a bag and a slot in it, and the numbered slots themselves are those of the bag
`inventorySlotBag0`.

## Main definitions

* `Pos`: a position
* `Storage.getItemByPos`: what lies at a position
-/

namespace TeraCore

/-! ## Results -/

/-- What a check of an inventory answers: an `InventoryResult`. -/
inductive EquipErr where
  | ok
  | other (code : ℕ)
  deriving DecidableEq

/-! ## Kinds of items -/

inductive InventoryType where
  | bag
  | other (code : ℕ)
  deriving DecidableEq

/-- **A kind of items**, as far as the search of an inventory reads it. -/
structure ItemPrototype where
  inventoryType : InventoryType
  containerSlots : ℕ
  deriving DecidableEq

def maxBagSize : ℕ := 36

/-- **The kinds of items.** -/
structure StorageEnv where
  proto : ℕ → Option ItemPrototype
  containerSlots_le : ∀ entry p, proto entry = some p → p.containerSlots ≤ maxBagSize

namespace StorageEnv

def isBag (env : StorageEnv) (item : Item) : Bool :=
  (env.proto item.entry).any fun p => p.inventoryType == .bag

/-- The number of slots of a bag. -/
def getBagSize (env : StorageEnv) (bag : Item) : ℕ :=
  ((env.proto bag.entry).map ItemPrototype.containerSlots).getD 0

end StorageEnv

/-! ## Positions -/

/-- **A position**: a bag, and a slot in it. -/
structure Pos where
  bag : ℕ
  slot : ℕ
  deriving DecidableEq

def inventorySlotBag0 : ℕ := 255
def inventorySlotBagStart : ℕ := 19
def inventorySlotBagEnd : ℕ := 23
def inventorySlotItemStart : ℕ := 23
def inventorySlotItemEnd : ℕ := 39
def bankSlotBagStart : ℕ := 67
def bankSlotBagEnd : ℕ := 74
def keyringSlotStart : ℕ := 86
def currencytokenSlotEnd : ℕ := 150
def playerSlotEnd : ℕ := 150

/-- The slots `from ≤ slot < to` of a bag. -/
def slotsOf (bag first last : ℕ) : List Pos := (List.range' first (last - first)).map (Pos.mk bag)

theorem mem_slotsOf {bag first last : ℕ} {p : Pos} :
    p ∈ slotsOf bag first last ↔ p.bag = bag ∧ first ≤ p.slot ∧ p.slot < last := by
  obtain ⟨b, s⟩ := p
  simp only [slotsOf, List.mem_map, List.mem_range'_1, Pos.mk.injEq]
  constructor
  · rintro ⟨j, hj, rfl, rfl⟩
    omega
  · rintro ⟨rfl, hfirst, hlast⟩
    exact ⟨s, by omega, rfl, rfl⟩

theorem nodup_slotsOf (bag first last : ℕ) : (slotsOf bag first last).Nodup :=
  List.Nodup.map (fun _ _ h => (Pos.mk.inj h).2) (List.nodup_range' 1)

/-- The places of bags that are worn, and of the bank's bags. -/
def inventoryBags : List ℕ := [19, 20, 21, 22]
def bankBags : List ℕ := [67, 68, 69, 70, 71, 72, 73]

/-! ## What lies where -/

/-- **What lies at each position.** What lies in a bag lies there by the bag's own place. -/
structure Storage where
  cells : Pos → Option Item

namespace Storage

/-- Is there a bag's place with the number? -/
def isBagSlot (bag : ℕ) : Bool :=
  (inventorySlotBagStart ≤ bag && bag < inventorySlotBagEnd) ||
    (bankSlotBagStart ≤ bag && bag < bankSlotBagEnd)

variable (s : Storage) (env : StorageEnv)

/-- **`GetBagByPos`.** -/
def getBagByPos (bag : ℕ) : Option Item :=
  if isBagSlot bag then (s.cells ⟨inventorySlotBag0, bag⟩).filter env.isBag else none

/-- Is there a slot of the player's own with the number? -/
def isMainSlot (slot : ℕ) : Bool :=
  slot < bankSlotBagEnd || (keyringSlotStart ≤ slot && slot < currencytokenSlotEnd)

/-- Is there a position? -/
def isPlace (p : Pos) : Bool :=
  (p.bag == inventorySlotBag0 && isMainSlot p.slot) ||
    (s.getBagByPos env p.bag).any fun bag => p.slot < env.getBagSize bag

/-- **`GetItemByPos`.** -/
def getItemByPos (p : Pos) : Option Item :=
  if s.isPlace env p then s.cells p else none

/-- The slots of a bag. -/
def bagPlaces (bag : ℕ) : List Pos :=
  match s.getBagByPos env bag with
  | none => []
  | some b => slotsOf bag 0 (env.getBagSize b)

/-- **`IsNotEmptyBag`**, of an item wherever it lies: there is something in the bag. -/
def isNotEmptyBag (item : Item) : Bool :=
  (inventoryBags ++ bankBags).any fun bag =>
    (s.getBagByPos env bag).any fun b =>
      b.guid == item.guid && (s.bagPlaces env bag).any fun p => (s.cells p).isSome

end Storage

end TeraCore
