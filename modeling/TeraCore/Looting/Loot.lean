import Mathlib.Data.Finset.Card
import TeraCore.Commons.OrderedMap
import TeraCore.Commons.Run

/-!
# Loot

What a corpse or a chest holds: items, quest items and gold.  Filling it puts each item that is not
open to everyone on lists of the players who may take it: one list of quest items for each player,
one of free-for-all items, and one of items with conditions.  A byte counts what is not yet taken.

Items leave the loot in three ways.  A player takes the item of a slot, the master looter gives it
to somebody, or a roll is decided.

Two fields are not in the source: what was offered so far, and what was handed out.

## Main definitions

* `LootItem`, `QuestItem`, `Loot`
* `FillLoot`: loot is filled for a player or for the player's group
* `LootItemInSlot`, `StoreLootItem`: a player takes an item
* `HandleLootMasterGive`, `CountTheRoll`: the other two ways
* `step`: what happens to loot after it was filled
-/

namespace TeraCore.Looting

open Commons

abbrev MAX_NR_LOOT_ITEMS : ℕ := 16

abbrev MAX_NR_QUEST_ITEMS : ℕ := 32

/-! ## Items -/

/-- What loot asks about an item's template. -/
structure ItemTemplate where
  /-- `ITEM_PROTO_FLAG_PARTY_LOOT` -/
  partyLoot : Bool
  /-- `ITEM_PROTO_FLAG_SMART_LOOT` -/
  smartLoot : Bool
  RequiredSkill : ℕ
  /-- `Spells[1].SpellId` -/
  taughtSpell : ℕ
  hordeOnly : Bool
  allianceOnly : Bool
  StartQuest : ℕ
  ignoreQuestStatus : Bool
  followLootRules : Bool
  isCurrencyToken : Bool

/-- What loot asks about a player. -/
structure Viewer where
  meetsConditions : List ℕ → Bool
  HasSkill : ℕ → Bool
  HasSpell : ℕ → Bool
  isHorde : Bool
  isAlliance : Bool
  /-- `QUEST_STATUS_NONE` -/
  questIsNew : ℕ → Bool
  HasQuestForItem : ℕ → Bool

/-- One line of a loot table, with the count that was drawn for it. -/
structure LootStoreItem where
  itemid : ℕ
  conditions : List ℕ
  needs_quest : Bool
  count : ℕ

structure LootItem where
  itemid : ℕ
  conditions : List ℕ
  count : ℕ
  freeforall : Bool
  needs_quest : Bool
  follow_loot_rules : Bool
  is_looted : Bool
  is_blocked : Bool
  is_counted : Bool

/-- An entry of a player's list: the index of an item. -/
structure QuestItem where
  index : ℕ
  is_looted : Bool

/-- **A pick-up**: an item of the loot, for one player if it is free for all. -/
structure PickUp where
  quest : Bool
  index : ℕ
  player : Option ℕ
deriving DecidableEq

/-- **What is asked of the world**, after the pick-ups that were handed out. -/
structure World where
  template : ℕ → Option ItemTemplate
  viewer : List PickUp → ℕ → Viewer
  /-- `CanStoreNewItem` for the item that a player finds in a slot. -/
  canStoreNewItem : List PickUp → ℕ → ℕ → Bool

namespace LootItem

/-- The constructor of `LootItem`. -/
def ofStoreItem (w : World) (li : LootStoreItem) : LootItem where
  itemid := li.itemid
  conditions := li.conditions
  count := li.count % 2 ^ 8
  freeforall := (w.template li.itemid).any (·.partyLoot)
  needs_quest := li.needs_quest
  follow_loot_rules := (w.template li.itemid).any (·.followLootRules)
  is_looted := false
  is_blocked := false
  is_counted := false

def AllowedForPlayer (w : World) (item : LootItem) (v : Viewer) : Bool :=
  v.meetsConditions item.conditions &&
  match w.template item.itemid with
  | none => false
  | some proto =>
    !(proto.smartLoot && (!v.HasSkill proto.RequiredSkill || v.HasSpell proto.taughtSpell)) &&
    !(proto.hordeOnly && !v.isHorde) && !(proto.allianceOnly && !v.isAlliance) &&
    !(!proto.ignoreQuestStatus &&
      ((item.needs_quest || (proto.StartQuest != 0 && !v.questIsNew proto.StartQuest)) &&
        !v.HasQuestForItem item.itemid))

end LootItem

/-! ## Groups -/

inductive LootMethod where
  | FREE_FOR_ALL | ROUND_ROBIN | MASTER_LOOT | GROUP_LOOT | NEED_BEFORE_GREED
deriving DecidableEq

/-- A group that loots: its members in their order, each with whether it is near the loot. -/
structure LootGroup where
  method : LootMethod
  looterGuid : ℕ
  members : List (ℕ × Bool)
  /-- A player is in a group once. -/
  nodup : (members.map Prod.fst).Nodup

def LootItem.openByRules (item : LootItem) (group : Option LootGroup) (player : ℕ) : Bool :=
  item.follow_loot_rules &&
    group.any fun g => (g.method == .MASTER_LOOT && g.looterGuid == player) ||
      g.method != .MASTER_LOOT

/-- The group rolls for items or takes turns: quest items do not get blocked. -/
def sharesQuestItems (group : Option LootGroup) : Bool :=
  group.any fun g => g.method == .GROUP_LOOT || g.method == .ROUND_ROBIN

/-! ## Loot -/

structure Loot where
  items : List LootItem
  quest_items : List LootItem
  gold : ℕ
  unlootedCount : BitVec 8
  PlayerQuestItems : OrderedMap ℕ (List QuestItem)
  PlayerFFAItems : OrderedMap ℕ (List QuestItem)
  PlayerNonQuestNonFFAConditionalItems : OrderedMap ℕ (List QuestItem)
  /-- `i_LootValidatorRefManager`: the slots of the rolls that are not decided. -/
  rolls : List ℕ
  /-- The pick-ups that were offered to somebody. -/
  offered : Finset PickUp
  /-- The pick-ups that were handed out, the latest first. -/
  granted : List PickUp

/-- The three maps of lists. -/
inductive Kind where
  | quest | freeforall | conditional
deriving DecidableEq

/-- The lists of this kind are about quest items. -/
def Kind.isQuest : Kind → Bool
  | .quest => true
  | .freeforall | .conditional => false

namespace Loot

variable (w : World) (l : Loot)

/-- Loot that was not filled yet. -/
def new (gold : ℕ) : Loot where
  items := []
  quest_items := []
  gold := gold
  unlootedCount := 0
  PlayerQuestItems := .empty
  PlayerFFAItems := .empty
  PlayerNonQuestNonFFAConditionalItems := .empty
  rolls := []
  offered := ∅
  granted := []

variable (quest : Bool)

def slots : List LootItem := if quest then l.quest_items else l.items

def item? (i : ℕ) : Option LootItem := (l.slots quest)[i]?

/-- An item is written to. -/
def modifyItem (i : ℕ) (f : LootItem → LootItem) : Loot :=
  if quest then { l with quest_items := l.quest_items.modify i f }
  else { l with items := l.items.modify i f }

def lists : Kind → OrderedMap ℕ (List QuestItem)
  | .quest => l.PlayerQuestItems
  | .freeforall => l.PlayerFFAItems
  | .conditional => l.PlayerNonQuestNonFFAConditionalItems

/-- A player gets a list. -/
def setList (kind : Kind) (player : ℕ) (ql : List QuestItem) : Loot :=
  match kind with
  | .quest => { l with PlayerQuestItems := l.PlayerQuestItems.set player ql }
  | .freeforall => { l with PlayerFFAItems := l.PlayerFFAItems.set player ql }
  | .conditional =>
    { l with
      PlayerNonQuestNonFFAConditionalItems :=
        l.PlayerNonQuestNonFFAConditionalItems.set player ql }

variable (i : ℕ) (item : LootItem) (player : ℕ)

def pickUp : PickUp :=
  ⟨quest, i, if item.freeforall then some player else none⟩

def isLooted : Bool := l.gold == 0 && l.unlootedCount == 0

/-! ## Filling -/

/-- **`AddItem`** -/
def AddItem (li : LootStoreItem) : Loot :=
  if li.needs_quest then
    if l.quest_items.length < MAX_NR_QUEST_ITEMS then
      { l with quest_items := l.quest_items ++ [.ofStoreItem w li] }
    else l
  else if l.items.length < MAX_NR_LOOT_ITEMS then
    { l with
      items := l.items ++ [.ofStoreItem w li]
      unlootedCount :=
        if li.conditions.isEmpty && !(w.template li.itemid).any (·.partyLoot) then
          l.unlootedCount + 1
        else l.unlootedCount }
  else l

def offer (counts blocks marks : Bool) : Loot :=
  { l.modifyItem quest i fun item =>
      { item with
        is_blocked := item.is_blocked || blocks
        is_counted := item.is_counted || marks } with
    unlootedCount := if counts then l.unlootedCount + 1 else l.unlootedCount
    offered := insert (pickUp quest i item player) l.offered }

/-- A player's list goes to its map, if there is something on it. -/
def keepList (kind : Kind) (player : ℕ) (ql : List QuestItem) : Loot :=
  if ql.isEmpty then l else l.setList kind player ql

variable (group : Option LootGroup)

/-- The body of the loop of `FillQuestLoot`. -/
def questTurn (player : ℕ) (s : Loot × List QuestItem) (i : ℕ) : Loot × List QuestItem :=
  match s.1.item? true i with
  | none => s
  | some item =>
    -- the loop was left when the player's window was full
    if s.1.items.length + s.2.length = MAX_NR_LOOT_ITEMS then s
    else if !item.is_looted && (item.AllowedForPlayer w (w.viewer s.1.granted player) ||
        item.openByRules group player) then
      (s.1.offer true i item player (item.freeforall || !item.is_blocked)
        (!sharesQuestItems group) false, s.2 ++ [⟨i, false⟩])
    else s

def FillQuestLoot (player : ℕ) : Loot :=
  if l.items.length = MAX_NR_LOOT_ITEMS then l
  else
    let s := (List.range l.quest_items.length).foldl (questTurn w group player) (l, [])
    s.1.keepList .quest player s.2

/-- The body of the loop of `FillFFALoot`. -/
def ffaTurn (player : ℕ) (s : Loot × List QuestItem) (i : ℕ) : Loot × List QuestItem :=
  match s.1.item? false i with
  | none => s
  | some item =>
    if !item.is_looted && item.freeforall &&
        item.AllowedForPlayer w (w.viewer s.1.granted player) then
      (s.1.offer false i item player true false false, s.2 ++ [⟨i, false⟩])
    else s

def FillFFALoot (player : ℕ) : Loot :=
  let s := (List.range l.items.length).foldl (ffaTurn w player) (l, [])
  s.1.keepList .freeforall player s.2

/-- The body of the loop of `FillNonQuestNonFFAConditionalLoot`. -/
def conditionalTurn (player : ℕ) (s : Loot × List QuestItem) (i : ℕ) : Loot × List QuestItem :=
  match s.1.item? false i with
  | none => s
  | some item =>
    if !item.is_looted && !item.freeforall &&
        (item.AllowedForPlayer w (w.viewer s.1.granted player) ||
          item.openByRules group player) then
      if item.conditions.isEmpty then (s.1.offer false i item player false false false, s.2)
      else
        (s.1.offer false i item player (!item.is_counted) false true, s.2 ++ [⟨i, false⟩])
    else s

def FillNonQuestNonFFAConditionalLoot (player : ℕ) : Loot :=
  let s := (List.range l.items.length).foldl (conditionalTurn w group player) (l, [])
  s.1.keepList .conditional player s.2

/-! ## Taking -/

/-- **`GetMaxSlotInLootFor`** -/
def GetMaxSlotInLootFor (player : ℕ) : ℕ :=
  l.items.length + ((l.PlayerQuestItems.find? player).map List.length).getD 0

/-- What a player finds in a slot: an item, and the entry of the player's own list if the item was
found by one. -/
structure Found where
  quest : Bool
  index : ℕ
  item : LootItem
  entry : Option (Kind × ℕ)

/-- The entry for an item on the player's own list of this kind, and its position. -/
def ownEntry (kind : Kind) (player slot : ℕ) : Option (ℕ × QuestItem) :=
  match (l.lists kind).find? player with
  | none => none
  | some ql =>
    match ql.findIdx? (·.index == slot) with
    | none => none
    | some j => ql[j]?.map fun q => (j, q)

/-- What the player finds by an item's own flag, or by that of an entry. -/
def foundBy (slot : ℕ) (item : LootItem) (kind : Kind) : Option (ℕ × QuestItem) → Option Found
  | none => if item.is_looted then none else some ⟨false, slot, item, none⟩
  | some (j, q) => if q.is_looted then none else some ⟨false, slot, item, some (kind, j)⟩

def LootItemInSlot (lootSlot player : ℕ) : Option Found :=
  if l.items.length ≤ lootSlot then
    let questSlot := lootSlot - l.items.length
    match ((l.PlayerQuestItems.find? player).getD [])[questSlot]? with
    | none => none
    | some q =>
      if q.is_looted then none
      else (l.item? true q.index).map fun item => ⟨true, q.index, item, some (.quest, questSlot)⟩
  else
    match l.item? false lootSlot with
    | none => none
    | some item =>
      if item.freeforall then
        foundBy lootSlot item .freeforall (l.ownEntry .freeforall player lootSlot)
      else if !item.conditions.isEmpty then
        foundBy lootSlot item .conditional (l.ownEntry .conditional player lootSlot)
      else foundBy lootSlot item .conditional none

/-- An entry of a player's list is marked as looted. -/
def markEntry (kind : Kind) (player j : ℕ) : Loot :=
  match (l.lists kind).find? player with
  | none => l
  | some ql => l.setList kind player (ql.modify j fun q => { q with is_looted := true })

/-- An item is handed out: one pick-up less. -/
def handOut : Loot :=
  { l with
    unlootedCount := l.unlootedCount - 1
    granted := pickUp quest i item player :: l.granted }

/-- An item is marked as looted. -/
def lootItem (i : ℕ) : Loot :=
  l.modifyItem quest i fun item => { item with is_looted := true }

/-- A player gets what was found. -/
def take (found : Found) (player : ℕ) : Loot :=
  let l :=
    match found.entry with
    | none => l
    | some (kind, j) => l.markEntry kind player j
  -- if only one person is supposed to loot the item, then it is looted
  let l := if found.item.freeforall then l else l.lootItem found.quest found.index
  l.handOut found.quest found.index found.item player

/-- The player can take what was found: quest items use the blocked field for other purposes. -/
def Found.isFree (found : Found) : Bool := found.quest || !found.item.is_blocked

def StoreLootItem (player lootSlot : ℕ) (canStore : Bool) : Loot :=
  match l.LootItemInSlot lootSlot player with
  | none => l
  | some found => if found.isFree && canStore then l.take found player else l

/-! ## The loot of a group -/

/-- The item of a slot, as all players count the slots: quest items come last. -/
def rawSlot (slot : ℕ) : Bool × ℕ :=
  if slot < l.items.length then (false, slot) else (true, slot - l.items.length)

/-- The body of the loop over currency items. -/
def currencyTurn (player : ℕ) (l : Loot) (i : ℕ) : Loot :=
  match l.item? (l.rawSlot i).1 (l.rawSlot i).2 with
  | none => l
  | some item =>
    if !item.is_looted && item.freeforall &&
        item.AllowedForPlayer w (w.viewer l.granted player) &&
        (w.template item.itemid).any (·.isCurrencyToken) then
      l.StoreLootItem player i (w.canStoreNewItem l.granted player i)
    else l

def unlessListed (kind : Kind) (player : ℕ) (fill : Loot → Loot) : Loot :=
  if ((l.lists kind).find? player).isSome then l else fill l

def FillNotNormalLootFor (player : ℕ) (presentAtLooting : Bool) : Loot :=
  let l := l.unlessListed .quest player (FillQuestLoot w · group player)
  let l := l.unlessListed .freeforall player (FillFFALoot w · player)
  let l := l.unlessListed .conditional player (FillNonQuestNonFFAConditionalLoot w · group player)
  if presentAtLooting then
    (List.range (l.GetMaxSlotInLootFor player)).foldl (currencyTurn w player) l
  else l

/-- The players that loot is filled for, each with whether it is near. -/
def lootersOf (lootOwner : ℕ) (group : Option LootGroup) (personal : Bool) : List (ℕ × Bool) :=
  match group with
  | some g => if personal then [(lootOwner, true)] else g.members
  | none => [(lootOwner, true)]

/-- **`FillLoot`**, with what the loot table adds. -/
def FillLoot (drops : List LootStoreItem) (lootOwner : ℕ) (group : Option LootGroup)
    (personal : Bool) : Loot :=
  (lootersOf lootOwner group personal).foldl
    (fun l m => l.FillNotNormalLootFor w group m.1 m.2) (drops.foldl (AddItem w) l)

/-! ## Master loot and rolls -/

/-- What `HandleLootMasterGiveOpcode` is asked, and what it finds. -/
structure MasterGive where
  /-- The player is the looter of a group. -/
  isLooter : Bool
  targetFound : Bool
  /-- The player looks at this loot. -/
  isLooting : Bool
  slotid : ℕ
  target : ℕ
  canStore : Bool
  allowed : Bool

/-- **`HandleLootMasterGiveOpcode`** -/
def HandleLootMasterGive (r : MasterGive) : Loot :=
  if !r.isLooter || !r.targetFound || !r.isLooting then l
  else
    match l.item? (l.rawSlot r.slotid).1 (l.rawSlot r.slotid).2 with
    | none => l
    | some item =>
      if !r.canStore || (item.follow_loot_rules && !r.allowed) then l
      else
        (l.modifyItem (l.rawSlot r.slotid).1 (l.rawSlot r.slotid).2 fun item =>
          { item with count := 0, is_looted := true }).handOut
            (l.rawSlot r.slotid).1 (l.rawSlot r.slotid).2 item r.target

def startRoll (itemSlot : ℕ) : Loot :=
  match l.item? (l.rawSlot itemSlot).1 (l.rawSlot itemSlot).2 with
  | none => l
  | some item =>
    if (l.rawSlot itemSlot).1 && !item.follow_loot_rules then l
    else if !(l.rawSlot itemSlot).1 && item.freeforall then l
    else
      { l.modifyItem (l.rawSlot itemSlot).1 (l.rawSlot itemSlot).2 fun item =>
          { item with is_blocked := true } with
        rolls := itemSlot :: l.rolls }

/-- How a roll ends. -/
inductive RollResult where
  | won (player : ℕ) (canStore : Bool)
  /-- The winner gets what the item is disenchanted to. -/
  | disenchanted (player : ℕ)
  | winnerNotFound
  | allPassed

def CountTheRoll (itemSlot : ℕ) (result : RollResult) : Loot :=
  if itemSlot ∉ l.rolls then l
  else
    let l' := { l with rolls := l.rolls.erase itemSlot }
    match l.item? (l.rawSlot itemSlot).1 (l.rawSlot itemSlot).2 with
    | none => l'
    | some item =>
      let unblocked := l'.modifyItem (l.rawSlot itemSlot).1 (l.rawSlot itemSlot).2 fun item =>
        { item with is_blocked := false }
      let given := l'.lootItem (l.rawSlot itemSlot).1 (l.rawSlot itemSlot).2
      match result with
      | .won player canStore =>
        if canStore then
          given.handOut (l.rawSlot itemSlot).1 (l.rawSlot itemSlot).2 item player
        else unblocked
      | .disenchanted player =>
        given.handOut (l.rawSlot itemSlot).1 (l.rawSlot itemSlot).2 item player
      | .winnerNotFound => l'
      | .allPassed => unblocked

/-! ## What happens to loot -/

inductive Event where
  | storeLootItem (player lootSlot : ℕ) (canStore : Bool)
  | masterGive (r : MasterGive)
  | startRoll (itemSlot : ℕ)
  | countTheRoll (itemSlot : ℕ) (result : RollResult)
  | takeMoney

def step : Event → Loot
  | .storeLootItem player lootSlot canStore => l.StoreLootItem player lootSlot canStore
  | .masterGive r => l.HandleLootMasterGive r
  | .startRoll itemSlot => l.startRoll itemSlot
  | .countTheRoll itemSlot result => l.CountTheRoll itemSlot result
  | .takeMoney => { l with gold := 0 }

/-- The pick-ups that were offered and not handed out. -/
def ungranted : Finset PickUp := l.offered \ l.granted.toFinset

end Loot

end TeraCore.Looting
