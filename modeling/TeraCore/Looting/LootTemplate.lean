import TeraCore.Commons.Draws

/-!
# Loot templates

A loot template says what a corpse or a chest may hold: entries of items, each with a chance, and
groups, of which at most one item drops.  An entry may refer to another template, or to a group of
one, which is then processed instead, some number of times.  Referenced templates come from a store
of their own.

Chances and rates are rational numbers here.  A template is processed to a depth of references; the
computation is stuck where the references go deeper.

One field of loot is not in the source: the plain entries that were rolled, each with the loot that
it was added to.

## Main definitions

* `LootStoreItem`: an entry
* `LootGroup`, `LootTemplate`: a group, and a template
* `LootTemplate.Process`: the loot that a template gives
-/

namespace TeraCore.LootTemplates

open Commons

abbrev MAX_NR_LOOT_ITEMS : ℕ := 16

abbrev MAX_NR_QUEST_ITEMS : ℕ := 32

/-- What rolls ask about an item. -/
structure ItemTemplate where
  InventoryType : ℕ
  Quality : ℕ

/-- **What rolls ask of the world.** -/
structure World where
  template : ℕ → Option ItemTemplate
  /-- The rate of drops of a quality. -/
  qualityRate : ℕ → ℚ
  /-- `RATE_DROP_ITEM_REFERENCED` -/
  referencedRate : ℚ
  /-- `RATE_DROP_ITEM_REFERENCED_AMOUNT` -/
  referencedAmountRate : ℚ

/-- **An entry** of a template. -/
structure LootStoreItem where
  itemid : ℕ
  chance : ℚ
  /-- The least count of an item, or minus the template that is referred to. -/
  mincountOrRef : ℤ
  lootmode : BitVec 16
  group : ℕ
  needs_quest : Bool
  maxcount : ℕ
deriving DecidableEq

namespace LootStoreItem

variable (w : World) (e : LootStoreItem)

/-- The template that is referred to. -/
def ref : ℕ := (-e.mincountOrRef).toNat

def Roll (rate : Bool) : Draws Bool :=
  if 100 ≤ e.chance then .done true
  else if e.mincountOrRef < 0 then
    .chance fun r => .done (decide (r < e.chance * if rate then w.referencedRate else 1))
  else
    let qualityModifier :=
      match w.template e.itemid with
      | none => 1
      | some proto => if rate then w.qualityRate proto.Quality else 1
    .chance fun r => .done (decide (r < e.chance * qualityModifier))

end LootStoreItem

/-! ## Loot -/

/-- A plain entry that was rolled, and the loot that it was added to. -/
structure Rolled where
  entry : LootStoreItem
  items : List LootStoreItem
  quest_items : List LootStoreItem

/-- **Loot**, as the entries that its items were made from. -/
structure Loot where
  items : List LootStoreItem
  quest_items : List LootStoreItem
  rolled : List Rolled

/-- Loot that was not filled yet. -/
def Loot.empty : Loot := ⟨[], [], []⟩

/-- **`AddItem`** -/
def Loot.AddItem (loot : Loot) (item : LootStoreItem) : Loot :=
  if item.needs_quest then
    if loot.quest_items.length < MAX_NR_QUEST_ITEMS then
      { loot with quest_items := loot.quest_items ++ [item] }
    else loot
  else if loot.items.length < MAX_NR_LOOT_ITEMS then { loot with items := loot.items ++ [item] }
  else loot

/-- How often an item drops. -/
def Loot.dropped (loot : Loot) (itemid : ℕ) : ℕ := loot.items.countP (·.itemid == itemid)

/-- An item that is not equippable drops three times, and an equippable one once. -/
def dropLimit (proto : ItemTemplate) : ℕ := if proto.InventoryType = 0 then 3 else 1

/-! ## Groups -/

structure LootGroup where
  ExplicitlyChanced : List LootStoreItem
  EqualChanced : List LootStoreItem

namespace LootGroup

variable (w : World) (lootMode : BitVec 16)

/-- `AddEntry` of a group. -/
def AddEntry (g : LootGroup) (item : LootStoreItem) : LootGroup :=
  if item.chance ≠ 0 then { g with ExplicitlyChanced := g.ExplicitlyChanced ++ [item] }
  else { g with EqualChanced := g.EqualChanced ++ [item] }

/-- The entries that are left after a roll: it erases those that it passes, and the first that is
left is the one that it hits. -/
def rollExplicit (roll : ℚ) : List LootStoreItem → List LootStoreItem
  | [] => []
  | itr :: rest =>
    if 100 ≤ itr.chance then itr :: rest
    else if roll - itr.chance < 0 then itr :: rest
    else rollExplicit (roll - itr.chance) rest

/-- The item has dropped as often as it may. -/
def duplicate (loot : Loot) (item : LootStoreItem) : Bool :=
  match w.template item.itemid with
  | none => false
  | some proto => decide (dropLimit proto ≤ loot.dropped item.itemid)

/-- What is made of an item that was rolled: it is added, or the loop goes on, without the item if
it is a duplicate. -/
def rolledItem (loot : Loot) (item : LootStoreItem) (goOn goOnWithout : Draws Loot) : Draws Loot :=
  if item.lootmode &&& lootMode ≠ 0 then
    if duplicate w loot item then goOnWithout else .done (loot.AddItem item)
  else goOn

/-- An item of the equal-chanced part is taken. -/
def rollEqual (loot : Loot) (equal : List LootStoreItem)
    (goOn : List LootStoreItem → Draws Loot) : Draws Loot :=
  if equal = [] then goOn equal
  else
    .index equal.length fun i =>
      match equal[i]? with
      | none => .stuck
      | some item => rolledItem w lootMode loot item (goOn equal) (goOn (equal.eraseIdx i))

/-- **The loop of `Process`**, to the attempts that are left: the drops of both parts that are
possible yet. -/
def attempts (loot : Loot) : ℕ → List LootStoreItem → List LootStoreItem → Draws Loot
  | 0, _, _ => .done loot
  | left + 1, explicit, equal =>
    match explicit with
    | [] =>
      if equal = [] then .done loot
      else rollEqual w lootMode loot equal (attempts loot left [])
    | _ :: _ =>
      .chance fun r =>
        match rollExplicit r explicit with
        | [] => rollEqual w lootMode loot equal (attempts loot left [])
        | item :: rest =>
          rolledItem w lootMode loot item (attempts loot left (item :: rest) equal)
            (attempts loot left rest equal)

/-- **`Process`** of a group.  The bound of the attempts is a byte. -/
def Process (g : LootGroup) (loot : Loot) : Draws Loot :=
  let uiMaxAttempts := (g.ExplicitlyChanced.length + g.EqualChanced.length) % 2 ^ 8
  attempts w lootMode loot uiMaxAttempts g.ExplicitlyChanced g.EqualChanced

/-- `HasQuestDrop` of a group. -/
def HasQuestDrop (g : LootGroup) : Bool :=
  g.ExplicitlyChanced.any (·.needs_quest) || g.EqualChanced.any (·.needs_quest)

end LootGroup

/-! ## Templates -/

structure LootTemplate where
  Entries : List LootStoreItem
  Groups : List LootGroup

/-- The templates of a store. -/
abbrev LootTemplateMap := ℕ → Option LootTemplate

namespace LootTemplate

variable (w : World) (references : LootTemplateMap) (rate : Bool) (lootMode : BitVec 16)

/-- **`AddEntry`** of a template. -/
def AddEntry (t : LootTemplate) (item : LootStoreItem) : LootTemplate :=
  if 0 < item.group ∧ 0 < item.mincountOrRef then
    let groups := t.Groups ++ List.replicate (item.group - t.Groups.length) ⟨[], []⟩
    { t with Groups := groups.modify (item.group - 1) (·.AddEntry item) }
  else { t with Entries := t.Entries ++ [item] }

/-- The search for the drops of an item that stops at the limit: what of the list is left where it
stops.  Where it finds the limit reached, it goes on with the next drop, as everywhere. -/
def searchDropped (proto : ItemTemplate) (itemid : ℕ) : ℕ → List LootStoreItem → List LootStoreItem
  | _, [] => []
  | counter, item :: rest =>
    if item.itemid = itemid then
      if proto.InventoryType = 0 ∧ counter + 1 = 3 then
        searchDropped proto itemid (counter + 1) rest
      else if proto.InventoryType ≠ 0 ∧ counter + 1 = 1 then
        searchDropped proto itemid (counter + 1) rest
      else searchDropped proto itemid (counter + 1) rest
    else searchDropped proto itemid counter rest

/-- The search stopped before the end. -/
def limitReached (loot : Loot) (e : LootStoreItem) : Bool :=
  match w.template e.itemid with
  | none => false
  | some proto => !(searchDropped proto e.itemid 0 loot.items).isEmpty

variable (processReferenced : LootTemplate → ℕ → Loot → Draws Loot)

/-- What an entry is that was rolled: a reference, which is processed as often as it says, or an
item. -/
def rolledEntry (loot : Loot) (e : LootStoreItem) : Draws Loot :=
  if e.mincountOrRef < 0 then
    match references e.ref with
    | none => .done loot
    | some referenced =>
      let maxcount := (e.maxcount * w.referencedAmountRate).floor.toNat
      .foldl (fun loot _ => processReferenced referenced e.group loot) loot (List.range maxcount)
  else
    .done { loot.AddItem e with
      rolled := loot.rolled ++ [⟨e, loot.items, loot.quest_items⟩] }

/-- The body of the loop over the entries. -/
def processEntry (loot : Loot) (e : LootStoreItem) : Draws Loot :=
  if e.lootmode &&& ~~~lootMode ≠ 0 then .done loot
  else
    (e.Roll w rate).bind fun hit =>
      if !hit then .done loot
      else if limitReached w loot e then .done loot
      else rolledEntry w references processReferenced loot e

/-- What a template adds, or one of its groups. -/
def processWith (t : LootTemplate) (groupId : ℕ) (loot : Loot) : Draws Loot :=
  if groupId ≠ 0 then
    match t.Groups[groupId - 1]? with
    | none => .done loot
    | some g => g.Process w lootMode loot
  else
    (Draws.foldl (processEntry w references rate lootMode processReferenced) loot t.Entries).bind
      fun loot => Draws.foldl (fun loot g => g.Process w lootMode loot) loot t.Groups

def Process : ℕ → LootTemplate → ℕ → Loot → Draws Loot
  | 0 => processWith w references rate lootMode fun _ _ _ => .stuck
  | depth + 1 => processWith w references rate lootMode (Process depth)

end LootTemplate

end TeraCore.LootTemplates
