import TeraCore.Commons.Slots
import TeraCore.Entities.Item
import TeraCore.Guilds.Rights

/-!
# Guilds: moving items in the bank

A guild's bank has up to six tabs of 98 slots.  A member moves a stack, or a part of it, from one
slot to another.  The bank first reserves the places where the items will go: the slot that was
named, then other stacks of the kind in the same tab, then free slots.  Only when there is a place
for every item is the stack taken from its slot and stored at those places.

A whole stack is merged into its destination if that is possible, and swapped with what lies
there otherwise.  A part of a stack is moved as a new object, a clone of the first.

## Main definitions

* `GuildBank`: the slots, the guild they belong to, and the number of the next item object
* `GuildBank.reserveSpace`, `GuildBank.canStore`: the reservation of places
* `GuildBank.removeItem`, `GuildBank.storeItem`: the two halves of a move
* `GuildBank.doItemsMove`, `GuildBank.moveItems`, `GuildBank.swapItems`: the move
-/

namespace TeraCore

open Commons

def guildBankMaxSlots : ℕ := 98

def guildBankRightPutItem : BitVec 8 := 0x2
def guildBankRightDepositItem : BitVec 8 := guildBankRightViewTab ||| guildBankRightPutItem

/-- A slot of the bank: a tab, and a slot of the tab. -/
abbrev BankSlot := Fin guildBankMaxTabs × Fin guildBankMaxSlots

/-- **A guild's bank**: what its slots hold. `nextItemGuid` is the number the next item object
gets. -/
structure GuildBank where
  guild : Guild
  items : Slots BankSlot Item
  nextItemGuid : ℕ

/-- A number of items for a slot of the destination tab. -/
structure ItemPosCount where
  pos : Fin guildBankMaxSlots
  count : ℕ
  deriving DecidableEq

/-- The places reserved so far, and the number of items that still need one. -/
structure Reservation where
  vec : List ItemPosCount
  count : ℕ
  deriving DecidableEq

/-- The answers of the test whether items can be stored. -/
inductive InventoryResult where
  | ok
  | cantDropSoulbound
  | itemDoesntGoIntoBag
  | itemCantStack
  | bankFull
  deriving DecidableEq

namespace Guild

def memberHasTabRights (g : Guild) (guid : Guid) (tabId : BitVec 8) (rights : BitVec 8) : Bool :=
  match g.getMember guid with
  | none => false
  | some member =>
    if member.isRank grGuildmaster || g.leaderGuid == guid then true
    else (g.getRankBankTabRights member.rankId tabId).signExtend 32 &&& rights.zeroExtend 32 ==
      rights.zeroExtend 32

/-- One more item withdrawn today, while the rank's number is not reached. -/
def updateMemberWithdrawSlots (g : Guild) (guid : Guid) (tabId : Fin guildBankMaxTabs) : Guild :=
  match g.getMember guid with
  | none => g
  | some member =>
    let counter : Fin (guildBankMaxTabs + 1) := tabId.castSucc
    if member.rankId ≠ grGuildmaster ∧
        (member.getBankWithdrawValue counter).slt
          (g.getRankBankTabSlotsPerDay member.rankId (BitVec.ofNat 8 tabId.val)) then
      g.setMember (member.updateBankWithdrawValue counter 1)
    else g

end Guild

namespace GuildBank

def tabId (tab : Fin guildBankMaxTabs) : BitVec 8 := BitVec.ofNat 8 tab.val

variable (b : GuildBank)

/-- What a slot holds, nothing for a tab that has not been bought. -/
def getItem (s : BankSlot) : Option Item :=
  if tabId s.1 < b.guild.getPurchasedTabsSize then b.items s else none

/-! ## The reservation of places -/

variable (proto : ℕ → ItemTemplate)

/-- **`_ReserveSpace`**: as many items as a slot takes, but no more than are left. `dest` is what
the slot is taken to hold. Fails on a stack of another kind and on a full one; a slot that is
already reserved is passed over. -/
def reserveSpace (slotId : Fin guildBankMaxSlots) (item : Item) (dest : Option Item)
    (r : Reservation) : Bool × Reservation :=
  let maxStackCount := (proto item.entry).getMaxStackSize
  if dest.any fun d => d.entry ≠ item.entry || maxStackCount ≤ d.count then (false, r)
  else
    let requiredSpace := min (maxStackCount - (dest.map Item.count).getD 0) r.count
    if r.vec.any fun p => p.pos = slotId then (true, r)
    else (true, ⟨r.vec ++ [⟨slotId, requiredSpace⟩], r.count - requiredSpace⟩)

/-- The item's own slot is free for it. -/
def exceptSelf (item : Item) (dest : Option Item) : Option Item :=
  dest.filter fun d => d.guid ≠ item.guid

/-- **`CanStoreItemInTab`**: places in a tab's slots other than `skipSlotId`: those that hold
something when merging, and those that hold nothing otherwise. -/
def canStoreItemInTab (tab : Fin guildBankMaxTabs) (item : Item)
    (skipSlotId : Fin guildBankMaxSlots) (merge : Bool) (r : Reservation) :
    Reservation :=
  (List.finRange guildBankMaxSlots).foldl (fun r slotId =>
    if r.count = 0 then r
    else if slotId = skipSlotId then r
    else
      let dest := exceptSelf item (b.getItem (tab, slotId))
      if dest.isSome ≠ merge then r
      else (reserveSpace proto slotId item dest r).2) r

/-- **`BankMoveItemData::CanStore`**: places for all of an item's stack, first in the slot that
was named. With `swap`, what the slot holds is taken to be gone. -/
def canStore (dest : BankSlot) (item : Item) (swap : Bool) : InventoryResult × List ItemPosCount :=
  if item.soulBound then (.cantDropSoulbound, [])
  else if b.guild.getPurchasedTabsSize ≤ tabId dest.1 then (.itemDoesntGoIntoBag, [])
  else
    let itemDest := if swap then none else exceptSelf item (b.getItem dest)
    match reserveSpace proto dest.2 item itemDest ⟨[], item.count⟩ with
    | (false, r) => (.itemCantStack, r.vec)
    | (true, r) =>
      if r.count = 0 then (.ok, r.vec)
      else
        let r :=
          if 1 < (proto item.entry).getMaxStackSize then
            b.canStoreItemInTab proto dest.1 item dest.2 true r
          else r
        if r.count = 0 then (.ok, r.vec)
        else
          let r := b.canStoreItemInTab proto dest.1 item dest.2 false r
          if r.count = 0 then (.ok, r.vec) else (.bankFull, r.vec)

/-! ## Taking and storing -/

variable (player : Guid)

/-- **`BankMoveItemData::RemoveItem`**: a part of the stack, or the stack. An item that leaves its
tab counts as withdrawn. -/
def removeItem (src : BankSlot) (item : Item) (other : BankSlot) (splitedAmount : ℕ) : GuildBank :=
  let items :=
    if splitedAmount ≠ 0 then
      b.items.put src (some (item.setCount (item.count - splitedAmount)))
    else if tabId src.1 < b.guild.getPurchasedTabsSize then b.items.put src none
    else b.items
  let guild :=
    if other.1 ≠ src.1 then b.guild.updateMemberWithdrawSlots player src.1 else b.guild
  { b with guild := guild, items := items }

/-- **`BankMoveItemData::_StoreItem`**: adds to the stack in a slot, or fills an empty slot: with a
clone while there are more places to come, with the item itself at the last one. -/
def storeItemAt (tab : Fin guildBankMaxTabs) (item : Item) (pos : ItemPosCount) (clone : Bool) :
    GuildBank :=
  match b.getItem (tab, pos.pos) with
  | some itemDest =>
    { b with items :=
        b.items.put (tab, pos.pos) (some (itemDest.setCount (itemDest.count + pos.count))) }
  | none =>
    if clone then
      match item.cloneItem proto b.nextItemGuid pos.count with
      | none => b
      | some newItem =>
        { b with items := b.items.put (tab, pos.pos) (some newItem)
                 nextItemGuid := b.nextItemGuid + 1 }
    else { b with items := b.items.put (tab, pos.pos) (some (item.setCount pos.count)) }

/-- **`BankMoveItemData::StoreItem`**: the items at the reserved places, in their order. -/
def storeItem (b : GuildBank) (proto : ℕ → ItemTemplate) (tab : Fin guildBankMaxTabs)
    (item : Item) : List ItemPosCount → GuildBank
  | [] => b
  | [pos] => b.storeItemAt proto tab item pos false
  | pos :: rest => (b.storeItemAt proto tab item pos true).storeItem proto tab item rest

/-! ## The move -/

/-- **`Guild::_DoItemsMove`**: `item` goes from `src` to `dest`, and `destItem`, if there is one,
the other way. With a part of a stack, `item` is its clone and `srcItem` the stack. -/
def doItemsMove (src dest : BankSlot) (srcItem item : Item) (destItem : Option Item)
    (splitedAmount : ℕ) : Bool × GuildBank :=
  match b.canStore proto dest item destItem.isSome, destItem with
  | (.ok, vec), none =>
    (true, (b.removeItem player src srcItem dest splitedAmount).storeItem proto dest.1 item vec)
  | (.ok, vec), some destItem =>
    match b.canStore proto src destItem true with
    | (.ok, destVec) =>
      let b := b.removeItem player src srcItem dest splitedAmount
      let b := b.removeItem player dest destItem src 0
      let b := b.storeItem proto dest.1 item vec
      (true, b.storeItem proto src.1 destItem destVec)
    | _ => (false, b)
  | _, _ => (false, b)

/-- May the member put an item that comes from the slot `other` into a tab? -/
def hasStoreRights (dest other : BankSlot) : Bool :=
  other.1 = dest.1 ||
    b.guild.memberHasTabRights player (tabId dest.1) guildBankRightDepositItem

/-- May the member take an item that goes to the slot `other` out of a tab? -/
def hasWithdrawRights (src other : BankSlot) : Bool :=
  other.1 = src.1 || b.guild.hasWithdrawRights player (tabId src.1)

/-- **`Guild::_MoveItems`**: moves a part of a stack, merges a stack, or swaps two. -/
def moveItems (src dest : BankSlot) (splitedAmount : ℕ) : GuildBank :=
  match b.getItem src with
  | none => b
  | some item =>
    if item.count < splitedAmount then b
    else
      let splitedAmount := if splitedAmount = item.count then 0 else splitedAmount
      if !b.hasStoreRights player dest src then b
      else if !b.hasWithdrawRights player src dest then b
      else if splitedAmount ≠ 0 then
        match item.cloneItem proto b.nextItemGuid splitedAmount with
        | none => b
        | some clone =>
          let b := { b with nextItemGuid := b.nextItemGuid + 1 }
          (b.doItemsMove proto player src dest item clone none splitedAmount).2
      else
        match b.doItemsMove proto player src dest item item none 0 with
        | (true, b) => b
        | (false, b) =>
          match b.getItem dest with
          | none => b
          | some destItem =>
            if !b.hasStoreRights player src dest then b
            else if !b.hasWithdrawRights player dest src then b
            else (b.doItemsMove proto player src dest item item (some destItem) 0).2

/-- **`Guild::SwapItems`**: a move between two slots of the bank. -/
def swapItems (src dest : BankSlot) (splitedAmount : ℕ) : GuildBank :=
  if b.guild.getPurchasedTabsSize ≤ tabId src.1 ∨ b.guild.getPurchasedTabsSize ≤ tabId dest.1 then
    b
  else if src = dest then b
  else b.moveItems proto player src dest splitedAmount

end GuildBank

end TeraCore
