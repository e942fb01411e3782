import TeraCore.Guilds.Bank

/-!
# Guilds: moves between the bank and a player's inventory

A move has two ends, each a slot of the bank or a place in the player's inventory.  The same code
moves items between any two ends: an end says what it holds, what its player may do there, and
whether there is room.  An item that leaves a tab of the bank, for another tab or for the
inventory, is a withdrawal from that tab.

Of an inventory there is only what it answers.

## Main results

* `GuildBank.moveItemsBetween_bank`: between two slots of the bank it is `GuildBank.moveItems`
* `GuildBank.moveItemsBetween_withdraws`: what a move does to the guild
-/

namespace TeraCore

open Commons

/-- **What a move asks of a player's inventory.** -/
structure InventorySide where
  /-- The item at the place, if it can be traded and is no bag with something in it. -/
  item : Option Item
  /-- Is there room for an item, at the place or in the bag; and when the place is emptied first? -/
  canStore : Item → Bool → Bool

/-- **An end of a move.**  A bank tab without a slot stands for all of its slots. -/
inductive MoveItemData where
  | bank (tab : Fin guildBankMaxTabs) (slot : Option (Fin guildBankMaxSlots))
  | inventory (side : InventorySide)

def MoveItemData.isInTab (tab : Fin guildBankMaxTabs) : MoveItemData → Bool
  | .bank tab' _ => tab' = tab
  | .inventory _ => false

namespace GuildBank

variable (b : GuildBank) (proto : ℕ → ItemTemplate) (player : Guid)

/-- `InitItem`: what an end holds. -/
def initItem : MoveItemData → Option Item
  | .bank tab (some slot) => b.getItem (tab, slot)
  | .bank _ none => none
  | .inventory side => side.item

/-- `HasStoreRights`, for an item from the other end. -/
def hasStoreRightsAt (dest other : MoveItemData) : Bool :=
  match dest with
  | .bank tab _ =>
    other.isInTab tab || b.guild.memberHasTabRights player (tabId tab) guildBankRightDepositItem
  | .inventory _ => true

/-- `HasWithdrawRights`, for an item to the other end. -/
def hasWithdrawRightsAt (src other : MoveItemData) : Bool :=
  match src with
  | .bank tab _ => other.isInTab tab || b.guild.hasWithdrawRights player (tabId tab)
  | .inventory _ => true

/-- `CanStoreItemInTab` without a slot to skip. -/
def canStoreItemAnywhere (tab : Fin guildBankMaxTabs) (item : Item) (merge : Bool)
    (r : Reservation) : Reservation :=
  (List.finRange guildBankMaxSlots).foldl (fun r slotId =>
    if r.count = 0 then r
    else
      let dest := exceptSelf item (b.getItem (tab, slotId))
      if dest.isSome ≠ merge then r
      else (reserveSpace proto slotId item dest r).2) r

/-- `CanStore` of a tab for which no slot was named. -/
def canStoreInTab (tab : Fin guildBankMaxTabs) (item : Item) :
    InventoryResult × List ItemPosCount :=
  if item.soulBound then (.cantDropSoulbound, [])
  else if b.guild.getPurchasedTabsSize ≤ tabId tab then (.itemDoesntGoIntoBag, [])
  else
    let r : Reservation := ⟨[], item.count⟩
    let r :=
      if 1 < (proto item.entry).getMaxStackSize then b.canStoreItemAnywhere proto tab item true r
      else r
    if r.count = 0 then (.ok, r.vec)
    else
      let r := b.canStoreItemAnywhere proto tab item false r
      if r.count = 0 then (.ok, r.vec) else (.bankFull, r.vec)

/-- `CanStore`: the places an end has for an item, if there are enough. -/
def canStoreAt (dest : MoveItemData) (item : Item) (swap : Bool) : Option (List ItemPosCount) :=
  match dest with
  | .bank tab (some slot) =>
    match b.canStore proto (tab, slot) item swap with
    | (.ok, vec) => some vec
    | _ => none
  | .bank tab none =>
    match b.canStoreInTab proto tab item with
    | (.ok, vec) => some vec
    | _ => none
  | .inventory side => if side.canStore item swap then some [] else none

/-- `RemoveItem`: the bank without a stack or a part of it, and the tab from which it was
withdrawn. -/
def removeItemAt (src : MoveItemData) (item : Item) (other : MoveItemData) (splitedAmount : ℕ) :
    GuildBank × List (Fin guildBankMaxTabs) :=
  match src with
  | .bank tab (some slot) =>
    let items :=
      if splitedAmount ≠ 0 then
        b.items.put (tab, slot) (some (item.setCount (item.count - splitedAmount)))
      else if tabId tab < b.guild.getPurchasedTabsSize then b.items.put (tab, slot) none
      else b.items
    if other.isInTab tab then ({ b with items := items }, [])
    else
      ({ b with guild := b.guild.updateMemberWithdrawSlots player tab, items := items }, [tab])
  | .bank _ none | .inventory _ => (b, [])

/-- `StoreItem`. -/
def storeItemInto (dest : MoveItemData) (item : Item) (vec : List ItemPosCount) : GuildBank :=
  match dest with
  | .bank tab _ => b.storeItem proto tab item vec
  | .inventory _ => b

/-- `_DoItemsMove`, `none` when there is no room.  With a part of a stack, `item` is its clone and
`srcItem` the stack. -/
def doItemsMoveBetween (src dest : MoveItemData) (srcItem item : Item) (destItem : Option Item)
    (splitedAmount : ℕ) : Option (GuildBank × List (Fin guildBankMaxTabs)) :=
  match b.canStoreAt proto dest item destItem.isSome, destItem with
  | none, _ => none
  | some vec, none =>
    let (b, tabs) := b.removeItemAt player src srcItem dest splitedAmount
    some (b.storeItemInto proto dest item vec, tabs)
  | some vec, some destItem =>
    match b.canStoreAt proto src destItem true with
    | none => none
    | some destVec =>
      let (b, tabs) := b.removeItemAt player src srcItem dest splitedAmount
      let (b, destTabs) := b.removeItemAt player dest destItem src 0
      let b := b.storeItemInto proto dest item vec
      some (b.storeItemInto proto src destItem destVec, tabs ++ destTabs)

/-- **`Guild::_MoveItems`**, between any two ends: the bank after it, and the tabs from which items
were withdrawn. -/
def moveItemsBetween (src dest : MoveItemData) (splitedAmount : ℕ) :
    GuildBank × List (Fin guildBankMaxTabs) :=
  match b.initItem src with
  | none => (b, [])
  | some item =>
    if item.count < splitedAmount then (b, [])
    else
      let splitedAmount := if splitedAmount = item.count then 0 else splitedAmount
      if !b.hasStoreRightsAt player dest src then (b, [])
      else if !b.hasWithdrawRightsAt player src dest then (b, [])
      else if splitedAmount ≠ 0 then
        match item.cloneItem proto b.nextItemGuid splitedAmount with
        | none => (b, [])
        | some clone =>
          let b := { b with nextItemGuid := b.nextItemGuid + 1 }
          (b.doItemsMoveBetween proto player src dest item clone none splitedAmount).getD (b, [])
      else
        match b.doItemsMoveBetween proto player src dest item item none 0 with
        | some moved => moved
        | none =>
          match b.initItem dest with
          | none => (b, [])
          | some destItem =>
            if !b.hasStoreRightsAt player src dest then (b, [])
            else if !b.hasWithdrawRightsAt player dest src then (b, [])
            else
              (b.doItemsMoveBetween proto player src dest item item (some destItem) 0).getD (b, [])

/-- **`Guild::SwapItemsWithInventory`**: a move from the bank to the inventory (`toChar`), or the
other way. -/
def swapItemsWithInventory (toChar : Bool) (tab : Fin guildBankMaxTabs)
    (slot : Option (Fin guildBankMaxSlots)) (side : InventorySide) (splitedAmount : ℕ) :
    GuildBank × List (Fin guildBankMaxTabs) :=
  if b.guild.getPurchasedTabsSize ≤ tabId tab then (b, [])
  else if toChar then
    b.moveItemsBetween proto player (.bank tab slot) (.inventory side) splitedAmount
  else b.moveItemsBetween proto player (.inventory side) (.bank tab slot) splitedAmount

def swapItemsWithdraws (src dest : BankSlot) (splitedAmount : ℕ) : List (Fin guildBankMaxTabs) :=
  if b.guild.getPurchasedTabsSize ≤ tabId src.1 ∨ b.guild.getPurchasedTabsSize ≤ tabId dest.1 then
    []
  else if src = dest then []
  else
    (b.moveItemsBetween proto player (.bank src.1 (some src.2)) (.bank dest.1 (some dest.2))
      splitedAmount).2

/-! ## Moves within the bank -/

section

variable (src dest : BankSlot)

theorem removeItemAt_bank (item : Item) (n : ℕ) :
    (b.removeItemAt player (.bank src.1 (some src.2)) item (.bank dest.1 (some dest.2)) n).1 =
      b.removeItem player src item dest n := by
  by_cases htab : dest.1 = src.1
  · simp [removeItemAt, removeItem, MoveItemData.isInTab, htab]
  · simp [removeItemAt, removeItem, MoveItemData.isInTab, htab]

theorem canStoreAt_bank (item : Item) (swap : Bool) :
    b.canStoreAt proto (.bank dest.1 (some dest.2)) item swap =
      if (b.canStore proto dest item swap).1 = .ok then some (b.canStore proto dest item swap).2
      else none := by
  unfold canStoreAt
  dsimp only
  rcases b.canStore proto dest item swap with ⟨_ | _, vec⟩ <;> rfl

theorem doItemsMoveBetween_bank (srcItem item : Item) (destItem : Option Item) (n : ℕ) :
    b.doItemsMove proto player src dest srcItem item destItem n =
      ((b.doItemsMoveBetween proto player (.bank src.1 (some src.2)) (.bank dest.1 (some dest.2))
        srcItem item destItem n).map Prod.fst).elim (false, b) (Prod.mk true) := by
  unfold doItemsMoveBetween doItemsMove
  rw [canStoreAt_bank]
  rcases hstore : b.canStore proto dest item destItem.isSome with ⟨result, vec⟩
  by_cases hresult : result = .ok
  · subst hresult
    cases destItem with
    | none => simp [← removeItemAt_bank, storeItemInto]
    | some destItem =>
      rw [if_pos rfl]
      dsimp only
      rw [canStoreAt_bank]
      rcases hback : b.canStore proto src destItem true with ⟨result, destVec⟩
      by_cases hresult : result = .ok
      · subst hresult
        simp [← removeItemAt_bank, storeItemInto]
      · cases result <;> first | exact absurd rfl hresult | rfl
  · cases result <;> first | exact absurd rfl hresult | rfl

theorem moveItemsBetween_bank (splitedAmount : ℕ) :
    (b.moveItemsBetween proto player (.bank src.1 (some src.2)) (.bank dest.1 (some dest.2))
      splitedAmount).1 = b.moveItems proto player src dest splitedAmount := by
  -- Both ends are slots: what is asked of them is what is asked of the slots.
  have hrights : ∀ s o : BankSlot,
      b.hasStoreRightsAt player (.bank s.1 (some s.2)) (.bank o.1 (some o.2)) =
        b.hasStoreRights player s o ∧
      b.hasWithdrawRightsAt player (.bank s.1 (some s.2)) (.bank o.1 (some o.2)) =
        b.hasWithdrawRights player s o := fun _ _ => ⟨rfl, rfl⟩
  unfold moveItemsBetween moveItems
  rw [show b.initItem (.bank src.1 (some src.2)) = b.getItem src from rfl,
    show b.initItem (.bank dest.1 (some dest.2)) = b.getItem dest from rfl]
  cases hitem : b.getItem src with
  | none => rfl
  | some item =>
    dsimp only
    rw [(hrights dest src).1, (hrights src dest).2, (hrights src dest).1, (hrights dest src).2]
    by_cases hcount : item.count < splitedAmount
    · rw [if_pos hcount, if_pos hcount]
    rw [if_neg hcount, if_neg hcount]
    generalize (if splitedAmount = item.count then 0 else splitedAmount) = n
    by_cases hstore : (!b.hasStoreRights player dest src) = true
    · rw [if_pos hstore, if_pos hstore]
    rw [if_neg hstore, if_neg hstore]
    by_cases hwithdraw : (!b.hasWithdrawRights player src dest) = true
    · rw [if_pos hwithdraw, if_pos hwithdraw]
    rw [if_neg hwithdraw, if_neg hwithdraw]
    by_cases hsplit : n ≠ 0
    · rw [if_pos hsplit, if_pos hsplit]
      cases item.cloneItem proto b.nextItemGuid n with
      | none => rfl
      | some clone =>
        dsimp only
        rw [doItemsMoveBetween_bank]
        cases doItemsMoveBetween _ proto player (.bank src.1 (some src.2))
          (.bank dest.1 (some dest.2)) item clone none n <;> rfl
    · rw [if_neg hsplit, if_neg hsplit, doItemsMoveBetween_bank]
      cases b.doItemsMoveBetween proto player (.bank src.1 (some src.2))
          (.bank dest.1 (some dest.2)) item item none 0 with
      | some moved => rfl
      | none =>
        dsimp only [Option.map_none, Option.elim_none]
        cases b.getItem dest with
        | none => rfl
        | some destItem =>
          dsimp only
          rw [doItemsMoveBetween_bank]
          split_ifs
          · rfl
          · rfl
          · cases b.doItemsMoveBetween proto player (.bank src.1 (some src.2))
              (.bank dest.1 (some dest.2)) item item (some destItem) 0 <;> rfl

end

/-! ## The guild after a move -/

structure Withdraws (g : Guild) (player : Guid) (src dest : MoveItemData)
    (moved : GuildBank × List (Fin guildBankMaxTabs)) : Prop where
  guild : moved.1.guild = moved.2.foldl (fun g tab => g.updateMemberWithdrawSlots player tab) g
  nodup : moved.2.Nodup
  rights : ∀ tab ∈ moved.2, g.hasWithdrawRights player (tabId tab) = true
  ends : ∀ tab ∈ moved.2, src.isInTab tab ≠ dest.isInTab tab

variable {b proto player} {src dest : MoveItemData}

theorem Withdraws.none {moved : GuildBank} (h : moved.guild = b.guild) :
    Withdraws b.guild player src dest (moved, []) :=
  ⟨h, List.nodup_nil, by simp, by simp⟩

theorem storeItem_guild (item : Item) (tab : Fin guildBankMaxTabs) (vec : List ItemPosCount)
    (b : GuildBank) : (b.storeItem proto tab item vec).guild = b.guild := by
  have hone : ∀ (b : GuildBank) (pos : ItemPosCount) (clone : Bool),
      (b.storeItemAt proto tab item pos clone).guild = b.guild := by
    intro b pos clone
    unfold storeItemAt
    cases b.getItem (tab, pos.pos) with
    | some itemDest => rfl
    | none =>
      cases clone with
      | false => rfl
      | true =>
        cases item.cloneItem proto b.nextItemGuid pos.count <;> rfl
  fun_induction storeItem b proto tab item vec with
  | case1 b => rfl
  | case2 b pos => exact hone b pos false
  | case3 b pos rest hne ih => rw [ih, hone]

theorem storeItemInto_guild (item : Item) (vec : List ItemPosCount) :
    (b.storeItemInto proto dest item vec).guild = b.guild := by
  cases dest with
  | bank tab slot => exact storeItem_guild item tab vec b
  | inventory side => rfl

theorem removeItemAt_cases (b : GuildBank) (player : Guid) (src other : MoveItemData) (item : Item)
    (n : ℕ) :
    ((b.removeItemAt player src item other n).2 = [] ∧
        (b.removeItemAt player src item other n).1.guild = b.guild) ∨
      ∃ tab, (b.removeItemAt player src item other n).2 = [tab] ∧
        src.isInTab tab = true ∧ other.isInTab tab = false ∧
        (b.removeItemAt player src item other n).1.guild =
          b.guild.updateMemberWithdrawSlots player tab := by
  cases src with
  | inventory side => exact .inl ⟨rfl, rfl⟩
  | bank tab slot =>
    cases slot with
    | none => exact .inl ⟨rfl, rfl⟩
    | some slot =>
      simp only [removeItemAt]
      cases hother : other.isInTab tab with
      | true => exact .inl ⟨rfl, rfl⟩
      | false => exact .inr ⟨tab, rfl, by simp [MoveItemData.isInTab], hother, rfl⟩

theorem hasWithdrawRights_of_at {other : MoveItemData} {tab : Fin guildBankMaxTabs}
    (h : b.hasWithdrawRightsAt player src other = true) (hsrc : src.isInTab tab = true)
    (hother : other.isInTab tab = false) : b.guild.hasWithdrawRights player (tabId tab) = true := by
  cases src with
  | inventory side => cases hsrc
  | bank tab' slot =>
    obtain rfl : tab' = tab := by simpa [MoveItemData.isInTab] using hsrc
    simpa [hasWithdrawRightsAt, hother] using h

theorem doItemsMoveBetween_withdraws {srcItem item : Item} {destItem : Option Item} {n : ℕ}
    {moved : GuildBank × List (Fin guildBankMaxTabs)}
    (h : b.doItemsMoveBetween proto player src dest srcItem item destItem n = some moved)
    (hsrc : b.hasWithdrawRightsAt player src dest = true)
    (hdest : destItem ≠ none → b.hasWithdrawRightsAt player dest src = true) :
    Withdraws b.guild player src dest moved := by
  unfold doItemsMoveBetween at h
  cases hvec : b.canStoreAt proto dest item destItem.isSome with
  | none =>
    rw [hvec] at h
    cases h
  | some vec =>
    rw [hvec] at h
    have hfirst := removeItemAt_cases b player src dest srcItem n
    cases destItem with
    | none =>
      simp only [Option.some.injEq] at h
      subst h
      rcases hfirst with ⟨htabs, hguild⟩ | ⟨tab, htabs, hin, hout, hguild⟩
      · rw [htabs]
        exact .none ((storeItemInto_guild _ _).trans hguild)
      · refine ⟨?_, ?_, ?_, ?_⟩
        · simp [htabs, storeItemInto_guild, hguild]
        · simp [htabs]
        · simpa [htabs] using hasWithdrawRights_of_at hsrc hin hout
        · simp [htabs, hin, hout]
    | some destItem =>
      cases hback : b.canStoreAt proto src destItem true with
      | none =>
        dsimp only at h
        rw [hback] at h
        cases h
      | some destVec =>
        dsimp only at h
        rw [hback] at h
        simp only [Option.some.injEq] at h
        subst h
        have hsecond := removeItemAt_cases (b.removeItemAt player src srcItem dest n).1 player dest
          src destItem 0
        have hdest := hdest (by simp)
        rcases hfirst with ⟨htabs, hguild⟩ | ⟨tab, htabs, hin, hout, hguild⟩ <;>
          rcases hsecond with ⟨htabs', hguild'⟩ | ⟨tab', htabs', hin', hout', hguild'⟩
        · rw [htabs, htabs']
          exact .none (by rw [storeItemInto_guild, storeItemInto_guild, hguild', hguild])
        · refine ⟨?_, ?_, ?_, ?_⟩
          · simp [htabs, htabs', storeItemInto_guild, hguild', hguild]
          · simp [htabs, htabs']
          · simpa [htabs, htabs'] using hasWithdrawRights_of_at hdest hin' hout'
          · simp [htabs, htabs', hin', hout']
        · refine ⟨?_, ?_, ?_, ?_⟩
          · simp [htabs, htabs', storeItemInto_guild, hguild', hguild]
          · simp [htabs, htabs']
          · simpa [htabs, htabs'] using hasWithdrawRights_of_at hsrc hin hout
          · simp [htabs, htabs', hin, hout]
        · have hne : tab ≠ tab' := by
            rintro rfl
            simp [hin] at hout'
          refine ⟨?_, ?_, ?_, ?_⟩
          · simp [htabs, htabs', storeItemInto_guild, hguild', hguild]
          · simp [htabs, htabs', hne]
          · simpa [htabs, htabs'] using ⟨hasWithdrawRights_of_at hsrc hin hout,
              hasWithdrawRights_of_at hdest hin' hout'⟩
          · simp [htabs, htabs', hin, hout, hin', hout']

theorem moveItemsBetween_withdraws (b : GuildBank) (proto : ℕ → ItemTemplate) (player : Guid)
    (src dest : MoveItemData) (splitedAmount : ℕ) :
    Withdraws b.guild player src dest (b.moveItemsBetween proto player src dest splitedAmount) := by
  have hsame : Withdraws b.guild player src dest (b, []) := .none rfl
  unfold moveItemsBetween
  cases b.initItem src with
  | none => exact hsame
  | some item =>
    dsimp only
    by_cases hcount : item.count < splitedAmount
    · rwa [if_pos hcount]
    rw [if_neg hcount]
    generalize (if splitedAmount = item.count then 0 else splitedAmount) = n
    by_cases hstore : (!b.hasStoreRightsAt player dest src) = true
    · rwa [if_pos hstore]
    rw [if_neg hstore]
    by_cases hwithdraw : (!b.hasWithdrawRightsAt player src dest) = true
    · rwa [if_pos hwithdraw]
    rw [if_neg hwithdraw]
    have hsrc : b.hasWithdrawRightsAt player src dest = true := by simpa using hwithdraw
    by_cases hsplit : n ≠ 0
    · rw [if_pos hsplit]
      cases item.cloneItem proto b.nextItemGuid n with
      | none => exact hsame
      | some clone =>
        dsimp only
        cases hmove : doItemsMoveBetween { b with nextItemGuid := b.nextItemGuid + 1 } proto player
          src dest item clone none n with
        | none => exact .none rfl
        | some moved =>
          have hmoved := doItemsMoveBetween_withdraws hmove hsrc fun hne => absurd rfl hne
          exact hmoved
    · rw [if_neg hsplit]
      cases hmerge : b.doItemsMoveBetween proto player src dest item item none 0 with
      | some moved => exact doItemsMoveBetween_withdraws hmerge hsrc (by simp)
      | none =>
        cases b.initItem dest with
        | none => exact hsame
        | some destItem =>
          dsimp only
          by_cases hstore : (!b.hasStoreRightsAt player src dest) = true
          · rwa [if_pos hstore]
          rw [if_neg hstore]
          by_cases hdest : (!b.hasWithdrawRightsAt player dest src) = true
          · rwa [if_pos hdest]
          rw [if_neg hdest]
          cases hswap : b.doItemsMoveBetween proto player src dest item item (some destItem) 0 with
          | none => exact hsame
          | some moved =>
            exact doItemsMoveBetween_withdraws hswap hsrc fun _ => by simpa using hdest

end GuildBank

end TeraCore
