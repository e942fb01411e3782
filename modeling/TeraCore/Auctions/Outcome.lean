import TeraCore.Auctions.Posting

/-!
# Auctions: what one step can do

A step of the auction machine leaves the world as it is, or posts an auction, raises a bid, buys
an auction out, cancels it, ends it when its time is over, or starts the server again.  This file
says so once, with everything that has been checked on the way.

## Main results

* `AuctionWorld.step_outcome`: every step does one of them
-/

namespace TeraCore

open Commons

namespace AuctionWorld

/-- What is known of a stack that is put on sale: it was not on sale before, and it is either an
item the seller carries or a new object. -/
structure PostedItem (w : AuctionWorld) (seller : Character) (item : Item) (nextItemGuid : ℕ) :
    Prop where
  carried_or_new : (w.getAItem item.guid = none ∧ nextItemGuid = w.nextItemGuid ∧
      seller.inventory.getItemByGuid item.guid = some item) ∨
    (item.guid = w.nextItemGuid ∧ nextItemGuid = w.nextItemGuid + 1)

/-- **What a bid has passed.** -/
structure BidChecked (env : AuctionEnv) (a : AuctionEntry) (player : Guid) (bidder : Character)
    (price : BitVec 32) : Prop where
  owner_ne : a.owner ≠ player
  bid_lt : a.bid < price
  startbid_le : a.startbid ≤ price
  outbid_le : price < a.buyout ∨ a.buyout = 0 → a.bid + env.getAuctionOutBid a ≤ price
  affordable : price ≤ bidder.money

/-- **The things a step can do.** -/
inductive Outcome (env : AuctionEnv) (w : AuctionWorld) : Moment × Op → AuctionWorld → Prop
  | same (op : Moment × Op) : Outcome env w op w
  | post (m : Moment) (player : Guid) (pkt : AuctionSellItem) (seller : Character)
      (house : AuctionHouse) (a : AuctionEntry) (item : Item) (left : Inventory)
      (nextItemGuid : ℕ) (hseller : w.characters.find? player = some seller)
      (hitem : PostedItem w seller item nextItemGuid)
      (hleft : ∀ g i, left.getItemByGuid g = some i →
        ∃ j, seller.inventory.getItemByGuid g = some j)
      (hid : a.id = w.nextAuctionId) (hguid : a.itemGuidlow = item.guid)
      (howner : a.owner = player) (hbid : a.bid = 0) (hbidder : a.bidder = 0)
      (hdeposit : a.deposit ≤ seller.money) :
      Outcome env w (m, .sellItem player pkt)
        (({ w.modifyMoney player (-a.deposit) with nextItemGuid := nextItemGuid }.putOnSale house
          a item).setInventory player left)
  | raise (m : Moment) (player : Guid) (pkt : AuctionPlaceBid) (house : AuctionHouse)
      (a : AuctionEntry) (bidder : Character) (honline : m.online player = true)
      (hbidder : w.characters.find? player = some bidder)
      (ha : (w.auctions house).find? pkt.auctionId = some a)
      (hchecked : BidChecked env a player bidder pkt.price)
      (hlow : pkt.price < a.buyout ∨ a.buyout = 0) :
      Outcome env w (m, .placeBid player pkt) (w.raiseBid env m house a player pkt.price)
  | buyout (m : Moment) (player : Guid) (pkt : AuctionPlaceBid) (house : AuctionHouse)
      (a : AuctionEntry) (bidder : Character) (honline : m.online player = true)
      (hbidder : w.characters.find? player = some bidder)
      (ha : (w.auctions house).find? pkt.auctionId = some a)
      (hchecked : BidChecked env a player bidder pkt.price)
      (hhigh : a.buyout ≠ 0 ∧ a.buyout ≤ pkt.price) :
      Outcome env w (m, .placeBid player pkt) (w.buyOut env m house a player)
  | cancel (m : Moment) (player : Guid) (pkt : AuctionRemoveItem) (house : AuctionHouse)
      (a : AuctionEntry) (owner : Character) (item : Item) (honline : m.online player = true)
      (hcharacter : w.characters.find? player = some owner)
      (ha : (w.auctions house).find? pkt.auctionId = some a) (howner : a.owner = player)
      (hitem : w.getAItem a.itemGuidlow = some item)
      (hcut : 0 < a.bidder → env.getAuctionCut a ≤ owner.money) :
      Outcome env w (m, .removeItem player pkt) (w.cancelAuction env m house a player item)
  | expire (m : Moment) (house : AuctionHouse) (id stale : ℕ) (a : AuctionEntry)
      (ha : (w.auctions house).find? id = some a) :
      Outcome env w (m, .expire house id stale)
        (((w.sendEndMails env m a).removeAuction house a).removeAItem stale)
  | startup (m : Moment) : Outcome env w (m, .startup) (w.startup env m)

variable {env : AuctionEnv} {w : AuctionWorld} {m : Moment} {player : Guid}

theorem mem_of_mem_foldl_reduceStack {items : List (ℕ × BitVec 32)} {inv : Inventory} {g : ℕ}
    {i : Item} (h : (items.foldl reduceStack inv).getItemByGuid g = some i) :
    ∃ j, inv.getItemByGuid g = some j := by
  induction items generalizing inv with
  | nil => exact ⟨i, h⟩
  | cons p items ih =>
    obtain ⟨j, hj⟩ := ih h
    unfold reduceStack at hj
    cases hitem : inv.getItemByGuid p.1 with
    | none =>
      rw [hitem] at hj
      exact ⟨j, hj⟩
    | some item =>
      rw [hitem] at hj
      dsimp only at hj
      split_ifs at hj with hall
      · rw [Inventory.getItemByGuid, Inventory.find?_moveItemFromInventory] at hj
        split_ifs at hj
        exact ⟨j, hj⟩
      · rw [Inventory.getItemByGuid, Inventory.find?_setItemCount hitem] at hj
        split_ifs at hj with hg
        · exact ⟨item, hg ▸ hitem⟩
        · exact ⟨j, hj⟩

theorem with_nextItemGuid (w : AuctionWorld) (guid : Guid) (d : BitVec 32) :
    { w.modifyMoney guid d with nextItemGuid := w.nextItemGuid } = w.modifyMoney guid d := by
  conv_lhs => rw [← nextItemGuid_modifyMoney w guid d]

theorem handleAuctionSellItem_of_none {pkt : AuctionSellItem}
    (h : w.characters.find? player = none) :
    (w.handleAuctionSellItem env m player pkt).world = w := by
  unfold handleAuctionSellItem
  rw [h]
  repeat' first | rfl | split

theorem sellItem_outcome (pkt : AuctionSellItem) :
    Outcome env w (m, .sellItem player pkt) (w.handleAuctionSellItem env m player pkt).world := by
  cases hseller : w.characters.find? player with
  | none =>
    rw [handleAuctionSellItem_of_none hseller]
    exact .same _
  | some seller =>
    by_cases hok : (w.handleAuctionSellItem env m player pkt).answer = some .ok
    · rcases handleAuctionSellItem_cases hseller with ⟨-, hanswer⟩ |
        ⟨faction, entry, item, p, rest, hitems, hchecked, hitem, heq⟩
      · exact absurd hok hanswer
      rw [heq] at hok ⊢
      obtain ⟨item', hitem', -, hunsold⟩ := hchecked.found p (hitems ▸ List.mem_cons_self)
      cases hitem.symm.trans hitem'
      have hguid : item.guid = p.1 := seller.inventory.keyed p.1 item hitem
      unfold postAuction at hok ⊢
      by_cases hmoney : ¬ seller.hasEnoughMoney (env.getAuctionDeposit entry
          (pkt.etime * 60).toNat item (finalCount pkt.items).toNat) = true
      · rw [if_pos hmoney]
        exact .same _
      have hdeposit := of_decide_eq_true (not_not.mp hmoney)
      rw [if_neg hmoney] at hok ⊢
      by_cases hwhole : pkt.items.length = 1 ∧ item.count = p.2.toNat
      · rw [if_pos hwhole]
        rw [← with_nextItemGuid]
        refine .post m player pkt seller _ (w.newAuction env m player pkt entry _ item) item _
          w.nextItemGuid hseller ⟨.inl ⟨hunsold, rfl, hguid ▸ hitem⟩⟩ ?_ rfl rfl rfl rfl rfl
          hdeposit
        intro g i hi
        rw [Inventory.getItemByGuid, Inventory.find?_moveItemFromInventory] at hi
        split_ifs at hi
        exact ⟨i, hi⟩
      · rw [if_neg hwhole] at hok ⊢
        cases hclone : item.cloneItem env.proto w.nextItemGuid (finalCount pkt.items).toNat with
        | none =>
          rw [hclone] at hok
          cases hok
        | some newItem =>
          refine .post m player pkt seller _ (w.newAuction env m player pkt entry _ newItem)
            newItem _ (w.nextItemGuid + 1) hseller ⟨.inr ⟨?_, rfl⟩⟩ ?_ rfl rfl rfl rfl rfl
            hdeposit
          · unfold Item.cloneItem at hclone
            split_ifs at hclone
            cases hclone
            rfl
          · intro g i hi
            exact mem_of_mem_foldl_reduceStack hi
    · rw [handleAuctionSellItem_rejected hseller hok]
      exact .same _

theorem placeBid_outcome (hm : m.online player = true) (pkt : AuctionPlaceBid) :
    Outcome env w (m, .placeBid player pkt) (w.handleAuctionPlaceBid env m player pkt).world := by
  unfold handleAuctionPlaceBid
  by_cases hzero : pkt.auctionId = 0 ∨ pkt.price = 0
  · rw [if_pos hzero]
    exact .same _
  rw [if_neg hzero]
  cases hnpc : env.npcFaction player pkt.auctioneer with
  | none => exact .same _
  | some faction =>
    cases hplayer : w.characters.find? player with
    | none => exact .same _
    | some bidder =>
      dsimp only
      cases ha : (w.auctions (env.getAuctionsMap faction)).find? pkt.auctionId with
      | none => exact .same _
      | some a =>
        dsimp only
        by_cases howner : a.owner = player
        · rw [if_pos howner]
          exact .same _
        by_cases haccount : (w.findPlayer m a.owner).isNone = true ∧
            w.getPlayerAccountIdByGUID a.owner = bidder.account
        · rw [if_neg howner, if_pos haccount]
          exact .same _
        by_cases hlow : pkt.price ≤ a.bid ∨ pkt.price < a.startbid
        · rw [if_neg howner, if_neg haccount, if_pos hlow]
          exact .same _
        by_cases hraise : (pkt.price < a.buyout ∨ a.buyout = 0) ∧
            pkt.price < a.bid + env.getAuctionOutBid a
        · rw [if_neg howner, if_neg haccount, if_neg hlow, if_pos hraise]
          exact .same _
        by_cases hmoney : ¬ bidder.hasEnoughMoney pkt.price = true
        · rw [if_neg howner, if_neg haccount, if_neg hlow, if_neg hraise, if_pos hmoney]
          exact .same _
        rw [if_neg howner, if_neg haccount, if_neg hlow, if_neg hraise, if_neg hmoney]
        have hchecked : BidChecked env a player bidder pkt.price := by
          rw [not_or, BitVec.not_le, BitVec.not_lt] at hlow
          refine ⟨howner, hlow.1, hlow.2, fun hkind => ?_, ?_⟩
          · exact BitVec.not_lt.mp fun hlt => hraise ⟨hkind, hlt⟩
          · exact of_decide_eq_true (not_not.mp hmoney)
        by_cases hkind : pkt.price < a.buyout ∨ a.buyout = 0
        · rw [if_pos hkind]
          exact .raise m player pkt _ a bidder hm hplayer ha hchecked hkind
        · rw [if_neg hkind]
          rw [not_or, BitVec.not_lt] at hkind
          exact .buyout m player pkt _ a bidder hm hplayer ha hchecked ⟨hkind.2, hkind.1⟩

theorem removeItem_outcome (hm : m.online player = true) (pkt : AuctionRemoveItem) :
    Outcome env w (m, .removeItem player pkt)
      (w.handleAuctionRemoveItem env m player pkt).world := by
  unfold handleAuctionRemoveItem
  cases hnpc : env.npcFaction player pkt.auctioneer with
  | none => exact .same _
  | some faction =>
    cases hplayer : w.characters.find? player with
    | none => exact .same _
    | some owner =>
      dsimp only
      cases ha : (w.auctions (env.getAuctionsMap faction)).find? pkt.auctionId with
      | none => exact .same _
      | some a =>
        dsimp only
        by_cases howner : a.owner = player
        · rw [if_pos howner]
          cases hitem : w.getAItem a.itemGuidlow with
          | none => exact .same _
          | some item =>
            split_ifs with hcut
            · exact .same _
            · refine .cancel m player pkt _ a owner item hm hplayer ha howner hitem fun hpos => ?_
              rw [not_and, not_not] at hcut
              exact of_decide_eq_true (hcut hpos)
        · rw [if_neg howner]
          exact .same _

theorem step_outcome (env : AuctionEnv) (w : AuctionWorld) (op : Moment × Op) :
    Outcome env w op (step env w op) := by
  obtain ⟨m, op⟩ := op
  cases op with
  | sellItem player pkt =>
    unfold step
    dsimp only
    split_ifs with hm
    · exact sellItem_outcome pkt
    · exact .same _
  | placeBid player pkt =>
    unfold step
    dsimp only
    split_ifs with hm
    · exact placeBid_outcome hm pkt
    · exact .same _
  | removeItem player pkt =>
    unfold step
    dsimp only
    split_ifs with hm
    · exact removeItem_outcome hm pkt
    · exact .same _
  | expire house id stale =>
    unfold step endExpired
    dsimp only
    cases ha : (w.auctions house).find? id with
    | none => exact .same _
    | some a => exact .expire m house id stale a ha
  | startup => exact .startup m

end AuctionWorld

end TeraCore
