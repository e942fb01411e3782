import TeraCore.Auctions.AuctionHouse
import TeraCore.Commons.Run
import Mathlib.Data.BitVec

/-!
# Auctions: what happens to them

An auction is posted by a player, bid on, bought out or cancelled by the players' packets, and
ended by the house when its time is over.  Auctions whose time was over while the server was down
are ended at startup, before the houses are loaded.

## Main definitions

* `AuctionWorld.handleAuctionSellItem`, `AuctionWorld.handleAuctionPlaceBid`,
  `AuctionWorld.handleAuctionRemoveItem`: the handlers of the packets
* `AuctionWorld.endExpired`, `AuctionWorld.update`: one turn of the house's loop, and the loop
* `AuctionWorld.startup`: the ending of the expired auctions, and the loading of the others
* `AuctionWorld.step`: one step of the machine made of all of them
-/

namespace TeraCore

open Commons

def maxAuctionItems : ℕ := 160
def minAuctionTime : ℕ := 12 * 3600

inductive AuctionError where
  | ok
  | internalError
  | notEnoughtMoney
  | itemNotFound
  | cannotBidYourAuction
  deriving DecidableEq

/-- What a handler leaves, and what it answers, if it answers at all. -/
structure AuctionReply where
  world : AuctionWorld
  answer : Option AuctionError

/-- `CMSG_AUCTION_SELL_ITEM`. The counts, the bids and the time are unsigned 32-bit words. -/
structure AuctionSellItem where
  auctioneer : Guid
  items : List (ℕ × BitVec 32)
  bid : BitVec 32
  buyout : BitVec 32
  etime : BitVec 32

/-- `CMSG_AUCTION_PLACE_BID`. -/
structure AuctionPlaceBid where
  auctioneer : Guid
  auctionId : ℕ
  price : BitVec 32

/-- `CMSG_AUCTION_REMOVE_ITEM`. -/
structure AuctionRemoveItem where
  auctioneer : Guid
  auctionId : ℕ

namespace AuctionWorld

/-! ## Posting -/

variable (w : AuctionWorld) (env : AuctionEnv)

/-- The checks on one listed item: what stops it from being sold, if anything does. -/
def sellItemError (inv : Inventory) (p : ℕ × BitVec 32) : Option AuctionError :=
  match inv.getItemByGuid p.1 with
  | none => some .itemNotFound
  | some item =>
    if (w.getAItem item.guid).isSome ∨ ¬ env.canBeTraded item ∨ env.isNotEmptyBag item ∨
        (env.proto item.entry).conjured ∨ item.duration ≠ 0 ∨ item.count < p.2.toNat then
      some .internalError
    else none

/-- The sum of the listed counts. -/
def finalCount (items : List (ℕ × BitVec 32)) : BitVec 32 := (items.map Prod.snd).sum

/-- One listed stack is reduced: it leaves the inventory when it is listed with all of its count.
A stack that has left it before can only be reduced outside. -/
def reduceStack (inv : Inventory) (p : ℕ × BitVec 32) : Inventory :=
  match inv.getItemByGuid p.1 with
  | none => inv
  | some item =>
    if item.count = p.2.toNat then inv.moveItemFromInventory p.1
    else inv.setItemCount p.1 (Item.countSub item.count p.2.toNat)

variable (m : Moment)

def newAuction (seller : Guid) (pkt : AuctionSellItem) (entry : AuctionHouseEntry)
    (deposit : BitVec 32) (item : Item) :
    AuctionEntry where
  id := w.nextAuctionId
  auctioneer := if env.allowTwoSideInteraction then 23442 else guidLopart pkt.auctioneer
  itemGuidlow := item.guid
  itemTemplate := item.entry
  itemCount := item.count
  owner := seller
  startbid := pkt.bid
  bid := 0
  buyout := pkt.buyout
  expireTime := m.now + env.auctionTime (pkt.etime * 60).toNat
  bidder := 0
  deposit := deposit
  auctionHouseEntry := entry

def putOnSale (w : AuctionWorld) (house : AuctionHouse) (a : AuctionEntry) (item : Item) :
    AuctionWorld :=
  ({ w with nextAuctionId := w.nextAuctionId + 1 }.addAItem item).addAuction house a

/-- The posting of a list that has passed its checks: `item` and `count` are its first element.
A single whole stack is moved; otherwise the stack on sale is a clone of the first item, with the
sum of the counts, and the listed stacks are reduced. -/
def postAuction (player : Guid) (seller : Character) (pkt : AuctionSellItem) (faction : ℕ)
    (entry : AuctionHouseEntry) (item : Item) (count : BitVec 32) : AuctionReply :=
  let deposit := env.getAuctionDeposit entry (pkt.etime * 60).toNat item
    (finalCount pkt.items).toNat
  if ¬ seller.hasEnoughMoney deposit then ⟨w, some .notEnoughtMoney⟩
  else
    let paid := w.modifyMoney player (-deposit)
    let house := env.getAuctionsMap faction
    if pkt.items.length = 1 ∧ item.count = count.toNat then
      let a := w.newAuction env m player pkt entry deposit item
      ⟨(paid.putOnSale house a item).setInventory player
        (seller.inventory.moveItemFromInventory item.guid), some .ok⟩
    else
      match item.cloneItem env.proto w.nextItemGuid (finalCount pkt.items).toNat with
      | none => ⟨{ paid with nextAuctionId := w.nextAuctionId + 1 }, some .internalError⟩
      | some newItem =>
        let a := w.newAuction env m player pkt entry deposit newItem
        ⟨({ paid with nextItemGuid := w.nextItemGuid + 1 }.putOnSale house a newItem).setInventory
          player (pkt.items.foldl reduceStack seller.inventory), some .ok⟩

def handleAuctionSellItem (player : Guid) (pkt : AuctionSellItem) : AuctionReply :=
  if maxAuctionItems < pkt.items.length then ⟨w, some .internalError⟩
  else if pkt.items.any fun p => p.1 = 0 || p.2 = 0 || 1000 < p.2 then ⟨w, none⟩
  else if pkt.bid = 0 ∨ pkt.etime = 0 then ⟨w, none⟩
  else
    match env.npcFaction player pkt.auctioneer with
    | none => ⟨w, none⟩
    | some faction =>
      match env.getAuctionHouseEntry faction with
      | none => ⟨w, none⟩
      | some entry =>
        if (pkt.etime * 60).toNat ∉ [minAuctionTime, 2 * minAuctionTime, 4 * minAuctionTime] then
          ⟨w, none⟩
        else
          match w.characters.find? player with
          | none => ⟨w, none⟩
          | some seller =>
            match pkt.items.findSome? (w.sellItemError env seller.inventory) with
            | some e => ⟨w, some e⟩
            | none =>
              if finalCount pkt.items = 0 then ⟨w, some .internalError⟩
              else
                let items := pkt.items.filterMap fun p => seller.inventory.getItemByGuid p.1
                if items.any fun item =>
                    (env.proto item.entry).getMaxStackSize < (finalCount pkt.items).toNat then
                  ⟨w, some .internalError⟩
                else
                  -- The loop over the items ends in its first turn.
                  match items, pkt.items with
                  | item :: _, p :: _ =>
                    w.postAuction env m player seller pkt faction entry item p.2
                  | _, _ => ⟨w, none⟩

/-! ## Bidding -/

variable (house : AuctionHouse)

variable (a : AuctionEntry)

/-- A bid below the buyout: the player pays the price, or what it is above his own standing bid,
and an old bidder gets his bid back. -/
def raiseBid (player : Guid) (price : BitVec 32) : AuctionWorld :=
  let paid :=
    if 0 < a.bidder then
      if a.bidder = player then w.modifyMoney player (-(price - a.bid))
      else (w.sendAuctionOutbiddedMail env m a).modifyMoney player (-price)
    else w.modifyMoney player (-price)
  paid.addAuction house { a with bidder := player, bid := price }

/-- A buyout: the player pays the buyout, or what it is above his own standing bid, and gets the
item; the owner gets the money, and an old bidder gets his bid back. -/
def buyOut (player : Guid) : AuctionWorld :=
  let paid :=
    if player = a.bidder then w.modifyMoney player (-(a.buyout - a.bid))
    else
      let charged := w.modifyMoney player (-a.buyout)
      if 0 < a.bidder then charged.sendAuctionOutbiddedMail env m a else charged
  let sold := { a with bidder := player, bid := a.buyout }
  let mailed := ((paid.sendAuctionSalePendingMail env m sold).sendAuctionSuccessfulMail env m
    sold).sendAuctionWonMail env m sold
  (mailed.removeAItem a.itemGuidlow).removeAuction house sold

def handleAuctionPlaceBid (player : Guid) (pkt : AuctionPlaceBid) : AuctionReply :=
  if pkt.auctionId = 0 ∨ pkt.price = 0 then ⟨w, none⟩
  else
    match env.npcFaction player pkt.auctioneer, w.characters.find? player with
    | some faction, some bidder =>
      let house := env.getAuctionsMap faction
      match (w.auctions house).find? pkt.auctionId with
      | none => ⟨w, some .cannotBidYourAuction⟩
      | some a =>
        if a.owner = player then ⟨w, some .cannotBidYourAuction⟩
        else if (w.findPlayer m a.owner).isNone ∧
            w.getPlayerAccountIdByGUID a.owner = bidder.account then
          ⟨w, some .cannotBidYourAuction⟩
        else if pkt.price ≤ a.bid ∨ pkt.price < a.startbid then ⟨w, none⟩
        else if (pkt.price < a.buyout ∨ a.buyout = 0) ∧
            pkt.price < a.bid + env.getAuctionOutBid a then
          ⟨w, none⟩
        else if ¬ bidder.hasEnoughMoney pkt.price then ⟨w, none⟩
        else if pkt.price < a.buyout ∨ a.buyout = 0 then
          ⟨w.raiseBid env m house a player pkt.price, some .ok⟩
        else ⟨w.buyOut env m house a player, some .ok⟩
    | _, _ => ⟨w, none⟩

/-! ## Cancelling -/

/-- The cancellation of an auction by its owner: the bidder gets his bid back, for which the
owner pays the cut, and the item goes back to the owner. -/
def cancelAuction (owner : Guid) (item : Item) : AuctionWorld :=
  let paid :=
    if 0 < a.bidder then
      (w.sendAuctionCancelledToBidderMail env m a).modifyMoney owner (-env.getAuctionCut a)
    else w
  let mailed := paid.sendMailTo env owner a
    ⟨a.buildAuctionMailSubject .canceled, ⟨0, 0, a.buyout, a.deposit, 0⟩, some item, 0⟩
  (mailed.removeAItem a.itemGuidlow).removeAuction house a

def handleAuctionRemoveItem (player : Guid) (pkt : AuctionRemoveItem) : AuctionReply :=
  match env.npcFaction player pkt.auctioneer, w.characters.find? player with
  | some faction, some owner =>
    let house := env.getAuctionsMap faction
    match (w.auctions house).find? pkt.auctionId with
    | none => ⟨w, some .internalError⟩
    | some a =>
      if a.owner = player then
        match w.getAItem a.itemGuidlow with
        | none => ⟨w, some .internalError⟩
        | some item =>
          if 0 < a.bidder ∧ ¬ owner.hasEnoughMoney (env.getAuctionCut a) then ⟨w, none⟩
          else ⟨w.cancelAuction env m house a player item, some .ok⟩
      else ⟨w, some .internalError⟩
  | _, _ => ⟨w, none⟩

/-! ## The end of an auction's time -/

/-- The mails of an auction whose time is over. -/
def sendEndMails : AuctionWorld :=
  if a.bidder = 0 then w.sendAuctionExpiredMail env m a
  else (w.sendAuctionSuccessfulMail env m a).sendAuctionWonMail env m a

/-- One turn of the loop of `AuctionHouseObject::Update`. The auction is deleted before its item
is taken out of the items on sale, so that the item's number is read from memory that has been
given back: `stale` is what is found there. -/
def endExpired (id stale : ℕ) : AuctionWorld :=
  match (w.auctions house).find? id with
  | none => w
  | some a => ((w.sendEndMails env m a).removeAuction house a).removeAItem stale

/-- All auctions, as the rows of their table. -/
def rows (w : AuctionWorld) : List AuctionEntry :=
  (w.auctions .alliance).values ++ (w.auctions .horde).values ++ (w.auctions .neutral).values

/-- The rows whose time is over, or will be within a minute, the oldest first. -/
def expiredRows (w : AuctionWorld) (m : Moment) : List AuctionEntry :=
  (w.rows.filter fun a => a.expireTime ≤ m.now + 60).mergeSort fun a b =>
    a.expireTime ≤ b.expireTime

/-- **`AuctionHouseObject::Update`**: the rows of all the houses are asked for, and those of the
other houses are passed over. `stale` is what is read for each of them. -/
def update (stale : ℕ → ℕ) : AuctionWorld :=
  ((w.expiredRows m).map AuctionEntry.id).foldl
    (fun w id => w.endExpired env m house id (stale id)) w

/-! ## Startup -/

/-- Can a row be loaded? Its auctioneer has to exist, and to have a house. -/
def loadable (env : AuctionEnv) (a : AuctionEntry) : Option (ℕ × AuctionHouseEntry) :=
  match env.auctioneerFaction a.auctioneer with
  | none => none
  | some faction => (env.getAuctionHouseEntry faction).map fun entry => (faction, entry)

/-- One turn of the loop of `DeleteExpiredAuctionsAtStartup`. -/
def endAtStartup (env : AuctionEnv) (m : Moment) (w : AuctionWorld) (a : AuctionEntry) :
    AuctionWorld :=
  match loadable env a with
  | none => w
  | some (_, entry) => w.sendEndMails env m { a with auctionHouseEntry := entry }

/-- One turn of the loop of `LoadAuctions`: a row whose item has not been loaded is dropped. -/
def loadAuction (env : AuctionEnv) (w : AuctionWorld) (a : AuctionEntry) : AuctionWorld :=
  match loadable env a with
  | none => w
  | some (faction, entry) =>
    if (w.getAItem a.itemGuidlow).isSome then
      w.addAuction (env.getAuctionsMap faction) { a with auctionHouseEntry := entry }
    else w

/-- **Startup**: the expired auctions are ended first, when no item is loaded yet; then come
`LoadAuctionItems`, which loads the items of the rows that are left, and `LoadAuctions`. -/
def startup : AuctionWorld :=
  let empty := { w with auctions := fun _ => OrderedMap.empty, aItems := OrderedMap.empty }
  let ended := (w.expiredRows m).foldl (endAtStartup env m) empty
  let left := w.rows.filter fun a => m.now + 60 < a.expireTime || (loadable env a).isNone
  let loaded := { ended with
    aItems := w.aItems.filterKeys fun guid => left.any fun a => a.itemGuidlow = guid }
  left.foldl (loadAuction env) loaded

/-! ## The machine -/

/-- One step. A packet is a player's; `expire` is one turn of a house's loop. -/
inductive Op where
  | sellItem (player : Guid) (pkt : AuctionSellItem)
  | placeBid (player : Guid) (pkt : AuctionPlaceBid)
  | removeItem (player : Guid) (pkt : AuctionRemoveItem)
  | expire (house : AuctionHouse) (id stale : ℕ)
  | startup

/-- **One step of the machine.** The packets of a player are handled while the player is
online. -/
def step (env : AuctionEnv) (w : AuctionWorld) (op : Moment × Op) : AuctionWorld :=
  match op with
  | (m, .sellItem player pkt) =>
    if m.online player then (w.handleAuctionSellItem env m player pkt).world else w
  | (m, .placeBid player pkt) =>
    if m.online player then (w.handleAuctionPlaceBid env m player pkt).world else w
  | (m, .removeItem player pkt) =>
    if m.online player then (w.handleAuctionRemoveItem env m player pkt).world else w
  | (m, .expire house id stale) => w.endExpired env m house id stale
  | (m, .startup) => w.startup env m

/-- **The loop of a house** is a run of single turns. -/
theorem update_eq_run (stale : ℕ → ℕ) :
    w.update env m house stale = run (step env) w
      ((w.expiredRows m).map fun a => (m, .expire house a.id (stale a.id))) := by
  unfold update run
  rw [List.foldl_map, List.foldl_map]
  rfl

end AuctionWorld

end TeraCore
