import TeraCore.Entities.Inventory
import TeraCore.Entities.Player

/-!
# The auction houses

Three houses hold the auctions; the items on sale are held by the manager, under their numbers,
until an auction ends.  Whatever an auction owes a character is sent as a mail, and each kind of
mail first makes sure that its receiver exists.

Mail to the auction house bot's own character is not delivered.

## Main definitions

* `AuctionEntry`: an auction
* `AuctionWorld`: the characters, the houses, the items on sale, and the mails sent so far
* `AuctionEnv`: tables and configuration; `Moment`: what differs from one step to the next
* `AuctionWorld.sendAuctionWonMail` and the other mails
-/

namespace TeraCore

open Commons

/-- A row of the auction house store. -/
structure AuctionHouseEntry where
  houseId : ℕ
  faction : ℕ
  depositPercent : ℕ
  cutPercent : ℕ
  deriving DecidableEq

/-- The three houses. -/
inductive AuctionHouse where
  | alliance
  | horde
  | neutral
  deriving DecidableEq

/-- **An auction.** Without a bid, `bidder` and `bid` are zero. -/
structure AuctionEntry where
  id : ℕ
  auctioneer : ℕ
  itemGuidlow : ℕ
  itemTemplate : ℕ
  itemCount : ℕ
  owner : Guid
  startbid : BitVec 32
  bid : BitVec 32
  buyout : BitVec 32
  expireTime : ℕ
  bidder : Guid
  deposit : BitVec 32
  auctionHouseEntry : AuctionHouseEntry
  deriving DecidableEq

/-! ## Mails -/

inductive MailAuctionAnswers where
  | outbidded
  | won
  | successful
  | expired
  | cancelledToBidder
  | canceled
  | salePending
  deriving DecidableEq

structure AuctionMailSubject where
  itemTemplate : ℕ
  response : MailAuctionAnswers
  id : ℕ
  itemCount : ℕ
  deriving DecidableEq

/-- The parts of an auction mail's body. -/
structure AuctionMailBody where
  lowGuid : Guid
  bid : BitVec 32
  buyout : BitVec 32
  deposit : BitVec 32
  cut : BitVec 32
  deriving DecidableEq

/-- What is put into a mail before it is sent. -/
structure MailDraft where
  subject : AuctionMailSubject
  body : AuctionMailBody
  item : Option Item
  money : BitVec 32
  deriving DecidableEq

/-- A mail that has been sent. -/
structure Mail extends MailDraft where
  receiver : Guid
  sender : ℕ
  deriving DecidableEq

namespace AuctionEntry

def getHouseId (a : AuctionEntry) : ℕ := a.auctionHouseEntry.houseId

def buildAuctionMailSubject (a : AuctionEntry) (response : MailAuctionAnswers) :
    AuctionMailSubject :=
  ⟨a.itemTemplate, response, a.id, a.itemCount⟩

end AuctionEntry

/-! ## The world around the houses -/

/-- **A character**: the purse, the account it belongs to, and what it carries. Every character
has an account. -/
structure Character extends Player where
  account : ℕ
  inventory : Inventory
  account_pos : 0 < account

/-- The state the auction handlers work on. `aItems` holds the items on sale; `mails` are the
mails sent, the latest one last. -/
structure AuctionWorld where
  characters : OrderedMap Guid Character
  auctions : AuctionHouse → OrderedMap ℕ AuctionEntry
  aItems : OrderedMap ℕ Item
  mails : List Mail
  nextAuctionId : ℕ
  nextItemGuid : ℕ

/-- Tables and configuration. The deposit, the cut and the least raise are computed with floating
point numbers, and are functions here; so are two tests of items that read all of the player. -/
structure AuctionEnv where
  allowTwoSideInteraction : Bool
  /-- The mask of a faction template. -/
  factionMask : ℕ → Option (BitVec 32)
  auctionHouseStore : ℕ → Option AuctionHouseEntry
  /-- The faction of an auctioneer the player can interact with. -/
  npcFaction : Guid → Guid → Option ℕ
  /-- The faction of a stored auctioneer's creature template. -/
  auctioneerFaction : ℕ → Option ℕ
  proto : ℕ → ItemTemplate
  canBeTraded : Item → Bool
  isNotEmptyBag : Item → Bool
  getAuctionDeposit : AuctionHouseEntry → ℕ → Item → ℕ → BitVec 32
  auctionTime : ℕ → ℕ
  getAuctionCut : AuctionEntry → BitVec 32
  getAuctionOutBid : AuctionEntry → BitVec 32
  /-- The auction house bot's own character. -/
  ahBotGuid : Guid

/-- What differs from one step to the next: who is online, whether trades of game masters are
logged, and the time. -/
structure Moment where
  online : Guid → Bool
  gmLogTrade : Bool
  now : ℕ

def factionMaskAlliance : BitVec 32 := 2
def factionMaskHorde : BitVec 32 := 4

namespace AuctionEnv

variable (env : AuctionEnv) (factionTemplateId : ℕ)

/-- **`GetAuctionsMap`**: the house of a faction. -/
def getAuctionsMap : AuctionHouse :=
  if env.allowTwoSideInteraction then .neutral
  else
    match env.factionMask factionTemplateId with
    | none => .neutral
    | some ourMask =>
      if ourMask &&& factionMaskAlliance ≠ 0 then .alliance
      else if ourMask &&& factionMaskHorde ≠ 0 then .horde
      else .neutral

/-- The number of a faction's entry in the store. -/
def houseIdOf : ℕ :=
  if env.allowTwoSideInteraction then 7
  else
    match factionTemplateId with
    | 12 => 1
    | 29 => 6
    | 55 => 2
    | 68 => 4
    | 80 => 3
    | 104 => 5
    | 120 => 7
    | 474 => 7
    | 855 => 7
    | 1604 => 6
    | _ =>
      match env.factionMask factionTemplateId with
      | none => 7
      | some ourMask =>
        if ourMask &&& factionMaskAlliance ≠ 0 then 1
        else if ourMask &&& factionMaskHorde ≠ 0 then 6
        else 7

/-- **`GetAuctionHouseEntry`**: the entry with a faction's deposit and cut. -/
def getAuctionHouseEntry : Option AuctionHouseEntry :=
  env.auctionHouseStore (env.houseIdOf factionTemplateId)

end AuctionEnv

namespace AuctionWorld

/-! ## Characters, items and auctions -/

variable (w : AuctionWorld)

/-- `FindPlayer`: a character that is online. -/
def findPlayer (m : Moment) (guid : Guid) : Option Character :=
  if m.online guid then w.characters.find? guid else none

/-- `GetPlayerAccountIdByGUID`: a character's account, zero for none. -/
def getPlayerAccountIdByGUID (guid : Guid) : ℕ :=
  ((w.characters.find? guid).map Character.account).getD 0

def modifyMoney (guid : Guid) (d : BitVec 32) : AuctionWorld :=
  match w.characters.find? guid with
  | none => w
  | some c =>
    { w with characters := w.characters.set guid { c with toPlayer := c.toPlayer.modifyMoney d } }

def setInventory (guid : Guid) (inventory : Inventory) : AuctionWorld :=
  match w.characters.find? guid with
  | none => w
  | some c => { w with characters := w.characters.set guid { c with inventory := inventory } }

/-- What a character carries. -/
def inventoryOf (guid : Guid) : Option Inventory :=
  (w.characters.find? guid).map Character.inventory

def getAItem (id : ℕ) : Option Item := w.aItems.find? id

def addAItem (item : Item) : AuctionWorld :=
  { w with aItems := w.aItems.set item.guid item }

def removeAItem (id : ℕ) : AuctionWorld :=
  { w with aItems := w.aItems.erase id }

def setAuctions (house : AuctionHouse) (auctions : OrderedMap ℕ AuctionEntry) : AuctionWorld :=
  { w with auctions := Function.update w.auctions house auctions }

def addAuction (house : AuctionHouse) (a : AuctionEntry) : AuctionWorld :=
  w.setAuctions house ((w.auctions house).set a.id a)

def removeAuction (house : AuctionHouse) (a : AuctionEntry) : AuctionWorld :=
  w.setAuctions house ((w.auctions house).erase a.id)

section Frame

variable (guid : Guid) (d : BitVec 32) (inv : Inventory) (item : Item) (house : AuctionHouse)
  (a : AuctionEntry)

@[simp] theorem auctions_modifyMoney : (w.modifyMoney guid d).auctions = w.auctions := by
  unfold modifyMoney
  split <;> rfl

@[simp] theorem aItems_modifyMoney : (w.modifyMoney guid d).aItems = w.aItems := by
  unfold modifyMoney
  split <;> rfl

@[simp] theorem mails_modifyMoney : (w.modifyMoney guid d).mails = w.mails := by
  unfold modifyMoney
  split <;> rfl

@[simp] theorem nextAuctionId_modifyMoney :
    (w.modifyMoney guid d).nextAuctionId = w.nextAuctionId := by
  unfold modifyMoney
  split <;> rfl

@[simp] theorem nextItemGuid_modifyMoney :
    (w.modifyMoney guid d).nextItemGuid = w.nextItemGuid := by
  unfold modifyMoney
  split <;> rfl

theorem characters_modifyMoney {guid : Guid} {c : Character} (h : w.characters.find? guid = some c)
    (d : BitVec 32) :
    (w.modifyMoney guid d).characters =
      w.characters.set guid { c with toPlayer := c.toPlayer.modifyMoney d } := by
  simp only [modifyMoney, h]

@[simp] theorem auctions_setInventory : (w.setInventory guid inv).auctions = w.auctions := by
  unfold setInventory
  split <;> rfl

@[simp] theorem aItems_setInventory : (w.setInventory guid inv).aItems = w.aItems := by
  unfold setInventory
  split <;> rfl

@[simp] theorem mails_setInventory : (w.setInventory guid inv).mails = w.mails := by
  unfold setInventory
  split <;> rfl

@[simp] theorem nextAuctionId_setInventory :
    (w.setInventory guid inv).nextAuctionId = w.nextAuctionId := by
  unfold setInventory
  split <;> rfl

@[simp] theorem nextItemGuid_setInventory :
    (w.setInventory guid inv).nextItemGuid = w.nextItemGuid := by
  unfold setInventory
  split <;> rfl

theorem characters_setInventory {guid : Guid} {c : Character}
    (h : w.characters.find? guid = some c) (inv : Inventory) :
    (w.setInventory guid inv).characters =
      w.characters.set guid { c with inventory := inv } := by
  simp only [setInventory, h]

@[simp] theorem auctions_addAItem : (w.addAItem item).auctions = w.auctions := rfl
@[simp] theorem aItems_addAItem : (w.addAItem item).aItems = w.aItems.set item.guid item := rfl
@[simp] theorem aItems_addAuction : (w.addAuction house a).aItems = w.aItems := rfl
@[simp] theorem mails_addAuction : (w.addAuction house a).mails = w.mails := rfl

theorem auctions_addAuction (h : AuctionHouse) :
    (w.addAuction house a).auctions h =
      if h = house then (w.auctions house).set a.id a else w.auctions h :=
  Function.update_apply _ _ _ _

theorem auctions_removeAuction (h : AuctionHouse) :
    (w.removeAuction house a).auctions h =
      if h = house then (w.auctions house).erase a.id else w.auctions h :=
  Function.update_apply _ _ _ _

end Frame

/-! ## Mails -/

/-- **`MailDraft::SendMailTo`** for the mails of an auction. What is sent to the bot's character
is thrown away. -/
def sendMailTo (w : AuctionWorld) (env : AuctionEnv) (receiver : Guid) (a : AuctionEntry)
    (draft : MailDraft) : AuctionWorld :=
  if receiver = env.ahBotGuid then w
  else { w with mails := w.mails ++ [{ draft with receiver := receiver, sender := a.getHouseId }] }

/-- Does a character exist, online or by its account? -/
def receiverExists (w : AuctionWorld) (m : Moment) (guid : Guid) : Bool :=
  (w.findPlayer m guid).isSome || w.getPlayerAccountIdByGUID guid ≠ 0

/-- **`SendAuctionWonMail`**: the item to the bidder. The bidder's account is looked up for the
log only, so without the log an offline bidder has none. -/
def sendAuctionWonMail (w : AuctionWorld) (env : AuctionEnv) (m : Moment) (a : AuctionEntry) :
    AuctionWorld :=
  match w.getAItem a.itemGuidlow with
  | none => w
  | some item =>
    let bidderAccId := if m.gmLogTrade then w.getPlayerAccountIdByGUID a.bidder else 0
    if (w.findPlayer m a.bidder).isSome ∨ bidderAccId ≠ 0 then
      w.sendMailTo env a.bidder a
        ⟨a.buildAuctionMailSubject .won, ⟨a.owner, a.bid, a.buyout, 0, 0⟩, some item, 0⟩
    else w

/-- **`SendAuctionSalePendingMail`**: a note to the owner. -/
def sendAuctionSalePendingMail (w : AuctionWorld) (env : AuctionEnv) (m : Moment)
    (a : AuctionEntry) : AuctionWorld :=
  if w.receiverExists m a.owner then
    w.sendMailTo env a.owner a
      ⟨a.buildAuctionMailSubject .salePending,
        ⟨a.bidder, a.bid, a.buyout, a.deposit, env.getAuctionCut a⟩, none, 0⟩
  else w

/-- **`SendAuctionSuccessfulMail`**: the money to the owner. -/
def sendAuctionSuccessfulMail (w : AuctionWorld) (env : AuctionEnv) (m : Moment)
    (a : AuctionEntry) : AuctionWorld :=
  if w.receiverExists m a.owner then
    w.sendMailTo env a.owner a
      ⟨a.buildAuctionMailSubject .successful,
        ⟨a.bidder, a.bid, a.buyout, a.deposit, env.getAuctionCut a⟩, none,
        a.bid + a.deposit - env.getAuctionCut a⟩
  else w

/-- **`SendAuctionExpiredMail`**: the item back to the owner. -/
def sendAuctionExpiredMail (w : AuctionWorld) (env : AuctionEnv) (m : Moment) (a : AuctionEntry) :
    AuctionWorld :=
  match w.getAItem a.itemGuidlow with
  | none => w
  | some item =>
    if w.receiverExists m a.owner then
      w.sendMailTo env a.owner a
        ⟨a.buildAuctionMailSubject .expired, ⟨0, 0, a.buyout, a.deposit, 0⟩, some item, 0⟩
    else w

/-- **`SendAuctionOutbiddedMail`**: the old bid back to the old bidder. -/
def sendAuctionOutbiddedMail (w : AuctionWorld) (env : AuctionEnv) (m : Moment)
    (a : AuctionEntry) : AuctionWorld :=
  if w.receiverExists m a.bidder then
    w.sendMailTo env a.bidder a
      ⟨a.buildAuctionMailSubject .outbidded,
        ⟨a.owner, a.bid, a.buyout, a.deposit, env.getAuctionCut a⟩, none, a.bid⟩
  else w

/-- **`SendAuctionCancelledToBidderMail`**: the bid back to the bidder. -/
def sendAuctionCancelledToBidderMail (w : AuctionWorld) (env : AuctionEnv) (m : Moment)
    (a : AuctionEntry) : AuctionWorld :=
  if w.receiverExists m a.bidder then
    w.sendMailTo env a.bidder a
      ⟨a.buildAuctionMailSubject .cancelledToBidder,
        ⟨a.owner, a.bid, a.buyout, a.deposit, 0⟩, none, a.bid⟩
  else w

end AuctionWorld

end TeraCore
