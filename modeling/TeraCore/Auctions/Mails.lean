import TeraCore.Auctions.Handlers

/-!
# Auctions: the mails that are sent

Sending a mail does nothing but add to the mails sent.  For each kind of mail this file names
what is added, so that a handler that sends several is read as one addition.

## Main results

* `AuctionWorld.sendAuctionWonMail_eq` and the like: sending is adding
-/

namespace TeraCore

open Commons

namespace AuctionWorld

/-- More mails have been sent. -/
def withMails (w : AuctionWorld) (l : List Mail) : AuctionWorld := { w with mails := w.mails ++ l }

section Frame

variable (w : AuctionWorld) (l l' : List Mail) (m : Moment) (id guid : ℕ)

@[simp] theorem characters_withMails : (w.withMails l).characters = w.characters := rfl
@[simp] theorem auctions_withMails : (w.withMails l).auctions = w.auctions := rfl
@[simp] theorem mails_withMails : (w.withMails l).mails = w.mails ++ l := rfl

@[simp] theorem withMails_nil : w.withMails [] = w := by
  rw [withMails, List.append_nil]

@[simp] theorem withMails_withMails :
    (w.withMails l).withMails l' = w.withMails (l ++ l') := by
  simp only [withMails, List.append_assoc]

end Frame

variable (w : AuctionWorld) (env : AuctionEnv) (m : Moment) (a : AuctionEntry)

/-- A mail, unless it is for the bot's character. -/
def mailTo (env : AuctionEnv) (receiver : Guid) (a : AuctionEntry) (draft : MailDraft) :
    List Mail :=
  if receiver = env.ahBotGuid then []
  else [{ draft with receiver := receiver, sender := a.getHouseId }]

variable (receiver : Guid) (draft : MailDraft)

theorem sendMailTo_eq :
    w.sendMailTo env receiver a draft = w.withMails (mailTo env receiver a draft) := by
  unfold sendMailTo mailTo
  split_ifs
  · exact (withMails_nil w).symm
  · rfl

/-- Can the item be sent to the winner? -/
def WinnerFound (w : AuctionWorld) (m : Moment) (guid : Guid) : Prop :=
  (w.findPlayer m guid).isSome ∨
    (if m.gmLogTrade then w.getPlayerAccountIdByGUID guid else 0) ≠ 0

instance (guid : Guid) : Decidable (w.WinnerFound m guid) := inferInstanceAs (Decidable (_ ∨ _))

/-- The item for the winner, if both are found. -/
def wonMails : List Mail :=
  match w.getAItem a.itemGuidlow with
  | none => []
  | some item =>
    if w.WinnerFound m a.bidder then
      mailTo env a.bidder a
        ⟨a.buildAuctionMailSubject .won, ⟨a.owner, a.bid, a.buyout, 0, 0⟩, some item, 0⟩
    else []

def mailIfExists : List Mail :=
  if w.receiverExists m receiver then mailTo env receiver a draft else []

/-- The note to the owner. -/
def salePendingMails : List Mail :=
  w.mailIfExists env m a a.owner
    ⟨a.buildAuctionMailSubject .salePending,
      ⟨a.bidder, a.bid, a.buyout, a.deposit, env.getAuctionCut a⟩, none, 0⟩

/-- The money for the owner. -/
def successfulMails : List Mail :=
  w.mailIfExists env m a a.owner
    ⟨a.buildAuctionMailSubject .successful,
      ⟨a.bidder, a.bid, a.buyout, a.deposit, env.getAuctionCut a⟩, none,
      a.bid + a.deposit - env.getAuctionCut a⟩

/-- The item for the owner, if it is found. -/
def expiredMails : List Mail :=
  match w.getAItem a.itemGuidlow with
  | none => []
  | some item =>
    w.mailIfExists env m a a.owner
      ⟨a.buildAuctionMailSubject .expired, ⟨0, 0, a.buyout, a.deposit, 0⟩, some item, 0⟩

/-- The refund for an outbid player. -/
def outbiddedMails : List Mail :=
  w.mailIfExists env m a a.bidder
    ⟨a.buildAuctionMailSubject .outbidded,
      ⟨a.owner, a.bid, a.buyout, a.deposit, env.getAuctionCut a⟩, none, a.bid⟩

/-- The refund for the bidder of a cancelled auction. -/
def cancelledToBidderMails : List Mail :=
  w.mailIfExists env m a a.bidder
    ⟨a.buildAuctionMailSubject .cancelledToBidder,
      ⟨a.owner, a.bid, a.buyout, a.deposit, 0⟩, none, a.bid⟩

theorem withMails_mailIfExists :
    w.withMails (w.mailIfExists env m a receiver draft) =
      if w.receiverExists m receiver then w.sendMailTo env receiver a draft else w := by
  unfold mailIfExists
  split_ifs
  · exact (sendMailTo_eq w env a receiver draft).symm
  · exact withMails_nil w

theorem sendAuctionWonMail_eq :
    w.sendAuctionWonMail env m a = w.withMails (w.wonMails env m a) := by
  unfold sendAuctionWonMail wonMails
  cases w.getAItem a.itemGuidlow with
  | none => exact (withMails_nil w).symm
  | some item =>
    dsimp only
    by_cases hfound : w.WinnerFound m a.bidder
    · rw [if_pos hfound, if_pos (by exact hfound), sendMailTo_eq]
    · rw [if_neg hfound, if_neg (by exact hfound), withMails_nil]

theorem sendAuctionExpiredMail_eq :
    w.sendAuctionExpiredMail env m a = w.withMails (w.expiredMails env m a) := by
  unfold sendAuctionExpiredMail expiredMails
  cases w.getAItem a.itemGuidlow with
  | none => exact (withMails_nil w).symm
  | some item => exact (withMails_mailIfExists w env m a _ _).symm

theorem sendAuctionSalePendingMail_eq :
    w.sendAuctionSalePendingMail env m a = w.withMails (w.salePendingMails env m a) :=
  (withMails_mailIfExists w env m a _ _).symm

theorem sendAuctionSuccessfulMail_eq :
    w.sendAuctionSuccessfulMail env m a = w.withMails (w.successfulMails env m a) :=
  (withMails_mailIfExists w env m a _ _).symm

theorem sendAuctionOutbiddedMail_eq :
    w.sendAuctionOutbiddedMail env m a = w.withMails (w.outbiddedMails env m a) :=
  (withMails_mailIfExists w env m a _ _).symm

theorem sendAuctionCancelledToBidderMail_eq :
    w.sendAuctionCancelledToBidderMail env m a =
      w.withMails (w.cancelledToBidderMails env m a) :=
  (withMails_mailIfExists w env m a _ _).symm

/-! ## Receivers -/

variable {w}

theorem receiverExists_of_find? {guid : Guid} {c : Character}
    (h : w.characters.find? guid = some c) : w.receiverExists m guid = true := by
  have hpos := c.account_pos
  have haccount : w.getPlayerAccountIdByGUID guid = c.account := by
    rw [getPlayerAccountIdByGUID, h]
    rfl
  rw [receiverExists, haccount, Bool.or_eq_true]
  exact .inr (decide_eq_true (by omega))

theorem winnerFound_iff {guid : Guid} {c : Character} (h : w.characters.find? guid = some c) :
    w.WinnerFound m guid ↔ m.online guid = true ∨ m.gmLogTrade = true := by
  have hpos := c.account_pos
  have haccount : w.getPlayerAccountIdByGUID guid = c.account := by
    rw [getPlayerAccountIdByGUID, h]
    rfl
  rw [WinnerFound, findPlayer, haccount, h]
  split_ifs with honline hlog hlog
  · simp [honline]
  · simp [honline]
  · simp [hlog]
    omega
  · simp [honline, hlog]

variable (w)

variable (guid p : Guid) (d : BitVec 32)

theorem getPlayerAccountIdByGUID_modifyMoney :
    (w.modifyMoney guid d).getPlayerAccountIdByGUID p = w.getPlayerAccountIdByGUID p := by
  unfold getPlayerAccountIdByGUID
  cases h : w.characters.find? guid with
  | none => rw [modifyMoney, h]
  | some c =>
    rw [characters_modifyMoney w h, OrderedMap.find?_set]
    split_ifs with hp
    · rw [hp, h]
      rfl
    · rfl

theorem isSome_findPlayer_modifyMoney :
    ((w.modifyMoney guid d).findPlayer m p).isSome = (w.findPlayer m p).isSome := by
  unfold findPlayer
  split_ifs with honline
  · cases h : w.characters.find? guid with
    | none => rw [modifyMoney, h]
    | some c =>
      rw [characters_modifyMoney w h, OrderedMap.find?_set]
      split_ifs with hp
      · rw [hp, h]
        rfl
      · rfl
  · rfl

@[simp] theorem receiverExists_modifyMoney :
    (w.modifyMoney guid d).receiverExists m p = w.receiverExists m p := by
  rw [receiverExists, receiverExists, isSome_findPlayer_modifyMoney,
    getPlayerAccountIdByGUID_modifyMoney]

@[simp] theorem winnerFound_modifyMoney :
    (w.modifyMoney guid d).WinnerFound m p ↔ w.WinnerFound m p := by
  rw [WinnerFound, WinnerFound, isSome_findPlayer_modifyMoney,
    getPlayerAccountIdByGUID_modifyMoney]

@[simp] theorem getAItem_modifyMoney (guid id : ℕ) (d : BitVec 32) :
    (w.modifyMoney guid d).getAItem id = w.getAItem id := by
  rw [getAItem, aItems_modifyMoney]
  rfl

theorem modifyMoney_withMails (l : List Mail) (guid : Guid) (d : BitVec 32) :
    (w.withMails l).modifyMoney guid d = (w.modifyMoney guid d).withMails l := by
  unfold modifyMoney
  rw [characters_withMails]
  cases w.characters.find? guid <;> rfl

@[simp] theorem mailIfExists_modifyMoney (guid receiver : Guid) (d : BitVec 32)
    (draft : MailDraft) :
    (w.modifyMoney guid d).mailIfExists env m a receiver draft =
      w.mailIfExists env m a receiver draft := by
  rw [mailIfExists, mailIfExists, receiverExists_modifyMoney]

@[simp] theorem mailIfExists_withMails (l : List Mail) (receiver : Guid) (draft : MailDraft) :
    (w.withMails l).mailIfExists env m a receiver draft =
      w.mailIfExists env m a receiver draft := rfl

@[simp] theorem wonMails_modifyMoney (guid : Guid) (d : BitVec 32) :
    (w.modifyMoney guid d).wonMails env m a = w.wonMails env m a := by
  simp only [wonMails, winnerFound_modifyMoney, getAItem_modifyMoney]

@[simp] theorem wonMails_withMails (l : List Mail) :
    (w.withMails l).wonMails env m a = w.wonMails env m a := rfl

/-! ## What the handlers send -/

/-- The refund to another player's standing bid. -/
def refundMails (player : Guid) : List Mail :=
  if 0 < a.bidder ∧ a.bidder ≠ player then w.outbiddedMails env m a else []

/-- What a player has to pay for a price, with his own standing bid as a part of it. -/
def charge (a : AuctionEntry) (player : Guid) (price : BitVec 32) : BitVec 32 :=
  if a.bidder = player then price - a.bid else price

theorem raiseBid_eq (house : AuctionHouse) {player : Guid} (hplayer : 0 < player)
    (price : BitVec 32) :
    w.raiseBid env m house a player price =
      ((w.modifyMoney player (-charge a player price)).withMails
        (w.refundMails env m a player)).addAuction house
          { a with bidder := player, bid := price } := by
  unfold raiseBid refundMails charge
  by_cases hself : a.bidder = player
  · simp only [hself, hplayer, if_true, ne_eq, not_true_eq_false, and_false, if_false,
      withMails_nil]
  · by_cases hpos : 0 < a.bidder
    · simp only [hself, hpos, if_true, if_false, ne_eq, not_false_eq_true, and_self,
        sendAuctionOutbiddedMail_eq, modifyMoney_withMails]
    · simp only [hself, hpos, if_false, false_and, withMails_nil]

/-- What a buyout sends: the refund, and with `sold` the mails of the sale. -/
def buyOutMails (a sold : AuctionEntry) (player : Guid) : List Mail :=
  w.refundMails env m a player ++ (w.salePendingMails env m sold ++
    (w.successfulMails env m sold ++ w.wonMails env m sold))

theorem sendSaleMails_eq (sold : AuctionEntry) :
    ((w.sendAuctionSalePendingMail env m sold).sendAuctionSuccessfulMail env m
        sold).sendAuctionWonMail env m sold =
      w.withMails (w.salePendingMails env m sold ++ (w.successfulMails env m sold ++
        w.wonMails env m sold)) := by
  rw [sendAuctionSalePendingMail_eq, sendAuctionSuccessfulMail_eq, withMails_withMails,
    sendAuctionWonMail_eq, withMails_withMails, wonMails_withMails, List.append_assoc]
  rfl

theorem buyOut_eq (house : AuctionHouse) (a : AuctionEntry) (player : Guid) :
    w.buyOut env m house a player =
      (((w.modifyMoney player (-charge a player a.buyout)).withMails
        (w.buyOutMails env m a { a with bidder := player, bid := a.buyout }
          player)).removeAItem a.itemGuidlow).removeAuction house
            { a with bidder := player, bid := a.buyout } := by
  have hpaid : (if player = a.bidder then w.modifyMoney player (-(a.buyout - a.bid))
      else if 0 < a.bidder then (w.modifyMoney player (-a.buyout)).sendAuctionOutbiddedMail env m a
      else w.modifyMoney player (-a.buyout)) =
      (w.modifyMoney player (-charge a player a.buyout)).withMails
        (w.refundMails env m a player) := by
    unfold refundMails charge
    by_cases hself : player = a.bidder
    · simp only [hself, if_true, ne_eq, not_true_eq_false, and_false, if_false, withMails_nil]
    · by_cases hpos : 0 < a.bidder
      · simp only [hself, Ne.symm hself, hpos, if_true, if_false, ne_eq, not_false_eq_true,
          and_self, sendAuctionOutbiddedMail_eq, outbiddedMails, mailIfExists_modifyMoney]
      · simp only [hself, Ne.symm hself, hpos, if_false, false_and, withMails_nil]
  unfold buyOut
  dsimp only
  rw [hpaid, sendSaleMails_eq, withMails_withMails]
  simp only [buyOutMails, salePendingMails, successfulMails, mailIfExists_withMails,
    mailIfExists_modifyMoney, wonMails_withMails, wonMails_modifyMoney]

/-- What a cancellation sends: the refund, and the item. -/
def cancelMails (item : Item) (owner : Guid) : List Mail :=
  (if 0 < a.bidder then w.cancelledToBidderMails env m a else []) ++ mailTo env owner a
    ⟨a.buildAuctionMailSubject .canceled, ⟨0, 0, a.buyout, a.deposit, 0⟩, some item, 0⟩

theorem cancelAuction_eq (house : AuctionHouse) (a : AuctionEntry) (item : Item) (owner : Guid) :
    w.cancelAuction env m house a owner item =
      (((if 0 < a.bidder then w.modifyMoney owner (-env.getAuctionCut a) else w).withMails
        (w.cancelMails env m a item owner)).removeAItem a.itemGuidlow).removeAuction house a := by
  unfold cancelAuction cancelMails
  dsimp only
  split_ifs
  · rw [sendMailTo_eq, sendAuctionCancelledToBidderMail_eq, modifyMoney_withMails,
      withMails_withMails]
  · rw [sendMailTo_eq, List.nil_append]

/-- What is sent when an auction's time is over. -/
def endMails : List Mail :=
  if a.bidder = 0 then w.expiredMails env m a
  else w.successfulMails env m a ++ w.wonMails env m a

theorem sendEndMails_eq : w.sendEndMails env m a = w.withMails (w.endMails env m a) := by
  unfold sendEndMails endMails
  split_ifs
  · exact sendAuctionExpiredMail_eq w env m a
  · rw [sendAuctionSuccessfulMail_eq, sendAuctionWonMail_eq, withMails_withMails,
      wonMails_withMails]

end AuctionWorld

end TeraCore
