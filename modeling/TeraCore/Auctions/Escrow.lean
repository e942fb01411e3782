import TeraCore.Auctions.Custody

/-!
# Auctions: where the money goes

Money is in the characters' purses, in mails, and in escrow: the standing bid of every auction
that has a bidder.  A bid moves money from a purse into escrow and gives an old bidder his bid
back; a sale moves the escrow, with the deposit and without the house's cut, into a mail for the
owner; a cancellation returns the bid, and the owner pays the cut.

Mail to the auction house bot's character is thrown away, and money in it is lost.

## Main results

* `AuctionWorld.settled_step`: what each step does with the money
* `AuctionWorld.settled`: over every run among characters that are not the bot's
-/

namespace TeraCore

open Commons OrderedMap

namespace AuctionWorld

/-! ## The money -/

variable (w : AuctionWorld)

/-- A character's money, nothing for one that does not exist. -/
def purse (guid : Guid) : ℕ :=
  ((w.characters.find? guid).map fun c => c.money.toNat).getD 0

/-- The money in some mails: a receiver and an amount for each that has any. -/
def moneyOf (l : List Mail) : List (Guid × ℕ) :=
  (l.map fun mail => (mail.receiver, mail.money.toNat)).filter fun p => 0 < p.2

def amounts (l : List (Guid × ℕ)) : ℕ := (l.map Prod.snd).sum

/-- What an auction holds in escrow. -/
def escrow (a : AuctionEntry) : ℕ := if a.bidder = 0 then 0 else a.bid.toNat

def escrowTotal : ℕ :=
  (w.auctions .alliance).sumOf escrow + (w.auctions .horde).sumOf escrow +
    (w.auctions .neutral).sumOf escrow

def pursesTotal : ℕ := w.characters.sumOf fun c => c.money.toNat

/-- **All the money**: in purses, in mails, and in escrow. -/
def total : ℕ := w.pursesTotal + amounts (moneyOf w.mails) + w.escrowTotal

/-- **The money of a step**: what one character pays, and what is mailed. -/
structure Moves (w w' : AuctionWorld) (payer : Guid) (paid : ℕ) (mailed : List (Guid × ℕ)) :
    Prop where
  pays : w'.purse payer + paid = w.purse payer
  others : ∀ p, p ≠ payer → w'.purse p = w.purse p
  mails : moneyOf w'.mails = moneyOf w.mails ++ mailed

/-- A mail with an amount, if there is one. -/
def due (receiver : Guid) (amount : ℕ) : List (Guid × ℕ) :=
  if 0 < amount then [(receiver, amount)] else []

/-- A player's own standing bid. -/
def standing (a : AuctionEntry) (player : Guid) : ℕ := if a.bidder = player then a.bid.toNat else 0

/-- What an outbid player gets back: his bid. -/
def refund (a : AuctionEntry) (player : Guid) : List (Guid × ℕ) :=
  if a.bidder = 0 ∨ a.bidder = player then [] else due a.bidder a.bid.toNat

/-- What the owner of a sold auction gets: the bid and the deposit, without the cut. -/
def proceeds (env : AuctionEnv) (sold : AuctionEntry) : ℕ :=
  sold.bid.toNat + sold.deposit.toNat - (env.getAuctionCut sold).toNat

/-- **The money of each kind of step.**  A step that is of none of the kinds changes nothing. -/
inductive Settlement (env : AuctionEnv) (w w' : AuctionWorld) : Moment × Op → Prop
  | idle (op : Moment × Op) (hsame : w' = w) : Settlement env w w' op
  | posted (m : Moment) (player : Guid) (pkt : AuctionSellItem) (house : AuctionHouse)
      (a : AuctionEntry) (hnone : (w.auctions house).find? a.id = none)
      (hnew : (w'.auctions house).find? a.id = some a) (howner : a.owner = player)
      (hbidder : a.bidder = 0)
      (hmoves : Moves w w' player a.deposit.toNat [])
      (htotal : w'.total + a.deposit.toNat = w.total) :
      Settlement env w w' (m, .sellItem player pkt)
  | raised (m : Moment) (player : Guid) (pkt : AuctionPlaceBid) (house : AuctionHouse)
      (a : AuctionEntry) (ha : (w.auctions house).find? a.id = some a)
      (ha' : (w'.auctions house).find? a.id = some { a with bidder := player, bid := pkt.price })
      (hraise : a.bid < pkt.price) (howner : player ≠ a.owner)
      (hmoves : Moves w w' player (pkt.price.toNat - standing a player) (refund a player))
      (htotal : w'.total = w.total) :
      Settlement env w w' (m, .placeBid player pkt)
  | bought (m : Moment) (player : Guid) (pkt : AuctionPlaceBid) (house : AuctionHouse)
      (a sold : AuctionEntry) (ha : (w.auctions house).find? a.id = some a)
      (hgone : (w'.auctions house).find? a.id = none)
      (hsold : sold = { a with bidder := player, bid := a.buyout })
      (hraise : a.bid < sold.bid) (hprice : sold.bid ≤ pkt.price) (howner : player ≠ a.owner)
      (hmoves : Moves w w' player (sold.bid.toNat - standing a player)
        (refund a player ++ due a.owner (proceeds env sold)))
      (htotal : w'.total + (env.getAuctionCut sold).toNat = w.total + a.deposit.toNat) :
      Settlement env w w' (m, .placeBid player pkt)
  | withdrawn (m : Moment) (pkt : AuctionRemoveItem) (house : AuctionHouse) (a : AuctionEntry)
      (ha : (w.auctions house).find? a.id = some a)
      (hgone : (w'.auctions house).find? a.id = none) (hbidder : a.bidder = 0)
      (hmoves : Moves w w' 0 0 []) (htotal : w'.total = w.total) :
      Settlement env w w' (m, .removeItem a.owner pkt)
  | cancelled (m : Moment) (pkt : AuctionRemoveItem) (house : AuctionHouse) (a : AuctionEntry)
      (ha : (w.auctions house).find? a.id = some a)
      (hgone : (w'.auctions house).find? a.id = none) (hbidder : a.bidder ≠ 0)
      (hmoves : Moves w w' a.owner (env.getAuctionCut a).toNat (due a.bidder a.bid.toNat))
      (htotal : w'.total + (env.getAuctionCut a).toNat = w.total) :
      Settlement env w w' (m, .removeItem a.owner pkt)
  | expired (m : Moment) (house : AuctionHouse) (a : AuctionEntry) (stale : ℕ)
      (ha : (w.auctions house).find? a.id = some a)
      (hgone : (w'.auctions house).find? a.id = none) (hbidder : a.bidder = 0)
      (hmoves : Moves w w' 0 0 []) (htotal : w'.total = w.total) :
      Settlement env w w' (m, .expire house a.id stale)
  | sold (m : Moment) (house : AuctionHouse) (a : AuctionEntry) (stale : ℕ)
      (ha : (w.auctions house).find? a.id = some a)
      (hgone : (w'.auctions house).find? a.id = none) (hbidder : a.bidder ≠ 0)
      (hmoves : Moves w w' 0 0 (due a.owner (proceeds env a)))
      (htotal : w'.total + (env.getAuctionCut a).toNat = w.total + a.deposit.toNat) :
      Settlement env w w' (m, .expire house a.id stale)

/-- **What holds of an auction**: its deposit and its bid are below the cap; without a bidder
there is no bid, a bid is below the buyout, and the bidder is not the owner; owner and bidder
exist. -/
structure FundedAuction (w : AuctionWorld) (id : ℕ) (a : AuctionEntry) : Prop where
  id_eq : a.id = id
  deposit_le : a.deposit ≤ maxMoneyAmount
  bid_le : a.bid ≤ maxMoneyAmount
  bid_zero : a.bidder = 0 → a.bid = 0
  bid_lt_buyout : a.buyout ≠ 0 → a.bid < a.buyout
  bidder_ne_owner : a.bidder ≠ a.owner
  owner : ∃ c, w.characters.find? a.owner = some c
  bidder : a.bidder ≠ 0 → ∃ c, w.characters.find? a.bidder = some c

/-- **What holds of purses and bids.** Zero is no character's number, no purse is above the cap,
and numbers that are still to be given are not in use. -/
structure Funded (w : AuctionWorld) : Prop where
  no_zero : w.characters.find? 0 = none
  purse_le : ∀ p c, w.characters.find? p = some c → c.money ≤ maxMoneyAmount
  auction : ∀ h id a, (w.auctions h).find? id = some a → FundedAuction w id a
  id_lt : ∀ h id a, (w.auctions h).find? id = some a → id < w.nextAuctionId

/-- The same characters exist. -/
def SameCharacters (w w' : AuctionWorld) : Prop :=
  ∀ p, (w'.characters.find? p).isSome = (w.characters.find? p).isSome

/-- A character has paid an amount; what it carries may have changed, too. -/
def Pays (w w' : AuctionWorld) (player : Guid) (c : Character) (x : BitVec 32) : Prop :=
  ∃ inv, w'.characters =
    w.characters.set player { c with toPlayer := c.toPlayer.modifyMoney (-x), inventory := inv }

variable {w} {w' u : AuctionWorld} {env : AuctionEnv} {m : Moment}

/-! ## Mails and money -/

@[simp] theorem moneyOf_nil : moneyOf [] = [] := rfl

@[simp] theorem moneyOf_append (l l' : List Mail) :
    moneyOf (l ++ l') = moneyOf l ++ moneyOf l' := by
  rw [moneyOf, List.map_append, List.filter_append]
  rfl

@[simp] theorem amounts_nil : amounts [] = 0 := rfl

@[simp] theorem amounts_append (l l' : List (Guid × ℕ)) :
    amounts (l ++ l') = amounts l + amounts l' := by
  rw [amounts, List.map_append, List.sum_append]
  rfl

@[simp] theorem amounts_due (receiver : Guid) (amount : ℕ) :
    amounts (due receiver amount) = amount := by
  unfold due
  split_ifs with h
  · simp [amounts]
  · simp [amounts]
    omega

theorem moneyOf_mailTo {receiver : Guid} (h : receiver ≠ env.ahBotGuid) (a : AuctionEntry)
    (draft : MailDraft) :
    moneyOf (mailTo env receiver a draft) = due receiver draft.money.toNat := by
  rw [mailTo, if_neg h, due]
  split_ifs with hpos <;> simp [moneyOf, hpos]

variable {c : Character} {l : List Mail} {player : Guid} {x : BitVec 32} {house : AuctionHouse}
  {a b : AuctionEntry} {id id' : ℕ}

theorem moneyOf_mailIfExists {receiver : Guid} (hc : w.characters.find? receiver = some c)
    (hbot : w.characters.find? env.ahBotGuid = none) (a : AuctionEntry) (draft : MailDraft) :
    moneyOf (w.mailIfExists env m a receiver draft) = due receiver draft.money.toNat := by
  have hne : receiver ≠ env.ahBotGuid := by
    rintro rfl
    rw [hbot] at hc
    cases hc
  rw [mailIfExists, if_pos (receiverExists_of_find? m hc), moneyOf_mailTo hne]

theorem moneyOf_wonMails (a : AuctionEntry) : moneyOf (w.wonMails env m a) = [] := by
  unfold wonMails mailTo
  split
  · rfl
  · split_ifs <;> rfl

theorem moneyOf_expiredMails (a : AuctionEntry) : moneyOf (w.expiredMails env m a) = [] := by
  unfold expiredMails mailIfExists mailTo
  split
  · rfl
  · split_ifs <;> rfl

/-! ## Purses and escrow -/

theorem purse_eq {p : Guid} (h : w.characters.find? p = some c) :
    w.purse p = c.money.toNat := by
  rw [purse, h]
  rfl

theorem moves_idle (hchars : w'.characters = w.characters) (hmails : w'.mails = w.mails ++ l) :
    Moves w w' 0 0 (moneyOf l) ∧ w'.pursesTotal = w.pursesTotal := by
  refine ⟨⟨?_, fun p _ => ?_, ?_⟩, ?_⟩
  · rw [purse, purse, hchars]
    rfl
  · rw [purse, purse, hchars]
  · rw [hmails, moneyOf_append]
  · rw [pursesTotal, pursesTotal, hchars]

theorem pays_modifyMoney (hc : w.characters.find? player = some c) (x : BitVec 32) :
    Pays w (w.modifyMoney player (-x)) player c x :=
  ⟨c.inventory, characters_modifyMoney w hc _⟩

theorem moves_pay (hc : w.characters.find? player = some c)
    (hx : x ≤ c.money) (hcap : c.money ≤ maxMoneyAmount)
    (hpays : Pays w w' player c x) (hmails : w'.mails = w.mails ++ l) :
    Moves w w' player x.toNat (moneyOf l) ∧ w'.pursesTotal + x.toNat = w.pursesTotal := by
  have hpay := c.toPlayer.modifyMoney_pay hx hcap
  obtain ⟨inv, hchars⟩ := hpays
  refine ⟨⟨?_, fun p hp => ?_, ?_⟩, ?_⟩
  · rw [purse_eq hc, purse, hchars, find?_set_self]
    exact hpay
  · rw [purse, purse, hchars, find?_set_of_ne _ _ hp]
  · rw [hmails, moneyOf_append]
  · have hsum : w'.pursesTotal + c.money.toNat =
        w.pursesTotal + (c.toPlayer.modifyMoney (-x)).money.toNat := by
      rw [pursesTotal, hchars]
      exact sumOf_set hc _ _
    omega

theorem escrowTotal_update {auctions : OrderedMap ℕ AuctionEntry}
    (h : w'.auctions = Function.update w.auctions house auctions) :
    w'.escrowTotal + (w.auctions house).sumOf escrow = w.escrowTotal + auctions.sumOf escrow := by
  rw [escrowTotal, escrowTotal, h]
  cases house <;> simp only [Function.update_self, ne_eq, reduceCtorEq, not_false_eq_true,
    Function.update_of_ne] <;> omega

theorem escrowTotal_add (ha : (w.auctions house).find? b.id = some a)
    (h : w'.auctions = Function.update w.auctions house ((w.auctions house).set b.id b)) :
    w'.escrowTotal + escrow a = w.escrowTotal + escrow b := by
  have hupdate := escrowTotal_update h
  have hset := sumOf_set ha b escrow
  omega

theorem escrowTotal_new (hb : (w.auctions house).find? b.id = none)
    (h : w'.auctions = Function.update w.auctions house ((w.auctions house).set b.id b)) :
    w'.escrowTotal = w.escrowTotal + escrow b := by
  have hupdate := escrowTotal_update h
  have hset := sumOf_set_of_none hb b escrow
  omega

theorem escrowTotal_remove (ha : (w.auctions house).find? id = some a)
    (h : w'.auctions = Function.update w.auctions house ((w.auctions house).erase id)) :
    w'.escrowTotal + escrow a = w.escrowTotal := by
  have hupdate := escrowTotal_update h
  have herase := sumOf_erase ha escrow
  omega

/-! ## Each kind of step -/

theorem auctions_update_remove (u : AuctionWorld) (house : AuctionHouse) (b : AuctionEntry)
    (guid : ℕ) (h : u.auctions = w.auctions) :
    ((u.removeAItem guid).removeAuction house b).auctions =
      Function.update w.auctions house ((w.auctions house).erase b.id) := by
  rw [← h]
  rfl

theorem find?_removed
    (h : w'.auctions = Function.update w.auctions house ((w.auctions house).erase id)) :
    (w'.auctions house).find? id = none := by
  rw [h, Function.update_self, find?_erase_self]

theorem charge_toNat {a : AuctionEntry} {player : Guid} {price : BitVec 32}
    (h : a.bid < price) :
    (charge a player price).toNat = price.toNat - standing a player := by
  rw [BitVec.lt_def] at h
  unfold charge standing
  split_ifs
  · bv_omega
  · omega

theorem charge_le {a : AuctionEntry} {player : Guid} {price money : BitVec 32}
    (h : a.bid < price) (hmoney : price ≤ money) : charge a player price ≤ money := by
  have hcharge := @charge_toNat a player price h
  rw [BitVec.le_def] at hmoney ⊢
  omega

theorem moneyOf_refundMails (hw : Funded w) (hbot : w.characters.find? env.ahBotGuid = none)
    (ha : (w.auctions house).find? id = some a) (player : Guid) :
    moneyOf (w.refundMails env m a player) = refund a player := by
  unfold refundMails refund
  by_cases hnone : a.bidder = 0
  · rw [if_neg fun h => h.1.ne' hnone, if_pos (.inl hnone)]
    rfl
  · by_cases hself : a.bidder = player
    · rw [if_neg fun h => h.2 hself, if_pos (.inr hself)]
      rfl
    · obtain ⟨c, hc⟩ := (hw.auction house id a ha).bidder hnone
      rw [if_pos ⟨Nat.pos_of_ne_zero hnone, hself⟩, if_neg (not_or.mpr ⟨hnone, hself⟩),
        outbiddedMails,
        moneyOf_mailIfExists hc hbot]

section

variable (hbot : w.characters.find? env.ahBotGuid = none) {sold : AuctionEntry}
  (howner : ∃ c, w.characters.find? sold.owner = some c)
include hbot howner

theorem moneyOf_successfulMails (hbid : sold.bid ≤ maxMoneyAmount)
    (hdeposit : sold.deposit ≤ maxMoneyAmount) (hcut : env.getAuctionCut sold ≤ sold.bid) :
    moneyOf (w.successfulMails env m sold) = due sold.owner (proceeds env sold) := by
  obtain ⟨c, hc⟩ := howner
  have hmax := Player.maxMoneyAmount_toNat
  rw [BitVec.le_def] at hbid hdeposit hcut
  have hprofit : (sold.bid + sold.deposit - env.getAuctionCut sold).toNat = proceeds env sold := by
    unfold proceeds
    bv_omega
  rw [successfulMails, moneyOf_mailIfExists hc hbot, hprofit]

theorem moneyOf_salePendingMails : moneyOf (w.salePendingMails env m sold) = [] := by
  obtain ⟨c, hc⟩ := howner
  rw [salePendingMails, moneyOf_mailIfExists hc hbot]
  rfl

end

theorem Funded.escrow_eq (hw : Funded w)
    (ha : (w.auctions house).find? id = some a) : escrow a = a.bid.toNat := by
  unfold escrow
  split_ifs with hnone
  · rw [(hw.auction house id a ha).bid_zero hnone]
    rfl
  · rfl

/-- What an outbid player gets back, and a player's own standing bid, make up the escrow. -/
theorem Funded.refund_add_standing (hw : Funded w)
    (ha : (w.auctions house).find? id = some a) (player : Guid) :
    amounts (refund a player) + standing a player = a.bid.toNat := by
  unfold refund standing
  by_cases hself : a.bidder = player
  · rw [if_pos (.inr hself), if_pos hself, amounts_nil, Nat.zero_add]
  · rw [if_neg hself]
    by_cases hnone : a.bidder = 0
    · rw [if_pos (.inl hnone), (hw.auction house id a ha).bid_zero hnone]
      rfl
    · rw [if_neg (not_or.mpr ⟨hnone, hself⟩), amounts_due, Nat.add_zero]

/-! ## The invariant -/

theorem Pays.sameCharacters (h : Pays w w' player c x) (hc : w.characters.find? player = some c) :
    SameCharacters w w' := by
  obtain ⟨inv, hchars⟩ := h
  intro p
  rw [hchars, find?_set]
  split_ifs with hp
  · rw [hp, hc]
    rfl
  · rfl

/-- A step keeps the invariant when it keeps the characters, with no more money, and leaves
auctions of which it holds. -/
theorem Funded.of_characters (hw : Funded w) (hexists : SameCharacters w w')
    (hpurses : ∀ p c', w'.characters.find? p = some c' → c'.money ≤ maxMoneyAmount)
    (hauctions : ∀ h id b, (w'.auctions h).find? id = some b →
      FundedAuction w id b ∧ id < w'.nextAuctionId) : Funded w' where
  no_zero := by
    rw [← Option.not_isSome_iff_eq_none, hexists, hw.no_zero]
    simp
  purse_le := hpurses
  auction := by
    intro h id b hb
    obtain ⟨hf, -⟩ := hauctions h id b hb
    have hkeep : ∀ p, (∃ c, w.characters.find? p = some c) →
        ∃ c, w'.characters.find? p = some c := fun p hp => by
      rw [← Option.isSome_iff_exists] at hp ⊢
      rw [hexists, hp]
    exact ⟨hf.id_eq, hf.deposit_le, hf.bid_le, hf.bid_zero, hf.bid_lt_buyout,
      hf.bidder_ne_owner, hkeep _ hf.owner, fun hne => hkeep _ (hf.bidder hne)⟩
  id_lt := fun h id b hb => (hauctions h id b hb).2

theorem Funded.of_same (hw : Funded w) (hchars : w'.characters = w.characters)
    (hauctions : ∀ h id b, (w'.auctions h).find? id = some b →
      FundedAuction w id b ∧ id < w'.nextAuctionId) : Funded w' :=
  hw.of_characters (fun _ => by rw [hchars]) (fun p c hc => hw.purse_le p c (hchars ▸ hc)) hauctions

theorem Funded.of_pays (hw : Funded w) (hc : w.characters.find? player = some c) (hx : x ≤ c.money)
    (hpays : Pays w w' player c x) (hauctions : ∀ h id b, (w'.auctions h).find? id = some b →
      FundedAuction w id b ∧ id < w'.nextAuctionId) : Funded w' := by
  refine hw.of_characters (hpays.sameCharacters hc) (fun p c' hc' => ?_) hauctions
  obtain ⟨inv, hchars⟩ := hpays
  rw [hchars, find?_set] at hc'
  split_ifs at hc' with hp
  · cases hc'
    have hpay := c.toPlayer.modifyMoney_pay hx (hw.purse_le player c hc)
    have hcap := hw.purse_le player c hc
    rw [BitVec.le_def] at hcap ⊢
    dsimp only
    omega
  · exact hw.purse_le p c' hc'

theorem find?_update_set {h : AuctionHouse} {b' : AuctionEntry}
    (hauctions : w'.auctions = Function.update w.auctions house ((w.auctions house).set b.id b))
    (hb' : (w'.auctions h).find? id = some b') :
    (h = house ∧ id = b.id ∧ b' = b) ∨ (w.auctions h).find? id = some b' := by
  rw [hauctions, Function.update_apply] at hb'
  split_ifs at hb' with hh
  · rw [find?_set] at hb'
    split_ifs at hb' with hid
    · exact .inl ⟨hh, hid, (Option.some.inj hb').symm⟩
    · exact .inr (hh ▸ hb')
  · exact .inr hb'

theorem find?_update_erase {h : AuctionHouse} {b' : AuctionEntry}
    (hauctions : w'.auctions = Function.update w.auctions house ((w.auctions house).erase id'))
    (hb' : (w'.auctions h).find? id = some b') : (w.auctions h).find? id = some b' := by
  rw [hauctions, Function.update_apply] at hb'
  split_ifs at hb' with hh
  · rw [find?_erase] at hb'
    split_ifs at hb'
    exact hh ▸ hb'
  · exact hb'

/-! ## What each step does -/

/-- **A settled step**: its money is that of its kind, the invariant holds afterwards, no
character appears or disappears, and an auction that goes on keeps its bid or gets a higher
one. -/
structure Settled (env : AuctionEnv) (w w' : AuctionWorld) (op : Moment × Op) : Prop where
  settlement : Settlement env w w' op
  funded : Funded w'
  characters : SameCharacters w w'
  raises : ∀ h id a a', (w.auctions h).find? id = some a → (w'.auctions h).find? id = some a' →
    a' = a ∨ a.bid < a'.bid

theorem settled_same (hw : Funded w) (op : Moment × Op) : Settled env w w op where
  settlement := .idle op rfl
  funded := hw
  characters := fun _ => rfl
  raises := fun _ _ _ _ ha ha' => .inl (Option.some.inj (ha'.symm.trans ha))

theorem raises_of_erase
    (hauctions : w'.auctions = Function.update w.auctions house ((w.auctions house).erase id')) :
    ∀ h id a a', (w.auctions h).find? id = some a → (w'.auctions h).find? id = some a' →
      a' = a ∨ a.bid < a'.bid := by
  intro h id a a' ha ha'
  rw [find?_update_erase hauctions ha'] at ha
  exact .inl (Option.some.inj ha)

theorem settled_post (hw : Funded w) {pkt : AuctionSellItem} {seller : Character}
    {item : Item} {left : Inventory} {nextItemGuid : ℕ}
    (hseller : w.characters.find? player = some seller) (hid : a.id = w.nextAuctionId)
    (howner : a.owner = player) (hbid : a.bid = 0) (hbidder : a.bidder = 0)
    (hdeposit : a.deposit ≤ seller.money) :
    Settled env w (({ w.modifyMoney player (-a.deposit) with
      nextItemGuid := nextItemGuid }.putOnSale house a item).setInventory player left)
      (m, .sellItem player pkt) := by
  have hcap := hw.purse_le player seller hseller
  have hpaid : (w.modifyMoney player (-a.deposit)).characters.find? player =
      some { seller with toPlayer := seller.toPlayer.modifyMoney (-a.deposit) } := by
    rw [characters_modifyMoney w hseller, find?_set_self]
  have hpays : Pays w (({ w.modifyMoney player (-a.deposit) with
      nextItemGuid := nextItemGuid }.putOnSale house a item).setInventory player left) player
      seller a.deposit := by
    refine ⟨left, ?_⟩
    rw [characters_setInventory _ (by exact hpaid)]
    show (w.modifyMoney player (-a.deposit)).characters.set player _ = _
    rw [characters_modifyMoney w hseller, set_set]
  have hauctions : (({ w.modifyMoney player (-a.deposit) with
      nextItemGuid := nextItemGuid }.putOnSale house a item).setInventory player left).auctions =
      Function.update w.auctions house ((w.auctions house).set a.id a) := by
    rw [auctions_setInventory, ← auctions_modifyMoney w player (-a.deposit)]
    rfl
  have hmails : (({ w.modifyMoney player (-a.deposit) with
      nextItemGuid := nextItemGuid }.putOnSale house a item).setInventory player left).mails =
      w.mails ++ [] := by
    rw [mails_setInventory, List.append_nil, ← mails_modifyMoney w player (-a.deposit)]
    rfl
  have hnext : (({ w.modifyMoney player (-a.deposit) with
      nextItemGuid := nextItemGuid }.putOnSale house a item).setInventory player
        left).nextAuctionId = w.nextAuctionId + 1 := by
    rw [nextAuctionId_setInventory, ← nextAuctionId_modifyMoney w player (-a.deposit)]
    rfl
  generalize (({ w.modifyMoney player (-a.deposit) with
    nextItemGuid := nextItemGuid }.putOnSale house a item).setInventory player left) = w'
    at hpays hauctions hmails hnext ⊢
  have hnone : (w.auctions house).find? a.id = none := by
    by_contra hsome
    obtain ⟨b, hb⟩ := Option.ne_none_iff_exists'.mp hsome
    exact absurd (hw.id_lt house a.id b hb) (by omega)
  obtain ⟨hmoves, hpurses⟩ := moves_pay hseller hdeposit hcap hpays hmails
  have hescrow := escrowTotal_new hnone hauctions
  have hnew : FundedAuction w a.id a := by
    refine ⟨rfl, BitVec.le_trans hdeposit hcap, ?_, fun _ => hbid, fun hbuyout => ?_, ?_, ?_,
      fun hne => absurd hbidder hne⟩
    · rw [hbid, BitVec.le_def]
      exact Nat.zero_le _
    · rw [hbid, BitVec.lt_def]
      exact Nat.pos_of_ne_zero fun h => hbuyout (BitVec.eq_of_toNat_eq h)
    · rw [hbidder, howner]
      rintro rfl
      rw [hw.no_zero] at hseller
      cases hseller
    · exact ⟨seller, howner ▸ hseller⟩
  refine ⟨.posted m player pkt house a hnone ?_ howner hbidder hmoves ?_, ?_,
    hpays.sameCharacters hseller, ?_⟩
  · rw [hauctions, Function.update_self, find?_set_self]
  · rw [total, total, hmoves.mails, moneyOf_nil, List.append_nil, hescrow, escrow,
      if_pos hbidder]
    omega
  · refine hw.of_pays hseller hdeposit hpays fun h id b hb => ?_
    rw [hnext]
    rcases find?_update_set hauctions hb with ⟨-, rfl, rfl⟩ | hold
    · exact ⟨hnew, by omega⟩
    · exact ⟨hw.auction h id b hold, Nat.lt_succ_of_lt (hw.id_lt h id b hold)⟩
  · intro h id b b' hb hb'
    rcases find?_update_set hauctions hb' with ⟨rfl, rfl, rfl⟩ | hold
    · rw [hnone] at hb
      cases hb
    · exact .inl (Option.some.inj (hold.symm.trans hb))

theorem Funded.pos_of_find? (hw : Funded w)
    (h : w.characters.find? player = some c) : 0 < player := by
  refine Nat.pos_of_ne_zero ?_
  rintro rfl
  rw [hw.no_zero] at h
  cases h

theorem settled_raise (hw : Funded w) (hbot : w.characters.find? env.ahBotGuid = none)
    {pkt : AuctionPlaceBid} {bidder : Character} (hplayer : w.characters.find? player = some bidder)
    (ha : (w.auctions house).find? pkt.auctionId = some a)
    (hchecked : BidChecked env a player bidder pkt.price)
    (hlow : pkt.price < a.buyout ∨ a.buyout = 0) :
    Settled env w (w.raiseBid env m house a player pkt.price) (m, .placeBid player pkt) := by
  have hf := hw.auction house _ a ha
  have hpos := hw.pos_of_find? hplayer
  have hcap := hw.purse_le player bidder hplayer
  have hcharge := @charge_le a player pkt.price bidder.money hchecked.bid_lt hchecked.affordable
  have hcost := @charge_toNat a player pkt.price hchecked.bid_lt
  rw [raiseBid_eq w env m a house hpos]
  have hpays : Pays w (((w.modifyMoney player (-charge a player pkt.price)).withMails
      (w.refundMails env m a player)).addAuction house
        { a with bidder := player, bid := pkt.price }) player bidder
        (charge a player pkt.price) := pays_modifyMoney hplayer _
  have hmails : (((w.modifyMoney player (-charge a player pkt.price)).withMails
      (w.refundMails env m a player)).addAuction house
        { a with bidder := player, bid := pkt.price }).mails =
          w.mails ++ w.refundMails env m a player := by
    rw [mails_addAuction, mails_withMails, mails_modifyMoney]
  have hauctions : (((w.modifyMoney player (-charge a player pkt.price)).withMails
      (w.refundMails env m a player)).addAuction house
        { a with bidder := player, bid := pkt.price }).auctions = Function.update w.auctions house
          ((w.auctions house).set a.id { a with bidder := player, bid := pkt.price }) := by
    rw [← auctions_modifyMoney w player (-charge a player pkt.price)]
    rfl
  have hnext : (((w.modifyMoney player (-charge a player pkt.price)).withMails
      (w.refundMails env m a player)).addAuction house
        { a with bidder := player, bid := pkt.price }).nextAuctionId = w.nextAuctionId :=
    nextAuctionId_modifyMoney w player _
  generalize ((w.modifyMoney player (-charge a player pkt.price)).withMails
    (w.refundMails env m a player)).addAuction house
      { a with bidder := player, bid := pkt.price } = w' at hpays hmails hauctions hnext ⊢
  obtain ⟨hmoves, hpurses⟩ := moves_pay hplayer hcharge hcap hpays hmails
  rw [← hf.id_eq] at ha
  have hescrow := escrowTotal_add (b := { a with bidder := player, bid := pkt.price }) ha hauctions
  have hnew : escrow { a with bidder := player, bid := pkt.price } = pkt.price.toNat :=
    if_neg hpos.ne'
  have hold := hw.escrow_eq ha
  have hback := hw.refund_add_standing ha player
  have hlt := hchecked.bid_lt
  rw [BitVec.lt_def] at hlt
  rw [hcost, moneyOf_refundMails hw hbot ha] at hmoves
  refine ⟨.raised m player pkt house a ha ?_ hchecked.bid_lt hchecked.owner_ne.symm hmoves ?_,
    ?_, hpays.sameCharacters hplayer, ?_⟩
  · rw [hauctions, Function.update_self, find?_set_self]
  · rw [total, total, hmoves.mails, amounts_append]
    omega
  · refine hw.of_pays hplayer hcharge hpays fun h id b hb => ?_
    rw [hnext]
    rcases find?_update_set (b := { a with bidder := player, bid := pkt.price }) hauctions hb with
      ⟨rfl, rfl, rfl⟩ | hkept
    · refine ⟨?_, hw.id_lt h a.id a ha⟩
      refine ⟨rfl, hf.deposit_le, BitVec.le_trans hchecked.affordable hcap,
        fun h => absurd h hpos.ne', fun hbuyout => ?_, hchecked.owner_ne.symm, hf.owner,
        fun _ => ⟨bidder, hplayer⟩⟩
      exact hlow.resolve_right hbuyout
    · exact ⟨hw.auction h id b hkept, hw.id_lt h id b hkept⟩
  · intro h id b b' hb hb'
    rcases find?_update_set (b := { a with bidder := player, bid := pkt.price }) hauctions hb' with
      ⟨rfl, rfl, rfl⟩ | hkept
    · cases ha.symm.trans hb
      exact .inr hchecked.bid_lt
    · exact .inl (Option.some.inj (hkept.symm.trans hb))

/-! ### Endings -/

theorem Funded.auction_of_erase (hw : Funded w) {h : AuctionHouse}
    (hauctions : w'.auctions = Function.update w.auctions house ((w.auctions house).erase id'))
    (hnext : w'.nextAuctionId = w.nextAuctionId) (hb : (w'.auctions h).find? id = some b) :
    FundedAuction w id b ∧ id < w'.nextAuctionId := by
  have hold := find?_update_erase hauctions hb
  exact ⟨hw.auction h id b hold, hnext ▸ hw.id_lt h id b hold⟩

theorem remove_idle (hw : Funded w) {house : AuctionHouse} {a : AuctionEntry} {l : List Mail}
    (ha : (w.auctions house).find? a.id = some a) (hchars : w'.characters = w.characters)
    (hmails : w'.mails = w.mails ++ l)
    (hauctions : w'.auctions = Function.update w.auctions house ((w.auctions house).erase a.id))
    (hnext : w'.nextAuctionId = w.nextAuctionId) :
    Moves w w' 0 0 (moneyOf l) ∧ w'.total + a.bid.toNat = w.total + amounts (moneyOf l) ∧
      Funded w' := by
  obtain ⟨hmoves, hpurses⟩ := moves_idle hchars hmails
  have hescrow := escrowTotal_remove ha hauctions
  rw [hw.escrow_eq ha] at hescrow
  refine ⟨hmoves, ?_, hw.of_same hchars fun h id b hb =>
    hw.auction_of_erase hauctions hnext hb⟩
  rw [total, total, hmoves.mails, amounts_append]
  omega

theorem remove_pay (hw : Funded w)
    (ha : (w.auctions house).find? a.id = some a) (hc : w.characters.find? player = some c)
    (hx : x ≤ c.money) (hpays : Pays w w' player c x) (hmails : w'.mails = w.mails ++ l)
    (hauctions : w'.auctions = Function.update w.auctions house ((w.auctions house).erase a.id))
    (hnext : w'.nextAuctionId = w.nextAuctionId) :
    Moves w w' player x.toNat (moneyOf l) ∧
      w'.total + x.toNat + a.bid.toNat = w.total + amounts (moneyOf l) ∧ Funded w' := by
  obtain ⟨hmoves, hpurses⟩ := moves_pay hc hx (hw.purse_le player c hc) hpays hmails
  have hescrow := escrowTotal_remove ha hauctions
  rw [hw.escrow_eq ha] at hescrow
  refine ⟨hmoves, ?_, hw.of_pays hc hx hpays fun h id b hb =>
    hw.auction_of_erase hauctions hnext hb⟩
  rw [total, total, hmoves.mails, amounts_append]
  omega

section

variable (hw : Funded w) (hbot : w.characters.find? env.ahBotGuid = none)
include hw hbot

theorem moneyOf_buyOutMails {house : AuctionHouse} {id : ℕ} {a sold : AuctionEntry}
    (ha : (w.auctions house).find? id = some a)
    (howner : ∃ c, w.characters.find? sold.owner = some c) (hbid : sold.bid ≤ maxMoneyAmount)
    (hdeposit : sold.deposit ≤ maxMoneyAmount) (hcut : env.getAuctionCut sold ≤ sold.bid)
    (player : Guid) :
    moneyOf (w.buyOutMails env m a sold player) =
      refund a player ++ due sold.owner (proceeds env sold) := by
  rw [buyOutMails, moneyOf_append, moneyOf_append, moneyOf_append, moneyOf_refundMails hw hbot ha,
    moneyOf_salePendingMails hbot howner,
    moneyOf_successfulMails hbot howner hbid hdeposit hcut, moneyOf_wonMails, List.append_nil,
    List.nil_append]

theorem settled_buyout (hcut : ∀ a, env.getAuctionCut a ≤ a.bid) {pkt : AuctionPlaceBid}
    {bidder : Character} (hplayer : w.characters.find? player = some bidder)
    (ha : (w.auctions house).find? pkt.auctionId = some a)
    (hchecked : BidChecked env a player bidder pkt.price)
    (hhigh : a.buyout ≠ 0 ∧ a.buyout ≤ pkt.price) :
    Settled env w (w.buyOut env m house a player) (m, .placeBid player pkt) := by
  have hf := hw.auction house _ a ha
  have hlt := hf.bid_lt_buyout hhigh.1
  have hafford := BitVec.le_trans hhigh.2 hchecked.affordable
  have hcharge := @charge_le a player a.buyout bidder.money hlt hafford
  have hcost := @charge_toNat a player a.buyout hlt
  have hmoney := @moneyOf_buyOutMails w env m hw hbot house _ a
    { a with bidder := player, bid := a.buyout } ha hf.owner
    (BitVec.le_trans hafford (hw.purse_le player bidder hplayer)) hf.deposit_le (hcut _) player
  have hsale := hcut { a with bidder := player, bid := a.buyout }
  rw [buyOut_eq]
  generalize hsold : { a with bidder := player, bid := a.buyout } = sold at hmoney hsale ⊢
  have hid : sold.id = a.id := hsold ▸ rfl
  have howner : sold.owner = a.owner := hsold ▸ rfl
  have hbid : sold.bid = a.buyout := hsold ▸ rfl
  have hdeposit : sold.deposit = a.deposit := hsold ▸ rfl
  have hpays : Pays w ((((w.modifyMoney player (-charge a player a.buyout)).withMails
      (w.buyOutMails env m a sold player)).removeAItem a.itemGuidlow).removeAuction house sold)
        player bidder (charge a player a.buyout) := pays_modifyMoney hplayer _
  have hmails : ((((w.modifyMoney player (-charge a player a.buyout)).withMails
      (w.buyOutMails env m a sold player)).removeAItem a.itemGuidlow).removeAuction house
        sold).mails = w.mails ++ w.buyOutMails env m a sold player := by
    rw [← mails_modifyMoney w player (-charge a player a.buyout)]
    rfl
  have hauctions := auctions_update_remove ((w.modifyMoney player (-charge a player
    a.buyout)).withMails (w.buyOutMails env m a sold player)) house sold a.itemGuidlow
      (auctions_modifyMoney w player (-charge a player a.buyout))
  rw [hid] at hauctions
  rw [← hf.id_eq] at ha
  obtain ⟨hmoves, htotal, hfunded⟩ := remove_pay hw ha hplayer hcharge hpays hmails hauctions
    (nextAuctionId_modifyMoney w player _)
  have hback := hw.refund_add_standing ha player
  rw [hmoney, amounts_append, amounts_due, proceeds, hbid, hdeposit] at htotal
  rw [hcost, hmoney, howner] at hmoves
  rw [BitVec.le_def, hbid] at hsale
  have hraise := hlt
  rw [BitVec.lt_def] at hlt
  refine ⟨.bought m player pkt house a sold ha (find?_removed hauctions) hsold.symm
    (hbid ▸ hraise) (hbid ▸ hhigh.2) hchecked.owner_ne.symm (hbid ▸ hmoves) ?_, hfunded,
    hpays.sameCharacters hplayer, raises_of_erase hauctions⟩
  omega

theorem settled_cancel {pkt : AuctionRemoveItem} {owner : Character}
    (howner : w.characters.find? a.owner = some owner)
    (ha : (w.auctions house).find? pkt.auctionId = some a)
    (hafford : 0 < a.bidder → env.getAuctionCut a ≤ owner.money) (item : Item) :
    Settled env w (w.cancelAuction env m house a a.owner item) (m, .removeItem a.owner pkt) := by
  have hf := hw.auction house _ a ha
  have hne : a.owner ≠ env.ahBotGuid := by
    intro heq
    rw [heq, hbot] at howner
    cases howner
  rw [← hf.id_eq] at ha
  rw [cancelAuction_eq]
  by_cases hnone : a.bidder = 0
  · have hmoney : moneyOf (w.cancelMails env m a item a.owner) = [] := by
      rw [cancelMails, if_neg fun h => h.ne' hnone, List.nil_append, moneyOf_mailTo hne]
      rfl
    have hbid := hf.bid_zero hnone
    have hauctions := auctions_update_remove (w.withMails (w.cancelMails env m a item a.owner))
      house a a.itemGuidlow rfl
    rw [if_neg fun h => h.ne' hnone]
    obtain ⟨hmoves, htotal, hfunded⟩ := @remove_idle w (((w.withMails (w.cancelMails env m a item
      a.owner)).removeAItem a.itemGuidlow).removeAuction house a) hw house a _ ha rfl rfl hauctions
      rfl
    rw [hmoney] at hmoves htotal
    rw [hbid] at htotal
    exact ⟨.withdrawn m pkt house a ha (find?_removed hauctions) hnone hmoves htotal, hfunded,
      fun _ => rfl, raises_of_erase hauctions⟩
  · obtain ⟨c, hc⟩ := hf.bidder hnone
    have hpos := Nat.pos_of_ne_zero hnone
    have hmoney : moneyOf (w.cancelMails env m a item a.owner) = due a.bidder a.bid.toNat := by
      rw [cancelMails, if_pos hpos, moneyOf_append, moneyOf_mailTo hne, cancelledToBidderMails,
        moneyOf_mailIfExists hc hbot]
      exact List.append_nil _
    have hauctions := auctions_update_remove ((w.modifyMoney a.owner
      (-env.getAuctionCut a)).withMails (w.cancelMails env m a item a.owner)) house a
        a.itemGuidlow (auctions_modifyMoney w a.owner _)
    rw [if_pos hpos]
    have hpays : Pays w ((((w.modifyMoney a.owner (-env.getAuctionCut a)).withMails
        (w.cancelMails env m a item a.owner)).removeAItem a.itemGuidlow).removeAuction house a)
          a.owner owner (env.getAuctionCut a) := pays_modifyMoney howner _
    have hmails : ((((w.modifyMoney a.owner (-env.getAuctionCut a)).withMails
        (w.cancelMails env m a item a.owner)).removeAItem a.itemGuidlow).removeAuction house
          a).mails = w.mails ++ w.cancelMails env m a item a.owner := by
      rw [← mails_modifyMoney w a.owner (-env.getAuctionCut a)]
      rfl
    obtain ⟨hmoves, htotal, hfunded⟩ := remove_pay hw ha howner (hafford hpos) hpays hmails
      hauctions (nextAuctionId_modifyMoney w a.owner _)
    rw [hmoney] at hmoves htotal
    rw [amounts_due] at htotal
    refine ⟨.cancelled m pkt house a ha (find?_removed hauctions) hnone hmoves ?_, hfunded,
      hpays.sameCharacters howner, raises_of_erase hauctions⟩
    omega

theorem settled_expire (hcut : ∀ a, env.getAuctionCut a ≤ a.bid)
    (ha : (w.auctions house).find? id = some a) (stale : ℕ) :
    Settled env w (((w.sendEndMails env m a).removeAuction house a).removeAItem stale)
      (m, .expire house id stale) := by
  have hf := hw.auction house id a ha
  obtain rfl := hf.id_eq
  rw [sendEndMails_eq]
  have hauctions := auctions_update_remove (w.withMails (w.endMails env m a)) house a stale rfl
  obtain ⟨hmoves, htotal, hfunded⟩ := @remove_idle w (((w.withMails (w.endMails env m
    a)).removeAItem stale).removeAuction house a) hw house a _ ha rfl rfl hauctions
      rfl
  by_cases hnone : a.bidder = 0
  · have hmoney : moneyOf (w.endMails env m a) = [] := by
      rw [endMails, if_pos hnone, moneyOf_expiredMails]
    have hbid := hf.bid_zero hnone
    rw [hmoney] at hmoves htotal
    rw [hbid] at htotal
    exact ⟨.expired m house a stale ha (find?_removed hauctions) hnone hmoves htotal, hfunded,
      fun _ => rfl, raises_of_erase hauctions⟩
  · have hmoney : moneyOf (w.endMails env m a) = due a.owner (proceeds env a) := by
      rw [endMails, if_neg hnone, moneyOf_append, moneyOf_wonMails, List.append_nil,
        moneyOf_successfulMails hbot hf.owner hf.bid_le hf.deposit_le (hcut a)]
    have hle := hcut a
    rw [BitVec.le_def] at hle
    rw [hmoney] at hmoves htotal
    rw [amounts_due, proceeds] at htotal
    refine ⟨.sold m house a stale ha (find?_removed hauctions) hnone hmoves ?_, hfunded,
      fun _ => rfl, raises_of_erase hauctions⟩
    have hkey : (((w.withMails (w.endMails env m a)).removeAuction house a).removeAItem
      stale).total = (((w.withMails (w.endMails env m a)).removeAItem stale).removeAuction house
        a).total := rfl
    omega

end

/-! ## Runs -/

/-- Everything but the startup of the server. -/
def IsTrade (op : Moment × Op) : Prop :=
  match op with
  | (_, .startup) => False
  | _ => True

theorem settled_step (hcut : ∀ a, env.getAuctionCut a ≤ a.bid) (hw : Funded w)
    (hbot : w.characters.find? env.ahBotGuid = none) {op : Moment × Op} (hop : IsTrade op) :
    Settled env w (step env w op) op := by
  have houtcome := step_outcome env w op
  generalize step env w op = w' at houtcome ⊢
  cases houtcome with
  | same => exact settled_same hw op
  | post m player pkt seller house a item left nextItemGuid hseller hitem hleft hid hguid howner
      hbid hbidder hdeposit =>
    exact settled_post hw hseller hid howner hbid hbidder hdeposit
  | raise m player pkt house a bidder honline hbidder ha hchecked hlow =>
    exact settled_raise hw hbot hbidder ha hchecked hlow
  | buyout m player pkt house a bidder honline hbidder ha hchecked hhigh =>
    exact settled_buyout hw hbot hcut hbidder ha hchecked hhigh
  | cancel m player pkt house a owner item honline hcharacter ha howner hitem hafford =>
    subst howner
    exact settled_cancel hw hbot hcharacter ha hafford item
  | expire m house id stale a ha => exact settled_expire hw hbot hcut ha stale
  | startup m => exact hop.elim

/-- **The money over every run** of trades among characters that are not the bot's: every step is
settled, so that the money changes only by the house's cut and by the deposit, who pays and who is
mailed what is as it should be, and bids only rise; and no bidder is the owner. -/
theorem settled (hcut : ∀ a, env.getAuctionCut a ≤ a.bid) (hw : Funded w)
    (hbot : w.characters.find? env.ahBotGuid = none) {ops : List (Moment × Op)}
    {op : Moment × Op} (hops : Admissible (step env) (fun _ op => IsTrade op) w (ops ++ [op])) :
    Settled env (Commons.run (step env) w ops) (Commons.run (step env) w (ops ++ [op])) op ∧
      ∀ h id a, ((Commons.run (step env) w (ops ++ [op])).auctions h).find? id = some a →
        a.bidder ≠ a.owner := by
  rw [admissible_append] at hops
  obtain ⟨hops, hop, -⟩ := hops
  obtain ⟨hfunded, hnobot⟩ := run_invariant
    (fun w : AuctionWorld => Funded w ∧ w.characters.find? env.ahBotGuid = none)
    (fun w op hinv hop => by
      have hsettled := settled_step hcut hinv.1 hinv.2 hop
      refine ⟨hsettled.funded, ?_⟩
      rw [← Option.not_isSome_iff_eq_none, hsettled.characters, hinv.2]
      simp) ⟨hw, hbot⟩ hops
  rw [run_append]
  have hsettled := settled_step hcut hfunded hnobot hop
  exact ⟨hsettled, fun h id a ha => (hsettled.funded.auction h id a ha).bidder_ne_owner⟩

theorem funded_tradeWorld : Funded tradeWorld where
  no_zero := by decide +kernel
  purse_le := by
    intro p c hc
    rw [tradeWorld, find?_set] at hc
    split_ifs at hc
    · cases hc
      decide
    · rw [sampleWorld, find?_set] at hc
      split_ifs at hc
      · cases hc
        decide
      · cases hc
  auction := fun _ _ _ ha => by cases ha
  id_lt := fun _ _ _ ha => by cases ha

/-- The bid of the buyer. -/
theorem settled_bid :
    Settled sampleEnv (Commons.run (step sampleEnv) tradeWorld [(sampleMoment,
        .sellItem 7 ⟨50, [(1, 5)], 10, 0, 720⟩)])
      (Commons.run (step sampleEnv) tradeWorld postAndBid)
      (sampleMoment, .placeBid 9 ⟨50, 1, 20⟩) :=
  (settled (fun _ => Nat.zero_le _) funded_tradeWorld (by decide +kernel)
    (by exact ⟨trivial, trivial, trivial⟩)).1

/-- The same tables, with the seller's character for the bot's. -/
def botEnv : AuctionEnv := { sampleEnv with ahBotGuid := 7 }

/-- A stack with a buyout of thirty. -/
def postWithBuyout : List (Moment × Op) :=
  [(sampleMoment, .sellItem 7 ⟨50, [(1, 5)], 10, 30, 720⟩)]

/-- **The bot's proceeds are lost**: who buys from the bot's character pays, and nobody is
mailed. -/
theorem not_settled_bot :
    ¬ ∀ (env : AuctionEnv) (w : AuctionWorld) (ops : List (Moment × Op)) (op : Moment × Op),
      (∀ a, env.getAuctionCut a ≤ a.bid) → Funded w →
      Admissible (step env) (fun _ op => IsTrade op) w (ops ++ [op]) →
      Settled env (Commons.run (step env) w ops) (Commons.run (step env) w (ops ++ [op])) op := by
  intro hall
  have hsettled := hall botEnv tradeWorld postWithBuyout (sampleMoment, .placeBid 9 ⟨50, 1, 30⟩)
    (fun _ => Nat.zero_le _) funded_tradeWorld ⟨trivial, trivial, trivial⟩
  have hbefore : (Commons.run (step botEnv) tradeWorld postWithBuyout).total = 9900 := by
    decide +kernel
  have hafter : (Commons.run (step botEnv) tradeWorld
      (postWithBuyout ++ [(sampleMoment, .placeBid 9 ⟨50, 1, 30⟩)])).total = 9870 := by
    decide +kernel
  have hcut : ∀ a, (botEnv.getAuctionCut a).toNat = 0 := fun _ => rfl
  cases hsettled.settlement with
  | idle op hsame =>
    have htotal := congrArg total hsame
    omega
  | raised m player pkt house a ha ha' hraise howner hmoves htotal => omega
  | bought m player pkt house a sold ha hgone hsold hraise hprice howner hmoves htotal =>
    rw [hcut] at htotal
    omega

end AuctionWorld

end TeraCore
