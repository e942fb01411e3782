import TeraCore.Commons.Run
import TeraCore.Mails.Belongings

/-!
# Cash on delivery

An item in a mail with a charge is given out against the charge: it goes into the inventory in the
very request that takes the charge from the purse and sends it to the mail's sender.

The handler pays the charge of the mail that the client names, and looks for the item that the
client names in all of the mails.  So the charge is collected exactly as long as the client names
the mail that the item is in, and the sender can be written to.  No other request brings an item
into an inventory.

## Main results

* `World.chargesCollected_iff`: over whole runs, the two go together
-/

namespace TeraCore.Mails

open Commons

namespace World

/-- **The charge of a mail was paid**: taken from the purse, sent to who asked for it in a mail of
its own, and the mail does not ask for it any more. -/
structure ChargePaid (w w' : World) (guid : Guid) (mail : Mail) : Prop where
  taken : ∃ p p', w.playerOf guid = some p ∧ w'.playerOf guid = some p' ∧
    p'.money.toNat + mail.cod.toNat = p.money.toNat
  sent : ∃ pay ∈ w'.mails, pay.messageID = w.nextMailId ∧ pay.receiver = mail.sender ∧
    pay.sender = guid ∧ pay.money = mail.cod
  settled : ∃ rest ∈ w'.mails, rest.receiver = guid ∧ rest.messageID = mail.messageID ∧
    rest.cod = 0

/-- **Charges are collected**: an item of a mail with a charge that a request brings into the
inventory of the mail's receiver is paid for. -/
def ChargesCollected (env : Env) (w : World) (r : Request) : Prop :=
  ∀ mail ∈ w.mails, mail.cod ≠ 0 → ∀ item : Item, item.guid ∈ mail.items →
    Enters w (w.answer env r) mail.receiver item →
      ChargePaid w (w.answer env r) mail.receiver mail

/-- **The mail of the item is named**: where everything is in order for an item to be taken, every
mail with a charge that the item is in is the one that the request names, and was sent by a
character that mail can be sent to. -/
def NamesCharge (env : Env) (w : World) (r : Request) : Prop :=
  match r.op with
  | .takeItem mailbox mailId itemId =>
    ∀ player named item inventory,
      w.TakeGranted env r.moment r.guid mailbox mailId itemId player named item inventory →
        ∀ mail ∈ w.mails, mail.receiver = r.guid → mail.cod ≠ 0 → itemId ∈ mail.items →
          mail.messageID = mailId ∧ (∃ c, w.characters.find? mail.sender = some c) ∧
            mail.sender ≠ env.ahBotGuid
  | _ => True

/-- No purse holds more than it may. -/
def PursesCapped (w : World) : Prop := ∀ g p, w.playerOf g = some p → p.money ≤ maxMoneyAmount

variable {w : World} {env : Env} {m : Moment} {guid mailbox : Guid} {mailId itemId : ℕ}
  {player : Character} {mail : Mail} {item : Item} {inventory : Inventory}

/-! ## Purses -/

theorem playerOf_modifyMoney {p : Player} (h : w.playerOf guid = some p) (d : BitVec 32)
    (g : Guid) :
    (w.modifyMoney guid d).playerOf g =
      if g = guid then some (p.modifyMoney d) else w.playerOf g := by
  rw [playerOf, Option.map_eq_some_iff] at h
  obtain ⟨c, hc, rfl⟩ := h
  rw [modifyMoney, playerOf, characters_update hc, OrderedMap.find?_set]
  split_ifs
  · rfl
  · rfl

theorem playerOf_payCOD {p : Player} (h : w.playerOf guid = some p) (g : Guid) :
    (w.payCOD env m guid player mail).playerOf g =
      if g = guid then some (p.modifyMoney (-mail.cod)) else w.playerOf g := by
  cases hsender : w.characters.find? mail.sender with
  | none => rw [payCOD_of_none hsender, playerOf_modifyMoney h]
  | some c =>
    rw [payCOD_eq (playerOf_of_find? hsender), playerOf_modifyMoney ?_, playerOf_sendMailTo]
    rw [playerOf_sendMailTo]
    exact h

theorem playerOf_takeItem {p : Player} (h : w.playerOf guid = some p) (g : Guid) :
    (w.takeItem env m guid mailId itemId player mail item inventory).playerOf g =
      if g = guid ∧ mail.cod ≠ 0 then some (p.modifyMoney (-mail.cod)) else w.playerOf g := by
  have hplain : ∀ w₁ : World, (((w₁.removeMItems guid [item.guid]).setInventory guid
      inventory).saveMail guid).playerOf g = w₁.playerOf g := by
    intro w₁
    have hremoved : (w₁.removeMItems guid [item.guid]).playerOf g = w₁.playerOf g :=
      part_removeMItems apartFromMail_toPlayer [item.guid] g
    rw [← hremoved]
    exact part_update (f := fun c => { c with inventory := inventory }) (fun _ => rfl) g
  rw [takeItem, hplain]
  by_cases hcod : mail.cod = 0
  · simp only [hcod, ne_eq, not_true_eq_false, if_false, and_false]
    rfl
  · simp only [hcod, ne_eq, not_false_eq_true, if_true, and_true]
    exact playerOf_payCOD (w := w.modifyMail guid mailId fun mail => mail.itemTaken itemId) h g

theorem TakeGranted.playerOf
    (h : w.TakeGranted env m guid mailbox mailId itemId player mail item inventory) :
    w.playerOf guid = some player.toPlayer := playerOf_of_find? h.player_eq

/-- **Requests keep the purses within bounds.** -/
theorem PursesCapped.answer (h : w.PursesCapped) (r : Request) : (w.answer env r).PursesCapped := by
  intro g p hp
  by_cases hop : ∃ mailbox mailId itemId, r.op = .takeItem mailbox mailId itemId
  · obtain ⟨m, guid, op⟩ := r
    obtain ⟨mailbox, mailId, itemId, rfl⟩ := hop
    rcases handleMailTakeItem_cases (w := w) with ⟨player, mail, item, inventory, hgranted⟩ | hw
    · rw [World.answer, handleMailbox, handleMailTakeItem_of_granted hgranted,
        playerOf_takeItem hgranted.playerOf] at hp
      split_ifs at hp with hg
      · cases hp
        have hcap := h guid player.toPlayer hgranted.playerOf
        have hpay := player.toPlayer.modifyMoney_pay hgranted.enough hcap
        rw [BitVec.le_def] at hcap ⊢
        omega
      · exact h g p hp
    · rw [World.answer, handleMailbox, hw] at hp
      exact h g p hp
  · have hsame : (w.answer env r).playerOf g = w.playerOf g := part_answer apartFromMail_toPlayer
      (fun mailbox mailId itemId heq => hop ⟨mailbox, mailId, itemId, heq⟩) g
    exact h g p (hsame ▸ hp)

/-! ## One request -/

theorem mem_takeItem {rest : Mail}
    (h : rest ∈ (w.takeItem env m guid mailId itemId player mail item inventory).mails) :
    (∃ new ∈ w.chargeMail env m mail, saved guid new = rest) ∨
      ∃ old ∈ modifyFirst (isMail guid mailId) (fun mail => mail.itemTaken itemId) w.mails,
        saved guid old = rest := by
  rw [mails_takeItem, mem_saveMail] at h
  obtain ⟨old, hold, -, hsaved⟩ := h
  rcases List.mem_append.mp hold with hnew | hold
  · exact .inl ⟨old, hnew, hsaved⟩
  · exact .inr ⟨old, hold, hsaved⟩

theorem named_of_settled (hnumbered : w.Numbered) {charged rest : Mail}
    (hcharged : charged ∈ w.mails) (hcod : charged.cod ≠ 0)
    (hrest : rest ∈ (w.takeItem env m guid mailId itemId player mail item inventory).mails)
    (hid : rest.messageID = charged.messageID) (hsettled : rest.cod = 0) :
    charged.messageID = mailId := by
  rcases mem_takeItem hrest with ⟨new, hnew, rfl⟩ | ⟨old, hold, rfl⟩
  · -- a new mail has a number that no mail had
    rw [saved_messageID] at hid
    have hnext : new.messageID = w.nextMailId := by
      unfold chargeMail at hnew
      split_ifs at hnew
      · rw [List.mem_singleton.mp hnew]
        rfl
      · cases hnew
    have hlt := hnumbered.below charged hcharged
    omega
  · rw [saved_messageID] at hid
    rw [saved_cod] at hsettled
    rcases mem_modifyFirst hold with hmem | ⟨named, hnamed, rfl⟩
    · obtain rfl := List.inj_on_of_nodup_map hnumbered.nodup hmem hcharged hid
      exact absurd hsettled hcod
    · exact hid.symm.trans ((find?_isMail hnumbered).mp hnamed).2.2

theorem sender_of_sent (hnumbered : w.Numbered) {pay : Mail}
    (hpay : pay ∈ (w.takeItem env m guid mailId itemId player mail item inventory).mails)
    (hid : pay.messageID = w.nextMailId) :
    (∃ c, w.characters.find? mail.sender = some c) ∧ mail.sender ≠ env.ahBotGuid := by
  rcases mem_takeItem hpay with ⟨new, hnew, rfl⟩ | ⟨old, hold, rfl⟩
  · unfold chargeMail at hnew
    split_ifs at hnew with hthere
    · exact ⟨Option.isSome_iff_exists.mp hthere.2.1, hthere.2.2⟩
    · cases hnew
  · -- the mails that were there have other numbers
    rw [saved_messageID] at hid
    have hlt : old.messageID < w.nextMailId := by
      rcases mem_modifyFirst hold with hmem | ⟨named, hnamed, rfl⟩
      · exact hnumbered.below old hmem
      · exact hnumbered.below named (List.mem_of_find?_eq_some hnamed)
    omega

section

variable (hnumbered : w.Numbered) (hpurses : w.PursesCapped)
  (h : w.TakeGranted env m guid mailbox mailId itemId player mail item inventory)
include hnumbered hpurses h

theorem chargePaid_named (hcod : mail.cod ≠ 0)
    (hsender : ∃ c, w.characters.find? mail.sender = some c) (hbot : mail.sender ≠ env.ahBotGuid) :
    ChargePaid w (w.takeItem env m guid mailId itemId player mail item inventory) guid mail := by
  obtain ⟨⟨-, hfind⟩, hstate, -⟩ := openMail_eq_some.mp h.open_eq
  obtain ⟨hmem, hguid, hid⟩ := (find?_isMail hnumbered).mp hfind
  have hthere : (w.characters.find? mail.sender).isSome = true :=
    Option.isSome_iff_exists.mpr hsender
  refine ⟨⟨player.toPlayer, player.toPlayer.modifyMoney (-mail.cod), h.playerOf, ?_, ?_⟩, ?_, ?_⟩
  · rw [playerOf_takeItem h.playerOf, if_pos ⟨rfl, hcod⟩]
  · exact player.toPlayer.modifyMoney_pay h.enough (hpurses guid _ h.playerOf)
  · set pay := ((MailDraft.ofText mail.subject "").addMoney mail.cod).mailTo w.nextMailId .normal
      mail.receiver mail.sender m.now .codPayment with hpay
    refine ⟨saved guid pay, ?_, ?_, ?_, ?_, ?_⟩
    · rw [mails_takeItem, mem_saveMail]
      refine ⟨pay, List.mem_append_left _ ?_, fun hdeleted => ?_, rfl⟩
      · rw [chargeMail, if_pos ⟨hcod, hthere, hbot⟩]
        exact List.mem_singleton_self _
      · cases hdeleted.2
    · exact saved_messageID
    · exact saved_receiver
    · rw [saved_sender]
      exact hguid
    · exact saved_money
  · refine ⟨saved guid (mail.itemTaken itemId), ?_, ?_, ?_, ?_⟩
    · rw [mails_takeItem, mem_saveMail]
      refine ⟨mail.itemTaken itemId, List.mem_append_right _ ?_, fun hdeleted => ?_, rfl⟩
      · exact mem_modifyFirst_of_find? hfind
      · cases hdeleted.2
    · exact saved_receiver.trans hguid
    · exact saved_messageID
    · exact saved_cod

theorem chargePaid_iff {charged : Mail} (hcharged : charged ∈ w.mails)
    (hreceiver : charged.receiver = guid) (hcod : charged.cod ≠ 0) :
    ChargePaid w (w.takeItem env m guid mailId itemId player mail item inventory) guid charged ↔
      charged.messageID = mailId ∧ (∃ c, w.characters.find? charged.sender = some c) ∧
        charged.sender ≠ env.ahBotGuid := by
  obtain ⟨⟨-, hfind⟩, -, -⟩ := openMail_eq_some.mp h.open_eq
  have hsame : charged.messageID = mailId → charged = mail := fun hnamed =>
    Option.some.inj (((find?_isMail hnumbered).mpr ⟨hcharged, hreceiver, hnamed⟩).symm.trans hfind)
  constructor
  · rintro ⟨-, ⟨pay, hpay, hpayid, -, -, -⟩, rest, hrest, -, hrestid, hsettled⟩
    have hnamed := named_of_settled hnumbered hcharged hcod hrest hrestid hsettled
    obtain rfl := hsame hnamed
    exact ⟨hnamed, sender_of_sent hnumbered hpay hpayid⟩
  · rintro ⟨hnamed, hsender, hbot⟩
    obtain rfl := hsame hnamed
    exact chargePaid_named hnumbered hpurses h hcod hsender hbot

end

theorem not_enters_of_carried {w' : World}
    (h : ∀ g entry, w'.carried g entry = w.carried g entry) (g : Guid) (item : Item) :
    ¬ Enters w w' g item := by
  rintro ⟨-, -, hmore⟩
  rw [h] at hmore
  exact Nat.lt_irrefl _ hmore

theorem chargesCollected_step (hstores : env.Stores) (hnumbered : w.Numbered)
    (hpurses : w.PursesCapped) (hfiled : w.Filed) (r : Request) :
    ChargesCollected env w r ↔ NamesCharge env w r := by
  obtain ⟨m, guid, op⟩ := r
  have hother : (∀ mailbox mailId itemId, op ≠ .takeItem mailbox mailId itemId) →
      ChargesCollected env w ⟨m, guid, op⟩ := by
    intro hop mail _ _ item _ henters
    exact absurd henters (not_enters_of_carried (carried_answer hop) mail.receiver item)
  cases op with
  | markAsRead mailbox mailId => exact iff_of_true (hother (by simp)) trivial
  | delete mailbox mailId => exact iff_of_true (hother (by simp)) trivial
  | returnToSender mailbox mailId => exact iff_of_true (hother (by simp)) trivial
  | takeItem mailbox mailId itemId =>
    constructor
    · intro hcollects player named item inventory hgranted charged hcharged hreceiver hcod hlisted
      have hpaid := hcollects charged hcharged hcod item
      rw [answer, handleMailbox, handleMailTakeItem_of_granted hgranted, hreceiver] at hpaid
      rw [(hgranted.mItem?_eq hfiled).2.1] at hpaid
      exact (chargePaid_iff hnumbered hpurses hgranted hcharged hreceiver hcod).mp
        (hpaid hlisted ((enters_takeItem hstores hfiled hgranted item).mpr ⟨rfl, rfl⟩))
    · intro hnames charged hcharged hcod item hlisted henters
      rw [answer, handleMailbox] at *
      rcases handleMailTakeItem_cases (w := w) with ⟨player, named, taken, inventory, hgranted⟩ | hw
      · rw [handleMailTakeItem_of_granted hgranted] at henters ⊢
        obtain ⟨hreceiver, rfl⟩ := (enters_takeItem hstores hfiled hgranted item).mp henters
        rw [(hgranted.mItem?_eq hfiled).2.1] at hlisted
        rw [hreceiver]
        exact (chargePaid_iff hnumbered hpurses hgranted hcharged hreceiver hcod).mpr
          (hnames player named item inventory hgranted charged hcharged hreceiver hcod hlisted)
      · rw [hw] at henters
        exact absurd henters (not_enters_of_carried (fun _ _ => rfl) charged.receiver item)

/-- **When charges are collected.** Over a whole run of requests, every item of a mail with a charge
that enters the receiver's inventory is paid for, exactly if every request names the mail that its
item is in. -/
theorem chargesCollected_iff {rs : List Request} (hstores : env.Stores) (hnumbered : w.Numbered)
    (hpurses : w.PursesCapped) (hfiled : w.Filed) :
    Admissible (answer env) (ChargesCollected env) w rs ↔
      Admissible (answer env) (NamesCharge env) w rs := by
  induction rs generalizing w with
  | nil => exact Iff.rfl
  | cons r rs ih =>
    rw [admissible_cons, admissible_cons, chargesCollected_step hstores hnumbered hpurses hfiled,
      ih (hnumbered.answer r) (hpurses.answer r) (hfiled.answer r)]

/-! ## A mailbox with two mails -/

/-- A thing that is sent for fifty copper. -/
def parcel : Item := ⟨77, 5, 1, false, 0⟩

/-- The first character has a mail without anything in it, and a parcel that costs fifty copper. -/
def delivery : World where
  characters := (OrderedMap.empty.set 1
    { newcomer 1 80 with mItems := OrderedMap.empty.set 77 parcel }).set 2 (newcomer 2 0)
  mails :=
    [⟨2, .normal, 0, 2, 1, "", "", [77], 0, 0, 50, 0, .unchanged⟩,
      ⟨1, .normal, 0, 2, 1, "", "", [], 0, 0, 0, 0, .unchanged⟩]
  nextMailId := 3

theorem numbered_delivery : delivery.Numbered :=
  ⟨by decide, by decide⟩

theorem pursesCapped_delivery : delivery.PursesCapped := by
  intro g p hp
  rw [playerOf, delivery, OrderedMap.find?_set, OrderedMap.find?_set] at hp
  split_ifs at hp
  · cases hp
    decide
  · cases hp
    decide
  · cases hp

theorem filed_parcel {c : Character} (hc : c.mItems = OrderedMap.empty.set 77 parcel)
    (mails : List Mail) (nextMailId : ℕ) :
    Filed ⟨(OrderedMap.empty.set 1 c).set 2 (newcomer 2 0), mails, nextMailId⟩ := by
  intro g i item hitem
  rw [mItem?, OrderedMap.find?_set, OrderedMap.find?_set] at hitem
  split_ifs at hitem
  · cases hitem
  · rw [Option.bind_some, hc, OrderedMap.find?_set] at hitem
    split_ifs at hitem with hi
    · cases hitem
      exact ⟨hi.symm, Nat.one_pos⟩
    · cases hitem
  · cases hitem

theorem filed_delivery : delivery.Filed := filed_parcel rfl _ _

theorem stores_plainEnv : plainEnv.Stores := by
  intro inventory item inventory' hstore entry
  simp only [plainEnv] at hstore
  split_ifs at hstore with hnew
  cases hstore
  exact Inventory.total_addItem hnew.2 hnew.1 entry

/-- The parcel is taken out of its own mail: it is paid for, and it is in the inventory. -/
theorem chargesCollected_delivery :
    Admissible (answer plainEnv) (ChargesCollected plainEnv) delivery
        [⟨atMailbox, 1, .takeItem 7 2 77⟩] ∧
      Enters delivery (delivery.answer plainEnv ⟨atMailbox, 1, .takeItem 7 2 77⟩) 1 parcel := by
  refine ⟨(chargesCollected_iff stores_plainEnv numbered_delivery pursesCapped_delivery
    filed_delivery).mpr ⟨?_, trivial⟩, by decide +kernel⟩
  intro player named item inventory _ charged hcharged _ hcod _
  have hparcel : charged = ⟨2, .normal, 0, 2, 1, "", "", [77], 0, 0, 50, 0, .unchanged⟩ := by
    rcases List.mem_cons.mp hcharged with rfl | hrest
    · rfl
    · rw [List.mem_singleton.mp hrest] at hcod
      exact absurd rfl hcod
  rw [hparcel]
  exact ⟨rfl, ⟨newcomer 2 0, rfl⟩, by decide⟩

/-- **The parcel for nothing.** It is taken out by way of the mail that costs nothing. -/
theorem parcel_for_nothing :
    plainEnv.Stores ∧ delivery.Numbered ∧ delivery.PursesCapped ∧ delivery.Filed ∧
      ¬ Admissible (answer plainEnv) (ChargesCollected plainEnv) delivery
        [⟨atMailbox, 1, .takeItem 7 1 77⟩] := by
  refine ⟨stores_plainEnv, numbered_delivery, pursesCapped_delivery, filed_delivery,
    fun hcollects => ?_⟩
  have henters : Enters delivery (delivery.answer plainEnv ⟨atMailbox, 1, .takeItem 7 1 77⟩) 1
      parcel := by decide +kernel
  have hunpaid : ∀ pay ∈ (delivery.answer plainEnv ⟨atMailbox, 1, .takeItem 7 1 77⟩).mails,
      pay.messageID ≠ delivery.nextMailId := by decide +kernel
  obtain ⟨-, ⟨pay, hpay, hid, -⟩, -⟩ :=
    hcollects.1 ⟨2, .normal, 0, 2, 1, "", "", [77], 0, 0, 50, 0, .unchanged⟩ (by decide)
      (by decide) parcel (by decide) henters
  exact hunpaid pay hpay hid

end World

end TeraCore.Mails
