import TeraCore.Mails.MailMoney

/-!
# Mailboxes: numbers, and what a request does

Every mail has a number of its own, and a new one is above all that were given.  So a mailbox
finds the one mail that a request names.

What a request does is said once for each of them here: to take an item, everything that is
checked has to be in order, and then the world is the one that `takeItem` describes.

## Main results

* `World.Numbered.answer`: the requests keep the numbers
* `World.find?_isMail`: the mail with a number is found
* `World.handleMailTakeItem_cases`: an item is taken, or nothing happens
-/

namespace TeraCore.Mails

open Commons

namespace World

/-- **Every mail has a number of its own**, and new numbers are above. -/
structure Numbered (w : World) : Prop where
  nodup : (w.mails.map Mail.messageID).Nodup
  below : ∀ mail ∈ w.mails, mail.messageID < w.nextMailId

/-- **Everything is in order** for an item to be taken: the mail is open, its charge can be paid,
the item is there, and there is room for it. -/
structure TakeGranted (w : World) (env : Env) (m : Moment) (guid mailbox : Guid)
    (mailId itemId : ℕ) (player : Character) (mail : Mail) (item : Item) (inventory : Inventory) :
    Prop where
  player_eq : w.characters.find? guid = some player
  near : m.canInteractWith guid mailbox = true
  open_eq : w.openMail m guid mailId = some mail
  enough : mail.cod ≤ player.money
  item_eq : player.mItems.find? itemId = some item
  room : env.storeItem player.inventory item = .ok inventory

variable {w : World} {env : Env} {m : Moment} {guid mailbox : Guid} {mailId itemId : ℕ}
  {player : Character} {mail : Mail} {item : Item} {inventory : Inventory}

/-! ## What the small changes leave alone -/

@[simp] theorem nextMailId_update (f : Character → Character) :
    (w.update guid f).nextMailId = w.nextMailId := by
  unfold update
  split <;> rfl

theorem mails_sendMailTo (w : World) (env : Env) (m : Moment) (draft : MailDraft) (receiver : Guid)
    (messageType : MailMessageType) (sender : Guid) (checked : MailCheckMask) (delay : ℕ) :
    (w.sendMailTo env m draft receiver messageType sender checked delay).mails =
      if receiver = env.ahBotGuid then w.mails
      else draft.mailTo w.nextMailId messageType sender receiver (m.now + delay) checked ::
        w.mails := by
  unfold sendMailTo
  split_ifs
  · rfl
  · simp only [addMItems, addNewMailDeliverTime, mails_update]
  · simp only [addMItems, mails_update]

@[simp] theorem nextMailId_sendMailTo (w : World) (env : Env) (m : Moment) (draft : MailDraft)
    (receiver : Guid) (messageType : MailMessageType) (sender : Guid) (checked : MailCheckMask)
    (delay : ℕ) : (w.sendMailTo env m draft receiver messageType sender checked delay).nextMailId =
      w.nextMailId + 1 := by
  unfold sendMailTo
  split_ifs
  · rfl
  · simp only [addMItems, addNewMailDeliverTime, nextMailId_update]
  · simp only [addMItems, nextMailId_update]

/-! ## Numbers -/

theorem Numbered.of_eq {w' : World} (h : w.Numbered) (hmails : w'.mails = w.mails)
    (hnext : w'.nextMailId = w.nextMailId) : w'.Numbered := by
  refine ⟨?_, ?_⟩
  · rw [hmails]
    exact h.nodup
  · rw [hmails, hnext]
    exact h.below

theorem Numbered.update (h : w.Numbered) (f : Character → Character) : (w.update guid f).Numbered :=
  h.of_eq (mails_update f) (nextMailId_update f)

theorem Numbered.modifyMail (h : w.Numbered) {f : Mail → Mail}
    (hf : ∀ mail, (f mail).messageID = mail.messageID) : (w.modifyMail guid mailId f).Numbered := by
  refine ⟨?_, fun mail hmail => ?_⟩
  · rw [World.modifyMail, map_modifyFirst hf]
    exact h.nodup
  · rcases mem_modifyFirst hmail with hmem | ⟨old, hold, rfl⟩
    · exact h.below mail hmem
    · rw [hf]
      exact h.below old (List.mem_of_find?_eq_some hold)

theorem Numbered.removeMail (h : w.Numbered) : (w.removeMail guid mailId).Numbered :=
  ⟨h.nodup.sublist (List.eraseP_sublist.map _),
    fun mail hmail => h.below mail (List.mem_of_mem_eraseP hmail)⟩

theorem Numbered.saveMail (h : w.Numbered) : (w.saveMail guid).Numbered := by
  have hids : (w.saveMail guid).mails.map Mail.messageID =
      (w.mails.filter fun mail =>
        !(mail.receiver == guid && mail.state == .deleted)).map Mail.messageID := by
    rw [World.saveMail, List.map_map]
    refine List.map_congr_left fun mail _ => ?_
    simp only [Function.comp_apply]
    split_ifs <;> rfl
  refine ⟨?_, fun mail hmail => ?_⟩
  · rw [hids]
    exact h.nodup.sublist (List.filter_sublist.map _)
  · have hid : mail.messageID ∈ (w.saveMail guid).mails.map Mail.messageID :=
      List.mem_map_of_mem hmail
    rw [hids] at hid
    obtain ⟨old, hold, heq⟩ := List.mem_map.mp hid
    rw [← heq]
    exact h.below old (List.mem_of_mem_filter hold)

theorem Numbered.sendMailTo (h : w.Numbered) (draft : MailDraft) (receiver : Guid)
    (messageType : MailMessageType) (sender : Guid) (checked : MailCheckMask) (delay : ℕ) :
    (w.sendMailTo env m draft receiver messageType sender checked delay).Numbered := by
  refine ⟨?_, ?_⟩
  · rw [mails_sendMailTo]
    split_ifs with hbot
    · exact h.nodup
    · rw [List.map_cons, List.nodup_cons]
      refine ⟨fun hmem => ?_, h.nodup⟩
      obtain ⟨old, hold, heq⟩ := List.mem_map.mp hmem
      have hlt := h.below old hold
      rw [heq] at hlt
      exact Nat.lt_irrefl _ hlt
  · rw [mails_sendMailTo, nextMailId_sendMailTo]
    intro mail hmail
    split_ifs at hmail with hbot
    · exact Nat.lt_succ_of_lt (h.below mail hmail)
    · rcases List.mem_cons.mp hmail with rfl | hmail
      · exact Nat.lt_succ_self _
      · exact Nat.lt_succ_of_lt (h.below mail hmail)

theorem find?_isMail (h : w.Numbered) :
    w.mails.find? (isMail guid mailId) = some mail ↔
      mail ∈ w.mails ∧ mail.receiver = guid ∧ mail.messageID = mailId := by
  refine ⟨fun hfind => ⟨List.mem_of_find?_eq_some hfind, ?_⟩, ?_⟩
  · simpa [isMail] using List.find?_some hfind
  · rintro ⟨hmem, hreceiver, hid⟩
    refine find?_eq_some_of_unique hmem (by simp [isMail, hreceiver, hid])
      fun other hother his => ?_
    have hsame : other.messageID = mail.messageID := by
      simp only [isMail, Bool.and_eq_true, beq_iff_eq] at his
      exact his.2.trans hid.symm
    exact List.inj_on_of_nodup_map h.nodup hother hmem hsame

/-! ## What a request does -/

/-- The world after an item was taken. -/
def takeItem (w : World) (env : Env) (m : Moment) (guid : Guid) (mailId itemId : ℕ)
    (player : Character) (mail : Mail) (item : Item) (inventory : Inventory) : World :=
  let w := w.modifyMail guid mailId fun mail => mail.itemTaken itemId
  let w := if mail.cod ≠ 0 then w.payCOD env m guid player mail else w
  ((w.removeMItems guid [item.guid]).setInventory guid inventory).saveMail guid

/-- A mail, after its receiver's mailbox was saved. -/
def saved (guid : Guid) (mail : Mail) : Mail :=
  if mail.receiver == guid && mail.state == .changed then { mail with state := .unchanged }
  else mail

/-- The mail with a charge that is paid, to who is there to get it. -/
def chargeMail (w : World) (env : Env) (m : Moment) (mail : Mail) : List Mail :=
  if mail.cod ≠ 0 ∧ (w.characters.find? mail.sender).isSome ∧ mail.sender ≠ env.ahBotGuid then
    [((MailDraft.ofText mail.subject "").addMoney mail.cod).mailTo w.nextMailId .normal
      mail.receiver
      mail.sender m.now .codPayment]
  else []

theorem handleMailTakeItem_of_granted
    (h : w.TakeGranted env m guid mailbox mailId itemId player mail item inventory) :
    w.handleMailTakeItem env m guid mailbox mailId itemId =
      (w.takeItem env m guid mailId itemId player mail item inventory,
        .result mailId .itemTaken .ok 0 itemId item.count) := by
  have henough : player.hasEnoughMoney mail.cod = true := decide_eq_true h.enough
  simp only [handleMailTakeItem, h.player_eq, h.near, h.open_eq, henough, h.item_eq, h.room,
    Bool.not_true, Bool.false_eq_true, if_false]
  rfl

/-- **An item is taken** because everything is in order, or nothing happens. -/
theorem handleMailTakeItem_cases :
    (∃ player mail item inventory,
      w.TakeGranted env m guid mailbox mailId itemId player mail item inventory) ∨
    (w.handleMailTakeItem env m guid mailbox mailId itemId).1 = w := by
  unfold handleMailTakeItem
  cases hplayer : w.characters.find? guid with
  | none => exact .inr rfl
  | some player =>
    cases hnear : m.canInteractWith guid mailbox with
    | false => exact .inr rfl
    | true =>
      cases hopen : w.openMail m guid mailId with
      | none => exact .inr rfl
      | some mail =>
        cases henough : player.hasEnoughMoney mail.cod with
        | false => exact .inr (by simp [henough])
        | true =>
          cases hitem : player.mItems.find? itemId with
          | none => exact .inr (by simp [henough, hitem])
          | some item =>
            cases hroom : env.storeItem player.inventory item with
            | error code =>
              exact .inr (by simp [henough, hitem, hroom])
            | ok inventory =>
              exact .inl ⟨player, mail, item, inventory, hplayer, hnear, hopen,
                of_decide_eq_true henough, hitem, hroom⟩

/-- What goes back to the sender of a mail. -/
def returnDraft (player : Character) (mail : Mail) : MailDraft :=
  let draft :=
    if mail.mailTemplateId ≠ 0 then MailDraft.ofTemplate mail.mailTemplateId
    else .ofText mail.subject mail.body
  ((mail.items.filterMap player.mItems.find?).foldl MailDraft.addItem draft).addMoney mail.money

/-- The world after a player's mail was sent back. -/
def returnMail (w : World) (env : Env) (m : Moment) (guid : Guid) (mailId : ℕ) (player : Character)
    (mail : Mail) : World :=
  ((w.removeMail guid mailId).removeMItems guid mail.items).sendReturnToSender env m
    (returnDraft player mail) player.account mail.receiver mail.sender

theorem handleMailReturnToSender_cases (w : World) (env : Env) (m : Moment) (guid mailbox : Guid)
    (mailId : ℕ) :
    (w.handleMailReturnToSender env m guid mailbox mailId).1 = w ∨
      ∃ player mail, w.characters.find? guid = some player ∧
        m.canInteractWith guid mailbox = true ∧ w.openMail m guid mailId = some mail ∧
        ((mail.messageType = .normal ∧ mail.sender ≠ 0 ∧
            (w.handleMailReturnToSender env m guid mailbox mailId).1 =
              w.returnMail env m guid mailId player mail) ∨
          (¬ (mail.messageType = .normal ∧ mail.sender ≠ 0) ∧
            (w.handleMailReturnToSender env m guid mailbox mailId).1 =
              w.removeMail guid mailId)) := by
  cases hplayer : w.characters.find? guid with
  | none => exact .inl (by simp [handleMailReturnToSender, hplayer])
  | some player =>
    cases hnear : m.canInteractWith guid mailbox with
    | false => exact .inl (by simp [handleMailReturnToSender, hplayer, hnear])
    | true =>
      cases hopen : w.openMail m guid mailId with
      | none => exact .inl (by simp [handleMailReturnToSender, hplayer, hnear, hopen])
      | some mail =>
        refine .inr ⟨player, mail, rfl, rfl, rfl, ?_⟩
        by_cases hback : mail.messageType = .normal ∧ mail.sender ≠ 0
        · refine .inl ⟨hback.1, hback.2, ?_⟩
          simp [handleMailReturnToSender, hplayer, hnear, hopen, hback, returnMail, returnDraft]
        · refine .inr ⟨hback, ?_⟩
          simp [handleMailReturnToSender, hplayer, hnear, hopen, hback]

theorem find?_of_getMail (h : w.getMail m guid mailId = some mail) :
    w.mails.find? (isMail guid mailId) = some mail := by
  unfold getMail at h
  split_ifs at h
  exact h

theorem receiver_of_find? (h : w.mails.find? (isMail guid mailId) = some mail) :
    mail.receiver = guid := by
  have his := List.find?_some h
  simp only [isMail, Bool.and_eq_true, beq_iff_eq] at his
  exact his.1

variable (w m guid mailbox mailId)

theorem handleMailMarkAsRead_cases :
    (w.handleMailMarkAsRead m guid mailbox mailId).1 = w ∨
      ∃ mail, m.canInteractWith guid mailbox = true ∧ w.getMail m guid mailId = some mail ∧
        (w.handleMailMarkAsRead m guid mailbox mailId).1 =
          (w.update guid Character.countRead).modifyMail guid mailId Mail.markedAsRead := by
  cases hnear : m.canInteractWith guid mailbox with
  | false => exact .inl (by simp [handleMailMarkAsRead, hnear])
  | true =>
    cases hmail : w.getMail m guid mailId with
    | none => exact .inl (by simp [handleMailMarkAsRead, hnear, hmail])
    | some mail => exact .inr ⟨mail, rfl, rfl, by simp [handleMailMarkAsRead, hnear, hmail]⟩

theorem handleMailDelete_cases :
    (w.handleMailDelete m guid mailbox mailId).1 = w ∨
      ∃ mail, m.canInteractWith guid mailbox = true ∧ w.getMail m guid mailId = some mail ∧
        mail.cod = 0 ∧
        (w.handleMailDelete m guid mailbox mailId).1 =
          w.modifyMail guid mailId Mail.markedDeleted := by
  cases hnear : m.canInteractWith guid mailbox with
  | false => exact .inl (by simp [handleMailDelete, hnear])
  | true =>
    cases hmail : w.getMail m guid mailId with
    | none => exact .inl (by simp [handleMailDelete, hnear, hmail])
    | some mail =>
      by_cases hcod : mail.cod = 0
      · exact .inr ⟨mail, rfl, rfl, hcod, by simp [handleMailDelete, hnear, hmail, hcod]⟩
      · refine .inl ?_
        simp only [handleMailDelete, hnear, hmail, ne_eq, hcod, not_false_eq_true, Bool.not_true,
          Bool.false_eq_true, if_false, if_true]

theorem handleMailTakeMoney_cases :
    (w.handleMailTakeMoney m guid mailbox mailId).1 = w ∨
      ∃ mail, w.openMail m guid mailId = some mail ∧
        (w.handleMailTakeMoney m guid mailbox mailId).1 =
          ((w.modifyMoney guid mail.money).modifyMail guid mailId
            Mail.moneyTaken).saveMail guid := by
  cases hplayer : w.characters.find? guid with
  | none => exact .inl (by simp [handleMailTakeMoney, hplayer])
  | some player =>
    cases hnear : m.canInteractWith guid mailbox with
    | false => exact .inl (by simp [handleMailTakeMoney, hplayer, hnear])
    | true =>
      cases hopen : w.openMail m guid mailId with
      | none => exact .inl (by simp [handleMailTakeMoney, hplayer, hnear, hopen])
      | some mail =>
        exact .inr ⟨mail, rfl, by simp [handleMailTakeMoney, hplayer, hnear, hopen]⟩

variable {w m guid mailbox mailId}

/-! ## Who is there to be written to -/

theorem findPlayer_eq_none {g : Guid} (h : w.characters.find? g = none) :
    w.findPlayer m g = none := by
  unfold findPlayer
  split_ifs
  · exact h
  · rfl

theorem payCOD_of_none (h : w.characters.find? mail.sender = none) :
    w.payCOD env m guid player mail = w.modifyMoney guid (-mail.cod) := by
  have haccount : w.getPlayerAccountIdByGUID mail.sender = 0 := by
    rw [getPlayerAccountIdByGUID, h]
    rfl
  simp [payCOD, findPlayer_eq_none h, haccount]

theorem sendReturnToSender_of_none {receiver : Guid} (h : w.characters.find? receiver = none)
    (draft : MailDraft) (senderAcc : ℕ) (sender : Guid) :
    w.sendReturnToSender env m draft senderAcc sender receiver = w := by
  have haccount : w.getPlayerAccountIdByGUID receiver = 0 := by
    rw [getPlayerAccountIdByGUID, h]
    rfl
  simp [sendReturnToSender, findPlayer_eq_none h, haccount]

theorem sendReturnToSender_of_some {receiver : Guid} {c : Character}
    (h : w.characters.find? receiver = some c) (draft : MailDraft) (senderAcc : ℕ)
    (sender : Guid) :
    ∃ delay, w.sendReturnToSender env m draft senderAcc sender receiver =
      w.sendMailTo env m draft receiver .normal sender .returned delay := by
  have haccount := getPlayerAccountIdByGUID_ne_zero (playerOf_of_find? h)
  have hthere : ¬ ((!(w.findPlayer m receiver).isSome &&
      decide ((if (w.findPlayer m receiver).isSome then 0 else
        w.getPlayerAccountIdByGUID receiver) = 0)) = true) := by
    cases honline : (w.findPlayer m receiver).isSome <;> simp [haccount]
  exact ⟨_, if_neg hthere⟩

/-- **What holds of a charge that was paid**: either nobody is there to be paid, or a mail went
out. -/
theorem payCOD_rule {motive : World → Prop} (hnone : motive (w.modifyMoney guid (-mail.cod)))
    (hsent : motive ((w.sendMailTo env m ((MailDraft.ofText mail.subject "").addMoney mail.cod)
      mail.sender .normal mail.receiver .codPayment 0).modifyMoney guid (-mail.cod))) :
    motive (w.payCOD env m guid player mail) := by
  cases hsender : w.characters.find? mail.sender with
  | none =>
    rw [payCOD_of_none hsender]
    exact hnone
  | some c =>
    rw [payCOD_eq (playerOf_of_find? hsender)]
    exact hsent

/-- **What holds of a mail that was sent back**: either nobody is there, or it went out. -/
theorem sendReturnToSender_rule {motive : World → Prop} {draft : MailDraft} {senderAcc : ℕ}
    {sender receiver : Guid} (hnone : w.characters.find? receiver = none → motive w)
    (hsent : ∀ c delay, w.characters.find? receiver = some c →
      motive (w.sendMailTo env m draft receiver .normal sender .returned delay)) :
    motive (w.sendReturnToSender env m draft senderAcc sender receiver) := by
  cases hreceiver : w.characters.find? receiver with
  | none =>
    rw [sendReturnToSender_of_none hreceiver]
    exact hnone hreceiver
  | some c =>
    obtain ⟨delay, heq⟩ : ∃ delay, w.sendReturnToSender env m draft senderAcc sender receiver =
        w.sendMailTo env m draft receiver .normal sender .returned delay :=
      sendReturnToSender_of_some hreceiver draft senderAcc sender
    rw [heq]
    exact hsent c delay hreceiver

/-! ## Mailboxes after a request -/

theorem mem_saveMail : mail ∈ (w.saveMail guid).mails ↔
    ∃ old ∈ w.mails, ¬ (old.receiver = guid ∧ old.state = .deleted) ∧ saved guid old = mail := by
  simp only [saveMail, List.mem_map, List.mem_filter, Bool.not_eq_true', Bool.and_eq_false_imp,
    beq_iff_eq, beq_eq_false_iff_ne, ne_eq, not_and, and_assoc, saved]

@[simp] theorem saved_messageID : (saved guid mail).messageID = mail.messageID := by
  unfold saved
  split_ifs <;> rfl

@[simp] theorem saved_receiver : (saved guid mail).receiver = mail.receiver := by
  unfold saved
  split_ifs <;> rfl

@[simp] theorem saved_sender : (saved guid mail).sender = mail.sender := by
  unfold saved
  split_ifs <;> rfl

@[simp] theorem saved_money : (saved guid mail).money = mail.money := by
  unfold saved
  split_ifs <;> rfl

@[simp] theorem saved_cod : (saved guid mail).cod = mail.cod := by
  unfold saved
  split_ifs <;> rfl

theorem mails_payCOD (hcod : mail.cod ≠ 0) :
    (w.payCOD env m guid player mail).mails = w.chargeMail env m mail ++ w.mails := by
  cases hsender : w.characters.find? mail.sender with
  | none =>
    rw [payCOD_of_none hsender, modifyMoney, mails_update]
    simp [chargeMail, hsender]
  | some c =>
    rw [payCOD_eq (playerOf_of_find? hsender), modifyMoney, mails_update, mails_sendMailTo]
    have hthere : (w.characters.find? mail.sender).isSome = true := by rw [hsender]; rfl
    split_ifs with hbot
    · simp [chargeMail, hbot]
    · rw [chargeMail, if_pos ⟨hcod, hthere, hbot⟩]
      rfl

theorem mails_takeItem :
    (w.takeItem env m guid mailId itemId player mail item inventory).mails =
      (({ w with mails := w.chargeMail env m mail ++
          modifyFirst (isMail guid mailId) (fun mail => mail.itemTaken itemId) w.mails } :
        World).saveMail guid).mails := by
  have hsame : ∀ w₁ w₂ : World, w₁.mails = w₂.mails →
      (w₁.saveMail guid).mails = (w₂.saveMail guid).mails := by
    intro w₁ w₂ heq
    simp only [saveMail, heq]
  refine hsame _ _ ?_
  simp only [setInventory, removeMItems, mails_update]
  by_cases hcod : mail.cod = 0
  · simp only [chargeMail, hcod, ne_eq, not_true_eq_false, if_false, false_and, List.nil_append]
    rfl
  · simp only [hcod, ne_eq, not_false_eq_true, if_true]
    rw [mails_payCOD hcod]
    rfl

/-! ## Requests keep the numbers -/

section

variable (h : w.Numbered)
include h

theorem Numbered.payCOD : (w.payCOD env m guid player mail).Numbered := by
  refine payCOD_rule (h.update _) ?_
  exact (h.sendMailTo _ _ _ _ _ _).update _

theorem Numbered.takeItem :
    (w.takeItem env m guid mailId itemId player mail item inventory).Numbered := by
  have htaken : (w.modifyMail guid mailId fun mail => mail.itemTaken itemId).Numbered :=
    h.modifyMail fun _ => rfl
  refine Numbered.saveMail (Numbered.update (Numbered.update ?_ _) _)
  split_ifs
  · exact htaken.payCOD
  · exact htaken

theorem Numbered.sendReturnToSender (draft : MailDraft) (senderAcc : ℕ) (sender receiver : Guid) :
    (w.sendReturnToSender env m draft senderAcc sender receiver).Numbered :=
  sendReturnToSender_rule (fun _ => h) fun _ _ _ => h.sendMailTo _ _ _ _ _ _

theorem Numbered.handleMailReturnToSender :
    (w.handleMailReturnToSender env m guid mailbox mailId).1.Numbered := by
  rcases handleMailReturnToSender_cases w env m guid mailbox mailId with
    hw | ⟨player, mail, -, -, -, ⟨-, -, hw⟩ | ⟨-, hw⟩⟩
  · rw [hw]
    exact h
  · rw [hw]
    exact (h.removeMail.update _).sendReturnToSender _ _ _ _
  · rw [hw]
    exact h.removeMail

theorem Numbered.handleMailTakeItem :
    (w.handleMailTakeItem env m guid mailbox mailId itemId).1.Numbered := by
  rcases handleMailTakeItem_cases (w := w) with ⟨player, mail, item, inventory, hgranted⟩ | hw
  · rw [handleMailTakeItem_of_granted hgranted]
    exact h.takeItem
  · rw [hw]
    exact h

theorem Numbered.handleMailMarkAsRead :
    (w.handleMailMarkAsRead m guid mailbox mailId).1.Numbered := by
  rcases handleMailMarkAsRead_cases w m guid mailbox mailId with hw | ⟨mail, -, -, hw⟩ <;> rw [hw]
  · exact h
  · exact (h.update _).modifyMail fun _ => rfl

theorem Numbered.handleMailDelete : (w.handleMailDelete m guid mailbox mailId).1.Numbered := by
  rcases handleMailDelete_cases w m guid mailbox mailId with hw | ⟨mail, -, -, -, hw⟩ <;> rw [hw]
  · exact h
  · exact h.modifyMail fun _ => rfl

theorem Numbered.handleMailTakeMoney :
    (w.handleMailTakeMoney m guid mailbox mailId).1.Numbered := by
  rcases handleMailTakeMoney_cases w m guid mailbox mailId with hw | ⟨mail, -, hw⟩ <;> rw [hw]
  · exact h
  · have htaken : ((w.modifyMoney guid mail.money).modifyMail guid mailId
        Mail.moneyTaken).Numbered := (h.update _).modifyMail fun _ => rfl
    exact htaken.saveMail

theorem Numbered.answer (r : Request) : (w.answer env r).Numbered := by
  obtain ⟨m, guid, op⟩ := r
  cases op with
  | markAsRead mailbox mailId => exact h.handleMailMarkAsRead
  | delete mailbox mailId => exact h.handleMailDelete
  | returnToSender mailbox mailId => exact h.handleMailReturnToSender
  | takeItem mailbox mailId itemId => exact h.handleMailTakeItem

end

end World

end TeraCore.Mails
