import TeraCore.Mails.Attachments
import TeraCore.Mails.CashOnDelivery
import TeraCore.Mails.Unread

/-!
# The life of a mail

A mail arrives, is read, is emptied, and is returned or deleted.  Over a whole run of requests, by
any players and for any mails, three things should hold: a mail that was deleted stays so, and
nobody sees it or takes anything out of it again; an item is in one mail, or was given to one
owner; and the number of unread mails is the right one.

They hold as long as the requests are in order.  The handlers do not see to it themselves: a mail
is marked as read whatever its state is, however often, and a mail that is deleted or returned
unread is still counted.

## Main results

* `orderly_lifecycle`: what holds after every orderly run
-/

namespace TeraCore.Mails

open Commons

/-- **What happens to a mailbox**: a request, or its owner's `Update`. -/
inductive MailboxEvent where
  | request (op : World.MailboxOp)
  | takeMoney (mailbox : Guid) (mailId : ℕ)
  | update

structure Turn where
  moment : Moment
  guid : Guid
  event : MailboxEvent

/-- The world, the time, and which items have entered whose inventory. -/
structure Post where
  world : World
  now : ℕ
  moved : List (Guid × Item)

namespace World

def handleEvent (w : World) (env : Env) (m : Moment) (guid : Guid) :
    MailboxEvent → World × Answer
  | .request op => w.handleMailbox env m guid op
  | .takeMoney mailbox mailId => w.handleMailTakeMoney m guid mailbox mailId
  | .update => (w.update guid fun c => c.updateMails m.now, .silent)

/-- **A mail was deleted for good**: under its number there is that mail, as it was, or none. -/
def Buried (w : World) (mail : Mail) : Prop :=
  mail.state = .deleted ∧ mail.messageID < w.nextMailId ∧
    ∀ other ∈ w.mails, other.messageID = mail.messageID → other = mail

/-- **The request is in order**, for the mails and for the number of unread mails of `guid`.
* What is marked as read was not deleted, and counts as unread.
* What is deleted, or returned, is empty, and does not count as unread; what is not empty goes back
  to a character that is there.
* An item is taken out of the mail it is in. -/
def InOrder (w : World) (env : Env) (m : Moment) (who guid : Guid) : MailboxEvent → Prop
  | .request (.markAsRead mailbox mailId) =>
    ∀ mail, m.canInteractWith who mailbox = true → w.getMail m who mailId = some mail →
      mail.state ≠ .deleted ∧
        (who = guid → isUnread guid m.now mail = true ∨ w.unread guid m.now = 0)
  | .request (.delete mailbox mailId) =>
    ∀ mail, m.canInteractWith who mailbox = true → w.getMail m who mailId = some mail →
      mail.cod = 0 → mail.state = .deleted ∨ mail.items = [] ∧ isUnread guid m.now mail = false
  | .request (.returnToSender mailbox mailId) =>
    ∀ mail, m.canInteractWith who mailbox = true → w.openMail m who mailId = some mail →
      isUnread guid m.now mail = false ∧
        (mail.items = [] ∨ mail.messageType = .normal ∧ mail.sender ≠ 0 ∧
          (∃ c, w.characters.find? mail.sender = some c) ∧ mail.sender ≠ env.ahBotGuid)
  | .request (.takeItem mailbox mailId itemId) =>
    ∀ player mail item inventory,
      w.TakeGranted env m who mailbox mailId itemId player mail item inventory →
        itemId ∈ mail.items
  | _ => True

/-- Does the event make a mail go to the character, or count one of its mails? -/
def Announces (w : World) (m : Moment) (who guid : Guid) : MailboxEvent → Prop
  | .request (.returnToSender _ mailId) =>
    ∃ mail, w.openMail m who mailId = some mail ∧ mail.sender = guid
  | .request (.takeItem _ mailId _) =>
    ∃ mail, w.openMail m who mailId = some mail ∧ mail.cod ≠ 0 ∧ mail.sender = guid
  | .update => who = guid
  | _ => False

/-- **Mailboxes to begin with**: the mails have numbers of their own, what they list is held, and
listed once, and the number of unread mails is the right one. -/
structure WellKept (w : World) (guid : Guid) (now : ℕ) : Prop where
  numbered : w.Numbered
  held : w.Held
  filed : w.Filed
  once : ∀ i, w.attached i ≤ 1
  counted : w.Counted guid now

end World

namespace Post

/-- The world after an event, and which items have entered whose inventory. -/
def step (env : Env) (s : Post) (t : Turn) : Post :=
  let world := (s.world.handleEvent env t.moment t.guid t.event).1
  ⟨world, t.moment.now, (s.world.entered world t.guid).map (Prod.mk t.guid) ++ s.moved⟩

/-- How many times an item is in a mail, or has entered someone's inventory. -/
def places (s : Post) (i : ℕ) : ℕ := s.world.attached i + (s.moved.map (·.2.guid)).count i

/-- How many things of an entry have entered a character's inventory. -/
def given (s : Post) (g : Guid) (entry : ℕ) : ℕ :=
  ((s.moved.filter (·.1 == g)).map fun e => e.2.amountOf entry).sum

end Post

/-- Does the character look for new mail, and has the time come? -/
def MailboxEvent.counts : MailboxEvent → Guid → Guid → Character → ℕ → Bool
  | .update, who, guid, c, now => who == guid && c.mailIsDue now
  | _, _, _, _, _ => false

/-- **Everything is in order**, for the character `guid`: time goes on, the character is online,
what arrives for it is looked for, there is room for one more in the count, and the request is in
order. -/
structure Orderly (env : Env) (guid : Guid) (s : Post) (t : Turn) : Prop where
  later : s.now ≤ t.moment.now
  online : t.moment.online guid = true
  arrives : ∃ c, s.world.characters.find? guid = some c ∧
    s.world.arrived guid s.now t.moment.now =
      if t.event.counts t.guid guid c t.moment.now then 1 else 0
  room : s.world.Announces t.moment t.guid guid t.event → s.world.unread guid s.now < 255
  inOrder : s.world.InOrder env t.moment t.guid guid t.event

namespace World

variable {w : World} {env : Env} {m : Moment} {guid who : Guid} {mailId itemId now : ℕ}
  {player : Character} {mail dead : Mail} {item : Item} {inventory : Inventory}

/-! ## Deleted for good -/

theorem Buried.update (h : w.Buried dead) (f : Character → Character) :
    (w.update who f).Buried dead := by
  refine ⟨h.1, ?_, ?_⟩
  · rw [nextMailId_update]
    exact h.2.1
  · rw [mails_update]
    exact h.2.2

theorem Buried.modifyMail (h : w.Buried dead) {f : Mail → Mail}
    (hid : ∀ mail, (f mail).messageID = mail.messageID)
    (hf : ∀ mail, w.mails.find? (isMail who mailId) = some mail → mail.state = .deleted →
      f mail = mail) :
    (w.modifyMail who mailId f).Buried dead := by
  refine ⟨h.1, h.2.1, fun other hother hsame => ?_⟩
  rcases mem_modifyFirst hother with hmem | ⟨old, hold, rfl⟩
  · exact h.2.2 other hmem hsame
  · have hdead := h.2.2 old (List.mem_of_find?_eq_some hold) ((hid old).symm.trans hsame)
    rw [hf old hold (hdead ▸ h.1)]
    exact hdead

theorem Buried.removeMail (h : w.Buried dead) : (w.removeMail who mailId).Buried dead :=
  ⟨h.1, h.2.1, fun other hother => h.2.2 other (List.mem_of_mem_eraseP hother)⟩

theorem Buried.saveMail (h : w.Buried dead) : (w.saveMail who).Buried dead := by
  refine ⟨h.1, h.2.1, fun other hother hsame => ?_⟩
  obtain ⟨old, hold, -, rfl⟩ := mem_saveMail.mp hother
  rw [saved_messageID] at hsame
  obtain rfl := h.2.2 old hold hsame
  simp [saved, h.1]

theorem Buried.sendMailTo (h : w.Buried dead) (draft : MailDraft) (receiver : Guid)
    (messageType : MailMessageType) (sender : Guid) (checked : MailCheckMask) (delay : ℕ) :
    (w.sendMailTo env m draft receiver messageType sender checked delay).Buried dead := by
  refine ⟨h.1, ?_, fun other hother hsame => ?_⟩
  · rw [nextMailId_sendMailTo]
    exact Nat.lt_succ_of_lt h.2.1
  · rw [mails_sendMailTo] at hother
    split_ifs at hother
    · exact h.2.2 other hother hsame
    · rcases List.mem_cons.mp hother with rfl | hother
      · -- a new mail has a new number
        have hlt := h.2.1
        rw [← hsame] at hlt
        exact absurd hlt (Nat.lt_irrefl _)
      · exact h.2.2 other hother hsame

theorem Buried.openMail (h : w.Buried dead) (m : Moment) :
    w.openMail m dead.receiver dead.messageID = none := by
  cases hopen : w.openMail m dead.receiver dead.messageID with
  | none => rfl
  | some mail =>
    obtain ⟨⟨-, hfind⟩, hstate, -⟩ := openMail_eq_some.mp hopen
    have his := List.find?_some hfind
    simp only [isMail, Bool.and_eq_true, beq_iff_eq] at his
    rw [h.2.2 mail (List.mem_of_find?_eq_some hfind) his.2] at hstate
    exact absurd h.1 hstate

theorem Numbered.buried (h : w.Numbered) (hmem : dead ∈ w.mails) (hstate : dead.state = .deleted) :
    w.Buried dead :=
  ⟨hstate, h.below dead hmem, fun _ hother hsame =>
    List.inj_on_of_nodup_map h.nodup hother hmem hsame⟩

theorem Buried.payCOD (h : w.Buried dead) : (w.payCOD env m who player mail).Buried dead := by
  refine payCOD_rule (motive := fun w => w.Buried dead) (h.update _) ?_
  exact (h.sendMailTo _ _ _ _ _ _).update _

theorem Buried.sendReturnToSender (h : w.Buried dead) (draft : MailDraft) (senderAcc : ℕ)
    (sender receiver : Guid) :
    (w.sendReturnToSender env m draft senderAcc sender receiver).Buried dead :=
  sendReturnToSender_rule (motive := fun w => w.Buried dead) (fun _ => h)
    fun _ _ _ => h.sendMailTo _ _ _ _ _ _

theorem Buried.modifyOpen (h : w.Buried dead) (f : Mail → Mail)
    (hid : ∀ mail, (f mail).messageID = mail.messageID)
    (hfind : w.mails.find? (isMail who mailId) = some mail) (hstate : mail.state ≠ .deleted) :
    (w.modifyMail who mailId f).Buried dead := by
  refine h.modifyMail hid fun other hother hdeleted => ?_
  cases hfind.symm.trans hother
  exact absurd hdeleted hstate

variable {event : MailboxEvent}

/-- **A mail that was deleted stays so**, whatever is asked for in order. -/
theorem Buried.handleEvent (h : w.Buried dead)
    (horder : w.InOrder env m who guid event) : (w.handleEvent env m who event).1.Buried dead := by
  rcases event with (⟨mailbox, mailId⟩ | ⟨mailbox, mailId⟩ | ⟨mailbox, mailId⟩ |
    ⟨mailbox, mailId, itemId⟩) | ⟨mailbox, mailId⟩ | _
  · change (w.handleMailMarkAsRead m who mailbox mailId).1.Buried dead
    rcases handleMailMarkAsRead_cases w m who mailbox mailId with hw | ⟨mail, hnear, hmail, hw⟩ <;>
      rw [hw]
    · exact h
    · rw [modifyMail_update]
      exact (h.modifyOpen Mail.markedAsRead (fun _ => rfl) (find?_of_getMail hmail)
        (horder mail hnear hmail).1).update _
  · change (w.handleMailDelete m who mailbox mailId).1.Buried dead
    rcases handleMailDelete_cases w m who mailbox mailId with hw | ⟨mail, -, -, -, hw⟩ <;> rw [hw]
    · exact h
    · refine h.modifyMail (fun _ => rfl) fun other _ hdeleted => ?_
      rw [Mail.markedDeleted, ← hdeleted]
  · change (w.handleMailReturnToSender env m who mailbox mailId).1.Buried dead
    rcases handleMailReturnToSender_cases w env m who mailbox mailId with
      hw | ⟨player, mail, -, -, -, ⟨-, -, hw⟩ | ⟨-, hw⟩⟩ <;> rw [hw]
    · exact h
    · exact (h.removeMail.update _).sendReturnToSender _ _ _ _
    · exact h.removeMail
  · change (w.handleMailTakeItem env m who mailbox mailId itemId).1.Buried dead
    rcases handleMailTakeItem_cases (w := w) with ⟨player, mail, item, inventory, hgranted⟩ | hw
    · obtain ⟨⟨-, hfind⟩, hstate, -⟩ := openMail_eq_some.mp hgranted.open_eq
      have htaken : (w.modifyMail who mailId fun mail => mail.itemTaken itemId).Buried dead :=
        h.modifyOpen _ (fun _ => rfl) hfind hstate
      rw [handleMailTakeItem_of_granted hgranted]
      refine Buried.saveMail (Buried.update (Buried.update ?_ _) _)
      split_ifs
      · exact htaken.payCOD
      · exact htaken
    · rw [hw]
      exact h
  · change (w.handleMailTakeMoney m who mailbox mailId).1.Buried dead
    rcases handleMailTakeMoney_cases w m who mailbox mailId with hw | ⟨mail, hopen, hw⟩ <;> rw [hw]
    · exact h
    · obtain ⟨⟨-, hfind⟩, hstate, -⟩ := openMail_eq_some.mp hopen
      refine (Buried.modifyOpen (h.update _) Mail.moneyTaken (fun _ => rfl) ?_ hstate).saveMail
      rw [mails_update]
      exact hfind
  · exact h.update _

/-! ## Where the items are -/

theorem carried_handleEvent
    (hevent : ∀ mailbox mailId itemId, event ≠ .request (.takeItem mailbox mailId itemId))
    (g : Guid) (entry : ℕ) :
    (w.handleEvent env m who event).1.carried g entry = w.carried g entry := by
  rcases event with op | ⟨mailbox, mailId⟩ | _
  · exact carried_answer (r := ⟨m, who, op⟩) (fun mailbox mailId itemId hop =>
      hevent mailbox mailId itemId (congrArg MailboxEvent.request hop)) g entry
  · change (w.handleMailTakeMoney m who mailbox mailId).1.carried g entry = _
    rcases handleMailTakeMoney_cases w m who mailbox mailId with hw | ⟨mail, -, hw⟩ <;> rw [hw]
    exact carried_modifyMoney mail.money g entry
  · refine carried_update (fun c => ?_) g entry
    unfold Character.updateMails
    split_ifs <;> rfl

/-- What an event brings into the inventories: what enters that of who it is about. -/
theorem carried_handleEvent_entered (hstores : env.Stores) (hfiled : w.Filed) (g : Guid)
    (entry : ℕ) :
    (w.handleEvent env m who event).1.carried g entry = w.carried g entry +
      if who = g then ((w.entered (w.handleEvent env m who event).1 who).map
        (Item.amountOf entry)).sum else 0 := by
  have hnothing : ∀ w' : World, (∀ g entry, w'.carried g entry = w.carried g entry) →
      w'.carried g entry = w.carried g entry +
        if who = g then ((w.entered w' who).map (Item.amountOf entry)).sum else 0 := by
    intro w' hsame
    rw [entered_of_carried (hsame who), hsame]
    simp
  by_cases htake : ∃ mailbox mailId itemId, event = .request (.takeItem mailbox mailId itemId)
  · obtain ⟨mailbox, mailId, itemId, rfl⟩ := htake
    rw [handleEvent, handleMailbox]
    rcases handleMailTakeItem_cases (w := w) with ⟨player, mail, item, inventory, hgranted⟩ | hw
    · rw [handleMailTakeItem_of_granted hgranted, entered_takeItem hstores hfiled hgranted,
        carried_takeItem hstores hgranted]
      simp [eq_comm]
    · rw [hw]
      exact hnothing w fun _ _ => rfl
  · exact hnothing _ (carried_handleEvent fun mailbox mailId itemId heq =>
      htake ⟨mailbox, mailId, itemId, heq⟩)

/-- **An item moves from its mail into one inventory**, and every other one stays where it is. -/
theorem attached_handleEvent (hstores : env.Stores) (hfiled : w.Filed) (hheld : w.Held)
    (honce : ∀ i, w.attached i ≤ 1) (horder : w.InOrder env m who guid event) (i : ℕ) :
    (w.handleEvent env m who event).1.attached i +
      ((w.entered (w.handleEvent env m who event).1 who).map Item.guid).count i = w.attached i := by
  rcases event with (⟨mailbox, mailId⟩ | ⟨mailbox, mailId⟩ | ⟨mailbox, mailId⟩ |
    ⟨mailbox, mailId, itemId⟩) | ⟨mailbox, mailId⟩ | _
  · rw [entered_of_carried (carried_handleEvent (by simp) who)]
    change (w.handleMailMarkAsRead m who mailbox mailId).1.attached i + 0 = _
    rcases handleMailMarkAsRead_cases w m who mailbox mailId with hw | ⟨mail, hnear, hmail, hw⟩ <;>
      rw [hw]
    · rfl
    have hsum := attached_modifyMail (find?_of_getMail hmail) Mail.markedAsRead i
    have hsame : mail.markedAsRead.listed i = mail.listed i := by
      rw [Mail.listed_of_ne (horder mail hnear hmail).1]
      rfl
    rw [modifyMail_update, attached_update]
    omega
  · rw [entered_of_carried (carried_handleEvent (by simp) who)]
    change (w.handleMailDelete m who mailbox mailId).1.attached i + 0 = _
    rcases handleMailDelete_cases w m who mailbox mailId
      with hw | ⟨mail, hnear, hmail, hcod, hw⟩ <;>
      rw [hw]
    · rfl
    have hsum := attached_modifyMail (find?_of_getMail hmail) Mail.markedDeleted i
    have hgone : mail.markedDeleted.listed i = 0 := rfl
    have hnone : mail.listed i = 0 := by
      rcases horder mail hnear hmail hcod with hdeleted | ⟨hempty, -⟩
      · rw [Mail.listed, if_pos hdeleted]
      · rw [Mail.listed, hempty, List.count_nil, ite_self]
    omega
  · rw [entered_of_carried (carried_handleEvent (by simp) who)]
    change (w.handleMailReturnToSender env m who mailbox mailId).1.attached i + 0 = _
    rcases handleMailReturnToSender_cases w env m who mailbox mailId with
      hw | ⟨player, mail, hplayer, hnear, hopen, ⟨-, -, hw⟩ | ⟨hdropped, hw⟩⟩ <;> rw [hw]
    · rfl
    · obtain ⟨⟨-, hfind⟩, -, -⟩ := openMail_eq_some.mp hopen
      refine attached_returnMail hheld honce hplayer (receiver_of_find? hfind) hopen ?_ i
      rcases (horder mail hnear hopen).2 with hempty | ⟨-, -, hthere, hbot⟩
      · exact .inl hempty
      · exact .inr ⟨hthere, hbot⟩
    · obtain ⟨⟨-, hfind⟩, -, -⟩ := openMail_eq_some.mp hopen
      have hsum := attached_removeMail hfind i
      rcases (horder mail hnear hopen).2 with hempty | ⟨hnormal, hsender, -, -⟩
      · rw [Mail.listed, hempty, List.count_nil, ite_self] at hsum
        exact hsum
      · exact absurd ⟨hnormal, hsender⟩ hdropped
  · rw [handleEvent, handleMailbox]
    rcases handleMailTakeItem_cases (w := w) with ⟨player, mail, item, inventory, hgranted⟩ | hw
    · have htaken : (w.takeItem env m who mailId itemId player mail item inventory).attached i +
          (if i = itemId then 1 else 0) = w.attached i :=
        attached_takeItem hgranted.open_eq (horder player mail item inventory hgranted) i
      rw [handleMailTakeItem_of_granted hgranted, entered_takeItem hstores hfiled hgranted,
        ← htaken,
        List.map_singleton, (hgranted.mItem?_eq hfiled).2.1, List.count_singleton]
      simp only [beq_iff_eq, @eq_comm _ i]
    · rw [hw, entered_of_carried fun _ => rfl]
      rfl
  · rw [entered_of_carried (carried_handleEvent (by simp) who)]
    change (w.handleMailTakeMoney m who mailbox mailId).1.attached i + 0 = _
    rcases handleMailTakeMoney_cases w m who mailbox mailId with hw | ⟨mail, hopen, hw⟩ <;> rw [hw]
    · rfl
    obtain ⟨⟨-, hfind⟩, hstate, -⟩ := openMail_eq_some.mp hopen
    have hfind' : (w.modifyMoney who mail.money).mails.find? (isMail who mailId) = some mail := by
      rw [modifyMoney, mails_update]
      exact hfind
    have hsum := attached_modifyMail hfind' Mail.moneyTaken i
    have hsame : mail.moneyTaken.listed i = mail.listed i := by
      rw [Mail.listed_of_ne hstate]
      rfl
    rw [attached_saveMail]
    rw [modifyMoney, attached_update] at hsum
    rw [modifyMoney]
    omega
  · rw [entered_of_carried (carried_handleEvent (by simp) who)]
    exact attached_update _ i

/-- **What is listed is still held**, whatever is asked for in order. -/
theorem Held.handleEvent (hheld : w.Held) (honce : ∀ i, w.attached i ≤ 1)
    (horder : w.InOrder env m who guid event) : (w.handleEvent env m who event).1.Held := by
  rcases event with (⟨mailbox, mailId⟩ | ⟨mailbox, mailId⟩ | ⟨mailbox, mailId⟩ |
    ⟨mailbox, mailId, itemId⟩) | ⟨mailbox, mailId⟩ | _
  · change (w.handleMailMarkAsRead m who mailbox mailId).1.Held
    rcases handleMailMarkAsRead_cases w m who mailbox mailId with hw | ⟨mail, hnear, hmail, hw⟩ <;>
      rw [hw]
    · exact hheld
    · have hmarked : (w.modifyMail who mailId Mail.markedAsRead).Held :=
        hheld.modifyMail (find?_of_getMail hmail) rfl (fun _ hi => hi)
          fun _ => (horder mail hnear hmail).1
      rw [modifyMail_update]
      refine hmarked.update fun c => ?_
      unfold Character.countRead
      split_ifs <;> rfl
  · change (w.handleMailDelete m who mailbox mailId).1.Held
    rcases handleMailDelete_cases w m who mailbox mailId
      with hw | ⟨mail, -, hmail, -, hw⟩ <;> rw [hw]
    · exact hheld
    · exact hheld.modifyMail (find?_of_getMail hmail) rfl (fun _ hi => hi)
        fun hlive => absurd rfl hlive
  · change (w.handleMailReturnToSender env m who mailbox mailId).1.Held
    rcases handleMailReturnToSender_cases w env m who mailbox mailId with
      hw | ⟨player, mail, -, -, hopen, ⟨-, -, hw⟩ | ⟨-, hw⟩⟩ <;> rw [hw]
    · exact hheld
    · exact hheld.returnMail honce hopen
    · exact hheld.removeMail
  · change (w.handleMailTakeItem env m who mailbox mailId itemId).1.Held
    rcases handleMailTakeItem_cases (w := w) with ⟨player, mail, item, inventory, hgranted⟩ | hw
    · obtain ⟨⟨-, hfind⟩, -, -⟩ := openMail_eq_some.mp hgranted.open_eq
      rw [handleMailTakeItem_of_granted hgranted]
      exact hheld.takeItem honce hgranted.player_eq (receiver_of_find? hfind) hgranted.open_eq
        hgranted.item_eq (horder player mail item inventory hgranted)
    · rw [hw]
      exact hheld
  · change (w.handleMailTakeMoney m who mailbox mailId).1.Held
    rcases handleMailTakeMoney_cases w m who mailbox mailId with hw | ⟨mail, hopen, hw⟩ <;> rw [hw]
    · exact hheld
    · obtain ⟨⟨-, hfind⟩, hstate, -⟩ := openMail_eq_some.mp hopen
      have hpaid : (w.modifyMoney who mail.money).Held := hheld.update fun _ => rfl
      have htaken :
          ((w.modifyMoney who mail.money).modifyMail who mailId Mail.moneyTaken).Held := by
        refine hpaid.modifyMail ?_ rfl (fun _ hi => hi) fun _ => hstate
        rw [modifyMoney, mails_update]
        exact hfind
      exact htaken.saveMail
  · refine hheld.update fun c => ?_
    unfold Character.updateMails
    split_ifs <;> rfl

/-- **The number of unread mails stays right**, whatever is asked for in order. -/
theorem Counted.handleEvent (hcounted : w.Counted guid now)
    (hle : now ≤ m.now) (honline : m.online guid = true)
    (harrives : ∃ c, w.characters.find? guid = some c ∧
      w.arrived guid now m.now = if event.counts who guid c m.now then 1 else 0)
    (hroom : w.Announces m who guid event → w.unread guid now < 255)
    (horder : w.InOrder env m who guid event) :
    (w.handleEvent env m who event).1.Counted guid m.now := by
  obtain ⟨c, hc, hdue⟩ := harrives
  -- but for the look at new mail, nothing arrives
  have hquiet : event.counts who guid c m.now = false →
      w.Counted guid m.now ∧ w.unread guid m.now = w.unread guid now := by
    intro hnone
    rw [hnone, if_neg Bool.false_ne_true] at hdue
    refine ⟨hcounted.later hle hdue, ?_⟩
    rw [unread_later hle, hdue]
    rfl
  rcases event with (⟨mailbox, mailId⟩ | ⟨mailbox, mailId⟩ | ⟨mailbox, mailId⟩ |
    ⟨mailbox, mailId, itemId⟩) | ⟨mailbox, mailId⟩ | _
  · exact (hquiet rfl).1.handleMailMarkAsRead fun mail hnear hmail =>
      (horder mail hnear hmail).2
  · refine (hquiet rfl).1.handleMailDelete fun mail hnear hmail hcod => ?_
    rcases horder mail hnear hmail hcod with hdeleted | ⟨-, hread⟩
    · simp [isUnread, hdeleted]
    · exact hread
  · obtain ⟨hnow, hsame⟩ := hquiet rfl
    change (w.handleMailReturnToSender env m who mailbox mailId).1.Counted guid m.now
    rcases handleMailReturnToSender_cases w env m who mailbox mailId with
      hw | ⟨player, mail, -, hnear, hopen, ⟨-, -, hw⟩ | ⟨-, hw⟩⟩ <;> rw [hw]
    · exact hnow
    · have hread := (horder mail hnear hopen).1
      refine hnow.returnMail honline hopen hread fun hsender => ?_
      rw [hsame]
      exact hroom ⟨mail, hopen, hsender⟩
    · obtain ⟨⟨-, hfind⟩, -, -⟩ := openMail_eq_some.mp hopen
      exact hnow.removeMail hfind (horder mail hnear hopen).1
  · obtain ⟨hnow, hsame⟩ := hquiet rfl
    change (w.handleMailTakeItem env m who mailbox mailId itemId).1.Counted guid m.now
    rcases handleMailTakeItem_cases (w := w) with ⟨player, mail, item, inventory, hgranted⟩ | hw
    · rw [handleMailTakeItem_of_granted hgranted]
      refine hnow.takeItem honline hgranted.open_eq fun hcod hsender => ?_
      rw [hsame]
      exact hroom ⟨mail, hgranted.open_eq, hcod, hsender⟩
    · rw [hw]
      exact hnow
  · exact (hquiet rfl).1.handleMailTakeMoney
  · change (w.update who fun c => c.updateMails m.now).Counted guid m.now
    by_cases hwho : who = guid
    · subst hwho
      refine hcounted.updateMails hle (fun d hd => ?_) (hroom rfl)
      cases hc.symm.trans hd
      rw [hdue]
      simp [MailboxEvent.counts]
    · exact (hquiet (by simp [MailboxEvent.counts, hwho])).1.update_of_ne hwho _

theorem Filed.handleEvent (h : w.Filed) : (w.handleEvent env m who event).1.Filed := by
  rcases event with op | ⟨mailbox, mailId⟩ | _
  · exact h.answer ⟨m, who, op⟩
  · change (w.handleMailTakeMoney m who mailbox mailId).1.Filed
    rcases handleMailTakeMoney_cases w m who mailbox mailId with hw | ⟨mail, -, hw⟩ <;> rw [hw]
    · exact h
    · intro g i item hitem
      exact h g i item ((mItem?_modifyMoney w mail.money g i).symm.trans hitem)
  · refine Filed.update h fun c => ?_
    unfold Character.updateMails
    split_ifs <;> rfl

theorem Numbered.handleEvent (h : w.Numbered) :
    (w.handleEvent env m who event).1.Numbered := by
  rcases event with op | ⟨mailbox, mailId⟩ | _
  · exact h.answer ⟨m, who, op⟩
  · exact h.handleMailTakeMoney
  · exact h.update _

end World

/-! ## Whole runs -/

namespace Post

variable {env : Env} {guid : Guid} {w : World} {s : Post} {t : Turn}

theorem places_step (env : Env) (s : Post) (t : Turn) (i : ℕ) :
    (s.step env t).places i = (s.step env t).world.attached i +
      ((s.world.entered (s.step env t).world t.guid).map Item.guid).count i +
      (s.moved.map (·.2.guid)).count i := by
  rw [Post.places, Post.step, List.map_append, List.count_append, List.map_map, Nat.add_assoc]
  rfl

theorem given_step (env : Env) (s : Post) (t : Turn) (g : Guid) (entry : ℕ) :
    (s.step env t).given g entry =
      (if t.guid = g then ((s.world.entered (s.step env t).world t.guid).map
        (Item.amountOf entry)).sum else 0) + s.given g entry := by
  rw [Post.given, Post.step, List.filter_append, List.map_append, List.sum_append, Post.given]
  congr 1
  split_ifs with hg
  · rw [List.filter_eq_self.mpr (by simp [hg]), List.map_map]
    rfl
  · rw [List.filter_eq_nil_iff.mpr (by simp [hg])]
    rfl

/-- What is kept over a run that began with the world `w`. -/
structure Kept (w : World) (guid : Guid) (s : Post) : Prop where
  numbered : s.world.Numbered
  held : s.world.Held
  filed : s.world.Filed
  places : ∀ i, s.places i = w.attached i
  carried : ∀ g entry, s.world.carried g entry = w.carried g entry + s.given g entry
  counted : s.world.Counted guid s.now

theorem Kept.step (hstores : env.Stores) (honce : ∀ i, w.attached i ≤ 1) (h : Kept w guid s)
    (ht : Orderly env guid s t) : Kept w guid (s.step env t) := by
  have hnow : ∀ i, s.world.attached i ≤ 1 := by
    intro i
    have hplaces := h.places i
    have hone := honce i
    rw [Post.places] at hplaces
    omega
  refine ⟨h.numbered.handleEvent, h.held.handleEvent hnow ht.inOrder, h.filed.handleEvent,
    fun i => ?_, fun g entry => ?_,
    h.counted.handleEvent ht.later ht.online ht.arrives ht.room ht.inOrder⟩
  · have hmoved : (s.step env t).world.attached i +
        ((s.world.entered (s.step env t).world t.guid).map Item.guid).count i =
          s.world.attached i :=
      World.attached_handleEvent hstores h.filed h.held hnow ht.inOrder i
    rw [places_step, hmoved]
    exact h.places i
  · have hentered : (s.step env t).world.carried g entry = s.world.carried g entry +
        if t.guid = g then ((s.world.entered (s.step env t).world t.guid).map
          (Item.amountOf entry)).sum else 0 :=
      World.carried_handleEvent_entered hstores h.filed g entry
    rw [hentered, h.carried, given_step]
    omega

end Post

/-- **The life of a mail.** After every orderly run from mailboxes that are well kept:
* a mail that was deleted at some time is as it was then, or gone, and nobody can open it;
* an item that was in a mail is in one mail, or has entered one inventory, and not both;
* every character carries what it carried before and what has entered its inventory, nothing else;
* the number of unread mails is the right one. -/
theorem orderly_lifecycle {env : Env} {guid : Guid} {w : World} {now : ℕ} {ts ts' : List Turn}
    (hstores : env.Stores) (hw : w.WellKept guid now)
    (h : Admissible (Post.step env) (Orderly env guid) ⟨w, now, []⟩ (ts ++ ts')) :
    (∀ mail ∈ (run (Post.step env) ⟨w, now, []⟩ ts).world.mails, mail.state = .deleted →
      (run (Post.step env) ⟨w, now, []⟩ (ts ++ ts')).world.Buried mail ∧
        ∀ m, (run (Post.step env) ⟨w, now, []⟩ (ts ++ ts')).world.openMail m mail.receiver
          mail.messageID = none) ∧
    (∀ i, w.attached i = 1 → (run (Post.step env) ⟨w, now, []⟩ (ts ++ ts')).places i = 1) ∧
    (∀ g entry, (run (Post.step env) ⟨w, now, []⟩ (ts ++ ts')).world.carried g entry =
      w.carried g entry + (run (Post.step env) ⟨w, now, []⟩ (ts ++ ts')).given g entry) ∧
    (run (Post.step env) ⟨w, now, []⟩ (ts ++ ts')).world.Counted guid
      (run (Post.step env) ⟨w, now, []⟩ (ts ++ ts')).now := by
  have hstart : Post.Kept w guid ⟨w, now, []⟩ :=
    ⟨hw.numbered, hw.held, hw.filed, fun _ => rfl, fun _ _ => rfl, hw.counted⟩
  have hkept : Post.Kept w guid (run (Post.step env) ⟨w, now, []⟩ (ts ++ ts')) :=
    run_invariant (Post.Kept w guid) (fun _ _ hs ht => hs.step hstores hw.once ht) hstart h
  have hthen : Post.Kept w guid (run (Post.step env) ⟨w, now, []⟩ ts) :=
    run_invariant (Post.Kept w guid) (fun _ _ hs ht => hs.step hstores hw.once ht) hstart h.prefix
  refine ⟨fun mail hmail hstate => ?_, fun i hi => ?_, hkept.carried, hkept.counted⟩
  · have hburied := hthen.numbered.buried hmail hstate
    have hstill : (run (Post.step env) ⟨w, now, []⟩ (ts ++ ts')).world.Buried mail := by
      rw [run_append]
      exact run_invariant (fun s => s.world.Buried mail)
        (fun _ _ hs ht => hs.handleEvent ht.inOrder)
        hburied (admissible_append.mp h).2
    exact ⟨hstill, hstill.openMail⟩
  · rw [hkept.places, hi]

/-! ## Two letters -/

/-- An empty letter, and one with a parcel. -/
def letterWith (mailId : ℕ) (items : List ℕ) : Mail :=
  ⟨mailId, .normal, 0, 2, 1, "", "", items, 0, 0, 0, 0, .unchanged⟩

/-- The first character has two letters, neither of them read. -/
def letters : World where
  characters := (OrderedMap.empty.set 1
    { World.newcomer 1 0 with
      mItems := OrderedMap.empty.set 77 World.parcel
      unReadMails := 2 }).set 2 (World.newcomer 2 0)
  mails := [letterWith 2 [77], letterWith 1 []]
  nextMailId := 3

/-- A request of the first character. -/
def asks (op : World.MailboxOp) : Turn := ⟨World.atMailbox, 1, .request op⟩

theorem wellKept_letters : letters.WellKept 1 0 := by
  refine ⟨⟨by decide, by decide⟩, ?_, World.filed_parcel rfl _ _, fun i => ?_, fun c hc => ?_⟩
  · intro mail hmail _ i hi
    rcases List.mem_cons.mp hmail with rfl | hrest
    · obtain rfl := List.mem_singleton.mp hi
      exact ⟨World.parcel, rfl, rfl⟩
    · rw [List.mem_singleton.mp hrest] at hi
      cases hi
  · have hlisted : letters.attached i = [77].count i := rfl
    rw [hlisted]
    exact List.count_le_length
  · cases hc
    decide

/-- A letter is read and deleted, and the parcel is taken out of its own letter. -/
theorem letters_lifecycle :
    (run (Post.step World.plainEnv) ⟨letters, 0, []⟩
      [asks (.markAsRead 7 1), asks (.delete 7 1), asks (.takeItem 7 2 77)]).places 77 = 1 ∧
    (run (Post.step World.plainEnv) ⟨letters, 0, []⟩
      [asks (.markAsRead 7 1), asks (.delete 7 1), asks (.takeItem 7 2 77)]).world.carried 1 5 =
        1 := by
  have hunread : letters.getMail World.atMailbox 1 1 = some (letterWith 1 []) := by decide +kernel
  have hread : (letters.handleEvent World.plainEnv World.atMailbox 1
      (.request (.markAsRead 7 1))).1.getMail World.atMailbox 1 1 =
        some (letterWith 1 []).markedAsRead := by decide +kernel
  have hparcel : (run (Post.step World.plainEnv) ⟨letters, 0, []⟩
      [asks (.markAsRead 7 1), asks (.delete 7 1)]).world.openMail World.atMailbox 1 2 =
        some (letterWith 2 [77]) := by decide +kernel
  have horderly : Admissible (Post.step World.plainEnv) (Orderly World.plainEnv 1) ⟨letters, 0, []⟩
      ([asks (.markAsRead 7 1), asks (.delete 7 1)] ++ [asks (.takeItem 7 2 77)]) := by
    refine ⟨⟨le_rfl, rfl, ⟨_, rfl, by decide +kernel⟩, fun hnone => hnone.elim, ?_⟩,
      ⟨le_rfl, rfl, ⟨_, rfl, by decide +kernel⟩, fun hnone => hnone.elim, ?_⟩,
      ⟨le_rfl, rfl, ⟨_, rfl, by decide +kernel⟩, fun _ => by decide +kernel, ?_⟩, trivial⟩
    · intro mail _ hmail
      cases hunread.symm.trans hmail
      exact ⟨by decide, fun _ => .inl (by decide)⟩
    · intro mail _ hmail _
      cases hread.symm.trans hmail
      exact .inr ⟨rfl, by decide⟩
    · intro player mail item inventory hgranted
      cases hparcel.symm.trans hgranted.open_eq
      decide
  obtain ⟨-, hplaces, hcarried, -⟩ :=
    orderly_lifecycle World.stores_plainEnv wellKept_letters horderly
  exact ⟨hplaces 77 (by decide), (hcarried 1 5).trans (by decide +kernel)⟩

/-- **Letters that come back.** A letter that was deleted is marked as read, and is there again;
one letter is marked as read twice, and the other one is not counted any more; and the parcel is
taken out by way of the letter without it, and stays listed in its own. -/
theorem letters_come_back :
    World.plainEnv.Stores ∧ letters.WellKept 1 0 ∧
    (∃ mail ∈ (run (Post.step World.plainEnv) ⟨letters, 0, []⟩ [asks (.delete 7 1)]).world.mails,
      mail.state = .deleted ∧
      (run (Post.step World.plainEnv) ⟨letters, 0, []⟩
        [asks (.delete 7 1), asks (.markAsRead 7 1)]).world.openMail World.atMailbox mail.receiver
          mail.messageID ≠ none) ∧
    ¬ (run (Post.step World.plainEnv) ⟨letters, 0, []⟩
      [asks (.markAsRead 7 1), asks (.markAsRead 7 1)]).world.Counted 1 0 ∧
    (letters.attached 77 = 1 ∧
      (run (Post.step World.plainEnv) ⟨letters, 0, []⟩ [asks (.takeItem 7 1 77)]).places 77 =
        2) := by
  refine ⟨World.stores_plainEnv, wellKept_letters, ?_, fun hcounted => ?_, by decide,
    by decide +kernel⟩
  · refine ⟨(letterWith 1 []).markedDeleted, by decide +kernel, rfl, ?_⟩
    decide +kernel
  · have htwice : ∃ c, (run (Post.step World.plainEnv) ⟨letters, 0, []⟩
        [asks (.markAsRead 7 1), asks (.markAsRead 7 1)]).world.characters.find? 1 = some c ∧
        c.unReadMails.toNat = 0 := ⟨_, rfl, by decide +kernel⟩
    have hone : (run (Post.step World.plainEnv) ⟨letters, 0, []⟩
        [asks (.markAsRead 7 1), asks (.markAsRead 7 1)]).world.unread 1 0 = 1 := by decide +kernel
    obtain ⟨c, hc, hzero⟩ := htwice
    have heq := hcounted c hc
    omega

end TeraCore.Mails
