import TeraCore.Mails.Mailbox

/-!
# The number of unread mails

A character has a number of unread mails, which is shown to the client, next to the mails
themselves.  The number counts the mails of its mailbox that have arrived, were not deleted, and
were not read, as long as whatever changes one of the two changes the other.

## Main results

* `World.Counted.sendMailTo`: a mail that is sent is counted when it is there at once
* `World.Counted.later`, `World.Counted.updateMails`: when time passes
* `World.Counted.takeItem`, `World.Counted.returnMail`: what requests leave alone
-/

namespace TeraCore.Mails

open Commons

namespace World

/-- Is it an unread mail of the character, that has arrived and was not deleted? -/
def isUnread (guid : Guid) (now : ℕ) (mail : Mail) : Bool :=
  mail.receiver == guid && mail.state != .deleted && !mail.isRead && mail.deliverTime ≤ now

variable (w : World) (guid : Guid)

/-- How many unread mails a character has. -/
def unread (now : ℕ) : ℕ := w.mails.countP (isUnread guid now)

/-- How many mails arrive for a character between two times. -/
def arrived (now later : ℕ) : ℕ :=
  w.mails.countP fun mail => isUnread guid later mail && now < mail.deliverTime

/-- **The number of unread mails is the right one.** -/
def Counted (now : ℕ) : Prop :=
  ∀ c, w.characters.find? guid = some c → c.unReadMails.toNat = w.unread guid now

variable {w} {env : Env} {m : Moment} {guid} {who : Guid} {mailId itemId now next : ℕ}
  {player : Character} {mail : Mail} {item : Item} {inventory : Inventory}

/-! ## Small changes -/

theorem Counted.update (h : w.Counted guid now) {f : Character → Character}
    (hf : ∀ c, (f c).unReadMails = c.unReadMails) : (w.update who f).Counted guid now := by
  intro c hc
  rw [unread, mails_update]
  cases hwho : w.characters.find? who with
  | none =>
    rw [update_of_none hwho] at hc
    exact h c hc
  | some d =>
    rw [characters_update hwho, OrderedMap.find?_set] at hc
    split_ifs at hc with hg
    · cases hc
      rw [hf]
      exact h d (hg ▸ hwho)
    · exact h c hc

theorem counted_update_self {f : Character → Character}
    (hf : ∀ c, w.characters.find? guid = some c → (f c).unReadMails.toNat = w.unread guid now) :
    (w.update guid f).Counted guid now := by
  intro c hc
  rw [unread, mails_update, ← unread]
  cases hguid : w.characters.find? guid with
  | none =>
    rw [update_of_none hguid, hguid] at hc
    cases hc
  | some d =>
    rw [characters_update hguid, OrderedMap.find?_set_self] at hc
    cases hc
    exact hf d hguid

theorem Counted.update_of_ne (h : w.Counted guid now) (hne : who ≠ guid)
    (f : Character → Character) : (w.update who f).Counted guid now := by
  intro c hc
  rw [unread, mails_update, ← unread]
  cases hwho : w.characters.find? who with
  | none =>
    rw [update_of_none hwho] at hc
    exact h c hc
  | some d =>
    rw [characters_update hwho, OrderedMap.find?_set_of_ne _ _ hne.symm] at hc
    exact h c hc

theorem Counted.modifyMoney (h : w.Counted guid now) (d : BitVec 32) :
    (w.modifyMoney who d).Counted guid now := h.update fun _ => rfl

theorem Counted.setInventory (h : w.Counted guid now) (inv : Inventory) :
    (w.setInventory who inv).Counted guid now := h.update fun _ => rfl

theorem Counted.addMItems (h : w.Counted guid now) (items : List Item) :
    (w.addMItems who items).Counted guid now := h.update fun _ => rfl

theorem Counted.removeMItems (h : w.Counted guid now) (items : List ℕ) :
    (w.removeMItems who items).Counted guid now := h.update fun _ => rfl

theorem Counted.of_unread {w' : World} (h : w.Counted guid now)
    (hcharacters : w'.characters = w.characters)
    (hunread : w'.unread guid now = w.unread guid now) :
    w'.Counted guid now := by
  intro c hc
  rw [hunread]
  exact h c (hcharacters ▸ hc)

theorem unread_modifyMail (h : w.mails.find? (isMail who mailId) = some mail) (f : Mail → Mail) :
    (w.modifyMail who mailId f).unread guid now + (if isUnread guid now mail then 1 else 0) =
      w.unread guid now + (if isUnread guid now (f mail) then 1 else 0) :=
  countP_modifyFirst _ h

theorem unread_removeMail (h : w.mails.find? (isMail who mailId) = some mail) :
    (w.removeMail who mailId).unread guid now + (if isUnread guid now mail then 1 else 0) =
      w.unread guid now :=
  countP_eraseP _ h

@[simp] theorem isUnread_saved : isUnread guid now (saved who mail) = isUnread guid now mail := by
  unfold saved
  split_ifs with hchanged
  · simp only [Bool.and_eq_true, beq_iff_eq] at hchanged
    simp only [isUnread, Mail.isRead, hchanged.2]
    rfl
  · rfl

/-- Who deletes what is deleted, and forgets what has changed, leaves the unread mails alone. -/
theorem unread_saveMail : (w.saveMail who).unread guid now = w.unread guid now := by
  change (List.map (saved who) _).countP _ = _
  rw [List.countP_map, List.countP_filter, unread]
  refine List.countP_congr fun mail _ => ?_
  simp only [Function.comp_apply, isUnread_saved, Bool.and_eq_true, and_iff_left_iff_imp]
  intro hunread
  simp only [isUnread, Bool.and_eq_true, bne_iff_ne, ne_eq] at hunread
  simp [hunread.1.1.2]

theorem Counted.saveMail (h : w.Counted guid now) : (w.saveMail who).Counted guid now :=
  h.of_unread rfl unread_saveMail

theorem Counted.modifyMail (h : w.Counted guid now)
    (hfind : w.mails.find? (isMail who mailId) = some mail)
    {f : Mail → Mail} (hf : isUnread guid now (f mail) = isUnread guid now mail) :
    (w.modifyMail who mailId f).Counted guid now := by
  refine h.of_unread rfl ?_
  have hsum : (w.modifyMail who mailId f).unread guid now + _ = _ := unread_modifyMail hfind f
  rw [hf] at hsum
  omega

theorem modifyMail_update (f : Character → Character) (g : Mail → Mail) :
    (w.update who f).modifyMail who mailId g = (w.modifyMail who mailId g).update who f := by
  unfold update World.modifyMail
  cases w.characters.find? who <;> rfl

/-! ## Time -/

theorem isUnread_later (hle : now ≤ next) :
    (if isUnread guid next mail then 1 else 0) =
      (if isUnread guid now mail then 1 else 0) +
        if (isUnread guid next mail && decide (now < mail.deliverTime)) = true then 1 else 0 := by
  have hcases : mail.deliverTime ≤ now ∨ (now < mail.deliverTime ∧ mail.deliverTime ≤ next) ∨
      next < mail.deliverTime := by omega
  unfold isUnread
  rcases hcases with hthere | ⟨hnot, hthere⟩ | hlate
  · simp [hthere, hthere.trans hle, Nat.not_lt.mpr hthere]
  · simp [hthere, hnot, Nat.not_le.mpr hnot]
  · have hlate' : ¬ mail.deliverTime ≤ now := by omega
    simp [Nat.not_le.mpr hlate, hlate']

theorem unread_later (hle : now ≤ next) :
    w.unread guid next = w.unread guid now + w.arrived guid now next := by
  rw [unread, unread, arrived]
  induction w.mails with
  | nil => rfl
  | cons mail l ih =>
    have hmail : (if isUnread guid next mail then 1 else 0) = _ := isUnread_later hle
    rw [List.countP_cons, List.countP_cons, List.countP_cons, ih]
    omega

theorem Counted.later (h : w.Counted guid now) (hle : now ≤ next)
    (hnone : w.arrived guid now next = 0) : w.Counted guid next := by
  intro c hc
  rw [unread_later hle, hnone]
  exact h c hc

theorem Counted.updateMails (h : w.Counted guid now) (hle : now ≤ next)
    (hdue : ∀ c, w.characters.find? guid = some c →
      w.arrived guid now next = if c.mailIsDue next then 1 else 0)
    (hroom : w.unread guid now < 255) :
    (w.update guid fun c => c.updateMails next).Counted guid next := by
  refine counted_update_self fun c hc => ?_
  have hold := h c hc
  rw [unread_later hle, hdue c hc, Character.updateMails]
  split_ifs
  · bv_omega
  · exact hold

/-! ## New mail -/

theorem isUnread_mailTo {draft : MailDraft} {receiver sender : Guid} {messageType : MailMessageType}
    {checked : MailCheckMask} (hchecked : checked ≠ .read) (mailId deliverTime : ℕ) :
    isUnread guid now (draft.mailTo mailId messageType sender receiver deliverTime checked) =
      (receiver == guid && decide (deliverTime ≤ now)) := by
  have hbits : (checked.bits &&& MailCheckMask.read.bits != 0) = false := by
    cases checked with
    | read => exact absurd rfl hchecked
    | returned => rfl
    | copied => rfl
    | codPayment => rfl
    | hasBody => rfl
  have hlive : (MailState.unchanged != .deleted) = true := rfl
  simp only [isUnread, Mail.isRead, MailDraft.mailTo, hbits, hlive, Bool.and_true, Bool.not_false]
  rfl

section

variable (h : w.Counted guid m.now) (honline : m.online guid = true)
include h honline

theorem Counted.sendMailTo {receiver : Guid} (hroom : receiver = guid → w.unread guid m.now < 255)
    {checked : MailCheckMask} (hchecked : checked ≠ .read) (draft : MailDraft)
    (messageType : MailMessageType) (sender : Guid) (delay : ℕ) :
    (w.sendMailTo env m draft receiver messageType sender checked delay).Counted guid m.now := by
  unfold World.sendMailTo
  by_cases hbot : receiver = env.ahBotGuid
  · simp only [hbot, if_true]
    exact h.of_unread rfl rfl
  · simp only [hbot, if_false]
    refine Counted.addMItems ?_ _
    set new :=
      draft.mailTo w.nextMailId messageType sender receiver (m.now + delay) checked with hnew
    have hunread : ({ w with mails := new :: w.mails, nextMailId := w.nextMailId + 1 } :
        World).unread guid m.now = w.unread guid m.now +
          if (receiver == guid && decide (m.now + delay ≤ m.now)) then 1 else 0 := by
      rw [unread, List.countP_cons, isUnread_mailTo hchecked, unread]
    by_cases hreceiver : receiver = guid
    · subst hreceiver
      have hless := hroom rfl
      rw [if_pos honline]
      refine counted_update_self fun c hc => ?_
      have hold := h c hc
      have htime : new.deliverTime = m.now + delay := rfl
      rw [hunread, Character.addNewMailDeliverTime, htime]
      by_cases hdelay : m.now + delay ≤ m.now
      · simp only [hdelay, if_true, beq_self_eq_true, decide_true, Bool.and_self]
        bv_omega
      · simp only [hdelay, if_false, decide_false, Bool.and_false, Bool.false_eq_true, Nat.add_zero]
        split_ifs <;> exact hold
    · have hother : ({ w with mails := new :: w.mails, nextMailId := w.nextMailId + 1 } :
          World).Counted guid m.now := by
        refine h.of_unread rfl ?_
        rw [hunread]
        simp [hreceiver]
      split_ifs
      · exact hother.update_of_ne hreceiver _
      · exact hother

/-! ## Requests -/

theorem Counted.payCOD (hroom : mail.sender = guid → w.unread guid m.now < 255) :
    (w.payCOD env m who player mail).Counted guid m.now := by
  refine payCOD_rule (motive := fun w => w.Counted guid m.now) (h.modifyMoney _) ?_
  exact (h.sendMailTo honline hroom (by simp) _ _ _ _).modifyMoney _

/-- **Taking an item** leaves the number right. -/
theorem Counted.takeItem (hopen : w.openMail m who mailId = some mail)
    (hroom : mail.cod ≠ 0 → mail.sender = guid → w.unread guid m.now < 255) :
    (w.takeItem env m who mailId itemId player mail item inventory).Counted guid m.now := by
  obtain ⟨⟨-, hfind⟩, hstate, -⟩ := openMail_eq_some.mp hopen
  have hsame : isUnread guid m.now (mail.itemTaken itemId) = isUnread guid m.now mail := by
    have hlive : (mail.state != .deleted) = true := by simpa using hstate
    simp only [isUnread, hlive]
    rfl
  have htaken : (w.modifyMail who mailId fun mail => mail.itemTaken itemId).Counted guid m.now :=
    h.modifyMail hfind hsame
  have hunread : (w.modifyMail who mailId fun mail => mail.itemTaken itemId).unread guid m.now =
      w.unread guid m.now := by
    have hsum : (w.modifyMail who mailId fun mail => mail.itemTaken itemId).unread guid m.now + _ =
        _ := unread_modifyMail hfind _
    rw [hsame] at hsum
    omega
  refine ((Counted.removeMItems ?_ _).setInventory _).saveMail
  split_ifs with hcod
  · exact htaken.payCOD honline fun hsender => hunread ▸ hroom hcod hsender
  · exact htaken

end

theorem Counted.removeMail (h : w.Counted guid now)
    (hfind : w.mails.find? (isMail who mailId) = some mail)
    (hread : isUnread guid now mail = false) :
    (w.removeMail who mailId).Counted guid now := by
  refine h.of_unread rfl ?_
  have hsum : (w.removeMail who mailId).unread guid now + _ = _ := unread_removeMail hfind
  simpa [hread] using hsum

/-- **Returning a mail** that was read leaves the number right. -/
theorem Counted.returnMail (h : w.Counted guid m.now) (honline : m.online guid = true)
    (hopen : w.openMail m who mailId = some mail) (hread : isUnread guid m.now mail = false)
    (hroom : mail.sender = guid → w.unread guid m.now < 255) :
    (w.returnMail env m who mailId player mail).Counted guid m.now := by
  obtain ⟨⟨-, hfind⟩, -, -⟩ := openMail_eq_some.mp hopen
  have hrest : ((w.removeMail who mailId).removeMItems who mail.items).Counted guid m.now :=
    (h.removeMail hfind hread).removeMItems _
  have hunread : ((w.removeMail who mailId).removeMItems who mail.items).unread guid m.now =
      w.unread guid m.now := by
    have hsum : (w.removeMail who mailId).unread guid m.now + _ = _ := unread_removeMail hfind
    rw [unread, World.removeMItems, mails_update, ← unread]
    simpa [hread] using hsum
  refine sendReturnToSender_rule (motive := fun w => w.Counted guid m.now) (fun _ => hrest)
    fun c delay _ => ?_
  exact hrest.sendMailTo honline (fun hsender => hunread ▸ hroom hsender) (by simp) _ _ _ _

/-- **Taking money** leaves the number right. -/
theorem Counted.handleMailTakeMoney {mailbox : Guid} (h : w.Counted guid m.now) :
    (w.handleMailTakeMoney m who mailbox mailId).1.Counted guid m.now := by
  rcases handleMailTakeMoney_cases w m who mailbox mailId with hw | ⟨mail, hopen, hw⟩
  · rw [hw]
    exact h
  · obtain ⟨⟨-, hfind⟩, hstate, -⟩ := openMail_eq_some.mp hopen
    have hsame : isUnread guid m.now mail.moneyTaken = isUnread guid m.now mail := by
      have hlive : (mail.state != .deleted) = true := by simpa using hstate
      simp only [isUnread, hlive]
      rfl
    rw [hw]
    refine ((h.modifyMoney _).modifyMail ?_ hsame).saveMail
    rw [World.modifyMoney, mails_update]
    exact hfind

theorem Counted.handleMailDelete {mailbox : Guid} (h : w.Counted guid m.now)
    (hread : ∀ mail, m.canInteractWith who mailbox = true → w.getMail m who mailId = some mail →
      mail.cod = 0 → isUnread guid m.now mail = false) :
    (w.handleMailDelete m who mailbox mailId).1.Counted guid m.now := by
  rcases handleMailDelete_cases w m who mailbox mailId with hw | ⟨mail, hnear, hmail, hcod, hw⟩
  · rw [hw]
    exact h
  · have hgone : isUnread guid m.now mail.markedDeleted = isUnread guid m.now mail := by
      rw [hread mail hnear hmail hcod]
      simp [isUnread, Mail.markedDeleted]
    rw [hw]
    exact h.modifyMail (find?_of_getMail hmail) hgone

theorem Counted.handleMailMarkAsRead {mailbox : Guid} (h : w.Counted guid m.now)
    (hmark : ∀ mail, m.canInteractWith who mailbox = true → w.getMail m who mailId = some mail →
      who = guid → isUnread guid m.now mail = true ∨ w.unread guid m.now = 0) :
    (w.handleMailMarkAsRead m who mailbox mailId).1.Counted guid m.now := by
  rcases handleMailMarkAsRead_cases w m who mailbox mailId with hw | ⟨mail, hnear, hmail, hw⟩
  · rw [hw]
    exact h
  · have hfind := find?_of_getMail hmail
    have hmarked : isUnread guid m.now mail.markedAsRead = false := by
      simp [isUnread, mail.isRead_markedAsRead]
    have hsum : (w.modifyMail who mailId Mail.markedAsRead).unread guid m.now + _ = _ :=
      unread_modifyMail hfind _
    rw [hmarked, if_neg Bool.false_ne_true] at hsum
    rw [hw, modifyMail_update]
    by_cases hwho : who = guid
    · subst hwho
      refine counted_update_self fun c hc => ?_
      have hold := h c hc
      rw [Character.countRead]
      rcases hmark mail hnear hmail rfl with hunread | hnone
      · rw [if_pos hunread] at hsum
        have hsome : c.unReadMails ≠ 0 := by
          intro hzero
          rw [hzero] at hold
          change 0 = _ at hold
          omega
        rw [if_pos hsome]
        bv_omega
      · have hzero : c.unReadMails = 0 := by
          rw [hnone] at hold
          exact BitVec.eq_of_toNat_eq hold
        rw [if_neg (by simp [hzero]), hold]
        omega
    · have hother : isUnread guid m.now mail = false := by
        simp [isUnread, receiver_of_find? hfind, hwho]
      rw [hother, if_neg Bool.false_ne_true] at hsum
      have hsame : (w.modifyMail who mailId Mail.markedAsRead).Counted guid m.now :=
        h.of_unread rfl hsum
      exact hsame.update_of_ne hwho _

end World

end TeraCore.Mails
