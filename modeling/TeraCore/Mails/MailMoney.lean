import TeraCore.Mails.MailHandler

/-!
# Mail: where the money goes

Money is in the characters' purses, and in the mails that were not deleted.  A mail that is sent
costs a fee; apart from it, money only changes places.

It does not when an amount leaves the range of what the handlers compute with: the fee and the
money of a mail are added as 32-bit words, and a purse is filled up to its cap while the mail is
emptied.  Mail to the auction house bot's character is thrown away, and money in it is lost.

## Main results

* `World.keepsMoney_iff`: exactly then money is kept
-/

namespace TeraCore.Mails

open Commons

/-! ## The money -/

/-- The money in a mail, nothing in one that was deleted. -/
def Mail.held (mail : Mail) : ℕ := if mail.state = .deleted then 0 else mail.money.toNat

theorem Mail.held_of_ne {mail : Mail} (h : mail.state ≠ .deleted) : mail.held = mail.money.toNat :=
  if_neg h

theorem Mail.held_itemTaken {mail : Mail} (h : mail.state ≠ .deleted) (itemId : ℕ) :
    (mail.itemTaken itemId).held = mail.held := by
  rw [held_of_ne h]
  rfl

@[simp] theorem Mail.held_moneyTaken (mail : Mail) : mail.moneyTaken.held = 0 := rfl

/-- The fee of a request. -/
def World.MailOp.fee : World.MailOp → ℕ
  | .sendMail pkt => pkt.cost.toNat
  | _ => 0

namespace World

def purses (w : World) : ℕ := w.characters.sumOf fun c => c.money.toNat

def mailed (w : World) : ℕ := (w.mails.map Mail.held).sum

/-- **All the money**: in purses and in mails. -/
def total (w : World) : ℕ := w.purses + w.mailed

variable (env : Env) (m : Moment) (w : World) (guid : Guid)

/-- **Money is kept**: a granted request takes its fee and nothing else; a refused one leaves
everything as it was. -/
def KeepsMoney (op : MailOp) : Prop :=
  ((w.handle env m guid op).2.accepted = true →
    (w.handle env m guid op).1.total + op.fee = w.total) ∧
  ((w.handle env m guid op).2.accepted = false → (w.handle env m guid op).1 = w)

/-- **The amounts are in range.** What is sent and its fee are a 32-bit word together; what is
taken has room in the purse, or is the one amount that steps over the cap; and no money goes to
the bot. -/
def InRange (player : Character) :
    MailOp → Prop
  | .sendMail pkt =>
    pkt.cost.toNat + pkt.money.toNat < 2 ^ 32 ∧
      (receiverOf env pkt = env.ahBotGuid → pkt.money = 0)
  | .returnToSender _ mailId => ∀ mail, w.openMail m guid mailId = some mail →
      mail.sender = env.ahBotGuid → mail.money = 0
  | .takeItem _ mailId _ => ∀ mail, w.openMail m guid mailId = some mail →
      mail.sender = env.ahBotGuid → mail.cod = 0
  | .takeMoney _ mailId => ∀ mail, w.openMail m guid mailId = some mail →
      player.money.toNat + mail.money.toNat ≤ maxMoneyAmount.toNat ∨
        mail.money.toNat = 2 ^ 31 - 1

/-- **Both ends exist**: a mail that is returned is a player's, and who sent it, or asked for a
charge, is a character. -/
def EndsExist (m : Moment) (w : World) (guid : Guid) : MailOp → Prop
  | .returnToSender _ mailId => ∀ mail, w.openMail m guid mailId = some mail →
      mail.messageType = .normal ∧ mail.sender ≠ 0 ∧ ∃ c, w.characters.find? mail.sender = some c
  | .takeItem _ mailId _ => ∀ mail, w.openMail m guid mailId = some mail → mail.cod ≠ 0 →
      ∃ c, w.characters.find? mail.sender = some c
  | _ => True

variable {w : World} {env : Env} {m : Moment} {guid : Guid} {player c : Character} {mail : Mail}

/-! ## One character, changed -/

/-- The purse of a character. -/
def playerOf (w : World) (guid : Guid) : Option Player :=
  (w.characters.find? guid).map Character.toPlayer

theorem playerOf_of_find? (h : w.characters.find? guid = some c) :
    w.playerOf guid = some c.toPlayer := by
  rw [playerOf, h]
  rfl

theorem characters_update (h : w.characters.find? guid = some c) (f : Character → Character) :
    (w.update guid f).characters = w.characters.set guid (f c) := by
  simp only [update, h]

theorem update_of_none (h : w.characters.find? guid = none) (f : Character → Character) :
    w.update guid f = w := by
  simp only [update, h]

@[simp] theorem mails_update (f : Character → Character) : (w.update guid f).mails = w.mails := by
  unfold update
  split <;> rfl

/-- **A part of a character**, if there is one. -/
def part {α : Type*} (w : World) (π : Character → α) (g : Guid) : Option α :=
  (w.characters.find? g).map π

/-- **A part that is apart from the mail**: neither the items that are held for mails nor the counts
of mails belong to it. -/
structure ApartFromMail {α : Type*} (π : Character → α) : Prop where
  mItems : ∀ c mItems, π { c with mItems := mItems } = π c
  unReadMails : ∀ c n, π { c with unReadMails := n } = π c
  nextMailDelivereTime : ∀ c time, π { c with nextMailDelivereTime := time } = π c

section Parts

variable {α : Type*} {π : Character → α}

theorem part_update {f : Character → Character} (hf : ∀ c, π (f c) = π c) (g : Guid) :
    (w.update guid f).part π g = w.part π g := by
  cases h : w.characters.find? guid with
  | none => rw [update_of_none h]
  | some c =>
    rw [part, characters_update h, OrderedMap.find?_set, part]
    split_ifs with hg
    · rw [hg, h, Option.map_some, Option.map_some, hf]
    · rfl

theorem ApartFromMail.addNewMailDeliverTime (hπ : ApartFromMail π) (c : Character)
    (now deliverTime : ℕ) : π (c.addNewMailDeliverTime now deliverTime) = π c := by
  unfold Character.addNewMailDeliverTime
  split_ifs
  · exact hπ.unReadMails c _
  · exact hπ.nextMailDelivereTime c _
  · rfl

theorem part_addMItems (hπ : ApartFromMail π) (items : List Item) (g : Guid) :
    (w.addMItems guid items).part π g = w.part π g :=
  part_update (fun c => hπ.mItems c _) g

theorem part_removeMItems (hπ : ApartFromMail π) (items : List ℕ) (g : Guid) :
    (w.removeMItems guid items).part π g = w.part π g :=
  part_update (fun c => hπ.mItems c _) g

theorem part_sendMailTo (hπ : ApartFromMail π) (draft : MailDraft) (receiver : Guid)
    (messageType : MailMessageType) (sender : Guid) (checked : MailCheckMask) (delay : ℕ)
    (g : Guid) :
    (w.sendMailTo env m draft receiver messageType sender checked delay).part π g =
      w.part π g := by
  unfold sendMailTo
  split_ifs
  · rfl
  · exact (part_addMItems hπ _ g).trans
      (part_update (fun c => hπ.addNewMailDeliverTime c m.now _) g)
  · exact part_addMItems hπ _ g

end Parts

theorem apartFromMail_toPlayer : ApartFromMail Character.toPlayer :=
  ⟨fun _ _ => rfl, fun _ _ => rfl, fun _ _ => rfl⟩

theorem purses_update (h : w.characters.find? guid = some c) (f : Character → Character) :
    (w.update guid f).purses + c.money.toNat = w.purses + (f c).money.toNat := by
  rw [purses, characters_update h]
  exact OrderedMap.sumOf_set h _ _

theorem total_update {f : Character → Character} (hf : ∀ c, (f c).toPlayer = c.toPlayer) :
    (w.update guid f).total = w.total := by
  cases h : w.characters.find? guid with
  | none => rw [update_of_none h]
  | some c =>
    have hsum := purses_update h f
    rw [hf c] at hsum
    rw [total, total, mailed, mailed, mails_update]
    omega

@[simp] theorem total_setInventory (inv : Inventory) : (w.setInventory guid inv).total = w.total :=
  total_update fun _ => rfl

@[simp] theorem total_addNewMailDeliverTime (now deliverTime : ℕ) :
    (w.addNewMailDeliverTime now guid deliverTime).total = w.total :=
  total_update fun c => apartFromMail_toPlayer.addNewMailDeliverTime c now deliverTime

@[simp] theorem total_addMItems (items : List Item) : (w.addMItems guid items).total = w.total :=
  total_update fun _ => rfl

@[simp] theorem total_removeMItems (items : List ℕ) : (w.removeMItems guid items).total = w.total :=
  total_update fun _ => rfl

@[simp] theorem total_moveItemsFromInventory (items : List Item) :
    (w.moveItemsFromInventory guid items).total = w.total :=
  total_update fun _ => rfl

variable {p : Player} {mailId : ℕ} {pkt : SendMail} {answer : Answer} {mailbox : Guid}

theorem total_modifyMoney (h : w.playerOf guid = some p) (d : BitVec 32) :
    (w.modifyMoney guid d).total + p.money.toNat = w.total + (p.modifyMoney d).money.toNat := by
  rw [playerOf, Option.map_eq_some_iff] at h
  obtain ⟨c, hc, rfl⟩ := h
  have hsum : (w.modifyMoney guid d).purses + c.money.toNat =
      w.purses + (c.toPlayer.modifyMoney d).money.toNat := purses_update hc _
  have hmails : (w.modifyMoney guid d).mailed = w.mailed := by
    rw [mailed, modifyMoney, mails_update]
    rfl
  rw [total, total]
  omega

theorem total_pay (h : w.playerOf guid = some p) {x : BitVec 32} (hx : x ≤ p.money)
    (hcap : p.money ≤ maxMoneyAmount) : (w.modifyMoney guid (-x)).total + x.toNat = w.total := by
  have hsum := total_modifyMoney h (-x)
  have hpay := p.modifyMoney_pay hx hcap
  omega

/-! ## Mails -/

theorem total_sendMailTo (w : World) (env : Env) (m : Moment) (draft : MailDraft) (receiver : Guid)
    (messageType : MailMessageType) (sender : Guid) (checked : MailCheckMask) (delay : ℕ) :
    (w.sendMailTo env m draft receiver messageType sender checked delay).total =
      w.total + if receiver = env.ahBotGuid then 0 else draft.money.toNat := by
  unfold sendMailTo
  by_cases hbot : receiver = env.ahBotGuid
  · simp only [hbot, if_true]
    rfl
  · simp only [hbot, if_false, total_addMItems, apply_ite total, total_addNewMailDeliverTime,
      ite_self]
    rw [total, total, mailed, mailed, List.map_cons, List.sum_cons]
    simp only [Mail.held, MailDraft.mailTo, purses, reduceCtorEq, if_false]
    omega

theorem playerOf_sendMailTo (draft : MailDraft) (receiver : Guid) (messageType : MailMessageType)
    (sender : Guid) (checked : MailCheckMask) (delay : ℕ) (g : Guid) :
    (w.sendMailTo env m draft receiver messageType sender checked delay).playerOf g =
      w.playerOf g :=
  part_sendMailTo apartFromMail_toPlayer draft receiver messageType sender checked delay g

theorem total_modifyMail (h : w.mails.find? (isMail guid mailId) = some mail) (f : Mail → Mail) :
    (w.modifyMail guid mailId f).total + mail.held = w.total + (f mail).held := by
  have hsum := sum_map_modifyFirst (f := f) Mail.held h
  simp only [total, mailed, modifyMail, purses]
  omega

theorem total_removeMail (h : w.mails.find? (isMail guid mailId) = some mail) :
    (w.removeMail guid mailId).total + mail.held = w.total := by
  have hsum := sum_map_eraseP Mail.held h
  simp only [total, mailed, removeMail, purses]
  omega

@[simp] theorem total_saveMail (w : World) (player : Guid) :
    (w.saveMail player).total = w.total := by
  suffices hsum : (w.saveMail player).mailed = w.mailed by
    rw [total, hsum]
    rfl
  simp only [mailed, saveMail]
  induction w.mails with
  | nil => rfl
  | cons mail l ih =>
    rw [List.map_cons, List.sum_cons, ← ih, List.filter_cons]
    by_cases hplayer : mail.receiver = player <;> cases hstate : mail.state <;>
      simp [Mail.held, hplayer, hstate]

theorem openMail_eq_some :
    w.openMail m guid mailId = some mail ↔
      (m.mailsLoaded guid = true ∧ w.mails.find? (isMail guid mailId) = some mail) ∧
        mail.state ≠ .deleted ∧ mail.deliverTime ≤ m.now := by
  rw [openMail, Option.filter_eq_some_iff, getMail]
  split_ifs with hloaded <;> simp [hloaded]

theorem held_of_openMail (h : w.openMail m guid mailId = some mail) :
    mail.held = mail.money.toNat :=
  Mail.held_of_ne (openMail_eq_some.mp h).2.1

/-! ## Sending -/

theorem hasEnoughMoney_of_check {items : List Item}
    (h : w.checkSendMail env m guid player pkt = .ok items) (hgm : player.isGameMaster = false) :
    pkt.reqmoney ≤ player.money := by
  by_contra hnot
  have hfew : player.hasEnoughMoney pkt.reqmoney = false := by
    rw [Player.hasEnoughMoney, decide_eq_false_iff_not]
    exact hnot
  simp only [checkSendMail, hfew, hgm, Bool.not_false, Bool.and_true, if_true] at h
  split_ifs at h

theorem handleSendMail_of_error (hp : w.characters.find? guid = some player)
    (h : w.checkSendMail env m guid player pkt = .error answer) :
    w.handleSendMail env m guid pkt = (w, answer) := by
  simp only [handleSendMail, hp, h]

theorem total_handleSendMail {items : List Item}
    (hp : w.characters.find? guid = some player) (hgm : player.isGameMaster = false)
    (hcap : player.money ≤ maxMoneyAmount) (h : w.checkSendMail env m guid player pkt = .ok items) :
    (w.handleSendMail env m guid pkt).1.total + pkt.reqmoney.toNat =
      w.total + if receiverOf env pkt = env.ahBotGuid then 0 else pkt.money.toNat := by
  have hpay := total_pay (playerOf_of_find? hp) (hasEnoughMoney_of_check h hgm) hcap
  simp only [handleSendMail, hp, h, total_sendMailTo, total_moveItemsFromInventory,
    MailDraft.addCOD_money, MailDraft.addMoney_money]
  omega

/-! ## Returning -/

theorem getPlayerAccountIdByGUID_ne_zero {g : Guid} (h : w.playerOf g = some p) :
    w.getPlayerAccountIdByGUID g ≠ 0 := by
  rw [playerOf, Option.map_eq_some_iff] at h
  obtain ⟨c, hc, -⟩ := h
  rw [getPlayerAccountIdByGUID, hc]
  exact c.account_pos.ne'

theorem total_sendReturnToSender {receiver : Guid}
    (h : w.playerOf receiver = some p) (draft : MailDraft) (senderAcc : ℕ) (sender : Guid) :
    (w.sendReturnToSender env m draft senderAcc sender receiver).total =
      w.total + if receiver = env.ahBotGuid then 0 else draft.money.toNat := by
  have haccount := getPlayerAccountIdByGUID_ne_zero h
  cases honline : (w.findPlayer m receiver).isSome <;>
    simp [sendReturnToSender, honline, haccount, total_sendMailTo]

theorem total_handleMailReturnToSender
    (hp : w.characters.find? guid = some player) (hat : m.canInteractWith guid mailbox = true)
    (hmail : w.openMail m guid mailId = some mail) (hnormal : mail.messageType = .normal)
    (hsender : mail.sender ≠ 0) (hc : w.characters.find? mail.sender = some c) :
    (w.handleMailReturnToSender env m guid mailbox mailId).1.total + mail.money.toNat =
      w.total + if mail.sender = env.ahBotGuid then 0 else mail.money.toNat := by
  have hfind := (openMail_eq_some.mp hmail).1.2
  have hremove := total_removeMail hfind
  rw [held_of_openMail hmail] at hremove
  have hexists : ((w.removeMail guid mailId).removeMItems guid mail.items).playerOf mail.sender =
      some c.toPlayer :=
    (part_removeMItems apartFromMail_toPlayer _ _).trans (playerOf_of_find? hc)
  simp only [handleMailReturnToSender, hp, hat, hmail, hnormal, hsender, Bool.not_true,
    Bool.false_eq_true, if_false, ne_eq, not_false_eq_true, and_self, if_true]
  rw [total_sendReturnToSender hexists, total_removeMItems, MailDraft.addMoney_money]
  omega

/-! ## Taking -/

theorem payCOD_eq (hsender : w.playerOf mail.sender = some p) :
    w.payCOD env m guid c mail =
      (w.sendMailTo env m ((MailDraft.ofText mail.subject "").addMoney mail.cod) mail.sender .normal
        mail.receiver .codPayment 0).modifyMoney guid (-mail.cod) := by
  have haccount := getPlayerAccountIdByGUID_ne_zero hsender
  unfold payCOD
  cases hreceive : w.findPlayer m mail.sender <;> simp [haccount]

/-- **A charge that is paid** comes out of the purse, and goes to who asked for it. -/
theorem total_payCOD (hp : w.playerOf guid = some c.toPlayer)
    (hsender : w.playerOf mail.sender = some p) (henough : mail.cod ≤ c.money)
    (hcap : c.money ≤ maxMoneyAmount) :
    (w.payCOD env m guid c mail).total + mail.cod.toNat =
      w.total + if mail.sender = env.ahBotGuid then 0 else mail.cod.toNat := by
  rw [payCOD_eq hsender, total_pay _ henough hcap, total_sendMailTo, MailDraft.addMoney_money]
  rw [playerOf_sendMailTo, hp]

theorem total_modifyMail_itemTaken (hmail : w.openMail m guid mailId = some mail) (itemId : ℕ) :
    (w.modifyMail guid mailId fun mail => mail.itemTaken itemId).total = w.total := by
  obtain ⟨⟨-, hfind⟩, hstate, -⟩ := openMail_eq_some.mp hmail
  have hsum := total_modifyMail hfind fun mail => mail.itemTaken itemId
  rw [Mail.held_itemTaken hstate] at hsum
  exact Nat.add_right_cancel hsum

theorem total_handleMailTakeItem {itemId : ℕ} {item : Item}
    {inventory : Inventory} (hp : w.characters.find? guid = some player)
    (hcap : player.money ≤ maxMoneyAmount) (hat : m.canInteractWith guid mailbox = true)
    (hmail : w.openMail m guid mailId = some mail)
    (hsender : mail.cod ≠ 0 → ∃ c, w.characters.find? mail.sender = some c)
    (henough : mail.cod ≤ player.money) (hitem : player.mItems.find? itemId = some item)
    (hstore : env.storeItem player.inventory item = .ok inventory) :
    (w.handleMailTakeItem env m guid mailbox mailId itemId).1.total + mail.cod.toNat =
      w.total + if mail.sender = env.ahBotGuid then 0 else mail.cod.toNat := by
  have hpays : player.hasEnoughMoney mail.cod = true := decide_eq_true henough
  have hkept := total_modifyMail_itemTaken hmail itemId
  simp only [handleMailTakeItem, hp, hat, hmail, hpays, hitem, hstore, Bool.not_true,
    Bool.false_eq_true, if_false, total_saveMail, total_setInventory, total_removeMItems]
  by_cases hcod : mail.cod = 0
  · simp [hcod, hkept]
  · obtain ⟨c, hc⟩ := hsender hcod
    rw [if_pos hcod, ← hkept]
    exact total_payCOD (playerOf_of_find? hp) (playerOf_of_find? hc) henough hcap

/-- **Money that is taken** leaves the mail, whatever the purse has room for. -/
theorem total_handleMailTakeMoney
    (hp : w.characters.find? guid = some player) (hat : m.canInteractWith guid mailbox = true)
    (hmail : w.openMail m guid mailId = some mail) :
    (w.handleMailTakeMoney m guid mailbox mailId).1.total + player.money.toNat +
        mail.money.toNat =
      w.total + (player.toPlayer.modifyMoney mail.money).money.toNat := by
  obtain ⟨⟨-, hfind⟩, hstate, -⟩ := openMail_eq_some.mp hmail
  have hfind' : (w.modifyMoney guid mail.money).mails.find? (isMail guid mailId) = some mail := by
    rw [modifyMoney, mails_update]
    exact hfind
  have hmoney := total_modifyMoney (playerOf_of_find? hp) mail.money
  have hsum := total_modifyMail hfind' Mail.moneyTaken
  rw [Mail.held_moneyTaken, Mail.held_of_ne hstate] at hsum
  simp only [handleMailTakeMoney, hp, hat, hmail, Bool.not_true, Bool.false_eq_true, if_false,
    total_saveMail]
  omega

/-! ## Refused requests -/

theorem accepted_of_checkItem {rcAccount : ℕ} {g : ℕ}
    (h : checkItem env player rcAccount pkt g = .error answer) : answer.accepted = false := by
  unfold checkItem at h
  split_ifs at h with hzero
  · cases h
    rfl
  · cases hitem : player.inventory.getItemByGuid g with
    | none =>
      simp only [hitem] at h
      cases h
      rfl
    | some item =>
      simp only [hitem] at h
      split_ifs at h <;> cases h <;> rfl

theorem accepted_of_checkItems {rcAccount : ℕ} {l : List ℕ}
    (h : l.mapM (checkItem env player rcAccount pkt) = .error answer) :
    answer.accepted = false := by
  induction l with
  | nil => cases h
  | cons g l ih =>
    rw [List.mapM_cons] at h
    cases hg : checkItem env player rcAccount pkt g with
    | error e =>
      rw [hg] at h
      obtain rfl : e = answer := Except.error.inj h
      exact accepted_of_checkItem hg
    | ok item =>
      rw [hg] at h
      cases hl : l.mapM (checkItem env player rcAccount pkt) with
      | error e =>
        rw [hl] at h
        obtain rfl : e = answer := Except.error.inj h
        exact ih hl
      | ok items =>
        rw [hl] at h
        cases h

theorem accepted_of_checkSendMail
    (h : w.checkSendMail env m guid player pkt = .error answer) : answer.accepted = false := by
  dsimp only [checkSendMail] at h
  split_ifs at h
  all_goals first
    | exact accepted_of_checkItems h
    | (cases h; rfl)

theorem keepsMoney_of_refused {op : MailOp} {inRange : Prop}
    (h : w.handle env m guid op = (w, answer)) (hrefused : answer.accepted = false) :
    KeepsMoney env m w guid op ↔ ((w.handle env m guid op).2.accepted = true → inRange) := by
  simp [KeepsMoney, h, hrefused]

theorem keepsMoney_of_granted {op : MailOp} {inRange : Prop}
    (h : (w.handle env m guid op).2.accepted = true)
    (hiff : (w.handle env m guid op).1.total + op.fee = w.total ↔ inRange) :
    KeepsMoney env m w guid op ↔ ((w.handle env m guid op).2.accepted = true → inRange) := by
  simp [KeepsMoney, h, hiff]

/-! ## When money is kept -/

theorem keepsMoney_sendMail (hp : w.characters.find? guid = some player)
    (hgm : player.isGameMaster = false) (hcap : player.money ≤ maxMoneyAmount) :
    KeepsMoney env m w guid (.sendMail pkt) ↔
      ((w.handle env m guid (.sendMail pkt)).2.accepted = true →
        InRange env m w guid player (.sendMail pkt)) := by
  cases hcheck : w.checkSendMail env m guid player pkt with
  | error answer =>
    exact keepsMoney_of_refused (handleSendMail_of_error hp hcheck)
      (accepted_of_checkSendMail hcheck)
  | ok items =>
    have haccepted : (w.handleSendMail env m guid pkt).2.accepted = true := by
      simp only [handleSendMail, hp, hcheck]
      rfl
    refine keepsMoney_of_granted haccepted ?_
    have htotal := total_handleSendMail hp hgm hcap hcheck
    have hreq : pkt.reqmoney.toNat = (pkt.cost.toNat + pkt.money.toNat) % 2 ^ 32 :=
      BitVec.toNat_add _ _
    have hzero : pkt.money = 0 ↔ pkt.money.toNat = 0 := BitVec.toNat_eq
    rw [InRange, hzero]
    change (w.handleSendMail env m guid pkt).1.total + pkt.cost.toNat = w.total ↔ _
    by_cases hbot : receiverOf env pkt = env.ahBotGuid
    · simp only [hbot, if_true, true_implies] at htotal ⊢
      omega
    · simp only [hbot, if_false, false_implies, and_true] at htotal ⊢
      omega

/-- What goes to a sender comes to the total, unless it is the bot of the auction house. -/
theorem total_eq_iff_of_bot {total total' : ℕ} {money : BitVec 32} {bot : Prop} [Decidable bot]
    (h : total' + money.toNat = total + if bot then 0 else money.toNat) :
    total' + 0 = total ↔ (bot → money = 0) := by
  have hzero : money = 0 ↔ money.toNat = 0 := BitVec.toNat_eq
  rw [hzero]
  by_cases hbot : bot
  · simp only [hbot, if_true, true_implies] at h ⊢
    omega
  · simp only [hbot, if_false, false_implies, iff_true] at h ⊢
    omega

theorem keepsMoney_returnToSender (hp : w.characters.find? guid = some player)
    (hends : EndsExist m w guid (.returnToSender mailbox mailId)) :
    KeepsMoney env m w guid (.returnToSender mailbox mailId) ↔
      ((w.handle env m guid (.returnToSender mailbox mailId)).2.accepted = true →
        InRange env m w guid player (.returnToSender mailbox mailId)) := by
  cases hat : m.canInteractWith guid mailbox with
  | false =>
    have hrefused : w.handle env m guid (.returnToSender mailbox mailId) = (w, .silent) := by
      simp [handle, handleMailReturnToSender, hp, hat]
    exact keepsMoney_of_refused hrefused rfl
  | true =>
    cases hmail : w.openMail m guid mailId with
    | none =>
      have hrefused : w.handle env m guid (.returnToSender mailbox mailId) =
          (w, .error mailId .returnedToSender .internalError) := by
        simp [handle, handleMailReturnToSender, hp, hat, hmail]
      exact keepsMoney_of_refused hrefused rfl
    | some mail =>
      obtain ⟨hnormal, hsender, c, hc⟩ := hends mail hmail
      have haccepted :
          (w.handle env m guid (.returnToSender mailbox mailId)).2.accepted = true := by
        simp [handle, handleMailReturnToSender, hp, hat, hmail, hnormal, hsender, Answer.accepted,
          Answer.ok]
      refine keepsMoney_of_granted haccepted ?_
      have htotal : (w.handleMailReturnToSender env m guid mailbox mailId).1.total +
          mail.money.toNat =
            w.total + if mail.sender = env.ahBotGuid then 0 else mail.money.toNat :=
        total_handleMailReturnToSender hp hat hmail hnormal hsender hc
      simp only [InRange, hmail, Option.some.injEq, forall_eq']
      exact total_eq_iff_of_bot htotal

theorem keepsMoney_takeItem {itemId : ℕ}
    (hp : w.characters.find? guid = some player) (hcap : player.money ≤ maxMoneyAmount)
    (hends : EndsExist m w guid (.takeItem mailbox mailId itemId)) :
    KeepsMoney env m w guid (.takeItem mailbox mailId itemId) ↔
      ((w.handle env m guid (.takeItem mailbox mailId itemId)).2.accepted = true →
        InRange env m w guid player (.takeItem mailbox mailId itemId)) := by
  cases hat : m.canInteractWith guid mailbox with
  | false =>
    have hrefused : w.handle env m guid (.takeItem mailbox mailId itemId) = (w, .silent) := by
      simp [handle, handleMailTakeItem, hp, hat]
    exact keepsMoney_of_refused hrefused rfl
  | true =>
    cases hmail : w.openMail m guid mailId with
    | none =>
      have hrefused : w.handle env m guid (.takeItem mailbox mailId itemId) =
          (w, .error mailId .itemTaken .internalError) := by
        simp [handle, handleMailTakeItem, hp, hat, hmail]
      exact keepsMoney_of_refused hrefused rfl
    | some mail =>
      by_cases henough : mail.cod ≤ player.money
      swap
      · have hfew : player.hasEnoughMoney mail.cod = false := decide_eq_false henough
        have hrefused : w.handle env m guid (.takeItem mailbox mailId itemId) =
            (w, .error mailId .itemTaken .notEnoughMoney) := by
          simp [handle, handleMailTakeItem, hp, hat, hmail, hfew]
        exact keepsMoney_of_refused hrefused rfl
      have hpays : player.hasEnoughMoney mail.cod = true := decide_eq_true henough
      cases hitem : player.mItems.find? itemId with
      | none =>
        have hrefused : w.handle env m guid (.takeItem mailbox mailId itemId) =
            (w, .equip mailId .itemTaken equipErrItemNotFound) := by
          simp [handle, handleMailTakeItem, hp, hat, hmail, hpays, hitem]
        exact keepsMoney_of_refused hrefused rfl
      | some item =>
        cases hstore : env.storeItem player.inventory item with
        | error code =>
          have hrefused : w.handle env m guid (.takeItem mailbox mailId itemId) =
              (w, .equip mailId .itemTaken code) := by
            simp [handle, handleMailTakeItem, hp, hat, hmail, hpays, hitem, hstore]
          exact keepsMoney_of_refused hrefused rfl
        | ok inventory =>
          have haccepted :
              (w.handle env m guid (.takeItem mailbox mailId itemId)).2.accepted = true := by
            simp [handle, handleMailTakeItem, hp, hat, hmail, hpays, hitem, hstore, Answer.accepted]
          refine keepsMoney_of_granted haccepted ?_
          have htotal := total_handleMailTakeItem hp hcap hat hmail (hends mail hmail) henough hitem
            hstore
          simp only [InRange, hmail, Option.some.injEq, forall_eq']
          exact total_eq_iff_of_bot htotal

theorem keepsMoney_takeMoney
    (hp : w.characters.find? guid = some player) (hcap : player.money ≤ maxMoneyAmount) :
    KeepsMoney env m w guid (.takeMoney mailbox mailId) ↔
      ((w.handle env m guid (.takeMoney mailbox mailId)).2.accepted = true →
        InRange env m w guid player (.takeMoney mailbox mailId)) := by
  cases hat : m.canInteractWith guid mailbox with
  | false =>
    have hrefused : w.handle env m guid (.takeMoney mailbox mailId) = (w, .silent) := by
      simp [handle, handleMailTakeMoney, hp, hat]
    exact keepsMoney_of_refused hrefused rfl
  | true =>
    cases hmail : w.openMail m guid mailId with
    | none =>
      have hrefused : w.handle env m guid (.takeMoney mailbox mailId) =
          (w, .error mailId .moneyTaken .internalError) := by
        simp [handle, handleMailTakeMoney, hp, hat, hmail]
      exact keepsMoney_of_refused hrefused rfl
    | some mail =>
      have haccepted : (w.handle env m guid (.takeMoney mailbox mailId)).2.accepted = true := by
        simp [handle, handleMailTakeMoney, hp, hat, hmail, Answer.accepted, Answer.ok]
      refine keepsMoney_of_granted haccepted ?_
      have htotal := total_handleMailTakeMoney hp hat hmail
      simp only [InRange, hmail, Option.some.injEq, forall_eq']
      rw [← player.toPlayer.modifyMoney_eq_add_iff hcap]
      change (w.handleMailTakeMoney m guid mailbox mailId).1.total + 0 = w.total ↔ _
      omega

/-- **When money is kept.** A request by a character that is no game master, about mail between
characters that exist, keeps the money exactly if its amounts are in range, or it is refused. -/
theorem keepsMoney_iff {op : MailOp} (hp : w.characters.find? guid = some player)
    (hgm : player.isGameMaster = false) (hcap : player.money ≤ maxMoneyAmount)
    (hends : EndsExist m w guid op) :
    KeepsMoney env m w guid op ↔
      ((w.handle env m guid op).2.accepted = true → InRange env m w guid player op) := by
  cases op with
  | sendMail pkt => exact keepsMoney_sendMail hp hgm hcap
  | returnToSender mailbox mailId => exact keepsMoney_returnToSender hp hends
  | takeItem mailbox mailId itemId => exact keepsMoney_takeItem hp hcap hends
  | takeMoney mailbox mailId => exact keepsMoney_takeMoney hp hcap

/-! ## Two characters -/

/-- An account's only character, at a mailbox. -/
def newcomer (guid : Guid) (money : BitVec 32) : Character where
  guid := guid
  money := money
  account := guid + 1
  level := 1
  team := 0
  isGameMaster := false
  isPlayerAccount := true
  inventory := .empty
  mItems := OrderedMap.empty
  unReadMails := 0
  nextMailDelivereTime := 0
  account_pos := Nat.succ_pos guid

/-- Two characters, the first one with some money. -/
def pair (money : BitVec 32) : World where
  characters := (OrderedMap.empty.set 1 (newcomer 1 money)).set 2 (newcomer 2 0)
  mails := []
  nextMailId := 1

/-- Nothing is special about any item; what is not carried yet gets a slot of its own. -/
def plainEnv : Env where
  mailLevelReq := 1
  allowTwoSideInteractionMail := false
  mailDeliveryDelay := 3600
  normalizePlayerName := some
  getPlayerGUIDByName := fun name => if name = "Second" then 2 else 0
  proto := fun _ => ⟨1, false⟩
  bindsToAccount := fun _ => false
  canBeTraded := fun _ => true
  isWrapped := fun _ => false
  isNotEmptyBag := fun _ => false
  storeItem := fun inventory item =>
    if h : inventory.items.find? item.guid = none ∧ item.count < 2 ^ 32 then
      .ok (inventory.addItem item h.2)
    else .error equipErrInventoryFull
  ahBotGuid := 9

def atMailbox : Moment where
  online := fun _ => true
  mailsLoaded := fun _ => true
  canInteractWith := fun _ _ => true
  gmLogTrade := false
  now := 0

/-- A mail to the second character, without items. -/
def mailOf (money : BitVec 32) : SendMail := ⟨7, "Second", "", "", [], money, 0⟩

/-- Seventy copper are sent for thirty. -/
theorem keepsMoney_pair : KeepsMoney plainEnv atMailbox (pair 100) 1 (.sendMail (mailOf 70)) := by
  have hp : (pair 100).characters.find? 1 = some (newcomer 1 100) := rfl
  have hends : EndsExist atMailbox (pair 100) 1 (.sendMail (mailOf 70)) := trivial
  exact (keepsMoney_iff hp rfl (by decide) hends).mpr fun _ => ⟨by decide, by decide⟩

/-- A character whose purse is full, with one copper in a mail from the second one. -/
def fullPurse : World :=
  { pair maxMoneyAmount with
    mails := [⟨1, .normal, 0, 2, 1, "", "", [], 0, 1, 0, MailCheckMask.copied.bits, .unchanged⟩]
    nextMailId := 2 }

/-- **Money out of nothing, and into it.** Someone without any sends nearly `2 ^ 32` copper, which
together with the fee is zero; and what a full purse has no room for is gone. -/
theorem money_out_of_nothing :
    ((pair 0).characters.find? 1 = some (newcomer 1 0) ∧ (newcomer 1 0).isGameMaster = false ∧
      (newcomer 1 0).money ≤ maxMoneyAmount ∧
      ¬ KeepsMoney plainEnv atMailbox (pair 0) 1 (.sendMail (mailOf (-30)))) ∧
    (fullPurse.characters.find? 1 = some (newcomer 1 maxMoneyAmount) ∧
      (newcomer 1 maxMoneyAmount).money ≤ maxMoneyAmount ∧
      ¬ KeepsMoney plainEnv atMailbox fullPurse 1 (.takeMoney 7 1)) := by
  refine ⟨⟨rfl, rfl, by decide, fun hkeeps => ?_⟩, rfl, by decide, fun hkeeps => ?_⟩
  · have haccepted : ((pair 0).handle plainEnv atMailbox 1
        (.sendMail (mailOf (-30)))).2.accepted = true := by decide +kernel
    have hmade : ((pair 0).handle plainEnv atMailbox 1 (.sendMail (mailOf (-30)))).1.total +
        (MailOp.sendMail (mailOf (-30))).fee ≠ (pair 0).total := by decide +kernel
    exact hmade (hkeeps.1 haccepted)
  · have haccepted : (fullPurse.handle plainEnv atMailbox 1 (.takeMoney 7 1)).2.accepted =
        true := by decide +kernel
    have hlost : (fullPurse.handle plainEnv atMailbox 1 (.takeMoney 7 1)).1.total +
        (MailOp.takeMoney 7 1).fee ≠ fullPurse.total := by decide +kernel
    exact hlost (hkeeps.1 haccepted)

end World

end TeraCore.Mails
