import TeraCore.Commons.First
import TeraCore.Entities.Inventory
import TeraCore.Entities.Player

/-!
# Mail between players

A character's mails lie in its mailbox, the newest first.  A mail carries money, and a charge
(`COD`) that is paid when an item is taken out of it; the items of all of a character's mails
are held together, by their numbers.  A mail that was deleted stays in the mailbox, in the state
`deleted`, until the mailbox is saved.

Mail to the auction house bot's own character is not delivered.

## Main definitions

* `Mail`, `MailDraft`: a mail, and what is put into one before it is sent
* `World`: the characters and the mails; `Env`: tables and configuration; `Moment`: what differs
  from one request to the next
* `World.sendMailTo`, `World.sendReturnToSender`: a draft becomes a mail
* `World.saveMail`: the mailbox is written, and the deleted mails leave it
-/

namespace TeraCore.Mails

open Commons

inductive MailMessageType where
  | normal
  | auction
  | creature
  | gameobject
  | calendar
  deriving DecidableEq

inductive MailState where
  | unchanged
  | changed
  | deleted
  deriving DecidableEq

/-- What a mail's receiver has done with it, or where it comes from. -/
inductive MailCheckMask where
  | read
  | returned
  | copied
  | codPayment
  | hasBody
  deriving DecidableEq

/-- The bit of a flag. -/
def MailCheckMask.bits : MailCheckMask → BitVec 32
  | read => 0x01
  | returned => 0x02
  | copied => 0x04
  | codPayment => 0x08
  | hasBody => 0x10

/-- **A mail.** `items` are the numbers of the items in it. -/
structure Mail where
  messageID : ℕ
  messageType : MailMessageType
  mailTemplateId : ℕ
  sender : Guid
  receiver : Guid
  subject : String
  body : String
  items : List ℕ
  deliverTime : ℕ
  money : BitVec 32
  cod : BitVec 32
  checked : BitVec 32
  state : MailState
  deriving DecidableEq

variable (mail : Mail)

/-- Has the mail been read? -/
def Mail.isRead : Bool := mail.checked &&& MailCheckMask.read.bits != 0

def Mail.removeItem (itemGuid : ℕ) : Mail :=
  { mail with items := mail.items.erase itemGuid }

/-- What is left of a mail after an item was taken: it charges nothing more. -/
def Mail.itemTaken (itemGuid : ℕ) : Mail :=
  { mail.removeItem itemGuid with cod := 0, state := .changed }

/-- What is left of a mail after the money was taken. -/
def Mail.moneyTaken : Mail := { mail with money := 0, state := .changed }

/-- A mail that was marked as read, whatever its state was. -/
def Mail.markedAsRead : Mail :=
  { mail with checked := mail.checked ||| MailCheckMask.read.bits, state := .changed }

theorem Mail.isRead_markedAsRead : mail.markedAsRead.isRead = true := by
  simp only [isRead, markedAsRead, bne_iff_ne, ne_eq]
  intro hzero
  have hbit := congrArg (fun x => BitVec.getLsbD x 0) hzero
  simp [MailCheckMask.bits] at hbit

def Mail.markedDeleted : Mail := { mail with state := .deleted }

/-- **What is put into a mail.** The items are kept by their numbers, so that none is in it
twice. -/
structure MailDraft where
  mailTemplateId : ℕ
  subject : String
  body : String
  items : OrderedMap ℕ Item
  money : BitVec 32
  cod : BitVec 32

namespace MailDraft

def ofText (subject body : String) : MailDraft := ⟨0, subject, body, OrderedMap.empty, 0, 0⟩

/-- A draft whose text is a template's. -/
def ofTemplate (mailTemplateId : ℕ) : MailDraft := ⟨mailTemplateId, "", "", OrderedMap.empty, 0, 0⟩

variable (draft : MailDraft)

def addItem (item : Item) : MailDraft :=
  { draft with items := draft.items.set item.guid item }

def addMoney (money : BitVec 32) : MailDraft := { draft with money := money }

def addCOD (cod : BitVec 32) : MailDraft := { draft with cod := cod }

@[simp] theorem addMoney_money (money : BitVec 32) : (draft.addMoney money).money = money := rfl

@[simp] theorem addCOD_money (cod : BitVec 32) : (draft.addCOD cod).money = draft.money := rfl

end MailDraft

/-- The mail that a draft becomes. -/
def MailDraft.mailTo (draft : MailDraft) (mailId : ℕ) (messageType : MailMessageType)
    (sender receiver : Guid) (deliverTime : ℕ) (checked : MailCheckMask) : Mail where
  messageID := mailId
  messageType := messageType
  mailTemplateId := draft.mailTemplateId
  sender := sender
  receiver := receiver
  subject := draft.subject
  body := draft.body
  items := draft.items.keys
  deliverTime := deliverTime
  money := draft.money
  cod := draft.cod
  checked := checked.bits
  state := .unchanged

/-! ## The world around the mailboxes -/

/-- **A character**: the purse, what a mail's checks read, what it carries, and the items in its
mails. Every character has an account. -/
structure Character extends Player where
  account : ℕ
  level : ℕ
  team : ℕ
  isGameMaster : Bool
  /-- An account without any of the rights of a game master. -/
  isPlayerAccount : Bool
  inventory : Inventory
  mItems : OrderedMap ℕ Item
  unReadMails : BitVec 8
  /-- When the next mail arrives, zero for never. -/
  nextMailDelivereTime : ℕ
  account_pos : 0 < account

/-- `AddNewMailDeliverTime`: a mail that is there already is counted at once. -/
def Character.addNewMailDeliverTime (c : Character) (now deliverTime : ℕ) : Character :=
  if deliverTime ≤ now then { c with unReadMails := c.unReadMails + 1 }
  else if c.nextMailDelivereTime = 0 ∨ deliverTime < c.nextMailDelivereTime then
    { c with nextMailDelivereTime := deliverTime }
  else c

/-- One unread mail less is counted, if there is one. -/
def Character.countRead (c : Character) : Character :=
  if c.unReadMails ≠ 0 then { c with unReadMails := c.unReadMails - 1 } else c

/-- Has the time come when the next mail arrives? -/
def Character.mailIsDue (c : Character) (now : ℕ) : Bool :=
  c.nextMailDelivereTime ≠ 0 && c.nextMailDelivereTime ≤ now

/-- The look at new mail in a player's `Update`: one mail is counted when the time has come,
however many there are. -/
def Character.updateMails (c : Character) (now : ℕ) : Character :=
  if c.mailIsDue now then { c with unReadMails := c.unReadMails + 1, nextMailDelivereTime := 0 }
  else c

/-- The characters, and everyone's mails. -/
structure World where
  characters : OrderedMap Guid Character
  mails : List Mail
  nextMailId : ℕ

/-- Tables and configuration. The tests of items that read all of an item or of a player are
functions here, and so is the storing of an item. -/
structure Env where
  mailLevelReq : ℕ
  allowTwoSideInteractionMail : Bool
  mailDeliveryDelay : ℕ
  normalizePlayerName : String → Option String
  /-- The character with a name, zero for none. -/
  getPlayerGUIDByName : String → Guid
  proto : ℕ → ItemTemplate
  bindsToAccount : ℕ → Bool
  canBeTraded : Item → Bool
  isWrapped : Item → Bool
  isNotEmptyBag : Item → Bool
  /-- `CanStoreItem` and `MoveItemToInventory`: an equip error, or the inventory with the item. -/
  storeItem : Inventory → Item → Except ℕ Inventory
  /-- The auction house bot's own character. -/
  ahBotGuid : Guid

/-- What differs from one request to the next. -/
structure Moment where
  online : Guid → Bool
  /-- Has the character opened a mailbox since it came online? -/
  mailsLoaded : Guid → Bool
  /-- Does the character stand at the mailbox? -/
  canInteractWith : Guid → Guid → Bool
  gmLogTrade : Bool
  now : ℕ

namespace World

/-! ## Characters -/

variable (w : World)

/-- `FindPlayer`: a character that is online. -/
def findPlayer (m : Moment) (guid : Guid) : Option Character :=
  if m.online guid then w.characters.find? guid else none

variable (guid : Guid)

/-- `GetPlayerAccountIdByGUID`: a character's account, zero for none. -/
def getPlayerAccountIdByGUID : ℕ :=
  ((w.characters.find? guid).map Character.account).getD 0

/-- One character, changed. -/
def update (f : Character → Character) : World :=
  match w.characters.find? guid with
  | none => w
  | some c => { w with characters := w.characters.set guid (f c) }

def modifyMoney (d : BitVec 32) : World :=
  w.update guid fun c => { c with toPlayer := c.toPlayer.modifyMoney d }

def setInventory (inventory : Inventory) : World :=
  w.update guid fun c => { c with inventory := inventory }

/-- A mail is announced to its receiver. -/
def addNewMailDeliverTime (now : ℕ) (guid : Guid) (deliverTime : ℕ) : World :=
  w.update guid fun c => c.addNewMailDeliverTime now deliverTime

/-- `AddMItem`, for each item of a mail. -/
def addMItems (items : List Item) : World :=
  w.update guid fun c =>
    { c with mItems := items.foldl (fun l item => l.set item.guid item) c.mItems }

/-- `RemoveMItem`, for each of some numbers. -/
def removeMItems (items : List ℕ) : World :=
  w.update guid fun c => { c with mItems := items.foldl OrderedMap.erase c.mItems }

/-! ## Mailboxes -/

variable (player : Guid) (id : ℕ)

/-- Is it the character's mail with the number? -/
def isMail (mail : Mail) : Bool :=
  mail.receiver == player && mail.messageID == id

/-- **`GetMail`**: a mail of a mailbox that has been opened. -/
def getMail (m : Moment) (player : Guid) (id : ℕ) : Option Mail :=
  if m.mailsLoaded player then w.mails.find? (isMail player id) else none

/-- `GetMailSize`, of a character that is online. -/
def getMailSize (m : Moment) (player : Guid) : ℕ :=
  if m.mailsLoaded player then w.mails.countP (fun mail => mail.receiver == player) else 0

def modifyMail (f : Mail → Mail) : World :=
  { w with mails := modifyFirst (isMail player id) f w.mails }

def removeMail : World :=
  { w with mails := w.mails.eraseP (isMail player id) }

/-- **`_SaveMail`**: deleted mails leave the mailbox, and nothing is left to be saved. -/
def saveMail (player : Guid) : World :=
  { w with
    mails := (w.mails.filter fun mail => !(mail.receiver == player && mail.state == .deleted)).map
      fun mail =>
        if mail.receiver == player && mail.state == .changed then { mail with state := .unchanged }
        else mail }

/-! ## Sending -/

/-- **`SendMailTo`.** The bot's mail is thrown away, a number is used up for it all the same. -/
def sendMailTo (env : Env) (m : Moment) (draft : MailDraft) (receiver : Guid)
    (messageType : MailMessageType) (sender : Guid) (checked : MailCheckMask) (deliverDelay : ℕ) :
    World :=
  let mailId := w.nextMailId
  let w := { w with nextMailId := w.nextMailId + 1 }
  if receiver = env.ahBotGuid then w
  else
    let mail := draft.mailTo mailId messageType sender receiver (m.now + deliverDelay) checked
    let w := { w with mails := mail :: w.mails }
    let w :=
      if m.online receiver then w.addNewMailDeliverTime m.now receiver mail.deliverTime else w
    w.addMItems receiver draft.items.values

/-- **`SendReturnToSender`**, to the character who sent the mail, if there is one. -/
def sendReturnToSender (env : Env) (m : Moment) (draft : MailDraft) (senderAcc : ℕ)
    (sender receiver : Guid) : World :=
  let online := (w.findPlayer m receiver).isSome
  -- the account is only looked up for a character that is not online
  let rcAccount := if online then 0 else w.getPlayerAccountIdByGUID receiver
  if !online && rcAccount = 0 then w
  else
    let needItemDelay := draft.items.size ≠ 0 && senderAcc ≠ rcAccount
    let deliverDelay := if needItemDelay then env.mailDeliveryDelay else 0
    w.sendMailTo env m draft receiver .normal sender .returned deliverDelay

end World

end TeraCore.Mails
