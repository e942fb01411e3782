import TeraCore.Mails.Mail

/-!
# The mail handlers

What a client asks for at a mailbox: to send a mail, to mark one as read, to delete or return one,
and to take the money or an item out of one.

Each handler answers with what it tells the client, and the world afterwards.  The checks before
a mail is sent are a function of their own, `World.checkSendMail`.

## Main definitions

* `Answer`: what the client is told
* `World.handleSendMail`, `World.handleMailMarkAsRead`, `World.handleMailDelete`,
  `World.handleMailReturnToSender`, `World.handleMailTakeItem`, `World.handleMailTakeMoney`
* `MailOp`, `World.handle`: the requests that move money, and the handler of each
* `MailboxOp`, `World.handleMailbox`: the requests about mails that have arrived
-/

namespace TeraCore.Mails

open Commons

/-! ## Answers -/

inductive MailResponseType where
  | send
  | moneyTaken
  | itemTaken
  | returnedToSender
  | deleted
  deriving DecidableEq

inductive MailResponseResult where
  | ok
  | equipError
  | cannotSendToSelf
  | notEnoughMoney
  | recipientNotFound
  | notYourTeam
  | internalError
  | recipientCapReached
  | cantSendWrappedCod
  | tooManyAttachments
  | mailAttachmentInvalid
  deriving DecidableEq

inductive LangText where
  | mailSenderReq
  | mailReceiverReq
  deriving DecidableEq

def equipErrCanOnlyDoWithEmptyBags : ℕ := 31
def equipErrItemNotFound : ℕ := 23
def equipErrInventoryFull : ℕ := 50
def equipErrMailBoundItem : ℕ := 72
def equipErrArtefactsOnlyForOwnCharacters : ℕ := 82

/-- What the client is told: nothing, a notification with a level, or the result of what it asked
for. -/
inductive Answer where
  | silent
  | notification (text : LangText) (level : ℕ)
  | result (mailId : ℕ) (action : MailResponseType) (error : MailResponseResult)
      (equipError itemGuid itemCount : ℕ)
  deriving DecidableEq

namespace Answer

variable (mailId : ℕ) (action : MailResponseType)

def ok : Answer := result mailId action .ok 0 0 0

def error (e : MailResponseResult) : Answer :=
  result mailId action e 0 0 0

def equip (code : ℕ) : Answer :=
  result mailId action .equipError code 0 0

/-- Was the request granted? -/
def accepted : Answer → Bool
  | result _ _ .ok _ _ _ => true
  | _ => false

end Answer

/-! ## Sending -/

def maxMailItems : ℕ := 12

/-- What the client sends with a mail. -/
structure SendMail where
  mailbox : Guid
  receiver : String
  subject : String
  body : String
  itemGUIDs : List ℕ
  money : BitVec 32
  cod : BitVec 32

/-- The price of a mail. -/
def SendMail.cost (pkt : SendMail) : BitVec 32 :=
  if pkt.itemGUIDs.length ≠ 0 then 30 * BitVec.ofNat 32 pkt.itemGUIDs.length else 30

/-- The money a mail takes: an unsigned 32-bit sum. -/
def SendMail.reqmoney (pkt : SendMail) : BitVec 32 := pkt.cost + pkt.money

namespace World

/-- The character with the name in the packet. -/
def receiverOf (env : Env) (pkt : SendMail) : Guid :=
  match env.normalizePlayerName pkt.receiver with
  | none => 0
  | some name => env.getPlayerGUIDByName name

/-- Are all items that go along bound to the account? -/
def accountBound (env : Env) (player : Character) (pkt : SendMail) : Bool :=
  pkt.itemGUIDs.length ≠ 0 &&
    pkt.itemGUIDs.all fun guid =>
      match player.inventory.getItemByGuid guid with
      | none => true
      | some item => env.bindsToAccount item.entry

variable (w : World)

/-- How many mails the receiver has, as an unsigned 8-bit number. -/
def mailsCount (m : Moment) (rc : Guid) : ℕ :=
  if (w.findPlayer m rc).isSome then w.getMailSize m rc % 2 ^ 8
  else w.mails.countP (fun mail => mail.receiver == rc) % 2 ^ 8

variable (env : Env)

/-- May the item go along? -/
def checkItem (player : Character) (rcAccount : ℕ) (pkt : SendMail) (guid : ℕ) :
    Except Answer Item :=
  if guid = 0 then .error (.error 0 .send .mailAttachmentInvalid)
  else
    match player.inventory.getItemByGuid guid with
    | none => .error (.error 0 .send .mailAttachmentInvalid)
    | some item =>
      if !env.canBeTraded item then .error (.equip 0 .send equipErrMailBoundItem)
      else if env.bindsToAccount item.entry && item.soulBound && player.account ≠ rcAccount then
        .error (.equip 0 .send equipErrArtefactsOnlyForOwnCharacters)
      else if (env.proto item.entry).conjured || item.duration ≠ 0 then
        .error (.equip 0 .send equipErrMailBoundItem)
      else if pkt.cod ≠ 0 && env.isWrapped item then .error (.error 0 .send .cantSendWrappedCod)
      else if env.isNotEmptyBag item then .error (.equip 0 .send equipErrCanOnlyDoWithEmptyBags)
      else .ok item

variable (m : Moment) (guid : Guid)

/-- **What is checked before a mail is sent.** If nothing is wrong with it, the items that go
along. -/
def checkSendMail (player : Character) (pkt : SendMail) : Except Answer (List Item) :=
  let rc := receiverOf env pkt
  if pkt.itemGUIDs.length > maxMailItems then .error (.error 0 .send .tooManyAttachments)
  else if !m.canInteractWith guid pkt.mailbox then .error .silent
  else if pkt.receiver = "" then .error .silent
  else if player.level < env.mailLevelReq then
    .error (.notification .mailSenderReq env.mailLevelReq)
  else if rc = 0 then .error (.error 0 .send .recipientNotFound)
  else if guid = rc then .error (.error 0 .send .cannotSendToSelf)
  else if !player.hasEnoughMoney pkt.reqmoney && !player.isGameMaster then
    .error (.error 0 .send .notEnoughMoney)
  else if w.mailsCount m rc > 100 then .error (.error 0 .send .recipientCapReached)
  else if !accountBound env player pkt && !env.allowTwoSideInteractionMail &&
      player.team ≠ ((w.characters.find? rc).map Character.team).getD 0 &&
      player.isPlayerAccount then
    .error (.error 0 .send .notYourTeam)
  else if ((w.characters.find? rc).map Character.level).getD 0 < env.mailLevelReq then
    .error (.notification .mailReceiverReq env.mailLevelReq)
  else pkt.itemGUIDs.mapM (checkItem env player (w.getPlayerAccountIdByGUID rc) pkt)

/-- The items leave the sender's inventory. -/
def moveItemsFromInventory (guid : Guid) (items : List Item) : World :=
  w.update guid fun c =>
    { c with inventory :=
        items.foldl (fun inv item => inv.moveItemFromInventory item.guid) c.inventory }

def handleSendMail (pkt : SendMail) : World × Answer :=
  match w.characters.find? guid with
  | none => (w, .silent)
  | some player =>
    match w.checkSendMail env m guid player pkt with
    | .error answer => (w, answer)
    | .ok items =>
      let rc := receiverOf env pkt
      let draft := items.foldl MailDraft.addItem (MailDraft.ofText pkt.subject pkt.body)
      let needItemDelay := !items.isEmpty && player.account ≠ w.getPlayerAccountIdByGUID rc
      let deliverDelay := if needItemDelay then env.mailDeliveryDelay else 0
      let checked := if pkt.body = "" then MailCheckMask.copied else .hasBody
      let w := w.modifyMoney guid (-pkt.reqmoney)
      let w := w.moveItemsFromInventory guid items
      (w.sendMailTo env m ((draft.addMoney pkt.money).addCOD pkt.cod) rc .normal guid checked
        deliverDelay, .ok 0 .send)

/-! ## Mails that have arrived -/

/-- A mail that is there, not deleted, and has arrived. -/
def openMail (mailId : ℕ) : Option Mail :=
  (w.getMail m guid mailId).filter fun mail =>
    !(mail.state == .deleted) && !decide (m.now < mail.deliverTime)

/-- **`HandleMailMarkAsRead`.** A mail that is there is marked, whatever its state, and one unread
mail less is counted. -/
def handleMailMarkAsRead (m : Moment) (guid mailbox : Guid) (mailId : ℕ) : World × Answer :=
  if !m.canInteractWith guid mailbox then (w, .silent)
  else
    match w.getMail m guid mailId with
    | none => (w, .silent)
    | some _ =>
      ((w.update guid Character.countRead).modifyMail guid mailId Mail.markedAsRead, .silent)

/-- **`HandleMailDelete`.** A mail with a charge cannot be deleted. -/
def handleMailDelete (m : Moment) (guid mailbox : Guid) (mailId : ℕ) : World × Answer :=
  if !m.canInteractWith guid mailbox then (w, .silent)
  else
    match w.getMail m guid mailId with
    | none => (w, .ok mailId .deleted)
    | some mail =>
      if mail.cod ≠ 0 then (w, .error mailId .deleted .internalError)
      else (w.modifyMail guid mailId Mail.markedDeleted, .ok mailId .deleted)

/-- **`HandleMailReturnToSender`.** The mail is gone from the mailbox; a player's mail is sent
back, with its money and its items, and without its charge. -/
def handleMailReturnToSender (m : Moment) (guid mailbox : Guid) (mailId : ℕ) : World × Answer :=
  match w.characters.find? guid with
  | none => (w, .silent)
  | some player =>
    if !m.canInteractWith guid mailbox then (w, .silent)
    else
      match w.openMail m guid mailId with
      | none => (w, .error mailId .returnedToSender .internalError)
      | some mail =>
        let w := w.removeMail guid mailId
        if mail.messageType = .normal ∧ mail.sender ≠ 0 then
          let draft :=
            if mail.mailTemplateId ≠ 0 then MailDraft.ofTemplate mail.mailTemplateId
            else .ofText mail.subject mail.body
          let draft := (mail.items.filterMap player.mItems.find?).foldl MailDraft.addItem draft
          let w := w.removeMItems guid mail.items
          (w.sendReturnToSender env m (draft.addMoney mail.money) player.account mail.receiver
            mail.sender, .ok mailId .returnedToSender)
        else (w, .ok mailId .returnedToSender)

/-- The charge of a mail is paid: sent to the mail's sender, if that one exists, and taken from
the player in any case. -/
def payCOD (player : Character) (mail : Mail) : World :=
  let receive := w.findPlayer m mail.sender
  let senderAccId :=
    if !player.isPlayerAccount && m.gmLogTrade then
      match receive with
      | some c => c.account
      | none => w.getPlayerAccountIdByGUID mail.sender
    else if receive.isNone then w.getPlayerAccountIdByGUID mail.sender
    else 0
  let sent :=
    if receive.isSome || senderAccId ≠ 0 then
      w.sendMailTo env m ((MailDraft.ofText mail.subject "").addMoney mail.cod) mail.sender .normal
        mail.receiver .codPayment 0
    else w
  sent.modifyMoney guid (-mail.cod)

/-- **`HandleMailTakeItem`.** The item is looked for in all of the player's mails. -/
def handleMailTakeItem (m : Moment) (guid mailbox : Guid) (mailId itemId : ℕ) : World × Answer :=
  match w.characters.find? guid with
  | none => (w, .silent)
  | some player =>
    if !m.canInteractWith guid mailbox then (w, .silent)
    else
      match w.openMail m guid mailId with
      | none => (w, .error mailId .itemTaken .internalError)
      | some mail =>
        if !player.hasEnoughMoney mail.cod then (w, .error mailId .itemTaken .notEnoughMoney)
        else
          match player.mItems.find? itemId with
          | none => (w, .equip mailId .itemTaken equipErrItemNotFound)
          | some item =>
            match env.storeItem player.inventory item with
            | .error code => (w, .equip mailId .itemTaken code)
            | .ok inventory =>
              -- the mail is an object of its own: what is done to it does not touch the new one
              let w := w.modifyMail guid mailId fun mail => mail.itemTaken itemId
              let w := if mail.cod ≠ 0 then w.payCOD env m guid player mail else w
              let w := w.removeMItems guid [item.guid]
              let w := w.setInventory guid inventory
              (w.saveMail guid, .result mailId .itemTaken .ok 0 itemId item.count)

/-- **`HandleMailTakeMoney`.** The amount is read as a signed difference, and the mail's money is
gone whatever the purse has room for. -/
def handleMailTakeMoney (m : Moment) (guid mailbox : Guid) (mailId : ℕ) : World × Answer :=
  match w.characters.find? guid with
  | none => (w, .silent)
  | some _ =>
    if !m.canInteractWith guid mailbox then (w, .silent)
    else
      match w.openMail m guid mailId with
      | none => (w, .error mailId .moneyTaken .internalError)
      | some mail =>
        let w := w.modifyMoney guid mail.money
        let w := w.modifyMail guid mailId Mail.moneyTaken
        (w.saveMail guid, .ok mailId .moneyTaken)

/-! ## Requests -/

/-- **What a client asks for**, of what moves money. -/
inductive MailOp where
  | sendMail (pkt : SendMail)
  | returnToSender (mailbox : Guid) (mailId : ℕ)
  | takeItem (mailbox : Guid) (mailId itemId : ℕ)
  | takeMoney (mailbox : Guid) (mailId : ℕ)

/-- The handler of each request. -/
def handle : MailOp → World × Answer
  | .sendMail pkt => w.handleSendMail env m guid pkt
  | .returnToSender mailbox mailId => w.handleMailReturnToSender env m guid mailbox mailId
  | .takeItem mailbox mailId itemId => w.handleMailTakeItem env m guid mailbox mailId itemId
  | .takeMoney mailbox mailId => w.handleMailTakeMoney m guid mailbox mailId

/-- **What a client asks for** at its mailbox, of mails that have arrived. -/
inductive MailboxOp where
  | markAsRead (mailbox : Guid) (mailId : ℕ)
  | delete (mailbox : Guid) (mailId : ℕ)
  | returnToSender (mailbox : Guid) (mailId : ℕ)
  | takeItem (mailbox : Guid) (mailId itemId : ℕ)

def handleMailbox : MailboxOp → World × Answer
  | .markAsRead mailbox mailId => w.handleMailMarkAsRead m guid mailbox mailId
  | .delete mailbox mailId => w.handleMailDelete m guid mailbox mailId
  | .returnToSender mailbox mailId => w.handleMailReturnToSender env m guid mailbox mailId
  | .takeItem mailbox mailId itemId => w.handleMailTakeItem env m guid mailbox mailId itemId

/-- A client asks for something at its mailbox, at some moment. -/
structure Request where
  moment : Moment
  guid : Guid
  op : MailboxOp

/-- The world after a request. -/
def answer (w : World) (r : Request) : World :=
  (w.handleMailbox env r.moment r.guid r.op).1

end World

end TeraCore.Mails
