import Mathlib.Algebra.Order.BigOperators.Group.List
import Mathlib.Algebra.Order.Group.Nat
import Mathlib.Data.List.Induction
import TeraCore.Mails.Mailbox

/-!
# Attachments: where the items are

An item in a mail is listed by its number there, and held with the items of all of the receiver's
mails.  `World.attached` counts how many times a number is listed, in all the mails that were not
deleted.

Every change of the world is a sequence of small ones: a mail is changed or removed, one is sent,
items are taken from those that are held, the mailbox is saved.  What each does to the count, and
to the items that are held, is a lemma of its own.

## Main results

* `World.attached_takeItem`, `World.attached_returnMail`: an item leaves the mails, or stays in them
* `World.Held.takeItem`, `World.Held.returnMail`: what is listed is still held
-/

namespace TeraCore.Mails

open Commons OrderedMap

/-- How many times a mail lists an item; not at all, once it was deleted. -/
def Mail.listed (i : ℕ) (mail : Mail) : ℕ := if mail.state = .deleted then 0 else mail.items.count i

theorem Mail.listed_of_ne {mail : Mail} (h : mail.state ≠ .deleted) (i : ℕ) :
    mail.listed i = mail.items.count i := if_neg h

namespace World

/-- **How many times an item is listed**, in all the mails that were not deleted. -/
def attached (w : World) (i : ℕ) : ℕ := (w.mails.map (Mail.listed i)).sum

/-- The item that is held for a receiver under a number. -/
def mItem? (w : World) (g : Guid) (i : ℕ) : Option Item :=
  (w.characters.find? g).bind fun c => c.mItems.find? i

/-- An item is held under its own number. -/
def Holds (w : World) (g : Guid) (i : ℕ) : Prop := ∃ item, w.mItem? g i = some item ∧ item.guid = i

/-- **What is listed is held**: the items in a mail that was not deleted are held for its
receiver. -/
def Held (w : World) : Prop :=
  ∀ mail ∈ w.mails, mail.state ≠ .deleted → ∀ i ∈ mail.items, w.Holds mail.receiver i

variable {w : World} {env : Env} {m : Moment} {guid g : Guid} {mailId itemId i : ℕ}
  {player : Character} {mail : Mail} {item : Item} {inventory : Inventory}

/-! ## The count -/

theorem attached_of_mails {w' : World} (h : w'.mails = w.mails) (i : ℕ) :
    w'.attached i = w.attached i := by
  rw [attached, attached, h]

@[simp] theorem attached_update (f : Character → Character) (i : ℕ) :
    (w.update guid f).attached i = w.attached i :=
  attached_of_mails (mails_update f) i

theorem attached_modifyMail (h : w.mails.find? (isMail guid mailId) = some mail) (f : Mail → Mail)
    (i : ℕ) :
    (w.modifyMail guid mailId f).attached i + mail.listed i = w.attached i + (f mail).listed i :=
  sum_map_modifyFirst (Mail.listed i) h

theorem attached_removeMail (h : w.mails.find? (isMail guid mailId) = some mail) (i : ℕ) :
    (w.removeMail guid mailId).attached i + mail.listed i = w.attached i :=
  sum_map_eraseP (Mail.listed i) h

theorem listed_le_attached (h : mail ∈ w.mails) (i : ℕ) : mail.listed i ≤ w.attached i :=
  List.single_le_sum (by simp) _ (List.mem_map_of_mem h)

@[simp] theorem attached_saveMail (i : ℕ) : (w.saveMail guid).attached i = w.attached i := by
  simp only [attached, saveMail]
  induction w.mails with
  | nil => rfl
  | cons mail l ih =>
    rw [List.map_cons, List.sum_cons, ← ih, List.filter_cons]
    by_cases hplayer : mail.receiver = guid <;> cases hstate : mail.state <;>
      simp [Mail.listed, hplayer, hstate]

theorem attached_sendMailTo (w : World) (env : Env) (m : Moment) (draft : MailDraft)
    (receiver : Guid) (messageType : MailMessageType) (sender : Guid) (checked : MailCheckMask)
    (delay i : ℕ) :
    (w.sendMailTo env m draft receiver messageType sender checked delay).attached i =
      w.attached i + if receiver = env.ahBotGuid then 0 else draft.items.keys.count i := by
  rw [attached, mails_sendMailTo]
  split_ifs with hbot
  · rfl
  · rw [List.map_cons, List.sum_cons, attached, Nat.add_comm]
    rfl

theorem not_mem_of_attached (h : w.attached i = 0) (hmail : mail ∈ w.mails)
    (hstate : mail.state ≠ .deleted) : i ∉ mail.items := by
  have hle := listed_le_attached hmail i
  rw [Mail.listed_of_ne hstate] at hle
  exact List.count_eq_zero.mp (by omega)

/-! ## The items that are held -/

theorem mItem?_eq_part (g : Guid) (i : ℕ) :
    w.mItem? g i = (w.part Character.mItems g).bind fun l => l.find? i := by
  rw [part, Option.bind_map]
  rfl

theorem mItem?_update {f : Character → Character} (hf : ∀ c, (f c).mItems = c.mItems) (g : Guid)
    (i : ℕ) : (w.update guid f).mItem? g i = w.mItem? g i := by
  rw [mItem?_eq_part, part_update hf, ← mItem?_eq_part]

theorem mItem?_update_self {c : Character} (h : w.characters.find? guid = some c)
    (f : Character → Character) (i : ℕ) :
    (w.update guid f).mItem? guid i = (f c).mItems.find? i := by
  rw [mItem?, characters_update h, find?_set_self, Option.bind_some]

theorem exists_update (f : Character → Character) (g : Guid) :
    (∃ c, (w.update guid f).characters.find? g = some c) ↔
      ∃ c, w.characters.find? g = some c := by
  cases h : w.characters.find? guid with
  | none => rw [update_of_none h]
  | some c =>
    rw [characters_update h, find?_set]
    split_ifs with hg
    · rw [hg]
      exact iff_of_true ⟨f c, rfl⟩ ⟨c, h⟩
    · rfl

theorem mItem?_addNewMailDeliverTime (now deliverTime : ℕ) (g : Guid) (i : ℕ) :
    (w.addNewMailDeliverTime now guid deliverTime).mItem? g i = w.mItem? g i := by
  refine mItem?_update (fun c => ?_) g i
  unfold Character.addNewMailDeliverTime
  split_ifs <;> rfl

theorem find?_foldl_erase (items : List ℕ) (l : OrderedMap ℕ Item) (i : ℕ) :
    (items.foldl OrderedMap.erase l).find? i = if i ∈ items then none else l.find? i := by
  induction items generalizing l with
  | nil => simp
  | cons k items ih =>
    rw [List.foldl_cons, ih, find?_erase]
    by_cases hk : i = k <;> by_cases hi : i ∈ items <;> simp [hk, hi]

theorem mItem?_removeMItems (items : List ℕ) (g : Guid) (i : ℕ) :
    (w.removeMItems guid items).mItem? g i =
      if g = guid ∧ i ∈ items then none else w.mItem? g i := by
  cases h : w.characters.find? guid with
  | none =>
    rw [removeMItems, update_of_none h]
    split_ifs with hg
    · rw [mItem?, hg.1, h]
      rfl
    · rfl
  | some c =>
    by_cases hg : g = guid
    · rw [hg, removeMItems, mItem?_update_self h, find?_foldl_erase, mItem?, h]
      simp
    · rw [removeMItems, mItem?, characters_update h, find?_set_of_ne _ _ hg]
      simp [hg, mItem?]

theorem find?_foldl_set_of_mem {items : List Item} (h : i ∈ items.map Item.guid)
    (l : OrderedMap ℕ Item) :
    ∃ item ∈ items, item.guid = i ∧
      (items.foldl (fun l item => l.set item.guid item) l).find? i = some item := by
  induction items using List.reverseRecOn with
  | nil => cases h
  | append_singleton items item ih =>
    rw [List.foldl_append, List.foldl_cons, List.foldl_nil]
    by_cases hi : i = item.guid
    · exact ⟨item, by simp, hi.symm, by rw [hi, find?_set_self]⟩
    · have hmem : i ∈ items.map Item.guid := by simpa [hi] using h
      obtain ⟨found, hfound, hguid, heq⟩ := ih hmem
      exact ⟨found, List.mem_append_left _ hfound, hguid, by
        rw [find?_set_of_ne _ _ hi, heq]⟩

theorem find?_foldl_set_of_not_mem {items : List Item} (h : i ∉ items.map Item.guid)
    (l : OrderedMap ℕ Item) :
    (items.foldl (fun l item => l.set item.guid item) l).find? i = l.find? i := by
  induction items generalizing l with
  | nil => rfl
  | cons item items ih =>
    rw [List.map_cons, List.mem_cons, not_or] at h
    rw [List.foldl_cons, ih h.2, find?_set_of_ne _ _ h.1]

theorem Holds.addMItems (h : w.Holds g i) (items : List Item) :
    (w.addMItems guid items).Holds g i := by
  cases hc : w.characters.find? guid with
  | none =>
    rw [World.addMItems, update_of_none hc]
    exact h
  | some c =>
    obtain ⟨item, hitem, hguid⟩ := h
    by_cases hg : g = guid
    · rw [hg] at hitem ⊢
      rw [mItem?, hc, Option.bind_some] at hitem
      by_cases hi : i ∈ items.map Item.guid
      · obtain ⟨new, -, hnew, hfind⟩ := find?_foldl_set_of_mem hi c.mItems
        exact ⟨new, by rw [World.addMItems, mItem?_update_self hc]; exact hfind, hnew⟩
      · refine ⟨item, ?_, hguid⟩
        rw [World.addMItems, mItem?_update_self hc]
        exact (find?_foldl_set_of_not_mem hi _).trans hitem
    · refine ⟨item, ?_, hguid⟩
      rw [World.addMItems, mItem?, characters_update hc, find?_set_of_ne _ _ hg]
      exact hitem

theorem holds_addMItems {items : List Item} (h : i ∈ items.map Item.guid)
    (hthere : ∃ c, w.characters.find? guid = some c) : (w.addMItems guid items).Holds guid i := by
  obtain ⟨c, hc⟩ := hthere
  obtain ⟨item, -, hguid, hfind⟩ := find?_foldl_set_of_mem h c.mItems
  exact ⟨item, by rw [World.addMItems, mItem?_update_self hc]; exact hfind, hguid⟩

/-! ## What is listed is still held -/

theorem Holds.sendMailTo (h : w.Holds g i) (draft : MailDraft) (receiver : Guid)
    (messageType : MailMessageType) (sender : Guid) (checked : MailCheckMask) (delay : ℕ) :
    (w.sendMailTo env m draft receiver messageType sender checked delay).Holds g i := by
  obtain ⟨item, hitem, hguid⟩ := h
  unfold World.sendMailTo
  split_ifs
  · exact ⟨item, hitem, hguid⟩
  · refine Holds.addMItems ⟨item, ?_, hguid⟩ _
    rw [mItem?_addNewMailDeliverTime]
    exact hitem
  · refine Holds.addMItems ?_ _
    exact ⟨item, hitem, hguid⟩

theorem holds_sendMailTo {draft : MailDraft} {receiver : Guid}
    (hi : i ∈ draft.items.values.map Item.guid)
    (hthere : ∃ c, w.characters.find? receiver = some c) (hbot : receiver ≠ env.ahBotGuid)
    (messageType : MailMessageType) (sender : Guid) (checked : MailCheckMask) (delay : ℕ) :
    (w.sendMailTo env m draft receiver messageType sender checked delay).Holds receiver i := by
  unfold World.sendMailTo
  rw [if_neg hbot]
  refine holds_addMItems hi ?_
  split_ifs
  · exact (exists_update _ _).mpr hthere
  · exact hthere

theorem Held.update (h : w.Held) {f : Character → Character} (hf : ∀ c, (f c).mItems = c.mItems) :
    (w.update guid f).Held := by
  intro mail hmail hstate i hi
  rw [mails_update] at hmail
  rw [Holds, mItem?_update hf]
  exact h mail hmail hstate i hi

theorem Held.modifyMail (h : w.Held) (hfind : w.mails.find? (isMail guid mailId) = some mail)
    {f : Mail → Mail} (hreceiver : (f mail).receiver = mail.receiver)
    (hitems : ∀ i ∈ (f mail).items, i ∈ mail.items)
    (hstate : (f mail).state ≠ .deleted → mail.state ≠ .deleted) :
    (w.modifyMail guid mailId f).Held := by
  intro other hother hlive i hi
  rcases mem_modifyFirst hother with hmem | ⟨old, hold, rfl⟩
  · exact h other hmem hlive i hi
  · cases hfind.symm.trans hold
    have hheld := h mail (List.mem_of_find?_eq_some hfind) (hstate hlive) i (hitems i hi)
    rw [hreceiver]
    exact hheld

theorem Held.removeMail (h : w.Held) : (w.removeMail guid mailId).Held := fun mail hmail =>
  h mail (List.mem_of_mem_eraseP hmail)

theorem Held.saveMail (h : w.Held) : (w.saveMail guid).Held := by
  intro mail hmail hstate i hi
  obtain ⟨old, hold, -, rfl⟩ := mem_saveMail.mp hmail
  have hitems : (saved guid old).items = old.items := by
    unfold saved
    split_ifs <;> rfl
  have hlive : old.state ≠ .deleted := by
    intro hdeleted
    have hsaved : saved guid old = old := by simp [saved, hdeleted]
    rw [hsaved] at hstate
    exact hstate hdeleted
  rw [hitems] at hi
  rw [saved_receiver]
  exact h old hold hlive i hi

theorem Held.removeMItems (h : w.Held) {items : List ℕ} (hfree : ∀ i ∈ items, w.attached i = 0) :
    (w.removeMItems guid items).Held := by
  intro mail hmail hstate i hi
  rw [World.removeMItems, mails_update] at hmail
  have hlisted : i ∉ items := fun hmem => not_mem_of_attached (hfree i hmem) hmail hstate hi
  rw [Holds, mItem?_removeMItems, if_neg fun hboth => hlisted hboth.2]
  exact h mail hmail hstate i hi

theorem Held.sendMailTo (h : w.Held) {draft : MailDraft} {receiver : Guid}
    (hdraft : ∀ i ∈ draft.items.keys, i ∈ draft.items.values.map Item.guid)
    (hthere : draft.items.keys = [] ∨ ∃ c, w.characters.find? receiver = some c)
    (messageType : MailMessageType) (sender : Guid) (checked : MailCheckMask) (delay : ℕ) :
    (w.sendMailTo env m draft receiver messageType sender checked delay).Held := by
  intro mail hmail hstate i hi
  rw [mails_sendMailTo] at hmail
  split_ifs at hmail with hbot
  · exact (h mail hmail hstate i hi).sendMailTo _ _ _ _ _ _
  · rcases List.mem_cons.mp hmail with rfl | hmail
    · rcases hthere with hnone | hthere
      · change i ∈ draft.items.keys at hi
        rw [hnone] at hi
        cases hi
      · exact holds_sendMailTo (hdraft i hi) hthere hbot _ _ _ _
    · exact (h mail hmail hstate i hi).sendMailTo _ _ _ _ _ _

/-! ## An item is taken -/

theorem listed_itemTaken (hstate : mail.state ≠ .deleted) (h : itemId ∈ mail.items) (i : ℕ) :
    (mail.itemTaken itemId).listed i + (if i = itemId then 1 else 0) = mail.listed i := by
  rw [Mail.listed_of_ne hstate, Mail.listed_of_ne (by simp [Mail.itemTaken])]
  change (mail.items.erase itemId).count i + _ = _
  by_cases hi : i = itemId
  · subst hi
    have hpos := List.count_pos_iff.mpr h
    rw [List.count_erase_self, if_pos rfl]
    omega
  · rw [List.count_erase_of_ne hi, if_neg hi]
    rfl

theorem attached_payCOD (i : ℕ) :
    (w.payCOD env m guid player mail).attached i = w.attached i := by
  refine payCOD_rule (motive := fun w' => w'.attached i = w.attached i) (attached_update _ i) ?_
  rw [modifyMoney, attached_update, attached_sendMailTo]
  split_ifs <;> rfl

/-- **An item that is taken out of the mail that lists it** is listed once less. -/
theorem attached_takeItem (hopen : w.openMail m guid mailId = some mail) (h : itemId ∈ mail.items)
    (i : ℕ) : (w.takeItem env m guid mailId itemId player mail item inventory).attached i +
      (if i = itemId then 1 else 0) = w.attached i := by
  obtain ⟨⟨-, hfind⟩, hstate, -⟩ := openMail_eq_some.mp hopen
  have hsum := attached_modifyMail hfind (fun mail => mail.itemTaken itemId) i
  have hlisted := listed_itemTaken hstate h i
  simp only [takeItem, attached_saveMail, setInventory, removeMItems, attached_update,
    apply_ite (attached · i), attached_payCOD, ite_self]
  omega

theorem Held.payCOD (h : w.Held) : (w.payCOD env m guid player mail).Held := by
  refine payCOD_rule (h.update fun _ => rfl) (Held.update ?_ fun _ => rfl)
  exact h.sendMailTo (fun i hi => by cases hi) (.inl rfl) _ _ _ _

theorem Held.takeItem (h : w.Held) (honce : ∀ i, w.attached i ≤ 1)
    (hplayer : w.characters.find? guid = some player) (hguid : mail.receiver = guid)
    (hopen : w.openMail m guid mailId = some mail) (hitem : player.mItems.find? itemId = some item)
    (hlisted : itemId ∈ mail.items) :
    (w.takeItem env m guid mailId itemId player mail item inventory).Held := by
  obtain ⟨⟨-, hfind⟩, hstate, -⟩ := openMail_eq_some.mp hopen
  obtain ⟨own, hown, hnumber⟩ := h mail (List.mem_of_find?_eq_some hfind) hstate itemId hlisted
  rw [hguid, mItem?, hplayer, Option.bind_some, hitem] at hown
  cases hown
  have htaken : (w.modifyMail guid mailId fun mail => mail.itemTaken itemId).Held :=
    h.modifyMail hfind rfl (fun i hi => List.mem_of_mem_erase hi) fun _ => hstate
  have hgone :
      (w.modifyMail guid mailId fun mail => mail.itemTaken itemId).attached itemId = 0 := by
    have hsum := attached_modifyMail hfind (fun mail => mail.itemTaken itemId) itemId
    have hless := listed_itemTaken hstate hlisted itemId
    have hone := honce itemId
    rw [if_pos rfl] at hless
    omega
  refine Held.saveMail (Held.update (Held.removeMItems ?_ ?_) fun _ => rfl)
  · split_ifs
    · exact htaken.payCOD
    · exact htaken
  · intro i hi
    obtain rfl : i = itemId := (List.mem_singleton.mp hi).trans hnumber
    simp only [apply_ite (attached · i), attached_payCOD, ite_self]
    exact hgone

/-! ## A mail is returned -/

theorem items_foldl_addItem (items : List Item) (draft : MailDraft) :
    (items.foldl MailDraft.addItem draft).items =
      items.foldl (fun l item => l.set item.guid item) draft.items := by
  induction items generalizing draft with
  | nil => rfl
  | cons item items ih => exact ih _

theorem map_guid_filterMap {f : ℕ → Option Item} {items : List ℕ}
    (h : ∀ i ∈ items, ∃ item, f i = some item ∧ item.guid = i) :
    (items.filterMap f).map Item.guid = items := by
  induction items with
  | nil => rfl
  | cons i items ih =>
    obtain ⟨item, hitem, hguid⟩ := h i (by simp)
    rw [List.filterMap_cons_some hitem, List.map_cons, hguid, ih fun j hj => h j (by simp [hj])]

theorem items_returnDraft (player : Character) (mail : Mail) :
    (returnDraft player mail).items =
      (mail.items.filterMap player.mItems.find?).foldl (fun l item => l.set item.guid item)
        OrderedMap.empty := by
  have hempty : (if mail.mailTemplateId ≠ 0 then MailDraft.ofTemplate mail.mailTemplateId
      else .ofText mail.subject mail.body).items = OrderedMap.empty := by
    split_ifs <;> rfl
  change ((mail.items.filterMap player.mItems.find?).foldl MailDraft.addItem _).items = _
  rw [items_foldl_addItem, hempty]

theorem guid_of_mem_returnDraft (hi : i ∈ (returnDraft player mail).items.keys) :
    i ∈ (returnDraft player mail).items.values.map Item.guid := by
  obtain ⟨item, hitem⟩ := mem_keys.mp hi
  have hguid : item.guid = i := by
    rw [items_returnDraft] at hitem
    by_cases hmem : i ∈ (mail.items.filterMap player.mItems.find?).map Item.guid
    · obtain ⟨found, -, hguid, heq⟩ := find?_foldl_set_of_mem hmem OrderedMap.empty
      rw [hitem] at heq
      rw [Option.some.inj heq, hguid]
    · rw [find?_foldl_set_of_not_mem hmem, find?_empty] at hitem
      cases hitem
  exact List.mem_map.mpr ⟨item, mem_values.mpr ⟨i, hitem⟩, hguid⟩

/-- **Everything that was in the mail goes back.** -/
theorem count_returnDraft
    (hheld : ∀ i ∈ mail.items, ∃ item, player.mItems.find? i = some item ∧ item.guid = i)
    (hnodup : mail.items.Nodup) (i : ℕ) :
    (returnDraft player mail).items.keys.count i = mail.items.count i := by
  have hguids := map_guid_filterMap hheld
  rw [(keys_nodup _).count, hnodup.count]
  refine if_congr ?_ rfl rfl
  rw [mem_keys, items_returnDraft]
  by_cases hmem : i ∈ mail.items
  · refine iff_of_true ?_ hmem
    obtain ⟨item, -, -, hfind⟩ := find?_foldl_set_of_mem (hguids.symm ▸ hmem) OrderedMap.empty
    exact ⟨item, hfind⟩
  · refine iff_of_false ?_ hmem
    rintro ⟨item, hfind⟩
    rw [find?_foldl_set_of_not_mem (hguids.symm ▸ hmem), find?_empty] at hfind
    cases hfind

section

variable (h : w.Held) (honce : ∀ i, w.attached i ≤ 1)
  (hplayer : w.characters.find? guid = some player) (hguid : mail.receiver = guid)
  (hopen : w.openMail m guid mailId = some mail)
include h honce hplayer hguid hopen

theorem items_of_openMail :
    (∀ i ∈ mail.items, ∃ item, player.mItems.find? i = some item ∧ item.guid = i) ∧
      mail.items.Nodup := by
  obtain ⟨⟨-, hfind⟩, hstate, -⟩ := openMail_eq_some.mp hopen
  have hmem := List.mem_of_find?_eq_some hfind
  refine ⟨fun i hi => ?_, List.nodup_iff_count_le_one.mpr fun i => ?_⟩
  · have hheld := h mail hmem hstate i hi
    rw [hguid, Holds, mItem?, hplayer, Option.bind_some] at hheld
    exact hheld
  · have hle := listed_le_attached hmem i
    have hone := honce i
    rw [Mail.listed_of_ne hstate] at hle
    omega

theorem attached_returnMail
    (hback : mail.items = [] ∨
      (∃ c, w.characters.find? mail.sender = some c) ∧ mail.sender ≠ env.ahBotGuid)
    (i : ℕ) :
    (w.returnMail env m guid mailId player mail).attached i = w.attached i := by
  obtain ⟨⟨-, hfind⟩, hstate, -⟩ := openMail_eq_some.mp hopen
  obtain ⟨hheld, hnodup⟩ := items_of_openMail h honce hplayer hguid hopen
  have hsum := attached_removeMail hfind i
  have hcount := count_returnDraft hheld hnodup i
  rw [Mail.listed_of_ne hstate] at hsum
  have hrest : ((w.removeMail guid mailId).removeMItems guid mail.items).attached i =
      (w.removeMail guid mailId).attached i := attached_update _ i
  rw [returnMail]
  refine sendReturnToSender_rule (motive := fun w' => w'.attached i = w.attached i)
    (fun hsender => ?_) fun c delay hsender => ?_
  · rw [hrest]
    rcases hback with hnone | ⟨hthere, -⟩
    · simp only [hnone, List.count_nil] at hsum
      exact hsum
    · obtain ⟨c, hc⟩ := (exists_update (w := w.removeMail guid mailId) _ _).mpr hthere
      exact absurd (hsender.symm.trans hc) (by simp)
  · rw [attached_sendMailTo, hrest, hcount]
    rcases hback with hnone | ⟨-, hbot⟩
    · simp only [hnone, List.count_nil, ite_self, Nat.add_zero] at hsum ⊢
      exact hsum
    · rw [if_neg hbot]
      exact hsum

end

/-- **What is listed is still held** when a mail was sent back. -/
theorem Held.returnMail (h : w.Held) (honce : ∀ i, w.attached i ≤ 1)
    (hopen : w.openMail m guid mailId = some mail) :
    (w.returnMail env m guid mailId player mail).Held := by
  obtain ⟨⟨-, hfind⟩, hstate, -⟩ := openMail_eq_some.mp hopen
  have hrest : ((w.removeMail guid mailId).removeMItems guid mail.items).Held := by
    refine h.removeMail.removeMItems fun i hi => ?_
    have hsum := attached_removeMail hfind i
    have hpos := List.count_pos_iff.mpr hi
    have hone := honce i
    rw [Mail.listed_of_ne hstate] at hsum
    omega
  refine sendReturnToSender_rule (fun _ => hrest) fun c delay hsender => ?_
  exact hrest.sendMailTo (fun i hi => guid_of_mem_returnDraft hi) (.inr ⟨c, hsender⟩) _ _ _ _

end World

end TeraCore.Mails
