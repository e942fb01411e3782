import TeraCore.Mails.Attachments

/-!
# Belongings: what is held for a character, and what it carries

An item in a mail is held for the mail's receiver, apart from what the receiver carries.  It enters
the inventory when it is held no longer and there is more of its kind in the inventory than before;
there it may have been merged into a stack, so that it has no number of its own any more.

Of all requests only one brings something into an inventory: to take an item.  Then it is the item
that the client names, and nothing else.

## Main definitions

* `World.carried`: how many things of an entry a character carries
* `World.Enters`, `World.entered`: what goes from the mails into an inventory
* `World.Filed`: what is held for mails is held under its own number

## Main results

* `World.carried_answer`, `World.carried_takeItem`: what the requests do to the inventories
* `World.enters_takeItem`, `World.entered_takeItem`: the item that is taken enters, no other
-/

namespace TeraCore.Mails

open Commons OrderedMap

/-- **Storing works**: an item that is stored is in the inventory in its whole amount, on its own or
in stacks that were there. -/
def Env.Stores (env : Env) : Prop :=
  ∀ inventory item inventory', env.storeItem inventory item = .ok inventory' →
    ∀ entry, inventory'.total entry = inventory.total entry + item.amountOf entry

namespace World

/-- **How many things of an entry a character carries.** -/
def carried (w : World) (g : Guid) (entry : ℕ) : ℕ :=
  ((w.characters.find? g).map fun c => c.inventory.total entry).getD 0

/-- The items that are held for a character. -/
def mItems (w : World) (g : Guid) : List Item :=
  ((w.characters.find? g).map fun c => c.mItems.values).getD []

/-- **An item enters an inventory**: it was held for the character's mails and is not any more, and
the character carries more of its entry. -/
def Enters (w w' : World) (g : Guid) (item : Item) : Prop :=
  w.mItem? g item.guid = some item ∧ w'.mItem? g item.guid = none ∧
    w.carried g item.entry < w'.carried g item.entry

instance (w w' : World) (g : Guid) (item : Item) : Decidable (Enters w w' g item) :=
  inferInstanceAs (Decidable (_ ∧ _ ∧ _))

/-- The items that enter a character's inventory. -/
def entered (w w' : World) (g : Guid) : List Item :=
  (w.mItems g).filter fun item => Enters w w' g item

/-- **What is held is filed**, under its own number, and it is not nothing. -/
def Filed (w : World) : Prop :=
  ∀ g i item, w.mItem? g i = some item → item.guid = i ∧ 0 < item.count

variable {w : World} {env : Env} {m : Moment} {guid mailbox g : Guid} {mailId itemId i entry : ℕ}
  {player : Character} {mail : Mail} {item : Item} {inventory : Inventory}

/-! ## What leaves the inventories alone -/

/-- What a character carries is a part of it. -/
theorem carried_of_part {w' : World}
    (h : w'.part Character.inventory g = w.part Character.inventory g) (entry : ℕ) :
    w'.carried g entry = w.carried g entry := by
  have hcarried : ∀ w : World, w.carried g entry =
      ((w.part Character.inventory g).map fun inventory => inventory.total entry).getD 0 := by
    intro w
    rw [part, Option.map_map]
    rfl
  rw [hcarried, hcarried, h]

theorem apartFromMail_inventory : ApartFromMail Character.inventory :=
  ⟨fun _ _ => rfl, fun _ _ => rfl, fun _ _ => rfl⟩

theorem carried_update {f : Character → Character} (hf : ∀ c, (f c).inventory = c.inventory)
    (g : Guid) (entry : ℕ) : (w.update guid f).carried g entry = w.carried g entry :=
  carried_of_part (part_update hf g) entry

@[simp] theorem carried_modifyMoney (d : BitVec 32) (g : Guid) (entry : ℕ) :
    (w.modifyMoney guid d).carried g entry = w.carried g entry := by
  rw [modifyMoney, carried_update]
  intro c
  rfl

theorem carried_payCOD (g : Guid) (entry : ℕ) :
    (w.payCOD env m guid player mail).carried g entry = w.carried g entry := by
  refine payCOD_rule (motive := fun w' => w'.carried g entry = w.carried g entry)
    (carried_modifyMoney _ g entry) ?_
  rw [carried_modifyMoney]
  exact carried_of_part (part_sendMailTo apartFromMail_inventory _ _ _ _ _ _ g) entry

section

variable {α : Type*} {π : Character → α}

theorem part_returnMail (hπ : ApartFromMail π) (g : Guid) :
    (w.returnMail env m guid mailId player mail).part π g = w.part π g := by
  have hremoved : ((w.removeMail guid mailId).removeMItems guid mail.items).part π g =
      w.part π g := part_removeMItems hπ _ g
  refine sendReturnToSender_rule (motive := fun w' => w'.part π g = w.part π g)
    (fun _ => hremoved) fun c delay _ => ?_
  rw [part_sendMailTo hπ, hremoved]

/-- **To look at mail, to delete and to return it** changes nothing that is apart from the mail. -/
theorem part_answer (hπ : ApartFromMail π) {r : Request}
    (hop : ∀ mailbox mailId itemId, r.op ≠ .takeItem mailbox mailId itemId) (g : Guid) :
    (w.answer env r).part π g = w.part π g := by
  obtain ⟨m, guid, op⟩ := r
  cases op with
  | markAsRead mailbox mailId =>
    rcases handleMailMarkAsRead_cases w m guid mailbox mailId with hw | ⟨mail, -, -, hw⟩
    · rw [answer, handleMailbox, hw]
    · rw [answer, handleMailbox, hw]
      refine part_update (fun c => ?_) g
      unfold Character.countRead
      split_ifs
      · exact hπ.unReadMails c _
      · rfl
  | delete mailbox mailId =>
    rcases handleMailDelete_cases w m guid mailbox mailId with hw | ⟨mail, -, -, -, hw⟩
    · rw [answer, handleMailbox, hw]
    · rw [answer, handleMailbox, hw]
      rfl
  | returnToSender mailbox mailId =>
    rcases handleMailReturnToSender_cases w env m guid mailbox mailId with
      hw | ⟨player, mail, -, -, -, ⟨-, -, hw⟩ | ⟨-, hw⟩⟩
    · simp only [answer, handleMailbox, hw]
    · simp only [answer, handleMailbox, hw, part_returnMail hπ]
    · simp only [answer, handleMailbox, hw]
      rfl
  | takeItem mailbox mailId itemId => exact absurd rfl (hop mailbox mailId itemId)

end

theorem carried_answer {r : Request}
    (hop : ∀ mailbox mailId itemId, r.op ≠ .takeItem mailbox mailId itemId) (g : Guid)
    (entry : ℕ) : (w.answer env r).carried g entry = w.carried g entry :=
  carried_of_part (part_answer apartFromMail_inventory hop g) entry

theorem entered_of_carried {w' : World} (h : ∀ entry, w'.carried g entry = w.carried g entry) :
    entered w w' g = [] := by
  refine List.filter_eq_nil_iff.mpr fun item _ hitem => ?_
  have hmore := (of_decide_eq_true hitem).2.2
  rw [h] at hmore
  exact Nat.lt_irrefl _ hmore

/-! ## An item is taken -/

theorem mItem?_modifyMoney (w : World) (d : BitVec 32) (g : Guid) (i : ℕ) :
    (w.modifyMoney guid d).mItem? g i = w.mItem? g i := by
  rw [modifyMoney, mItem?_update]
  intro c
  rfl

theorem mItem?_addMItems_nil (w : World) (g : Guid) (i : ℕ) :
    (w.addMItems guid []).mItem? g i = w.mItem? g i := by
  rw [addMItems, mItem?_update]
  intro c
  rfl

theorem mItem?_payCOD (g : Guid) (i : ℕ) :
    (w.payCOD env m guid player mail).mItem? g i = w.mItem? g i := by
  refine payCOD_rule (motive := fun w' => w'.mItem? g i = w.mItem? g i)
    (mItem?_modifyMoney w _ g i) ?_
  rw [mItem?_modifyMoney]
  unfold sendMailTo
  split_ifs
  · rfl
  · exact (mItem?_addMItems_nil _ g i).trans (mItem?_addNewMailDeliverTime _ _ g i)
  · exact mItem?_addMItems_nil _ g i

theorem mItem?_takeItem (g : Guid) (i : ℕ) :
    (w.takeItem env m guid mailId itemId player mail item inventory).mItem? g i =
      if g = guid ∧ i = item.guid then none else w.mItem? g i := by
  have hpaid : ∀ w' : World, (((w'.removeMItems guid [item.guid]).setInventory guid
      inventory).saveMail guid).mItem? g i =
        if g = guid ∧ i = item.guid then none else w'.mItem? g i := by
    intro w'
    change ((w'.removeMItems guid [item.guid]).setInventory guid inventory).mItem? g i = _
    rw [setInventory, mItem?_update, mItem?_removeMItems]
    · simp only [List.mem_singleton]
    · intro c
      rfl
  rw [takeItem, hpaid]
  congr 1
  split_ifs
  · exact mItem?_payCOD g i
  · rfl

theorem TakeGranted.mItem?_eq (hfiled : w.Filed)
    (h : w.TakeGranted env m guid mailbox mailId itemId player mail item inventory) :
    w.mItem? guid item.guid = some item ∧ item.guid = itemId ∧ 0 < item.count := by
  have hitem : w.mItem? guid itemId = some item := by
    rw [mItem?, h.player_eq]
    exact h.item_eq
  obtain ⟨hguid, hpos⟩ := hfiled guid itemId item hitem
  exact ⟨hguid ▸ hitem, hguid, hpos⟩

theorem carried_setInventory {c : Character} (hc : w.characters.find? guid = some c) (g : Guid)
    (entry : ℕ) : (w.setInventory guid inventory).carried g entry =
      if g = guid then inventory.total entry else w.carried g entry := by
  rw [setInventory, carried, characters_update hc, find?_set]
  split_ifs
  · rfl
  · rfl

theorem exists_payCOD (h : ∃ c, w.characters.find? g = some c) :
    ∃ c, (w.payCOD env m guid player mail).characters.find? g = some c := by
  refine payCOD_rule (motive := fun w' => ∃ c, w'.characters.find? g = some c)
    ((exists_update _ g).mpr h) ((exists_update _ g).mpr ?_)
  unfold sendMailTo
  split_ifs
  · exact h
  · exact (exists_update _ g).mpr ((exists_update _ g).mpr h)
  · exact (exists_update _ g).mpr h

theorem carried_takeItem (hstores : env.Stores)
    (h : w.TakeGranted env m guid mailbox mailId itemId player mail item inventory) (g : Guid)
    (entry : ℕ) :
    (w.takeItem env m guid mailId itemId player mail item inventory).carried g entry =
      w.carried g entry + if g = guid then item.amountOf entry else 0 := by
  have hstored : ∀ w' : World, (∀ g, w'.carried g entry = w.carried g entry) →
      (∃ c, w'.characters.find? guid = some c) →
      (((w'.removeMItems guid [item.guid]).setInventory guid inventory).saveMail guid).carried g
        entry = w.carried g entry + if g = guid then item.amountOf entry else 0 := by
    intro w' hsame hthere
    obtain ⟨c, hc⟩ : ∃ c, (w'.removeMItems guid [item.guid]).characters.find? guid = some c :=
      (exists_update _ guid).mpr hthere
    change ((w'.removeMItems guid [item.guid]).setInventory guid inventory).carried g entry = _
    rw [carried_setInventory hc,
      carried_of_part (part_removeMItems apartFromMail_inventory _ g), hsame]
    split_ifs with hg
    · rw [hg, carried, h.player_eq]
      exact hstores _ _ _ h.room entry
    · rfl
  let taken := w.modifyMail guid mailId fun mail => mail.itemTaken itemId
  have hthere : ∃ c, taken.characters.find? guid = some c := ⟨player, h.player_eq⟩
  unfold takeItem
  by_cases hcod : mail.cod = 0
  · simp only [hcod, ne_eq, not_true_eq_false, if_false]
    exact hstored taken (fun g => rfl) hthere
  · simp only [hcod, ne_eq, not_false_eq_true, if_true]
    exact hstored (taken.payCOD env m guid player mail) (fun g => carried_payCOD g entry)
      (exists_payCOD hthere)

section

variable (hstores : env.Stores) (hfiled : w.Filed)
  (h : w.TakeGranted env m guid mailbox mailId itemId player mail item inventory)
include hstores hfiled h

theorem enters_takeItem (other : Item) :
    Enters w (w.takeItem env m guid mailId itemId player mail item inventory) g other ↔
      g = guid ∧ other = item := by
  obtain ⟨hitem, -, hpos⟩ := h.mItem?_eq hfiled
  constructor
  · rintro ⟨hbefore, hafter, -⟩
    rw [mItem?_takeItem] at hafter
    split_ifs at hafter with hsame
    · refine ⟨hsame.1, ?_⟩
      rw [hsame.1, hsame.2, hitem] at hbefore
      exact (Option.some.inj hbefore).symm
    · rw [hbefore] at hafter
      cases hafter
  · rintro ⟨rfl, rfl⟩
    refine ⟨hitem, ?_, ?_⟩
    · rw [mItem?_takeItem, if_pos ⟨rfl, rfl⟩]
    · rw [carried_takeItem hstores h, if_pos rfl, Item.amountOf, if_pos rfl]
      exact Nat.lt_add_of_pos_right hpos

theorem entered_takeItem :
    entered w (w.takeItem env m guid mailId itemId player mail item inventory) guid = [item] := by
  obtain ⟨hitem, hguid, -⟩ := h.mItem?_eq hfiled
  have hperm : (w.mItems guid).Perm (item :: (player.mItems.erase itemId).values) := by
    rw [mItems, h.player_eq]
    exact values_perm_erase h.item_eq
  refine List.perm_singleton.mp ((hperm.filter _).trans ?_)
  have hitself := (enters_takeItem (g := guid) hstores hfiled h item).mpr ⟨rfl, rfl⟩
  rw [List.filter_cons, if_pos (decide_eq_true hitself), List.filter_eq_nil_iff.mpr]
  intro other hother henters
  obtain rfl := ((enters_takeItem hstores hfiled h other).mp (of_decide_eq_true henters)).2
  obtain ⟨k, hk⟩ := mem_values.mp hother
  rw [find?_erase] at hk
  split_ifs at hk with hne
  have hheld : w.mItem? guid k = some other := by
    rw [mItem?, h.player_eq]
    exact hk
  exact hne ((hfiled guid k other hheld).1.symm.trans hguid)

end

/-! ## What is held stays filed -/

theorem Filed.update (h : w.Filed) {f : Character → Character} (hf : ∀ c, (f c).mItems = c.mItems) :
    (w.update guid f).Filed := by
  intro g i item hitem
  rw [mItem?_update hf] at hitem
  exact h g i item hitem

theorem Filed.removeMItems (h : w.Filed) (items : List ℕ) : (w.removeMItems guid items).Filed := by
  intro g i item hitem
  rw [mItem?_removeMItems] at hitem
  split_ifs at hitem
  exact h g i item hitem

theorem Filed.addMItems (h : w.Filed) {items : List Item}
    (hitems : ∀ item ∈ items, 0 < item.count) :
    (w.addMItems guid items).Filed := by
  intro g i item hitem
  cases hc : w.characters.find? guid with
  | none =>
    rw [World.addMItems, update_of_none hc] at hitem
    exact h g i item hitem
  | some c =>
    by_cases hg : g = guid
    · rw [hg, World.addMItems, mItem?_update_self hc] at hitem
      by_cases hi : i ∈ items.map Item.guid
      · obtain ⟨found, hfound, hguid, hfind⟩ := find?_foldl_set_of_mem hi c.mItems
        obtain rfl := Option.some.inj (hfind.symm.trans hitem)
        exact ⟨hguid, hitems found hfound⟩
      · replace hitem := (find?_foldl_set_of_not_mem hi c.mItems).symm.trans hitem
        refine h guid i item ?_
        rw [mItem?, hc]
        exact hitem
    · rw [World.addMItems, mItem?, characters_update hc, find?_set_of_ne _ _ hg] at hitem
      exact h g i item hitem

theorem Filed.sendMailTo (h : w.Filed) {draft : MailDraft}
    (hdraft : ∀ item ∈ draft.items.values, 0 < item.count) (receiver : Guid)
    (messageType : MailMessageType) (sender : Guid) (checked : MailCheckMask) (delay : ℕ) :
    (w.sendMailTo env m draft receiver messageType sender checked delay).Filed := by
  unfold World.sendMailTo
  split_ifs
  · exact h
  · refine Filed.addMItems (fun g i item hitem => ?_) hdraft
    rw [mItem?_addNewMailDeliverTime] at hitem
    exact h g i item hitem
  · refine Filed.addMItems (fun g i item hitem => ?_) hdraft
    exact h g i item hitem

theorem Filed.takeItem (h : w.Filed) :
    (w.takeItem env m guid mailId itemId player mail item inventory).Filed := by
  intro g i found hfound
  rw [mItem?_takeItem] at hfound
  split_ifs at hfound
  exact h g i found hfound

theorem count_pos_of_mem_returnDraft (h : w.Filed) (hplayer : w.characters.find? guid = some player)
    (hitem : item ∈ (returnDraft player mail).items.values) : 0 < item.count := by
  obtain ⟨i, hi⟩ := mem_values.mp hitem
  rw [items_returnDraft] at hi
  by_cases hmem : i ∈ (mail.items.filterMap player.mItems.find?).map Item.guid
  · obtain ⟨found, hfound, -, heq⟩ := find?_foldl_set_of_mem hmem OrderedMap.empty
    cases hi.symm.trans heq
    obtain ⟨k, -, hk⟩ := List.mem_filterMap.mp hfound
    refine (h guid k item ?_).2
    rw [mItem?, hplayer]
    exact hk
  · rw [find?_foldl_set_of_not_mem hmem, find?_empty] at hi
    cases hi

theorem Filed.returnMail (h : w.Filed) (hplayer : w.characters.find? guid = some player) :
    (w.returnMail env m guid mailId player mail).Filed := by
  have hremoved : ((w.removeMail guid mailId).removeMItems guid mail.items).Filed :=
    Filed.removeMItems (w := w.removeMail guid mailId) h mail.items
  refine sendReturnToSender_rule (fun _ => hremoved) fun c delay _ => ?_
  exact hremoved.sendMailTo (fun _ hitem => count_pos_of_mem_returnDraft h hplayer hitem) _ _ _ _ _

theorem Filed.answer (h : w.Filed) (r : Request) : (w.answer env r).Filed := by
  obtain ⟨m, guid, op⟩ := r
  cases op with
  | markAsRead mailbox mailId =>
    rcases handleMailMarkAsRead_cases w m guid mailbox mailId with hw | ⟨mail, -, -, hw⟩
    · rw [World.answer, handleMailbox, hw]
      exact h
    · rw [World.answer, handleMailbox, hw]
      refine Filed.update h fun c => ?_
      unfold Character.countRead
      split_ifs <;> rfl
  | delete mailbox mailId =>
    rcases handleMailDelete_cases w m guid mailbox mailId with hw | ⟨mail, -, -, -, hw⟩
    · rw [World.answer, handleMailbox, hw]
      exact h
    · rw [World.answer, handleMailbox, hw]
      exact h
  | returnToSender mailbox mailId =>
    rcases handleMailReturnToSender_cases w env m guid mailbox mailId with
      hw | ⟨player, mail, hplayer, -, -, ⟨-, -, hw⟩ | ⟨-, hw⟩⟩
    · simp only [World.answer, handleMailbox, hw]
      exact h
    · simp only [World.answer, handleMailbox, hw]
      exact h.returnMail hplayer
    · simp only [World.answer, handleMailbox, hw]
      exact h
  | takeItem mailbox mailId itemId =>
    rcases handleMailTakeItem_cases (w := w) with ⟨player, mail, item, inventory, hgranted⟩ | hw
    · rw [World.answer, handleMailbox, handleMailTakeItem_of_granted hgranted]
      exact h.takeItem
    · rw [World.answer, handleMailbox, hw]
      exact h

end World

end TeraCore.Mails
