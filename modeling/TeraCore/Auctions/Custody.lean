import TeraCore.Auctions.Mails
import TeraCore.Auctions.Outcome

/-!
# Auctions: who gets the item

Every auction has its item among the items on sale, and no two auctions have the same one.  When
an auction ends, its item has to leave in a mail: to the highest bidder if there is one and the
auction was not cancelled, and to the owner otherwise.

Where it does not:

* the mail to the winner looks for an offline winner's account only when trades are logged;
* an auction that ends at startup ends before the items are loaded;
* an auction whose time is over is deleted before the number of its item is read, so that the
  item stays on sale unless the memory still holds the number;
* mail to the auction house bot's character is thrown away.

## Main results

* `AuctionWorld.Custodial.step`: the invariant, for steps that read the right number
* `AuctionWorld.delivered_iff`: over every run, an ending delivers the item exactly when it is
  deliverable
-/

namespace TeraCore

open Commons OrderedMap

namespace AuctionWorld

/-! ## The invariant -/

/-- **Custody**: every auction has an item of its own among the items on sale, and numbers that
are still to be given are not in use. -/
structure Custodial (w : AuctionWorld) : Prop where
  keyed : ∀ h id a, (w.auctions h).find? id = some a → a.id = id
  id_lt : ∀ h id a, (w.auctions h).find? id = some a → id < w.nextAuctionId
  house_unique : ∀ h h' id a a', (w.auctions h).find? id = some a →
    (w.auctions h').find? id = some a' → h = h'
  held : ∀ h id a, (w.auctions h).find? id = some a → ∃ item, w.getAItem a.itemGuidlow = some item
  distinct : ∀ h h' id id' a a', (w.auctions h).find? id = some a →
    (w.auctions h').find? id' = some a' → a.itemGuidlow = a'.itemGuidlow → id = id'
  aItems_keyed : ∀ g i, w.getAItem g = some i → i.guid = g
  aItems_lt : ∀ g i, w.getAItem g = some i → g < w.nextItemGuid
  carried_lt : ∀ p c g i, w.characters.find? p = some c → c.inventory.getItemByGuid g = some i →
    g < w.nextItemGuid

/-- **No new goods**: auctions, items on sale and items carried were there before, and the items
of the auctions are still on sale. -/
structure Inherits (w w' : AuctionWorld) : Prop where
  auctions : ∀ h id b, (w'.auctions h).find? id = some b →
    ∃ a, (w.auctions h).find? id = some a ∧ b.id = a.id ∧ b.itemGuidlow = a.itemGuidlow
  held : ∀ h id b, (w'.auctions h).find? id = some b →
    w'.getAItem b.itemGuidlow = w.getAItem b.itemGuidlow
  aItems : ∀ g i, w'.getAItem g = some i → w.getAItem g = some i
  carried : ∀ p c', w'.characters.find? p = some c' →
    ∃ c, w.characters.find? p = some c ∧ c'.inventory = c.inventory
  nextAuctionId : w'.nextAuctionId = w.nextAuctionId
  nextItemGuid : w'.nextItemGuid = w.nextItemGuid

variable {w w' u : AuctionWorld} {env : AuctionEnv} {m : Moment}

theorem Custodial.of_inherits (h : Custodial w) (hi : Inherits w w') : Custodial w' where
  keyed := by
    intro h' id b hb
    obtain ⟨a, ha, hid, -⟩ := hi.auctions h' id b hb
    exact hid.trans (h.keyed h' id a ha)
  id_lt := by
    intro h' id b hb
    obtain ⟨a, ha, -, -⟩ := hi.auctions h' id b hb
    exact hi.nextAuctionId ▸ h.id_lt h' id a ha
  house_unique := by
    intro h₁ h₂ id b₁ b₂ hb₁ hb₂
    obtain ⟨a₁, ha₁, -, -⟩ := hi.auctions h₁ id b₁ hb₁
    obtain ⟨a₂, ha₂, -, -⟩ := hi.auctions h₂ id b₂ hb₂
    exact h.house_unique h₁ h₂ id a₁ a₂ ha₁ ha₂
  held := by
    intro h' id b hb
    obtain ⟨a, ha, -, hguid⟩ := hi.auctions h' id b hb
    obtain ⟨item, hitem⟩ := h.held h' id a ha
    exact ⟨item, (hi.held h' id b hb).trans (hguid ▸ hitem)⟩
  distinct := by
    intro h₁ h₂ id₁ id₂ b₁ b₂ hb₁ hb₂ heq
    obtain ⟨a₁, ha₁, -, hguid₁⟩ := hi.auctions h₁ id₁ b₁ hb₁
    obtain ⟨a₂, ha₂, -, hguid₂⟩ := hi.auctions h₂ id₂ b₂ hb₂
    exact h.distinct h₁ h₂ id₁ id₂ a₁ a₂ ha₁ ha₂ (hguid₁ ▸ hguid₂ ▸ heq)
  aItems_keyed := fun g i hg => h.aItems_keyed g i (hi.aItems g i hg)
  aItems_lt := fun g i hg => hi.nextItemGuid ▸ h.aItems_lt g i (hi.aItems g i hg)
  carried_lt := by
    intro p c' g i hc' hg
    obtain ⟨c, hc, hinv⟩ := hi.carried p c' hc'
    exact hi.nextItemGuid ▸ h.carried_lt p c g i hc (hinv ▸ hg)

/-- Nothing but money and mails has changed. -/
structure SameGoods (w u : AuctionWorld) : Prop where
  auctions : u.auctions = w.auctions
  aItems : u.aItems = w.aItems
  carried : ∀ p c', u.characters.find? p = some c' →
    ∃ c, w.characters.find? p = some c ∧ c'.inventory = c.inventory
  nextAuctionId : u.nextAuctionId = w.nextAuctionId
  nextItemGuid : u.nextItemGuid = w.nextItemGuid

theorem SameGoods.refl (w : AuctionWorld) : SameGoods w w :=
  ⟨rfl, rfl, fun _ c hc => ⟨c, hc, rfl⟩, rfl, rfl⟩

theorem SameGoods.withMails (h : SameGoods w u) (l : List Mail) : SameGoods w (u.withMails l) :=
  ⟨h.auctions, h.aItems, h.carried, h.nextAuctionId, h.nextItemGuid⟩

theorem SameGoods.modifyMoney (h : SameGoods w u) (guid : Guid) (d : BitVec 32) :
    SameGoods w (u.modifyMoney guid d) where
  auctions := (auctions_modifyMoney u guid d).trans h.auctions
  aItems := (aItems_modifyMoney u guid d).trans h.aItems
  carried := by
    intro p c' hc'
    cases hguid : u.characters.find? guid with
    | none =>
      rw [AuctionWorld.modifyMoney, hguid] at hc'
      exact h.carried p c' hc'
    | some c =>
      rw [characters_modifyMoney u hguid, find?_set] at hc'
      split_ifs at hc' with hp
      · cases hc'
        exact hp ▸ h.carried guid c hguid
      · exact h.carried p c' hc'
  nextAuctionId := (nextAuctionId_modifyMoney u guid d).trans h.nextAuctionId
  nextItemGuid := (nextItemGuid_modifyMoney u guid d).trans h.nextItemGuid

variable {house : AuctionHouse} {id guid : ℕ} {a b : AuctionEntry} {item : Item} {receiver : Guid}
  {draft : MailDraft}

theorem inherits_addAuction (hw : Custodial w) (hu : SameGoods w u)
    (ha : (w.auctions house).find? id = some a) (hid : b.id = a.id)
    (hguid : b.itemGuidlow = a.itemGuidlow) : Inherits w (u.addAuction house b) where
  auctions := by
    intro h id' b' hb'
    rw [auctions_addAuction, hu.auctions] at hb'
    split_ifs at hb' with hh
    · subst hh
      rw [find?_set] at hb'
      split_ifs at hb' with hid'
      · cases hb'
        refine ⟨a, ?_, hid, hguid⟩
        rw [hid', hid, hw.keyed h id a ha]
        exact ha
      · exact ⟨b', hb', rfl, rfl⟩
    · exact ⟨b', hb', rfl, rfl⟩
  held := fun _ _ _ _ => congrArg (fun l => OrderedMap.find? l _) hu.aItems
  aItems := fun g i hg => by
    rw [getAItem, aItems_addAuction, hu.aItems] at hg
    exact hg
  carried := hu.carried
  nextAuctionId := hu.nextAuctionId
  nextItemGuid := hu.nextItemGuid

/-- An auction that is removed together with its item leaves the others as they are. -/
theorem inherits_remove (hw : Custodial w) (hu : SameGoods w u)
    (ha : (w.auctions house).find? id = some a) (hid : b.id = a.id) :
    Inherits w ((u.removeAItem a.itemGuidlow).removeAuction house b) where
  auctions := by
    intro h id' b' hb'
    rw [auctions_removeAuction] at hb'
    simp only [removeAItem, hu.auctions] at hb'
    split_ifs at hb' with hh
    · rw [find?_erase] at hb'
      split_ifs at hb'
      exact ⟨b', hh ▸ hb', rfl, rfl⟩
    · exact ⟨b', hb', rfl, rfl⟩
  held := by
    intro h id' b' hb'
    have hne : b'.itemGuidlow ≠ a.itemGuidlow := by
      intro heq
      rw [auctions_removeAuction] at hb'
      simp only [removeAItem, hu.auctions] at hb'
      have hkey := hw.keyed house id a ha
      split_ifs at hb' with hh
      · rw [find?_erase] at hb'
        split_ifs at hb' with hid'
        exact hid' ((hw.distinct house house id' id b' a hb' ha heq).trans
          (hkey.symm.trans hid.symm))
      · have hsame := hw.distinct h house id' id b' a hb' ha heq
        exact hh (hw.house_unique h house id b' a (hsame ▸ hb') ha)
    show (u.aItems.erase a.itemGuidlow).find? b'.itemGuidlow = _
    rw [find?_erase_of_ne _ hne, hu.aItems]
    rfl
  aItems := by
    intro g i hg
    have hg' : (u.aItems.erase a.itemGuidlow).find? g = some i := hg
    rw [find?_erase, hu.aItems] at hg'
    split_ifs at hg'
    exact hg'
  carried := hu.carried
  nextAuctionId := hu.nextAuctionId
  nextItemGuid := hu.nextItemGuid

/-! ## The invariant, step by step -/

/-- A new auction has an item of its own: one that was not on sale, or a new one. -/
theorem custodial_post (hw : Custodial w) {seller : Character} {player : Guid} {left : Inventory}
    {nextItemGuid : ℕ} {d : BitVec 32} (hseller : w.characters.find? player = some seller)
    (hitem : PostedItem w seller item nextItemGuid) (hleft : ∀ g i, left.getItemByGuid g = some i →
      ∃ j, seller.inventory.getItemByGuid g = some j)
    (hid : a.id = w.nextAuctionId) (hguid : a.itemGuidlow = item.guid) :
    Custodial (({ w.modifyMoney player d with nextItemGuid := nextItemGuid }.putOnSale house
      a item).setInventory player left) := by
  have hnew : w.getAItem item.guid = none := by
    rcases hitem.carried_or_new with ⟨hnone, -, -⟩ | ⟨heq, -⟩
    · exact hnone
    · by_contra hsome
      obtain ⟨i, hi⟩ := Option.ne_none_iff_exists'.mp hsome
      exact absurd (hw.aItems_lt item.guid i hi) (by omega)
  have hlt : item.guid < nextItemGuid ∧ w.nextItemGuid ≤ nextItemGuid := by
    rcases hitem.carried_or_new with ⟨-, heq, hcarried⟩ | ⟨heq, hnext⟩
    · exact ⟨heq ▸ hw.carried_lt player seller _ _ hseller hcarried, heq.ge⟩
    · omega
  have hauctions : ∀ h id b, ((({ w.modifyMoney player d with
      nextItemGuid := nextItemGuid }.putOnSale house a item).setInventory player
        left).auctions h).find? id = some b →
      (h = house ∧ id = a.id ∧ b = a) ∨ (w.auctions h).find? id = some b ∧ id ≠ a.id := by
    intro h id b hb
    rw [auctions_setInventory, putOnSale, auctions_addAuction] at hb
    simp only [auctions_addAItem, auctions_modifyMoney] at hb
    have hold : (w.auctions h).find? id = some b →
        (w.auctions h).find? id = some b ∧ id ≠ a.id := fun hb =>
      ⟨hb, fun heq => absurd (hw.id_lt h id b hb) (by omega)⟩
    split_ifs at hb with hh
    · subst hh
      rw [find?_set] at hb
      split_ifs at hb with hid'
      · exact .inl ⟨rfl, hid', (Option.some.inj hb).symm⟩
      · exact .inr (hold hb)
    · exact .inr (hold hb)
  have haItems : ∀ g, (({ w.modifyMoney player d with
      nextItemGuid := nextItemGuid }.putOnSale house a item).setInventory player left).getAItem g =
      if g = item.guid then some item else w.getAItem g := by
    intro g
    rw [getAItem, aItems_setInventory, putOnSale, aItems_addAuction, aItems_addAItem,
      find?_set]
    simp only [aItems_modifyMoney]
    rfl
  constructor
  · intro h id b hb
    rcases hauctions h id b hb with ⟨-, rfl, rfl⟩ | ⟨hb, -⟩
    · rfl
    · exact hw.keyed h id b hb
  · intro h id b hb
    rw [nextAuctionId_setInventory]
    show id < (w.modifyMoney player d).nextAuctionId + 1
    rw [nextAuctionId_modifyMoney]
    rcases hauctions h id b hb with ⟨-, rfl, -⟩ | ⟨hb, -⟩
    · omega
    · exact Nat.lt_succ_of_lt (hw.id_lt h id b hb)
  · intro h₁ h₂ id b₁ b₂ hb₁ hb₂
    rcases hauctions h₁ id b₁ hb₁ with ⟨rfl, hid₁, -⟩ | ⟨hb₁, hid₁⟩ <;>
      rcases hauctions h₂ id b₂ hb₂ with ⟨rfl, hid₂, -⟩ | ⟨hb₂, hid₂⟩
    · rfl
    · exact absurd hid₁ hid₂
    · exact absurd hid₂ hid₁
    · exact hw.house_unique h₁ h₂ id b₁ b₂ hb₁ hb₂
  · intro h id b hb
    rw [haItems]
    rcases hauctions h id b hb with ⟨-, -, rfl⟩ | ⟨hb, -⟩
    · exact ⟨item, if_pos hguid⟩
    · split_ifs
      · exact ⟨item, rfl⟩
      · exact hw.held h id b hb
  · intro h₁ h₂ id₁ id₂ b₁ b₂ hb₁ hb₂ heq
    have hother : ∀ h id b, (w.auctions h).find? id = some b → b.itemGuidlow ≠ item.guid := by
      intro h id b hb hsame
      obtain ⟨i, hi⟩ := hw.held h id b hb
      rw [hsame, hnew] at hi
      cases hi
    rcases hauctions h₁ id₁ b₁ hb₁ with ⟨-, hid₁, rfl⟩ | ⟨hold₁, -⟩ <;>
      rcases hauctions h₂ id₂ b₂ hb₂ with ⟨-, hid₂, rfl⟩ | ⟨hold₂, -⟩
    · exact hid₁.trans hid₂.symm
    · exact absurd (heq.symm.trans hguid) (hother h₂ id₂ b₂ hold₂)
    · exact absurd (heq.trans hguid) (hother h₁ id₁ b₁ hold₁)
    · exact hw.distinct h₁ h₂ id₁ id₂ b₁ b₂ hold₁ hold₂ heq
  · intro g i hg
    rw [haItems] at hg
    split_ifs at hg with hgi
    · rw [hgi, Option.some.inj hg]
    · exact hw.aItems_keyed g i hg
  · intro g i hg
    rw [nextItemGuid_setInventory]
    show g < nextItemGuid
    rw [haItems] at hg
    split_ifs at hg with hgi
    · omega
    · exact lt_of_lt_of_le (hw.aItems_lt g i hg) hlt.2
  · intro p c g i hc hg
    rw [nextItemGuid_setInventory]
    show g < nextItemGuid
    have hpaid : (w.modifyMoney player d).characters.find? player =
        some { seller with toPlayer := seller.toPlayer.modifyMoney d } := by
      rw [characters_modifyMoney w hseller, find?_set_self]
    rw [characters_setInventory _ (by exact hpaid), find?_set] at hc
    split_ifs at hc with hp
    · cases hc
      obtain ⟨j, hj⟩ := hleft g i hg
      exact lt_of_lt_of_le (hw.carried_lt player seller g j hseller hj) hlt.2
    · have hc' : (w.modifyMoney player d).characters.find? p = some c := hc
      rw [characters_modifyMoney w hseller, find?_set_of_ne _ _ hp] at hc'
      exact lt_of_lt_of_le (hw.carried_lt p c g i hc' hg) hlt.2

/-! ### Startup -/

theorem mem_rows : a ∈ w.rows ↔ ∃ h id, (w.auctions h).find? id = some a := by
  simp only [rows, List.mem_append, mem_values]
  constructor
  · rintro ((⟨id, h⟩ | ⟨id, h⟩) | ⟨id, h⟩)
    exacts [⟨_, id, h⟩, ⟨_, id, h⟩, ⟨_, id, h⟩]
  · rintro ⟨_ | _ | _, id, h⟩
    exacts [.inl (.inl ⟨id, h⟩), .inl (.inr ⟨id, h⟩), .inr ⟨id, h⟩]

theorem Custodial.row_unique (hw : Custodial w) (ha : a ∈ w.rows)
    (hb : b ∈ w.rows) (hid : a.id = b.id) : a = b := by
  obtain ⟨h₁, id₁, ha⟩ := mem_rows.mp ha
  obtain ⟨h₂, id₂, hb⟩ := mem_rows.mp hb
  obtain rfl : id₁ = id₂ :=
    (hw.keyed h₁ id₁ a ha).symm.trans (hid.trans (hw.keyed h₂ id₂ b hb))
  obtain rfl := hw.house_unique h₁ h₂ id₁ a b ha hb
  exact Option.some.inj (ha.symm.trans hb)

theorem Custodial.row_distinct (hw : Custodial w) (ha : a ∈ w.rows)
    (hb : b ∈ w.rows) (hguid : a.itemGuidlow = b.itemGuidlow) : a = b := by
  refine hw.row_unique ha hb ?_
  obtain ⟨h₁, id₁, ha⟩ := mem_rows.mp ha
  obtain ⟨h₂, id₂, hb⟩ := mem_rows.mp hb
  exact (hw.keyed h₁ id₁ a ha).trans ((hw.distinct h₁ h₂ id₁ id₂ a b ha hb hguid).trans
    (hw.keyed h₂ id₂ b hb).symm)

theorem foldl_endAtStartup_withMails (env : AuctionEnv) (m : Moment) (l : List AuctionEntry)
    (w : AuctionWorld) : ∃ mails, l.foldl (endAtStartup env m) w = w.withMails mails := by
  induction l generalizing w with
  | nil => exact ⟨[], (withMails_nil w).symm⟩
  | cons a l ih =>
    have hone : ∃ mails, endAtStartup env m w a = w.withMails mails := by
      unfold endAtStartup
      split
      · exact ⟨[], (withMails_nil w).symm⟩
      · exact ⟨_, sendEndMails_eq w env m _⟩
    obtain ⟨first, hfirst⟩ := hone
    obtain ⟨rest, hrest⟩ := ih (w.withMails first)
    exact ⟨first ++ rest, by rw [List.foldl_cons, hfirst, hrest, withMails_withMails]⟩

/-- **What has been loaded** from the rows `l` into a world without auctions. -/
structure Loaded (env : AuctionEnv) (l : List AuctionEntry) (u w' : AuctionWorld) : Prop where
  auctions : ∀ h id b, (w'.auctions h).find? id = some b → ∃ a ∈ l, ∃ faction entry,
    loadable env a = some (faction, entry) ∧ h = env.getAuctionsMap faction ∧ id = a.id ∧
    b = { a with auctionHouseEntry := entry } ∧ (u.getAItem a.itemGuidlow).isSome
  aItems : w'.aItems = u.aItems
  characters : w'.characters = u.characters
  mails : w'.mails = u.mails
  nextAuctionId : w'.nextAuctionId = u.nextAuctionId
  nextItemGuid : w'.nextItemGuid = u.nextItemGuid

theorem loaded_foldl (env : AuctionEnv) (l : List AuctionEntry)
    (hu : ∀ h id, (u.auctions h).find? id = none) :
    Loaded env l u (l.foldl (loadAuction env) u) := by
  refine foldl_invariant (fun w' => Loaded env l u w') (fun w' a ha hw' => ?_)
    ⟨fun h id b hb => ?_, rfl, rfl, rfl, rfl, rfl⟩
  · unfold loadAuction
    cases hload : loadable env a with
    | none => exact hw'
    | some row =>
      obtain ⟨faction, entry⟩ := row
      split_ifs with hitem
      · refine ⟨fun h id b hb => ?_, hw'.aItems, hw'.characters, hw'.mails, hw'.nextAuctionId,
          hw'.nextItemGuid⟩
        rw [auctions_addAuction] at hb
        split_ifs at hb with hh
        · rw [find?_set] at hb
          split_ifs at hb with hid
          · cases hb
            rw [getAItem, hw'.aItems] at hitem
            exact ⟨a, ha, faction, entry, hload, hh, hid, rfl, hitem⟩
          · exact hw'.auctions h id b (hh ▸ hb)
        · exact hw'.auctions h id b hb
      · exact hw'
  · rw [hu] at hb
    cases hb

/-- **Startup, as a whole**: the rows that are left are loaded with their items, and mails have
been sent. -/
theorem startup_loaded (w : AuctionWorld) (env : AuctionEnv) (m : Moment) :
    ∃ l u mails, (∀ a ∈ l, a ∈ w.rows) ∧ Loaded env l u (w.startup env m) ∧
      (∀ g i, u.getAItem g = some i → w.getAItem g = some i) ∧ u.characters = w.characters ∧
      (w.expiredRows m).foldl (endAtStartup env m)
        { w with auctions := fun _ => OrderedMap.empty, aItems := OrderedMap.empty } =
          { w with auctions := fun _ => OrderedMap.empty, aItems := OrderedMap.empty }.withMails
            mails ∧
      u.mails = w.mails ++ mails ∧ u.nextAuctionId = w.nextAuctionId ∧
      u.nextItemGuid = w.nextItemGuid := by
  obtain ⟨mails, hmails⟩ := foldl_endAtStartup_withMails env m (w.expiredRows m)
    { w with auctions := fun _ => OrderedMap.empty, aItems := OrderedMap.empty }
  refine ⟨_, _, mails, fun a ha => (List.mem_filter.mp ha).1, loaded_foldl env _ ?_, ?_, ?_,
    hmails, ?_, ?_, ?_⟩
  all_goals simp only [hmails]
  · exact fun _ _ => rfl
  · intro g i hg
    rw [getAItem, find?_filterKeys] at hg
    split_ifs at hg
    exact hg
  all_goals rfl

theorem custodial_startup (hw : Custodial w) (env : AuctionEnv) (m : Moment) :
    Custodial (w.startup env m) := by
  obtain ⟨l, u, mails, hrows, hl, haItems, hchars, -, -, hnextA, hnextI⟩ := startup_loaded w env m
  have hrow : ∀ h id b, ((w.startup env m).auctions h).find? id = some b → ∃ a ∈ w.rows,
      id = a.id ∧ b.id = a.id ∧ b.itemGuidlow = a.itemGuidlow := by
    intro h id b hb
    obtain ⟨a, ha, faction, entry, -, -, hid, rfl, -⟩ := hl.auctions h id b hb
    exact ⟨a, hrows a ha, hid, rfl, rfl⟩
  constructor
  · intro h id b hb
    obtain ⟨a, -, hid, hbid, -⟩ := hrow h id b hb
    exact hbid.trans hid.symm
  · intro h id b hb
    obtain ⟨a, ha, rfl, -, -⟩ := hrow h id b hb
    obtain ⟨h', id', ha⟩ := mem_rows.mp ha
    rw [hl.nextAuctionId, hnextA, hw.keyed h' id' a ha]
    exact hw.id_lt h' id' a ha
  · intro h₁ h₂ id b₁ b₂ hb₁ hb₂
    obtain ⟨a₁, ha₁, f₁, e₁, hload₁, rfl, hid₁, -, -⟩ := hl.auctions h₁ id b₁ hb₁
    obtain ⟨a₂, ha₂, f₂, e₂, hload₂, rfl, hid₂, -, -⟩ := hl.auctions h₂ id b₂ hb₂
    obtain rfl := hw.row_unique (hrows a₁ ha₁) (hrows a₂ ha₂) (hid₁.symm.trans hid₂)
    rw [hload₁] at hload₂
    obtain ⟨rfl, -⟩ := Prod.ext_iff.mp (Option.some.inj hload₂)
    rfl
  · intro h id b hb
    obtain ⟨a, -, faction, entry, -, -, -, rfl, hsome⟩ := hl.auctions h id b hb
    obtain ⟨item, hitem⟩ := Option.isSome_iff_exists.mp hsome
    exact ⟨item, by rw [getAItem, hl.aItems]; exact hitem⟩
  · intro h₁ h₂ id₁ id₂ b₁ b₂ hb₁ hb₂ heq
    obtain ⟨a₁, ha₁, rfl, -, hguid₁⟩ := hrow h₁ id₁ b₁ hb₁
    obtain ⟨a₂, ha₂, rfl, -, hguid₂⟩ := hrow h₂ id₂ b₂ hb₂
    rw [hw.row_distinct ha₁ ha₂ (hguid₁.symm.trans (heq.trans hguid₂))]
  · intro g i hg
    rw [getAItem, hl.aItems] at hg
    exact hw.aItems_keyed g i (haItems g i hg)
  · intro g i hg
    rw [getAItem, hl.aItems] at hg
    rw [hl.nextItemGuid, hnextI]
    exact hw.aItems_lt g i (haItems g i hg)
  · intro p c g i hc hg
    rw [hl.characters, hchars] at hc
    rw [hl.nextItemGuid, hnextI]
    exact hw.carried_lt p c g i hc hg

/-! ### All steps -/

/-- A turn of a house's loop finds the number of the item in the memory of the deleted auction. -/
def ReadsRight (w : AuctionWorld) (op : Moment × Op) : Prop :=
  match op with
  | (_, .expire house id stale) => ∀ a ∈ (w.auctions house).find? id, stale = a.itemGuidlow
  | _ => True

theorem Custodial.step (hw : Custodial w) (env : AuctionEnv) {op : Moment × Op}
    (hop : ReadsRight w op) : Custodial (AuctionWorld.step env w op) := by
  have houtcome := step_outcome env w op
  generalize AuctionWorld.step env w op = w' at houtcome ⊢
  cases houtcome with
  | same => exact hw
  | post m player pkt seller house a item left nextItemGuid hseller hitem hleft hid hguid =>
    exact custodial_post hw hseller hitem hleft hid hguid
  | raise m player pkt house a bidder honline hbidder ha =>
    refine hw.of_inherits (inherits_addAuction hw ?_ ha rfl rfl)
    have hsame := SameGoods.refl w
    split_ifs
    · exact hsame.modifyMoney _ _
    · rw [sendAuctionOutbiddedMail_eq]
      exact (hsame.withMails _).modifyMoney _ _
    · exact hsame.modifyMoney _ _
  | buyout m player pkt house a bidder honline hbidder ha =>
    rw [buyOut_eq]
    exact hw.of_inherits
      (inherits_remove hw (((SameGoods.refl w).modifyMoney _ _).withMails _) ha rfl)
  | cancel m player pkt house a owner item honline hcharacter ha =>
    rw [cancelAuction_eq]
    refine hw.of_inherits (inherits_remove hw (SameGoods.withMails ?_ _) ha rfl)
    split_ifs
    · exact (SameGoods.refl w).modifyMoney _ _
    · exact SameGoods.refl w
  | expire m house id stale a ha =>
    obtain rfl : stale = a.itemGuidlow := hop a ha
    rw [sendEndMails_eq]
    exact hw.of_inherits (inherits_remove hw ((SameGoods.refl w).withMails _) ha rfl)
  | startup m => exact custodial_startup hw env m

/-! ## Delivery -/

/-- The mails with an item. -/
def carrying (guid : ℕ) (l : List Mail) : List Mail :=
  l.filter fun mail => mail.item.any fun item => item.guid = guid

/-- **Delivery of an item**: one more mail has it, for the right receiver, and it is in no
auction and not on sale any more. -/
structure Delivered (w w' : AuctionWorld) (guid : ℕ) (receiver : Guid) : Prop where
  mailed : ∃ mail, carrying guid w'.mails = carrying guid w.mails ++ [mail] ∧
    mail.receiver = receiver
  noAuction : ∀ h id b, (w'.auctions h).find? id = some b → b.itemGuidlow ≠ guid
  notHeld : w'.getAItem guid = none

/-- An auction ends in a step. -/
def EndedBy (w w' : AuctionWorld) (a : AuctionEntry) : Prop :=
  (∃ h, (w.auctions h).find? a.id = some a) ∧ ∀ h, (w'.auctions h).find? a.id = none

/-- Who is to get the item: the player who buys the auction out, the owner who cancels it, and
when its time is over the bidder, or the owner if there is none. -/
def addressee (op : Moment × Op) (a : AuctionEntry) : Guid :=
  match op with
  | (_, .placeBid player _) => player
  | (_, .removeItem _ _) => a.owner
  | _ => if a.bidder = 0 then a.owner else a.bidder

/-- **When an ending delivers the item.** -/
def Deliverable (env : AuctionEnv) (op : Moment × Op) (a : AuctionEntry) : Prop :=
  match op with
  | (_, .sellItem _ _) => False
  | (_, .placeBid player _) => player ≠ env.ahBotGuid
  | (_, .removeItem _ _) => a.owner ≠ env.ahBotGuid
  | (m, .expire _ _ stale) =>
    stale = a.itemGuidlow ∧
      if a.bidder = 0 then a.owner ≠ env.ahBotGuid
      else a.bidder ≠ env.ahBotGuid ∧ (m.online a.bidder = true ∨ m.gmLogTrade = true)
  | (_, .startup) => False

theorem carrying_append (guid : ℕ) (l l' : List Mail) :
    carrying guid (l ++ l') = carrying guid l ++ carrying guid l' := List.filter_append ..

theorem carrying_mailTo_none
    (h : draft.item = none) : carrying guid (mailTo env receiver a draft) = [] := by
  unfold mailTo
  split_ifs
  · rfl
  · simp [carrying, h]

theorem carrying_mailIfExists_none (h : draft.item = none) :
    carrying guid (w.mailIfExists env m a receiver draft) = [] := by
  unfold mailIfExists
  split_ifs
  · exact carrying_mailTo_none h
  · rfl

theorem carrying_mailTo_some {receiver : Guid} {a : AuctionEntry} {draft : MailDraft}
    {item : Item} (h : draft.item = some item) :
    (∃ mail, carrying item.guid (mailTo env receiver a draft) = [mail] ∧
        mail.receiver = receiver) ∧ receiver ≠ env.ahBotGuid ∨
      carrying item.guid (mailTo env receiver a draft) = [] ∧ receiver = env.ahBotGuid := by
  unfold mailTo
  split_ifs with hbot
  · exact .inr ⟨rfl, hbot⟩
  · refine .inl ⟨⟨{ draft with receiver := receiver, sender := a.getHouseId }, ?_, rfl⟩, hbot⟩
    simp [carrying, h]

theorem delivered_remove_iff (hw : Custodial w) (hu : SameGoods w u)
    (ha : (w.auctions house).find? id = some a) (hid : b.id = a.id)
    {l : List Mail} (hmails : u.mails = w.mails ++ l) (receiver : Guid) :
    Delivered w ((u.removeAItem a.itemGuidlow).removeAuction house b) a.itemGuidlow receiver ↔
      ∃ mail, carrying a.itemGuidlow l = [mail] ∧ mail.receiver = receiver := by
  have hcarrying : carrying a.itemGuidlow ((u.removeAItem a.itemGuidlow).removeAuction house
      b).mails = carrying a.itemGuidlow w.mails ++ carrying a.itemGuidlow l := by
    rw [← carrying_append, ← hmails]
    rfl
  constructor
  · rintro ⟨⟨mail, hmail, hreceiver⟩, -, -⟩
    rw [hcarrying] at hmail
    exact ⟨mail, List.append_cancel_left hmail, hreceiver⟩
  · rintro ⟨mail, hmail, hreceiver⟩
    refine ⟨⟨mail, by rw [hcarrying, hmail], hreceiver⟩, fun h id' b' hb' heq => ?_, ?_⟩
    · have hi := inherits_remove hw hu ha hid
      obtain ⟨item, hitem⟩ := (hw.of_inherits hi).held h id' b' hb'
      rw [heq] at hitem
      have hgone : (u.aItems.erase a.itemGuidlow).find? a.itemGuidlow = some item := hitem
      rw [find?_erase_self] at hgone
      cases hgone
    · exact find?_erase_self _ _

theorem exists_carrying_mailTo_iff (h : draft.item = some item) :
    (∃ mail, carrying item.guid (mailTo env receiver a draft) = [mail] ∧
      mail.receiver = receiver) ↔ receiver ≠ env.ahBotGuid := by
  have hcases := @carrying_mailTo_some env receiver a draft item h
  rcases hcases with ⟨hmail, hbot⟩ | ⟨hnil, hbot⟩
  · exact iff_of_true hmail hbot
  · refine iff_of_false ?_ (not_not.mpr hbot)
    rintro ⟨mail, hmail, -⟩
    rw [hnil] at hmail
    cases hmail

/-! ### Each ending -/

theorem ended_remove (hw : Custodial w) (hu : SameGoods w u)
    {a₀ : AuctionEntry} (ha₀ : (w.auctions house).find? id = some a₀) (hid : b.id = a₀.id)
    (hend : EndedBy w ((u.removeAItem guid).removeAuction house b) a) : a = a₀ := by
  obtain ⟨⟨h, ha⟩, hgone⟩ := hend
  have hgone := hgone h
  rw [auctions_removeAuction] at hgone
  simp only [removeAItem, hu.auctions] at hgone
  split_ifs at hgone with hh
  · subst hh
    rw [find?_erase, ha] at hgone
    split_ifs at hgone with hsame
    rw [hsame, hid, hw.keyed h id a₀ ha₀, ha₀] at ha
    exact (Option.some.inj ha).symm
  · rw [ha] at hgone
    cases hgone

theorem not_ended_add {house : AuctionHouse} {a b : AuctionEntry}
    (hauctions : w'.auctions = (u.addAuction house b).auctions) (hu : u.auctions = w.auctions) :
    ¬ EndedBy w w' a := by
  rintro ⟨⟨h, ha⟩, hgone⟩
  have hgone := hgone h
  rw [hauctions, auctions_addAuction, hu] at hgone
  split_ifs at hgone with hh
  · rw [find?_set] at hgone
    split_ifs at hgone
    rw [← hh, ha] at hgone
    cases hgone
  · rw [ha] at hgone
    cases hgone

theorem carrying_buyOutMails {a sold : AuctionEntry} {item : Item} {player : Guid}
    {c : Character} (hc : w.characters.find? player = some c) (hm : m.online player = true)
    (hsold : sold.bidder = player) (hitem : w.getAItem sold.itemGuidlow = some item) :
    carrying item.guid (w.buyOutMails env m a sold player) =
      carrying item.guid (mailTo env player sold
        ⟨sold.buildAuctionMailSubject .won, ⟨sold.owner, sold.bid, sold.buyout, 0, 0⟩, some item,
          0⟩) := by
  have hrefund : carrying item.guid (w.refundMails env m a player) = [] := by
    unfold refundMails
    split_ifs
    · exact carrying_mailIfExists_none rfl
    · rfl
  have hfound : w.WinnerFound m sold.bidder := by
    rw [hsold]
    exact (winnerFound_iff m hc).mpr (.inl hm)
  rw [buyOutMails, carrying_append, carrying_append, carrying_append, hrefund, salePendingMails,
    successfulMails, carrying_mailIfExists_none rfl, carrying_mailIfExists_none rfl, wonMails,
    hitem]
  dsimp only
  rw [if_pos hfound, hsold]
  rfl

/-- When an auction's time is over its item is sent to the owner, who exists, or to the bidder,
who has to be found. -/
theorem exists_carrying_endMails_iff (hitem : w.getAItem a.itemGuidlow = some item)
    (howner : ∃ c, w.characters.find? a.owner = some c)
    (hbidder : a.bidder ≠ 0 → ∃ c, w.characters.find? a.bidder = some c) :
    (∃ mail, carrying item.guid (w.endMails env m a) = [mail] ∧
        mail.receiver = if a.bidder = 0 then a.owner else a.bidder) ↔
      if a.bidder = 0 then a.owner ≠ env.ahBotGuid
      else a.bidder ≠ env.ahBotGuid ∧ (m.online a.bidder = true ∨ m.gmLogTrade = true) := by
  unfold endMails
  split_ifs with hnone
  · obtain ⟨c, hc⟩ := howner
    rw [expiredMails, hitem]
    dsimp only
    rw [mailIfExists, if_pos (receiverExists_of_find? m hc)]
    exact exists_carrying_mailTo_iff rfl
  · obtain ⟨c, hc⟩ := hbidder hnone
    rw [carrying_append, successfulMails, carrying_mailIfExists_none rfl, List.nil_append,
      ← winnerFound_iff m hc, wonMails, hitem]
    dsimp only
    by_cases hfound : w.WinnerFound m a.bidder
    · rw [if_pos hfound, exists_carrying_mailTo_iff rfl]
      simp [hfound]
    · rw [if_neg hfound]
      refine iff_of_false ?_ fun h => hfound h.2
      rintro ⟨mail, hmail, -⟩
      cases hmail

theorem carrying_startup (env : AuctionEnv) (m : Moment) (guid : ℕ) (l : List AuctionEntry)
    (hu : ∀ g, u.getAItem g = none) :
    carrying guid (l.foldl (endAtStartup env m) u).mails = carrying guid u.mails ∧
      ∀ g, (l.foldl (endAtStartup env m) u).getAItem g = none := by
  refine foldl_invariant (fun v : AuctionWorld => carrying guid v.mails = carrying guid u.mails ∧
    ∀ g, v.getAItem g = none) (fun v a _ hv => ?_) ⟨rfl, hu⟩
  unfold endAtStartup
  cases hload : loadable env a with
  | none => exact hv
  | some row =>
    dsimp only
    rw [sendEndMails_eq]
    refine ⟨?_, hv.2⟩
    rw [mails_withMails, carrying_append, hv.1, endMails, expiredMails, wonMails]
    simp only [hv.2]
    split_ifs
    · exact List.append_nil _
    · rw [List.append_nil, successfulMails, carrying_mailIfExists_none rfl, List.append_nil]

theorem delivered_step_iff (hw : Custodial w) {op : Moment × Op}
    (hend : EndedBy w (AuctionWorld.step env w op) a)
    (howner : ∃ c, w.characters.find? a.owner = some c)
    (hbidder : a.bidder ≠ 0 → ∃ c, w.characters.find? a.bidder = some c) :
    Delivered w (AuctionWorld.step env w op) a.itemGuidlow (addressee op a) ↔
      Deliverable env op a := by
  have houtcome := step_outcome env w op
  generalize AuctionWorld.step env w op = w' at houtcome hend ⊢
  cases houtcome with
  | same =>
    obtain ⟨⟨h, ha⟩, hgone⟩ := hend
    rw [hgone h] at ha
    cases ha
  | post m player pkt seller house b item left nextItemGuid =>
    have hpaid := auctions_modifyMoney w player (-b.deposit)
    refine absurd hend (@not_ended_add w _ (w.modifyMoney player (-b.deposit)) house a b ?_ hpaid)
    rw [auctions_setInventory]
    rfl
  | raise m player pkt house b bidder =>
    have hpaid : ∃ u : AuctionWorld, u.auctions = w.auctions ∧
        w.raiseBid env m house b player pkt.price =
          u.addAuction house { b with bidder := player, bid := pkt.price } := by
      refine ⟨_, ?_, rfl⟩
      split_ifs
      · exact auctions_modifyMoney w _ _
      · rw [sendAuctionOutbiddedMail_eq, auctions_modifyMoney, auctions_withMails]
      · exact auctions_modifyMoney w _ _
    obtain ⟨u, hu, heq⟩ := hpaid
    exact absurd hend (not_ended_add (congrArg auctions heq) hu)
  | buyout m player pkt house b bidder honline hplayer hb =>
    obtain ⟨item, hitem⟩ := hw.held _ _ _ hb
    have hsame := ((SameGoods.refl w).modifyMoney player (-charge b player b.buyout)).withMails
      (w.buyOutMails env m b { b with bidder := player, bid := b.buyout } player)
    rw [buyOut_eq] at hend ⊢
    obtain rfl : a = b := ended_remove hw hsame hb (by rfl) hend
    have hcarrying := @carrying_buyOutMails w env m a { a with bidder := player, bid := a.buyout }
      item player bidder hplayer honline rfl hitem
    rw [hw.aItems_keyed _ _ hitem] at hcarrying
    rw [delivered_remove_iff (b := { a with bidder := player, bid := a.buyout }) hw hsame hb rfl
      (by rw [mails_withMails, mails_modifyMoney]), hcarrying, ← hw.aItems_keyed _ _ hitem]
    exact exists_carrying_mailTo_iff rfl
  | cancel m player pkt house b owner item honline hcharacter hb hplayer hitem =>
    rw [cancelAuction_eq] at hend ⊢
    have hpaid : SameGoods w
        (if 0 < b.bidder then w.modifyMoney player (-env.getAuctionCut b) else w) := by
      split_ifs
      · exact (SameGoods.refl w).modifyMoney _ _
      · exact SameGoods.refl w
    have hmails : (if 0 < b.bidder then w.modifyMoney player (-env.getAuctionCut b)
        else w).mails = w.mails := by
      split_ifs
      · exact mails_modifyMoney w _ _
      · rfl
    have hsame := hpaid.withMails (w.cancelMails env m b item player)
    obtain rfl := ended_remove hw hsame hb rfl hend
    have hrefund : carrying item.guid
        (if 0 < a.bidder then w.cancelledToBidderMails env m a else []) = [] := by
      split_ifs
      · exact carrying_mailIfExists_none rfl
      · rfl
    rw [delivered_remove_iff hw hsame hb rfl (by rw [mails_withMails, hmails]),
      ← hw.aItems_keyed _ _ hitem, cancelMails, carrying_append, hrefund, List.nil_append,
      ← hplayer]
    exact exists_carrying_mailTo_iff rfl
  | expire m house id stale b hb =>
    obtain ⟨item, hitem⟩ := hw.held _ _ _ hb
    rw [sendEndMails_eq] at hend ⊢
    have hsame := (SameGoods.refl w).withMails (w.endMails env m b)
    obtain rfl : a = b := ended_remove hw hsame hb rfl hend
    by_cases hstale : stale = a.itemGuidlow
    · subst hstale
      have hremove := delivered_remove_iff hw hsame hb rfl (mails_withMails _ _)
        (if a.bidder = 0 then a.owner else a.bidder)
      rw [← hw.aItems_keyed _ _ hitem, exists_carrying_endMails_iff hitem howner hbidder,
        hw.aItems_keyed _ _ hitem] at hremove
      exact hremove.trans (and_iff_right rfl).symm
    · refine iff_of_false ?_ fun h => hstale h.1
      rintro ⟨-, -, hgone⟩
      have hkept : (w.aItems.erase stale).find? a.itemGuidlow = none := hgone
      rw [find?_erase_of_ne _ (Ne.symm hstale)] at hkept
      rw [getAItem, hkept] at hitem
      cases hitem
  | startup m =>
    refine iff_of_false ?_ id
    rintro ⟨⟨mail, hmail, -⟩, -, -⟩
    obtain ⟨l, u, mails, -, hl, -, -, hfold, hu, -, -⟩ := startup_loaded w env m
    have hnone := (carrying_startup env m a.itemGuidlow (w.expiredRows m)
      (u := { w with auctions := fun _ => OrderedMap.empty, aItems := OrderedMap.empty })
      fun _ => rfl).1
    rw [hfold] at hnone
    rw [hl.mails, hu] at hmail
    have hlength := congrArg List.length (hnone.symm.trans hmail)
    simp at hlength

/-! ## Runs -/

theorem custodial_of_empty (hauctions : ∀ h, w.auctions h = OrderedMap.empty)
    (haItems : w.aItems = OrderedMap.empty)
    (hcarried : ∀ p c g i, w.characters.find? p = some c →
      c.inventory.getItemByGuid g = some i → g < w.nextItemGuid) : Custodial w := by
  have hnone : ∀ h id, (w.auctions h).find? id = none := fun h id => by rw [hauctions]; rfl
  have hno : ∀ g, w.getAItem g = none := fun g => by rw [getAItem, haItems]; rfl
  constructor
  · exact fun h id a ha => absurd (hnone h id) (by rw [ha]; simp)
  · exact fun h id a ha => absurd (hnone h id) (by rw [ha]; simp)
  · exact fun h _ id _ _ ha => absurd (hnone h id) (by rw [ha]; simp)
  · exact fun h id a ha => absurd (hnone h id) (by rw [ha]; simp)
  · exact fun h _ id _ _ _ ha => absurd (hnone h id) (by rw [ha]; simp)
  · exact fun g i hg => absurd (hno g) (by rw [hg]; simp)
  · exact fun g i hg => absurd (hno g) (by rw [hg]; simp)
  · exact hcarried

theorem Custodial.run (hw : Custodial w) (env : AuctionEnv) {ops : List (Moment × Op)}
    (hops : Admissible (AuctionWorld.step env) ReadsRight w ops) :
    Custodial (Commons.run (AuctionWorld.step env) w ops) :=
  run_invariant Custodial (fun _ _ hw hop => hw.step env hop) hw hops

/-- **Who gets the item, over every run.** After any history whose steps read the right number,
an auction that ends delivers its item, once and to the right receiver, exactly when it is
deliverable: it is cancelled or bought out, or its time is over while the server runs, the right
number is read, and a bidder is online or trades are logged; and the item is not for the bot's
character. -/
theorem delivered_iff {env : AuctionEnv} {ops : List (Moment × Op)} {op : Moment × Op}
    {a : AuctionEntry} (hw : Custodial w)
    (hops : Admissible (AuctionWorld.step env) ReadsRight w ops)
    (hend : EndedBy (Commons.run (AuctionWorld.step env) w ops)
      (Commons.run (AuctionWorld.step env) w (ops ++ [op])) a)
    (howner : ∃ c, (Commons.run (AuctionWorld.step env) w ops).characters.find? a.owner = some c)
    (hbidder : a.bidder ≠ 0 →
      ∃ c, (Commons.run (AuctionWorld.step env) w ops).characters.find? a.bidder = some c) :
    Delivered (Commons.run (AuctionWorld.step env) w ops)
        (Commons.run (AuctionWorld.step env) w (ops ++ [op])) a.itemGuidlow (addressee op a) ↔
      Deliverable env op a := by
  rw [run_append] at hend ⊢
  exact delivered_step_iff (hw.run env hops) hend howner hbidder

/-- A buyer with nothing but money. -/
def sampleBuyer : Character where
  toPlayer := ⟨9, 5000⟩
  account := 2
  inventory := Inventory.empty
  account_pos := by decide

/-- A seller and a buyer. -/
def tradeWorld : AuctionWorld :=
  { sampleWorld with characters := sampleWorld.characters.set 9 sampleBuyer }

theorem custodial_tradeWorld : Custodial tradeWorld := by
  refine custodial_of_empty (fun _ => rfl) rfl fun p c g i hc hg => ?_
  rw [tradeWorld, find?_set] at hc
  split_ifs at hc
  · cases hc
    cases hg
  · rw [sampleWorld, find?_set] at hc
    split_ifs at hc
    · cases hc
      rw [sampleSeller, Inventory.getItemByGuid, fiveOfOne, find?_set] at hg
      split_ifs at hg with hguid
      · rw [hguid]
        decide
      · cases hg
    · cases hc

/-- The stack of five is posted, and the buyer bids. -/
def postAndBid : List (Moment × Op) :=
  [(sampleMoment, .sellItem 7 ⟨50, [(1, 5)], 10, 0, 720⟩),
    (sampleMoment, .placeBid 9 ⟨50, 1, 20⟩)]

def bidAuction : AuctionEntry :=
  ⟨1, 50, 1, 10, 5, 7, 10, 20, 0, 44200, 9, 100, ⟨7, 0, 15, 15⟩⟩

/-- The auction's time is over, and the seller is online. -/
def timeOver (gmLogTrade : Bool) : Moment × Op :=
  (⟨fun guid => guid == 7, gmLogTrade, 44200⟩, .expire .neutral 1 1)

theorem ended_timeOver (gmLogTrade : Bool) :
    EndedBy (Commons.run (AuctionWorld.step sampleEnv) tradeWorld postAndBid)
      (Commons.run (AuctionWorld.step sampleEnv) tradeWorld
        (postAndBid ++ [timeOver gmLogTrade])) bidAuction := by
  refine ⟨⟨.neutral, by decide +kernel⟩, fun h => ?_⟩
  cases gmLogTrade <;> cases h <;> decide +kernel

/-- With trades logged the offline winner gets the item. -/
theorem delivered_iff_logged :
    Delivered (Commons.run (AuctionWorld.step sampleEnv) tradeWorld postAndBid)
      (Commons.run (AuctionWorld.step sampleEnv) tradeWorld
        (postAndBid ++ [timeOver true])) 1 9 := by
  have hops : Admissible (AuctionWorld.step sampleEnv) ReadsRight tradeWorld postAndBid :=
    ⟨trivial, trivial, trivial⟩
  refine (delivered_iff custodial_tradeWorld hops (ended_timeOver true)
    (Option.isSome_iff_exists.mp (by decide +kernel))
    fun _ => Option.isSome_iff_exists.mp (by decide +kernel)).mpr ⟨rfl, ?_⟩
  rw [if_neg (by decide)]
  exact ⟨by decide, .inr rfl⟩

/-- **An offline winner gets nothing** when trades are not logged. -/
theorem not_delivered_offline :
    ¬ ∀ (ops : List (Moment × Op)) (op : Moment × Op) (a : AuctionEntry),
      EndedBy (Commons.run (AuctionWorld.step sampleEnv) tradeWorld ops)
        (Commons.run (AuctionWorld.step sampleEnv) tradeWorld (ops ++ [op])) a →
      (∃ c, (Commons.run (AuctionWorld.step sampleEnv) tradeWorld ops).characters.find? a.owner =
        some c) →
      (a.bidder ≠ 0 → ∃ c, (Commons.run (AuctionWorld.step sampleEnv) tradeWorld
        ops).characters.find? a.bidder = some c) →
      Delivered (Commons.run (AuctionWorld.step sampleEnv) tradeWorld ops)
        (Commons.run (AuctionWorld.step sampleEnv) tradeWorld (ops ++ [op])) a.itemGuidlow
        (addressee op a) := by
  intro hall
  obtain ⟨⟨mail, hmail, -⟩, -, -⟩ := hall postAndBid (timeOver false) bidAuction
    (ended_timeOver false) (Option.isSome_iff_exists.mp (by decide +kernel))
    fun _ => Option.isSome_iff_exists.mp (by decide +kernel)
  have hnone : carrying 1 (Commons.run (AuctionWorld.step sampleEnv) tradeWorld
      (postAndBid ++ [timeOver false])).mails = [] := by decide +kernel
  rw [show bidAuction.itemGuidlow = 1 from rfl, hnone] at hmail
  exact absurd hmail (by simp)

end AuctionWorld

end TeraCore
