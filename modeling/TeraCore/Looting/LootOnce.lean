import TeraCore.Looting.FilledLoot

/-!
# Loot is handed out once

From loot that was filled, as long as no request hands out what was not offered or what was handed
out before, each pick-up is handed out once, and the counter is the number of those that are left.

The source does not keep to that.  A player's own entry for an item with conditions, or for a quest
item, is asked instead of the item's flag; a master looter may give what was taken; and quest items
are counted more than once in groups that roll or take turns.

## Main results

* `grantedOnce_of_run`: loot that was cleanly filled is handed out once by fair requests
-/

namespace TeraCore.Looting

open Commons

namespace Loot

variable (w : World) (group : Option LootGroup) {l l' : Loot} {p : ℕ} {shares : Bool}

/-! ## Filling for one player after another -/

theorem entryAt_of_find? {kind : Kind} (h : (l'.lists kind).find? p = (l.lists kind).find? p)
    (j : ℕ) : l'.entryAt kind p j = l.entryAt kind p j := by
  simp only [entryAt, h]

theorem find?_take_of_ne {found : Found} {p' : ℕ} (h : p' ≠ p) (kind : Kind) :
    ((l.take found p).lists kind).find? p' = (l.lists kind).find? p' := by
  have hmark : ∀ kind' j, ((l.markEntry kind' p j).lists kind).find? p' =
      (l.lists kind).find? p' := by
    intro kind' j
    unfold markEntry
    split
    · rfl
    · rw [find?_setList, if_neg (fun hall => h hall.2)]
  have hloot : ∀ l₀ : Loot, (l₀.lootItem found.quest found.index).lists kind = l₀.lists kind :=
    fun l₀ => lists_modifyItem l₀ _ _ _ kind
  have hout : ∀ l₀ : Loot, (l₀.handOut found.quest found.index found.item p).lists kind =
      l₀.lists kind := by
    intro l₀
    cases kind <;> rfl
  unfold take
  rw [hout]
  cases found.entry <;> cases found.item.freeforall
  · exact congrArg (OrderedMap.find? · p') (hloot _)
  · rfl
  · exact (congrArg (OrderedMap.find? · p') (hloot _)).trans (hmark _ _)
  · exact hmark _ _

theorem filling_FillNotNormalLootFor (hw : w.NeverWidens)
    (hl : l.Filling (sharesQuestItems group))
    (hnone : ∀ kind, (l.lists kind).find? p = none) (present : Bool) :
    (l.FillNotNormalLootFor w group p present).Filling (sharesQuestItems group) ∧
      ∀ kind p', p' ≠ p → ((l.FillNotNormalLootFor w group p present).lists kind).find? p' =
        (l.lists kind).find? p' := by
  obtain ⟨hl₁, hfills₁, hfresh⟩ := filling_FillQuestLoot w group hl (hnone .quest)
  have hnone₁ : ((l.FillQuestLoot w group p).lists .freeforall).find? p = none := by
    rw [hfills₁.lists .freeforall p (by simp)]
    exact hnone .freeforall
  obtain ⟨hl₂, hfills₂, hcomplete⟩ := filling_FillFFALoot w hl₁ hnone₁
  have hnone₂ : (((l.FillQuestLoot w group p).FillFFALoot w p).lists .conditional).find? p =
      none := by
    rw [hfills₂.lists .conditional p (by simp), hfills₁.lists .conditional p (by simp)]
    exact hnone .conditional
  obtain ⟨hl₃, hfills₃⟩ := filling_FillConditionalLoot w group hl₂ hnone₂
  set l₁ := l.FillQuestLoot w group p with hl₁def
  set l₂ := l₁.FillFFALoot w p with hl₂def
  set l₃ := l₂.FillNonQuestNonFFAConditionalLoot w group p with hl₃def
  have hothers : ∀ kind p', p' ≠ p → (l₃.lists kind).find? p' = (l.lists kind).find? p' := by
    intro kind p' hne
    rw [hfills₃.lists kind p' (fun h => hne h.2), hfills₂.lists kind p' (fun h => hne h.2),
      hfills₁.lists kind p' (fun h => hne h.2)]
  have hfilled : l.FillNotNormalLootFor w group p present =
      if present then (List.range (l₃.GetMaxSlotInLootFor p)).foldl (currencyTurn w p) l₃
      else l₃ := by
    simp only [FillNotNormalLootFor, unlessListed, hnone, ← hl₁def, hnone₁, ← hl₂def, hnone₂,
      ← hl₃def, Option.isSome_none, Bool.false_eq_true, if_false]
  rw [hfilled]
  split
  · have hstart : Collecting w (sharesQuestItems group) p l₃.granted l₃ := by
      refine ⟨hl₃, fun j q hq _ _ => ?_, fun i hi => ?_, [], rfl⟩
      · rw [entryAt_of_find? (hfills₃.lists .quest p (by simp)),
          entryAt_of_find? (hfills₂.lists .quest p (by simp))] at hq
        rw [hfills₃.looted, hfills₂.looted, hfills₁.looted]
        exact hfresh j q hq
      · rw [flag_of_core (fun _ => rfl) hfills₃.core, flag_of_core (fun _ => rfl) hfills₂.core,
          hfills₃.granted, hfills₂.granted] at hi
        obtain ⟨j, q, hq, hindex⟩ := hcomplete i hi
        refine ⟨j, q, ?_, hindex⟩
        rw [entryAt_of_find? (hfills₃.lists .freeforall p (by simp))]
        exact hq
    have hall := foldl_invariant
      (fun l₄ => Collecting w (sharesQuestItems group) p l₃.granted l₄ ∧
        ∀ kind p', p' ≠ p → (l₄.lists kind).find? p' = (l.lists kind).find? p')
      (l := List.range (l₃.GetMaxSlotInLootFor p))
      (fun l₄ slot _ hl₄ => by
        obtain ⟨h, hkeeps⟩ := hl₄
        refine ⟨collecting_currencyTurn hw h slot, fun kind p' hne => ?_⟩
        rw [← hkeeps kind p' hne]
        unfold currencyTurn
        cases l₄.item? (l₄.rawSlot slot).1 (l₄.rawSlot slot).2 with
        | none => rfl
        | some item =>
          dsimp only
          split
          · unfold StoreLootItem
            cases l₄.LootItemInSlot slot p with
            | none => rfl
            | some found =>
              dsimp only
              split
              · exact find?_take_of_ne hne kind
              · rfl
          · rfl)
      ⟨hstart, hothers⟩
    exact ⟨hall.1.filling, hall.2⟩
  · exact ⟨hl₃, hothers⟩

/-! ## What the loot table adds -/

/-- Loot to which items were added, and which nobody saw. -/
structure Unseen (l : Loot) : Prop where
  lists : ∀ kind p, (l.lists kind).find? p = none
  offered : l.offered = ∅
  granted : l.granted = []
  clean : ∀ quest, ∀ item ∈ l.slots quest,
    item.is_looted = false ∧ item.is_blocked = false ∧ item.is_counted = false
  count : l.unlootedCount = BitVec.ofNat 8 l.unoffered.card

theorem flag_eq_false {f : LootItem → Bool} {quest : Bool}
    (h : ∀ item ∈ l.slots quest, f item = false) (i : ℕ) : l.flag f quest i = false := by
  unfold flag
  cases hitem : l.item? quest i with
  | none => rfl
  | some item => exact h item (List.mem_of_getElem? hitem)

theorem Unseen.filling (h : l.Unseen) (shares : Bool) : l.Filling shares := by
  have hentry : ∀ kind p j q, l.entryAt kind p j ≠ some q := by
    intro kind p j q hq
    simp [entryAt, h.lists] at hq
  have hlooted : ∀ quest i, l.flag (·.is_looted) quest i = false :=
    fun quest => flag_eq_false fun item hitem => (h.clean quest item hitem).1
  have hblocked : ∀ i, l.flag (·.is_blocked) true i = false :=
    flag_eq_false fun item hitem => (h.clean true item hitem).2.1
  have hcounted : ∀ i, l.flag (·.is_counted) false i = false :=
    flag_eq_false fun item hitem => (h.clean false item hitem).2.2
  refine ⟨⟨?_, ?_, ?_, ?_, ?_, ?_, ?_, ?_⟩, ?_, ?_, ?_, ?_, ?_, .inl ?_⟩
  · exact fun kind p j q hq => absurd hq (hentry kind p j q)
  · exact fun p j q hq => absurd hq (hentry _ p j q)
  · exact fun p j q hq => absurd hq (hentry _ p j q)
  · exact fun kind p j q hq => absurd hq (hentry kind p j q)
  · simp [hlooted, h.granted]
  · exact fun kind p j j' q q' hq => absurd hq (hentry kind p j q)
  · simp [h.granted]
  · simp [h.granted]
  · simp [hcounted, h.offered]
  · simp [hblocked, h.offered]
  · simp [h.offered]
  · simp [h.offered]
  · exact fun quest i _ => hlooted quest i
  · rw [h.count]
    simp [owed, ungranted, h.offered]

theorem unseen_AddItem (h : l.Unseen) (li : LootStoreItem) : (l.AddItem w li).Unseen := by
  have hclean : ∀ items : List LootItem,
      (∀ item ∈ items, item.is_looted = false ∧ item.is_blocked = false ∧
        item.is_counted = false) →
      ∀ item ∈ items ++ [LootItem.ofStoreItem w li], item.is_looted = false ∧
        item.is_blocked = false ∧ item.is_counted = false := by
    intro items hitems item hitem
    rcases List.mem_append.mp hitem with hitem | hitem
    · exact hitems item hitem
    · rw [List.mem_singleton.mp hitem]
      exact ⟨rfl, rfl, rfl⟩
  have hlists : ∀ l' : Loot, l'.PlayerQuestItems = l.PlayerQuestItems →
      l'.PlayerFFAItems = l.PlayerFFAItems →
      l'.PlayerNonQuestNonFFAConditionalItems = l.PlayerNonQuestNonFFAConditionalItems →
      ∀ kind p, (l'.lists kind).find? p = none := by
    intro l' hquest hffa hcond kind
    cases kind with
    | quest =>
      rw [show l'.lists .quest = l.lists .quest from hquest]
      exact h.lists .quest
    | freeforall =>
      rw [show l'.lists .freeforall = l.lists .freeforall from hffa]
      exact h.lists .freeforall
    | conditional =>
      rw [show l'.lists .conditional = l.lists .conditional from hcond]
      exact h.lists .conditional
  unfold AddItem
  by_cases hquest : li.needs_quest = true
  · rw [if_pos hquest]
    split
    · refine ⟨hlists _ rfl rfl rfl, h.offered, h.granted, fun quest => ?_, h.count⟩
      cases quest
      · exact h.clean false
      · exact hclean _ (h.clean true)
    · exact h
  rw [if_neg hquest]
  by_cases hroom : l.items.length < MAX_NR_LOOT_ITEMS
  · rw [if_pos hroom]
    refine ⟨hlists _ rfl rfl rfl, h.offered, h.granted, fun quest => ?_, ?_⟩
    · cases quest
      · exact hclean _ (h.clean false)
      · exact h.clean true
    · -- the new item is the last one
      have hold : ∀ i ∈ Finset.range l.items.length,
          ((l.items ++ [LootItem.ofStoreItem w li])[i]?.any
            (fun item => item.conditions.isEmpty && !item.freeforall) = true) ↔
          (l.items[i]?.any (fun item => item.conditions.isEmpty && !item.freeforall) = true) := by
        intro i hi
        rw [List.getElem?_append_left (Finset.mem_range.mp hi)]
      have hunoffered : l.unoffered = (Finset.range l.items.length).filter fun i =>
          l.items[i]?.any (fun item => item.conditions.isEmpty && !item.freeforall) = true := by
        exact Finset.filter_congr fun i _ => and_iff_left (by simp [h.offered])
      have hlast : (l.items ++ [LootItem.ofStoreItem w li])[l.items.length]? =
          some (LootItem.ofStoreItem w li) := by simp
      have hnew : ∀ count, (Loot.unoffered { l with
          items := l.items ++ [LootItem.ofStoreItem w li]
          unlootedCount := count }) =
          if (li.conditions.isEmpty && !(w.template li.itemid).any (·.partyLoot)) = true then
            insert l.items.length l.unoffered
          else l.unoffered := by
        intro count
        rw [hunoffered]
        refine (Finset.filter_congr fun i _ => and_iff_left (by simp [h.offered])).trans ?_
        change (Finset.range (l.items ++ [LootItem.ofStoreItem w li]).length).filter (fun i =>
          (l.items ++ [LootItem.ofStoreItem w li])[i]?.any _ = true) = _
        rw [List.length_append, List.length_singleton, Finset.range_add_one, Finset.filter_insert,
          Finset.filter_congr hold, hlast]
        rfl
      rw [hnew]
      by_cases hfree : (li.conditions.isEmpty && !(w.template li.itemid).any (·.partyLoot)) = true
      · rw [if_pos hfree, if_pos hfree, Finset.card_insert_of_notMem (by simp [unoffered]),
          BitVec.ofNat_add, h.count]
        rfl
      · rw [if_neg hfree, if_neg hfree, h.count]
  · rw [if_neg hroom]
    exact h

theorem filling_FillLoot (hw : w.NeverWidens) (gold : ℕ) (drops : List LootStoreItem)
    (lootOwner : ℕ) (personal : Bool) :
    ((Loot.new gold).FillLoot w drops lootOwner group personal).Filling
      (sharesQuestItems group) := by
  have hunseen : (drops.foldl (AddItem w) (Loot.new gold)).Unseen := by
    refine foldl_invariant Unseen (fun l li _ h => unseen_AddItem w h li) ?_
    refine ⟨fun kind p => ?_, rfl, rfl, fun quest => ?_, rfl⟩
    · cases kind <;> rfl
    · cases quest <;> simp [slots, Loot.new]
  have hnodup : ((lootersOf lootOwner group personal).map Prod.fst).Nodup := by
    unfold lootersOf
    cases group with
    | none => simp
    | some g =>
      dsimp only
      split
      · simp
      · exact g.nodup
  suffices hall : ∀ (ms : List (ℕ × Bool)) (l : Loot), (ms.map Prod.fst).Nodup →
      l.Filling (sharesQuestItems group) → (∀ m ∈ ms, ∀ kind, (l.lists kind).find? m.1 = none) →
      (ms.foldl (fun l m => l.FillNotNormalLootFor w group m.1 m.2) l).Filling
        (sharesQuestItems group) from
    hall _ _ hnodup (hunseen.filling _) fun m _ kind => hunseen.lists kind m.1
  intro ms
  induction ms with
  | nil => exact fun l _ hl _ => hl
  | cons m ms ih =>
    intro l hms hl hnone
    rw [List.map_cons, List.nodup_cons] at hms
    obtain ⟨hfilling, hkeeps⟩ := filling_FillNotNormalLootFor w group hw hl
      (hnone m List.mem_cons_self) m.2
    refine ih _ hms.2 hfilling fun m' hm' kind => ?_
    have hne : m'.1 ≠ m.1 := fun heq => hms.1 (heq ▸ List.mem_map_of_mem hm')
    rw [hkeeps kind m'.1 hne]
    exact hnone m' (List.mem_cons_of_mem _ hm') kind

/-! ## After the filling -/

/-- **The filling counted each pick-up once.** -/
structure CleanlyFilled (w : World) (group : Option LootGroup) (l : Loot) : Prop where
  neverWidens : w.NeverWidens
  /-- What anybody may take was offered to somebody. -/
  everybody : l.unoffered = ∅
  /-- In a group that rolls or takes turns, a quest item for one player is on one list. -/
  single : sharesQuestItems group = true → ¬l.Doubled
  fits : l.offered.card < 2 ^ 8

def RollResult.handsOut : RollResult → Bool
  | .won _ canStore => canStore
  | .disenchanted _ => true
  | .winnerNotFound => false
  | .allPassed => false

/-- The target can get the item. -/
def MasterGive.handsOut (r : MasterGive) (item : LootItem) : Bool :=
  r.isLooter && r.targetFound && r.isLooting && r.canStore &&
    !(item.follow_loot_rules && !r.allowed)

/-- **Fair requests**: what they hand out was offered, and is still there. -/
def Fair (l : Loot) : Event → Prop
  | .storeLootItem player lootSlot canStore => canStore = true →
    ∀ found ∈ l.LootItemInSlot lootSlot player, found.isFree = true → l.FairlyFound found
  | .masterGive r => ∀ item ∈ l.item? (l.rawSlot r.slotid).1 (l.rawSlot r.slotid).2,
    r.handsOut item = true → l.FairItem (l.rawSlot r.slotid).1 (l.rawSlot r.slotid).2 item
  | .countTheRoll itemSlot result => itemSlot ∈ l.rolls → result.handsOut = true →
    ∀ item ∈ l.item? (l.rawSlot itemSlot).1 (l.rawSlot itemSlot).2,
      l.FairItem (l.rawSlot itemSlot).1 (l.rawSlot itemSlot).2 item
  | .startRoll _ => True
  | .takeMoney => True

instance (l : Loot) : ∀ e, Decidable (l.Fair e) := by
  intro e
  cases e <;> dsimp only [Fair] <;> infer_instance

/-- **Handed out once**: no pick-up was handed out twice, and the counter is the number of those
that are left. -/
structure GrantedOnce (l : Loot) : Prop where
  once : l.granted.Nodup
  counted : l.unlootedCount.toNat = l.ungranted.card
  looted : l.isLooted = true ↔ l.gold = 0 ∧ l.ungranted = ∅

/-- The books of loot that was filled. -/
structure Accounted (l : Loot) : Prop where
  books : l.Books
  everybody : l.unoffered = ∅
  fits : l.offered.card < 2 ^ 8
  counted : l.unlootedCount = BitVec.ofNat 8 l.ungranted.card

section

variable (h : l.Accounted)
include h

theorem Accounted.toNat : l.unlootedCount.toNat = l.ungranted.card := by
  have hle : l.ungranted.card ≤ l.offered.card := Finset.card_le_card Finset.sdiff_subset
  rw [h.counted, BitVec.toNat_ofNat]
  exact Nat.mod_eq_of_lt (Nat.lt_of_le_of_lt hle h.fits)

theorem Accounted.grantedOnce : l.GrantedOnce where
  once := h.books.granted_nodup
  counted := h.toNat
  looted := by
    have hzero : l.unlootedCount = 0 ↔ l.ungranted = ∅ := by
      rw [← Finset.card_eq_zero, ← h.toNat]
      exact ⟨fun heq => by rw [heq]; rfl, fun heq => BitVec.eq_of_toNat_eq heq⟩
    simp only [isLooted, Bool.and_eq_true, beq_iff_eq, hzero]

theorem Accounted.congr (hcore : l'.core = l.core)
    (hlooted : l'.flag (·.is_looted) = l.flag (·.is_looted)) (hentry : l'.entryAt = l.entryAt)
    (hoffered : l'.offered = l.offered) (hgranted : l'.granted = l.granted)
    (hcount : l'.unlootedCount = l.unlootedCount) : l'.Accounted where
  books := h.books.congr hcore hlooted hentry hoffered.symm.subset hgranted
  everybody := (unoffered_of_core hcore hoffered).trans h.everybody
  fits := hoffered ▸ h.fits
  counted := by
    rw [hcount, ungranted, hoffered, hgranted]
    exact h.counted

theorem Accounted.handsOut {quest : Bool} {i : ℕ} (hout : l.HandsOut l' quest i p)
    (hpick : l.pick quest i p ∈ l.offered ∧ l.pick quest i p ∉ l.granted) : l'.Accounted where
  books := h.books.handsOut hout hpick.1 hpick.2
  everybody := (unoffered_of_core hout.core hout.offered).trans h.everybody
  fits := hout.offered ▸ h.fits
  counted := by
    have howed := hout.owed hpick.1 hpick.2
    simp only [owed, unoffered_of_core hout.core hout.offered, h.everybody, Finset.card_empty,
      Nat.add_zero] at howed
    rw [hout.count, h.counted, ← howed, BitVec.ofNat_add]
    exact BitVec.add_sub_cancel _ _

theorem Accounted.modifyItem (quest : Bool) (i : ℕ) {g : LootItem → LootItem}
    (hcore : ∀ item, (g item).core = item.core)
    (hlooted : ∀ item, (g item).is_looted = item.is_looted) :
    (l.modifyItem quest i g).Accounted :=
  h.congr (core_modifyItem l quest i g hcore) (flag_modifyItem_of l quest i g hlooted) (by simp)
    (by simp) (by simp) (by simp)

theorem Accounted.setRolls (rolls : List ℕ) : Accounted { l with rolls := rolls } :=
  h.congr rfl rfl (funext fun kind => by cases kind <;> rfl) rfl rfl rfl

theorem accounted_storeLootItem {lootSlot : ℕ} {canStore : Bool}
    (hfair : l.Fair (.storeLootItem p lootSlot canStore)) :
    (l.StoreLootItem p lootSlot canStore).Accounted := by
  unfold StoreLootItem
  cases hfound : l.LootItemInSlot lootSlot p with
  | none => exact h
  | some found =>
    dsimp only
    split_ifs with hgoes
    · rw [Bool.and_eq_true] at hgoes
      have hspec := lootItemInSlot_spec hfound
      have hfairly := hfair hgoes.2 found hfound hgoes.1
      exact h.handsOut (handsOut_take h.books hspec hfairly)
        (fairlyFound_pick h.books hspec hfairly)
    · exact h

theorem accounted_masterGive {r : MasterGive} (hfair : l.Fair (.masterGive r)) :
    (l.HandleLootMasterGive r).Accounted := by
  unfold HandleLootMasterGive
  split_ifs with hasked
  · exact h
  cases hitem : l.item? (l.rawSlot r.slotid).1 (l.rawSlot r.slotid).2 with
  | none => exact h
  | some item =>
    dsimp only
    split_ifs with hcannot
    · exact h
    · have hgoes : r.handsOut item = true := by
        unfold MasterGive.handsOut
        cases hfollow : item.follow_loot_rules <;> simp_all
      have hfairItem := hfair item hitem hgoes
      exact h.handsOut (handsOut_modifyItem
          (g := fun item => { item with count := 0, is_looted := true }) hitem hfairItem.1
          (fun _ => rfl) (fun _ => rfl) r.target)
        (fairItem_pick h.books hitem hfairItem r.target)

theorem accounted_startRoll (itemSlot : ℕ) : (l.startRoll itemSlot).Accounted := by
  unfold startRoll
  cases l.item? (l.rawSlot itemSlot).1 (l.rawSlot itemSlot).2 with
  | none => exact h
  | some item =>
    dsimp only
    split_ifs
    · exact h
    · exact h
    · exact (h.modifyItem (l.rawSlot itemSlot).1 (l.rawSlot itemSlot).2
        (g := fun item => { item with is_blocked := true }) (fun _ => rfl)
        (fun _ => rfl)).setRolls _

theorem accounted_countTheRoll {itemSlot : ℕ} {result : RollResult}
    (hfair : l.Fair (.countTheRoll itemSlot result)) :
    (l.CountTheRoll itemSlot result).Accounted := by
  unfold CountTheRoll
  by_cases hrolls : itemSlot ∈ l.rolls
  case neg =>
    rw [if_pos hrolls]
    exact h
  rw [if_neg (not_not.mpr hrolls)]
  have h' := h.setRolls (l.rolls.erase itemSlot)
  cases hitem : l.item? (l.rawSlot itemSlot).1 (l.rawSlot itemSlot).2 with
  | none => exact h'
  | some item =>
    have hgiven : result.handsOut = true → ∀ player, ((Loot.lootItem
        { l with rolls := l.rolls.erase itemSlot } (l.rawSlot itemSlot).1
          (l.rawSlot itemSlot).2).handOut (l.rawSlot itemSlot).1 (l.rawSlot itemSlot).2 item
            player).Accounted := by
      intro hgoes player
      have hfairItem := hfair hrolls hgoes item hitem
      have hitem' : Loot.item? { l with rolls := l.rolls.erase itemSlot } (l.rawSlot itemSlot).1
          (l.rawSlot itemSlot).2 = some item := hitem
      exact h'.handsOut (handsOut_modifyItem (g := fun item => { item with is_looted := true })
          hitem' hfairItem.1 (fun _ => rfl) (fun _ => rfl) player)
        (fairItem_pick h'.books hitem' hfairItem player)
    have hunblocked := h'.modifyItem (l.rawSlot itemSlot).1 (l.rawSlot itemSlot).2
      (g := fun item => { item with is_blocked := false }) (fun _ => rfl) (fun _ => rfl)
    cases result with
    | won player canStore =>
      cases canStore
      · exact hunblocked
      · exact hgiven rfl player
    | disenchanted player => exact hgiven rfl player
    | winnerNotFound => exact h'
    | allPassed => exact hunblocked

/-- **A step keeps the books right.** -/
theorem accounted_step (e : Event) (hfair : l.Fair e) : (l.step e).Accounted := by
  cases e with
  | storeLootItem player lootSlot canStore => exact accounted_storeLootItem h hfair
  | masterGive r => exact accounted_masterGive h hfair
  | startRoll itemSlot => exact accounted_startRoll h itemSlot
  | countTheRoll itemSlot result => exact accounted_countTheRoll h hfair
  | takeMoney => exact h.congr rfl rfl (funext fun kind => by cases kind <;> rfl) rfl rfl rfl

end

/-- **Loot is handed out once**: from loot that was cleanly filled, by fair requests. -/
theorem grantedOnce_of_run (gold : ℕ) (drops : List LootStoreItem) (lootOwner : ℕ)
    (personal : Bool)
    (h : CleanlyFilled w group ((Loot.new gold).FillLoot w drops lootOwner group personal))
    {events : List Event} (hfair : Admissible step Fair
      ((Loot.new gold).FillLoot w drops lootOwner group personal) events) :
    (run step ((Loot.new gold).FillLoot w drops lootOwner group personal) events).GrantedOnce := by
  have hfilling := filling_FillLoot w group h.neverWidens gold drops lootOwner personal
  have hstart : Accounted ((Loot.new gold).FillLoot w drops lootOwner group personal) := by
    refine ⟨hfilling.books, h.everybody, h.fits, ?_⟩
    rcases hfilling.count with hcount | ⟨hshares, hdoubled⟩
    · simpa only [owed, h.everybody, Finset.card_empty, Nat.add_zero] using hcount
    · exact absurd hdoubled (h.single hshares)
  exact (run_invariant Accounted (fun l e h hfair => accounted_step h e hfair) hstart
    hfair).grantedOnce

/-! ## Two kills -/

section examples

/-- The items: 1 is for one player, 2 for everybody, 3 is a token for everybody. -/
def exampleWorld : World where
  template itemid := some
    { partyLoot := 2 ≤ itemid, smartLoot := false, RequiredSkill := 0, taughtSpell := 0,
      hordeOnly := false, allianceOnly := false, StartQuest := 0, ignoreQuestStatus := false,
      followLootRules := false, isCurrencyToken := itemid == 3 }
  viewer _ _ :=
    { meetsConditions := fun _ => true, HasSkill := fun _ => true, HasSpell := fun _ => false,
      isHorde := true, isAlliance := false, questIsNew := fun _ => true,
      HasQuestForItem := fun _ => true }
  canStoreNewItem _ _ _ := true

def exampleGroup : LootGroup where
  method := .MASTER_LOOT
  looterGuid := 7
  members := [(7, true), (8, true)]
  nodup := by decide

/-- An item for one player, one with a condition, one for everybody, a token, and a quest item. -/
def exampleDrops : List LootStoreItem :=
  [⟨1, [], false, 1⟩, ⟨1, [5], false, 1⟩, ⟨2, [], false, 1⟩, ⟨3, [], false, 1⟩, ⟨1, [], true, 1⟩]

def exampleLoot : Loot :=
  (Loot.new 10).FillLoot exampleWorld exampleDrops 7 (some exampleGroup) false

/-- Both take what is for everybody, one the item with the condition, and the master looter gives
the first item and the quest item. -/
def exampleEvents : List Event :=
  [.storeLootItem 7 2 true, .storeLootItem 8 2 true, .storeLootItem 8 2 true,
    .storeLootItem 8 1 true, .masterGive ⟨true, true, true, 0, 8, true, true⟩,
    .masterGive ⟨true, true, true, 4, 7, true, true⟩, .takeMoney]

theorem grantedOnce_of_run_raid : (run step exampleLoot exampleEvents).GrantedOnce := by
  have hwidens : exampleWorld.NeverWidens := fun _ _ _ _ _ _ h => h
  have heverybody : exampleLoot.unoffered = ∅ := by decide +kernel
  have hfits : exampleLoot.offered.card < 2 ^ 8 := by decide +kernel
  have hfair : Admissible step Fair exampleLoot exampleEvents := by decide +kernel
  exact grantedOnce_of_run exampleWorld (some exampleGroup) 10 exampleDrops 7 false
    ⟨hwidens, heverybody, nofun, hfits⟩ hfair

/-- **The master looter gives away what was taken**: a player has the only item of the loot, another
player gets it once more, and the counter wraps. -/
theorem given_after_taken :
    ¬(run step ((Loot.new 0).FillLoot exampleWorld [⟨1, [], false, 1⟩] 7 (some exampleGroup) false)
      [.storeLootItem 7 0 true, .masterGive ⟨true, true, true, 0, 8, true, true⟩]).GrantedOnce := by
  intro h
  have htwice : (run step
      ((Loot.new 0).FillLoot exampleWorld [⟨1, [], false, 1⟩] 7 (some exampleGroup) false)
      [.storeLootItem 7 0 true, .masterGive ⟨true, true, true, 0, 8, true, true⟩]).granted =
        [⟨false, 0, none⟩, ⟨false, 0, none⟩] := by decide +kernel
  have honce := h.once
  rw [htwice] at honce
  simp at honce

end examples

end Loot

end TeraCore.Looting
