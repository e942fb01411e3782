import TeraCore.Looting.LootLists

/-!
# Loot: the window

What a player is shown of loot: a record for each item that the player may see, first of the items
that are open to everyone, then of the three lists of the player.  A record has the slot that a
click sends back.  Quest items have the slots after all items.

The owner of the round and the items below the threshold of the group are given with the view.

## Main results

* `lootItemInSlot_entry`: what a player finds by an entry of a list
* `faithful_of_run`: the window is faithful, in every run
-/

namespace TeraCore.Looting

open Commons

inductive PermissionTypes where
  | ALL_PERMISSION | GROUP_PERMISSION | MASTER_PERMISSION | ROUND_ROBIN_PERMISSION
  | OWNER_PERMISSION | NONE_PERMISSION
deriving DecidableEq

inductive LootSlotType where
  | ALLOW_LOOT | ROLL_ONGOING | MASTER | LOCKED | OWNER
deriving DecidableEq

/-- **A view of loot**, and what it asks. -/
structure LootView where
  world : World
  loot : Loot
  viewer : ℕ
  permission : PermissionTypes
  roundRobinPlayer : ℕ
  is_underthreshold : ℕ → Bool

structure SlotRecord where
  slot : ℕ
  quest : Bool
  index : ℕ
  item : LootItem
  slotType : LootSlotType

/-- What is written: the gold, the count byte and the records. -/
structure LootWindow where
  gold : ℕ
  itemsShown : ℕ
  records : List SlotRecord

/-- The slot of an entry of a list. -/
def Loot.ownSlot (l : Loot) (kind : Kind) (j : ℕ) (q : QuestItem) : ℕ :=
  match kind with
  | .quest => l.items.length + j
  | .freeforall | .conditional => q.index

namespace LootView

variable (lv : LootView)

/-- The type of the slot of an item that is open to everyone, if it is shown. -/
def openSlotType (i : ℕ) (item : LootItem) : Option LootSlotType :=
  match lv.permission with
  | .GROUP_PERMISSION =>
    if item.is_blocked then some .ROLL_ONGOING
    else if lv.roundRobinPlayer = 0 ∨ !lv.is_underthreshold i ∨ lv.viewer = lv.roundRobinPlayer then
      some .ALLOW_LOOT
    else none
  | .ROUND_ROBIN_PERMISSION =>
    if lv.roundRobinPlayer ≠ 0 ∧ lv.viewer ≠ lv.roundRobinPlayer then none else some .ALLOW_LOOT
  | .MASTER_PERMISSION => some .MASTER
  | .OWNER_PERMISSION => some .OWNER
  | .ALL_PERMISSION => some .ALLOW_LOOT
  | .NONE_PERMISSION => none

/-- The record of an item that is open to everyone. -/
def openRecord (i : ℕ) : Option SlotRecord :=
  match lv.loot.item? false i with
  | none => none
  | some item =>
    if !item.is_looted && !item.freeforall && item.conditions.isEmpty &&
        item.AllowedForPlayer lv.world (lv.world.viewer lv.loot.granted lv.viewer) then
      (lv.openSlotType i item).map fun slotType => ⟨i % 2 ^ 8, false, i, item, slotType⟩
    else none

/-- `slotType` -/
def ownSlotType : LootSlotType :=
  if lv.permission = .OWNER_PERMISSION then .OWNER else .ALLOW_LOOT

/-- The type of the slot of an item that may follow the rules of the group. -/
def ruledSlotType (item : LootItem) : LootSlotType :=
  if item.follow_loot_rules then
    match lv.permission with
    | .MASTER_PERMISSION => .MASTER
    | .GROUP_PERMISSION | .ROUND_ROBIN_PERMISSION =>
      if !item.is_blocked then .ALLOW_LOOT else .ROLL_ONGOING
    | .ALL_PERMISSION | .OWNER_PERMISSION | .NONE_PERMISSION => lv.ownSlotType
  else lv.ownSlotType

/-- The record of an entry of a list of the player. -/
def ownRecord (kind : Kind) (ql : List QuestItem) (j : ℕ) : Option SlotRecord :=
  match ql[j]? with
  | none => none
  | some q =>
    match lv.loot.item? kind.isQuest q.index with
    | none => none
    | some item =>
      if !q.is_looted && !item.is_looted then
        let slotType := match kind with
          | .freeforall => lv.ownSlotType
          | .quest | .conditional => lv.ruledSlotType item
        some ⟨lv.loot.ownSlot kind j q % 2 ^ 8, kind.isQuest, q.index, item, slotType⟩
      else none

/-- The records of the items that are open to everyone. -/
def openRecords : List SlotRecord :=
  (List.range lv.loot.items.length).filterMap lv.openRecord

/-- The records of a list of the player. -/
def ownRecords (kind : Kind) : List SlotRecord :=
  match (lv.loot.lists kind).find? lv.viewer with
  | none => []
  | some ql => (List.range ql.length).filterMap (lv.ownRecord kind ql)

def records : List SlotRecord :=
  lv.openRecords ++ lv.ownRecords .quest ++ lv.ownRecords .freeforall ++ lv.ownRecords .conditional

/-- **What is written** for the viewer. -/
def window : LootWindow :=
  if lv.permission = .NONE_PERMISSION then ⟨0, 0, []⟩
  else ⟨lv.loot.gold, lv.records.length % 2 ^ 8, lv.records⟩

/-- **The window is faithful**: no slot is shown twice, the count byte is the number of the records,
and whoever clicks a slot gets the item that was written for it. -/
structure Faithful : Prop where
  slots : (lv.window.records.map SlotRecord.slot).Nodup
  count : lv.window.itemsShown = lv.window.records.length
  click : ∀ r ∈ lv.window.records, ∃ found, lv.loot.LootItemInSlot r.slot lv.viewer = some found ∧
    found.quest = r.quest ∧ found.index = r.index ∧ found.item = r.item

end LootView

namespace Loot

variable {l : Loot} {p : ℕ} {item : LootItem} {q : QuestItem}

/-! ## What a player finds -/

theorem ownEntry_of_entryAt (hl : l.Seated) {kind : Kind} {j : ℕ}
    (hq : l.entryAt kind p j = some q) : l.ownEntry kind p q.index = some (j, q) := by
  unfold entryAt at hq
  cases hlist : (l.lists kind).find? p with
  | none => simp [hlist] at hq
  | some ql =>
    simp only [hlist, Option.bind_some] at hq
    have hentry : ∀ {j' q'}, ql[j']? = some q' → l.entryAt kind p j' = some q' := by
      intro j' q' h
      simpa [entryAt, hlist] using h
    obtain ⟨hlt, hget⟩ := List.getElem?_eq_some_iff.mp hq
    have hfirst : ql.findIdx? (·.index == q.index) = some j := by
      refine List.findIdx?_eq_some_iff_getElem.mpr ⟨hlt, by simp [hget], fun j' hj' => ?_⟩
      have hne : ql[j'].index ≠ q.index := by
        intro hindex
        have heq := hl.position kind p j' j _ _ (hentry (List.getElem?_eq_getElem _)) (hentry hq)
          hindex
        omega
      simpa using hne
    simp [ownEntry, hlist, hfirst, hq]

theorem lootItemInSlot_open {i : ℕ} (hitem : l.item? false i = some item)
    (hlooted : item.is_looted = false) (hone : item.freeforall = false)
    (hconditions : item.conditions.isEmpty = true) :
    l.LootItemInSlot i p = some ⟨false, i, item, none⟩ := by
  have hlt : i < l.items.length := (List.getElem?_eq_some_iff.mp hitem).1
  simp [LootItemInSlot, not_le.mpr hlt, hitem, hone, hconditions, foundBy, hlooted]

/-- **An entry of a list** leads back to its item. -/
theorem lootItemInSlot_entry (hl : l.Seated) {kind : Kind} {j : ℕ}
    (hq : l.entryAt kind p j = some q) (hitem : l.item? kind.isQuest q.index = some item)
    (hfits : kind.fits item = true) (hlooted : q.is_looted = false) :
    l.LootItemInSlot (l.ownSlot kind j q) p =
      some ⟨kind.isQuest, q.index, item, some (kind, j)⟩ := by
  have hown := ownEntry_of_entryAt hl hq
  cases kind with
  | quest =>
    have hlist : ((l.PlayerQuestItems.find? p).getD [])[j]? = some q := by
      change (l.PlayerQuestItems.find? p).bind _ = _ at hq
      cases hfind : l.PlayerQuestItems.find? p with
      | none => simp [hfind] at hq
      | some ql => simpa [hfind] using hq
    have hitem' : l.item? true q.index = some item := hitem
    simp [LootItemInSlot, ownSlot, hlist, hlooted, hitem', Kind.isQuest]
  | freeforall =>
    have hitem' : l.item? false q.index = some item := hitem
    have hlt : q.index < l.items.length := (List.getElem?_eq_some_iff.mp hitem').1
    have hffa : item.freeforall = true := hfits
    simp [LootItemInSlot, ownSlot, not_le.mpr hlt, hitem', hffa, hown, foundBy, hlooted,
      Kind.isQuest]
  | conditional =>
    have hitem' : l.item? false q.index = some item := hitem
    have hlt : q.index < l.items.length := (List.getElem?_eq_some_iff.mp hitem').1
    obtain ⟨hone, hconditions⟩ := Bool.and_eq_true_iff.mp hfits
    rw [Bool.not_eq_true'] at hone hconditions
    simp [LootItemInSlot, ownSlot, not_le.mpr hlt, hitem', hone, hconditions, hown, foundBy,
      hlooted, Kind.isQuest]

end Loot

namespace LootView

variable {lv : LootView} {r r' : SlotRecord} {kind : Kind}

/-! ## Records -/

/-- **What is known of a record** of an item that is open to everyone. -/
structure IsOpen (lv : LootView) (r : SlotRecord) : Prop where
  slot : r.slot < lv.loot.items.length
  quest : r.quest = false
  index : r.index = r.slot
  item : lv.loot.item? false r.slot = some r.item
  looted : r.item.is_looted = false
  one : r.item.freeforall = false
  conditions : r.item.conditions.isEmpty = true

/-- **What is known of a record** of an entry of a list. -/
structure IsOwn (lv : LootView) (kind : Kind) (r : SlotRecord) (j : ℕ) (q : QuestItem) : Prop where
  entry : lv.loot.entryAt kind lv.viewer j = some q
  slot : r.slot = lv.loot.ownSlot kind j q
  quest : r.quest = kind.isQuest
  index : r.index = q.index
  item : lv.loot.item? kind.isQuest q.index = some r.item
  fits : kind.fits r.item = true
  looted : q.is_looted = false

section

variable (hl : lv.loot.Seated)
include hl

theorem isOpen_of_openRecord {i : ℕ} (h : lv.openRecord i = some r) : lv.IsOpen r ∧ r.slot = i := by
  unfold openRecord at h
  cases hitem : lv.loot.item? false i with
  | none => simp [hitem] at h
  | some item =>
    rw [hitem] at h
    dsimp only at h
    split_ifs at h with hshown
    obtain ⟨slotType, -, rfl⟩ := Option.map_eq_some_iff.mp h
    simp only [Bool.and_eq_true, Bool.not_eq_true'] at hshown
    obtain ⟨⟨⟨hlooted, hone⟩, hconditions⟩, -⟩ := hshown
    have hlt : i < lv.loot.items.length := (List.getElem?_eq_some_iff.mp hitem).1
    have hbyte : i % 2 ^ 8 = i := Nat.mod_eq_of_lt ((hlt.trans_le hl.items).trans (by decide))
    exact ⟨⟨hbyte.symm ▸ hlt, rfl, hbyte.symm, hbyte.symm ▸ hitem, hlooted, hone, hconditions⟩,
      hbyte⟩

theorem isOwn_of_ownRecord {ql : List QuestItem} {j : ℕ}
    (hlist : (lv.loot.lists kind).find? lv.viewer = some ql) (h : lv.ownRecord kind ql j = some r) :
    ∃ q, lv.IsOwn kind r j q := by
  unfold ownRecord at h
  cases hq : ql[j]? with
  | none => simp [hq] at h
  | some q =>
    cases hitem : lv.loot.item? kind.isQuest q.index with
    | none => simp [hq, hitem] at h
    | some item =>
      simp only [hq, hitem] at h
      split_ifs at h with hshown
      simp only [Bool.and_eq_true, Bool.not_eq_true'] at hshown
      have hentry : lv.loot.entryAt kind lv.viewer j = some q := by simp [Loot.entryAt, hlist, hq]
      have hfits := hl.fits kind lv.viewer j q hentry
      rw [Loot.flag_of_item? hitem] at hfits
      cases h
      refine ⟨q, hentry, Nat.mod_eq_of_lt ?_, rfl, rfl, hitem, hfits, hshown.1⟩
      have hitems : lv.loot.items.length ≤ 16 := hl.items
      cases kind with
      | quest =>
        have hj : j < 16 := hl.quest lv.viewer j q hentry
        simp only [Loot.ownSlot]
        omega
      | freeforall =>
        have hlt : q.index < lv.loot.items.length := (List.getElem?_eq_some_iff.mp hitem).1
        simp only [Loot.ownSlot]
        omega
      | conditional =>
        have hlt : q.index < lv.loot.items.length := (List.getElem?_eq_some_iff.mp hitem).1
        simp only [Loot.ownSlot]
        omega

theorem isOpen_of_mem (hr : r ∈ lv.openRecords) : lv.IsOpen r := by
  obtain ⟨i, -, h⟩ := List.mem_filterMap.mp hr
  exact (isOpen_of_openRecord hl h).1

theorem isOwn_of_mem (hr : r ∈ lv.ownRecords kind) : ∃ j q, lv.IsOwn kind r j q := by
  unfold ownRecords at hr
  cases hlist : (lv.loot.lists kind).find? lv.viewer with
  | none => simp [hlist] at hr
  | some ql =>
    rw [hlist] at hr
    obtain ⟨j, -, h⟩ := List.mem_filterMap.mp hr
    exact ⟨j, isOwn_of_ownRecord hl hlist h⟩

/-! ## Slots -/

theorem pairwise_openRecords : lv.openRecords.Pairwise fun r r' => r.slot ≠ r'.slot := by
  refine List.Pairwise.filterMap _ (fun i i' hne r hr r' hr' heq => hne ?_) List.nodup_range
  rw [← (isOpen_of_openRecord hl hr).2, ← (isOpen_of_openRecord hl hr').2]
  exact heq

theorem pairwise_ownRecords (kind : Kind) :
    (lv.ownRecords kind).Pairwise fun r r' => r.slot ≠ r'.slot := by
  unfold ownRecords
  cases hlist : (lv.loot.lists kind).find? lv.viewer with
  | none => exact List.Pairwise.nil
  | some ql =>
    refine List.Pairwise.filterMap _ (fun j j' hne r hr r' hr' heq => hne ?_) List.nodup_range
    obtain ⟨q, hq⟩ := isOwn_of_ownRecord hl hlist hr
    obtain ⟨q', hq'⟩ := isOwn_of_ownRecord hl hlist hr'
    rw [hq.slot, hq'.slot] at heq
    cases kind with
    | quest => exact Nat.add_left_cancel heq
    | freeforall => exact hl.position _ _ j j' q q' hq.entry hq'.entry heq
    | conditional => exact hl.position _ _ j j' q q' hq.entry hq'.entry heq

end

theorem IsOwn.item_slot {j : ℕ} {q : QuestItem} (h : lv.IsOwn kind r j q) (hkind : kind ≠ .quest) :
    lv.loot.item? false r.slot = some r.item := by
  have hitem := h.item
  rw [h.slot]
  cases kind with
  | quest => exact absurd rfl hkind
  | freeforall => exact hitem
  | conditional => exact hitem

theorem IsOwn.slot_ne {i j : ℕ} {q : QuestItem} {item : LootItem} (h : lv.IsOwn .quest r j q)
    (hitem : lv.loot.item? false i = some item) : i ≠ r.slot := by
  have hlt : i < lv.loot.items.length := (List.getElem?_eq_some_iff.mp hitem).1
  have hslot : r.slot = lv.loot.items.length + j := h.slot
  omega

theorem item_eq_of_slot (hr : lv.loot.item? false r.slot = some r.item)
    (hr' : lv.loot.item? false r'.slot = some r'.item) (heq : r.slot = r'.slot) :
    r.item = r'.item := by
  rw [heq, hr'] at hr
  exact (Option.some.inj hr).symm

/-- **The slots of the window** are told apart. -/
theorem pairwise_records (hl : lv.loot.Seated) :
    lv.records.Pairwise fun r r' => r.slot ≠ r'.slot := by
  simp only [records, List.pairwise_append, List.mem_append]
  refine ⟨⟨⟨pairwise_openRecords hl, pairwise_ownRecords hl _, ?_⟩, pairwise_ownRecords hl _, ?_⟩,
    pairwise_ownRecords hl _, ?_⟩
  · intro r hr r' hr'
    obtain ⟨j, q, hown⟩ := isOwn_of_mem hl hr'
    exact hown.slot_ne (isOpen_of_mem hl hr).item
  · intro r hr r' hr' heq
    obtain ⟨j', q', hown'⟩ := isOwn_of_mem hl hr'
    have hitem' := hown'.item_slot (by decide)
    have hffa : r'.item.freeforall = true := hown'.fits
    rcases hr with hr | hr
    · have hopen := isOpen_of_mem hl hr
      rw [← item_eq_of_slot hopen.item hitem' heq, hopen.one] at hffa
      cases hffa
    · obtain ⟨j, q, hown⟩ := isOwn_of_mem hl hr
      exact hown.slot_ne hitem' heq.symm
  · intro r hr r' hr' heq
    obtain ⟨j', q', hown'⟩ := isOwn_of_mem hl hr'
    have hitem' := hown'.item_slot (by decide)
    obtain ⟨hone, hconditions⟩ := Bool.and_eq_true_iff.mp hown'.fits
    rw [Bool.not_eq_true'] at hone hconditions
    rcases hr with (hr | hr) | hr
    · have hopen := isOpen_of_mem hl hr
      rw [← item_eq_of_slot hopen.item hitem' heq, hopen.conditions] at hconditions
      cases hconditions
    · obtain ⟨j, q, hown⟩ := isOwn_of_mem hl hr
      exact hown.slot_ne hitem' heq.symm
    · obtain ⟨j, q, hown⟩ := isOwn_of_mem hl hr
      have hffa : r.item.freeforall = true := hown.fits
      rw [item_eq_of_slot (hown.item_slot (by decide)) hitem' heq, hone] at hffa
      cases hffa

theorem click_of_mem (hl : lv.loot.Seated) (hr : r ∈ lv.records) :
    ∃ found, lv.loot.LootItemInSlot r.slot lv.viewer = some found ∧
      found.quest = r.quest ∧ found.index = r.index ∧ found.item = r.item := by
  have hown : ∀ kind, r ∈ lv.ownRecords kind →
      ∃ found, lv.loot.LootItemInSlot r.slot lv.viewer = some found ∧
        found.quest = r.quest ∧ found.index = r.index ∧ found.item = r.item := by
    intro kind hr
    obtain ⟨j, q, h⟩ := isOwn_of_mem hl hr
    refine ⟨⟨kind.isQuest, q.index, r.item, some (kind, j)⟩, ?_, h.quest.symm, h.index.symm, rfl⟩
    rw [h.slot]
    exact Loot.lootItemInSlot_entry hl h.entry h.item h.fits h.looted
  simp only [records, List.mem_append] at hr
  rcases hr with ((hr | hr) | hr) | hr
  · have hopen := isOpen_of_mem hl hr
    exact ⟨_, Loot.lootItemInSlot_open hopen.item hopen.looted hopen.one hopen.conditions,
      hopen.quest.symm, hopen.index.symm, rfl⟩
  · exact hown _ hr
  · exact hown _ hr
  · exact hown _ hr

theorem slot_lt_of_mem (hl : lv.loot.Seated) (hr : r ∈ lv.records) : r.slot < 32 := by
  have hitems : lv.loot.items.length ≤ 16 := hl.items
  have hown : ∀ kind, kind ≠ .quest → r ∈ lv.ownRecords kind → r.slot < 32 := by
    intro kind hkind hr
    obtain ⟨j, q, h⟩ := isOwn_of_mem hl hr
    have hlt := (List.getElem?_eq_some_iff.mp (h.item_slot hkind)).1
    exact (hlt.trans_le hitems).trans (by decide)
  simp only [records, List.mem_append] at hr
  rcases hr with ((hr | hr) | hr) | hr
  · exact ((isOpen_of_mem hl hr).slot.trans_le hitems).trans (by decide)
  · obtain ⟨j, q, h⟩ := isOwn_of_mem hl hr
    have hj : j < 16 := hl.quest lv.viewer j q h.entry
    have hslot : r.slot = lv.loot.items.length + j := h.slot
    omega
  · exact hown _ (by decide) hr
  · exact hown _ (by decide) hr

theorem length_records (hl : lv.loot.Seated) : lv.records.length < 2 ^ 8 := by
  have hnodup : (lv.records.map SlotRecord.slot).Nodup :=
    List.pairwise_map.mpr (pairwise_records hl)
  have hsubset : lv.records.map SlotRecord.slot ⊆ List.range 32 := by
    intro slot hslot
    obtain ⟨r, hr, rfl⟩ := List.mem_map.mp hslot
    exact List.mem_range.mpr (slot_lt_of_mem hl hr)
  have hlength := (List.subperm_of_subset hnodup hsubset).length_le
  rw [List.length_map, List.length_range] at hlength
  exact hlength.trans_lt (by decide)

theorem faithful_of_seated (hl : lv.loot.Seated) : lv.Faithful := by
  by_cases hnone : lv.permission = .NONE_PERMISSION
  · have hwindow : lv.window = ⟨0, 0, []⟩ := if_pos hnone
    refine ⟨?_, ?_, ?_⟩
    · rw [hwindow]
      exact List.nodup_nil
    · rw [hwindow]
      rfl
    · rw [hwindow]
      intro r hr
      cases hr
  · have hwindow : lv.window = ⟨lv.loot.gold, lv.records.length % 2 ^ 8, lv.records⟩ :=
      if_neg hnone
    refine ⟨?_, ?_, ?_⟩
    · rw [hwindow]
      exact List.pairwise_map.mpr (pairwise_records hl)
    · rw [hwindow]
      exact Nat.mod_eq_of_lt (length_records hl)
    · rw [hwindow]
      exact fun r hr => click_of_mem hl hr

/-- **The window is faithful**, for every viewer and permission, whatever happened to the loot. -/
theorem faithful_of_run (gold : ℕ) (happenings : List Loot.Happening) (world : World) (viewer : ℕ)
    (permission : PermissionTypes) (roundRobinPlayer : ℕ) (is_underthreshold : ℕ → Bool) :
    Faithful ⟨world, run Loot.happen (.new gold) happenings, viewer, permission, roundRobinPlayer,
      is_underthreshold⟩ :=
  faithful_of_seated (Loot.seated_of_run gold happenings)

end LootView

end TeraCore.Looting
