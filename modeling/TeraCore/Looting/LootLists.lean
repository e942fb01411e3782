import TeraCore.Looting.FillLoot

/-!
# Loot: the lists of the players

A list has an item once, and only items of its kind, whatever happened to the loot.  The window of
the client has 16 slots; the items and the quest items of a player together fit it when the list is
made, so a list of quest items has 16 entries at most.

## Main results

* `seated_of_run`: the lists are in order, in every run
-/

namespace TeraCore.Looting

open Commons

/-- The items that go on a list of this kind. -/
def Kind.fits (kind : Kind) (item : LootItem) : Bool :=
  match kind with
  | .quest => true
  | .freeforall => item.freeforall
  | .conditional => !item.freeforall && !item.conditions.isEmpty

theorem Kind.fits_core (kind : Kind) (item : LootItem) : kind.fits item.core = kind.fits item := by
  cases kind <;> rfl

namespace Loot

/-- **The lists are in order.** -/
structure Seated (l : Loot) : Prop where
  items : l.items.length ≤ MAX_NR_LOOT_ITEMS
  quest : ∀ p j q, l.entryAt .quest p j = some q → j < MAX_NR_LOOT_ITEMS
  fits : ∀ kind p j q, l.entryAt kind p j = some q → l.flag kind.fits kind.isQuest q.index = true
  position : ∀ kind p j j' q q', l.entryAt kind p j = some q → l.entryAt kind p j' = some q' →
    q.index = q'.index → j = j'

/-- **A change that leaves the items and the entries where they are.** -/
structure Leaves (l l' : Loot) : Prop where
  core : l'.core = l.core
  entry : ∀ kind p j, (l'.entryAt kind p j).map QuestItem.index =
    (l.entryAt kind p j).map QuestItem.index

variable {l l' : Loot} {w : World} {kind : Kind} {p i : ℕ} {group : Option LootGroup}

theorem Leaves.refl (l : Loot) : l.Leaves l := ⟨rfl, fun _ _ _ => rfl⟩

theorem Leaves.trans {l'' : Loot} (h : l.Leaves l') (h' : l'.Leaves l'') : l.Leaves l'' :=
  ⟨h'.core.trans h.core, fun kind p j => (h'.entry kind p j).trans (h.entry kind p j)⟩

theorem Leaves.entry_of {j : ℕ} {q : QuestItem} (h : l.Leaves l')
    (hq : l'.entryAt kind p j = some q) :
    ∃ q₀, l.entryAt kind p j = some q₀ ∧ q₀.index = q.index := by
  have hmap := h.entry kind p j
  rw [hq] at hmap
  exact Option.map_eq_some_iff.mp hmap.symm

theorem Seated.leaves (hl : l.Seated) (h : l.Leaves l') : l'.Seated := by
  have hflag : ∀ kind : Kind, l'.flag kind.fits = l.flag kind.fits :=
    fun kind => flag_of_core kind.fits_core h.core
  refine ⟨length_of_core h.core ▸ hl.items, fun p j q hq => ?_, fun kind p j q hq => ?_,
    fun kind p j j' q q' hq hq' hindex => ?_⟩
  · obtain ⟨q₀, hq₀, -⟩ := h.entry_of hq
    exact hl.quest p j q₀ hq₀
  · obtain ⟨q₀, hq₀, hindex⟩ := h.entry_of hq
    rw [hflag, ← hindex]
    exact hl.fits kind p j q₀ hq₀
  · obtain ⟨q₀, hq₀, h₀⟩ := h.entry_of hq
    obtain ⟨q₁, hq₁, h₁⟩ := h.entry_of hq'
    exact hl.position kind p j j' q₀ q₁ hq₀ hq₁ (h₀.trans (hindex.trans h₁.symm))

/-! ## What leaves the lists alone -/

theorem leaves_modifyItem (quest : Bool) (i : ℕ) {g : LootItem → LootItem}
    (hg : ∀ item, (g item).core = item.core) : l.Leaves (l.modifyItem quest i g) :=
  ⟨core_modifyItem l quest i g hg, fun kind p j => by rw [entryAt_modifyItem]⟩

theorem leaves_markEntry (kind : Kind) (p j : ℕ) : l.Leaves (l.markEntry kind p j) := by
  refine ⟨?_, fun kind' p' j' => ?_⟩
  · funext quest i
    rw [core, item?_markEntry]
    rfl
  · rw [entryAt_markEntry]
    split_ifs
    · rw [Option.map_map]
      rfl
    · rfl

theorem leaves_take (found : Found) (p : ℕ) : l.Leaves (l.take found p) := by
  have hloot : ∀ l₁ : Loot, l.Leaves l₁ → l.Leaves (if found.item.freeforall then l₁
      else l₁.lootItem found.quest found.index) := by
    intro l₁ h
    split_ifs
    · exact h
    · exact h.trans (leaves_modifyItem _ _ fun _ => rfl)
  have htaken : ∀ l₁ : Loot, l.Leaves l₁ → l.Leaves ((if found.item.freeforall then l₁
      else l₁.lootItem found.quest found.index).handOut found.quest found.index found.item p) :=
    fun l₁ h => ⟨(hloot l₁ h).core, (hloot l₁ h).entry⟩
  obtain ⟨quest, index, item, entry⟩ := found
  cases entry with
  | none => exact htaken l (.refl l)
  | some e => exact htaken _ (leaves_markEntry e.1 p e.2)

theorem leaves_storeLootItem (lootSlot : ℕ) (canStore : Bool) :
    l.Leaves (l.StoreLootItem p lootSlot canStore) := by
  unfold StoreLootItem
  split
  · exact .refl l
  · split_ifs
    · exact leaves_take _ p
    · exact .refl l

theorem leaves_step (e : Event) : l.Leaves (l.step e) := by
  cases e with
  | storeLootItem player lootSlot canStore => exact leaves_storeLootItem lootSlot canStore
  | masterGive r =>
    change l.Leaves (l.HandleLootMasterGive r)
    unfold HandleLootMasterGive
    split_ifs
    · exact .refl l
    · split
      · exact .refl l
      · split_ifs
        · exact .refl l
        · have hmodify := leaves_modifyItem (l := l) (l.rawSlot r.slotid).1 (l.rawSlot r.slotid).2
            (g := fun item => { item with count := 0, is_looted := true }) fun _ => rfl
          exact ⟨hmodify.core, hmodify.entry⟩
  | startRoll itemSlot =>
    change l.Leaves (l.startRoll itemSlot)
    unfold startRoll
    split
    · exact .refl l
    · split_ifs
      · exact .refl l
      · exact .refl l
      · have hmodify := leaves_modifyItem (l := l) (l.rawSlot itemSlot).1 (l.rawSlot itemSlot).2
          (g := fun item => { item with is_blocked := true }) fun _ => rfl
        exact ⟨hmodify.core, hmodify.entry⟩
  | countTheRoll itemSlot result =>
    change l.Leaves (l.CountTheRoll itemSlot result)
    have hrolls : l.Leaves { l with rolls := l.rolls.erase itemSlot } := ⟨rfl, fun _ _ _ => rfl⟩
    have hgiven := hrolls.trans (leaves_modifyItem (l.rawSlot itemSlot).1 (l.rawSlot itemSlot).2
      (g := fun item => { item with is_looted := true }) fun _ => rfl)
    have hunblocked := hrolls.trans (leaves_modifyItem (l.rawSlot itemSlot).1
      (l.rawSlot itemSlot).2 (g := fun item => { item with is_blocked := false }) fun _ => rfl)
    unfold CountTheRoll
    by_cases hroll : itemSlot ∉ l.rolls
    · rw [if_pos hroll]
      exact .refl l
    · rw [if_neg hroll]
      split
      · exact hrolls
      · cases result with
        | won player canStore =>
          dsimp only
          split_ifs
          · exact ⟨hgiven.core, hgiven.entry⟩
          · exact hunblocked
        | disenchanted player => exact ⟨hgiven.core, hgiven.entry⟩
        | winnerNotFound => exact hrolls
        | allPassed => exact hunblocked
  | takeMoney => exact ⟨rfl, fun _ _ _ => rfl⟩

/-! ## Filling -/

/-- **After some turns of a loop**: `s` is the loot and the player's list, which has items of its
kind that came before, in their order. -/
structure Seating (l₀ : Loot) (kind : Kind) (i : ℕ) (s : Loot × List QuestItem) : Prop where
  core : s.1.core = l₀.core
  lists : s.1.lists = l₀.lists
  below : ∀ e ∈ s.2, e.index < i
  ordered : (s.2.map QuestItem.index).Pairwise (· < ·)
  fits : ∀ e ∈ s.2, l₀.flag kind.fits kind.isQuest e.index = true
  room : kind = .quest → l₀.items.length + s.2.length ≤ MAX_NR_LOOT_ITEMS

variable {l₀ : Loot} {s : Loot × List QuestItem} {item : LootItem}

theorem Seating.skip (h : l₀.Seating kind i s) : l₀.Seating kind (i + 1) s :=
  { h with below := fun e he => Nat.lt_succ_of_lt (h.below e he) }

theorem Seating.offer (h : l₀.Seating kind i s) (quest : Bool) (item : LootItem)
    (counts blocks marks : Bool) :
    l₀.Seating kind (i + 1) (s.1.offer quest i item p counts blocks marks, s.2) :=
  { h.skip with core := (core_offer ..).trans h.core, lists := (lists_offer ..).trans h.lists }

theorem Seating.put (h : l₀.Seating kind i s) (hitem : s.1.item? kind.isQuest i = some item)
    (hfits : kind.fits item = true)
    (hroom : kind = .quest → l₀.items.length + s.2.length < MAX_NR_LOOT_ITEMS)
    (counts blocks marks : Bool) :
    l₀.Seating kind (i + 1)
      (s.1.offer kind.isQuest i item p counts blocks marks, s.2 ++ [⟨i, false⟩]) := by
  have hoffer := h.offer (p := p) kind.isQuest item counts blocks marks
  refine ⟨hoffer.core, hoffer.lists, ?_, ?_, ?_, ?_⟩
  · intro e he
    rcases List.mem_append.mp he with he | he
    · exact Nat.lt_succ_of_lt (h.below e he)
    · rw [List.mem_singleton.mp he]
      exact Nat.lt_succ_self i
  · rw [List.map_append]
    refine List.pairwise_append.mpr ⟨h.ordered, List.pairwise_singleton _ _, ?_⟩
    intro index hindex i' hi'
    obtain ⟨e, he, rfl⟩ := List.mem_map.mp hindex
    rw [List.mem_singleton.mp hi']
    exact h.below e he
  · intro e he
    rcases List.mem_append.mp he with he | he
    · exact h.fits e he
    · rw [List.mem_singleton.mp he, ← flag_of_core kind.fits_core h.core, flag_of_item? hitem]
      exact hfits
  · intro hquest
    rw [List.length_append, List.length_singleton]
    exact hroom hquest

/-- **The list is kept**, when the loop is over. -/
theorem Seating.seated (h : l₀.Seating kind i s) (hl : l₀.Seated)
    (hnone : (l₀.lists kind).find? p = none) : (s.1.keepList kind p s.2).Seated := by
  have hentry := entryAt_keepList (l := s.1) s.2 (show (s.1.lists kind).find? p = none by
    rw [h.lists]
    exact hnone)
  have hold : s.1.entryAt = l₀.entryAt := by
    funext kind p j
    rw [entryAt, entryAt, h.lists]
  have hflag : ∀ kind' : Kind, (s.1.keepList kind p s.2).flag kind'.fits = l₀.flag kind'.fits := by
    intro kind'
    rw [flag_keepList]
    exact flag_of_core kind'.fits_core h.core
  refine ⟨?_, fun p' j q hq => ?_, fun kind' p' j q hq => ?_,
    fun kind' p' j j' q q' hq hq' hindex => ?_⟩
  · rw [length_of_core ((core_keepList ..).trans h.core)]
    exact hl.items
  · rw [hentry, hold] at hq
    split_ifs at hq with hsame
    · have hroom := h.room hsame.1.symm
      exact (List.getElem?_eq_some_iff.mp hq).1.trans_le ((Nat.le_add_left _ _).trans hroom)
    · exact hl.quest p' j q hq
  · rw [hentry, hold] at hq
    rw [hflag]
    split_ifs at hq with hsame
    · rw [hsame.1]
      exact h.fits q (List.mem_of_getElem? hq)
    · exact hl.fits kind' p' j q hq
  · rw [hentry, hold] at hq hq'
    split_ifs at hq hq' with hsame
    · have hnodup : (s.2.map QuestItem.index).Nodup := h.ordered.imp Nat.ne_of_lt
      obtain ⟨hlt, -⟩ := List.getElem?_eq_some_iff.mp hq
      refine (List.getElem?_inj (by rwa [List.length_map]) hnodup).mp ?_
      rw [List.getElem?_map, List.getElem?_map, hq, hq', Option.map_some, Option.map_some, hindex]
    · exact hl.position kind' p' j j' q q' hq hq' hindex

theorem seating_start (hl : l.Seated) (kind : Kind) : l.Seating kind 0 (l, []) :=
  ⟨rfl, rfl, by simp, by simp, by simp, fun _ => hl.items⟩

theorem seated_loop (hl : l.Seated) (hnone : (l.lists kind).find? p = none)
    {turn : Loot × List QuestItem → ℕ → Loot × List QuestItem} (n : ℕ)
    (hturn : ∀ i s, l.Seating kind i s → l.Seating kind (i + 1) (turn s i)) :
    Seated (((List.range n).foldl turn (l, [])).1.keepList kind p
      ((List.range n).foldl turn (l, [])).2) :=
  (foldl_range_invariant (fun i s => l.Seating kind i s) hturn (seating_start hl kind) n).seated hl
    hnone

theorem seating_questTurn (h : l₀.Seating .quest i s) :
    l₀.Seating .quest (i + 1) (questTurn w group p s i) := by
  unfold questTurn
  cases hitem : s.1.item? true i with
  | none => exact h.skip
  | some item =>
    dsimp only
    split_ifs with hfull
    · exact h.skip
    · rw [length_of_core h.core] at hfull
      exact h.put hitem rfl (fun hkind => lt_of_le_of_ne (h.room hkind) hfull) _ _ _
    · exact h.skip

theorem seating_ffaTurn (h : l₀.Seating .freeforall i s) :
    l₀.Seating .freeforall (i + 1) (ffaTurn w p s i) := by
  unfold ffaTurn
  cases hitem : s.1.item? false i with
  | none => exact h.skip
  | some item =>
    dsimp only
    split_ifs with hshown
    · simp only [Bool.and_eq_true] at hshown
      exact h.put hitem hshown.1.2 nofun _ _ _
    · exact h.skip

theorem seating_conditionalTurn (h : l₀.Seating .conditional i s) :
    l₀.Seating .conditional (i + 1) (conditionalTurn w group p s i) := by
  unfold conditionalTurn
  cases hitem : s.1.item? false i with
  | none => exact h.skip
  | some item =>
    dsimp only
    split_ifs with hshown hconditions
    · exact h.offer _ _ _ _ _
    · simp only [Bool.and_eq_true] at hshown
      refine h.put hitem ?_ nofun _ _ _
      exact Bool.and_eq_true_iff.mpr ⟨hshown.1.2, by simpa using hconditions⟩
    · exact h.skip

theorem seated_unlessListed (fill : Loot → Loot) (hl : l.Seated)
    (hfill : (l.lists kind).find? p = none → (fill l).Seated) :
    (l.unlessListed kind p fill).Seated := by
  unfold unlessListed
  split_ifs with hlisted
  · exact hl
  · exact hfill (by simpa using hlisted)

/-- **The filling for one player** keeps the lists in order. -/
theorem seated_FillNotNormalLootFor (hl : l.Seated) (presentAtLooting : Bool) :
    (l.FillNotNormalLootFor w group p presentAtLooting).Seated := by
  have hquest : (l.unlessListed .quest p (FillQuestLoot w · group p)).Seated := by
    refine seated_unlessListed _ hl fun hnone => ?_
    unfold FillQuestLoot
    split_ifs
    · exact hl
    · exact seated_loop hl hnone _ fun i s h => seating_questTurn h
  have hffa := seated_unlessListed (FillFFALoot w · p) hquest
    fun hnone => seated_loop hquest hnone _ fun i s h => seating_ffaTurn h
  have hconditional := seated_unlessListed (FillNonQuestNonFFAConditionalLoot w · group p) hffa
    fun hnone => seated_loop hffa hnone _ fun i s h => seating_conditionalTurn h
  unfold FillNotNormalLootFor
  split_ifs
  · refine foldl_invariant Seated (fun l i _ hl => hl.leaves ?_) hconditional
    unfold currencyTurn
    split
    · exact .refl l
    · split_ifs
      · exact leaves_storeLootItem i _
      · exact .refl l
  · exact hconditional

theorem Seated.grow (hl : l.Seated) (hentry : l'.entryAt = l.entryAt)
    (hitems : l'.items.length ≤ MAX_NR_LOOT_ITEMS)
    (hslots : ∀ quest, l.slots quest <+: l'.slots quest) : l'.Seated := by
  refine ⟨hitems, hentry ▸ hl.quest, fun kind p j q hq => ?_, hentry ▸ hl.position⟩
  rw [hentry] at hq
  have hfits := hl.fits kind p j q hq
  unfold flag at hfits ⊢
  cases hitem : l.item? kind.isQuest q.index with
  | none =>
    rw [hitem] at hfits
    cases hfits
  | some item =>
    rw [hitem] at hfits
    obtain ⟨hlt, -⟩ := List.getElem?_eq_some_iff.mp hitem
    obtain ⟨added, hadded⟩ := hslots kind.isQuest
    have hsame : l'.item? kind.isQuest q.index = some item := by
      rw [item?, ← hadded, List.getElem?_append_left hlt]
      exact hitem
    rw [hsame]
    exact hfits

theorem seated_AddItem (hl : l.Seated) (li : LootStoreItem) : (l.AddItem w li).Seated := by
  have hentry : (l.AddItem w li).entryAt = l.entryAt := by
    funext kind p j
    unfold AddItem
    split_ifs <;> cases kind <;> rfl
  unfold AddItem at hentry ⊢
  by_cases hquest : li.needs_quest = true
  · rw [if_pos hquest] at hentry ⊢
    split_ifs at hentry ⊢
    · refine hl.grow hentry hl.items fun quest => ?_
      cases quest with
      | false => exact List.prefix_rfl
      | true => exact List.prefix_append _ _
    · exact hl
  · rw [if_neg hquest] at hentry ⊢
    by_cases hroom : l.items.length < MAX_NR_LOOT_ITEMS
    · rw [if_pos hroom] at hentry ⊢
      refine hl.grow hentry ?_ fun quest => ?_
      · rw [List.length_append, List.length_singleton]
        exact hroom
      · cases quest with
        | false => exact List.prefix_append _ _
        | true => exact List.prefix_rfl
    · rw [if_neg hroom]
      exact hl

theorem seated_FillLoot (hl : l.Seated) (drops : List LootStoreItem) (lootOwner : ℕ)
    (personal : Bool) : (l.FillLoot w drops lootOwner group personal).Seated := by
  have hadded : (drops.foldl (AddItem w) l).Seated :=
    foldl_invariant Seated (fun _ li _ hl => seated_AddItem hl li) hl
  exact foldl_invariant Seated (fun _ m _ hl => seated_FillNotNormalLootFor hl m.2) hadded

/-! ## Runs -/

/-- **What happens to loot**: it is filled, with what a table adds, or gets money; an event; or it
is cleared. -/
inductive Happening where
  | fill (w : World) (drops : List LootStoreItem) (lootOwner : ℕ) (group : Option LootGroup)
    (personal : Bool)
  | generateMoneyLoot (gold : ℕ)
  | event (e : Event)
  | clear

def happen (l : Loot) : Happening → Loot
  | .fill w drops lootOwner group personal => l.FillLoot w drops lootOwner group personal
  | .generateMoneyLoot gold => { l with gold := gold }
  | .event e => l.step e
  | .clear => .new 0

theorem seated_new (gold : ℕ) : (Loot.new gold).Seated := by
  have hnone : ∀ kind p j, (Loot.new gold).entryAt kind p j = none := by
    intro kind p j
    cases kind <;> rfl
  refine ⟨Nat.zero_le _, ?_, ?_, ?_⟩
  · intro p j q hq
    rw [hnone] at hq
    cases hq
  · intro kind p j q hq
    rw [hnone] at hq
    cases hq
  · intro kind p j j' q q' hq
    rw [hnone] at hq
    cases hq

theorem seated_of_run (gold : ℕ) (happenings : List Happening) :
    (run happen (.new gold) happenings).Seated := by
  refine foldl_invariant Seated (fun l h _ hl => ?_) (seated_new gold)
  cases h with
  | fill w drops lootOwner group personal => exact seated_FillLoot hl drops lootOwner personal
  | generateMoneyLoot gold => exact hl.leaves ⟨rfl, fun _ _ _ => rfl⟩
  | event e => exact hl.leaves (leaves_step e)
  | clear => exact seated_new 0

end Loot

end TeraCore.Looting
