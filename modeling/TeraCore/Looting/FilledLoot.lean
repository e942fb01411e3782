import TeraCore.Looting.FillLoot

/-!
# Filled loot

Loot is filled for one player after another.  Those that are near get their currency items at
once.  What such a player is given is on the player's own lists, which were just made: so it was
offered, and nobody else took it in between.

## Main results

* `filling_FillLoot`: the counter of loot that was filled
-/

namespace TeraCore.Looting

open Commons

/-- What a player may see of free-for-all currency items does not grow with what was handed out. -/
def World.NeverWidens (w : World) : Prop :=
  ∀ (item : LootItem) (player : ℕ) (new old : List PickUp),
    item.freeforall = true → (w.template item.itemid).any (·.isCurrencyToken) = true →
      item.AllowedForPlayer w (w.viewer (new ++ old) player) = true →
        item.AllowedForPlayer w (w.viewer old player) = true

namespace Loot

variable {l l' : Loot} {kind : Kind} {p i : ℕ} {shares : Bool}

/-! ## The three fillings -/

section fillings

variable (w : World) (group : Option LootGroup)

theorem filling_FillQuestLoot (hl : l.Filling (sharesQuestItems group))
    (hnone : (l.lists .quest).find? p = none) :
    (l.FillQuestLoot w group p).Filling (sharesQuestItems group) ∧
      l.Fills (l.FillQuestLoot w group p) .quest p ∧
      ∀ j q, (l.FillQuestLoot w group p).entryAt .quest p j = some q →
        l.flag (·.is_looted) true q.index = false := by
  unfold FillQuestLoot
  split
  · refine ⟨hl, ⟨rfl, rfl, rfl, fun _ _ _ => rfl⟩, fun j q hq => ?_⟩
    simp [entryAt, hnone] at hq
  · have hturning := foldl_range_invariant (f := questTurn w group p)
      (l.Turning (sharesQuestItems group) .quest p)
      (fun i s h => turning_questTurn w group hnone h) (.start hl) l.quest_items.length
    refine ⟨hturning.filling, hturning.fills, fun j q hq => ?_⟩
    rw [entryAt_keepList _ (hturning.find?_eq_none hnone), if_pos ⟨rfl, rfl⟩] at hq
    exact hturning.unlooted q (List.mem_of_getElem? hq)

theorem filling_FillFFALoot (hl : l.Filling shares) (hnone : (l.lists .freeforall).find? p = none) :
    (l.FillFFALoot w p).Filling shares ∧ l.Fills (l.FillFFALoot w p) .freeforall p ∧
      ∀ i, l.flag (fun item => item.freeforall &&
          item.AllowedForPlayer w (w.viewer l.granted p)) false i = true →
        (l.FillFFALoot w p).Listed .freeforall p i := by
  let shown := l.flag fun item =>
    item.freeforall && item.AllowedForPlayer w (w.viewer l.granted p)
  obtain ⟨hturning, hshown⟩ := foldl_range_invariant (f := ffaTurn w p)
    (fun i s => l.Turning shares .freeforall p i s ∧
      ∀ i' < i, shown false i' = true → ∃ e ∈ s.2, e.index = i')
    (fun i s hs => by
      obtain ⟨h, hall⟩ := hs
      refine ⟨turning_ffaTurn w hnone h, fun i' hi' hshown => ?_⟩
      have hgrows : ∀ e ∈ s.2, e ∈ (ffaTurn w p s i).2 := by
        intro e he
        unfold ffaTurn
        cases s.1.item? false i with
        | none => exact he
        | some item =>
          dsimp only
          split
          · exact List.mem_append_left _ he
          · exact he
      rcases Nat.lt_succ_iff_lt_or_eq.mp hi' with hlt | rfl
      · obtain ⟨e, he, hindex⟩ := hall i' hlt hshown
        exact ⟨e, hgrows e he, hindex⟩
      · have hflag : s.1.flag (fun item => item.freeforall &&
            item.AllowedForPlayer w (w.viewer l.granted p)) false i' = true := by
          rw [flag_of_core (fun _ => rfl) h.core]
          exact hshown
        cases hitem : s.1.item? false i' with
        | none => simp [flag, hitem] at hflag
        | some item =>
          rw [flag_of_item? hitem] at hflag
          have hfree := (Bool.and_eq_true _ _ ▸ hflag).1
          have hlooted : item.is_looted = false := by
            have hstays := h.filling.free false i' (by
              rw [flag_keepList, flag_of_item? hitem]
              exact hfree)
            rw [flag_keepList, flag_of_item? hitem] at hstays
            exact hstays
          refine ⟨⟨i', false⟩, ?_, rfl⟩
          simp [ffaTurn, hitem, hlooted, h.granted, hflag])
    ⟨.start hl, fun _ h => absurd h (Nat.not_lt_zero _)⟩ l.items.length
  refine ⟨hturning.filling, hturning.fills, fun i hi => ?_⟩
  have hlt : i < l.items.length := by
    by_contra hge
    have hitem : l.item? false i = none := List.getElem?_eq_none (Nat.le_of_not_lt hge)
    simp [flag, hitem] at hi
  obtain ⟨e, he, hindex⟩ := hshown i hlt hi
  obtain ⟨j, hj⟩ := List.getElem?_of_mem he
  refine ⟨j, e, ?_, hindex⟩
  rw [FillFFALoot, entryAt_keepList _ (hturning.find?_eq_none hnone), if_pos ⟨rfl, rfl⟩]
  exact hj

theorem filling_FillConditionalLoot (hl : l.Filling shares)
    (hnone : (l.lists .conditional).find? p = none) :
    (l.FillNonQuestNonFFAConditionalLoot w group p).Filling shares ∧
      l.Fills (l.FillNonQuestNonFFAConditionalLoot w group p) .conditional p := by
  have hturning := foldl_range_invariant (f := conditionalTurn w group p)
    (l.Turning shares .conditional p)
    (fun i s h => turning_conditionalTurn w group hnone h) (.start hl) l.items.length
  exact ⟨hturning.filling, hturning.fills⟩

end fillings

/-! ## Taking while loot is filled -/

section take

variable {found : Found}

theorem flag_take_of {f : LootItem → Bool}
    (hf : ∀ item, f { item with is_looted := true } = f item) :
    (l.take found p).flag f = l.flag f := by
  have hmark : ∀ kind j, (l.markEntry kind p j).flag f = l.flag f := by
    intro kind j
    funext quest i
    simp only [flag, item?_markEntry]
  have hloot : ∀ l₀ : Loot, (l₀.lootItem found.quest found.index).flag f = l₀.flag f :=
    fun l₀ => flag_modifyItem_of l₀ _ _ _ hf
  unfold take
  cases found.entry <;> cases found.item.freeforall
  · exact hloot _
  · rfl
  · exact (hloot _).trans (hmark _ _)
  · exact hmark _ _

theorem entryAt_take (kind : Kind) (p' j : ℕ) :
    (l.take found p).entryAt kind p' j =
      if p' = p ∧ found.entry = some (kind, j) then
        (l.entryAt kind p' j).map fun q => { q with is_looted := true }
      else l.entryAt kind p' j := by
  have hloot : ∀ l₀ : Loot, (l₀.lootItem found.quest found.index).entryAt = l₀.entryAt :=
    fun l₀ => entryAt_modifyItem l₀ _ _ _
  cases hentry : found.entry with
  | none =>
    have htake : (l.take found p).entryAt = l.entryAt := by
      unfold take
      rw [hentry]
      cases found.item.freeforall
      · exact hloot _
      · rfl
    simp [htake]
  | some e =>
    obtain ⟨kind', j'⟩ := e
    have htake : (l.take found p).entryAt = (l.markEntry kind' p j').entryAt := by
      unfold take
      rw [hentry]
      cases found.item.freeforall
      · exact hloot _
      · rfl
    rw [htake, entryAt_markEntry]
    simp only [Option.some.injEq, Prod.mk.injEq]
    refine if_congr ?_ rfl rfl
    constructor
    · rintro ⟨rfl, rfl, rfl⟩
      exact ⟨rfl, rfl, rfl⟩
    · rintro ⟨rfl, rfl, rfl⟩
      exact ⟨rfl, rfl, rfl⟩

theorem Listed.take {p' : ℕ} (h : l.Listed kind p' i) : (l.take found p).Listed kind p' i := by
  obtain ⟨j, q, hq, hindex⟩ := h
  by_cases hmarked : p' = p ∧ found.entry = some (kind, j)
  · exact ⟨j, { q with is_looted := true }, by rw [entryAt_take, if_pos hmarked, hq]; rfl, hindex⟩
  · exact ⟨j, q, by rw [entryAt_take, if_neg hmarked, hq], hindex⟩

theorem Doubled.take (h : l.Doubled) : (l.take found p).Doubled := by
  obtain ⟨i, p₁, p₂, hne, hffa, h₁, h₂⟩ := h
  refine ⟨i, p₁, p₂, hne, ?_, h₁.take, h₂.take⟩
  rw [flag_take_of fun _ => rfl]
  exact hffa

theorem looted_take_of_freeforall (hfound : l.IsFound p found) {quest : Bool}
    (hffa : l.flag (·.freeforall) quest i = true) :
    (l.take found p).flag (·.is_looted) quest i = l.flag (·.is_looted) quest i := by
  have hmark : ∀ kind j, (l.markEntry kind p j).flag (·.is_looted) = l.flag (·.is_looted) := by
    intro kind j
    funext quest i
    simp only [flag, item?_markEntry]
  have hloot : ∀ l₀ : Loot, found.item.freeforall = false →
      (l₀.lootItem found.quest found.index).flag (·.is_looted) quest i =
        l₀.flag (·.is_looted) quest i := by
    intro l₀ hone
    refine (flag_modifyItem ..).trans (if_neg ?_)
    rintro ⟨rfl, rfl⟩
    rw [flag_of_item? hfound.item, hone] at hffa
    cases hffa
  unfold Loot.take
  cases found.entry <;> cases hone : found.item.freeforall
  · exact hloot _ hone
  · rfl
  · exact (hloot _ hone).trans (congrFun (congrFun (hmark _ _) quest) i)
  · exact congrFun (congrFun (hmark _ _) quest) i

/-- **The filling goes on** when a player takes what may be handed out. -/
theorem Filling.take (hl : l.Filling shares) (hfound : l.IsFound p found)
    (hfair : l.FairlyFound found) : (l.take found p).Filling shares := by
  have hout := handsOut_take hl.books hfound hfair
  obtain ⟨hoffered, hnew⟩ := fairlyFound_pick hl.books hfound hfair
  have howed := hout.owed hoffered hnew
  refine ⟨hl.books.handsOut hout hoffered hnew, ?_, ?_, ?_, ?_, ?_, ?_⟩
  · rw [flag_take_of fun _ => rfl, flag_take_of fun _ => rfl, hout.offered]
    exact hl.counted
  · rw [flag_take_of fun _ => rfl, flag_take_of fun _ => rfl, hout.offered]
    exact hl.blocked
  · rw [hout.offered]
    intro i x hx
    obtain ⟨p', hlisted, hp'⟩ := hl.listed i x hx
    exact ⟨p', hlisted.take, hp'⟩
  · rw [hout.offered]
    exact fun i p' hp' => (hl.listed_freeforall i p' hp').take
  · intro quest i hffa
    rw [flag_take_of fun _ => rfl] at hffa
    rw [looted_take_of_freeforall hfound hffa]
    exact hl.free quest i hffa
  · refine hl.count.imp (fun hcount => ?_) fun hd => ⟨hd.1, hd.2.take⟩
    rw [hout.count, hcount, ← howed, BitVec.ofNat_add]
    exact BitVec.add_sub_cancel _ _

end take

/-! ## Currency items -/

/-- **What holds while a player gets currency items**, since `old` was handed out. -/
structure Collecting (w : World) (shares : Bool) (p : ℕ) (old : List PickUp) (l : Loot) :
    Prop where
  filling : l.Filling shares
  /-- The player's own entries are right about the items for one player. -/
  fresh : ∀ j q, l.entryAt .quest p j = some q → q.is_looted = false →
    l.flag (·.freeforall) true q.index = false → l.flag (·.is_looted) true q.index = false
  complete : ∀ i, l.flag (fun item => item.freeforall &&
    item.AllowedForPlayer w (w.viewer old p)) false i = true → l.Listed .freeforall p i
  since : ∃ new, l.granted = new ++ old

theorem lootItemInSlot_of_lt {slot : ℕ} {found : Found} (hslot : slot < l.items.length)
    (h : l.LootItemInSlot slot p = some found) :
    found.quest = false ∧ found.index = slot ∧
      (found.item.freeforall = true → found.entry = none → ¬l.Listed .freeforall p slot) := by
  unfold LootItemInSlot at h
  rw [if_neg (Nat.not_le.mpr hslot)] at h
  have hfoundBy : ∀ item kind entry, foundBy slot item kind entry = some found →
      found.quest = false ∧ found.index = slot ∧ found.item = item ∧
        (found.entry = none → entry = none) := by
    intro item kind entry hf
    cases entry with
    | none =>
      simp only [foundBy, Option.ite_none_left_eq_some, Option.some.injEq] at hf
      obtain ⟨-, rfl⟩ := hf
      exact ⟨rfl, rfl, rfl, fun _ => rfl⟩
    | some e =>
      simp only [foundBy, Option.ite_none_left_eq_some, Option.some.injEq] at hf
      obtain ⟨-, rfl⟩ := hf
      exact ⟨rfl, rfl, rfl, by simp⟩
  cases hitem : l.item? false slot with
  | none => simp [hitem] at h
  | some item =>
    simp only [hitem] at h
    split at h
    · obtain ⟨hquest, hindex, -, hentry⟩ := hfoundBy _ _ _ h
      refine ⟨hquest, hindex, fun _ hnone => ?_⟩
      -- an item that is listed has an entry
      rintro ⟨j, q, hq, rfl⟩
      have hown := hentry hnone
      unfold ownEntry at hown
      cases hlist : (l.lists .freeforall).find? p with
      | none => simp [entryAt, hlist] at hq
      | some ql =>
        have hmem : q ∈ ql := List.mem_of_getElem? (by simpa [entryAt, hlist] using hq)
        cases hj : ql.findIdx? (·.index == q.index) with
        | none =>
          have hne := List.findIdx?_eq_none_iff.mp hj q hmem
          simp at hne
        | some j' =>
          obtain ⟨hlt, -⟩ := List.findIdx?_eq_some_iff_getElem.mp hj
          simp [hlist, hj, List.getElem?_eq_getElem hlt] at hown
    · rename_i hone
      split at h <;>
      · obtain ⟨hquest, hindex, hsame, -⟩ := hfoundBy _ _ _ h
        exact ⟨hquest, hindex, fun hfree => absurd (hsame ▸ hfree) hone⟩

/-- What a player finds in a slot behind the items is on the player's own list. -/
theorem lootItemInSlot_of_le {slot : ℕ} {found : Found} (hslot : l.items.length ≤ slot)
    (h : l.LootItemInSlot slot p = some found) : ∃ j, found.entry = some (.quest, j) := by
  unfold LootItemInSlot at h
  rw [if_pos hslot] at h
  dsimp only at h
  split at h
  · cases h
  · split at h
    · cases h
    · obtain ⟨item, -, rfl⟩ := Option.map_eq_some_iff.mp h
      exact ⟨_, rfl⟩

theorem Collecting.fairlyFound {w : World} (hw : w.NeverWidens) {old : List PickUp}
    (h : Collecting w shares p old l) {item : LootItem} {slot : ℕ}
    (hitem : l.item? (l.rawSlot slot).1 (l.rawSlot slot).2 = some item)
    (hfree : item.freeforall = true)
    (hallowed : item.AllowedForPlayer w (w.viewer l.granted p) = true)
    (htoken : (w.template item.itemid).any (·.isCurrencyToken) = true) {found : Found}
    (hfound : l.LootItemInSlot slot p = some found) : l.FairlyFound found := by
  have hspec := lootItemInSlot_spec hfound
  unfold FairlyFound
  by_cases hslot : slot < l.items.length
  · obtain ⟨hquest, hindex, hentry⟩ := lootItemInSlot_of_lt hslot hfound
    have hraw : l.rawSlot slot = (false, slot) := if_pos hslot
    have hsame : found.item = item := by
      have hitem' := hspec.item
      rw [hquest, hindex] at hitem'
      rw [hraw] at hitem
      exact Option.some.inj (hitem'.symm.trans hitem)
    obtain ⟨new, hnew⟩ := h.since
    have hlisted : l.Listed .freeforall p slot := by
      refine h.complete slot ?_
      rw [hraw] at hitem
      rw [flag_of_item? hitem, hfree]
      exact hw item p new old hfree htoken (hnew ▸ hallowed)
    cases hfe : found.entry with
    | none => exact absurd hlisted (hentry (hsame ▸ hfree) hfe)
    | some e => exact .inl (hsame ▸ hfree)
  · obtain ⟨j, hj⟩ := lootItemInSlot_of_le (Nat.le_of_not_lt hslot) hfound
    rw [hj]
    obtain ⟨hquest, q, hq, hindex, hlooted⟩ := hspec.entry _ _ hj
    have hitem' := hspec.item
    rw [← show true = found.quest from hquest] at hitem'
    cases hone : found.item.freeforall with
    | true => exact .inl rfl
    | false =>
      have hfresh := h.fresh j q hq hlooted (by rw [hindex, flag_of_item? hitem']; exact hone)
      rw [hindex, flag_of_item? hitem'] at hfresh
      exact .inr hfresh

theorem collecting_currencyTurn {w : World} (hw : w.NeverWidens) {old : List PickUp}
    (h : Collecting w shares p old l) (slot : ℕ) :
    Collecting w shares p old (currencyTurn w p l slot) := by
  unfold currencyTurn
  cases hitem : l.item? (l.rawSlot slot).1 (l.rawSlot slot).2 with
  | none => exact h
  | some item =>
    dsimp only
    split_ifs with hcurrency
    · simp only [Bool.and_eq_true, Bool.not_eq_true'] at hcurrency
      obtain ⟨⟨⟨-, hfree⟩, hallowed⟩, htoken⟩ := hcurrency
      unfold StoreLootItem
      cases hfound : l.LootItemInSlot slot p with
      | none => exact h
      | some found =>
        dsimp only
        split
        · have hspec := lootItemInSlot_spec hfound
          have hfair := h.fairlyFound hw hitem hfree hallowed htoken hfound
          have hout := handsOut_take h.filling.books hspec hfair
          refine ⟨h.filling.take hspec hfair, ?_, ?_, ?_⟩
          · intro j q hq hlooted hone
            rw [flag_take_of fun _ => rfl] at hone
            rw [entryAt_take] at hq
            by_cases hmarked : p = p ∧ found.entry = some (.quest, j)
            · rw [if_pos hmarked, Option.map_eq_some_iff] at hq
              obtain ⟨q₀, -, rfl⟩ := hq
              cases hlooted
            · rw [if_neg hmarked] at hq
              have hold := h.fresh j q hq hlooted hone
              by_contra hnow
              rw [Bool.not_eq_false] at hnow
              rcases (hout.item_looted true q.index hone).mp hnow with hwas | ⟨hquest, hindex⟩
              · rw [hold] at hwas
                cases hwas
              · -- it was found by the same entry
                have hle : l.items.length ≤ slot := by
                  by_contra hlt
                  have hraw := (lootItemInSlot_of_lt (Nat.lt_of_not_le hlt) hfound).1
                  rw [← hquest] at hraw
                  cases hraw
                obtain ⟨j', hj'⟩ := lootItemInSlot_of_le hle hfound
                obtain ⟨-, q', hq', hindex', -⟩ := hspec.entry _ _ hj'
                have hsame := h.filling.books.position .quest p j j' q q' hq hq'
                  (by rw [hindex, hindex'])
                exact hmarked ⟨rfl, hsame ▸ hj'⟩
          · intro i hi
            rw [flag_take_of fun _ => rfl] at hi
            exact (h.complete i hi).take
          · obtain ⟨new, hnew⟩ := h.since
            exact ⟨l.pick found.quest found.index p :: new, by rw [hout.granted, hnew]; rfl⟩
        · exact h
    · exact h

end Loot

end TeraCore.Looting
