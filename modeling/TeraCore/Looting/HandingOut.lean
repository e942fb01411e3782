import TeraCore.Looting.LootBooks

/-!
# Handing items out

Each of the three ways that an item leaves the loot hands out one pick-up.  None of them asks
whether that pick-up was offered, or handed out before: a player's own entry says whether that
player took the item, a master looter may give any item, and a roll was started before.  `Fairly`
is what they do not ask.

## Main results

* `handsOut_take`, `handsOut_modifyItem`: what the ways do to the books
* `fairlyFound_pick`, `fairItem_pick`: the pick-up was offered and not handed out
-/

namespace TeraCore.Looting

open Commons

namespace Loot

variable (l : Loot)

/-- What a player found is a pick-up that can be handed out: by the player's own entry if the item
is free for all, and otherwise an item that nobody took. -/
def FairlyFound (found : Found) : Prop :=
  match found.entry with
  | some _ => found.item.freeforall = true ∨ found.item.is_looted = false
  | none => found.item.freeforall = false ∧ ⟨found.quest, found.index, none⟩ ∈ l.offered

instance (found : Found) : Decidable (l.FairlyFound found) :=
  match h : found.entry with
  | some _ => decidable_of_iff (found.item.freeforall = true ∨ found.item.is_looted = false)
      (by simp [FairlyFound, h])
  | none => decidable_of_iff
      (found.item.freeforall = false ∧ ⟨found.quest, found.index, none⟩ ∈ l.offered)
      (by simp [FairlyFound, h])

/-- An item that was offered, for one player, and that nobody took. -/
def FairItem (quest : Bool) (i : ℕ) (item : LootItem) : Prop :=
  item.freeforall = false ∧ item.is_looted = false ∧ ⟨quest, i, none⟩ ∈ l.offered

instance (quest : Bool) (i : ℕ) (item : LootItem) : Decidable (l.FairItem quest i item) :=
  inferInstanceAs (Decidable (_ ∧ _ ∧ _))

variable {l}

/-! ## What a player finds -/

/-- What is known of what a player found in a slot. -/
structure IsFound (l : Loot) (player : ℕ) (found : Found) : Prop where
  item : l.item? found.quest found.index = some found.item
  entry : ∀ kind j, found.entry = some (kind, j) → kind.isQuest = found.quest ∧
    ∃ q, l.entryAt kind player j = some q ∧ q.index = found.index ∧ q.is_looted = false
  own : found.entry = none → found.quest = false ∧ found.item.is_looted = false

variable {player slot : ℕ} {item : LootItem} {found : Found}

theorem ownEntry_spec {kind : Kind} {j : ℕ} {q : QuestItem}
    (h : l.ownEntry kind player slot = some (j, q)) :
    l.entryAt kind player j = some q ∧ q.index = slot := by
  unfold ownEntry at h
  cases hlist : (l.lists kind).find? player with
  | none => simp [hlist] at h
  | some ql =>
    cases hj : ql.findIdx? (·.index == slot) with
    | none => simp [hlist, hj] at h
    | some j' =>
      simp only [hlist, hj, Option.map_eq_some_iff, Prod.mk.injEq] at h
      obtain ⟨q', hq', rfl, rfl⟩ := h
      obtain ⟨hlt, hindex, -⟩ := List.findIdx?_eq_some_iff_getElem.mp hj
      have heq : ql[j'] = q' := by
        rw [List.getElem?_eq_getElem hlt] at hq'
        exact Option.some.inj hq'
      refine ⟨by simp [entryAt, hlist, hq'], ?_⟩
      rw [← heq]
      exact eq_of_beq hindex

theorem isFound_foundBy (kind : Kind)
    {entry : Option (ℕ × QuestItem)} (hkind : kind.isQuest = false)
    (hitem : l.item? false slot = some item)
    (hentry : ∀ j q, entry = some (j, q) → l.entryAt kind player j = some q ∧ q.index = slot)
    (h : foundBy slot item kind entry = some found) : l.IsFound player found := by
  cases entry with
  | none =>
    by_cases hlooted : item.is_looted = true
    · simp [foundBy, hlooted] at h
    · simp only [foundBy, hlooted, Bool.false_eq_true, if_false, Option.some.injEq] at h
      subst h
      exact ⟨hitem, fun _ _ => (by rintro ⟨⟩), fun _ => ⟨rfl, Bool.eq_false_iff.mpr hlooted⟩⟩
  | some e =>
    obtain ⟨j, q⟩ := e
    obtain ⟨hq, hindex⟩ := hentry j q rfl
    by_cases hlooted : q.is_looted = true
    · simp [foundBy, hlooted] at h
    · simp only [foundBy, hlooted, Bool.false_eq_true, if_false, Option.some.injEq] at h
      subst h
      refine ⟨hitem, fun kind' j' heq => ?_, nofun⟩
      cases heq
      exact ⟨hkind, q, hq, hindex, Bool.eq_false_iff.mpr hlooted⟩

theorem lootItemInSlot_spec
    (h : l.LootItemInSlot slot player = some found) : l.IsFound player found := by
  unfold LootItemInSlot at h
  by_cases hslot : l.items.length ≤ slot
  · rw [if_pos hslot] at h
    cases hq : ((l.PlayerQuestItems.find? player).getD [])[slot - l.items.length]? with
    | none => simp [hq] at h
    | some q =>
      by_cases hlooted : q.is_looted = true
      · simp [hq, hlooted] at h
      · simp only [hq, hlooted, Bool.false_eq_true, if_false, Option.map_eq_some_iff] at h
        obtain ⟨item, hitem, rfl⟩ := h
        refine ⟨hitem, fun kind j heq => ?_, nofun⟩
        cases heq
        refine ⟨rfl, q, ?_, rfl, Bool.eq_false_iff.mpr hlooted⟩
        cases hlist : l.PlayerQuestItems.find? player with
        | none => simp [hlist] at hq
        | some ql => simpa [entryAt, lists, hlist] using hq
  · rw [if_neg hslot] at h
    cases hitem : l.item? false slot with
    | none => simp [hitem] at h
    | some item =>
      simp only [hitem] at h
      split at h
      · exact isFound_foundBy _ rfl hitem (fun _ _ heq => ownEntry_spec heq) h
      · split at h
        · exact isFound_foundBy _ rfl hitem (fun _ _ heq => ownEntry_spec heq) h
        · exact isFound_foundBy .conditional rfl hitem
            (fun _ _ heq => by cases heq) h

/-! ## Pick-ups that can be handed out -/

theorem fairItem_pick (hbooks : l.Books) {quest : Bool} {i : ℕ}
    (hitem : l.item? quest i = some item) (h : l.FairItem quest i item) (player : ℕ) :
    l.pick quest i player ∈ l.offered ∧ l.pick quest i player ∉ l.granted := by
  obtain ⟨hffa, hlooted, hoffered⟩ := h
  have hflag : l.flag (·.freeforall) quest i = false := (flag_of_item? hitem).trans hffa
  have hpick : l.pick quest i player = ⟨quest, i, none⟩ := by simp [pick, hflag]
  rw [hpick]
  refine ⟨hoffered, fun hgranted => ?_⟩
  have htrue := (hbooks.item_looted quest i hflag).mpr hgranted
  rw [flag_of_item? hitem, hlooted] at htrue
  cases htrue

theorem fairlyFound_pick (hbooks : l.Books)
    (hfound : l.IsFound player found) (h : l.FairlyFound found) :
    l.pick found.quest found.index player ∈ l.offered ∧
      l.pick found.quest found.index player ∉ l.granted := by
  unfold FairlyFound at h
  cases hentry : found.entry with
  | none =>
    rw [hentry] at h
    exact fairItem_pick hbooks hfound.item ⟨h.1, (hfound.own hentry).2, h.2⟩ player
  | some e =>
    obtain ⟨kind, j⟩ := e
    rw [hentry] at h
    obtain ⟨hkind, q, hq, hindex, hlooted⟩ := hfound.entry kind j hentry
    have hoffered := hbooks.offered_of_entry kind player j q hq
    rw [hkind, hindex] at hoffered
    cases hffa : found.item.freeforall with
    | false =>
      have hitem := h.resolve_left (by simp [hffa])
      have hflag : l.flag (·.freeforall) found.quest found.index = false :=
        (flag_of_item? hfound.item).trans hffa
      have hpick : l.pick found.quest found.index player = ⟨found.quest, found.index, none⟩ := by
        simp [pick, hflag]
      exact fairItem_pick hbooks hfound.item ⟨hffa, hitem, hpick ▸ hoffered⟩ player
    | true =>
      have hflag : l.flag (·.freeforall) found.quest found.index = true :=
        (flag_of_item? hfound.item).trans hffa
      refine ⟨hoffered, fun hgranted => ?_⟩
      have hbook := hbooks.entry_looted kind player j q hq (by rw [hkind, hindex]; exact hflag)
      rw [hkind, hindex, hlooted] at hbook
      simp only [pick, hflag, if_true] at hgranted
      exact absurd (hbook.mpr hgranted) (by simp)

/-! ## What the ways do to the books -/

theorem handsOut_modifyItem {quest : Bool} {i : ℕ} {g : LootItem → LootItem}
    (hitem : l.item? quest i = some item) (hffa : item.freeforall = false)
    (hcore : ∀ item, (g item).core = item.core) (hg : ∀ item, (g item).is_looted = true)
    (player : ℕ) :
    l.HandsOut ((l.modifyItem quest i g).handOut quest i item player) quest i player where
  core := core_modifyItem l quest i g hcore
  offered := offered_modifyItem l quest i g
  granted := by
    rw [← pickUp_eq hitem]
    exact congrArg (_ :: ·) (granted_modifyItem l quest i g)
  count := congrArg (· - 1) (unlootedCount_modifyItem l quest i g)
  item_looted := by
    intro quest' i' _
    change (l.modifyItem quest i g).flag _ quest' i' = true ↔ _
    rw [flag_modifyItem]
    by_cases h : quest' = quest ∧ i' = i
    · rw [if_pos h, h.1, h.2, flag_of_item? hitem]
      simp [hg]
    · rw [if_neg h]
      simp [h]
  entry := by
    intro kind p j q hq
    have hq₀ : l.entryAt kind p j = some q := by
      rw [← entryAt_modifyItem l quest i g]
      exact hq
    refine ⟨q, hq₀, rfl, fun hflag => ?_⟩
    have hother : ¬(kind.isQuest = quest ∧ q.index = i ∧ p = player) := by
      rintro ⟨hkind, hindex, -⟩
      rw [hkind, hindex, flag_of_item? hitem, hffa] at hflag
      cases hflag
    simp [hother]

theorem entry_take (hbooks : l.Books)
    (hfound : l.IsFound player found) {kind : Kind} {j : ℕ} (hentry : found.entry = some (kind, j))
    (kind' : Kind) (p j' : ℕ) (q : QuestItem)
    (hq : (l.markEntry kind player j).entryAt kind' p j' = some q) :
    ∃ q₀, l.entryAt kind' p j' = some q₀ ∧ q.index = q₀.index ∧
      (l.flag (·.freeforall) kind'.isQuest q.index = true →
        (q.is_looted = true ↔ q₀.is_looted = true ∨
          (kind'.isQuest = found.quest ∧ q.index = found.index ∧ p = player))) := by
  obtain ⟨hkind, q₁, hq₁, hindex, -⟩ := hfound.entry kind j hentry
  rw [entryAt_markEntry] at hq
  by_cases hmarked : kind' = kind ∧ p = player ∧ j' = j
  · obtain ⟨rfl, rfl, rfl⟩ := hmarked
    rw [if_pos ⟨rfl, rfl, rfl⟩, hq₁] at hq
    cases hq
    exact ⟨q₁, hq₁, rfl, fun _ => ⟨fun _ => .inr ⟨hkind, hindex, rfl⟩, fun _ => rfl⟩⟩
  · rw [if_neg hmarked] at hq
    refine ⟨q, hq, rfl, fun hflag => ?_⟩
    -- another entry for the same item would be of the same kind, and at the same position
    have hother : ¬(kind'.isQuest = found.quest ∧ q.index = found.index ∧ p = player) := by
      rintro ⟨hkind', hindex', rfl⟩
      have hsame : kind' = kind := by
        have hcond := fun q hq => hbooks.one_of_entry p j q hq
        have hcond' := fun q hq => hbooks.one_of_entry p j' q hq
        cases kind <;> cases kind' <;> simp_all [Kind.isQuest]
      subst hsame
      exact hmarked ⟨rfl, rfl, hbooks.position kind' p j' j q q₁ hq hq₁ (by rw [hindex', hindex])⟩
    simp [hother]

theorem handsOut_take (hbooks : l.Books)
    (hfound : l.IsFound player found) (h : l.FairlyFound found) :
    l.HandsOut (l.take found player) found.quest found.index player := by
  cases hentry : found.entry with
  | none =>
    have hffa : found.item.freeforall = false := by
      simp only [FairlyFound, hentry] at h
      exact h.1
    have htake : l.take found player =
        (l.lootItem found.quest found.index).handOut found.quest found.index found.item player := by
      simp [take, hentry, hffa]
    rw [htake]
    exact handsOut_modifyItem (g := fun item => { item with is_looted := true }) hfound.item hffa
      (fun _ => rfl) (fun _ => rfl) player
  | some e =>
    obtain ⟨kind, j⟩ := e
    have hmark := entry_take hbooks hfound hentry
    have hitem : (l.markEntry kind player j).item? = l.item? := item?_markEntry ..
    have hflag : ∀ f, (l.markEntry kind player j).flag f = l.flag f := by
      intro f
      funext quest i
      simp only [flag, hitem]
    have hcore : (l.markEntry kind player j).core = l.core := by
      funext quest i
      simp only [core, hitem]
    cases hffa : found.item.freeforall with
    | true =>
      have htake : l.take found player = (l.markEntry kind player j).handOut
          found.quest found.index found.item player := by
        simp [take, hentry, hffa]
      rw [htake]
      refine ⟨hcore, offered_markEntry .., ?_, congrArg (· - 1) (unlootedCount_markEntry ..), ?_,
        hmark⟩
      · rw [← pickUp_eq hfound.item]
        exact congrArg (_ :: ·) (granted_markEntry ..)
      · intro quest i hone
        change (l.markEntry kind player j).flag _ quest i = true ↔ _
        have hother : ¬(quest = found.quest ∧ i = found.index) := by
          rintro ⟨rfl, rfl⟩
          rw [flag_of_item? hfound.item, hffa] at hone
          cases hone
        simp [hflag, hother]
    | false =>
      have htake : l.take found player = ((l.markEntry kind player j).lootItem
          found.quest found.index).handOut found.quest found.index found.item player := by
        simp [take, hentry, hffa]
      have hitem' : (l.markEntry kind player j).item? found.quest found.index =
          some found.item := by
        rw [hitem]
        exact hfound.item
      have hout := handsOut_modifyItem (g := fun item => { item with is_looted := true }) hitem'
        hffa (fun _ => rfl) (fun _ => rfl) player
      rw [htake]
      refine ⟨hout.core.trans hcore, hout.offered.trans (offered_markEntry ..), ?_,
        hout.count.trans (congrArg (· - 1) (unlootedCount_markEntry ..)), ?_, ?_⟩
      · refine hout.granted.trans ?_
        rw [pick_of_core hcore, granted_markEntry]
      · intro quest i hone
        rw [← hflag] at hone ⊢
        exact hout.item_looted quest i hone
      · intro kind' p j' q hq
        exact hmark kind' p j' q ((congrFun (congrFun (congrFun
          (entryAt_modifyItem (l.markEntry kind player j) ..) kind') p) j').symm.trans hq)

end Loot

end TeraCore.Looting
