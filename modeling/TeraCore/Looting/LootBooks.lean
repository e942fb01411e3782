import TeraCore.Looting.Loot

/-!
# The books of loot

The flags of items and entries say the same as the pick-ups that were handed out.  This file states
that, and what each operation does to the flags.

## Main results

* `Books.handsOut`: the books stay right when a pick-up is handed out that was offered and not
  handed out before
* `HandsOut.owed`: there is then one pick-up less
-/

namespace TeraCore.Looting

open Commons

/-- What of an item stays as it is. -/
def LootItem.core (item : LootItem) : LootItem :=
  { item with count := 0, is_looted := false, is_blocked := false, is_counted := false }

namespace Loot

variable (l : Loot)

/-- There is such an item, and it has the flag `f`. -/
def flag (f : LootItem → Bool) (quest : Bool) (i : ℕ) : Bool := (l.item? quest i).any f

def core (quest : Bool) (i : ℕ) : Option LootItem := (l.item? quest i).map LootItem.core

/-- An entry of a player's list. -/
def entryAt (kind : Kind) (player j : ℕ) : Option QuestItem :=
  ((l.lists kind).find? player).bind (·[j]?)

/-- The pick-up that a player makes of the item of an index. -/
def pick (quest : Bool) (i player : ℕ) : PickUp :=
  ⟨quest, i, if l.flag (·.freeforall) quest i then some player else none⟩

/-- The items that anybody may take and that were offered to nobody. -/
def unoffered : Finset ℕ :=
  (Finset.range l.items.length).filter fun i =>
    l.flag (fun item => item.conditions.isEmpty && !item.freeforall) false i ∧
      ⟨false, i, none⟩ ∉ l.offered

/-- What the counter should count: `AddItem` counts items that anybody may take. -/
def owed : ℕ := l.ungranted.card + l.unoffered.card

/-- **The books**: flags and pick-ups agree. -/
structure Books : Prop where
  offered_of_entry : ∀ kind p j q, l.entryAt kind p j = some q →
    l.pick kind.isQuest q.index p ∈ l.offered
  freeforall_of_entry : ∀ p j q, l.entryAt .freeforall p j = some q →
    l.flag (·.freeforall) false q.index = true
  one_of_entry : ∀ p j q, l.entryAt .conditional p j = some q →
    l.flag (·.freeforall) false q.index = false
  entry_looted : ∀ kind p j q, l.entryAt kind p j = some q →
    l.flag (·.freeforall) kind.isQuest q.index = true →
      (q.is_looted = true ↔ ⟨kind.isQuest, q.index, some p⟩ ∈ l.granted)
  item_looted : ∀ quest i, l.flag (·.freeforall) quest i = false →
    (l.flag (·.is_looted) quest i = true ↔ ⟨quest, i, none⟩ ∈ l.granted)
  /-- A list has an item once. -/
  position : ∀ kind p j j' q q', l.entryAt kind p j = some q → l.entryAt kind p j' = some q' →
    q.index = q'.index → j = j'
  granted_nodup : l.granted.Nodup
  granted_offered : ∀ u ∈ l.granted, u ∈ l.offered

variable {l} {l' : Loot}

/-! ## Flags -/

theorem flag_of_item? {f : LootItem → Bool} {quest : Bool} {i : ℕ} {item : LootItem}
    (h : l.item? quest i = some item) : l.flag f quest i = f item := by
  simp [flag, h]

theorem pickUp_eq {quest : Bool} {i : ℕ} {item : LootItem} (h : l.item? quest i = some item)
    (p : ℕ) : pickUp quest i item p = l.pick quest i p := by
  simp only [pickUp, pick, flag_of_item? h]

theorem flag_of_core {f : LootItem → Bool} (hf : ∀ item, f item.core = f item)
    (h : l'.core = l.core) : l'.flag f = l.flag f := by
  funext quest i
  have hcore := congrFun (congrFun h quest) i
  have hany : ∀ o : Option LootItem, (o.map LootItem.core).any f = o.any f := by
    intro o
    cases o with
    | none => rfl
    | some item => exact hf item
  unfold flag
  rw [← hany (l'.item? quest i), ← hany (l.item? quest i)]
  exact congrArg (Option.any f) hcore

theorem freeforall_of_core (h : l'.core = l.core) :
    l'.flag (·.freeforall) = l.flag (·.freeforall) :=
  flag_of_core (fun _ => rfl) h

theorem pick_of_core (h : l'.core = l.core) : l'.pick = l.pick := by
  funext quest i p
  simp only [pick, freeforall_of_core h]

theorem length_of_core (h : l'.core = l.core) : l'.items.length = l.items.length := by
  have hcores : l'.items.map LootItem.core = l.items.map LootItem.core := by
    apply List.ext_getElem?
    intro i
    rw [List.getElem?_map, List.getElem?_map]
    exact congrFun (congrFun h false) i
  simpa using congrArg List.length hcores

theorem unoffered_of_core (h : l'.core = l.core) (hoffered : l'.offered = l.offered) :
    l'.unoffered = l.unoffered := by
  have hflag : l'.flag (fun item => item.conditions.isEmpty && !item.freeforall) =
      l.flag (fun item => item.conditions.isEmpty && !item.freeforall) :=
    flag_of_core (fun _ => rfl) h
  simp only [unoffered, hflag, hoffered, length_of_core h]

/-! ## Writing to an item -/

variable (l) (quest : Bool) (i : ℕ) (g : LootItem → LootItem)

theorem item?_modifyItem (quest' : Bool) (i' : ℕ) :
    (l.modifyItem quest i g).item? quest' i' =
      if quest' = quest ∧ i' = i then (l.item? quest' i').map g else l.item? quest' i' := by
  have hmodify : ∀ items : List LootItem, (items.modify i g)[i']? =
      if i' = i then items[i']?.map g else items[i']? := by
    intro items
    rw [List.getElem?_modify]
    by_cases h : i = i'
    · rw [if_pos h.symm]
      cases items[i']? <;> simp [h]
    · rw [if_neg (Ne.symm h)]
      cases items[i']? <;> simp [h]
  cases quest <;> cases quest' <;> simp [modifyItem, item?, slots, hmodify]

theorem flag_modifyItem (f : LootItem → Bool) (quest' : Bool) (i' : ℕ) :
    (l.modifyItem quest i g).flag f quest' i' =
      if quest' = quest ∧ i' = i then l.flag (fun item => f (g item)) quest' i'
      else l.flag f quest' i' := by
  unfold flag
  rw [item?_modifyItem]
  split
  · cases l.item? quest' i' <;> rfl
  · rfl

theorem flag_modifyItem_of {f : LootItem → Bool} (hf : ∀ item, f (g item) = f item) :
    (l.modifyItem quest i g).flag f = l.flag f := by
  funext quest' i'
  rw [flag_modifyItem]
  simp only [hf, ite_self]

theorem core_modifyItem (hg : ∀ item, (g item).core = item.core) :
    (l.modifyItem quest i g).core = l.core := by
  funext quest' i'
  unfold core
  rw [item?_modifyItem]
  split
  · rw [Option.map_map]
    exact congrArg (Option.map · _) (funext hg)
  · rfl

@[simp] theorem lists_modifyItem (kind : Kind) :
    (l.modifyItem quest i g).lists kind = l.lists kind := by
  cases quest <;> cases kind <;> rfl

@[simp] theorem entryAt_modifyItem : (l.modifyItem quest i g).entryAt = l.entryAt := by
  funext kind p j
  simp only [entryAt, lists_modifyItem]

@[simp] theorem offered_modifyItem : (l.modifyItem quest i g).offered = l.offered := by
  cases quest <;> rfl

@[simp] theorem granted_modifyItem : (l.modifyItem quest i g).granted = l.granted := by
  cases quest <;> rfl

@[simp] theorem unlootedCount_modifyItem :
    (l.modifyItem quest i g).unlootedCount = l.unlootedCount := by
  cases quest <;> rfl

/-! ## Writing to a list -/

variable (kind : Kind) (player : ℕ) (ql : List QuestItem)

@[simp] theorem item?_setList : (l.setList kind player ql).item? = l.item? := by
  cases kind <;> rfl

@[simp] theorem offered_setList : (l.setList kind player ql).offered = l.offered := by
  cases kind <;> rfl

@[simp] theorem granted_setList : (l.setList kind player ql).granted = l.granted := by
  cases kind <;> rfl

@[simp] theorem unlootedCount_setList :
    (l.setList kind player ql).unlootedCount = l.unlootedCount := by
  cases kind <;> rfl

theorem find?_setList (kind' : Kind) (player' : ℕ) :
    ((l.setList kind player ql).lists kind').find? player' =
      if kind' = kind ∧ player' = player then some ql else (l.lists kind').find? player' := by
  cases kind <;> cases kind' <;> simp [setList, lists, OrderedMap.find?_set]

theorem entryAt_setList (kind' : Kind) (player' j : ℕ) :
    (l.setList kind player ql).entryAt kind' player' j =
      if kind' = kind ∧ player' = player then ql[j]? else l.entryAt kind' player' j := by
  unfold entryAt
  rw [find?_setList]
  split <;> rfl

@[simp] theorem item?_markEntry (j : ℕ) : (l.markEntry kind player j).item? = l.item? := by
  unfold markEntry
  split <;> simp

@[simp] theorem offered_markEntry (j : ℕ) :
    (l.markEntry kind player j).offered = l.offered := by
  unfold markEntry
  split <;> simp

@[simp] theorem granted_markEntry (j : ℕ) :
    (l.markEntry kind player j).granted = l.granted := by
  unfold markEntry
  split <;> simp

@[simp] theorem unlootedCount_markEntry (j : ℕ) :
    (l.markEntry kind player j).unlootedCount = l.unlootedCount := by
  unfold markEntry
  split <;> simp

theorem entryAt_markEntry (j : ℕ) (kind' : Kind) (player' j' : ℕ) :
    (l.markEntry kind player j).entryAt kind' player' j' =
      if kind' = kind ∧ player' = player ∧ j' = j then
        (l.entryAt kind' player' j').map fun q => { q with is_looted := true }
      else l.entryAt kind' player' j' := by
  unfold markEntry
  cases hlist : (l.lists kind).find? player with
  | none =>
    have hnone : kind' = kind ∧ player' = player ∧ j' = j → l.entryAt kind' player' j' = none := by
      rintro ⟨rfl, rfl, rfl⟩
      simp [entryAt, hlist]
    by_cases h : kind' = kind ∧ player' = player ∧ j' = j
    · rw [if_pos h, hnone h]
      rfl
    · rw [if_neg h]
  | some ql =>
    rw [entryAt_setList]
    by_cases h : kind' = kind ∧ player' = player
    · obtain ⟨rfl, rfl⟩ := h
      have hentry : l.entryAt kind' player' j' = ql[j']? := by simp [entryAt, hlist]
      rw [if_pos ⟨rfl, rfl⟩, hentry, List.getElem?_modify]
      by_cases hj : j = j'
      · rw [if_pos ⟨rfl, rfl, hj.symm⟩]
        cases ql[j']? <;> simp [hj]
      · rw [if_neg (fun hall => hj hall.2.2.symm)]
        cases ql[j']? <;> simp [hj]
    · rw [if_neg h, if_neg (fun hall => h ⟨hall.1, hall.2.1⟩)]

/-! ## Handing out -/

/-- **What changes when an item is handed out**: the flags that the books read. -/
structure HandsOut (l l' : Loot) (quest : Bool) (i player : ℕ) : Prop where
  core : l'.core = l.core
  offered : l'.offered = l.offered
  granted : l'.granted = l.pick quest i player :: l.granted
  count : l'.unlootedCount = l.unlootedCount - 1
  item_looted : ∀ quest' i', l.flag (·.freeforall) quest' i' = false →
    (l'.flag (·.is_looted) quest' i' = true ↔
      l.flag (·.is_looted) quest' i' = true ∨ (quest' = quest ∧ i' = i))
  entry : ∀ kind p j q, l'.entryAt kind p j = some q → ∃ q₀, l.entryAt kind p j = some q₀ ∧
    q.index = q₀.index ∧ (l.flag (·.freeforall) kind.isQuest q.index = true →
      (q.is_looted = true ↔
        q₀.is_looted = true ∨ (kind.isQuest = quest ∧ q.index = i ∧ p = player)))

variable {l quest i player}

theorem Books.handsOut (hbooks : l.Books) (h : l.HandsOut l' quest i player)
    (hoffered : l.pick quest i player ∈ l.offered)
    (hnew : l.pick quest i player ∉ l.granted) : l'.Books where
  offered_of_entry := by
    intro kind p j q hq
    obtain ⟨q₀, hq₀, hindex, -⟩ := h.entry kind p j q hq
    rw [pick_of_core h.core, h.offered, hindex]
    exact hbooks.offered_of_entry kind p j q₀ hq₀
  freeforall_of_entry := by
    intro p j q hq
    obtain ⟨q₀, hq₀, hindex, -⟩ := h.entry .freeforall p j q hq
    rw [freeforall_of_core h.core, hindex]
    exact hbooks.freeforall_of_entry p j q₀ hq₀
  one_of_entry := by
    intro p j q hq
    obtain ⟨q₀, hq₀, hindex, -⟩ := h.entry .conditional p j q hq
    rw [freeforall_of_core h.core, hindex]
    exact hbooks.one_of_entry p j q₀ hq₀
  entry_looted := by
    intro kind p j q hq hffa
    obtain ⟨q₀, hq₀, hindex, hlooted⟩ := h.entry kind p j q hq
    rw [freeforall_of_core h.core] at hffa
    have hold := hbooks.entry_looted kind p j q₀ hq₀ (hindex ▸ hffa)
    have hpick : (⟨kind.isQuest, q.index, some p⟩ : PickUp) = l.pick quest i player ↔
        kind.isQuest = quest ∧ q.index = i ∧ p = player := by
      constructor
      · intro heq
        simp only [pick, PickUp.mk.injEq] at heq
        obtain ⟨hkind, hi, hp⟩ := heq
        rw [hkind, hi] at hffa
        rw [if_pos hffa] at hp
        exact ⟨hkind, hi, Option.some.inj hp⟩
      · rintro ⟨hkind, hi, rfl⟩
        rw [hkind, hi] at hffa
        simp only [pick, hkind, hi, if_pos hffa]
    rw [hlooted hffa, h.granted, List.mem_cons, hpick, hold, hindex]
    exact or_comm
  item_looted := by
    intro quest' i' hffa
    rw [freeforall_of_core h.core] at hffa
    have hpick : (⟨quest', i', none⟩ : PickUp) = l.pick quest i player ↔
        quest' = quest ∧ i' = i := by
      constructor
      · intro heq
        simp only [pick, PickUp.mk.injEq] at heq
        exact ⟨heq.1, heq.2.1⟩
      · rintro ⟨rfl, rfl⟩
        simp [pick, hffa]
    rw [h.item_looted quest' i' hffa, hbooks.item_looted quest' i' hffa, h.granted, List.mem_cons,
      hpick]
    exact or_comm
  position := by
    intro kind p j j' q q' hq hq' heq
    obtain ⟨q₀, hq₀, hindex, -⟩ := h.entry kind p j q hq
    obtain ⟨q₁, hq₁, hindex', -⟩ := h.entry kind p j' q' hq'
    exact hbooks.position kind p j j' q₀ q₁ hq₀ hq₁ (by rw [← hindex, ← hindex', heq])
  granted_nodup := by
    rw [h.granted]
    exact List.nodup_cons.mpr ⟨hnew, hbooks.granted_nodup⟩
  granted_offered := by
    intro u hu
    rw [h.granted] at hu
    rw [h.offered]
    rcases List.mem_cons.mp hu with rfl | hu
    · exact hoffered
    · exact hbooks.granted_offered u hu

theorem HandsOut.owed (h : l.HandsOut l' quest i player)
    (hoffered : l.pick quest i player ∈ l.offered)
    (hnew : l.pick quest i player ∉ l.granted) : l'.owed + 1 = l.owed := by
  have hmem : l.pick quest i player ∈ l.ungranted := by
    simp only [ungranted, Finset.mem_sdiff, List.mem_toFinset]
    exact ⟨hoffered, hnew⟩
  have hungranted : l'.ungranted = l.ungranted.erase (l.pick quest i player) := by
    ext u
    simp only [ungranted, h.offered, h.granted, Finset.mem_sdiff, List.mem_toFinset,
      List.mem_cons, Finset.mem_erase]
    tauto
  have hcard := Finset.card_erase_add_one hmem
  simp only [Loot.owed, unoffered_of_core h.core h.offered, hungranted]
  omega

/-! ## Books and what they do not read -/

/-- The books read the items' cores, their looted flags, the lists and the pick-ups. -/
theorem Books.congr (hbooks : l.Books) (hcore : l'.core = l.core)
    (hlooted : l'.flag (·.is_looted) = l.flag (·.is_looted)) (hentry : l'.entryAt = l.entryAt)
    (hoffered : l.offered ⊆ l'.offered) (hgranted : l'.granted = l.granted) : l'.Books where
  offered_of_entry := by
    rw [hentry, pick_of_core hcore]
    exact fun kind p j q hq => hoffered (hbooks.offered_of_entry kind p j q hq)
  freeforall_of_entry := by
    rw [hentry, freeforall_of_core hcore]
    exact hbooks.freeforall_of_entry
  one_of_entry := by
    rw [hentry, freeforall_of_core hcore]
    exact hbooks.one_of_entry
  entry_looted := by
    rw [hentry, freeforall_of_core hcore, hgranted]
    exact hbooks.entry_looted
  item_looted := by
    rw [freeforall_of_core hcore, hlooted, hgranted]
    exact hbooks.item_looted
  position := by
    rw [hentry]
    exact hbooks.position
  granted_nodup := hgranted ▸ hbooks.granted_nodup
  granted_offered := by
    rw [hgranted]
    exact fun u hu => hoffered (hbooks.granted_offered u hu)

end Loot

end TeraCore.Looting
