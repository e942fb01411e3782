import TeraCore.Commons.Run
import TeraCore.Guilds.Bank

/-!
# Guilds: a move in the bank conserves the items

A move takes a stack, or a part of it, out of its slot and stores it at the places that were
reserved for it.  The reservation is made while the source still holds its items, so a place is
sound for what its slot will hold at the storing, which is no more than what the reservation
saw there.

## Main results

* `GuildBank.places_of_canStore`: a successful reservation has a place for every item
* `GuildBank.storeItem_spec`: storing at such places adds exactly the items
* `GuildBank.swapItems_conserves`: a move keeps the bank stocked and the number of every kind
-/

namespace TeraCore

open Commons

/-! ## Places -/

/-- The number of items in a slot. -/
def heldCount (dest : Option Item) : ℕ := (dest.map Item.count).getD 0

@[simp] theorem heldCount_none : heldCount none = 0 := rfl

@[simp] theorem heldCount_some (d : Item) : heldCount (some d) = d.count := rfl

/-- A slot that holds `dest` has room for `count` more of an item's kind. -/
structure Takes (proto : ℕ → ItemTemplate) (item : Item) (dest : Option Item) (count : ℕ) :
    Prop where
  entry : ∀ d, dest = some d → d.entry = item.entry
  room : heldCount dest + count ≤ (proto item.entry).getMaxStackSize

/-- **Sound places**: different slots, each of which has room for what it is to take. -/
structure Places (proto : ℕ → ItemTemplate) (item : Item)
    (view : Fin guildBankMaxSlots → Option Item) (vec : List ItemPosCount) : Prop where
  nodup : (vec.map ItemPosCount.pos).Nodup
  pos : ∀ p ∈ vec, 0 < p.count
  takes : ∀ p ∈ vec, Takes proto item (view p.pos) p.count

/-- The number of items there are places for. -/
def placed (vec : List ItemPosCount) : ℕ := (vec.map ItemPosCount.count).sum

section

variable {proto : ℕ → ItemTemplate} {item : Item} {view view' : Fin guildBankMaxSlots → Option Item}
  {vec : List ItemPosCount}

namespace Places

theorem nil : Places proto item view [] := ⟨List.nodup_nil, nofun, nofun⟩

theorem mono (h : Places proto item view vec)
    (hview : ∀ p ∈ vec, ∀ n, Takes proto item (view p.pos) n → Takes proto item (view' p.pos) n) :
    Places proto item view' vec :=
  ⟨h.nodup, h.pos, fun p hp => hview p hp _ (h.takes p hp)⟩

theorem append (h : Places proto item view vec) {p : ItemPosCount}
    (hnew : p.pos ∉ vec.map ItemPosCount.pos) (hpos : 0 < p.count)
    (htakes : Takes proto item (view p.pos) p.count) : Places proto item view (vec ++ [p]) where
  nodup := by
    rw [List.map_append, List.map_singleton]
    exact h.nodup.append (List.nodup_singleton _) (List.disjoint_singleton.mpr hnew)
  pos q hq := by
    rcases List.mem_append.mp hq with hq | hq
    · exact h.pos q hq
    · rwa [List.mem_singleton.mp hq]
  takes q hq := by
    rcases List.mem_append.mp hq with hq | hq
    · exact h.takes q hq
    · rwa [List.mem_singleton.mp hq]

end Places

theorem placed_append (vec vec' : List ItemPosCount) :
    placed (vec ++ vec') = placed vec + placed vec' := by
  simp [placed]

end

namespace GuildBank

section

variable {proto : ℕ → ItemTemplate} {item : Item} {view : Fin guildBankMaxSlots → Option Item}

/-- **A reservation** is sound if the ones before it were, and every item keeps its place. -/
theorem places_reserveSpace {r : Reservation} (hr : Places proto item view r.vec)
    (hcount : 0 < r.count) (slotId : Fin guildBankMaxSlots) :
    Places proto item view (reserveSpace proto slotId item (view slotId) r).2.vec ∧
      placed (reserveSpace proto slotId item (view slotId) r).2.vec +
        (reserveSpace proto slotId item (view slotId) r).2.count = placed r.vec + r.count := by
  unfold reserveSpace
  dsimp only
  split_ifs with hmatch hthere
  · exact ⟨hr, rfl⟩
  · exact ⟨hr, rfl⟩
  · have hroom : (∀ d, view slotId = some d → d.entry = item.entry) ∧
        heldCount (view slotId) < (proto item.entry).getMaxStackSize := by
      cases hd : view slotId with
      | none => exact ⟨nofun, (proto item.entry).getMaxStackSize_pos⟩
      | some d =>
        simp only [hd, Option.any_some, Bool.or_eq_true, decide_eq_true_eq, not_or,
          not_not, not_le] at hmatch
        exact ⟨fun d' hd' => Option.some.inj hd' ▸ hmatch.1, hmatch.2⟩
    have hnew : slotId ∉ r.vec.map ItemPosCount.pos := by
      intro hmem
      obtain ⟨p, hp, hpos⟩ := List.mem_map.mp hmem
      exact hthere (List.any_eq_true.mpr ⟨p, hp, by simp [hpos]⟩)
    obtain ⟨hentry, hlt⟩ := hroom
    change _ < (proto item.entry).getMaxStackSize at hlt
    generalize hreq : min ((proto item.entry).getMaxStackSize -
      ((view slotId).map Item.count).getD 0) r.count = required
    change min (_ - heldCount (view slotId)) r.count = required at hreq
    refine ⟨hr.append hnew (by dsimp only; omega) ⟨hentry, by dsimp only; omega⟩, ?_⟩
    rw [placed_append]
    change placed r.vec + (required + 0) + (r.count - required) = _
    omega

variable {b : GuildBank}

/-- What the reservation takes the slots of a tab to hold: not the item itself, and nothing in
the named slot when its stack is swapped away. -/
def seen (b : GuildBank) (item : Item) (dest : BankSlot) (swap : Bool)
    (slotId : Fin guildBankMaxSlots) : Option Item :=
  if slotId = dest.2 ∧ swap then none else exceptSelf item (b.getItem (dest.1, slotId))

theorem places_canStoreItemInTab {dest : BankSlot} {swap : Bool} (merge : Bool) {r : Reservation}
    (hr : Places proto item (b.seen item dest swap) r.vec) :
    Places proto item (b.seen item dest swap)
        (b.canStoreItemInTab proto dest.1 item dest.2 merge r).vec ∧
      placed (b.canStoreItemInTab proto dest.1 item dest.2 merge r).vec +
        (b.canStoreItemInTab proto dest.1 item dest.2 merge r).count = placed r.vec + r.count := by
  refine foldl_invariant (fun r' : Reservation => Places proto item (b.seen item dest swap) r'.vec ∧
    placed r'.vec + r'.count = placed r.vec + r.count) (fun r' slotId _ hr' => ?_) ⟨hr, rfl⟩
  by_cases hcount : r'.count = 0
  · rwa [if_pos hcount]
  rw [if_neg hcount]
  by_cases hskip : slotId = dest.2
  · rwa [if_pos hskip]
  rw [if_neg hskip]
  dsimp only
  split_ifs with hmerge
  · exact hr'
  · have hseen : exceptSelf item (b.getItem (dest.1, slotId)) = b.seen item dest swap slotId := by
      rw [seen, if_neg fun h => hskip h.1]
    rw [hseen]
    obtain ⟨hplaces, hsum⟩ := places_reserveSpace hr'.1 (Nat.pos_of_ne_zero hcount) slotId
    exact ⟨hplaces, hsum.trans hr'.2⟩

/-- **A successful reservation** has a sound place for every item of the stack. -/
theorem places_of_canStore {dest : BankSlot} {swap : Bool} {vec : List ItemPosCount}
    (h : b.canStore proto dest item swap = (.ok, vec)) (hpos : 0 < item.count) :
    Places proto item (b.seen item dest swap) vec ∧ placed vec = item.count ∧
      tabId dest.1 < b.guild.getPurchasedTabsSize := by
  unfold canStore at h
  by_cases hbound : item.soulBound = true
  · rw [if_pos hbound] at h
    cases h
  rw [if_neg hbound] at h
  by_cases htab : b.guild.getPurchasedTabsSize ≤ tabId dest.1
  · rw [if_pos htab] at h
    cases h
  rw [if_neg htab] at h
  have hfirst : (if swap = true then none else exceptSelf item (b.getItem dest)) =
      b.seen item dest swap dest.2 := by
    simp [seen]
  dsimp only at h
  rw [hfirst] at h
  have hnil : Places proto item (b.seen item dest swap) [] := Places.nil
  obtain ⟨hplaces, hsum⟩ := places_reserveSpace (r := ⟨[], item.count⟩) hnil hpos dest.2
  have htab' := BitVec.not_le.mp htab
  generalize reserveSpace proto dest.2 item (b.seen item dest swap dest.2) ⟨[], item.count⟩ =
    result at h hplaces hsum
  obtain ⟨_ | _, r⟩ := result
  · cases h
  · change placed r.vec + r.count = 0 + item.count at hsum
    dsimp only at h hplaces
    have hmerged : Places proto item (b.seen item dest swap)
          (if 1 < (proto item.entry).getMaxStackSize then
            b.canStoreItemInTab proto dest.1 item dest.2 true r else r).vec ∧
        placed (if 1 < (proto item.entry).getMaxStackSize then
            b.canStoreItemInTab proto dest.1 item dest.2 true r else r).vec +
          (if 1 < (proto item.entry).getMaxStackSize then
            b.canStoreItemInTab proto dest.1 item dest.2 true r else r).count =
              placed r.vec + r.count := by
      split_ifs
      · exact places_canStoreItemInTab true hplaces
      · exact ⟨hplaces, rfl⟩
    generalize (if 1 < (proto item.entry).getMaxStackSize then
      b.canStoreItemInTab proto dest.1 item dest.2 true r else r) = r' at h hmerged
    obtain ⟨hplaces', hsum'⟩ := hmerged
    obtain ⟨hplaces'', hsum''⟩ := places_canStoreItemInTab false hplaces'
    split_ifs at h with hzero₀ hzero₁ hzero₂
    · obtain rfl := (Prod.mk.inj h).2
      exact ⟨hplaces, by omega, htab'⟩
    · obtain rfl := (Prod.mk.inj h).2
      exact ⟨hplaces', by omega, htab'⟩
    · obtain rfl := (Prod.mk.inj h).2
      exact ⟨hplaces'', by omega, htab'⟩
    · cases h

end

/-! ## The bank -/

/-- **A stocked bank**: every stack is between one item and a full stack, no object is in two
slots, and the next object gets a number no other has. -/
structure Stocked (proto : ℕ → ItemTemplate) (b : GuildBank) : Prop where
  counts : ∀ s i, b.items s = some i → 0 < i.count ∧ i.count ≤ (proto i.entry).getMaxStackSize
  distinct : b.items.Distinct Item.guid
  fresh : ∀ s i, b.items s = some i → i.guid < b.nextItemGuid

/-- The number of items of a kind. -/
def entryCount (entry : ℕ) (i : Item) : ℕ := if i.entry = entry then i.count else 0

/-- **The number of items of a kind in all slots.** -/
def entryTotal (b : GuildBank) (entry : ℕ) : ℕ := b.items.total (entryCount entry)

/-- An item object outside the bank, with a number of its own. -/
structure Outside (b : GuildBank) (item : Item) : Prop where
  ne : ∀ s i, b.items s = some i → i.guid ≠ item.guid
  lt : item.guid < b.nextItemGuid

section

variable {proto : ℕ → ItemTemplate} {item : Item} {b : GuildBank} {s : BankSlot}

theorem getItem_of_lt (h : tabId s.1 < b.guild.getPurchasedTabsSize) :
    b.getItem s = b.items s := if_pos h

theorem Stocked.take (hb : b.Stocked proto) {s : BankSlot} (hs : b.items s = some item)
    (guild : Guild) :
    Stocked proto { b with guild := guild, items := b.items.put s none } ∧
      Outside { b with guild := guild, items := b.items.put s none } item := by
  have hitem : ∀ s' i, b.items.put s none s' = some i → s' ≠ s ∧ b.items s' = some i := by
    intro s' i hi
    rcases eq_or_ne s' s with rfl | hne
    · rw [Slots.put_self] at hi
      cases hi
    · rw [Slots.put_of_ne _ _ hne] at hi
      exact ⟨hne, hi⟩
  refine ⟨⟨fun s' i hi => hb.counts s' i (hitem s' i hi).2, hb.distinct.put_none s,
    fun s' i hi => hb.fresh s' i (hitem s' i hi).2⟩, fun s' i hi heq => ?_, hb.fresh s item hs⟩
  obtain ⟨hne, hi'⟩ := hitem s' i hi
  exact hne (hb.distinct s' s i item hi' hs heq)

/-- Filling a slot with an object whose number is in no other slot keeps the bank stocked. -/
theorem Stocked.put (hb : b.Stocked proto) {i : Item} {next : ℕ}
    (hcount : 0 < i.count ∧ i.count ≤ (proto i.entry).getMaxStackSize)
    (hnew : ∀ s' i', s' ≠ s → b.items s' = some i' → i'.guid ≠ i.guid)
    (hlt : i.guid < next) (hnext : b.nextItemGuid ≤ next) (guild : Guild) :
    Stocked proto { b with guild := guild, items := b.items.put s (some i), nextItemGuid := next }
    where
  counts s' j hj := by
    rcases eq_or_ne s' s with rfl | hne
    · dsimp only at hj
      rw [Slots.put_self] at hj
      cases hj
      exact hcount
    · dsimp only at hj
      rw [Slots.put_of_ne _ _ hne] at hj
      exact hb.counts s' j hj
  distinct := hb.distinct.put_some hnew
  fresh s' j hj := by
    rcases eq_or_ne s' s with rfl | hne
    · dsimp only at hj
      rw [Slots.put_self] at hj
      cases hj
      exact hlt
    · dsimp only at hj
      rw [Slots.put_of_ne _ _ hne] at hj
      exact (hb.fresh s' j hj).trans_le hnext

/-- **Storing at one place**: its slot holds the items it held and the new ones, the item is
still outside while there are more places to come, and nothing else changes. -/
theorem storeItemAt_spec (hb : b.Stocked proto) (hitem : b.Outside item)
    {tab : Fin guildBankMaxTabs} (htab : tabId tab < b.guild.getPurchasedTabsSize)
    {p : ItemPosCount} (hpos : 0 < p.count)
    (htakes : Takes proto item (b.items (tab, p.pos)) p.count) (clone : Bool) :
    ∃ i next, b.storeItemAt proto tab item p clone =
        { b with items := b.items.put (tab, p.pos) (some i), nextItemGuid := next } ∧
      i.entry = item.entry ∧ i.count = heldCount (b.items (tab, p.pos)) + p.count ∧
      (b.storeItemAt proto tab item p clone).Stocked proto ∧
      (clone = true → (b.storeItemAt proto tab item p clone).Outside item) := by
  obtain ⟨hentry, hroom⟩ := htakes
  have hmax := (proto item.entry).getMaxStackSize_lt
  -- the item is outside of what the slots hold after one of them gets another object
  have houtside : ∀ (i : Item) (next : ℕ), i.guid ≠ item.guid → b.nextItemGuid ≤ next →
      Outside { b with items := b.items.put (tab, p.pos) (some i), nextItemGuid := next } item := by
    intro i next hne hnext
    refine ⟨fun s' j hj => ?_, hitem.lt.trans_le hnext⟩
    dsimp only at hj
    rcases eq_or_ne s' (tab, p.pos) with rfl | hs
    · rw [Slots.put_self] at hj
      exact Option.some.inj hj ▸ hne
    · rw [Slots.put_of_ne _ _ hs] at hj
      exact hitem.ne s' j hj
  unfold storeItemAt
  rw [getItem_of_lt htab]
  cases hdest : b.items (tab, p.pos) with
  | some d =>
    rw [hdest, heldCount_some] at hroom
    have hcount : (d.setCount (d.count + p.count)).count = d.count + p.count :=
      Item.setCount_count (by omega)
    have hkind := hentry d hdest
    have hstack : 0 < (d.setCount (d.count + p.count)).count ∧
        (d.setCount (d.count + p.count)).count ≤ (proto d.entry).getMaxStackSize := by
      rw [hcount, hkind]
      exact ⟨Nat.add_pos_right _ hpos, hroom⟩
    refine ⟨_, b.nextItemGuid, rfl, hkind, hcount, ?_, fun _ => ?_⟩
    · refine hb.put hstack (fun s' i' hne hi' heq => ?_) (hb.fresh _ d hdest) le_rfl b.guild
      exact hne (hb.distinct s' _ i' d hi' hdest heq)
    · exact houtside _ b.nextItemGuid (hitem.ne _ d hdest) le_rfl
  | none =>
    rw [hdest, heldCount_none, Nat.zero_add] at hroom
    cases clone with
    | true =>
      rw [if_pos rfl, Item.cloneItem_eq _ hpos hroom]
      refine ⟨_, b.nextItemGuid + 1, rfl, rfl, (Nat.zero_add _).symm, ?_, fun _ => ?_⟩
      · refine hb.put ⟨hpos, hroom⟩ (fun s' i' _ hi' => (hb.fresh s' i' hi').ne)
          (Nat.lt_succ_self _) (Nat.le_succ _) b.guild
      · exact houtside _ _ hitem.lt.ne' (Nat.le_succ _)
    | false =>
      have hcount : (item.setCount p.count).count = p.count := Item.setCount_count (by omega)
      have hstack : 0 < (item.setCount p.count).count ∧
          (item.setCount p.count).count ≤ (proto item.entry).getMaxStackSize := by
        rw [hcount]
        exact ⟨hpos, hroom⟩
      refine ⟨_, b.nextItemGuid, rfl, rfl, hcount.trans (Nat.zero_add _).symm, ?_, nofun⟩
      exact hb.put hstack (fun s' i' _ hi' => hitem.ne s' i' hi') hitem.lt le_rfl b.guild

theorem entryTotal_put {i : Item} {n next : ℕ} {guild : Guild}
    (hentry : ∀ d, b.items s = some d → d.entry = i.entry)
    (hcount : i.count = heldCount (b.items s) + n) (entry : ℕ) :
    entryTotal { b with guild := guild, items := b.items.put s (some i), nextItemGuid := next }
      entry = b.entryTotal entry + if i.entry = entry then n else 0 := by
  have htotal := b.items.total_put (entryCount entry) s (some i)
  rw [Slots.weight_some] at htotal
  unfold entryTotal
  dsimp only
  cases hs : b.items s with
  | none =>
    rw [hs, heldCount_none, Nat.zero_add] at hcount
    rw [hs, Slots.weight_none, entryCount, hcount] at htotal
    omega
  | some d =>
    rw [hs, heldCount_some] at hcount
    rw [hs, Slots.weight_some, entryCount, entryCount, hentry d hs, hcount] at htotal
    split_ifs at htotal ⊢ <;> omega

theorem storeItem_spec (tab : Fin guildBankMaxTabs) (vec : List ItemPosCount) :
    ∀ {b : GuildBank}, b.Stocked proto → b.Outside item →
      tabId tab < b.guild.getPurchasedTabsSize →
      Places proto item (fun slotId => b.items (tab, slotId)) vec →
      (b.storeItem proto tab item vec).Stocked proto ∧
      (b.storeItem proto tab item vec).guild = b.guild ∧
      (∀ s, (∀ p ∈ vec, s ≠ (tab, p.pos)) →
        (b.storeItem proto tab item vec).items s = b.items s) ∧
      ∀ entry, (b.storeItem proto tab item vec).entryTotal entry =
        b.entryTotal entry + if item.entry = entry then placed vec else 0 := by
  induction vec with
  | nil =>
    intro b hb hitem htab hplaces
    exact ⟨hb, rfl, fun _ _ => rfl, fun entry => by simp [storeItem, placed]⟩
  | cons p rest ih =>
    intro b hb hitem htab hplaces
    have hentry := (hplaces.takes p List.mem_cons_self).entry
    obtain ⟨i, next, heq, hkind, hcount, hb', houtside⟩ := storeItemAt_spec hb hitem htab
      (hplaces.pos p List.mem_cons_self) (hplaces.takes p List.mem_cons_self) (rest ≠ [])
    have htotal : ∀ entry, (b.storeItemAt proto tab item p (rest ≠ [])).entryTotal entry =
        b.entryTotal entry + if item.entry = entry then p.count else 0 := by
      intro entry
      rw [heq, entryTotal_put (hkind ▸ hentry) hcount, hkind]
    have hother : ∀ s, s ≠ (tab, p.pos) →
        (b.storeItemAt proto tab item p (rest ≠ [])).items s = b.items s := by
      intro s hs
      rw [heq]
      exact Slots.put_of_ne _ _ hs
    have hguild : (b.storeItemAt proto tab item p (rest ≠ [])).guild = b.guild := by rw [heq]
    cases rest with
    | nil =>
      refine ⟨hb', hguild, fun s hs => hother s (hs p List.mem_cons_self), fun entry => ?_⟩
      rw [show placed [p] = p.count by simp [placed]]
      exact htotal entry
    | cons p' rest =>
      have hnodup := List.nodup_cons.mp hplaces.nodup
      have hrest : Places proto item (fun slotId =>
          (b.storeItemAt proto tab item p true).items (tab, slotId)) (p' :: rest) := by
        have htail : Places proto item (fun slotId => b.items (tab, slotId)) (p' :: rest) :=
          ⟨hnodup.2, fun q hq => hplaces.pos q (List.mem_cons_of_mem _ hq),
            fun q hq => hplaces.takes q (List.mem_cons_of_mem _ hq)⟩
        refine htail.mono fun q hq n htakes => ?_
        have hne : (tab, q.pos) ≠ (tab, p.pos) := by
          intro h
          refine hnodup.1 ?_
          rw [← (Prod.mk.inj h).2]
          exact List.mem_map_of_mem hq
        rwa [show (b.storeItemAt proto tab item p true).items (tab, q.pos) =
          b.items (tab, q.pos) from hother _ hne]
      obtain ⟨hstocked, hguild', hframe, htotal'⟩ := ih hb' (houtside (by simp))
        (by rw [hguild]; exact htab) hrest
      refine ⟨hstocked, hguild'.trans hguild, fun s hs => ?_, fun entry => ?_⟩
      · rw [← hother s (hs p List.mem_cons_self)]
        exact hframe s fun q hq => hs q (List.mem_cons_of_mem _ hq)
      · refine (htotal' entry).trans ?_
        rw [htotal, show placed (p :: p' :: rest) = p.count + placed (p' :: rest) by simp [placed]]
        split_ifs <;> omega

end

/-! ## The three moves -/

section

variable {proto : ℕ → ItemTemplate} {player : Guid} {b : GuildBank} {src dest : BankSlot}
  {item destItem : Item}

theorem getPurchasedTabsSize_updateMemberWithdrawSlots (g : Guild) (guid : Guid)
    (tab : Fin guildBankMaxTabs) :
    (g.updateMemberWithdrawSlots guid tab).getPurchasedTabsSize = g.getPurchasedTabsSize := by
  unfold Guild.updateMemberWithdrawSlots
  cases g.getMember guid with
  | none => rfl
  | some member =>
    dsimp only
    split_ifs <;> rfl

/-- What a removal leaves in the slot. -/
def leftOver (item : Item) (splitedAmount : ℕ) : Option Item :=
  if splitedAmount ≠ 0 then some (item.setCount (item.count - splitedAmount)) else none

theorem removeItem_eq (player : Guid) (src dest : BankSlot) (item : Item)
    (hsrc : tabId src.1 < b.guild.getPurchasedTabsSize) (splitedAmount : ℕ) :
    ∃ guild : Guild, guild.getPurchasedTabsSize = b.guild.getPurchasedTabsSize ∧
      b.removeItem player src item dest splitedAmount =
        { b with guild := guild, items := b.items.put src (leftOver item splitedAmount) } := by
  unfold removeItem leftOver
  rw [if_pos hsrc]
  refine ⟨if dest.1 ≠ src.1 then b.guild.updateMemberWithdrawSlots player src.1 else b.guild,
    ?_, ?_⟩
  · split_ifs
    · exact getPurchasedTabsSize_updateMemberWithdrawSlots _ _ _
    · rfl
  · split_ifs <;> rfl

/-- What a move must keep. -/
structure Conserves (proto : ℕ → ItemTemplate) (b b' : GuildBank) : Prop where
  stocked : b'.Stocked proto
  total : ∀ entry, b'.entryTotal entry = b.entryTotal entry

theorem seen_eq_of_take (hb : b.Stocked proto) (hitem : b.items src = some item)
    (hdest : tabId dest.1 < b.guild.getPurchasedTabsSize) (slotId : Fin guildBankMaxSlots) :
    b.seen item dest false slotId = b.items.put src none (dest.1, slotId) := by
  rw [seen, if_neg (by simp), getItem_of_lt (s := (dest.1, slotId)) hdest]
  rcases eq_or_ne (dest.1, slotId) src with heq | hne
  · rw [heq, Slots.put_self, hitem]
    simp [exceptSelf]
  · rw [Slots.put_of_ne _ _ hne]
    cases hd : b.items (dest.1, slotId) with
    | none => rfl
    | some d =>
      have : d.guid ≠ item.guid := fun h => hne (hb.distinct _ _ d item hd hitem h)
      simp [exceptSelf, this]

/-- What the reservation saw of the slots for an object that is in none of them. -/
theorem seen_eq_of_outside (hitem : b.Outside item)
    (hdest : tabId dest.1 < b.guild.getPurchasedTabsSize) (slotId : Fin guildBankMaxSlots) :
    b.seen item dest false slotId = b.items (dest.1, slotId) := by
  rw [seen, if_neg (by simp), getItem_of_lt (s := (dest.1, slotId)) hdest]
  cases hd : b.items (dest.1, slotId) with
  | none => rfl
  | some d => simp [exceptSelf, hitem.ne _ d hd]

variable {vec : List ItemPosCount}

/-- **A whole stack** is taken and stored at the places found for it. -/
theorem conserves_merge (hb : b.Stocked proto) (hitem : b.items src = some item)
    (hsrc : tabId src.1 < b.guild.getPurchasedTabsSize)
    (hstore : b.canStore proto dest item false = (.ok, vec)) :
    Conserves proto b
      ((b.removeItem player src item dest 0).storeItem proto dest.1 item vec) := by
  obtain ⟨hplaces, hplaced, hdest⟩ := places_of_canStore hstore (hb.counts src item hitem).1
  obtain ⟨guild, hsize, heq⟩ := removeItem_eq player src dest item hsrc 0
  rw [leftOver, if_neg (by simp)] at heq
  obtain ⟨hstocked, houtside⟩ := hb.take hitem guild
  rw [heq]
  obtain ⟨hstocked', -, -, htotal⟩ := storeItem_spec dest.1 vec hstocked houtside
    (hsize ▸ hdest) (hplaces.mono fun p _ n htakes => by
      rw [seen_eq_of_take hb hitem hdest] at htakes
      exact htakes)
  refine ⟨hstocked', fun entry => (htotal entry).trans ?_⟩
  have htaken := b.items.total_put (entryCount entry) src none
  rw [hitem, Slots.weight_some, Slots.weight_none, entryCount, Nat.add_zero] at htaken
  rw [hplaced]
  exact htaken

/-- **A part of a stack** is a new object, stored at the places found for it. -/
theorem conserves_split (hb : b.Stocked proto) (hitem : b.items src = some item)
    (hsrc : tabId src.1 < b.guild.getPurchasedTabsSize) {splitedAmount : ℕ}
    (hpos : splitedAmount ≠ 0) (hlt : splitedAmount < item.count)
    {clone : Item} (hclone : clone = { item with guid := b.nextItemGuid, count := splitedAmount })
    (hstore : { b with nextItemGuid := b.nextItemGuid + 1 }.canStore proto dest clone false =
      (.ok, vec)) :
    Conserves proto b
      (({ b with nextItemGuid := b.nextItemGuid + 1 }.removeItem player src item dest
        splitedAmount).storeItem proto dest.1 clone vec) := by
  obtain ⟨hcount, hmax⟩ := hb.counts src item hitem
  have hmax' := (proto item.entry).getMaxStackSize_lt
  have hrest : (item.setCount (item.count - splitedAmount)).count = item.count - splitedAmount :=
    Item.setCount_count (by omega)
  obtain ⟨hplaces, hplaced, hdest⟩ := places_of_canStore hstore
    (by rw [hclone]; exact Nat.pos_of_ne_zero hpos)
  have houtside : Outside { b with nextItemGuid := b.nextItemGuid + 1 } clone := by
    rw [hclone]
    exact ⟨fun s i hi => (hb.fresh s i hi).ne, Nat.lt_succ_self _⟩
  obtain ⟨guild, hsize, heq⟩ := removeItem_eq (b := { b with nextItemGuid := b.nextItemGuid + 1 })
    player src dest item hsrc splitedAmount
  rw [leftOver, if_pos hpos] at heq
  have hstocked : Stocked proto { b with
      guild := guild, items := b.items.put src (some (item.setCount (item.count - splitedAmount)))
      nextItemGuid := b.nextItemGuid + 1 } := by
    refine hb.put (i := item.setCount (item.count - splitedAmount)) ?_
      (fun s' i' hne hi' h => hne (hb.distinct s' src i' item hi' hitem h))
      ((hb.fresh src item hitem).trans (Nat.lt_succ_self _)) (Nat.le_succ _) guild
    rw [hrest]
    exact ⟨by omega, (Nat.sub_le _ _).trans hmax⟩
  have houtside' : Outside { b with
      guild := guild, items := b.items.put src (some (item.setCount (item.count - splitedAmount)))
      nextItemGuid := b.nextItemGuid + 1 } clone := by
    refine ⟨fun s i hi => ?_, houtside.lt⟩
    dsimp only at hi
    rcases eq_or_ne s src with rfl | hne
    · rw [Slots.put_self] at hi
      cases hi
      exact houtside.ne s item hitem
    · rw [Slots.put_of_ne _ _ hne] at hi
      exact houtside.ne s i hi
  rw [heq]
  -- the source slot has at least the room it was seen to have
  obtain ⟨hstocked', -, -, htotal⟩ := storeItem_spec dest.1 vec hstocked
    houtside' (hsize ▸ hdest) (hplaces.mono fun p _ n htakes => by
      rw [seen_eq_of_outside houtside hdest] at htakes
      dsimp only at htakes ⊢
      rcases eq_or_ne (dest.1, p.pos) src with hps | hne
      · rw [hps, Slots.put_self]
        rw [hps, hitem] at htakes
        obtain ⟨hentry, hroom⟩ := htakes
        refine ⟨fun d hd => ?_, ?_⟩
        · cases hd
          exact hentry item rfl
        · rw [heldCount_some] at hroom ⊢
          omega
      · rwa [Slots.put_of_ne _ _ hne])
  refine ⟨hstocked', fun entry => (htotal entry).trans ?_⟩
  have htaken := b.items.total_put (entryCount entry) src
    (some (item.setCount (item.count - splitedAmount)))
  rw [hitem, Slots.weight_some, Slots.weight_some, entryCount, entryCount, hrest,
    Item.setCount_entry] at htaken
  rw [hplaced, hclone]
  unfold entryTotal
  dsimp only
  split_ifs at htaken ⊢ <;> omega

/-- When the named slot's stack is swapped away, the slot takes all of the item. -/
theorem eq_of_canStore_swap (hmax : item.count ≤ (proto item.entry).getMaxStackSize)
    (h : b.canStore proto dest item true = (.ok, vec)) : vec = [⟨dest.2, item.count⟩] := by
  have hreserve : reserveSpace proto dest.2 item none ⟨[], item.count⟩ =
      (true, ⟨[⟨dest.2, item.count⟩], 0⟩) := by
    simp [reserveSpace, Nat.min_eq_right hmax]
  unfold canStore at h
  by_cases hbound : item.soulBound = true
  · rw [if_pos hbound] at h
    cases h
  rw [if_neg hbound] at h
  by_cases htab : b.guild.getPurchasedTabsSize ≤ tabId dest.1
  · rw [if_pos htab] at h
    cases h
  rw [if_neg htab] at h
  simp only [if_true, hreserve] at h
  exact (Prod.mk.inj h).2.symm

theorem storeItem_singleton (dest : BankSlot) (item : Item)
    (hdest : tabId dest.1 < b.guild.getPurchasedTabsSize)
    (hempty : b.items dest = none) (hlt : item.count < 2 ^ 32) :
    b.storeItem proto dest.1 item [⟨dest.2, item.count⟩] =
      { b with items := b.items.put dest (some item) } := by
  have hitem : item.setCount item.count = item := by
    rw [Item.setCount, Nat.mod_eq_of_lt hlt]
  rw [storeItem, storeItemAt, getItem_of_lt (s := (dest.1, dest.2)) hdest, hempty]
  simp [hitem]

/-- **Two stacks** change places. -/
theorem conserves_swap (hb : b.Stocked proto) (hitem : b.items src = some item)
    (hdestItem : b.items dest = some destItem) (hne : src ≠ dest)
    (hsrc : tabId src.1 < b.guild.getPurchasedTabsSize)
    (hdest : tabId dest.1 < b.guild.getPurchasedTabsSize) {destVec : List ItemPosCount}
    (hstore : b.canStore proto dest item true = (.ok, vec))
    (hstore' : b.canStore proto src destItem true = (.ok, destVec)) :
    Conserves proto b
      ((((b.removeItem player src item dest 0).removeItem player dest destItem src 0).storeItem
        proto dest.1 item vec).storeItem proto src.1 destItem destVec) := by
  obtain ⟨hcount, hmax⟩ := hb.counts src item hitem
  obtain ⟨hcount', hmax'⟩ := hb.counts dest destItem hdestItem
  have hlt := (proto item.entry).getMaxStackSize_lt
  have hlt' := (proto destItem.entry).getMaxStackSize_lt
  rw [eq_of_canStore_swap hmax hstore, eq_of_canStore_swap hmax' hstore']
  -- both slots are emptied
  obtain ⟨guild, hsize, heq⟩ := removeItem_eq player src dest item hsrc 0
  rw [leftOver, if_neg (by simp)] at heq
  obtain ⟨hstocked, houtside⟩ := hb.take hitem guild
  have hdestItem' : (b.items.put src none) dest = some destItem := by
    rw [Slots.put_of_ne _ _ hne.symm, hdestItem]
  obtain ⟨guild', hsize', heq'⟩ := removeItem_eq
    (b := { b with guild := guild, items := b.items.put src none }) player dest src destItem
    (hsize ▸ hdest) 0
  rw [leftOver, if_neg (by simp)] at heq'
  obtain ⟨hstocked', houtside'⟩ := hstocked.take hdestItem' guild'
  have hsrc' : tabId src.1 < guild'.getPurchasedTabsSize := (hsize'.trans hsize).symm ▸ hsrc
  have hdest' : tabId dest.1 < guild'.getPurchasedTabsSize := (hsize'.trans hsize).symm ▸ hdest
  have hempty : ((b.items.put src none).put dest none) src = none := by
    rw [Slots.put_of_ne _ _ hne, Slots.put_self]
  have hempty' : (((b.items.put src none).put dest none).put dest (some item)) src = none := by
    rw [Slots.put_of_ne _ _ hne, hempty]
  rw [heq, heq', storeItem_singleton dest item hdest' (Slots.put_self _ _ _)
    (by omega), storeItem_singleton src destItem hsrc' hempty' (by omega)]
  have hguid : destItem.guid ≠ item.guid := fun h =>
    hne.symm (hb.distinct dest src destItem item hdestItem hitem h)
  constructor
  · -- then both are filled
    have hput := hstocked'.put (i := item) ⟨hcount, hmax⟩ (s := dest)
      (fun s' i' hs' hi' => by
        dsimp only at hi'
        rw [Slots.put_of_ne _ _ hs'] at hi'
        exact houtside.ne s' i' hi')
      houtside.lt le_rfl guild'
    refine hput.put (i := destItem) ⟨hcount', hmax'⟩ (fun s' i' _ hi' => ?_) houtside'.lt le_rfl
      guild'
    dsimp only at hi'
    rcases eq_or_ne s' dest with rfl | hs'
    · rw [Slots.put_self] at hi'
      exact Option.some.inj hi' ▸ hguid.symm
    · rw [Slots.put_of_ne _ _ hs'] at hi'
      exact houtside'.ne s' i' hi'
  · intro entry
    have h₁ := b.items.total_put (entryCount entry) src none
    have h₂ := (b.items.put src none).total_put (entryCount entry) dest none
    have h₃ := ((b.items.put src none).put dest none).total_put (entryCount entry) dest (some item)
    have h₄ := (((b.items.put src none).put dest none).put dest (some item)).total_put
      (entryCount entry) src (some destItem)
    rw [hitem] at h₁
    rw [hdestItem'] at h₂
    rw [Slots.put_self] at h₃
    rw [hempty'] at h₄
    unfold entryTotal
    dsimp only
    omega

theorem Conserves.refl (hb : b.Stocked proto) : Conserves proto b b := ⟨hb, fun _ => rfl⟩

theorem conserves_of_next (hb : b.Stocked proto) :
    Conserves proto b { b with nextItemGuid := b.nextItemGuid + 1 } :=
  ⟨⟨hb.counts, hb.distinct, fun s i hi => (hb.fresh s i hi).trans (Nat.lt_succ_self _)⟩,
    fun _ => rfl⟩

theorem doItemsMove_merge (player : Guid) (dest : BankSlot) (hb : b.Stocked proto)
    (hitem : b.items src = some item) (hsrc : tabId src.1 < b.guild.getPurchasedTabsSize) :
    (∃ b', b.doItemsMove proto player src dest item item none 0 = (true, b') ∧
      Conserves proto b b') ∨
      b.doItemsMove proto player src dest item item none 0 = (false, b) := by
  unfold doItemsMove
  cases hstore : b.canStore proto dest item (none : Option Item).isSome with
  | mk result vec =>
    cases result with
    | ok => exact .inl ⟨_, rfl, conserves_merge hb hitem hsrc hstore⟩
    | _ => exact .inr rfl

theorem doItemsMove_swap (hb : b.Stocked proto) (hitem : b.items src = some item)
    (hdestItem : b.items dest = some destItem) (hne : src ≠ dest)
    (hsrc : tabId src.1 < b.guild.getPurchasedTabsSize)
    (hdest : tabId dest.1 < b.guild.getPurchasedTabsSize) :
    Conserves proto b
      (b.doItemsMove proto player src dest item item (some destItem) 0).2 := by
  unfold doItemsMove
  cases hstore : b.canStore proto dest item (some destItem).isSome with
  | mk result vec =>
    cases result with
    | ok =>
      dsimp only
      cases hstore' : b.canStore proto src destItem true with
      | mk result' destVec =>
        cases result' with
        | ok => exact conserves_swap hb hitem hdestItem hne hsrc hdest hstore hstore'
        | _ => exact Conserves.refl hb
    | _ => exact Conserves.refl hb

theorem doItemsMove_split (hb : b.Stocked proto) (hitem : b.items src = some item)
    (hsrc : tabId src.1 < b.guild.getPurchasedTabsSize) {splitedAmount : ℕ}
    (hpos : splitedAmount ≠ 0) (hlt : splitedAmount < item.count) {clone : Item}
    (hclone : clone = { item with guid := b.nextItemGuid, count := splitedAmount }) :
    Conserves proto b
      ({ b with nextItemGuid := b.nextItemGuid + 1 }.doItemsMove proto player src dest item clone
        none splitedAmount).2 := by
  unfold doItemsMove
  cases hstore : { b with nextItemGuid := b.nextItemGuid + 1 }.canStore proto dest clone
      (none : Option Item).isSome with
  | mk result vec =>
    cases result with
    | ok => exact conserves_split hb hitem hsrc hpos hlt hclone hstore
    | _ => exact conserves_of_next hb

theorem conserves_moveItems (player : Guid) (hb : b.Stocked proto)
    (hsrc : tabId src.1 < b.guild.getPurchasedTabsSize)
    (hdest : tabId dest.1 < b.guild.getPurchasedTabsSize) (hne : src ≠ dest)
    (splitedAmount : ℕ) :
    Conserves proto b (b.moveItems proto player src dest splitedAmount) := by
  unfold moveItems
  rw [getItem_of_lt hsrc]
  cases hitem : b.items src with
  | none => exact Conserves.refl hb
  | some item =>
    obtain ⟨hcount, hmax⟩ := hb.counts src item hitem
    dsimp only
    by_cases hlarge : item.count < splitedAmount
    · rw [if_pos hlarge]
      exact Conserves.refl hb
    rw [if_neg hlarge]
    -- a part of the stack is less than all of it
    have hpart : (if splitedAmount = item.count then 0 else splitedAmount) ≠ 0 →
        (if splitedAmount = item.count then 0 else splitedAmount) < item.count := by
      split_ifs <;> omega
    generalize (if splitedAmount = item.count then 0 else splitedAmount) = part at hpart
    split_ifs with hstoreRights hwithdrawRights hsplit
    · exact Conserves.refl hb
    · exact Conserves.refl hb
    · have hlt := hpart hsplit
      rw [Item.cloneItem_eq _ (Nat.pos_of_ne_zero hsplit) (hlt.le.trans hmax)]
      exact doItemsMove_split hb hitem hsrc hsplit hlt rfl
    · obtain ⟨b', heq, hconserves⟩ | heq := doItemsMove_merge player dest hb hitem hsrc
      · rw [heq]
        exact hconserves
      · rw [heq]
        dsimp only
        rw [getItem_of_lt hdest]
        cases hdestItem : b.items dest with
        | none => exact Conserves.refl hb
        | some destItem =>
          split_ifs with hstoreRights' hwithdrawRights'
          · exact Conserves.refl hb
          · exact Conserves.refl hb
          · exact doItemsMove_swap hb hitem hdestItem hne hsrc hdest

/-- **A move in the bank conserves the items.** Whatever the bank holds, the slots, the amount
and the rights: the number of items of every kind is what it was, every stack is between one item
and a full stack, and no object is in two slots. -/
theorem swapItems_conserves (hb : b.Stocked proto) (splitedAmount : ℕ) :
    (b.swapItems proto player src dest splitedAmount).Stocked proto ∧
      ∀ entry, (b.swapItems proto player src dest splitedAmount).entryTotal entry =
        b.entryTotal entry := by
  unfold swapItems
  split_ifs with htabs hsame
  · exact ⟨hb, fun _ => rfl⟩
  · exact ⟨hb, fun _ => rfl⟩
  · rw [not_or, BitVec.not_le, BitVec.not_le] at htabs
    obtain ⟨hstocked, htotal⟩ := conserves_moveItems player hb htabs.1 htabs.2 hsame
      splitedAmount
    exact ⟨hstocked, htotal⟩

end

/-- A kind that stacks to 20. -/
def stackOf20 : ItemTemplate := ⟨20, false⟩

def firstSlot : BankSlot := (⟨0, by decide⟩, ⟨0, by decide⟩)

def secondSlot : BankSlot := (⟨0, by decide⟩, ⟨1, by decide⟩)

/-- A bank with one tab, whose first two slots hold 15 and 8 of one kind. -/
def twoStacks : GuildBank where
  guild :=
    { id := 1, leaderGuid := 1, motd := "", ranks := []
      members := OrderedMap.empty.set 1 ⟨1, "Ana", 0, "", "", fun _ => 0⟩
      purchasedTabs := 1, bankMoney := 0 }
  items := fun s =>
    if s = firstSlot then some ⟨1, 7, 15, false, 0⟩
    else if s = secondSlot then some ⟨2, 7, 8, false, 0⟩
    else none
  nextItemGuid := 3

theorem stocked_twoStacks : twoStacks.Stocked fun _ => stackOf20 := by
  have hitem : ∀ s i, twoStacks.items s = some i →
      (s = firstSlot ∧ i = ⟨1, 7, 15, false, 0⟩) ∨ (s = secondSlot ∧ i = ⟨2, 7, 8, false, 0⟩) := by
    intro s i hi
    simp only [twoStacks] at hi
    split_ifs at hi with h₀ h₁
    · exact .inl ⟨h₀, (Option.some.inj hi).symm⟩
    · exact .inr ⟨h₁, (Option.some.inj hi).symm⟩
  refine ⟨fun s i hi => ?_, fun s s' i i' hi hi' heq => ?_, fun s i hi => ?_⟩
  · obtain ⟨-, rfl⟩ | ⟨-, rfl⟩ := hitem s i hi <;> decide
  · obtain ⟨rfl, rfl⟩ | ⟨rfl, rfl⟩ := hitem s i hi <;>
      obtain ⟨rfl, rfl⟩ | ⟨rfl, rfl⟩ := hitem s' i' hi'
    · rfl
    · cases heq
    · cases heq
    · rfl
  · obtain ⟨-, rfl⟩ | ⟨-, rfl⟩ := hitem s i hi <;> decide

/-- A merge that leaves three items over, for which a free slot is found: the source's own. -/
theorem swapItems_conserves_twoStacks :
    (twoStacks.swapItems (fun _ => stackOf20) 1 firstSlot secondSlot 0).entryTotal 7 =
      twoStacks.entryTotal 7 :=
  (swapItems_conserves stocked_twoStacks 0).2 7

example : ((twoStacks.swapItems (fun _ => stackOf20) 1 firstSlot secondSlot 0).items firstSlot).map
    Item.count = some 3 := by decide +kernel

end GuildBank

end TeraCore
