import TeraCore.Auctions.Handlers

/-!
# Auctions: what a posting does to the seller's items

The counts of a posted list are checked one by one against the stacks they name, but the stack
on sale gets their sum.  So things of another kind than the first item's become things of its
kind, and a stack that is named twice can be sold for more than it holds.

These are the only ways: a posting keeps the number of things of every kind exactly when all the
named stacks are of one kind, and the counts listed for each of them sum to no more than it holds.

## Main results

* `reduceStack_total`: what one listed element takes, and when that is its count
* `clean_iff`: every element finds its count, when the sums fit
* `handleAuctionSellItem_keepsItems`: an accepted posting, and a rejected one
-/

namespace TeraCore

open Commons OrderedMap

namespace Inventory

/-- The size of a stack, zero for none. -/
def countAt (inv : Inventory) (guid : ℕ) : ℕ := ((inv.getItemByGuid guid).map Item.count).getD 0

theorem countAt_eq {inv : Inventory} {guid : ℕ} {item : Item}
    (h : inv.getItemByGuid guid = some item) : inv.countAt guid = item.count := by
  rw [countAt, h]
  rfl

/-- The entry of a stack. -/
def entryAt (inv : Inventory) (guid : ℕ) : Option ℕ := (inv.getItemByGuid guid).map Item.entry

end Inventory

/-! ## Lists of stacks and counts -/

/-- The sum of the counts that are listed for a stack. -/
def listed (guid : ℕ) (items : List (ℕ × BitVec 32)) : ℕ :=
  (items.map fun p => if p.1 = guid then p.2.toNat else 0).sum

/-- The sum of the counts that are listed for the stacks of an entry. -/
def listedOf (ent : ℕ → ℕ) (entry : ℕ) (items : List (ℕ × BitVec 32)) : ℕ :=
  (items.map fun p => if ent p.1 = entry then p.2.toNat else 0).sum

/-- The sum of all the counts. -/
def listedSum (items : List (ℕ × BitVec 32)) : ℕ := (items.map fun p => p.2.toNat).sum

/-- **What a list may take from an inventory**: stacks of one kind, and from each of them no more
than it holds. -/
def TakesFromStacks (inv : Inventory) (items : List (ℕ × BitVec 32)) : Prop :=
  (∀ p ∈ items, ∀ q ∈ items, inv.entryAt p.1 = inv.entryAt q.1) ∧
    ∀ p ∈ items, listed p.1 items ≤ inv.countAt p.1

instance (inv : Inventory) (items : List (ℕ × BitVec 32)) :
    Decidable (TakesFromStacks inv items) := inferInstanceAs (Decidable (_ ∧ _))

@[simp] theorem listed_nil (guid : ℕ) : listed guid [] = 0 := rfl

theorem listed_cons (guid : ℕ) (p : ℕ × BitVec 32) (items : List (ℕ × BitVec 32)) :
    listed guid (p :: items) = (if p.1 = guid then p.2.toNat else 0) + listed guid items := by
  rw [listed, List.map_cons, List.sum_cons]
  rfl

theorem listedOf_cons (ent : ℕ → ℕ) (entry : ℕ) (p : ℕ × BitVec 32)
    (items : List (ℕ × BitVec 32)) :
    listedOf ent entry (p :: items) =
      (if ent p.1 = entry then p.2.toNat else 0) + listedOf ent entry items := by
  rw [listedOf, List.map_cons, List.sum_cons]
  rfl

theorem listedSum_cons (p : ℕ × BitVec 32) (items : List (ℕ × BitVec 32)) :
    listedSum (p :: items) = p.2.toNat + listedSum items := by
  rw [listedSum, List.map_cons, List.sum_cons]
  rfl

variable {items : List (ℕ × BitVec 32)}

theorem listed_eq_zero {guid : ℕ} (h : ∀ p ∈ items, p.1 ≠ guid) : listed guid items = 0 := by
  induction items with
  | nil => rfl
  | cons p items ih =>
    rw [listed_cons, if_neg (h p List.mem_cons_self),
      ih fun q hq => h q (List.mem_cons_of_mem _ hq)]

theorem listedOf_eq_listedSum_iff {ent : ℕ → ℕ} {entry : ℕ} (hpos : ∀ p ∈ items, 0 < p.2.toNat) :
    listedOf ent entry items ≤ listedSum items ∧
      (listedOf ent entry items = listedSum items ↔ ∀ p ∈ items, ent p.1 = entry) := by
  induction items with
  | nil => simp [listedOf, listedSum]
  | cons p items ih =>
    obtain ⟨hle, hiff⟩ := ih fun q hq => hpos q (List.mem_cons_of_mem _ hq)
    have hp := hpos p List.mem_cons_self
    rw [listedOf_cons, listedSum_cons, List.forall_mem_cons, ← hiff]
    split_ifs with hent
    · exact ⟨by omega, by omega⟩
    · refine ⟨by omega, ⟨fun h => by omega, fun h => absurd h.1 hent⟩⟩

theorem listedOf_eq_zero {ent : ℕ → ℕ} {entry : ℕ}
    (h : ∀ p ∈ items, ent p.1 ≠ entry) : listedOf ent entry items = 0 := by
  induction items with
  | nil => rfl
  | cons p items ih =>
    rw [listedOf_cons, if_neg (h p List.mem_cons_self),
      ih fun q hq => h q (List.mem_cons_of_mem _ hq)]

/-! ## Reducing the stacks -/

namespace AuctionWorld

/-- The entries that the stacks of an inventory have are those of `ent`. -/
def EntriesFrom (ent : ℕ → ℕ) (inv : Inventory) : Prop :=
  ∀ g i, inv.getItemByGuid g = some i → i.entry = ent g

variable {inv : Inventory} {ent : ℕ → ℕ} {p : ℕ × BitVec 32}

theorem entriesFrom_reduceStack (h : EntriesFrom ent inv) (p : ℕ × BitVec 32) :
    EntriesFrom ent (reduceStack inv p) := by
  intro g i hi
  unfold reduceStack at hi
  cases hitem : inv.getItemByGuid p.1 with
  | none =>
    rw [hitem] at hi
    exact h g i hi
  | some item =>
    rw [hitem] at hi
    simp only at hi
    split_ifs at hi with hall
    · rw [Inventory.getItemByGuid, Inventory.find?_moveItemFromInventory] at hi
      split_ifs at hi
      exact h g i hi
    · rw [Inventory.getItemByGuid, Inventory.find?_setItemCount hitem] at hi
      split_ifs at hi with hg
      · cases hi
        rw [Item.setCount_entry, hg]
        exact h p.1 item hitem
      · exact h g i hi

/-- **One element of the list takes at most its count**, and just as much when the stack holds
it. From a stack that has gone it takes nothing, and one that is too small wraps around. -/
theorem reduceStack_total (h : EntriesFrom ent inv) (hpos : 0 < p.2.toNat) (entry : ℕ) :
    inv.total entry ≤
        (reduceStack inv p).total entry + (if ent p.1 = entry then p.2.toNat else 0) ∧
      (inv.total entry =
          (reduceStack inv p).total entry + (if ent p.1 = entry then p.2.toNat else 0) ↔
        (ent p.1 = entry → p.2.toNat ≤ inv.countAt p.1)) := by
  unfold reduceStack
  cases hitem : inv.getItemByGuid p.1 with
  | none =>
    have hzero : inv.countAt p.1 = 0 := by rw [Inventory.countAt, hitem]; rfl
    rw [hzero]
    dsimp only
    split_ifs with hent
    · exact ⟨by omega, ⟨fun _ => by omega, fun hle => by have := hle hent; omega⟩⟩
    · simp [hent]
  | some item =>
    have hentry : item.entry = ent p.1 := h p.1 item hitem
    rw [Inventory.countAt_eq hitem]
    dsimp only
    split_ifs with hall hent hent
    · have htotal := Inventory.total_moveItemFromInventory hitem entry
      rw [Item.amountOf, if_pos (hentry.trans hent)] at htotal
      exact ⟨by omega, ⟨fun _ _ => by omega, fun _ => by omega⟩⟩
    · have htotal := Inventory.total_moveItemFromInventory hitem entry
      rw [Item.amountOf, if_neg (hentry ▸ hent)] at htotal
      exact ⟨by omega, ⟨fun _ hc => absurd hc hent, fun _ => by omega⟩⟩
    · have htotal := Inventory.total_setItemCount hitem (Item.countSub item.count p.2.toNat) entry
      rw [Inventory.amountOf_setCount _ (Item.countSub_lt _ _), Item.amountOf,
        if_pos (hentry.trans hent), if_pos (hentry.trans hent)] at htotal
      rcases Nat.lt_or_ge item.count p.2.toNat with hlt | hge
      · -- The difference wraps around, and the stack grows.
        exact ⟨by omega, ⟨fun _ _ => by omega, fun hc => by have := hc hent; omega⟩⟩
      · have hsub := Item.countSub_of_le (inv.bounded p.1 item hitem) hge
        exact ⟨by omega, ⟨fun _ _ => by omega, fun _ => by omega⟩⟩
    · have htotal := Inventory.total_setItemCount hitem (Item.countSub item.count p.2.toNat) entry
      rw [Inventory.amountOf_setCount _ (Item.countSub_lt _ _), Item.amountOf,
        if_neg (hentry ▸ hent), if_neg (hentry ▸ hent)] at htotal
      exact ⟨by omega, ⟨fun _ hc => absurd hc hent, fun _ => by omega⟩⟩

/-- Every element of an entry's stacks finds its count when its turn comes. -/
def Clean (ent : ℕ → ℕ) (entry : ℕ) : Inventory → List (ℕ × BitVec 32) → Prop
  | _, [] => True
  | inv, p :: items =>
    (ent p.1 = entry → p.2.toNat ≤ inv.countAt p.1) ∧ Clean ent entry (reduceStack inv p) items

variable {w : AuctionWorld} {env : AuctionEnv} {item : Item}

theorem clean_of_ne {entry : ℕ} (h : ∀ p ∈ items, ent p.1 ≠ entry) : Clean ent entry inv items := by
  induction items generalizing inv with
  | nil => trivial
  | cons p items ih =>
    exact ⟨fun heq => absurd heq (h p List.mem_cons_self),
      ih fun q hq => h q (List.mem_cons_of_mem _ hq)⟩

/-- **The whole list takes at most its counts**, and just as much when every element finds its
count. -/
theorem total_foldl_reduceStack (h : EntriesFrom ent inv)
    (hpos : ∀ p ∈ items, 0 < p.2.toNat) (entry : ℕ) :
    inv.total entry ≤ (items.foldl reduceStack inv).total entry + listedOf ent entry items ∧
      (inv.total entry =
          (items.foldl reduceStack inv).total entry + listedOf ent entry items ↔
        Clean ent entry inv items) := by
  induction items generalizing inv with
  | nil => simp [listedOf, Clean]
  | cons p items ih =>
    obtain ⟨hle, hiff⟩ := reduceStack_total h (hpos p List.mem_cons_self) entry
    obtain ⟨hle', hiff'⟩ := ih (entriesFrom_reduceStack h p)
      fun q hq => hpos q (List.mem_cons_of_mem _ hq)
    rw [List.foldl_cons, listedOf_cons, Clean, ← hiff, ← hiff']
    exact ⟨by omega, by omega⟩

theorem countAt_reduceStack (hpos : 0 < p.2.toNat) (hle : p.2.toNat ≤ inv.countAt p.1) (g : ℕ) :
    (reduceStack inv p).countAt g = inv.countAt g - if p.1 = g then p.2.toNat else 0 := by
  unfold reduceStack
  cases hitem : inv.getItemByGuid p.1 with
  | none =>
    rw [Inventory.countAt, hitem] at hle
    exact absurd hle (by simp; omega)
  | some item =>
    rw [Inventory.countAt_eq hitem] at hle
    have hbound := inv.bounded p.1 item hitem
    dsimp only
    split_ifs with hall hg hg
    · subst hg
      rw [Inventory.countAt, Inventory.getItemByGuid, Inventory.find?_moveItemFromInventory,
        if_pos rfl, Inventory.countAt_eq hitem]
      simp [hall]
    · rw [Inventory.countAt, Inventory.getItemByGuid, Inventory.find?_moveItemFromInventory,
        if_neg (Ne.symm hg)]
      rfl
    · subst hg
      rw [Inventory.countAt, Inventory.getItemByGuid, Inventory.find?_setItemCount hitem,
        if_pos rfl, Inventory.countAt_eq hitem, Option.map_some, Option.getD_some,
        Item.setCount_count (Item.countSub_lt _ _), Item.countSub_of_le hbound hle]
    · rw [Inventory.countAt, Inventory.getItemByGuid, Inventory.find?_setItemCount hitem,
        if_neg (Ne.symm hg)]
      rfl

/-- **Every element finds its count exactly when the sums fit the stacks**, when all stacks are
of the entry. -/
theorem clean_iff {entry : ℕ}
    (hent : ∀ p ∈ items, ent p.1 = entry) (hpos : ∀ p ∈ items, 0 < p.2.toNat) :
    Clean ent entry inv items ↔ ∀ g, listed g items ≤ inv.countAt g := by
  induction items generalizing inv with
  | nil => simp [Clean]
  | cons p items ih =>
    have hp := hpos p List.mem_cons_self
    have ihp : Clean ent entry (reduceStack inv p) items ↔
        ∀ g, listed g items ≤ (reduceStack inv p).countAt g :=
      ih (fun q hq => hent q (List.mem_cons_of_mem _ hq))
        fun q hq => hpos q (List.mem_cons_of_mem _ hq)
    rw [Clean, ihp]
    constructor
    · rintro ⟨hle, hrest⟩ g
      have hle := hle (hent p List.mem_cons_self)
      have hg := hrest g
      rw [countAt_reduceStack hp hle] at hg
      rw [listed_cons]
      split_ifs at hg ⊢ with heq
      · subst heq
        omega
      · omega
    · intro hall
      have hle : p.2.toNat ≤ inv.countAt p.1 := by
        have hself := hall p.1
        rw [listed_cons, if_pos rfl] at hself
        omega
      refine ⟨fun _ => hle, fun g => ?_⟩
      have hg := hall g
      rw [listed_cons] at hg
      rw [countAt_reduceStack hp hle]
      omega

theorem total_foldl_reduceStack_iff {first : ℕ}
    (hpos : ∀ p ∈ items, 0 < p.2.toNat) (hfound : ∀ p ∈ items, ∃ e, inv.entryAt p.1 = some e)
    (hfirst : ∃ p ∈ items, inv.entryAt p.1 = some first) :
    (∀ entry, inv.total entry = (items.foldl reduceStack inv).total entry +
        if first = entry then listedSum items else 0) ↔
      TakesFromStacks inv items := by
  obtain ⟨p₀, hp₀, hentry₀⟩ := hfirst
  let ent : ℕ → ℕ := fun g => (inv.entryAt g).getD 0
  have hent : EntriesFrom ent inv := by
    intro g i hi
    simp only [ent, Inventory.entryAt, hi, Option.map_some, Option.getD_some]
  have hent_eq : ∀ p ∈ items, inv.entryAt p.1 = some (ent p.1) := by
    intro p hp
    obtain ⟨e, he⟩ := hfound p hp
    simp only [ent, he, Option.getD_some]
  have htotal := total_foldl_reduceStack hent hpos
  have hsum : listedOf ent first items ≤ listedSum items ∧
      (listedOf ent first items = listedSum items ↔ ∀ p ∈ items, ent p.1 = first) :=
    listedOf_eq_listedSum_iff hpos
  obtain ⟨hsum_le, hsum_iff⟩ := hsum
  constructor
  · intro hall
    obtain ⟨hle, hiff⟩ := htotal first
    have hfirst := hall first
    rw [if_pos rfl] at hfirst
    have hone : ∀ p ∈ items, ent p.1 = first := hsum_iff.mp (by omega)
    have hclean := (clean_iff hone hpos).mp (hiff.mp (by omega))
    refine ⟨fun p hp q hq => ?_, fun p _ => hclean p.1⟩
    rw [hent_eq p hp, hent_eq q hq, hone p hp, hone q hq]
  · rintro ⟨hkind, hwithin⟩ entry
    have hone : ∀ p ∈ items, ent p.1 = first := by
      intro p hp
      have heq := hkind p hp p₀ hp₀
      rw [hent_eq p hp, hentry₀] at heq
      exact Option.some.inj heq
    have hclean : Clean ent first inv items := by
      refine (clean_iff hone hpos).mpr fun g => ?_
      by_cases hg : ∃ p ∈ items, p.1 = g
      · obtain ⟨p, hp, rfl⟩ := hg
        exact hwithin p hp
      · rw [listed_eq_zero fun p hp heq => hg ⟨p, hp, heq⟩]
        exact Nat.zero_le _
    split_ifs with hentry
    · obtain ⟨-, hiff⟩ := htotal first
      rw [← hentry, ← hsum_iff.mpr hone]
      exact hiff.mpr hclean
    · -- No listed stack is of another entry, so nothing is taken from it.
      obtain ⟨-, hiff⟩ := htotal entry
      have hzero : listedOf ent entry items = 0 :=
        listedOf_eq_zero fun p hp heq => hentry ((hone p hp).symm.trans heq)
      rw [hzero] at hiff
      exact hiff.mpr (clean_of_ne fun p hp heq => hentry ((hone p hp).symm.trans heq))

/-! ## What an accepted list has passed -/

theorem finalCount_toNat (hlen : items.length ≤ maxAuctionItems)
    (hle : ∀ p ∈ items, p.2.toNat ≤ 1000) : (finalCount items).toNat = listedSum items := by
  have hbound : ∀ items : List (ℕ × BitVec 32), (∀ p ∈ items, p.2.toNat ≤ 1000) →
      listedSum items ≤ 1000 * items.length ∧
        (finalCount items).toNat = listedSum items % 2 ^ 32 := by
    intro items
    induction items with
    | nil => exact fun _ => ⟨Nat.zero_le _, rfl⟩
    | cons p items ih =>
      intro h
      obtain ⟨hsum, hmod⟩ := ih fun q hq => h q (List.mem_cons_of_mem _ hq)
      have hp := h p List.mem_cons_self
      rw [listedSum_cons, List.length_cons]
      refine ⟨by omega, ?_⟩
      have hcons : finalCount (p :: items) = p.2 + finalCount items := by
        rw [finalCount, List.map_cons, List.sum_cons]
        rfl
      rw [hcons, BitVec.toNat_add, hmod]
      omega
  obtain ⟨hsum, hmod⟩ := hbound items hle
  rw [hmod]
  unfold maxAuctionItems at hlen
  exact Nat.mod_eq_of_lt (by omega)

/-- **What a list has passed when it comes to be posted.** -/
structure SellChecked (w : AuctionWorld) (env : AuctionEnv) (inv : Inventory)
    (items : List (ℕ × BitVec 32)) : Prop where
  length_le : items.length ≤ maxAuctionItems
  count_pos : ∀ p ∈ items, 0 < p.2.toNat
  count_le : ∀ p ∈ items, p.2.toNat ≤ 1000
  found : ∀ p ∈ items, ∃ item, inv.getItemByGuid p.1 = some item ∧ p.2.toNat ≤ item.count ∧
    w.getAItem item.guid = none
  fits : ∀ p ∈ items, ∀ item, inv.getItemByGuid p.1 = some item →
    (finalCount items).toNat ≤ (env.proto item.entry).getMaxStackSize

theorem found_of_sellItemError (h : w.sellItemError env inv p = none) :
    ∃ item, inv.getItemByGuid p.1 = some item ∧ p.2.toNat ≤ item.count ∧
      w.getAItem item.guid = none := by
  unfold sellItemError at h
  cases hitem : inv.getItemByGuid p.1 with
  | none =>
    rw [hitem] at h
    cases h
  | some item =>
    rw [hitem] at h
    dsimp only at h
    split_ifs at h with hbad
    push Not at hbad
    exact ⟨item, rfl, hbad.2.2.2.2.2, Option.not_isSome_iff_eq_none.mp hbad.1⟩

theorem sellItemError_ne_ok :
    w.sellItemError env inv p ≠ some .ok := by
  unfold sellItemError
  split
  · simp
  · split_ifs <;> simp

theorem sellChecked_of (hlen : ¬ maxAuctionItems < items.length)
    (hany : ¬ (items.any fun p => p.1 = 0 || p.2 = 0 || 1000 < p.2) = true)
    (herr : items.findSome? (w.sellItemError env inv) = none)
    (hstack : ¬ ((items.filterMap fun p => inv.getItemByGuid p.1).any fun item =>
      (env.proto item.entry).getMaxStackSize < (finalCount items).toNat) = true) :
    SellChecked w env inv items := by
  have hone : ∀ p ∈ items, p.2 ≠ 0 ∧ p.2.toNat ≤ 1000 := by
    intro p hp
    simp only [List.any_eq_true, not_exists, not_and, Bool.or_eq_true, decide_eq_true_eq,
      not_or] at hany
    obtain ⟨⟨-, hzero⟩, hle⟩ := hany p hp
    refine ⟨hzero, ?_⟩
    rw [BitVec.lt_def, not_lt] at hle
    exact hle
  refine ⟨not_lt.mp hlen, fun p hp => ?_, fun p hp => (hone p hp).2, fun p hp => ?_, ?_⟩
  · have hne := (hone p hp).1
    rw [Ne, ← BitVec.toNat_inj] at hne
    exact Nat.pos_of_ne_zero hne
  · exact found_of_sellItemError (List.findSome?_eq_none_iff.mp herr p hp)
  · intro p hp item hitem
    simp only [List.any_eq_true, List.mem_filterMap, not_exists, not_and,
      decide_eq_true_eq, not_lt] at hstack
    exact hstack item ⟨p, hp, hitem⟩

/-- **The handler either stops at a check, or comes to post the list.** -/
theorem handleAuctionSellItem_cases {m : Moment}
    {player : Guid} {pkt : AuctionSellItem} {seller : Character}
    (hseller : w.characters.find? player = some seller) :
    ((w.handleAuctionSellItem env m player pkt).world = w ∧
        (w.handleAuctionSellItem env m player pkt).answer ≠ some .ok) ∨
      ∃ faction entry item p rest, pkt.items = p :: rest ∧
        SellChecked w env seller.inventory pkt.items ∧
        seller.inventory.getItemByGuid p.1 = some item ∧
        w.handleAuctionSellItem env m player pkt =
          w.postAuction env m player seller pkt faction entry item p.2 := by
  unfold handleAuctionSellItem
  by_cases hlen : maxAuctionItems < pkt.items.length
  · rw [if_pos hlen]
    exact .inl ⟨rfl, by simp⟩
  by_cases hany : pkt.items.any fun p => p.1 = 0 || p.2 = 0 || 1000 < p.2
  · rw [if_neg hlen, if_pos hany]
    exact .inl ⟨rfl, by simp⟩
  by_cases hbid : pkt.bid = 0 ∨ pkt.etime = 0
  · rw [if_neg hlen, if_neg hany, if_pos hbid]
    exact .inl ⟨rfl, by simp⟩
  rw [if_neg hlen, if_neg hany, if_neg hbid]
  cases hnpc : env.npcFaction player pkt.auctioneer with
  | none => exact .inl ⟨rfl, by simp⟩
  | some faction =>
    dsimp only
    cases hentry : env.getAuctionHouseEntry faction with
    | none => exact .inl ⟨rfl, by simp⟩
    | some entry =>
      dsimp only
      by_cases htime : (pkt.etime * 60).toNat ∉
          [minAuctionTime, 2 * minAuctionTime, 4 * minAuctionTime]
      · rw [if_pos htime]
        exact .inl ⟨rfl, by simp⟩
      rw [if_neg htime, hseller]
      dsimp only
      cases herr : pkt.items.findSome? (w.sellItemError env seller.inventory) with
      | some e =>
        refine .inl ⟨rfl, fun heq => ?_⟩
        obtain ⟨q, -, hq⟩ := List.exists_of_findSome?_eq_some herr
        cases heq
        exact sellItemError_ne_ok hq
      | none =>
        by_cases hzero : finalCount pkt.items = 0
        · rw [if_pos hzero]
          exact .inl ⟨rfl, by simp⟩
        by_cases hstack : (pkt.items.filterMap fun p => seller.inventory.getItemByGuid p.1).any
            fun item => (env.proto item.entry).getMaxStackSize < (finalCount pkt.items).toNat
        · rw [if_neg hzero, if_pos hstack]
          exact .inl ⟨rfl, by simp⟩
        rw [if_neg hzero, if_neg hstack]
        have hchecked := sellChecked_of hlen hany herr hstack
        refine .inr ⟨faction, entry, ?_⟩
        cases hitems : pkt.items with
        | nil =>
          rw [hitems] at hzero
          exact absurd rfl hzero
        | cons p rest =>
          obtain ⟨item, hitem, -, -⟩ := hchecked.found p (hitems ▸ List.mem_cons_self)
          refine ⟨item, p, rest, rfl, hitems ▸ hchecked, hitem, ?_⟩
          have hmap : (p :: rest).filterMap (fun p => seller.inventory.getItemByGuid p.1) =
              item :: rest.filterMap fun p => seller.inventory.getItemByGuid p.1 :=
            List.filterMap_cons_some (by exact hitem)
          rw [hmap]

/-! ## The posting -/

/-- What a posting put on sale, and what it left of the seller's items. -/
structure Posted (w w' : AuctionWorld) (player : Guid) (item : Item) (inv : Inventory) :
    Prop where
  auctioned : ∃ house a, (w'.auctions house).find? w.nextAuctionId = some a ∧
    w'.getAItem a.itemGuidlow = some item
  left : w'.inventoryOf player = some inv

/-- **A posting keeps the items** of `inv`: what is left and what is on sale are, for every entry,
as many as there were. -/
def PostingKeepsItems (w w' : AuctionWorld) (player : Guid) (inv : Inventory) : Prop :=
  ∃ item left, Posted w w' player item left ∧
    ∀ entry, inv.total entry = left.total entry + item.amountOf entry

variable {w' : AuctionWorld} {m : Moment} {player : Guid} {pkt : AuctionSellItem}
  {seller : Character}

theorem postingKeepsItems_iff {house : AuctionHouse} {a : AuctionEntry}
    {left : Inventory} (hfresh : ∀ h, (w.auctions h).find? w.nextAuctionId = none)
    (hauctions : w'.auctions = (w.addAuction house a).auctions) (hid : a.id = w.nextAuctionId)
    (hitem : w'.getAItem a.itemGuidlow = some item) (hleft : w'.inventoryOf player = some left)
    (inv : Inventory) :
    PostingKeepsItems w w' player inv ↔
      ∀ entry, inv.total entry = left.total entry + item.amountOf entry := by
  constructor
  · rintro ⟨item', left', ⟨⟨h, b, hb, hb'⟩, hleft'⟩, htotal⟩
    rw [hauctions, auctions_addAuction] at hb
    split_ifs at hb with hh
    · rw [hid, find?_set_self] at hb
      cases hb
      cases hitem.symm.trans hb'
      cases hleft.symm.trans hleft'
      exact htotal
    · rw [hfresh h] at hb
      cases hb
  · intro htotal
    refine ⟨item, left, ⟨⟨house, a, ?_, hitem⟩, hleft⟩, htotal⟩
    rw [hauctions, auctions_addAuction, if_pos rfl, hid, find?_set_self]

theorem takesFromStacks_whole {inv : Inventory} {p : ℕ × BitVec 32}
    (hitem : inv.getItemByGuid p.1 = some item) (hcount : item.count = p.2.toNat) :
    TakesFromStacks inv [p] := by
  constructor
  · intro q hq r hr
    rw [List.mem_singleton.mp hq, List.mem_singleton.mp hr]
  · intro q hq
    rw [List.mem_singleton.mp hq, listed_cons, if_pos rfl, listed_nil,
      Inventory.countAt_eq hitem, hcount]
    omega

theorem inventoryOf_setInventory {guid : Guid} {c : Character}
    (h : w.characters.find? guid = some c) (inv : Inventory) :
    (w.setInventory guid inv).inventoryOf guid = some inv := by
  rw [inventoryOf, characters_setInventory w h, find?_set_self]
  rfl

theorem keepsItems_putOnSale_iff {u : AuctionWorld} {c : Character} {house : AuctionHouse}
    {a : AuctionEntry} (hfresh : ∀ h, (w.auctions h).find? w.nextAuctionId = none)
    (hauctions : u.auctions = w.auctions) (hc : u.characters.find? player = some c)
    (hid : a.id = w.nextAuctionId) (hguid : a.itemGuidlow = item.guid) (inv left : Inventory) :
    PostingKeepsItems w ((u.putOnSale house a item).setInventory player left) player inv ↔
      ∀ entry, inv.total entry = left.total entry + item.amountOf entry := by
  have hleft : ((u.putOnSale house a item).setInventory player left).inventoryOf player =
      some left := inventoryOf_setInventory (by exact hc) left
  have hauctions' : ((u.putOnSale house a item).setInventory player left).auctions =
      (w.addAuction house a).auctions := by
    rw [auctions_setInventory]
    funext h
    rw [putOnSale, auctions_addAuction, auctions_addAuction, auctions_addAItem]
    rw [hauctions]
  refine postingKeepsItems_iff hfresh hauctions' hid ?_ hleft inv
  · rw [getAItem, aItems_setInventory, putOnSale, aItems_addAuction, aItems_addAItem, hguid,
      find?_set_self]

/-- **An accepted posting** keeps the items exactly when the list takes what the stacks hold. -/
theorem postAuction_keepsItems_iff (hseller : w.characters.find? player = some seller)
    (hfresh : ∀ h, (w.auctions h).find? w.nextAuctionId = none)
    {rest : List (ℕ × BitVec 32)} (hitems : pkt.items = p :: rest)
    (hchecked : SellChecked w env seller.inventory pkt.items)
    (hitem : seller.inventory.getItemByGuid p.1 = some item) {faction : ℕ}
    {entry : AuctionHouseEntry}
    (hok : (w.postAuction env m player seller pkt faction entry item p.2).answer = some .ok) :
    PostingKeepsItems w (w.postAuction env m player seller pkt faction entry item p.2).world player
        seller.inventory ↔
      TakesFromStacks seller.inventory pkt.items := by
  have hpaid : ∀ d, (w.modifyMoney player d).characters.find? player =
      some { seller with toPlayer := seller.toPlayer.modifyMoney d } := fun d => by
    rw [characters_modifyMoney w hseller, find?_set_self]
  have hguid : item.guid = p.1 := seller.inventory.keyed p.1 item hitem
  have hsum := finalCount_toNat hchecked.length_le hchecked.count_le
  have hmem : p ∈ pkt.items := hitems ▸ List.mem_cons_self
  have hpos : 0 < (finalCount pkt.items).toNat := by
    rw [hsum, hitems, listedSum_cons]
    have hp := hchecked.count_pos p hmem
    omega
  unfold postAuction at hok ⊢
  by_cases hmoney : ¬ seller.hasEnoughMoney (env.getAuctionDeposit entry (pkt.etime * 60).toNat item
      (finalCount pkt.items).toNat) = true
  · rw [if_pos hmoney] at hok
    cases hok
  rw [if_neg hmoney] at hok ⊢
  by_cases hwhole : pkt.items.length = 1 ∧ item.count = p.2.toNat
  · -- The stack itself is put on sale.
    obtain ⟨hlen, hcount⟩ := hwhole
    have hone : pkt.items = [p] := by
      rw [hitems] at hlen ⊢
      rw [List.length_cons, Nat.add_eq_right, List.length_eq_zero_iff] at hlen
      rw [hlen]
    rw [if_pos ⟨hlen, hcount⟩]
    rw [keepsItems_putOnSale_iff hfresh (auctions_modifyMoney _ _ _) (hpaid _) rfl rfl, hone]
    refine ⟨fun _ => takesFromStacks_whole hitem hcount, fun _ entry => ?_⟩
    rw [hguid, Inventory.total_moveItemFromInventory hitem]
  · -- A clone of the first item is put on sale, and the stacks are reduced.
    rw [if_neg hwhole, Item.cloneItem_eq _ hpos (hchecked.fits p hmem item hitem)]
    rw [keepsItems_putOnSale_iff hfresh (by exact auctions_modifyMoney _ _ _) (by exact hpaid _)
      rfl rfl, ← total_foldl_reduceStack_iff hchecked.count_pos ?_
        ⟨p, hmem, by rw [Inventory.entryAt, hitem]; rfl⟩, hsum]
    · rfl
    · intro q hq
      obtain ⟨i, hi, -, -⟩ := hchecked.found q hq
      exact ⟨i.entry, by rw [Inventory.entryAt, hi]; rfl⟩

theorem postAuction_rejected {rest : List (ℕ × BitVec 32)} (hitems : pkt.items = p :: rest)
    (hchecked : SellChecked w env seller.inventory pkt.items)
    (hitem : seller.inventory.getItemByGuid p.1 = some item) {faction : ℕ}
    {entry : AuctionHouseEntry}
    (hno : (w.postAuction env m player seller pkt faction entry item p.2).answer ≠ some .ok) :
    (w.postAuction env m player seller pkt faction entry item p.2).world = w := by
  have hmem : p ∈ pkt.items := hitems ▸ List.mem_cons_self
  have hpos : 0 < (finalCount pkt.items).toNat := by
    rw [finalCount_toNat hchecked.length_le hchecked.count_le, hitems, listedSum_cons]
    have hp := hchecked.count_pos p hmem
    omega
  unfold postAuction at hno ⊢
  rw [Item.cloneItem_eq _ hpos (hchecked.fits p hmem item hitem)] at hno ⊢
  by_cases hmoney : ¬ seller.hasEnoughMoney (env.getAuctionDeposit entry (pkt.etime * 60).toNat item
      (finalCount pkt.items).toNat) = true
  · rw [if_pos hmoney]
  · rw [if_neg hmoney] at hno
    split_ifs at hno
    · exact absurd rfl hno
    · exact absurd rfl hno

theorem handleAuctionSellItem_accepted (hseller : w.characters.find? player = some seller)
    (hfresh : ∀ h, (w.auctions h).find? w.nextAuctionId = none)
    (hok : (w.handleAuctionSellItem env m player pkt).answer = some .ok) :
    PostingKeepsItems w (w.handleAuctionSellItem env m player pkt).world player
        seller.inventory ↔
      TakesFromStacks seller.inventory pkt.items := by
  rcases handleAuctionSellItem_cases hseller with ⟨-, hanswer⟩ |
    ⟨faction, entry, item, p, rest, hitems, hchecked, hitem, heq⟩
  · exact absurd hok hanswer
  · rw [heq] at hok ⊢
    exact postAuction_keepsItems_iff hseller hfresh hitems hchecked hitem hok

theorem handleAuctionSellItem_rejected (hseller : w.characters.find? player = some seller)
    (hno : (w.handleAuctionSellItem env m player pkt).answer ≠ some .ok) :
    (w.handleAuctionSellItem env m player pkt).world = w := by
  rcases handleAuctionSellItem_cases hseller with ⟨hworld, -⟩ |
    ⟨faction, entry, item, p, rest, hitems, hchecked, hitem, heq⟩
  · exact hworld
  · rw [heq] at hno ⊢
    exact postAuction_rejected hitems hchecked hitem hno

/-- **Posting an auction.** A posting that is accepted keeps the seller's items exactly when the
named stacks are of one kind and the counts listed for each of them sum to no more than it holds.
One that is rejected changes neither items nor money. -/
theorem handleAuctionSellItem_keepsItems (hseller : w.characters.find? player = some seller)
    (hfresh : ∀ h, (w.auctions h).find? w.nextAuctionId = none) :
    ((w.handleAuctionSellItem env m player pkt).answer = some .ok →
        (PostingKeepsItems w (w.handleAuctionSellItem env m player pkt).world player
            seller.inventory ↔
          TakesFromStacks seller.inventory pkt.items)) ∧
      ((w.handleAuctionSellItem env m player pkt).answer ≠ some .ok →
        (w.handleAuctionSellItem env m player pkt).world.characters = w.characters) :=
  ⟨handleAuctionSellItem_accepted hseller hfresh, fun hno =>
    congrArg characters (handleAuctionSellItem_rejected hseller hno)⟩

/-! ## A stack that is named twice -/

/-- An inventory with one stack of five. -/
def fiveOfOne : Inventory where
  items := OrderedMap.empty.set 1 ⟨1, 10, 5, false, 0⟩
  keyed := by
    intro g i h
    rw [find?_set] at h
    split_ifs at h with hg
    · cases h
      exact hg.symm
    · cases h
  bounded := by
    intro g i h
    rw [find?_set] at h
    split_ifs at h
    · cases h
      exact by decide
    · cases h

/-- Stacks of up to twenty, one auctioneer, and a deposit of a hundred. -/
def sampleEnv : AuctionEnv where
  allowTwoSideInteraction := false
  factionMask := fun _ => none
  auctionHouseStore := fun id => some ⟨id, 0, 15, 15⟩
  npcFaction := fun _ _ => some 120
  auctioneerFaction := fun _ => some 120
  proto := fun _ => ⟨20, false⟩
  canBeTraded := fun _ => true
  isNotEmptyBag := fun _ => false
  getAuctionDeposit := fun _ _ _ _ => 100
  auctionTime := id
  getAuctionCut := fun _ => 0
  getAuctionOutBid := fun _ => 1
  ahBotGuid := 0

def sampleMoment : Moment := ⟨fun _ => true, false, 1000⟩

def sampleSeller : Character := ⟨⟨7, 5000⟩, 1, fiveOfOne, by decide⟩

/-- One seller, and no auction yet. -/
def sampleWorld : AuctionWorld where
  characters := OrderedMap.empty.set 7 sampleSeller
  auctions := fun _ => OrderedMap.empty
  aItems := OrderedMap.empty
  mails := []
  nextAuctionId := 1
  nextItemGuid := 100

/-- Two parts of one stack. -/
def sellTwoParts (first second : BitVec 32) : AuctionSellItem :=
  ⟨50, [(1, first), (1, second)], 10, 0, 720⟩

/-- Two and two of the five are sold, and one is left. -/
theorem handleAuctionSellItem_keepsItems_parts :
    (sampleWorld.handleAuctionSellItem sampleEnv sampleMoment 7 (sellTwoParts 2 2)).answer =
        some .ok ∧
      PostingKeepsItems sampleWorld
        (sampleWorld.handleAuctionSellItem sampleEnv sampleMoment 7 (sellTwoParts 2 2)).world 7
        fiveOfOne := by
  have hkeeps := @handleAuctionSellItem_keepsItems sampleWorld sampleEnv sampleMoment 7
    (sellTwoParts 2 2) sampleSeller rfl fun _ => rfl
  have hok : (sampleWorld.handleAuctionSellItem sampleEnv sampleMoment 7
      (sellTwoParts 2 2)).answer = some .ok := by decide +kernel
  exact ⟨hok, (hkeeps.1 hok).mpr (by decide +kernel)⟩

/-- **All five are sold twice**: ten are on sale. -/
theorem not_handleAuctionSellItem_keepsItems :
    ¬ ∀ (w : AuctionWorld) (pkt : AuctionSellItem) (seller : Character),
      w.characters.find? 7 = some seller →
      (∀ h, (w.auctions h).find? w.nextAuctionId = none) →
      (w.handleAuctionSellItem sampleEnv sampleMoment 7 pkt).answer = some .ok →
      PostingKeepsItems w (w.handleAuctionSellItem sampleEnv sampleMoment 7 pkt).world 7
        seller.inventory := by
  intro hall
  have hok : (sampleWorld.handleAuctionSellItem sampleEnv sampleMoment 7
      (sellTwoParts 5 5)).answer = some .ok := by decide +kernel
  have hkeeps := hall sampleWorld (sellTwoParts 5 5) sampleSeller rfl (fun _ => rfl) hok
  have htakes := (handleAuctionSellItem_accepted rfl (fun _ => rfl) hok).mp hkeeps
  exact absurd htakes (by decide +kernel)

end AuctionWorld

end TeraCore
