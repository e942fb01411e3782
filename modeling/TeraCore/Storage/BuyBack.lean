import Mathlib.Data.Int.ModEq
import Mathlib.Tactic.Cases
import TeraCore.Commons.Run

/-!
# Buying back

What a player sells stays in a dozen slots, from which he may buy it back.  A cursor says where the
next item goes; if something lies there, a loop looks for a free slot and for the one with the least
timestamp.

The loop ends at the first free slot, but what it has found is overwritten by the oldest of the
slots before it.  So an item is lost although there is room, whenever the cursor's slot and the
first one are taken and another is free.

## Main results

* `admissible_right_iff`: a run is right exactly when every sale finds its slot
-/

namespace TeraCore.Storage.Shop

open Commons

abbrev BUYBACK_SLOT_START : ℕ := 74

abbrev BUYBACK_SLOT_END : ℕ := 86

/-- An item, with `SellPrice` when there is a template. -/
structure Item where
  GUID : ℕ
  count : ℕ
  SellPrice : Option ℕ
deriving DecidableEq

/-- What lies in a slot, and when it was sold, which the player's slots do not say. -/
structure Sold where
  item : Item
  soldAt : ℤ
deriving DecidableEq

/-- **The slots of buying back**; the fields are numbered by the slots they are about. -/
structure BuyBack where
  m_items : ℕ → Option Sold
  /-- `PLAYER_FIELD_VENDORBUYBACK_SLOT_1` -/
  guid : ℕ → ℕ
  /-- `PLAYER_FIELD_BUYBACK_PRICE_1` -/
  price : ℕ → ℕ
  /-- `PLAYER_FIELD_BUYBACK_TIMESTAMP_1` -/
  timestamp : ℕ → ℕ
  m_currentBuybackSlot : ℕ

/-- The time of a sale in the client's field: `uint32(base - m_logintime + 30 * 3600)`. -/
def etime (m_logintime base : ℤ) : ℕ := ((base - m_logintime + 30 * 3600) % 2 ^ 32).toNat

/-- The price in the client's field. -/
def Item.price (pItem : Item) : ℕ :=
  match pItem.SellPrice with
  | some SellPrice => SellPrice * pItem.count % 2 ^ 32
  | none => 0

namespace BuyBack

/-- Of a player who has logged in. -/
def new : BuyBack := ⟨fun _ => none, fun _ => 0, fun _ => 0, fun _ => 0, BUYBACK_SLOT_START⟩

variable (b : BuyBack)

def RemoveItemFromBuyBackSlot (slot : ℕ) : BuyBack :=
  if BUYBACK_SLOT_START ≤ slot ∧ slot < BUYBACK_SLOT_END then
    { m_items := Function.update b.m_items slot none
      guid := Function.update b.guid slot 0
      price := Function.update b.price slot 0
      timestamp := Function.update b.timestamp slot 0
      -- if current backslot is filled set to now free slot
      m_currentBuybackSlot :=
        if (Function.update b.m_items slot none b.m_currentBuybackSlot).isSome then slot
        else b.m_currentBuybackSlot }
  else b

/-- The variables of the search. -/
structure Search where
  slot : ℕ
  oldest_time : ℕ
  oldest_slot : ℕ

/-- The loop over the slots after the first, which ends at a free one. -/
def search : List ℕ → Search → Search
  | [], s => s
  | i :: is, s =>
    if (b.m_items i).isNone then { s with slot := i }
    else if b.timestamp i < s.oldest_time then
      search is { s with oldest_time := b.timestamp i, oldest_slot := i }
    else search is s

/-- The slots after the first. -/
def otherSlots : List ℕ := List.range' (BUYBACK_SLOT_START + 1) 11

/-- The slot of the next item: after the search it is the oldest one, whatever was found. -/
def nextSlot : ℕ :=
  if (b.m_items b.m_currentBuybackSlot).isSome then
    let s := b.search otherSlots
      ⟨b.m_currentBuybackSlot, b.timestamp BUYBACK_SLOT_START, BUYBACK_SLOT_START⟩
    -- find oldest
    let s := { s with slot := s.oldest_slot }
    s.slot
  else b.m_currentBuybackSlot

/-- **`AddItemToBuyBackSlot`** at the time `base`. -/
def AddItemToBuyBackSlot (m_logintime base : ℤ) (pItem : Option Item) : BuyBack :=
  match pItem with
  | none => b
  | some pItem =>
    let slot := b.nextSlot
    let b := b.RemoveItemFromBuyBackSlot slot
    { m_items := Function.update b.m_items slot (some ⟨pItem, base⟩)
      guid := Function.update b.guid slot pItem.GUID
      price := Function.update b.price slot pItem.price
      timestamp := Function.update b.timestamp slot (etime m_logintime base)
      -- move to next
      m_currentBuybackSlot :=
        if b.m_currentBuybackSlot < BUYBACK_SLOT_END - 1 then b.m_currentBuybackSlot + 1
        else b.m_currentBuybackSlot }

end BuyBack

/-- The calls: something is sold, or bought back. -/
inductive Op where
  | add (base : ℤ) (pItem : Option Item)
  | remove (slot : ℕ)

variable (m_logintime : ℤ) (b : BuyBack)

/-- **A call.** -/
def step : Op → BuyBack
  | .add base pItem => b.AddItemToBuyBackSlot m_logintime base pItem
  | .remove slot => b.RemoveItemFromBuyBackSlot slot

/-! ## What is right -/

/-- A slot of buying back. -/
def IsSlot (i : ℕ) : Prop := BUYBACK_SLOT_START ≤ i ∧ i < BUYBACK_SLOT_END

instance (i : ℕ) : Decidable (IsSlot i) := inferInstanceAs (Decidable (_ ∧ _))

/-- **The fields say what lies in the slots.** -/
def Describes : Prop :=
  ∀ i sold, IsSlot i → b.m_items i = some sold →
    b.guid i = sold.item.GUID ∧ b.price i = sold.item.price ∧
      b.timestamp i = etime m_logintime sold.soldAt

/-- The slots `b'` are the slots `b` with a new item, which displaces another only when all slots
are taken, and then one that was sold earliest. -/
def Displaces (b b' : BuyBack) (sold : Sold) : Prop :=
  ∃ slot, IsSlot slot ∧ b'.m_items = Function.update b.m_items slot (some sold) ∧
    ∀ displaced, b.m_items slot = some displaced →
      (∀ i, IsSlot i → (b.m_items i).isSome = true) ∧
        ∀ i other, IsSlot i → b.m_items i = some other → displaced.soldAt ≤ other.soldAt

def RightMove (b b' : BuyBack) : Op → Prop
  | .add base (some pItem) => Displaces b b' ⟨pItem, base⟩
  | .add _ none => b'.m_items = b.m_items
  | .remove slot => b'.m_items = if IsSlot slot then Function.update b.m_items slot none
      else b.m_items

/-- A call is right: only the items go that may, and the fields say what lies in the slots. -/
def Right (op : Op) : Prop :=
  RightMove b (step m_logintime b op) op ∧ Describes m_logintime (step m_logintime b op)

/-- **A sale finds its slot**: the cursor's is free, or the first one is, or none is. -/
def FindsSlot (b : BuyBack) : Op → Prop
  | .add _ (some _) => b.m_items b.m_currentBuybackSlot = none ∨
      b.m_items BUYBACK_SLOT_START = none ∨ ∀ i, IsSlot i → (b.m_items i).isSome = true
  | _ => True

/-- The time of a sale fits the client's field. -/
def Op.Fits (m_logintime : ℤ) : Op → Prop
  | .add base _ => 0 ≤ base - m_logintime + 30 * 3600 ∧ base - m_logintime + 30 * 3600 < 2 ^ 32
  | .remove _ => True

instance (m_logintime : ℤ) (op : Op) : Decidable (op.Fits m_logintime) :=
  match op with
  | .add _ _ => inferInstanceAs (Decidable (_ ∧ _))
  | .remove _ => instDecidableTrue

/-! ## The search -/

namespace BuyBack

variable {b} {is : List ℕ} {s : Search} {i : ℕ}

theorem search_taken : (b.search is s).oldest_slot = s.oldest_slot ∨
    (b.search is s).oldest_slot ∈ is ∧
      (b.m_items (b.search is s).oldest_slot).isSome = true := by
  induction is generalizing s with
  | nil => exact .inl rfl
  | cons i is ih =>
    unfold search
    split_ifs with hfree hless
    · exact .inl rfl
    · rcases @ih { s with oldest_time := b.timestamp i, oldest_slot := i }
        with hfirst | ⟨hmem, hsome⟩
      · refine .inr ⟨hfirst ▸ List.mem_cons_self, ?_⟩
        rw [hfirst]
        exact Option.isSome_iff_ne_none.mpr fun hnone => hfree (by rw [hnone]; rfl)
      · exact .inr ⟨List.mem_cons_of_mem _ hmem, hsome⟩
    · exact (@ih s).imp_right fun h => ⟨List.mem_cons_of_mem _ h.1, h.2⟩

theorem search_of_zero (h : s.oldest_time = 0) : (b.search is s).oldest_slot = s.oldest_slot := by
  induction is with
  | nil => rfl
  | cons i is ih =>
    unfold search
    rw [h, if_neg (Nat.not_lt_zero _)]
    split_ifs
    · rfl
    · exact ih

theorem search_oldest (h : ∀ i ∈ is, (b.m_items i).isSome = true)
    (hs : s.oldest_time = b.timestamp s.oldest_slot) :
    b.timestamp (b.search is s).oldest_slot ≤ s.oldest_time ∧
      ∀ i ∈ is, b.timestamp (b.search is s).oldest_slot ≤ b.timestamp i := by
  induction is generalizing s with
  | nil => exact ⟨hs.ge, fun i hi => absurd hi List.not_mem_nil⟩
  | cons i is ih =>
    have hfree : ¬ (b.m_items i).isNone = true := by
      rw [Option.isNone_iff_eq_none]
      exact Option.isSome_iff_ne_none.mp (h i List.mem_cons_self)
    have his (j : ℕ) (hj : j ∈ is) := h j (List.mem_cons_of_mem _ hj)
    unfold search
    rw [if_neg hfree]
    split_ifs with hless
    · obtain ⟨hle, hall⟩ := @ih { s with oldest_time := b.timestamp i, oldest_slot := i } his rfl
      refine ⟨hle.trans hless.le, fun j hj => ?_⟩
      rcases List.mem_cons.mp hj with rfl | hj
      · exact hle
      · exact hall j hj
    · obtain ⟨hle, hall⟩ := @ih s his hs
      refine ⟨hle, fun j hj => ?_⟩
      rcases List.mem_cons.mp hj with rfl | hj
      · exact hle.trans (Nat.le_of_not_lt hless)
      · exact hall j hj

end BuyBack

theorem isSlot_iff {i : ℕ} : IsSlot i ↔ i = BUYBACK_SLOT_START ∨ i ∈ BuyBack.otherSlots := by
  unfold IsSlot BuyBack.otherSlots
  rw [List.mem_range'_1]
  show 74 ≤ i ∧ i < 86 ↔ i = 74 ∨ 75 ≤ i ∧ i < 86
  omega

theorem isSlot_start : IsSlot BUYBACK_SLOT_START := by decide

/-! ## The slots while items are sold and bought back -/

/-- What the fields of a slot say: a free one has no timestamp, and what was sold has one that did
not overflow. -/
def FieldsKept (m_logintime : ℤ) (guid price timestamp : ℕ) : Option Sold → Prop
  | none => timestamp = 0
  | some sold => guid = sold.item.GUID ∧ price = sold.item.price ∧
      timestamp = etime m_logintime sold.soldAt ∧ (Op.add sold.soldAt none).Fits m_logintime

/-- **The invariant of the slots.** -/
structure Kept (m_logintime : ℤ) (b : BuyBack) : Prop where
  current : IsSlot b.m_currentBuybackSlot
  fields : ∀ i, IsSlot i →
    FieldsKept m_logintime (b.guid i) (b.price i) (b.timestamp i) (b.m_items i)

variable {m_logintime} {b} {i slot : ℕ}

theorem kept_new (m_logintime : ℤ) : Kept m_logintime .new := ⟨isSlot_start, fun _ _ => rfl⟩

theorem Kept.describes (h : Kept m_logintime b) : Describes m_logintime b := by
  intro i sold hi hsold
  have hfields := h.fields i hi
  rw [hsold] at hfields
  exact ⟨hfields.1, hfields.2.1, hfields.2.2.1⟩

theorem Kept.update (h : Kept m_logintime b) {guid price timestamp current : ℕ}
    {sold? : Option Sold} (hfields : FieldsKept m_logintime guid price timestamp sold?)
    (hcurrent : IsSlot current) :
    Kept m_logintime
      ⟨Function.update b.m_items slot sold?, Function.update b.guid slot guid,
        Function.update b.price slot price, Function.update b.timestamp slot timestamp,
          current⟩ := by
  refine ⟨hcurrent, fun i hi => ?_⟩
  by_cases heq : i = slot
  · subst heq
    simp only [Function.update_self]
    exact hfields
  · simp only [Function.update_of_ne heq]
    exact h.fields i hi

/-- **Something is taken out of a slot.** -/
theorem Kept.remove (h : Kept m_logintime b) (slot : ℕ) :
    Kept m_logintime (b.RemoveItemFromBuyBackSlot slot) := by
  unfold BuyBack.RemoveItemFromBuyBackSlot
  by_cases hslot : BUYBACK_SLOT_START ≤ slot ∧ slot < BUYBACK_SLOT_END
  · rw [if_pos hslot]
    have hfree : FieldsKept m_logintime 0 0 0 none := rfl
    refine h.update hfree ?_
    split
    · exact hslot
    · exact h.current
  · rw [if_neg hslot]
    exact h

/-- **Something is sold.** -/
theorem Kept.add (h : Kept m_logintime b) {base : ℤ} (pItem : Option Item)
    (hfits : (Op.add base pItem).Fits m_logintime) :
    Kept m_logintime (b.AddItemToBuyBackSlot m_logintime base pItem) := by
  cases pItem with
  | none => exact h
  | some pItem =>
    have hremove := h.remove b.nextSlot
    have hsold : FieldsKept m_logintime pItem.GUID pItem.price (etime m_logintime base)
        (some ⟨pItem, base⟩) := ⟨rfl, rfl, rfl, hfits⟩
    refine hremove.update hsold ?_
    split
    · obtain ⟨hlow, -⟩ := hremove.current
      exact ⟨Nat.le_succ_of_le hlow, Nat.add_lt_of_lt_sub ‹_›⟩
    · exact hremove.current

theorem Kept.step (h : Kept m_logintime b) {op : Op} (hfits : op.Fits m_logintime) :
    Kept m_logintime (step m_logintime b op) := by
  cases op with
  | add base pItem => exact h.add pItem hfits
  | remove slot => exact h.remove slot

/-! ## The slot of the next item -/

theorem m_items_remove (slot : ℕ) : (b.RemoveItemFromBuyBackSlot slot).m_items =
    if IsSlot slot then Function.update b.m_items slot none else b.m_items := by
  by_cases hslot : IsSlot slot
  · rw [if_pos hslot]
    exact congrArg BuyBack.m_items (if_pos hslot)
  · rw [if_neg hslot]
    exact congrArg BuyBack.m_items (if_neg hslot)

theorem Kept.isSlot_nextSlot (h : Kept m_logintime b) : IsSlot b.nextSlot := by
  unfold BuyBack.nextSlot
  split
  · dsimp only
    rcases BuyBack.search_taken with hfirst | ⟨hmem, -⟩
    · rw [hfirst]
      exact isSlot_start
    · exact isSlot_iff.mpr (.inr hmem)
  · exact h.current

theorem Kept.m_items_add (h : Kept m_logintime b) (base : ℤ) (pItem : Item) :
    (b.AddItemToBuyBackSlot m_logintime base (some pItem)).m_items =
      Function.update b.m_items b.nextSlot (some ⟨pItem, base⟩) := by
  unfold BuyBack.AddItemToBuyBackSlot
  dsimp only
  rw [m_items_remove, if_pos h.isSlot_nextSlot]
  exact Function.update_idem _ _ _

theorem nextSlot_of_free (hfree : b.m_items b.m_currentBuybackSlot = none) :
    b.nextSlot = b.m_currentBuybackSlot := by
  unfold BuyBack.nextSlot
  rw [hfree]
  rfl

theorem Kept.nextSlot_of_first (h : Kept m_logintime b)
    (hcurrent : (b.m_items b.m_currentBuybackSlot).isSome = true)
    (hfirst : b.m_items BUYBACK_SLOT_START = none) : b.nextSlot = BUYBACK_SLOT_START := by
  have hzero := h.fields _ isSlot_start
  rw [hfirst] at hzero
  unfold BuyBack.nextSlot
  rw [if_pos hcurrent]
  exact BuyBack.search_of_zero hzero

theorem Kept.earliest_nextSlot (h : Kept m_logintime b)
    (hall : ∀ i, IsSlot i → (b.m_items i).isSome = true) {displaced other : Sold}
    (hdisplaced : b.m_items b.nextSlot = some displaced) (hi : IsSlot i)
    (hother : b.m_items i = some other) : displaced.soldAt ≤ other.soldAt := by
  have hleast : b.timestamp b.nextSlot ≤ b.timestamp i := by
    obtain ⟨hle, hothers⟩ := BuyBack.search_oldest (b := b)
      (s := ⟨b.m_currentBuybackSlot, b.timestamp BUYBACK_SLOT_START, BUYBACK_SLOT_START⟩)
      (fun i hi => hall i (isSlot_iff.mpr (.inr hi))) rfl
    unfold BuyBack.nextSlot
    rw [if_pos (hall _ h.current)]
    rcases isSlot_iff.mp hi with rfl | hi
    · exact hle
    · exact hothers i hi
  have hnext := h.fields _ h.isSlot_nextSlot
  have hthis := h.fields i hi
  rw [hdisplaced] at hnext
  rw [hother] at hthis
  obtain ⟨-, -, hnextTime, hnextFits⟩ := hnext
  obtain ⟨-, -, htime, hfits⟩ := hthis
  rw [hnextTime, htime] at hleast
  -- neither of the two times has overflowed
  obtain ⟨hlow, hhigh⟩ := hnextFits
  obtain ⟨hlow', hhigh'⟩ := hfits
  unfold etime at hleast
  rw [Int.emod_eq_of_lt hlow hhigh, Int.emod_eq_of_lt hlow' hhigh'] at hleast
  omega

/-- **The loop does not find a free slot** unless it is the first one. -/
theorem nextSlot_taken (hcurrent : (b.m_items b.m_currentBuybackSlot).isSome = true)
    (hfirst : (b.m_items BUYBACK_SLOT_START).isSome = true) :
    (b.m_items b.nextSlot).isSome = true := by
  unfold BuyBack.nextSlot
  rw [if_pos hcurrent]
  dsimp only
  rcases BuyBack.search_taken with heq | ⟨-, hsome⟩
  · rw [heq]
    exact hfirst
  · exact hsome

/-! ## What is right -/

/-- **A sale is right exactly when it finds its slot.** -/
theorem Kept.displaces_iff (h : Kept m_logintime b) (base : ℤ) (pItem : Item) :
    Displaces b (b.AddItemToBuyBackSlot m_logintime base (some pItem)) ⟨pItem, base⟩ ↔
      FindsSlot b (.add base (some pItem)) := by
  unfold FindsSlot
  constructor
  · rintro ⟨slot, hslot, hitems, hdisplaced⟩
    by_contra hnot
    obtain ⟨hcurrent, hfirst, hall⟩ : ¬ _ ∧ ¬ _ ∧ ¬ _ := by
      simpa only [not_or] using hnot
    rw [← ne_eq, ← Option.isSome_iff_ne_none] at hcurrent hfirst
    -- whatever slot is meant, something was in it
    have hsome : (b.m_items slot).isSome = true := by
      by_cases heq : slot = b.nextSlot
      · rw [heq]
        exact nextSlot_taken hcurrent hfirst
      · have hthere := congrFun hitems slot
        rw [h.m_items_add, Function.update_self, Function.update_of_ne heq] at hthere
        rw [hthere]
        rfl
    obtain ⟨displaced, hd⟩ := Option.isSome_iff_exists.mp hsome
    exact hall (hdisplaced displaced hd).1
  · intro hfinds
    refine ⟨b.nextSlot, h.isSlot_nextSlot, h.m_items_add base pItem, fun displaced hd => ?_⟩
    cases hcurrent : b.m_items b.m_currentBuybackSlot with
    | none =>
      rw [nextSlot_of_free hcurrent, hcurrent] at hd
      cases hd
    | some sold =>
      have hcurrent' : (b.m_items b.m_currentBuybackSlot).isSome = true := by rw [hcurrent]; rfl
      rcases hfinds with hfree | hfirst | hall
      · rw [hcurrent] at hfree
        cases hfree
      · rw [h.nextSlot_of_first hcurrent' hfirst, hfirst] at hd
        cases hd
      · exact ⟨hall, fun i other hi hother => h.earliest_nextSlot hall hd hi hother⟩

theorem Kept.right_iff (h : Kept m_logintime b) {op : Op} (hfits : op.Fits m_logintime) :
    Right m_logintime b op ↔ FindsSlot b op := by
  have hdescribes := (h.step hfits).describes
  unfold Right
  rw [and_iff_left hdescribes]
  cases op with
  | add base pItem =>
    cases pItem with
    | none => exact iff_of_true rfl trivial
    | some pItem => exact h.displaces_iff base pItem
  | remove slot => exact iff_of_true (m_items_remove slot) trivial

/-- **A player sells and buys back**: all goes right exactly when every sale finds its slot. -/
theorem admissible_right_iff (m_logintime : ℤ) (ops : List Op)
    (hfits : ∀ op ∈ ops, op.Fits m_logintime) :
    Admissible (step m_logintime) (Right m_logintime) .new ops ↔
      Admissible (step m_logintime) FindsSlot .new ops :=
  admissible_congr (Kept m_logintime) (fun _ op hop h _ => h.step (hfits op hop))
    (fun _ op hop h => h.right_iff (hfits op hop)) (kept_new m_logintime)

/-! ## An item is lost -/

def trinket (n : ℕ) : Item := ⟨n, 1, some 100⟩

/-- Two items are sold, the second is bought back, and ten are sold. -/
def soldAndBought : List Op :=
  [.add 1000 (some (trinket 0)), .add 1001 (some (trinket 1)), .remove 75] ++
    (List.range 10).map fun n => .add (1002 + n) (some (trinket (2 + n)))

theorem admissible_right_iff_soldAndBought :
    Admissible (step 1000) (Right 1000) .new soldAndBought ↔
      Admissible (step 1000) FindsSlot .new soldAndBought :=
  admissible_right_iff 1000 soldAndBought (by decide)

/-- **The next sale loses the item in the first slot** although the second slot is free. -/
theorem not_admissible_right :
    ¬ ∀ m_logintime ops, (∀ op ∈ ops, op.Fits m_logintime) →
      Admissible (step m_logintime) (Right m_logintime) .new ops := by
  intro h
  have hright := h 1000 (soldAndBought ++ [.add 1012 (some (trinket 12))]) (by decide)
  have hlast := (admissible_append.mp hright).2.1
  have hkept : Kept 1000 (run (step 1000) .new soldAndBought) :=
    foldl_invariant (Kept 1000) (fun _ op hop h => h.step
      ((by decide : ∀ op ∈ soldAndBought, op.Fits 1000) op hop)) (kept_new 1000)
  rcases (hkept.right_iff (by decide)).mp hlast with hcurrent | hfirst | hall
  · exact absurd hcurrent (by decide +kernel)
  · exact absurd hfirst (by decide +kernel)
  · exact absurd (hall 75 (by decide)) (by decide +kernel)

end TeraCore.Storage.Shop
