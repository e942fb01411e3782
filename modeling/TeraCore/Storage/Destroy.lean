import TeraCore.Commons.Withdrawal
import TeraCore.Storage.Update

/-!
# Destroying a number of things

`Storage.destroyItemCount` destroys a number of things of one entry: it goes through the backpack,
the keyring and the currency tokens, the worn bags, and what is worn.  A stack that is not larger
than what is still to be destroyed is destroyed; the first that is larger is made smaller, and
there the search ends.  Items in trade are passed by.

To destroy a bag is to destroy what is in it.  A bag of the entry that is worn is therefore
destroyed with items of other entries in it.

## Main results

* `Storage.getItemByPos_destroyItem`: the position of the item is free, and so are those in it
-/

namespace TeraCore

open Commons

/-! ## Destroying -/

/-- The difference of two unsigned 32-bit numbers. -/
def sub32 (a b : ℕ) : ℕ := (a + 2 ^ 32 - b) % 2 ^ 32

namespace Storage

/-- **`DestroyItem`.** What is in a bag is destroyed before it, up to a depth of bags in bags. -/
def destroyItem (env : StorageEnv) : ℕ → Storage → Pos → Storage
  | 0, s, _ => s
  | depth + 1, s, p =>
    match s.getItemByPos env p with
    | none => s
    | some i =>
      let s :=
        if s.isNotEmptyBag env i then
          -- the slot of the bag is the number of the bag here
          (slotsOf p.slot 0 maxBagSize).foldl (destroyItem env depth) s
        else s
      if p.bag = inventorySlotBag0 ∨ (s.getBagByPos env p.bag).isSome then s.clear p else s

end Storage

/-- **What is to be destroyed**, and whether what is worn is first asked for. -/
structure DestroyRequest where
  entry : ℕ
  count : ℕ
  unequipCheck : Bool
  deriving DecidableEq

/-- What a search for things to destroy knows: what lies where, how many were destroyed, and
whether it has ended. -/
structure Destroying where
  storage : Storage
  remcount : ℕ
  finished : Bool

section DestroyItemCount

variable (env : StorageEnv) (inTrade : ℕ → Bool) (canUnequipItem : Storage → Pos → EquipErr)
  (depth : ℕ) (r : DestroyRequest)

/-- Is the item of the entry, and not in trade? -/
def DestroyRequest.offers (i : Item) : Bool := i.entry == r.entry && !inTrade i.guid

/-- **One position of a search.** The count and what was destroyed are unsigned 32-bit numbers. -/
def Destroying.visit (mayDestroy : Storage → Pos → Bool) (t : Destroying) (p : Pos) : Destroying :=
  if t.finished then t
  else
    match t.storage.getItemByPos env p with
    | none => t
    | some i =>
      if r.offers inTrade i then
        if (i.count + t.remcount) % 2 ^ 32 ≤ r.count then
          if mayDestroy t.storage p then
            let remcount := (t.remcount + i.count) % 2 ^ 32
            ⟨t.storage.destroyItem env depth p, remcount, r.count ≤ remcount⟩
          else t
        else
          let left := (sub32 i.count r.count + t.remcount) % 2 ^ 32
          ⟨t.storage.set p { i with count := left }, t.remcount, true⟩
      else t

/-- What is in the backpack, in bags and in the keyring can be destroyed. -/
def anyPlace (_ : Storage) (_ : Pos) : Bool := true

/-- What is worn can be destroyed, unless it is asked for and cannot be unequipped. -/
def DestroyRequest.mayUnequip (s : Storage) (p : Pos) : Bool :=
  !r.unequipCheck || canUnequipItem s p == .ok

def Storage.destroyItemCount (s : Storage) : Storage :=
  let visit := Destroying.visit env inTrade depth r anyPlace
  let t : Destroying := ⟨s, 0, false⟩
  let t := (slotsOf inventorySlotBag0 inventorySlotItemStart inventorySlotItemEnd).foldl visit t
  let t := (slotsOf inventorySlotBag0 keyringSlotStart currencytokenSlotEnd).foldl visit t
  let t := inventoryBags.foldl (fun t bag => (t.storage.bagPlaces env bag).foldl visit t) t
  ((slotsOf inventorySlotBag0 0 inventorySlotBagEnd).foldl
    (Destroying.visit env inTrade depth r (r.mayUnequip canUnequipItem)) t).storage

end DestroyItemCount

/-! ## Items in bags -/

namespace Storage

variable {s : Storage} {env : StorageEnv} {p q : Pos} {i : Item}

/-- Outside of a bag everything is as before, and nothing new lies in it. -/
structure EmptiedOf (bag : ℕ) (s t : Storage) : Prop where
  outside : ∀ q, q.bag ≠ bag → t.cells q = s.cells q
  inside : ∀ q, t.cells q = s.cells q ∨ t.cells q = none

namespace EmptiedOf

variable {t : Storage} {bag : ℕ}

theorem refl (bag : ℕ) (s : Storage) : EmptiedOf bag s s := ⟨fun _ _ => rfl, fun _ => .inl rfl⟩

section

variable (h : EmptiedOf bag s t) (hbag : bag ≠ inventorySlotBag0)
include h hbag

theorem getBagByPos (b : ℕ) : t.getBagByPos env b = s.getBagByPos env b := by
  rw [Storage.getBagByPos, Storage.getBagByPos, h.outside _ hbag.symm]

theorem isPlace : t.isPlace env q = s.isPlace env q := by
  rw [Storage.isPlace, Storage.isPlace, h.getBagByPos hbag]

theorem getItemByPos (hq : q.bag ≠ bag) : t.getItemByPos env q = s.getItemByPos env q := by
  rw [Storage.getItemByPos, Storage.getItemByPos, h.isPlace hbag, h.outside q hq]

theorem getItemByPos_of_some (hq : t.getItemByPos env q = some i) :
    s.getItemByPos env q = some i := by
  have hcell := cells_of_getItemByPos hq
  rw [Storage.getItemByPos, ← h.isPlace hbag, if_pos (isPlace_of_getItemByPos hq)]
  rcases h.inside q with heq | hnone
  · rw [← heq, hcell]
  · rw [hnone] at hcell
    cases hcell

end

theorem clear (h : EmptiedOf bag s t) (hp : p.bag = bag) : EmptiedOf bag s (t.clear p) := by
  constructor
  · intro q hq
    have hne : q ≠ p := by
      rintro rfl
      exact hq hp
    rw [← h.outside q hq]
    simp [Storage.clear, hne]
  · intro q
    by_cases hself : q = p
    · exact .inr (by simp [Storage.clear, hself])
    · have hcell : (t.clear p).cells q = t.cells q := by simp [Storage.clear, hself]
      rw [hcell]
      exact h.inside q

end EmptiedOf

namespace Carrying

/-- **What is a bag with something in it** lies where bags are worn. -/
theorem pos_of_isNotEmptyBag (hs : s.Carrying env) (hp : s.getItemByPos env p = some i)
    (h : s.isNotEmptyBag env i = true) :
    p.bag = inventorySlotBag0 ∧ isBagSlot p.slot = true := by
  obtain ⟨bag, b, hb, hguid⟩ := worn_of_isNotEmptyBag h
  have hpos := hs.guid_inj _ _ _ _ hp (getItemByPos_of_getBagByPos hb) hguid.symm
  rw [hpos]
  exact ⟨rfl, isBagSlot_of_getBagByPos hb⟩

end Carrying

theorem emptiedOf_destroyItem {t : Storage} {depth : ℕ} (hs : s.Carrying env)
    (hbag : p.bag ≠ inventorySlotBag0) (ht : EmptiedOf p.bag s t) :
    EmptiedOf p.bag s (t.destroyItem env (depth + 1) p) := by
  unfold destroyItem
  cases hitem : t.getItemByPos env p with
  | none => exact ht
  | some i =>
    have hempty : t.isNotEmptyBag env i = false := by
      rw [← Bool.not_eq_true]
      intro hnot
      obtain ⟨bag, b, hb, hguid⟩ := worn_of_isNotEmptyBag hnot
      rw [ht.getBagByPos hbag] at hb
      have hpos := hs.guid_inj _ _ _ _ (ht.getItemByPos_of_some hbag hitem)
        (getItemByPos_of_getBagByPos hb) hguid.symm
      exact hbag (by rw [hpos])
    simp only [hempty, Bool.false_eq_true, if_false]
    split_ifs
    · exact ht.clear rfl
    · exact ht

theorem emptiedOf_foldl {t : Storage} {depth bag : ℕ} (hs : s.Carrying env)
    (hbag : bag ≠ inventorySlotBag0) (ps : List Pos) (hps : ∀ p ∈ ps, p.bag = bag)
    (ht : EmptiedOf bag s t) :
    EmptiedOf bag s (ps.foldl (destroyItem env (depth + 1)) t) := by
  induction ps generalizing t with
  | nil => exact ht
  | cons p ps ih =>
    have hp := hps p List.mem_cons_self
    subst hp
    exact ih (fun q hq => hps q (List.mem_cons_of_mem p hq)) (emptiedOf_destroyItem hs hbag ht)

/-- **An item that is destroyed** leaves its position free, and there are no positions in it any
more. -/
theorem getItemByPos_destroyItem (depth : ℕ) (q : Pos) (hs : s.Carrying env)
    (hp : s.getItemByPos env p = some i) :
    (s.destroyItem env (depth + 2) p).getItemByPos env q =
      if q = p ∨ p.bag = inventorySlotBag0 ∧ q.bag = p.slot then none
      else s.getItemByPos env q := by
  have hplace := isPlace_of_getItemByPos hp
  unfold destroyItem
  simp only [hp]
  cases hnot : s.isNotEmptyBag env i with
  | false =>
    simp only [Bool.false_eq_true, if_false]
    have hin : p.bag = inventorySlotBag0 ∨ (s.getBagByPos env p.bag).isSome = true := by
      rcases isPlace_iff.mp hplace with ⟨hown, -⟩ | ⟨b, hb, -⟩
      · exact .inl hown
      · exact .inr (by rw [hb]; rfl)
    rw [if_pos hin, getItemByPos_clear hplace]
  | true =>
    obtain ⟨hown, hslot⟩ := hs.pos_of_isNotEmptyBag hp hnot
    have hne : p.slot ≠ inventorySlotBag0 := slot_ne_of_isPlace hplace hown
    have hemptied : EmptiedOf p.slot s
        ((slotsOf p.slot 0 maxBagSize).foldl (destroyItem env (depth + 1)) s) :=
      emptiedOf_foldl hs hne _ (fun q hq => (mem_slotsOf.mp hq).1) (EmptiedOf.refl _ s)
    rw [if_pos rfl, if_pos (.inl hown),
      getItemByPos_clear (by rw [hemptied.isPlace hne]; exact hplace)]
    -- what is left in the bag is not looked at any more
    by_cases hgone : q = p ∨ p.bag = inventorySlotBag0 ∧ q.bag = p.slot
    · rw [if_pos hgone, if_pos hgone]
    · rw [if_neg hgone, if_neg hgone, hemptied.getItemByPos hne]
      exact fun hq => hgone (.inr ⟨hown, hq⟩)

end Storage

end TeraCore
