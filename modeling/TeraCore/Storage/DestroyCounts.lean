import TeraCore.Storage.Destroy

/-!
# What is destroyed is what was asked for

`Storage.destroyItemCount` takes a number of things from the stacks of one entry as
`Commons.withdraw` does, in the order of its searches.  A position that it goes through either
stays as it is, or held a stack that was taken or made smaller, or lies in a worn bag of the entry
that was taken.

## Main results

* `Reached.foldl`: what becomes of each position
* `amounts_foldl`: what is left of the stacks
* `destroyItemCount_destroysExactly`: exactly what was asked for is destroyed
* `not_othersKept`: a bag that is destroyed takes items of other entries with it
-/

namespace TeraCore

open Commons Storage

section Fates

variable {env : StorageEnv} {inTrade : ℕ → Bool} {r : DestroyRequest} {depth : ℕ}
  {mayDestroy : Storage → Pos → Bool}

/-- **What may become of a position** when things are destroyed. -/
inductive Fate (env : StorageEnv) (inTrade : ℕ → Bool) (r : DestroyRequest) (s u : Storage)
    (q : Pos) : Prop
  | kept (h : u.getItemByPos env q = s.getItemByPos env q)
  | taken (i : Item) (h : s.getItemByPos env q = some i) (hoffers : r.offers inTrade i = true)
      (hnone : u.getItemByPos env q = none)
  | lowered (i : Item) (n : ℕ) (h : s.getItemByPos env q = some i)
      (hoffers : r.offers inTrade i = true) (hpos : 0 < n) (hle : n ≤ i.count)
      (hleft : u.getItemByPos env q = some { i with count := n })
  | inBag (b : Item) (hbag : s.getItemByPos env ⟨inventorySlotBag0, q.bag⟩ = some b)
      (hoffers : r.offers inTrade b = true)
      (hgone : u.getItemByPos env ⟨inventorySlotBag0, q.bag⟩ = none)
      (hnone : u.getItemByPos env q = none)

namespace Fate

variable {s t u : Storage} {q : Pos} {i : Item}

/-- **What is left** was there before, and no less of it. -/
theorem of_some (h : Fate env inTrade r s u q) (hq : u.getItemByPos env q = some i) :
    ∃ j, s.getItemByPos env q = some j ∧ i = { j with count := i.count } ∧ i.count ≤ j.count := by
  cases h with
  | kept h => exact ⟨i, h ▸ hq, rfl, Nat.le_refl _⟩
  | taken j h hoffers hnone =>
    rw [hnone] at hq
    cases hq
  | lowered j n h hoffers hpos hle hleft =>
    cases hleft.symm.trans hq
    exact ⟨j, h, rfl, hle⟩
  | inBag b hbag hoffers hgone hnone =>
    rw [hnone] at hq
    cases hq

theorem offers_of_some (h : Fate env inTrade r s u q) (hq : u.getItemByPos env q = some i)
    (hoffers : r.offers inTrade i = true) :
    ∃ j, s.getItemByPos env q = some j ∧ r.offers inTrade j = true := by
  obtain ⟨j, hj, heq, -⟩ := h.of_some hq
  refine ⟨j, hj, ?_⟩
  rw [heq] at hoffers
  exact hoffers

theorem none_of_none (h : Fate env inTrade r s u q) (hq : s.getItemByPos env q = none) :
    u.getItemByPos env q = none := by
  cases hu : u.getItemByPos env q with
  | none => rfl
  | some i =>
    obtain ⟨j, hj, -⟩ := h.of_some hu
    rw [hq] at hj
    cases hj

/-- **One change after another**, where the bags have their fates too. -/
theorem trans (hbags : ∀ p, Fate env inTrade r s t p) (hbags' : ∀ p, Fate env inTrade r t u p) :
    Fate env inTrade r s u q := by
  cases hbags' q with
  | kept h' =>
    cases hbags q with
    | kept h => exact .kept (h'.trans h)
    | taken i h hoffers hnone => exact .taken i h hoffers (h'.trans hnone)
    | lowered i n h hoffers hpos hle hleft => exact .lowered i n h hoffers hpos hle (h'.trans hleft)
    | inBag b hbag hoffers hgone hnone =>
      exact .inBag b hbag hoffers ((hbags' _).none_of_none hgone) (h'.trans hnone)
  | taken i h' hoffers hnone =>
    obtain ⟨j, hj, hoffers⟩ := (hbags q).offers_of_some h' hoffers
    exact .taken j hj hoffers hnone
  | lowered i n h' hoffers hpos hle hleft =>
    obtain ⟨j, hj, hoffers'⟩ := (hbags q).offers_of_some h' hoffers
    obtain ⟨j', hj', heq, hle'⟩ := (hbags q).of_some h'
    cases hj.symm.trans hj'
    refine .lowered j n hj hoffers' hpos (hle.trans hle') ?_
    rw [hleft, heq]
  | inBag b hbag hoffers hgone hnone =>
    obtain ⟨j, hj, hoffers⟩ := (hbags _).offers_of_some hbag hoffers
    exact .inBag j hj hoffers hgone hnone

/-- **Items of other entries, and those in trade**, stay or lie in a bag that was taken. -/
theorem of_not_offers (h : Fate env inTrade r s u q) (hq : s.getItemByPos env q = some i)
    (hoffers : r.offers inTrade i = false) :
    u.getItemByPos env q = some i ∨ ∃ b, s.getItemByPos env ⟨inventorySlotBag0, q.bag⟩ = some b ∧
      r.offers inTrade b = true ∧ u.getItemByPos env ⟨inventorySlotBag0, q.bag⟩ = none ∧
      u.getItemByPos env q = none := by
  cases h with
  | kept h => exact .inl (h.trans hq)
  | taken j h hoffers' hnone =>
    cases hq.symm.trans h
    rw [hoffers] at hoffers'
    cases hoffers'
  | lowered j n h hoffers' hpos hle hleft =>
    cases hq.symm.trans h
    rw [hoffers] at hoffers'
    cases hoffers'
  | inBag b hbag hoffers' hgone hnone => exact .inr ⟨b, hbag, hoffers', hgone, hnone⟩

theorem carrying (hs : s.Carrying env) (h : ∀ p, Fate env inTrade r s u p) : u.Carrying env := by
  constructor
  · intro p q i j hp hq hguid
    obtain ⟨i', hi', hi, -⟩ := (h p).of_some hp
    obtain ⟨j', hj', hj, -⟩ := (h q).of_some hq
    rw [hi, hj] at hguid
    exact hs.guid_inj p q i' j' hi' hj' hguid
  · intro p i hp
    cases h p with
    | kept h => exact hs.count_pos p i (h ▸ hp)
    | taken j h hoffers hnone =>
      rw [hnone] at hp
      cases hp
    | lowered j n h hoffers hpos hle hleft =>
      cases hleft.symm.trans hp
      exact hpos
    | inBag b hbag hoffers hgone hnone =>
      rw [hnone] at hp
      cases hp
  · intro p i hp
    obtain ⟨j, hj, -, hle⟩ := (h p).of_some hp
    exact Nat.lt_of_le_of_lt hle (hs.count_lt p j hj)

end Fate

/-! ## One position of a search -/

section Visit

variable {t : Destroying} {p q : Pos} {i : Item}

theorem left_eq {c count remcount : ℕ} (hc : c < 2 ^ 32) (hcount : count < 2 ^ 32)
    (hrem : remcount ≤ count) (hlt : count < c + remcount) :
    (sub32 c count + remcount) % 2 ^ 32 = c + remcount - count := by
  unfold sub32
  omega

theorem visit_of_not_offers (h : ∀ i, t.storage.getItemByPos env p = some i →
    r.offers inTrade i = false) : t.visit env inTrade depth r mayDestroy p = t := by
  unfold Destroying.visit
  cases hitem : t.storage.getItemByPos env p with
  | none => exact ite_self t
  | some i => simp [h i hitem]

theorem visit_whole (depth : ℕ) (hopen : t.finished = false)
    (hitem : t.storage.getItemByPos env p = some i)
    (hoffers : r.offers inTrade i = true) (hle : (i.count + t.remcount) % 2 ^ 32 ≤ r.count) :
    t.visit env inTrade depth r anyPlace p =
      ⟨t.storage.destroyItem env depth p, (t.remcount + i.count) % 2 ^ 32,
        r.count ≤ (t.remcount + i.count) % 2 ^ 32⟩ := by
  simp only [Destroying.visit, hopen, hitem, hoffers, anyPlace, Bool.false_eq_true, if_false,
    if_true]
  rw [if_pos hle]

theorem visit_part (hopen : t.finished = false) (hitem : t.storage.getItemByPos env p = some i)
    (hoffers : r.offers inTrade i = true) (hlt : r.count < (i.count + t.remcount) % 2 ^ 32) :
    t.visit env inTrade depth r anyPlace p =
      ⟨t.storage.set p { i with count := (sub32 i.count r.count + t.remcount) % 2 ^ 32 },
        t.remcount, true⟩ := by
  simp only [Destroying.visit, hopen, hitem, hoffers, Bool.false_eq_true, if_false, if_true]
  rw [if_neg (Nat.not_le_of_lt hlt)]

/-- **What one position can do**: nothing, or its item is destroyed, or made smaller. -/
theorem visit_cases (env : StorageEnv) (inTrade : ℕ → Bool) (depth : ℕ) (r : DestroyRequest)
    (t : Destroying) (p : Pos) : t.visit env inTrade depth r anyPlace p = t ∨
    ∃ i, t.storage.getItemByPos env p = some i ∧ r.offers inTrade i = true ∧
      ((i.count + t.remcount) % 2 ^ 32 ≤ r.count ∧
          t.visit env inTrade depth r anyPlace p =
            ⟨t.storage.destroyItem env depth p, (t.remcount + i.count) % 2 ^ 32,
              r.count ≤ (t.remcount + i.count) % 2 ^ 32⟩ ∨
        r.count < (i.count + t.remcount) % 2 ^ 32 ∧
          t.visit env inTrade depth r anyPlace p =
            ⟨t.storage.set p { i with count := (sub32 i.count r.count + t.remcount) % 2 ^ 32 },
              t.remcount, true⟩) := by
  cases hopen : t.finished with
  | true => exact .inl (by simp [Destroying.visit, hopen])
  | false =>
    by_cases h : ∀ i, t.storage.getItemByPos env p = some i → r.offers inTrade i = false
    · exact .inl (visit_of_not_offers h)
    · push Not at h
      obtain ⟨i, hitem, hoffers⟩ := h
      replace hoffers := Bool.of_not_eq_false hoffers
      refine .inr ⟨i, hitem, hoffers, ?_⟩
      rcases Nat.lt_or_ge r.count ((i.count + t.remcount) % 2 ^ 32) with hlt | hle
      · exact .inr ⟨hlt, visit_part hopen hitem hoffers hlt⟩
      · exact .inl ⟨hle, visit_whole depth hopen hitem hoffers hle⟩

variable {s : Storage}

theorem fate_destroyItem (depth : ℕ) (hs : s.Carrying env)
    (hitem : s.getItemByPos env p = some i) (hoffers : r.offers inTrade i = true) (q : Pos) :
    Fate env inTrade r s (s.destroyItem env (depth + 2) p) q := by
  have hbags := getItemByPos_destroyItem depth ⟨inventorySlotBag0, q.bag⟩ hs hitem
  have hq := getItemByPos_destroyItem depth q hs hitem
  by_cases hself : q = p
  · rw [if_pos (.inl hself)] at hq
    exact .taken i (hself ▸ hitem) hoffers hq
  by_cases hin : p.bag = inventorySlotBag0 ∧ q.bag = p.slot
  · have hpos : (⟨inventorySlotBag0, q.bag⟩ : Pos) = p := by rw [hin.2, ← hin.1]
    rw [if_pos (.inr hin)] at hq
    rw [if_pos (.inl hpos)] at hbags
    exact .inBag i (hpos ▸ hitem) hoffers hbags hq
  · rw [if_neg (by tauto)] at hq
    exact .kept hq

theorem fate_set {n : ℕ} (hitem : s.getItemByPos env p = some i)
    (hoffers : r.offers inTrade i = true) (hpos : 0 < n) (hle : n ≤ i.count) (q : Pos) :
    Fate env inTrade r s (s.set p { i with count := n }) q := by
  have hq := getItemByPos_set_count (q := q) hitem n
  by_cases hself : q = p
  · rw [if_pos hself] at hq
    exact .lowered i n (hself ▸ hitem) hoffers hpos hle hq
  · rw [if_neg hself] at hq
    exact .kept hq

/-- What is known of a search on its way from a state. -/
structure Reached (env : StorageEnv) (inTrade : ℕ → Bool) (r : DestroyRequest) (s : Storage)
    (t : Destroying) : Prop where
  fate : ∀ q, Fate env inTrade r s t.storage q
  remcount_le : t.remcount ≤ r.count

theorem Reached.refl (env : StorageEnv) (inTrade : ℕ → Bool) (h : t.remcount ≤ r.count) :
    Reached env inTrade r t.storage t :=
  ⟨fun _ => .kept rfl, h⟩

/-- **One position keeps to the fates.** -/
theorem Reached.visit (h : Reached env inTrade r s t) (depth : ℕ) (hs : s.Carrying env)
    (hcount : r.count < 2 ^ 32) (p : Pos) :
    Reached env inTrade r s (t.visit env inTrade (depth + 2) r anyPlace p) := by
  have ht := Fate.carrying hs h.fate
  rcases visit_cases env inTrade (depth + 2) r t p with
    heq | ⟨i, hitem, hoffers, ⟨hle, heq⟩ | ⟨hlt, heq⟩⟩
  · rw [heq]
    exact h
  · rw [heq]
    refine ⟨fun q => Fate.trans h.fate (fate_destroyItem depth ht hitem hoffers), ?_⟩
    simp only [Nat.add_comm t.remcount, hle]
  · rw [heq]
    have hrem := h.remcount_le
    have hsum : r.count < i.count + t.remcount := Nat.lt_of_lt_of_le hlt (Nat.mod_le _ _)
    rw [left_eq (ht.count_lt p i hitem) hcount hrem hsum]
    have hfate := fate_set hitem hoffers (n := i.count + t.remcount - r.count) (by omega) (by omega)
    exact ⟨fun q => Fate.trans h.fate hfate, hrem⟩

theorem Reached.foldl (h : Reached env inTrade r s t) (depth : ℕ) (hs : s.Carrying env)
    (hcount : r.count < 2 ^ 32) (ps : List Pos) :
    Reached env inTrade r s (ps.foldl (Destroying.visit env inTrade (depth + 2) r anyPlace) t) := by
  induction ps generalizing t with
  | nil => exact h
  | cons p ps ih => exact ih (h.visit depth hs hcount p)

end Visit

/-! ## What is left of the stacks -/

/-- **The number of things offered** at a position. -/
def Storage.amountAt (s : Storage) (env : StorageEnv) (inTrade : ℕ → Bool) (r : DestroyRequest)
    (p : Pos) : ℕ :=
  match s.getItemByPos env p with
  | none => 0
  | some i => if r.offers inTrade i then i.count else 0

/-- What happens at a position leaves another one as it is. -/
def Pos.Leaves (p q : Pos) : Prop := q ≠ p ∧ (p.bag = inventorySlotBag0 → q.bag ≠ p.slot)

section Amounts

variable {s t : Storage} {p q : Pos} {i : Item}

theorem amountAt_congr (h : t.getItemByPos env p = s.getItemByPos env p) :
    t.amountAt env inTrade r p = s.amountAt env inTrade r p := by
  rw [amountAt, amountAt, h]

theorem amountAt_of_none (h : s.getItemByPos env p = none) :
    s.amountAt env inTrade r p = 0 := by
  rw [amountAt, h]

theorem amountAt_of_offers (h : s.getItemByPos env p = some i)
    (hoffers : r.offers inTrade i = true) : s.amountAt env inTrade r p = i.count := by
  simp [amountAt, h, hoffers]

theorem amountAt_of_not_offers (h : ∀ i, s.getItemByPos env p = some i →
    r.offers inTrade i = false) : s.amountAt env inTrade r p = 0 := by
  unfold amountAt
  cases hitem : s.getItemByPos env p with
  | none => rfl
  | some i => simp [h i hitem]

theorem Fate.amountAt_eq_zero (h : Fate env inTrade r s t p)
    (hzero : ∀ i, s.getItemByPos env p = some i → r.offers inTrade i = false) :
    t.amountAt env inTrade r p = 0 := by
  refine amountAt_of_not_offers fun i hitem => ?_
  rw [← Bool.not_eq_true]
  intro hoffers
  obtain ⟨j, hj, hoffers'⟩ := h.offers_of_some hitem hoffers
  rw [hzero j hj] at hoffers'
  cases hoffers'

theorem getItemByPos_destroyItem_of_leaves (hs : s.Carrying env)
    (hitem : s.getItemByPos env p = some i) (hleaves : p.Leaves q) :
    (s.destroyItem env (depth + 2) p).getItemByPos env q = s.getItemByPos env q := by
  rw [getItemByPos_destroyItem depth _ hs hitem, if_neg]
  rintro (heq | ⟨hbag, hslot⟩)
  · exact hleaves.1 heq
  · exact hleaves.2 hbag hslot

theorem foldl_visit_of_finished {t : Destroying} (h : t.finished = true) (ps : List Pos) :
    ps.foldl (Destroying.visit env inTrade depth r mayDestroy) t = t := by
  induction ps with
  | nil => rfl
  | cons p ps ih =>
    rw [List.foldl_cons, Destroying.visit, if_pos h]
    exact ih

/-- **The search goes on**: less was destroyed than is to be, or nothing is to be. -/
structure Destroying.Open (r : DestroyRequest) (t : Destroying) : Prop where
  finished : t.finished = false
  remcount : t.remcount < r.count ∨ t.remcount = 0 ∧ r.count = 0

theorem Destroying.Open.remcount_le {t : Destroying} (h : t.Open r) : t.remcount ≤ r.count := by
  have := h.remcount
  omega

theorem amounts_part {t : Destroying} {ps : List Pos} (hs : t.storage.Carrying env)
    (hcount : r.count < 2 ^ 32) (hopen : t.Open r) (hp : ∀ q ∈ ps, p.Leaves q)
    (hitem : t.storage.getItemByPos env p = some i) (hoffers : r.offers inTrade i = true)
    (hfits : t.remcount + i.count < 2 ^ 32) (hlt : r.count < i.count + t.remcount) :
    (p :: ps).map (((p :: ps).foldl (Destroying.visit env inTrade depth r anyPlace)
        t).storage.amountAt env inTrade r) =
      (i.count - (r.count - t.remcount)) :: ps.map (t.storage.amountAt env inTrade r) := by
  have hsum : (i.count + t.remcount) % 2 ^ 32 = i.count + t.remcount :=
    Nat.mod_eq_of_lt (by omega)
  have hrem := hopen.remcount_le
  rw [List.foldl_cons, visit_part hopen.finished hitem hoffers (by rw [hsum]; exact hlt),
    foldl_visit_of_finished rfl, List.map_cons,
    left_eq (hs.count_lt p i hitem) hcount hrem hlt]
  congr 1
  · have hleft := (getItemByPos_set_count (q := p) hitem (i.count + t.remcount - r.count)).trans
      (if_pos rfl)
    rw [amountAt_of_offers hleft hoffers]
    show i.count + t.remcount - r.count = i.count - (r.count - t.remcount)
    omega
  · exact List.map_congr_left fun q hq =>
      amountAt_congr ((getItemByPos_set_count hitem _).trans (if_neg (hp q hq).1))

/-- **A search takes from the stacks** in its order, as long as no sum wraps around. -/
theorem amounts_foldl {t : Destroying} {ps : List Pos} (depth : ℕ) (hs : t.storage.Carrying env)
    (hcount : r.count < 2 ^ 32) (hopen : t.Open r) (hps : ps.Pairwise Pos.Leaves)
    (hfits : Withdrawable (2 ^ 32) r.count t.remcount
      (ps.map (t.storage.amountAt env inTrade r))) :
    ps.map ((ps.foldl (Destroying.visit env inTrade (depth + 2) r anyPlace) t).storage.amountAt
        env inTrade r) =
      withdraw (r.count - t.remcount) (ps.map (t.storage.amountAt env inTrade r)) := by
  induction ps generalizing t with
  | nil => rfl
  | cons p ps ih =>
    obtain ⟨hp, hps⟩ := List.pairwise_cons.mp hps
    rw [List.map_cons] at hfits
    obtain ⟨hfits, hrest⟩ := hfits
    have hrem := hopen.remcount_le
    by_cases hoffers : ∀ i, t.storage.getItemByPos env p = some i → r.offers inTrade i = false
    · -- nothing is offered at the position, and nothing is later
      have hzero := amountAt_of_not_offers hoffers
      have hafter := ((Reached.refl env inTrade hrem).foldl depth
        hs hcount ps).fate p |>.amountAt_eq_zero hoffers
      have hrest := hrest (.inr hzero)
      rw [hzero, Nat.add_zero] at hrest
      rw [List.foldl_cons, visit_of_not_offers hoffers, List.map_cons, hafter, List.map_cons, hzero,
        withdraw_zero_cons, ih hs hopen hps hrest]
    push Not at hoffers
    obtain ⟨i, hitem, hoffers⟩ := hoffers
    replace hoffers := Bool.of_not_eq_false hoffers
    have hamount := amountAt_of_offers hitem hoffers
    rw [hamount] at hfits hrest
    rcases Nat.lt_or_ge r.count (i.count + t.remcount) with hlt | hle
    · rw [amounts_part hs hcount hopen hp hitem hoffers hfits hlt, List.map_cons, hamount,
        withdraw_cons_of_lt _ (by omega)]
    have hsum : (i.count + t.remcount) % 2 ^ 32 = i.count + t.remcount :=
      Nat.mod_eq_of_lt (by omega)
    have hvisit := visit_whole (depth + 2) hopen.finished hitem hoffers
      (by rw [hsum]; exact hle)
    rw [Nat.add_comm t.remcount, hsum] at hvisit
    have hnone : (t.storage.destroyItem env (depth + 2) p).getItemByPos env p = none :=
      (getItemByPos_destroyItem depth _ hs hitem).trans (if_pos (.inl rfl))
    have hsame : ps.map ((t.storage.destroyItem env (depth + 2) p).amountAt env inTrade r) =
        ps.map (t.storage.amountAt env inTrade r) :=
      List.map_congr_left fun q hq =>
        amountAt_congr (getItemByPos_destroyItem_of_leaves hs hitem (hp q hq))
    have hcarrying := Fate.carrying hs (fate_destroyItem depth hs hitem hoffers)
    rw [List.foldl_cons, hvisit, List.map_cons, List.map_cons, hamount,
      withdraw_cons_of_le _ (by omega)]
    rcases Nat.lt_or_ge (i.count + t.remcount) r.count with hless | hall
    · -- less was destroyed than is to be: the search goes on
      have hfits' := hrest (.inl (by omega))
      rw [Nat.add_comm t.remcount, ← hsame] at hfits'
      have hopen' : Destroying.Open r ⟨t.storage.destroyItem env (depth + 2) p,
          i.count + t.remcount, r.count ≤ i.count + t.remcount⟩ :=
        ⟨by simpa using hless, .inl hless⟩
      have hzero := ((Reached.refl env inTrade hopen'.remcount_le).foldl depth
        hcarrying hcount ps).fate p |>.none_of_none hnone
      rw [amountAt_of_none hzero, ih hcarrying hopen' hps hfits', hsame,
        show r.count - (i.count + t.remcount) = r.count - t.remcount - i.count by omega]
    · rw [foldl_visit_of_finished (by simpa using hall), amountAt_of_none hnone, hsame,
        show r.count - t.remcount - i.count = 0 by omega, withdraw_zero]

end Amounts

/-! ## All searches -/

/-- **The places that are searched**, in their order. -/
def Storage.searchedPlaces (s : Storage) (env : StorageEnv) : List Pos :=
  slotsOf inventorySlotBag0 inventorySlotItemStart inventorySlotItemEnd ++
    slotsOf inventorySlotBag0 keyringSlotStart currencytokenSlotEnd ++
    inventoryBags.flatMap (s.bagPlaces env) ++
    slotsOf inventorySlotBag0 0 inventorySlotBagEnd

/-- **The number of things offered**, over all the places that are searched. -/
def Storage.totalCount (s : Storage) (env : StorageEnv) (inTrade : ℕ → Bool) (r : DestroyRequest) :
    ℕ :=
  ((s.searchedPlaces env).map (s.amountAt env inTrade r)).sum

section Searches

variable {s : Storage} {t : Destroying} {p q : Pos} {bag : ℕ} {u : Storage} {first last : ℕ}

theorem bagPlaces_congr (h : u.getItemByPos env ⟨inventorySlotBag0, bag⟩ =
      s.getItemByPos env ⟨inventorySlotBag0, bag⟩) : u.bagPlaces env bag = s.bagPlaces env bag := by
  rw [bagPlaces, bagPlaces, getBagByPos_congr h]

theorem leaves_of_own (hq : q.bag = inventorySlotBag0) (hne : q ≠ p)
    (hslot : p.slot < playerSlotEnd) : p.Leaves q := by
  refine ⟨hne, fun _ => ?_⟩
  rw [hq]
  exact (Nat.ne_of_lt (Nat.lt_trans hslot (by decide))).symm

theorem leaves_of_bag (hp : p.bag ≠ inventorySlotBag0) (hne : q ≠ p) : p.Leaves q :=
  ⟨hne, fun hown => absurd hown hp⟩

theorem pairwise_slotsOf (hlast : last ≤ playerSlotEnd) :
    (slotsOf inventorySlotBag0 first last).Pairwise Pos.Leaves :=
  (nodup_slotsOf _ _ _).imp_of_mem fun hp hq hne =>
    leaves_of_own (mem_slotsOf.mp hq).1 hne.symm
      (Nat.lt_of_lt_of_le (mem_slotsOf.mp hp).2.2 hlast)

theorem pairwise_bags (s : Storage) :
    (inventoryBags.flatMap (s.bagPlaces env)).Pairwise Pos.Leaves := by
  refine List.pairwise_flatMap.mpr ⟨fun bag hbag => ?_, ?_⟩
  · refine (nodup_bagPlaces bag).imp_of_mem fun hp _ hne => leaves_of_bag ?_ hne.symm
    rw [(mem_bagPlaces.mp hp).1]
    exact ne_of_mem_inventoryBags hbag
  · have hbags : inventoryBags.Nodup := by decide
    refine hbags.imp_of_mem fun {bag bag'} hbag _ hne p hp q hq => leaves_of_bag ?_ ?_
    · rw [(mem_bagPlaces.mp hp).1]
      exact ne_of_mem_inventoryBags hbag
    · rintro rfl
      exact hne ((mem_bagPlaces.mp hp).1.symm.trans (mem_bagPlaces.mp hq).1)

theorem mem_bags (h : p ∈ inventoryBags.flatMap (s.bagPlaces env)) : p.bag ∈ inventoryBags := by
  obtain ⟨bag, hbag, hp⟩ := List.mem_flatMap.mp h
  rw [(mem_bagPlaces.mp hp).1]
  exact hbag

theorem leaves_slotsOf {first' last' : ℕ} (hlast : last ≤ playerSlotEnd)
    (hdisjoint : last ≤ first' ∨ last' ≤ first) (hp : p ∈ slotsOf inventorySlotBag0 first last)
    (hq : q ∈ slotsOf inventorySlotBag0 first' last') : p.Leaves q := by
  obtain ⟨-, hfirst, hplast⟩ := mem_slotsOf.mp hp
  obtain ⟨hq, hfirst', hqlast⟩ := mem_slotsOf.mp hq
  refine leaves_of_own hq ?_ (Nat.lt_of_lt_of_le hplast hlast)
  rintro rfl
  omega

theorem leaves_bags (hfirst : inventorySlotBagEnd ≤ first)
    (hp : p ∈ slotsOf inventorySlotBag0 first last)
    (hq : q ∈ inventoryBags.flatMap (s.bagPlaces env)) : p.Leaves q := by
  obtain ⟨hown, hle, -⟩ := mem_slotsOf.mp hp
  have hbag := mem_bags hq
  refine ⟨?_, fun _ heq => ?_⟩
  · rintro rfl
    exact ne_of_mem_inventoryBags hbag hown
  · have hlt : ∀ b ∈ inventoryBags, b < inventorySlotBagEnd := by decide
    have := hlt _ hbag
    omega

/-- **No place that was searched matters for a later one**: what is worn comes last. -/
theorem pairwise_searchedPlaces (s : Storage) : (s.searchedPlaces env).Pairwise Pos.Leaves := by
  unfold searchedPlaces
  simp only [List.pairwise_append, List.mem_append]
  refine ⟨⟨⟨pairwise_slotsOf (by decide), pairwise_slotsOf (by decide), ?_⟩, pairwise_bags s, ?_⟩,
    pairwise_slotsOf (by decide), ?_⟩
  · exact fun p hp q hq => leaves_slotsOf (by decide) (.inl (by decide)) hp hq
  · rintro p (hp | hp) q hq
    · exact leaves_bags (by decide) hp hq
    · exact leaves_bags (by decide) hp hq
  · rintro p ((hp | hp) | hp) q hq
    · exact leaves_slotsOf (by decide) (.inr (by decide)) hp hq
    · exact leaves_slotsOf (by decide) (.inr (by decide)) hp hq
    · have hbag := ne_of_mem_inventoryBags (mem_bags hp)
      refine leaves_of_bag hbag ?_
      rintro rfl
      exact hbag (mem_slotsOf.mp hq).1

/-! ### As one search -/

theorem getItemByPos_visit_of_leaves (ht : t.storage.Carrying env) (hleaves : p.Leaves q) :
    (t.visit env inTrade (depth + 2) r anyPlace p).storage.getItemByPos env q =
      t.storage.getItemByPos env q := by
  rcases visit_cases env inTrade (depth + 2) r t p with
    heq | ⟨i, hitem, -, ⟨-, heq⟩ | ⟨-, heq⟩⟩
  · rw [heq]
  · rw [heq]
    exact getItemByPos_destroyItem_of_leaves ht hitem hleaves
  · rw [heq]
    exact (getItemByPos_set_count hitem _).trans (if_neg hleaves.1)

theorem getItemByPos_foldl_of_leaves (ht : t.storage.Carrying env) (hrem : t.remcount ≤ r.count)
    (hcount : r.count < 2 ^ 32) {ps : List Pos} (hps : ∀ p ∈ ps, p.Leaves q) :
    (ps.foldl (Destroying.visit env inTrade (depth + 2) r anyPlace) t).storage.getItemByPos env q =
      t.storage.getItemByPos env q := by
  induction ps generalizing t with
  | nil => rfl
  | cons p ps ih =>
    obtain ⟨hp, hps⟩ := List.forall_mem_cons.mp hps
    have hreached := (Reached.refl env inTrade hrem).visit depth ht
      hcount p
    rw [List.foldl_cons, ih (Fate.carrying ht hreached.fate) hreached.remcount_le hps,
      getItemByPos_visit_of_leaves ht hp]

theorem foldl_bags (ht : t.storage.Carrying env) (hrem : t.remcount ≤ r.count)
    (hcount : r.count < 2 ^ 32) {bags : List ℕ} (hbags : ∀ bag ∈ bags, bag ∈ inventoryBags)
    (hsame : ∀ bag ∈ bags, t.storage.getItemByPos env ⟨inventorySlotBag0, bag⟩ =
      s.getItemByPos env ⟨inventorySlotBag0, bag⟩) :
    bags.foldl (fun t bag => (t.storage.bagPlaces env bag).foldl
        (Destroying.visit env inTrade (depth + 2) r anyPlace) t) t =
      (bags.flatMap (s.bagPlaces env)).foldl
        (Destroying.visit env inTrade (depth + 2) r anyPlace) t := by
  induction bags generalizing t with
  | nil => rfl
  | cons bag bags ih =>
    obtain ⟨hbag, hbags⟩ := List.forall_mem_cons.mp hbags
    obtain ⟨hfirst, hsame⟩ := List.forall_mem_cons.mp hsame
    have hreached := (Reached.refl env inTrade hrem).foldl depth ht
      hcount (s.bagPlaces env bag)
    rw [List.foldl_cons, List.flatMap_cons, List.foldl_append, bagPlaces_congr hfirst]
    refine ih (Fate.carrying ht hreached.fate) hreached.remcount_le hbags fun b hb => ?_
    rw [← hsame b hb]
    refine getItemByPos_foldl_of_leaves ht hrem hcount fun p hp => leaves_of_bag ?_ ?_
    · rw [(mem_bagPlaces.mp hp).1]
      exact ne_of_mem_inventoryBags hbag
    · rintro rfl
      exact ne_of_mem_inventoryBags hbag (mem_bagPlaces.mp hp).1.symm

theorem destroyItemCount_eq_foldl {canUnequipItem : Storage → Pos → EquipErr}
    (hs : s.Carrying env) (hcount : r.count < 2 ^ 32) (hunequip : r.unequipCheck = false) :
    s.destroyItemCount env inTrade canUnequipItem (depth + 2) r =
      ((s.searchedPlaces env).foldl (Destroying.visit env inTrade (depth + 2) r anyPlace)
        ⟨s, 0, false⟩).storage := by
  have hmay : r.mayUnequip canUnequipItem = anyPlace := by
    funext s p
    simp [DestroyRequest.mayUnequip, anyPlace, hunequip]
  have hstart : Reached env inTrade r s ⟨s, 0, false⟩ :=
    ⟨fun _ => .kept rfl, Nat.zero_le _⟩
  have hpack := hstart.foldl depth hs hcount
    (slotsOf inventorySlotBag0 inventorySlotItemStart inventorySlotItemEnd)
  have hkeys := hpack.foldl depth hs hcount
    (slotsOf inventorySlotBag0 keyringSlotStart currencytokenSlotEnd)
  unfold destroyItemCount searchedPlaces
  simp only [hmay, List.foldl_append]
  rw [foldl_bags (s := s) (Fate.carrying hs hkeys.fate) hkeys.remcount_le hcount (fun _ h => h)]
  -- no worn bag is changed before the bags are searched
  intro bag hbag
  have hlt : ∀ b ∈ inventoryBags, b < inventorySlotBagEnd := by decide
  have hworn := hlt bag hbag
  rw [getItemByPos_foldl_of_leaves (Fate.carrying hs hpack.fate) hpack.remcount_le hcount,
    getItemByPos_foldl_of_leaves hs (Nat.zero_le _) hcount]
  · exact fun p hp => leaves_slotsOf (by decide) (.inr hworn) hp
      (mem_slotsOf.mpr ⟨rfl, Nat.le_refl bag, Nat.lt_succ_self bag⟩)
  · refine fun p hp => leaves_slotsOf (by decide) (.inr (Nat.le_trans hworn (by decide))) hp
      (mem_slotsOf.mpr ⟨rfl, Nat.le_refl bag, Nat.lt_succ_self bag⟩)

/-! ### The sum over the places there are now -/

theorem sum_flatMap_congr {f g : ℕ → List Pos} {bags : List ℕ} (amount : Pos → ℕ)
    (h : ∀ bag ∈ bags, ((f bag).map amount).sum = ((g bag).map amount).sum) :
    ((bags.flatMap f).map amount).sum = ((bags.flatMap g).map amount).sum := by
  induction bags with
  | nil => rfl
  | cons bag bags ih =>
    obtain ⟨hbag, hbags⟩ := List.forall_mem_cons.mp h
    simp only [List.flatMap_cons, List.map_append, List.sum_append, hbag, ih hbags]

theorem sum_bagPlaces (h : ∀ q, Fate env inTrade r s u q) (hbag : isBagSlot bag) :
    ((u.bagPlaces env bag).map (u.amountAt env inTrade r)).sum =
      ((s.bagPlaces env bag).map (u.amountAt env inTrade r)).sum := by
  cases hb : u.getBagByPos env bag with
  | none =>
    have hzero : ∀ p ∈ s.bagPlaces env bag, u.amountAt env inTrade r p = 0 := by
      intro p hp
      refine amountAt_of_none ?_
      rw [getItemByPos, if_neg]
      rw [isPlace_iff, (mem_bagPlaces.mp hp).1, hb]
      rintro (⟨hown, -⟩ | ⟨b, hb, -⟩)
      · rw [hown] at hbag
        exact absurd hbag (by decide)
      · cases hb
    have hsum : ((s.bagPlaces env bag).map (u.amountAt env inTrade r)).sum = 0 :=
      List.sum_eq_zero_iff_forall_eq_nat.mpr fun x hx => by
        obtain ⟨p, hp, rfl⟩ := List.mem_map.mp hx
        exact hzero p hp
    rw [hsum]
    simp [bagPlaces, hb]
  | some b =>
    have hitem := getItemByPos_of_getBagByPos hb
    rw [getBagByPos_eq hbag, hitem] at hb
    obtain ⟨j, hj, heq, -⟩ := (h _).of_some hitem
    have hentry : b.entry = j.entry := by rw [heq]
    have hbagOf : env.isBag b = env.isBag j := by rw [StorageEnv.isBag, StorageEnv.isBag, hentry]
    have hsize : env.getBagSize b = env.getBagSize j := by
      rw [StorageEnv.getBagSize, StorageEnv.getBagSize, hentry]
    have hisBag := (Option.filter_eq_some_iff.mp hb).2
    have hold : s.getBagByPos env bag = some j := by
      rw [getBagByPos_eq hbag, hj]
      exact Option.filter_eq_some_iff.mpr ⟨rfl, hbagOf ▸ hisBag⟩
    have hnew : u.getBagByPos env bag = some b := by
      rw [getBagByPos_eq hbag, hitem]
      exact hb
    simp only [bagPlaces, hnew, hold, hsize]

theorem totalCount_eq (h : ∀ q, Fate env inTrade r s u q) :
    u.totalCount env inTrade r =
      ((s.searchedPlaces env).map (u.amountAt env inTrade r)).sum := by
  have hbags := sum_flatMap_congr (u.amountAt env inTrade r) fun bag hbag =>
    sum_bagPlaces h (isBagSlot_of_mem_inventoryBags hbag)
  simp only [totalCount, searchedPlaces, List.map_append, List.sum_append, hbags]

end Searches

/-! ## What was asked for -/

/-- **Exactly what was asked for is destroyed**, and everything else stays where it is, in a worn
bag of the entry that was destroyed apart. -/
structure DestroysExactly (env : StorageEnv) (inTrade : ℕ → Bool) (r : DestroyRequest)
    (s u : Storage) : Prop where
  total : u.totalCount env inTrade r + min r.count (s.totalCount env inTrade r) =
    s.totalCount env inTrade r
  count_pos : ∀ p i, u.getItemByPos env p = some i → 0 < i.count
  others : ∀ p i, s.getItemByPos env p = some i → r.offers inTrade i = false →
    u.getItemByPos env p = some i ∨
      ∃ b, s.getItemByPos env ⟨inventorySlotBag0, p.bag⟩ = some b ∧ r.offers inTrade b = true ∧
        u.getItemByPos env ⟨inventorySlotBag0, p.bag⟩ = none ∧ u.getItemByPos env p = none
  nothing_new : ∀ p i, u.getItemByPos env p = some i →
    ∃ j, s.getItemByPos env p = some j ∧ i = { j with count := i.count } ∧ i.count ≤ j.count

/-- **`DestroyItemCount`** destroys what was asked for, as long as the stacks that it adds up stay
below `2 ^ 32`. -/
theorem destroyItemCount_destroysExactly {s : Storage} {canUnequipItem : Storage → Pos → EquipErr}
    (hs : s.Carrying env) (hdepth : 2 ≤ depth) (hcount : r.count < 2 ^ 32)
    (hunequip : r.unequipCheck = false)
    (hfits : Withdrawable (2 ^ 32) r.count 0
      ((s.searchedPlaces env).map (s.amountAt env inTrade r))) :
    DestroysExactly env inTrade r s (s.destroyItemCount env inTrade canUnequipItem depth r) := by
  obtain ⟨depth, rfl⟩ := Nat.exists_eq_add_of_le' hdepth
  rw [destroyItemCount_eq_foldl hs hcount hunequip]
  have hopen : Destroying.Open r ⟨s, 0, false⟩ := ⟨rfl, by
    rcases Nat.eq_zero_or_pos r.count with hzero | hpos
    · exact .inr ⟨rfl, hzero⟩
    · exact .inl hpos⟩
  have hreached := (Reached.refl env inTrade hopen.remcount_le).foldl
    depth hs hcount (s.searchedPlaces env)
  have hamounts := amounts_foldl depth hs hcount hopen (pairwise_searchedPlaces s) hfits
  rw [Nat.sub_zero] at hamounts
  constructor
  · rw [totalCount_eq hreached.fate, hamounts]
    exact sum_withdraw _ _
  · exact (Fate.carrying hs hreached.fate).count_pos
  · exact fun p i hp hoffers => (hreached.fate p).of_not_offers hp hoffers
  · exact fun p i hp => (hreached.fate p).of_some hp

end Fates

/-! ## A bag with something in it -/

/-- Bags with four slots, and potions. -/
def bagsAndPotions : StorageEnv where
  proto entry :=
    if entry = 1 then some ⟨.bag, 4⟩ else if entry = 2 then some ⟨.other 0, 0⟩ else none
  containerSlots_le := by
    intro entry p h
    split_ifs at h <;> cases h <;> decide

def wornBag : Item := ⟨10, 1, 1, false, 0⟩
def fivePotions : Item := ⟨11, 2, 5, false, 0⟩

/-- Five potions lie in a worn bag. -/
def potionsInBag : Storage :=
  ((⟨fun _ => none⟩ : Storage).set ⟨inventorySlotBag0, 19⟩ wornBag).set ⟨19, 0⟩ fivePotions

/-- The worn bag is to be destroyed. -/
def oneBag : DestroyRequest := ⟨1, 1, false⟩

theorem cells_potionsInBag {p : Pos} {i : Item} (h : potionsInBag.cells p = some i) :
    p = ⟨19, 0⟩ ∧ i = fivePotions ∨ p = ⟨inventorySlotBag0, 19⟩ ∧ i = wornBag := by
  simp only [potionsInBag, Storage.set] at h
  split_ifs at h with hin hworn
  · exact .inl ⟨hin, (Option.some.inj h).symm⟩
  · exact .inr ⟨hworn, (Option.some.inj h).symm⟩

theorem carrying_potionsInBag : potionsInBag.Carrying bagsAndPotions := by
  constructor
  · intro p q i j hp hq hguid
    rcases cells_potionsInBag (cells_of_getItemByPos hp) with ⟨rfl, rfl⟩ | ⟨rfl, rfl⟩ <;>
      rcases cells_potionsInBag (cells_of_getItemByPos hq) with ⟨rfl, rfl⟩ | ⟨rfl, rfl⟩ <;>
      first | rfl | exact absurd hguid (by decide)
  · intro p i hp
    rcases cells_potionsInBag (cells_of_getItemByPos hp) with ⟨-, rfl⟩ | ⟨-, rfl⟩ <;> decide
  · intro p i hp
    rcases cells_potionsInBag (cells_of_getItemByPos hp) with ⟨-, rfl⟩ | ⟨-, rfl⟩ <;> decide

/-- **A bag is destroyed with what is in it**, items of other entries too. -/
theorem not_othersKept :
    ¬ ∀ (env : StorageEnv) (inTrade : ℕ → Bool) (canUnequipItem : Storage → Pos → EquipErr)
      (s : Storage) (depth : ℕ) (r : DestroyRequest), s.Carrying env → 2 ≤ depth →
      r.count < 2 ^ 32 → r.unequipCheck = false →
      ∀ p i, s.getItemByPos env p = some i → i.entry ≠ r.entry →
        (s.destroyItemCount env inTrade canUnequipItem depth r).getItemByPos env p = some i := by
  intro hall
  have hkept := hall bagsAndPotions (fun _ => false) (fun _ _ => .ok) potionsInBag 2 oneBag
    carrying_potionsInBag (by decide) (by decide) rfl ⟨19, 0⟩ fivePotions (by decide) (by decide)
  exact absurd hkept (by decide +kernel)

/-! ## Potions everywhere -/

def twentyPotions : Item := ⟨12, 2, 20, false, 0⟩
def sevenPotions : Item := ⟨13, 2, 7, false, 0⟩

/-- There are two more stacks in the backpack. -/
def potionsEverywhere : Storage :=
  (potionsInBag.set ⟨inventorySlotBag0, 23⟩ twentyPotions).set ⟨inventorySlotBag0, 30⟩ sevenPotions

/-- What is asked for is more than the first stack, and less than both. -/
def manyPotions : DestroyRequest := ⟨2, 23, false⟩

/-- What lies where. -/
def everyStack : List (Pos × Item) :=
  [(⟨inventorySlotBag0, 30⟩, sevenPotions), (⟨inventorySlotBag0, 23⟩, twentyPotions),
    (⟨19, 0⟩, fivePotions), (⟨inventorySlotBag0, 19⟩, wornBag)]

theorem cells_potionsEverywhere {p : Pos} {i : Item} (h : potionsEverywhere.cells p = some i) :
    (p, i) ∈ everyStack := by
  rw [potionsEverywhere, Storage.set] at h
  dsimp only [Storage.set] at h
  split_ifs at h with hseven htwenty
  · simp [everyStack, hseven, ← Option.some.inj h]
  · simp [everyStack, htwenty, ← Option.some.inj h]
  · rcases cells_potionsInBag h with ⟨rfl, rfl⟩ | ⟨rfl, rfl⟩ <;> simp [everyStack]

theorem carrying_potionsEverywhere : potionsEverywhere.Carrying bagsAndPotions := by
  have hmem : ∀ p i, potionsEverywhere.getItemByPos bagsAndPotions p = some i →
      (p, i) ∈ everyStack :=
    fun p i hp => cells_potionsEverywhere (cells_of_getItemByPos hp)
  have hinj : ∀ e ∈ everyStack, ∀ e' ∈ everyStack, e.2.guid = e'.2.guid → e.1 = e'.1 := by decide
  have hcount : ∀ e ∈ everyStack, 0 < e.2.count ∧ e.2.count < 2 ^ 32 := by decide
  exact ⟨fun p q i j hp hq => hinj _ (hmem p i hp) _ (hmem q j hq),
    fun p i hp => (hcount _ (hmem p i hp)).1, fun p i hp => (hcount _ (hmem p i hp)).2⟩

/-- The first stack goes, the second is made smaller, and the potions in the bag stay. -/
theorem destroyItemCount_destroysExactly_manyPotions :
    DestroysExactly bagsAndPotions (fun _ => false) manyPotions potionsEverywhere
        (potionsEverywhere.destroyItemCount bagsAndPotions (fun _ => false) (fun _ _ => .ok) 2
          manyPotions) ∧
      (potionsEverywhere.destroyItemCount bagsAndPotions (fun _ => false) (fun _ _ => .ok) 2
        manyPotions).getItemByPos bagsAndPotions ⟨inventorySlotBag0, 30⟩ =
          some { sevenPotions with count := 4 } :=
  ⟨destroyItemCount_destroysExactly carrying_potionsEverywhere (by decide) (by decide) rfl
    (withdrawable_of_sum (by decide +kernel)), by decide +kernel⟩

end TeraCore
