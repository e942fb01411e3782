import TeraCore.Looting.LootTemplate

/-!
# Loot groups: the roll

A group adds one of its entries, or none.  It makes as many attempts as it has entries: an attempt
fails if all explicit chances are missed and there is no other part, if the entry is of another
mode, or if its item has dropped as often as it may.

The bound of the attempts is a byte.  So a group of 256 entries makes no attempt at all.

## Main results

* `adds_process`: what a group adds
* `groupRight_iff`: a group is right, unless it makes no attempt
-/

namespace TeraCore.LootTemplates

open Commons

/-- The list that an entry goes to has room. -/
def Loot.HasRoom (loot : Loot) (e : LootStoreItem) : Prop :=
  if e.needs_quest then loot.quest_items.length < MAX_NR_QUEST_ITEMS
  else loot.items.length < MAX_NR_LOOT_ITEMS

/-- How much there is. -/
def Loot.size (loot : Loot) : ℕ := loot.items.length + loot.quest_items.length

theorem Loot.size_AddItem {loot : Loot} {e : LootStoreItem} (h : loot.HasRoom e) :
    (loot.AddItem e).size = loot.size + 1 := by
  unfold AddItem
  rw [HasRoom] at h
  split_ifs at h ⊢
  · simp only [size, List.length_append, List.length_singleton]
    omega
  · simp only [size, List.length_append, List.length_singleton]
    omega

namespace LootGroup

variable {w : World} {lootMode : BitVec 16} {loot loot' : Loot} {item : LootStoreItem}
  {l explicit equal : List LootStoreItem}

/-- **What a computation adds**: it ends, and adds an entry of a list that matches the mode and has
not dropped too often, or nothing. -/
structure Adds (w : World) (lootMode : BitVec 16) (loot : Loot) (l : List LootStoreItem)
    (x : Draws Loot) : Prop where
  ends : x.Ends
  outcome : ∀ loot', x.Outcome loot' → loot' = loot ∨
    ∃ e ∈ l, e.lootmode &&& lootMode ≠ 0 ∧ duplicate w loot e = false ∧ loot' = loot.AddItem e

theorem adds_done : Adds w lootMode loot l (.done loot) := ⟨trivial, fun _ h => .inl h⟩

theorem adds_rolledItem {goOn goOnWithout : Draws Loot} (hitem : item ∈ l)
    (hgoOn : Adds w lootMode loot l goOn) (hwithout : Adds w lootMode loot l goOnWithout) :
    Adds w lootMode loot l (rolledItem w lootMode loot item goOn goOnWithout) := by
  unfold rolledItem
  split_ifs with hmode hdup
  · exact hwithout
  · refine ⟨trivial, fun loot' h => .inr ⟨item, hitem, hmode, ?_, h⟩⟩
    exact Bool.eq_false_iff.mpr hdup
  · exact hgoOn

theorem adds_rollEqual {goOn : List LootStoreItem → Draws Loot} (hequal : ∀ e ∈ equal, e ∈ l)
    (hgoOn : ∀ equal', (∀ e ∈ equal', e ∈ l) → Adds w lootMode loot l (goOn equal')) :
    Adds w lootMode loot l (rollEqual w lootMode loot equal goOn) := by
  unfold rollEqual
  split_ifs with hnil
  · exact hgoOn equal hequal
  · have hitem : ∀ i, (hi : i < equal.length) → Adds w lootMode loot l
        (rolledItem w lootMode loot equal[i] (goOn equal) (goOn (equal.eraseIdx i))) :=
      fun i hi => adds_rolledItem (hequal _ (List.getElem_mem hi)) (hgoOn equal hequal)
        (hgoOn _ fun e he => hequal e (List.mem_of_mem_eraseIdx he))
    refine ⟨⟨List.length_pos_iff.mpr hnil, fun i hi => ?_⟩, fun loot' h => ?_⟩
    · simp only [List.getElem?_eq_getElem hi]
      exact (hitem i hi).ends
    · obtain ⟨i, hi, h⟩ := h
      simp only [List.getElem?_eq_getElem hi] at h
      exact (hitem i hi).outcome loot' h

theorem rollExplicit_suffix (roll : ℚ) : rollExplicit roll explicit <:+ explicit := by
  induction explicit generalizing roll with
  | nil => exact List.suffix_rfl
  | cons itr rest ih =>
    rw [rollExplicit]
    split_ifs
    · exact List.suffix_rfl
    · exact List.suffix_rfl
    · exact (ih _).trans (List.suffix_cons _ _)

/-- **What the attempts add**, by induction on their number. -/
theorem adds_attempts (left : ℕ) (hexplicit : ∀ e ∈ explicit, e ∈ l) (hequal : ∀ e ∈ equal, e ∈ l) :
    Adds w lootMode loot l (attempts w lootMode loot left explicit equal) := by
  induction left generalizing explicit equal with
  | zero =>
    rw [attempts]
    exact adds_done
  | succ left ih =>
    have hroll : Adds w lootMode loot l
        (rollEqual w lootMode loot equal (attempts w lootMode loot left [])) :=
      adds_rollEqual hequal fun equal' h => ih (fun e he => by cases he) h
    cases explicit with
    | nil =>
      rw [attempts]
      split_ifs
      · exact adds_done
      · exact hroll
    | cons itr rest =>
      rw [attempts]
      have hturn : ∀ r item rest', rollExplicit r (itr :: rest) = item :: rest' →
          Adds w lootMode loot l
            (rolledItem w lootMode loot item (attempts w lootMode loot left (item :: rest') equal)
              (attempts w lootMode loot left rest' equal)) := by
        intro r item rest' hrolled
        have hleft : ∀ e ∈ item :: rest', e ∈ l := by
          rw [← hrolled]
          exact fun e he => hexplicit e ((rollExplicit_suffix r).subset he)
        exact adds_rolledItem (hleft item List.mem_cons_self) (ih hleft hequal)
          (ih (fun e he => hleft e (List.mem_cons_of_mem _ he)) hequal)
      constructor
      · intro r _ _
        dsimp only
        split
        · exact hroll.ends
        · rename_i hrolled
          exact (hturn r _ _ hrolled).ends
      · rintro loot' ⟨r, -, -, h⟩
        dsimp only at h
        split at h
        · exact hroll.outcome loot' h
        · rename_i hrolled
          exact (hturn r _ _ hrolled).outcome loot' h

def entries (g : LootGroup) : List LootStoreItem := g.ExplicitlyChanced ++ g.EqualChanced

theorem adds_process (g : LootGroup) :
    Adds w lootMode loot g.entries (g.Process w lootMode loot) :=
  adds_attempts _ (fun _ he => List.mem_append_left _ he) fun _ he => List.mem_append_right _ he

/-- **A group is guaranteed**: all its entries match the mode, may drop and have room, and it has an
equal-chanced entry, or one that is certain. -/
structure Guaranteed (w : World) (lootMode : BitVec 16) (g : LootGroup) (loot : Loot) : Prop where
  matching : ∀ e ∈ g.entries, e.lootmode &&& lootMode ≠ 0
  allowed : ∀ e ∈ g.entries, duplicate w loot e = false
  room : ∀ e ∈ g.entries, loot.HasRoom e
  certain : g.EqualChanced ≠ [] ∨ ∃ e ∈ g.ExplicitlyChanced, 100 ≤ e.chance

/-- **A group is right**: its roll ends; it adds one entry at most, which matches the mode; and it
adds one if it is guaranteed. -/
structure GroupRight (w : World) (lootMode : BitVec 16) (g : LootGroup) (loot : Loot) : Prop where
  ends : (g.Process w lootMode loot).Ends
  atMostOne : ∀ loot', (g.Process w lootMode loot).Outcome loot' → loot' = loot ∨
    ∃ e ∈ g.entries, e.lootmode &&& lootMode ≠ 0 ∧ loot' = loot.AddItem e
  exactlyOne : g.Guaranteed w lootMode loot → ∀ loot', (g.Process w lootMode loot).Outcome loot' →
    loot'.size = loot.size + 1

theorem rollExplicit_ne_nil {roll : ℚ} (h : ∃ e ∈ explicit, 100 ≤ e.chance) :
    rollExplicit roll explicit ≠ [] := by
  induction explicit generalizing roll with
  | nil =>
    obtain ⟨e, he, -⟩ := h
    cases he
  | cons itr rest ih =>
    rw [rollExplicit]
    split_ifs with hcertain hroll
    · exact List.cons_ne_nil _ _
    · exact List.cons_ne_nil _ _
    · obtain ⟨e, he, hchance⟩ := h
      rcases List.mem_cons.mp he with rfl | he
      · exact absurd hchance hcertain
      · exact ih ⟨e, he, hchance⟩

theorem exists_of_guaranteed {g : LootGroup} (hg : g.Guaranteed w lootMode loot)
    (hsize : g.entries.length % 2 ^ 8 ≠ 0) (h : (g.Process w lootMode loot).Outcome loot') :
    ∃ e ∈ g.entries, loot' = loot.AddItem e := by
  have hadds : ∀ e ∈ g.entries, ∀ goOn goOnWithout,
      rolledItem w lootMode loot e goOn goOnWithout = .done (loot.AddItem e) := by
    intro e he goOn goOnWithout
    rw [rolledItem, if_pos (hg.matching e he), hg.allowed e he]
    rfl
  have hequal : ∀ goOn, g.EqualChanced ≠ [] →
      (rollEqual w lootMode loot g.EqualChanced goOn).Outcome loot' →
      ∃ e ∈ g.entries, loot' = loot.AddItem e := by
    intro goOn hne h
    rw [rollEqual, if_neg hne] at h
    obtain ⟨i, hi, h⟩ := h
    have hmem : g.EqualChanced[i] ∈ g.entries := List.mem_append_right _ (List.getElem_mem hi)
    simp only [List.getElem?_eq_getElem hi, hadds _ hmem] at h
    exact ⟨_, hmem, h⟩
  obtain ⟨left, hleft⟩ := Nat.exists_eq_succ_of_ne_zero hsize
  rw [Process, ← List.length_append] at h
  rw [show (g.ExplicitlyChanced ++ g.EqualChanced).length % 2 ^ 8 = left.succ from hleft] at h
  cases hexplicit : g.ExplicitlyChanced with
  | nil =>
    have hne : g.EqualChanced ≠ [] := by
      refine hg.certain.resolve_right fun ⟨e, he, _⟩ => ?_
      rw [hexplicit] at he
      cases he
    rw [hexplicit, attempts, if_neg hne] at h
    exact hequal _ hne h
  | cons itr rest =>
    rw [hexplicit, attempts] at h
    obtain ⟨r, -, -, h⟩ := h
    cases hrolled : rollExplicit r (itr :: rest) with
    | nil =>
      have hne : g.EqualChanced ≠ [] := by
        refine hg.certain.resolve_right fun hcertain => ?_
        rw [hexplicit] at hcertain
        exact rollExplicit_ne_nil hcertain hrolled
      simp only [hrolled] at h
      exact hequal _ hne h
    | cons item rest' =>
      have hmem : item ∈ g.entries := by
        refine List.mem_append_left _ (hexplicit ▸ (rollExplicit_suffix r).subset ?_)
        rw [hrolled]
        exact List.mem_cons_self
      simp only [hrolled, hadds _ hmem] at h
      exact ⟨item, hmem, h⟩

theorem process_of_no_attempt {g : LootGroup} (hsize : g.entries.length % 2 ^ 8 = 0) :
    g.Process w lootMode loot = .done loot := by
  have hlength : (g.ExplicitlyChanced.length + g.EqualChanced.length) % 2 ^ 8 = 0 := by
    rw [← List.length_append]
    exact hsize
  rw [Process, hlength]
  rfl

theorem not_groupRight {g : LootGroup} (hg : g.Guaranteed w lootMode loot)
    (hsize : g.entries.length % 2 ^ 8 = 0) : ¬g.GroupRight w lootMode loot := by
  intro hright
  have hone := hright.exactlyOne hg loot (by rw [process_of_no_attempt hsize]; rfl)
  omega

/-- **A group is right**, exactly unless it is guaranteed and makes no attempt. -/
theorem groupRight_iff (w : World) (lootMode : BitVec 16) (g : LootGroup) (loot : Loot) :
    g.GroupRight w lootMode loot ↔
      (g.Guaranteed w lootMode loot → g.entries.length % 2 ^ 8 ≠ 0) := by
  constructor
  · intro hright hg hsize
    exact not_groupRight hg hsize hright
  · intro hsize
    refine ⟨(adds_process g).ends, fun loot' h => ?_, fun hg loot' h => ?_⟩
    · rcases (adds_process g).outcome loot' h with hsame | ⟨e, he, hmode, -, hadd⟩
      · exact .inl hsame
      · exact .inr ⟨e, he, hmode, hadd⟩
    · obtain ⟨e, he, rfl⟩ := exists_of_guaranteed hg (hsize hg) h
      exact Loot.size_AddItem (hg.room e he)

/-- A group of 256 items with equal chances. -/
def fullGroup : LootGroup :=
  ⟨[], List.replicate 256 ⟨6948, 0, 1, 1, 1, false, 1⟩⟩

/-- A world without items. -/
def noItems : World := ⟨fun _ => none, fun _ => 1, 1, 1⟩

theorem guaranteed_fullGroup : fullGroup.Guaranteed noItems 1 .empty := by
  have hmem : ∀ e ∈ fullGroup.entries, e = ⟨6948, 0, 1, 1, 1, false, 1⟩ :=
    fun e he => List.eq_of_mem_replicate he
  have hlength : fullGroup.EqualChanced.length = 256 := List.length_replicate
  refine ⟨fun e he => ?_, fun e he => rfl, fun e he => ?_,
    .inl (List.ne_nil_of_length_pos (by omega))⟩
  · rw [hmem e he]
    decide
  · rw [hmem e he]
    exact Nat.zero_lt_succ 15

/-- **A guaranteed group that adds nothing.** -/
theorem not_groupRight_fullGroup : ¬∀ (w : World) (lootMode : BitVec 16) (g : LootGroup)
    (loot : Loot), g.entries ≠ [] → g.GroupRight w lootMode loot := by
  intro h
  have hlength : fullGroup.entries.length = 256 := List.length_replicate
  have hsize : fullGroup.entries.length % 2 ^ 8 = 0 := by omega
  exact not_groupRight guaranteed_fullGroup hsize
    (h noItems 1 fullGroup .empty (List.ne_nil_of_length_pos (by omega)))

end LootGroup

end TeraCore.LootTemplates
