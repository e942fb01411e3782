import TeraCore.Commons.Cycles
import TeraCore.Commons.Run
import TeraCore.Pools.Members

/-!
# Pools: the mothers of pools, and circular references

`pool_pool` says which pools are members of which.  A pool that came to be below itself would be
spawned without end, so a circular reference is looked for after loading, from every pool in turn,
and the link that closes it is removed.

It is looked for in the map from a pool to its mother, which keeps the first mother of a pool.
The members of the pools are all rows.  A circle through a second mother is therefore not found.

## Main results

* `PoolMgr.isChild_loadPoolPool`: the members of the loaded pools
* `PoolMgr.acyclic_loadPoolPool_iff`: when no pool is below itself
-/

namespace TeraCore

open Commons Relation OrderedMap

variable {F : Type*}

/-- A row of `pool_pool`. -/
structure PoolPoolRow (F : Type*) where
  poolId : ℕ
  motherPool : ℕ
  chance : F

namespace PoolGroup

/-- Adds a member to the proper list. -/
def addEntry [Zero F] [DecidableEq F] (g : PoolGroup F) (poolitem : PoolObject F)
    (maxentries : BitVec 32) : PoolGroup F :=
  if poolitem.chance ≠ 0 ∧ maxentries = 1 then
    { g with explicitlyChanced := g.explicitlyChanced ++ [poolitem] }
  else { g with equalChanced := g.equalChanced ++ [poolitem] }

/-- Removes one entry of a child from each of the lists. -/
def removeOneRelation (g : PoolGroup F) (childPoolId : ℕ) : PoolGroup F :=
  { g with
    explicitlyChanced := g.explicitlyChanced.eraseP fun obj => obj.guid = childPoolId
    equalChanced := g.equalChanced.eraseP fun obj => obj.guid = childPoolId }

end PoolGroup

/-- The walk from a pool to its mother and on, up to a mother that was on the way. -/
def circularReference (searchMap : OrderedMap ℕ ℕ) : ℕ → ℕ → OrderedSet ℕ → Option (ℕ × ℕ)
  | 0, _, _ => none
  | turns + 1, poolId, checkedPools =>
    match searchMap.find? poolId with
    | none => none
    | some mother =>
      let checkedPools := checkedPools.insert poolId
      if mother ∈ checkedPools then some (poolId, mother)
      else circularReference searchMap turns mother checkedPools

namespace PoolMgr

variable [Zero F] [OfNat F 100] [LT F] [DecidableLT F] [DecidableEq F]

/-- A row that is not skipped. -/
def accepts (m : PoolMgr F) (row : PoolPoolRow F) : Bool :=
  ¬row.motherPool > m.maxPoolId ∧ ¬row.poolId > m.maxPoolId ∧ row.motherPool ≠ row.poolId ∧
    ¬(row.chance < 0 ∨ 100 < row.chance)

/-- One row.  The chance is not negative, so `fabs` leaves it. -/
def loadRow (m : PoolMgr F) (row : PoolPoolRow F) : PoolMgr F :=
  if m.accepts row then
    let plgroup := { m.mPoolPoolGroups row.motherPool with poolId := row.motherPool }
    let plgroup := plgroup.addEntry ⟨row.poolId, row.chance⟩
      (m.mPoolTemplate row.motherPool).maxLimit
    { m with
      mPoolPoolGroups := Function.update m.mPoolPoolGroups row.motherPool plgroup
      mPoolSearchMap := m.mPoolSearchMap.insert row.poolId row.motherPool }
  else m

omit [Zero F] [OfNat F 100] [LT F] [DecidableLT F] [DecidableEq F] in
/-- The search from one pool.  A walk without a repetition has no more turns than the map has
keys, and one more in which it ends. -/
def checkPoolFrom (m : PoolMgr F) (i : ℕ) : PoolMgr F :=
  match circularReference m.mPoolSearchMap (m.mPoolSearchMap.size + 1) i OrderedSet.empty with
  | none => m
  | some (child, mother) =>
    { m with
      mPoolPoolGroups := Function.update m.mPoolPoolGroups mother
        ((m.mPoolPoolGroups mother).removeOneRelation child)
      mPoolSearchMap := m.mPoolSearchMap.erase child }

/-- The mothers of pools are loaded into a manager that has its templates. -/
def loadPoolPool (m : PoolMgr F) (rows : List (PoolPoolRow F)) : PoolMgr F :=
  let m := { m with mPoolPoolGroups := fun _ => PoolGroup.none, mPoolSearchMap := .empty }
  (List.range m.maxPoolId).foldl checkPoolFrom (rows.foldl loadRow m)

/-! ## The rows -/

/-- The entry of a row goes to the list of explicit chances. -/
def isExplicit (m : PoolMgr F) (row : PoolPoolRow F) : Bool :=
  row.chance ≠ 0 ∧ (m.mPoolTemplate row.motherPool).maxLimit = 1

/-- The rows that are not skipped. -/
def accepted (m : PoolMgr F) (rows : List (PoolPoolRow F)) : List (PoolPoolRow F) :=
  rows.filter m.accepts

def firstMother (m : PoolMgr F) (rows : List (PoolPoolRow F)) (child : ℕ) : Option ℕ :=
  ((m.accepted rows).find? fun row => row.poolId = child).map PoolPoolRow.motherPool

/-- The number of rows that make a pool a member of another, in the list of explicit chances or
in the other one. -/
def rowsOf (m : PoolMgr F) (rows : List (PoolPoolRow F)) (explicit : Bool) (child mother : ℕ) : ℕ :=
  (m.accepted rows).countP fun row =>
    row.poolId = child ∧ row.motherPool = mother ∧ m.isExplicit row = explicit

/-- **The links that are removed**: on every circle of first mothers, the link to the pool at which
the smallest pool that leads there enters it. -/
def Closing (m : PoolMgr F) (rows : List (PoolPoolRow F)) (child mother : ℕ) : Prop :=
  m.firstMother rows child = some mother ∧ CutBefore (m.firstMother rows) m.maxPoolId child

/-- **The links that are left**: all but those, and those that are in one list twice. -/
def Remains (m : PoolMgr F) (rows : List (PoolPoolRow F)) (child mother : ℕ) : Prop :=
  (¬m.Closing rows child mother ∧
    ∃ row ∈ m.accepted rows, row.poolId = child ∧ row.motherPool = mother) ∨
  ∃ explicit, 1 < m.rowsOf rows explicit child mother

end PoolMgr

/-! ## The walk -/

theorem circularReference_eq (searchMap : OrderedMap ℕ ℕ) (turns poolId : ℕ)
    {checkedPools : OrderedSet ℕ} {visited : List ℕ}
    (h : ∀ y, y ∈ checkedPools ↔ y ∈ visited) :
    circularReference searchMap turns poolId checkedPools =
      closingLink searchMap.find? turns poolId visited := by
  induction turns generalizing poolId checkedPools visited with
  | zero => rfl
  | succ turns ih =>
    have hinsert : ∀ y, y ∈ checkedPools.insert poolId ↔ y ∈ poolId :: visited := fun y => by
      rw [OrderedSet.mem_insert, h, List.mem_cons]
    rw [circularReference, closingLink]
    cases searchMap.find? poolId with
    | none => rfl
    | some mother =>
      simp only [hinsert mother]
      split
      · rfl
      · exact ih mother hinsert

theorem circularReference_eq_some {searchMap : OrderedMap ℕ ℕ} {turns i child mother : ℕ}
    (h : circularReference searchMap turns i OrderedSet.empty = some (child, mother)) :
    Enters searchMap.find? i mother ∧ Closes searchMap.find? child mother := by
  rw [@circularReference_eq searchMap turns i OrderedSet.empty [] (by simp)] at h
  exact closingLink_eq_some .start h

theorem circularReference_eq_none {searchMap : OrderedMap ℕ ℕ} {i : ℕ}
    (h : circularReference searchMap (searchMap.size + 1) i OrderedSet.empty = none) (e : ℕ) :
    ¬Enters searchMap.find? i e := by
  rw [@circularReference_eq searchMap _ i OrderedSet.empty [] (by simp)] at h
  refine closingLink_eq_none searchMap.keys.toFinset (fun a b hab => ?_) ?_ .start h
  · exact List.mem_toFinset.mpr (mem_keys.mpr ⟨b, hab⟩)
  · rw [List.toFinset_card_of_nodup searchMap.keys_nodup, length_keys]
    exact Nat.lt_succ_self _

/-! ## One search after the other -/

namespace PoolGroup

/-- The members of one list. -/
def entries (g : PoolGroup F) (explicit : Bool) : List ℕ :=
  (if explicit then g.explicitlyChanced else g.equalChanced).map PoolObject.guid

theorem map_guid_eraseP (child : ℕ) (objs : List (PoolObject F)) :
    (objs.eraseP fun obj => obj.guid = child).map PoolObject.guid =
      (objs.map PoolObject.guid).erase child := by
  induction objs with
  | nil => rfl
  | cons obj objs ih =>
    by_cases h : obj.guid = child
    · rw [List.eraseP_cons_of_pos (by simpa using h), List.map_cons, h, List.erase_cons_head]
    · rw [List.eraseP_cons_of_neg (by simpa using h), List.map_cons, List.map_cons, ih,
        List.erase_cons_tail (by simpa using h)]

theorem entries_removeOneRelation (g : PoolGroup F) (explicit : Bool) (child : ℕ) :
    (g.removeOneRelation child).entries explicit = (g.entries explicit).erase child := by
  cases explicit <;> exact map_guid_eraseP child _

theorem mem_objects_iff (g : PoolGroup F) (guid : ℕ) :
    guid ∈ g.objects.map PoolObject.guid ↔ ∃ explicit, 0 < (g.entries explicit).count guid := by
  simp only [List.count_pos_iff, Bool.exists_bool, entries, objects, List.map_append,
    List.mem_append, if_true, Bool.false_eq_true, if_false]

end PoolGroup

namespace PoolMgr

variable {m m₀ : PoolMgr F} {f : ℕ → Option ℕ} {n : ℕ}

open Classical in
/-- How often the link has been removed. -/
noncomputable def cuts (f : ℕ → Option ℕ) (n child mother : ℕ) : ℕ :=
  if f child = some mother ∧ CutBefore f n child then 1 else 0

theorem cuts_of_cut {child mother : ℕ} (hf : f child = some mother) (h : CutBefore f n child) :
    cuts f n child mother = 1 := by
  classical
  exact if_pos ⟨hf, h⟩

theorem cuts_of_not {child mother : ℕ} (h : ¬(f child = some mother ∧ CutBefore f n child)) :
    cuts f n child mother = 0 := by
  classical
  exact if_neg h

theorem cuts_congr {k child mother : ℕ}
    (h : f child = some mother → (CutBefore f n child ↔ CutBefore f k child)) :
    cuts f n child mother = cuts f k child mother := by
  classical
  exact if_congr (and_congr_right h) rfl rfl

/-- **What the searches from the pools below `n` have left** of the members and of the map. -/
structure Checked (m₀ : PoolMgr F) (f : ℕ → Option ℕ) (n : ℕ) (m : PoolMgr F) : Prop where
  search : IsCut f n m.mPoolSearchMap.find?
  entries : ∀ mother explicit child,
    ((m.mPoolPoolGroups mother).entries explicit).count child =
      ((m₀.mPoolPoolGroups mother).entries explicit).count child - cuts f n child mother

theorem checked_zero (m : PoolMgr F) : m.Checked m.mPoolSearchMap.find? 0 m where
  search := isCut_zero _
  entries mother explicit child := by
    rw [cuts_of_not fun h => Nat.not_lt_zero _ h.2.choose_spec.1, Nat.sub_zero]

/-- **One search.** -/
theorem Checked.checkPoolFrom (h : m₀.Checked f n m) :
    m₀.Checked f (n + 1) (m.checkPoolFrom n) := by
  rw [PoolMgr.checkPoolFrom]
  split
  · rename_i hnone
    have hfree := circularReference_eq_none hnone
    refine ⟨h.search.skip hfree, fun mother explicit child => ?_⟩
    rw [h.entries, cuts_congr fun _ => (h.search.cutBefore_succ_of_not_enters hfree).symm]
  · rename_i child₀ mother₀ hsome
    obtain ⟨henters, hcloses⟩ := circularReference_eq_some hsome
    refine ⟨h.search.cut henters hcloses fun a => find?_erase _ _ _,
      fun mother explicit child => ?_⟩
    have hlink := (h.search child₀ mother₀).mp hcloses.next
    have hsucc := h.search.cutBefore_succ_of_closes (c := child) henters hcloses
    have hsame : ¬(child = child₀ ∧ mother = mother₀) →
        cuts f n child mother = cuts f (n + 1) child mother := by
      intro hne
      refine cuts_congr fun hf => ?_
      rw [hsucc, or_iff_left]
      rintro rfl
      exact hne ⟨rfl, Option.some.inj (hf.symm.trans hlink.1)⟩
    change ((Function.update m.mPoolPoolGroups mother₀
      ((m.mPoolPoolGroups mother₀).removeOneRelation child₀) mother).entries explicit).count child =
        _
    by_cases hmother : mother = mother₀
    · subst hmother
      rw [Function.update_self, PoolGroup.entries_removeOneRelation, List.count_erase, h.entries]
      by_cases hchild : child = child₀
      · subst hchild
        rw [cuts_of_not fun hcut => hlink.2 hcut.2, cuts_of_cut hlink.1 (hsucc.mpr (.inr rfl))]
        simp
      · rw [hsame fun h => hchild h.1]
        simp [Ne.symm hchild]
    · rw [Function.update_of_ne hmother, h.entries, hsame fun h => hmother h.2]

theorem Checked.run (h : m₀.Checked f 0 m) (n : ℕ) :
    m₀.Checked f n ((List.range n).foldl PoolMgr.checkPoolFrom m) :=
  foldl_range_invariant (fun n m => m₀.Checked f n m) (fun _ _ h => h.checkPoolFrom) h n

/-! ## Loading -/

theorem entries_addEntry [Zero F] [DecidableEq F] (g : PoolGroup F) (obj : PoolObject F)
    (limit : BitVec 32) (explicit : Bool) :
    (g.addEntry obj limit).entries explicit = g.entries explicit ++
      if decide (obj.chance ≠ 0 ∧ limit = 1) = explicit then [obj.guid] else [] := by
  rw [PoolGroup.addEntry]
  by_cases h : obj.chance ≠ 0 ∧ limit = 1
  · rw [if_pos h, decide_eq_true h]
    cases explicit <;> simp [PoolGroup.entries]
  · rw [if_neg h, decide_eq_false h]
    cases explicit <;> simp [PoolGroup.entries]

section Load

variable [Zero F] [OfNat F 100] [LT F] [DecidableLT F] [DecidableEq F] {rows : List (PoolPoolRow F)}

/-- **What is loaded** is what the rows say. -/
structure Loaded (m₀ : PoolMgr F) (rows : List (PoolPoolRow F)) (m : PoolMgr F) : Prop where
  template : m.mPoolTemplate = m₀.mPoolTemplate
  maxPoolId : m.maxPoolId = m₀.maxPoolId
  search : ∀ child, m.mPoolSearchMap.find? child = m₀.firstMother rows child
  entries : ∀ mother explicit child,
    ((m.mPoolPoolGroups mother).entries explicit).count child = m₀.rowsOf rows explicit child mother

theorem Loaded.accepts_eq (h : m₀.Loaded rows m) : m.accepts = m₀.accepts := by
  funext row
  rw [accepts, h.maxPoolId, accepts]

theorem loaded_nil (m : PoolMgr F) :
    m.Loaded []
    { m with mPoolPoolGroups := fun _ => PoolGroup.none, mPoolSearchMap := .empty } where
  template := rfl
  maxPoolId := rfl
  search _ := rfl
  entries _ explicit _ := by cases explicit <;> rfl

theorem Loaded.loadRow (h : m₀.Loaded rows m) (row : PoolPoolRow F) :
    m₀.Loaded (rows ++ [row]) (m.loadRow row) := by
  rw [PoolMgr.loadRow, h.accepts_eq]
  split
  · rename_i haccepts
    have haccepted : m₀.accepted (rows ++ [row]) = m₀.accepted rows ++ [row] := by
      rw [accepted, List.filter_append, List.filter_cons_of_pos haccepts, List.filter_nil]
      rfl
    refine ⟨h.template, h.maxPoolId, fun child => ?_, fun mother explicit child => ?_⟩
    · change (m.mPoolSearchMap.insert row.poolId row.motherPool).find? child = _
      rw [find?_insert, h.search, h.search, firstMother, firstMother, firstMother,
        haccepted, List.find?_append]
      by_cases hchild : child = row.poolId
      · subst hchild
        rw [if_pos rfl, List.find?_cons_of_pos (by simp)]
        cases (m₀.accepted rows).find? fun r => r.poolId = row.poolId <;> rfl
      · rw [if_neg hchild, List.find?_cons_of_neg (by simpa using Ne.symm hchild), List.find?_nil,
          Option.or_none]
    · have hrowsOf : m₀.rowsOf (rows ++ [row]) explicit child mother =
          m₀.rowsOf rows explicit child mother +
            if row.poolId = child ∧ row.motherPool = mother ∧ m₀.isExplicit row = explicit then 1
            else 0 := by
        rw [rowsOf, haccepted, List.countP_append, List.countP_singleton]
        simp only [decide_eq_true_eq]
        rfl
      change ((Function.update m.mPoolPoolGroups row.motherPool _ mother).entries explicit).count
        child = _
      rw [hrowsOf]
      by_cases hmother : mother = row.motherPool
      · subst hmother
        have hgroup : ({ m.mPoolPoolGroups row.motherPool with
            poolId := row.motherPool } : PoolGroup F).entries explicit =
              (m.mPoolPoolGroups row.motherPool).entries explicit := rfl
        have hexplicit : decide (row.chance ≠ 0 ∧ (m.mPoolTemplate row.motherPool).maxLimit = 1) =
            m₀.isExplicit row := by
          rw [isExplicit, h.template]
        rw [Function.update_self, entries_addEntry, List.count_append, hgroup, h.entries,
          hexplicit]
        congr 1
        by_cases hrow : m₀.isExplicit row = explicit
        · rw [if_pos hrow, List.count_singleton]
          simp [hrow]
        · rw [if_neg hrow, if_neg fun h => hrow h.2.2, List.count_nil]
      · rw [Function.update_of_ne hmother, h.entries, if_neg fun hrow => hmother hrow.2.1.symm,
          Nat.add_zero]
  · rename_i hskip
    have haccepted : m₀.accepted (rows ++ [row]) = m₀.accepted rows := by
      rw [accepted, List.filter_append, List.filter_cons_of_neg hskip, List.filter_nil,
        List.append_nil]
      rfl
    refine ⟨h.template, h.maxPoolId, fun child => ?_, fun mother explicit child => ?_⟩
    · rw [h.search, firstMother, firstMother, haccepted]
    · rw [h.entries, rowsOf, rowsOf, haccepted]

theorem loaded_foldl (m : PoolMgr F) (rows : List (PoolPoolRow F)) :
    m.Loaded rows (rows.foldl PoolMgr.loadRow
      { m with mPoolPoolGroups := fun _ => PoolGroup.none, mPoolSearchMap := .empty }) := by
  induction rows using List.reverseRecOn with
  | nil => exact loaded_nil m
  | append_singleton rows row ih =>
    rw [List.foldl_append]
    exact ih.loadRow row

theorem checked_loadPoolPool (m : PoolMgr F) (rows : List (PoolPoolRow F)) :
    (rows.foldl PoolMgr.loadRow
      { m with mPoolPoolGroups := fun _ => PoolGroup.none, mPoolSearchMap := .empty }).Checked
      (m.firstMother rows) m.maxPoolId (m.loadPoolPool rows) := by
  have hchecked := (checked_zero (rows.foldl PoolMgr.loadRow
    { m with mPoolPoolGroups := fun _ => PoolGroup.none, mPoolSearchMap := .empty })).run
      m.maxPoolId
  rwa [show OrderedMap.find? _ = m.firstMother rows from
    funext (m.loaded_foldl rows).search] at hchecked

theorem isChild_loadPoolPool (m : PoolMgr F) (rows : List (PoolPoolRow F)) (child mother : ℕ) :
    (m.loadPoolPool rows).IsChild child mother ↔ m.Remains rows child mother := by
  have hcount : ∀ explicit, ((((m.loadPoolPool rows).mPoolPoolGroups mother).entries
      explicit).count child) =
        m.rowsOf rows explicit child mother -
          cuts (m.firstMother rows) m.maxPoolId child mother := fun explicit => by
    rw [← (m.loaded_foldl rows).entries]
    exact (m.checked_loadPoolPool rows).entries mother explicit child
  have hrow : (∃ explicit, 0 < m.rowsOf rows explicit child mother) ↔
      ∃ row ∈ m.accepted rows, row.poolId = child ∧ row.motherPool = mother := by
    simp only [rowsOf, List.countP_pos_iff, decide_eq_true_eq]
    constructor
    · rintro ⟨_, row, hmem, hchild, hmother, -⟩
      exact ⟨row, hmem, hchild, hmother⟩
    · rintro ⟨row, hmem, hchild, hmother⟩
      exact ⟨m.isExplicit row, row, hmem, hchild, hmother, rfl⟩
  refine (PoolGroup.mem_objects_iff _ _).trans ?_
  change (∃ explicit, 0 < (((m.loadPoolPool rows).mPoolPoolGroups mother).entries
    explicit).count child) ↔ _
  simp only [hcount, Nat.sub_pos_iff_lt]
  rw [Remains, ← hrow]
  by_cases hclosing : m.Closing rows child mother
  · rw [cuts_of_cut hclosing.1 hclosing.2]
    simp [hclosing]
  · rw [cuts_of_not hclosing]
    simp only [hclosing, not_false_eq_true, true_and]
    refine ⟨.inl, ?_⟩
    rintro (h | ⟨explicit, h⟩)
    · exact h
    · exact ⟨explicit, Nat.zero_lt_of_lt h⟩

/-- **No pool is below itself** if and only if the links that remain are not circular: every circle
of rows has a link that closes a circle of first mothers and is not in the table twice. -/
theorem acyclic_loadPoolPool_iff (m : PoolMgr F) (rows : List (PoolPoolRow F)) :
    (∀ p, ¬TransGen (m.loadPoolPool rows).IsChild p p) ↔
      ∀ p, ¬TransGen (m.Remains rows) p p := by
  have heq : (m.loadPoolPool rows).IsChild = m.Remains rows := by
    funext child mother
    exact propext (m.isChild_loadPoolPool rows child mother)
  rw [heq]

end Load

/-! ### A circle through a second mother -/

def secondMotherRows : List (PoolPoolRow ℤ) := [⟨1, 2, 0⟩, ⟨2, 3, 0⟩, ⟨2, 1, 0⟩]

/-- Three pools whose members are to be loaded. -/
def threePools : PoolMgr ℤ where
  maxPoolId := 3
  mPoolTemplate := fun _ => ⟨1⟩
  mPoolCreatureGroups := fun _ => .none
  mPoolGameobjectGroups := fun _ => .none
  mPoolPoolGroups := fun _ => .none
  mPoolQuestGroups := fun _ => .none
  mCreatureSearchMap := .empty
  mGameobjectSearchMap := .empty
  mPoolSearchMap := .empty

/-- **A circle that is not found**: pool 1 is below pool 2, and pool 2 below pool 1. -/
theorem not_acyclic_loadPoolPool :
    ¬ ∀ (m : PoolMgr ℤ) (rows : List (PoolPoolRow ℤ)),
      (∀ row ∈ rows, row.poolId ≤ m.maxPoolId ∧ row.motherPool ≤ m.maxPoolId) →
        ∀ p, ¬TransGen (m.loadPoolPool rows).IsChild p p := by
  intro h
  have hfirst : (threePools.loadPoolPool secondMotherRows).IsChild 1 2 := by
    show 1 ∈ (threePools.loadPoolPool secondMotherRows).members .pool 2
    decide +kernel
  have hsecond : (threePools.loadPoolPool secondMotherRows).IsChild 2 1 := by
    show 2 ∈ (threePools.loadPoolPool secondMotherRows).members .pool 1
    decide +kernel
  exact h threePools secondMotherRows (by decide) 1 (.tail (.single hfirst) hsecond)

end PoolMgr

end TeraCore
