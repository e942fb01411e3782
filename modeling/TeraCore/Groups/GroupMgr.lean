import Mathlib.Data.Finset.Sort
import Mathlib.Order.Interval.Finset.Nat
import TeraCore.Commons.Run

/-!
# The numbers of groups

A group has a number under which the database knows it.  The manager keeps the groups in a vector by
these numbers, with the next free one at hand: after a number was given out the vector is searched
for the next, and a number that becomes free is the next one when it is lower.

The last number of thirty-two bits makes the vector empty when a group with it is loaded: its size
is one more, which is zero.  The search leaves out that number, and where it finds nothing the next
number is the one after the number that was given out, free or not: the check for an overflow
compares it with the number that was given out, from which it always differs.

## Main results

* `numbered_iff`: a run is right exactly when there always is a next number
-/

namespace TeraCore.GroupStore

open Commons

/-- A group: `m_guid`, and `m_dbStoreId`. -/
structure Group where
  m_guid : ℕ
  m_dbStoreId : ℕ
deriving DecidableEq

/-- **The manager.** -/
structure GroupMgr where
  NextGroupId : ℕ
  NextGroupDbStoreId : ℕ
  GroupDbStore : List (Option Group)
  /-- The server is shut down. -/
  stopped : Bool

namespace GroupMgr

def new : GroupMgr := ⟨1, 1, [], false⟩

/-- Is a number free for the search? -/
def isFree (store : List (Option Group)) (i : ℕ) : Bool :=
  i < store.length && (store[i]?).join.isNone || store.length ≤ i

/-- The loop of `GenerateNewGroupDbStoreId`: the first free number from `i` on. -/
def search (store : List (Option Group)) (i : ℕ) : Option ℕ :=
  if i < 0xFFFFFFFF then if isFree store i then some i else search store (i + 1) else none
termination_by 0xFFFFFFFF - i

variable (m : GroupMgr)

def GenerateGroupId : ℕ × GroupMgr :=
  (m.NextGroupId, { m with
    NextGroupId := (m.NextGroupId + 1) % 2 ^ 32
    stopped := m.stopped || 0xFFFFFFFE ≤ m.NextGroupId })

def GenerateNewGroupDbStoreId : ℕ × GroupMgr :=
  let newStorageId := m.NextGroupDbStoreId
  let NextGroupDbStoreId := (m.NextGroupDbStoreId + 1) % 2 ^ 32
  let NextGroupDbStoreId := (search m.GroupDbStore NextGroupDbStoreId).getD NextGroupDbStoreId
  (newStorageId, { m with
    NextGroupDbStoreId := NextGroupDbStoreId
    stopped := m.stopped || newStorageId = NextGroupDbStoreId })

/-- `resize` of a vector of pointers. -/
def resize (n : ℕ) (store : List (Option Group)) : List (Option Group) :=
  store.take n ++ List.replicate (n - store.length) none

/-- **`RegisterGroupDbStoreId`**; what is written behind the end of the vector is lost. -/
def RegisterGroupDbStoreId (storageId : ℕ) (group : Group) : GroupMgr :=
  let store := if m.GroupDbStore.length ≤ storageId then
      resize ((storageId + 1) % 2 ^ 32) m.GroupDbStore
    else m.GroupDbStore
  { m with GroupDbStore := store.set storageId (some group) }

def FreeGroupDbStoreId (group : Group) : GroupMgr :=
  { m with
    NextGroupDbStoreId :=
      if group.m_dbStoreId < m.NextGroupDbStoreId then group.m_dbStoreId else m.NextGroupDbStoreId
    GroupDbStore := m.GroupDbStore.set group.m_dbStoreId none }

def GetGroupByDbStoreId (storageId : ℕ) : Option Group :=
  if storageId < m.GroupDbStore.length then (m.GroupDbStore[storageId]?).join else none

end GroupMgr

/-- **The manager and the groups** that there are, other than those of battlegrounds. -/
structure World where
  mgr : GroupMgr
  groups : List Group

/-- A turn of the loop of `LoadGroups`. -/
def loadGroup (w : World) (storageId : ℕ) : World :=
  let (guid, mgr) := w.mgr.GenerateGroupId
  let group : Group := ⟨guid, storageId⟩
  let mgr := mgr.RegisterGroupDbStoreId storageId group
  { mgr := { mgr with
      NextGroupDbStoreId :=
        if storageId = mgr.NextGroupDbStoreId then (mgr.NextGroupDbStoreId + 1) % 2 ^ 32
        else mgr.NextGroupDbStoreId }
    groups := group :: w.groups }

/-- **`LoadGroups`**: the rows come in the order of their numbers, which are the table's key. -/
def LoadGroups (ids : Finset ℕ) : World := (ids.sort (· ≤ ·)).foldl loadGroup ⟨.new, []⟩

/-- What happens to groups: one is created, or disbanded. -/
inductive Op where
  | create
  | disband (group : Group)

/-- **A group is created or disbanded.** -/
def step (w : World) : Op → World
  | .create =>
    let (guid, mgr) := w.mgr.GenerateGroupId
    let (m_dbStoreId, mgr) := mgr.GenerateNewGroupDbStoreId
    let group : Group := ⟨guid, m_dbStoreId⟩
    ⟨mgr.RegisterGroupDbStoreId m_dbStoreId group, group :: w.groups⟩
  | .disband group =>
    if group ∈ w.groups then
      ⟨w.mgr.FreeGroupDbStoreId group, w.groups.filter (· ≠ group)⟩
    else w

/-! ## What is right -/

/-- **The numbers are as they should be**: groups have different numbers, by which they are found,
and the next number is free. -/
structure Numbered (w : World) : Prop where
  nodup : (w.groups.map (·.m_dbStoreId)).Nodup
  get : ∀ id < 2 ^ 32,
    w.mgr.GetGroupByDbStoreId id = w.groups.find? fun group => group.m_dbStoreId = id
  next : ∀ group ∈ w.groups, group.m_dbStoreId ≠ w.mgr.NextGroupDbStoreId

/-- **There is a number for the group after the one that is created**: a free one above, which is
not the last one of thirty-two bits, or that last one. -/
def HasNext (w : World) : Op → Prop
  | .create => w.mgr.NextGroupDbStoreId ≠ 0xFFFFFFFF ∧ (w.mgr.NextGroupDbStoreId = 0xFFFFFFFE ∨
      ∃ id, w.mgr.NextGroupDbStoreId < id ∧ id < 0xFFFFFFFF ∧
        ∀ group ∈ w.groups, group.m_dbStoreId ≠ id)
  | .disband _ => True

/-! ## The vector -/

namespace GroupMgr

variable {m : GroupMgr} {i j storageId : ℕ} {group : Group}

theorem get_eq (m : GroupMgr) (i : ℕ) :
    m.GetGroupByDbStoreId i = (m.GroupDbStore[i]?).join := by
  unfold GetGroupByDbStoreId
  split_ifs with hi
  · rfl
  · rw [List.getElem?_eq_none (Nat.le_of_not_lt hi)]
    rfl

theorem isFree_iff : isFree m.GroupDbStore i = true ↔ m.GetGroupByDbStoreId i = none := by
  unfold isFree GetGroupByDbStoreId
  by_cases hi : i < m.GroupDbStore.length
  · rw [if_pos hi, decide_eq_true hi, decide_eq_false (Nat.not_le_of_lt hi), Bool.true_and,
      Bool.or_false, Option.isNone_iff_eq_none]
  · rw [if_neg hi, decide_eq_true (Nat.le_of_not_lt hi), Bool.or_true]
    exact iff_of_true rfl rfl

theorem join_resize {n : ℕ} {store : List (Option Group)} (hn : store.length ≤ n) :
    ((resize n store)[i]?).join = (store[i]?).join := by
  unfold resize
  rw [List.take_of_length_le hn, List.getElem?_append]
  split_ifs with hi
  · rfl
  · rw [List.getElem?_eq_none (Nat.le_of_not_lt hi), List.getElem?_replicate]
    split_ifs <;> rfl

theorem length_resize (n : ℕ) (store : List (Option Group)) : (resize n store).length = n := by
  unfold resize
  rw [List.length_append, List.length_take, List.length_replicate]
  omega

theorem length_register (h : m.GroupDbStore.length < 2 ^ 32) :
    (m.RegisterGroupDbStoreId storageId group).GroupDbStore.length < 2 ^ 32 := by
  unfold RegisterGroupDbStoreId
  rw [List.length_set]
  split_ifs
  · rw [length_resize]
    exact Nat.mod_lt _ (by decide)
  · exact h

/-- **A group is registered** under a number that is not the last one. -/
theorem get_register (h : storageId < 0xFFFFFFFF) (i : ℕ) :
    (m.RegisterGroupDbStoreId storageId group).GetGroupByDbStoreId i =
      if i = storageId then some group else m.GetGroupByDbStoreId i := by
  have hmod : (storageId + 1) % 2 ^ 32 = storageId + 1 := Nat.mod_eq_of_lt (by omega)
  rw [get_eq, get_eq]
  unfold RegisterGroupDbStoreId
  rw [hmod, List.getElem?_set]
  by_cases heq : i = storageId
  · subst heq
    rw [if_pos rfl, if_pos rfl, if_pos]
    · rfl
    · split_ifs
      · rw [length_resize]
        exact Nat.lt_succ_self _
      · omega
  · rw [if_neg fun h => heq h.symm, if_neg heq]
    split_ifs with hlen
    · exact join_resize (by omega)
    · rfl

/-- **The last number empties the vector**, and nothing is registered. -/
theorem register_last (h : m.GroupDbStore.length < 2 ^ 32) (group : Group) :
    (m.RegisterGroupDbStoreId 0xFFFFFFFF group).GroupDbStore = [] := by
  unfold RegisterGroupDbStoreId
  rw [if_pos (by omega), List.eq_nil_iff_length_eq_zero, List.length_set, length_resize]
  rfl

theorem get_free (i : ℕ) : (m.FreeGroupDbStoreId group).GetGroupByDbStoreId i =
    if i = group.m_dbStoreId then none else m.GetGroupByDbStoreId i := by
  rw [get_eq, get_eq]
  unfold FreeGroupDbStoreId
  rw [List.getElem?_set]
  by_cases heq : i = group.m_dbStoreId
  · rw [if_pos heq.symm, if_pos heq]
    split_ifs <;> rfl
  · rw [if_neg fun h => heq h.symm, if_neg heq]

/-! ## The search -/

theorem search_some (h : search m.GroupDbStore i = some j) :
    i ≤ j ∧ j < 0xFFFFFFFF ∧ m.GetGroupByDbStoreId j = none := by
  fun_induction search m.GroupDbStore i with
  | case1 i hlt hfree =>
    cases h
    exact ⟨Nat.le_refl _, hlt, isFree_iff.mp hfree⟩
  | case2 i hlt hfree ih =>
    obtain ⟨hle, hrest⟩ := ih h
    exact ⟨Nat.le_of_succ_le hle, hrest⟩
  | case3 i hlt => cases h

theorem search_none (h : search m.GroupDbStore i = none) (hij : i ≤ j) (hj : j < 0xFFFFFFFF) :
    m.GetGroupByDbStoreId j ≠ none := by
  fun_induction search m.GroupDbStore i with
  | case1 i hlt hfree => cases h
  | case2 i hlt hfree ih =>
    rcases Nat.eq_or_lt_of_le hij with rfl | hlt'
    · exact fun hnone => hfree (isFree_iff.mpr hnone)
    · exact ih h hlt'
  | case3 i hlt => exact absurd (Nat.lt_of_le_of_lt hij hj) hlt

end GroupMgr

/-! ## Groups are created and disbanded -/

/-- **The invariant**: the numbers are as they should be, and fit the vector. -/
structure Kept (w : World) : Prop extends Numbered w where
  lt_length : ∀ group ∈ w.groups, group.m_dbStoreId < w.mgr.GroupDbStore.length
  length_lt : w.mgr.GroupDbStore.length < 2 ^ 32
  next_lt : w.mgr.NextGroupDbStoreId < 2 ^ 32

variable {w : World} {group : Group} {id guid next : ℕ}

theorem Numbered.ne_of_get (h : Numbered w) (hid : id < 2 ^ 32)
    (hget : w.mgr.GetGroupByDbStoreId id = none) : ∀ group ∈ w.groups, group.m_dbStoreId ≠ id := by
  intro group hgroup heq
  rw [h.get id hid, List.find?_eq_none] at hget
  exact hget group hgroup (decide_eq_true heq)

theorem Numbered.exists_of_get (h : Numbered w) (hid : id < 2 ^ 32)
    (hget : w.mgr.GetGroupByDbStoreId id ≠ none) : ∃ group ∈ w.groups, group.m_dbStoreId = id := by
  by_contra hnot
  refine hget ?_
  rw [h.get id hid, List.find?_eq_none]
  exact fun group hgroup heq => hnot ⟨group, hgroup, of_decide_eq_true heq⟩

theorem Kept.lt_last (h : Kept w) : ∀ group ∈ w.groups, group.m_dbStoreId < 0xFFFFFFFF := by
  intro group hgroup
  have hlt := h.lt_length group hgroup
  have hlen := h.length_lt
  omega

theorem Kept.register (h : Kept w) {m : GroupMgr} (hstore : m.GroupDbStore = w.mgr.GroupDbStore)
    (hid : group.m_dbStoreId < 0xFFFFFFFF)
    (hfree : ∀ other ∈ w.groups, other.m_dbStoreId ≠ group.m_dbStoreId)
    (hnext : m.NextGroupDbStoreId < 2 ^ 32) (hne : m.NextGroupDbStoreId ≠ group.m_dbStoreId)
    (hnextFree : ∀ other ∈ w.groups, other.m_dbStoreId ≠ m.NextGroupDbStoreId) :
    Kept ⟨m.RegisterGroupDbStoreId group.m_dbStoreId group, group :: w.groups⟩ := by
  have hlen : m.GroupDbStore.length < 2 ^ 32 := hstore ▸ h.length_lt
  have hget (i : ℕ) : m.GetGroupByDbStoreId i = w.mgr.GetGroupByDbStoreId i := by
    rw [GroupMgr.get_eq, GroupMgr.get_eq, hstore]
  have hfound (i : ℕ) (hi : i < 2 ^ 32) :
      (m.RegisterGroupDbStoreId group.m_dbStoreId group).GetGroupByDbStoreId i =
        (group :: w.groups).find? fun group => group.m_dbStoreId = i := by
    rw [GroupMgr.get_register hid, hget, h.get i hi, List.find?_cons]
    by_cases heq : i = group.m_dbStoreId
    · rw [if_pos heq, decide_eq_true heq.symm]
    · rw [if_neg heq, decide_eq_false fun h => heq h.symm]
  refine ⟨⟨?_, hfound, fun other hother => ?_⟩, fun other hother => ?_,
    GroupMgr.length_register hlen, hnext⟩
  · rw [List.map_cons, List.nodup_cons]
    refine ⟨fun hmem => ?_, h.nodup⟩
    obtain ⟨other, hother, heq⟩ := List.mem_map.mp hmem
    exact hfree other hother heq
  · rcases List.mem_cons.mp hother with rfl | hother
    · exact hne.symm
    · exact hnextFree other hother
  · -- who is found is in the vector
    have hlt : other.m_dbStoreId < 2 ^ 32 := by
      rcases List.mem_cons.mp hother with rfl | hother
      · omega
      · exact Nat.lt_trans (h.lt_last other hother) (by decide)
    have hsome := hfound other.m_dbStoreId hlt
    by_contra hout
    unfold GroupMgr.GetGroupByDbStoreId at hsome
    rw [if_neg hout, eq_comm, List.find?_eq_none] at hsome
    exact hsome other hother (decide_eq_true rfl)

theorem Kept.disband (h : Kept w) (group : Group) : Kept (step w (.disband group)) := by
  unfold step
  dsimp only
  split_ifs with hgroup
  · have hother (other : Group) (hmem : other ∈ w.groups.filter (· ≠ group)) :
        other ∈ w.groups ∧ other.m_dbStoreId ≠ group.m_dbStoreId := by
      obtain ⟨hin, hne⟩ := List.mem_filter.mp hmem
      refine ⟨hin, fun heq => of_decide_eq_true hne ?_⟩
      exact List.inj_on_of_nodup_map h.nodup hin hgroup heq
    have hlen : (w.mgr.FreeGroupDbStoreId group).GroupDbStore.length =
        w.mgr.GroupDbStore.length := List.length_set
    refine ⟨⟨h.nodup.sublist (List.filter_sublist.map _), fun i hi => ?_, fun other hmem => ?_⟩,
      fun other hmem => ?_, ?_, ?_⟩
    · rw [GroupMgr.get_free, List.find?_filter]
      split_ifs with heq
      · symm
        rw [List.find?_eq_none]
        intro other hin hboth
        obtain ⟨hne, hid⟩ : other ≠ group ∧ other.m_dbStoreId = i := by simpa using hboth
        exact hne (List.inj_on_of_nodup_map h.nodup hin hgroup (hid.trans heq))
      · rw [h.get i hi]
        congr 1
        funext other
        rw [Bool.eq_iff_iff]
        simp only [decide_eq_true_eq]
        exact ⟨fun hid => ⟨fun hsame => heq (hsame ▸ hid.symm), hid⟩, And.right⟩
    · unfold GroupMgr.FreeGroupDbStoreId
      split
      · exact (hother other hmem).2
      · exact h.next other (hother other hmem).1
    · rw [hlen]
      exact h.lt_length other (hother other hmem).1
    · rw [hlen]
      exact h.length_lt
    · have hlt := h.lt_last group hgroup
      unfold GroupMgr.FreeGroupDbStoreId
      dsimp only
      split <;> omega
  · exact h

/-- The next number after a group was created. -/
def nextNumber (w : World) : ℕ :=
  (GroupMgr.search w.mgr.GroupDbStore ((w.mgr.NextGroupDbStoreId + 1) % 2 ^ 32)).getD
    ((w.mgr.NextGroupDbStoreId + 1) % 2 ^ 32)

theorem next_create : (step w .create).mgr.NextGroupDbStoreId = nextNumber w := rfl

/-- A free number above the one that is given out is found, or it is the last but one. -/
theorem HasNext.free (hnext : HasNext w .create) (h : Kept w) :
    nextNumber w < 2 ^ 32 ∧ nextNumber w ≠ w.mgr.NextGroupDbStoreId ∧
      ∀ group ∈ w.groups, group.m_dbStoreId ≠ nextNumber w := by
  obtain ⟨hlast, hnext⟩ := hnext
  have hmod : (w.mgr.NextGroupDbStoreId + 1) % 2 ^ 32 = w.mgr.NextGroupDbStoreId + 1 :=
    Nat.mod_eq_of_lt (by omega)
  unfold nextNumber
  rw [hmod]
  cases hsearch : GroupMgr.search w.mgr.GroupDbStore (w.mgr.NextGroupDbStoreId + 1) with
  | some j =>
    obtain ⟨hle, hj, hget⟩ := GroupMgr.search_some hsearch
    rw [Option.getD_some]
    exact ⟨by omega, by omega, h.ne_of_get (by omega) hget⟩
  | none =>
    rw [Option.getD_none]
    rcases hnext with hpenultimate | ⟨id, hgt, hid, hfree⟩
    · refine ⟨by omega, by omega, fun group hgroup => ?_⟩
      have hbelow := h.lt_last group hgroup
      omega
    · -- the search would have found the free number
      obtain ⟨group, hgroup, heq⟩ := h.exists_of_get (by omega)
        (GroupMgr.search_none hsearch hgt hid)
      exact absurd heq (hfree group hgroup)

theorem Kept.create (h : Kept w) (hnext : HasNext w .create) : Kept (step w .create) := by
  obtain ⟨hlt, hne, hfree⟩ := hnext.free h
  have hnumber := h.next_lt
  have hlast := hnext.1
  have hid : w.mgr.NextGroupDbStoreId < 0xFFFFFFFF := by omega
  have hgroup : (⟨w.mgr.NextGroupId, w.mgr.NextGroupDbStoreId⟩ : Group).m_dbStoreId < 0xFFFFFFFF :=
    hid
  exact h.register (m := (w.mgr.GenerateGroupId.2).GenerateNewGroupDbStoreId.2) rfl hgroup h.next
    hlt hne hfree

theorem Kept.step (h : Kept w) {op : Op} (hnext : HasNext w op) : Kept (step w op) := by
  cases op with
  | create => exact h.create hnext
  | disband group => exact h.disband group

theorem Kept.hasNext_of_create (h : Kept w) (hnumbered : Numbered (GroupStore.step w .create)) :
    HasNext w .create := by
  have hlt := h.next_lt
  have hlast : w.mgr.NextGroupDbStoreId ≠ 0xFFFFFFFF := by
    intro hlast
    have hget := hnumbered.get 0xFFFFFFFF (by decide)
    have hempty : (GroupStore.step w .create).mgr.GroupDbStore = [] := by
      show ((w.mgr.GenerateGroupId.2).GenerateNewGroupDbStoreId.2.RegisterGroupDbStoreId
        w.mgr.NextGroupDbStoreId _).GroupDbStore = []
      rw [hlast]
      exact GroupMgr.register_last h.length_lt _
    rw [GroupMgr.get_eq, hempty] at hget
    have hnone := List.find?_eq_none.mp hget.symm ⟨w.mgr.NextGroupId, w.mgr.NextGroupDbStoreId⟩
      List.mem_cons_self
    exact hnone (decide_eq_true hlast)
  refine ⟨hlast, or_iff_not_imp_left.mpr fun hpenultimate => ?_⟩
  have hmod : (w.mgr.NextGroupDbStoreId + 1) % 2 ^ 32 = w.mgr.NextGroupDbStoreId + 1 :=
    Nat.mod_eq_of_lt (by omega)
  cases hsearch : GroupMgr.search w.mgr.GroupDbStore (w.mgr.NextGroupDbStoreId + 1) with
  | some j =>
    obtain ⟨hle, hj, hget⟩ := GroupMgr.search_some hsearch
    exact ⟨j, hle, hj, h.ne_of_get (by omega) hget⟩
  | none =>
    -- the next number is the one after, which some group has
    obtain ⟨group, hgroup, heq⟩ := h.exists_of_get (by omega)
      (GroupMgr.search_none hsearch (Nat.le_refl _) (by omega))
    refine absurd ?_ (hnumbered.next group (List.mem_cons_of_mem _ hgroup))
    rw [next_create]
    unfold nextNumber
    rw [hmod, hsearch]
    exact heq

theorem Kept.numbered_apply (h : Kept w) (op : Op) :
    Numbered (GroupStore.step w op) ↔ HasNext w op := by
  cases op with
  | create => exact ⟨h.hasNext_of_create, fun hnext => (h.create hnext).toNumbered⟩
  | disband group => exact iff_of_true (h.disband group).toNumbered trivial

/-! ## Groups are loaded -/

theorem kept_new : Kept ⟨.new, []⟩ where
  nodup := List.nodup_nil
  get := fun _ _ => rfl
  next := fun _ h => absurd h List.not_mem_nil
  lt_length := fun _ h => absurd h List.not_mem_nil
  length_lt := by decide
  next_lt := by decide

/-- **A group is loaded** whose number is above those of the others. -/
theorem Kept.loadGroup (h : Kept w) (hid : id < 0xFFFFFFFF)
    (habove : ∀ group ∈ w.groups, group.m_dbStoreId < id) : Kept (loadGroup w id) := by
  have hnext := h.next_lt
  -- the next number is changed before or after the group is registered
  have hgroup : (⟨w.mgr.NextGroupId, id⟩ : Group).m_dbStoreId < 0xFFFFFFFF := hid
  refine h.register (m := { w.mgr.GenerateGroupId.2 with
      NextGroupDbStoreId :=
        if id = w.mgr.NextGroupDbStoreId then (w.mgr.NextGroupDbStoreId + 1) % 2 ^ 32
        else w.mgr.NextGroupDbStoreId }) rfl hgroup
    (fun group hmem => (habove group hmem).ne) ?_ ?_ fun group hmem => ?_
  · dsimp only
    split <;> omega
  · show (if id = w.mgr.NextGroupDbStoreId then _ else _) ≠ id
    split <;> omega
  · have hbelow := habove group hmem
    have hfree := h.next group hmem
    dsimp only
    split <;> omega

theorem kept_foldl_loadGroup {ids : List ℕ} (hids : ∀ id ∈ ids, id < 0xFFFFFFFF)
    (hsorted : ids.Pairwise (· < ·)) (h : Kept w)
    (habove : ∀ group ∈ w.groups, ∀ id ∈ ids, group.m_dbStoreId < id) :
    Kept (ids.foldl GroupStore.loadGroup w) := by
  induction ids generalizing w with
  | nil => exact h
  | cons id ids ih =>
    rw [List.pairwise_cons] at hsorted
    refine ih (fun id' hid' => hids id' (List.mem_cons_of_mem _ hid')) hsorted.2
      (h.loadGroup (hids id List.mem_cons_self)
        fun group hgroup => habove group hgroup id List.mem_cons_self) ?_
    intro group hgroup id' hid'
    rcases List.mem_cons.mp hgroup with rfl | hgroup
    · exact hsorted.1 id' hid'
    · exact habove group hgroup id' (List.mem_cons_of_mem _ hid')

/-- **The last number**, when it is loaded, empties the vector. -/
theorem store_foldl_loadGroup {ids : List ℕ} (hids : ∀ id ∈ ids, id < 2 ^ 32)
    (hsorted : ids.Pairwise (· < ·)) (hlast : 0xFFFFFFFF ∈ ids)
    (hlen : w.mgr.GroupDbStore.length < 2 ^ 32) :
    (ids.foldl GroupStore.loadGroup w).mgr.GroupDbStore = [] ∧
      ∃ group ∈ (ids.foldl GroupStore.loadGroup w).groups, group.m_dbStoreId = 0xFFFFFFFF := by
  induction ids generalizing w with
  | nil => exact absurd hlast List.not_mem_nil
  | cons id ids ih =>
    rw [List.pairwise_cons] at hsorted
    rcases List.mem_cons.mp hlast with rfl | hlast
    · -- no number is above it
      have hnil : ids = [] := by
        refine List.eq_nil_iff_forall_not_mem.mpr fun id' hid' => ?_
        have hgt := hsorted.1 id' hid'
        have hlt := hids id' (List.mem_cons_of_mem _ hid')
        omega
      rw [hnil]
      exact ⟨GroupMgr.register_last hlen _, _, List.mem_cons_self, rfl⟩
    · exact ih (fun id' hid' => hids id' (List.mem_cons_of_mem _ hid')) hsorted.2 hlast
        (GroupMgr.length_register hlen)

theorem kept_loadGroups {ids : Finset ℕ} (hids : ∀ id ∈ ids, id < 2 ^ 32)
    (hlast : 0xFFFFFFFF ∉ ids) : Kept (LoadGroups ids) := by
  refine kept_foldl_loadGroup (fun id hid => ?_) (Finset.sortedLT_sort ids).pairwise kept_new
    fun group hgroup => absurd hgroup List.not_mem_nil
  have hmem := (Finset.mem_sort _).mp hid
  have hlt := hids id hmem
  have hne : id ≠ 0xFFFFFFFF := fun heq => hlast (heq ▸ hmem)
  omega

/-- **The numbers are right after the groups were loaded** unless one has the last number. -/
theorem numbered_loadGroups_iff {ids : Finset ℕ} (hids : ∀ id ∈ ids, id < 2 ^ 32) :
    Numbered (LoadGroups ids) ↔ 0xFFFFFFFF ∉ ids := by
  refine ⟨fun hnumbered hlast => ?_, fun hlast => (kept_loadGroups hids hlast).toNumbered⟩
  obtain ⟨hstore, group, hgroup, hid⟩ := store_foldl_loadGroup (w := ⟨.new, []⟩)
    (fun id hid => hids id ((Finset.mem_sort _).mp hid)) (Finset.sortedLT_sort ids).pairwise
    ((Finset.mem_sort _).mpr hlast) (by decide)
  have hget := hnumbered.get 0xFFFFFFFF (by decide)
  have hnone : (LoadGroups ids).mgr.GetGroupByDbStoreId 0xFFFFFFFF = none := by
    rw [GroupMgr.get_eq]
    unfold LoadGroups
    rw [hstore]
    rfl
  rw [hnone, eq_comm, List.find?_eq_none] at hget
  exact hget group hgroup (decide_eq_true hid)

/-- **The numbers of groups are right** while groups are created and disbanded, exactly when no
group was loaded with the last number and there is a next number whenever one is created. -/
theorem numbered_iff (ids : Finset ℕ) (hids : ∀ id ∈ ids, id < 2 ^ 32) (ops : List Op) :
    Numbered (LoadGroups ids) ∧
        Admissible step (fun w op => Numbered (step w op)) (LoadGroups ids) ops ↔
      0xFFFFFFFF ∉ ids ∧ Admissible step HasNext (LoadGroups ids) ops := by
  rw [numbered_loadGroups_iff hids]
  refine and_congr_right fun hlast => ?_
  exact admissible_congr Kept (fun w op _ h hnext => h.step hnext)
    (fun w op _ h => h.numbered_apply op) (kept_loadGroups hids hlast)

theorem numbered_iff_three :
    Numbered (LoadGroups {1, 2, 5}) ∧
        Admissible step (fun w op => Numbered (step w op)) (LoadGroups {1, 2, 5})
          [.create, .create] ↔
      0xFFFFFFFF ∉ ({1, 2, 5} : Finset ℕ) ∧
        Admissible step HasNext (LoadGroups {1, 2, 5}) [.create, .create] :=
  numbered_iff {1, 2, 5} (by decide) [.create, .create]

/-! ## The last number is loaded -/

/-- **A group is not found**: with the row of the last number the vector is made empty, and the
group of the row before is found no more. -/
theorem not_numbered :
    ¬ ∀ ids : Finset ℕ, (∀ id ∈ ids, id < 2 ^ 32) → ∀ ops, Numbered (LoadGroups ids) ∧
      Admissible step (fun w op => Numbered (step w op)) (LoadGroups ids) ops := by
  intro h
  have hids : ∀ id ∈ ({1, 0xFFFFFFFF} : Finset ℕ), id < 2 ^ 32 := by decide
  have hright : Numbered (LoadGroups {1, 0xFFFFFFFF}) := (h {1, 0xFFFFFFFF} hids []).1
  exact (numbered_loadGroups_iff hids).mp hright (by decide)

end TeraCore.GroupStore
