import TeraCore.Pools.PoolMgr
import Mathlib.Order.Interval.Finset.Nat

/-!
# Pools: members and counters

A table of pools is configured when every object and every pool is a member of one pool at most,
the one that it is looked up in, and no pool is below itself.  What is spawned is then counted
when every counter is the number of the spawned members of its pool, and every pool with a
spawned member is spawned itself, or is a member of none.  The activation of a member of such a
pool and the removal of an active one keep this.

Pools of quests are left out of the count: their counters count quests as well.

## Main results

* `PoolMgr.depth_lt`: pools are not nested deeper than there are pools
* `PoolMgr.Counted.activate`, `PoolMgr.Counted.remove`: the two changes of what is spawned
-/

namespace TeraCore

open Commons Relation OrderedMap

/-! ## The data of the spawned -/

namespace ActivePoolData

variable (s : ActivePoolData) (kind kind' : PoolKind) (guid guid' poolId r : ℕ)

theorem isActiveObject_pool : s.isActiveObject .pool r = s.mSpawnedPools.contains r := rfl

theorem getActiveObjectCount_of_not_active (h : s.isActiveObject .pool r = false) :
    s.getActiveObjectCount r = 0 := by
  rw [isActiveObject_pool, contains_eq_false_iff] at h
  simp [getActiveObjectCount, h]

theorem isActiveObject_increment :
    (s.increment poolId).isActiveObject kind guid = true ↔
      s.isActiveObject kind guid = true ∨ (kind = .pool ∧ guid = poolId) := by
  cases kind
  case pool =>
    simp only [increment, isActiveObject, OrderedMap.contains, find?_set]
    by_cases h : guid = poolId <;> simp [h]
  all_goals
    rw [or_iff_left (by simp)]
    rfl

theorem isActiveObject_decrement :
    (s.decrement poolId).isActiveObject kind guid = true ↔
      s.isActiveObject kind guid = true ∨ (kind = .pool ∧ guid = poolId) := by
  cases kind
  case pool =>
    simp only [decrement, isActiveObject, OrderedMap.contains, find?_set]
    by_cases h : guid = poolId <;> simp [h]
  all_goals
    rw [or_iff_left (by simp)]
    rfl

theorem isActiveObject_activate :
    (s.activateObject kind guid poolId).isActiveObject kind' guid' = true ↔
      s.isActiveObject kind' guid' = true ∨ (kind' = kind ∧ guid' = guid) ∨
        (kind' = .pool ∧ guid' = poolId) := by
  rw [← or_assoc]
  cases kind
  case pool =>
    rw [activateObject, isActiveObject_increment]
    refine or_congr_left ?_
    cases kind'
    case pool =>
      simp only [isActiveObject, OrderedMap.contains, find?_set]
      by_cases h : guid' = guid <;> simp [h]
    all_goals simp [isActiveObject]
  all_goals
    rw [activateObject, isActiveObject_increment]
    refine or_congr_left ?_
    cases kind' <;> simp [isActiveObject, or_comm]

theorem isActiveObject_remove :
    (s.removeObject kind guid poolId).isActiveObject kind' guid' = true ↔
      (s.isActiveObject kind' guid' = true ∧ ¬ (kind' = kind ∧ guid' = guid)) ∨
        (kind' = .pool ∧ guid' = poolId) := by
  cases kind
  case pool =>
    rw [removeObject, isActiveObject_decrement]
    refine or_congr_left ?_
    cases kind'
    case pool =>
      simp only [isActiveObject, OrderedMap.contains, find?_erase]
      by_cases h : guid' = guid <;> simp [h]
    all_goals simp [isActiveObject]
  all_goals
    rw [removeObject, isActiveObject_decrement]
    refine or_congr_left ?_
    cases kind' <;> simp [isActiveObject]

variable {kind guid poolId}

theorem find?_activate (hne : kind = .pool → guid ≠ poolId) :
    (s.activateObject kind guid poolId).mSpawnedPools.find? r =
      if r = poolId then some (s.getActiveObjectCount poolId + 1)
      else if kind = .pool ∧ r = guid then some 0 else s.mSpawnedPools.find? r := by
  cases kind
  case pool =>
    simp [activateObject, increment, getActiveObjectCount, find?_set, (hne rfl).symm]
  all_goals simp [activateObject, increment, getActiveObjectCount, find?_set]

theorem find?_decrement :
    (s.decrement poolId).mSpawnedPools.find? r =
      if r = poolId then
        some (if 0 < s.getActiveObjectCount poolId then s.getActiveObjectCount poolId - 1
          else s.getActiveObjectCount poolId)
      else s.mSpawnedPools.find? r :=
  find?_set _ _ _ _

theorem find?_remove (hne : kind = .pool → guid ≠ poolId) :
    (s.removeObject kind guid poolId).mSpawnedPools.find? r =
      if r = poolId then
        some (if 0 < s.getActiveObjectCount poolId then s.getActiveObjectCount poolId - 1
          else s.getActiveObjectCount poolId)
      else if kind = .pool ∧ r = guid then none else s.mSpawnedPools.find? r := by
  cases kind
  case pool =>
    have hcount : ({ s with mSpawnedPools := s.mSpawnedPools.erase guid } : ActivePoolData
        ).getActiveObjectCount poolId = s.getActiveObjectCount poolId := by
      rw [getActiveObjectCount, find?_erase_of_ne _ (hne rfl).symm]
      rfl
    rw [removeObject, find?_decrement, hcount]
    simp [find?_erase]
  all_goals
    rw [removeObject, find?_decrement]
    rfl

end ActivePoolData

/-! ## The tables -/

namespace PoolMgr

variable {F : Type*}

def members (m : PoolMgr F) (kind : PoolKind) (poolId : ℕ) : List ℕ :=
  (m.groups kind poolId).objects.map PoolObject.guid

/-- A pool is a member of another one. -/
def IsChild (m : PoolMgr F) (child mother : ℕ) : Prop := child ∈ m.members .pool mother

/-- A pool is the other one, or a member of a pool that is below it. -/
def Below (m : PoolMgr F) : ℕ → ℕ → Prop := ReflTransGen m.IsChild

/-- **Configured tables**: every creature, gameobject and pool is a member of one pool at most, and
no pool is below itself. -/
structure Configured (m : PoolMgr F) : Prop where
  search : ∀ kind, kind ≠ .quest → ∀ guid poolId,
    (m.searchMap kind).find? guid = some poolId ↔ guid ∈ m.members kind poolId
  group : ∀ kind poolId, m.members kind poolId ≠ [] → (m.groups kind poolId).poolId = poolId
  inRange : ∀ child mother, m.IsChild child mother → child ≤ m.maxPoolId
  acyclic : ∀ poolId, ¬ TransGen m.IsChild poolId poolId

namespace Configured

variable {m : PoolMgr F} (hm : m.Configured) {kind : PoolKind} {p q r guid : ℕ}

include hm

theorem mother_unique (hkind : kind ≠ .quest) (hp : guid ∈ m.members kind p)
    (hq : guid ∈ m.members kind q) : p = q :=
  Option.some.inj (((hm.search kind hkind guid p).mpr hp).symm.trans
    ((hm.search kind hkind guid q).mpr hq))

theorem child_ne (h : m.IsChild q p) : q ≠ p := by
  rintro rfl
  exact hm.acyclic _ (.single h)

theorem ne_of_member (hg : guid ∈ m.members kind p) (hkind : kind = .pool) : guid ≠ p := by
  subst hkind
  exact hm.child_ne hg

theorem not_below_child (h : m.IsChild q p) : ¬ m.Below p q := fun hpq =>
  hm.acyclic p (TransGen.tail' hpq h)

theorem below_mother (hr : m.Below r q) (hne : r ≠ q) (h : m.IsChild r p) : m.Below p q := by
  obtain rfl | ⟨c, hc, hcq⟩ := ReflTransGen.cases_head hr
  · exact absurd rfl hne
  · rwa [hm.mother_unique (by decide) h hc]

end Configured

/-! ## How deep pools are nested -/

open Classical in
/-- The number of the pools that are below one. -/
noncomputable def depth (m : PoolMgr F) (p : ℕ) : ℕ :=
  ((Finset.range (m.maxPoolId + 1)).filter fun q => TransGen m.IsChild q p).card

theorem depth_lt_maxDepth (m : PoolMgr F) (p : ℕ) : m.depth p < m.maxDepth := by
  classical
  have hcard := Finset.card_filter_le (Finset.range (m.maxPoolId + 1))
    fun q => TransGen m.IsChild q p
  rw [Finset.card_range] at hcard
  exact Nat.lt_succ_of_le hcard

theorem Configured.depth_lt {m : PoolMgr F} (hm : m.Configured) {q p : ℕ} (h : m.IsChild q p) :
    m.depth q < m.depth p := by
  classical
  refine Finset.card_lt_card ((Finset.ssubset_iff_of_subset fun r hr => ?_).mpr ⟨q, ?_, ?_⟩)
  · rw [Finset.mem_filter] at hr ⊢
    exact ⟨hr.1, hr.2.tail h⟩
  · rw [Finset.mem_filter, Finset.mem_range]
    exact ⟨Nat.lt_succ_of_le (hm.inRange q p h), .single h⟩
  · rw [Finset.mem_filter]
    exact fun hq => hm.acyclic q hq.2

/-! ## Counting -/

/-- The number of the spawned members of one kind of a pool. -/
def activeOf (m : PoolMgr F) (kind : PoolKind) (s : ActivePoolData) (p : ℕ) : ℕ :=
  (m.members kind p).dedup.countP (s.isActiveObject kind)

/-- The number of the spawned creatures, gameobjects and pools of a pool. -/
def activeMembers (m : PoolMgr F) (s : ActivePoolData) (p : ℕ) : ℕ :=
  m.activeOf .creature s p + m.activeOf .gameobject s p + m.activeOf .pool s p

/-- A pool that can have spawned members: it is a member of none, or it is spawned. -/
def Live (m : PoolMgr F) (s : ActivePoolData) (p : ℕ) : Prop :=
  ∀ mother, m.IsChild p mother → s.isActiveObject .pool p = true

/-- **What is spawned is counted**, in the pools without quests, and every pool with spawned
members can have them. -/
structure Counted (m : PoolMgr F) (s : ActivePoolData) : Prop where
  count : ∀ p, m.members .quest p = [] →
    (s.getActiveObjectCount p).toNat = m.activeMembers s p
  enclosed : ∀ kind, kind ≠ .quest → ∀ p, ∀ guid ∈ m.members kind p,
    s.isActiveObject kind guid = true → m.Live s p

/-- The same members of a pool are spawned. -/
def SameAt (m : PoolMgr F) (p : ℕ) (s s' : ActivePoolData) : Prop :=
  ∀ kind, kind ≠ .quest → ∀ guid ∈ m.members kind p,
    s'.isActiveObject kind guid = s.isActiveObject kind guid

/-- One more member of a pool is spawned. -/
structure OneMore (m : PoolMgr F) (p : ℕ) (kind : PoolKind) (guid : ℕ) (s s' : ActivePoolData) :
    Prop where
  before : s.isActiveObject kind guid = false
  after : s'.isActiveObject kind guid = true
  others : ∀ kind', kind' ≠ .quest → ∀ x ∈ m.members kind' p, ¬ (kind' = kind ∧ x = guid) →
    s'.isActiveObject kind' x = s.isActiveObject kind' x

theorem SameAt.activeMembers_eq {m : PoolMgr F} {p : ℕ} {s s' : ActivePoolData}
    (h : m.SameAt p s s') : m.activeMembers s' p = m.activeMembers s p := by
  have hof : ∀ kind, kind ≠ .quest → m.activeOf kind s' p = m.activeOf kind s p :=
    fun kind hkind => List.countP_congr fun x hx => by rw [h kind hkind x (List.mem_dedup.mp hx)]
  rw [activeMembers, activeMembers, hof _ (by decide), hof _ (by decide), hof _ (by decide)]

theorem countP_eq_add_one {l : List ℕ} (hl : l.Nodup) {x : ℕ} (hx : x ∈ l) {P P' : ℕ → Bool}
    (hP : P x = false) (hP' : P' x = true) (h : ∀ y ∈ l, y ≠ x → P' y = P y) :
    l.countP P' = l.countP P + 1 := by
  have hperm := List.perm_cons_erase hx
  rw [hperm.countP_eq, hperm.countP_eq, List.countP_cons_of_pos hP',
    List.countP_cons_of_neg (by simp [hP])]
  refine congrArg (· + 1) (List.countP_congr fun y hy => ?_)
  have hmem := (hl.mem_erase_iff.mp hy)
  rw [h y hmem.2 hmem.1]

theorem OneMore.activeMembers_eq {m : PoolMgr F} {p : ℕ} {kind : PoolKind} {guid : ℕ}
    {s s' : ActivePoolData} (h : m.OneMore p kind guid s s') (hkind : kind ≠ .quest)
    (hg : guid ∈ m.members kind p) : m.activeMembers s' p = m.activeMembers s p + 1 := by
  have hsame : ∀ kind', kind' ≠ .quest → kind' ≠ kind → m.activeOf kind' s' p =
      m.activeOf kind' s p := fun kind' hkind' hne => List.countP_congr fun x hx => by
    rw [h.others kind' hkind' x (List.mem_dedup.mp hx) fun hx => hne hx.1]
  have hmore : m.activeOf kind s' p = m.activeOf kind s p + 1 :=
    countP_eq_add_one (List.nodup_dedup _) (List.mem_dedup.mpr hg) h.before h.after
      fun y hy hne => h.others kind hkind y (List.mem_dedup.mp hy) fun hy => hne hy.2
  have hcreature := hsame .creature (by decide)
  have hgameobject := hsame .gameobject (by decide)
  have hpool := hsame .pool (by decide)
  unfold activeMembers
  cases kind with
  | quest => exact absurd rfl hkind
  | creature => rw [hmore, hgameobject (by decide), hpool (by decide), add_right_comm _ 1,
      add_right_comm _ 1]
  | gameobject => rw [hmore, hcreature (by decide), hpool (by decide), ← add_assoc,
      add_right_comm _ 1]
  | pool => rw [hmore, hcreature (by decide), hgameobject (by decide), ← add_assoc]

/-! ## The two changes -/

section Changes

variable {m : PoolMgr F} {s s' : ActivePoolData} {kind : PoolKind} {guid p : ℕ}

theorem Live.mono (h : m.Live s p)
    (hs : s.isActiveObject .pool p = true → s'.isActiveObject .pool p = true) : m.Live s' p :=
  fun mother hmother => hs (h mother hmother)

theorem getActiveObjectCount_congr {r : ℕ}
    (h : s'.mSpawnedPools.find? r = s.mSpawnedPools.find? r) :
    s'.getActiveObjectCount r = s.getActiveObjectCount r := by
  rw [ActivePoolData.getActiveObjectCount, h]
  rfl

theorem isActiveObject_activate_member (hlive : m.Live s p) {kind' : PoolKind} {r x : ℕ}
    (hx : x ∈ m.members kind' r) :
    (s.activateObject kind guid p).isActiveObject kind' x = true ↔
      s.isActiveObject kind' x = true ∨ (kind' = kind ∧ x = guid) := by
  rw [ActivePoolData.isActiveObject_activate, ← or_assoc, or_iff_left_of_imp]
  rintro ⟨rfl, rfl⟩
  exact .inl (hlive r hx)

theorem isActiveObject_remove_member (hm : m.Configured) (hg : guid ∈ m.members kind p)
    (hlive : m.Live s p) {kind' : PoolKind} {r x : ℕ} (hx : x ∈ m.members kind' r) :
    (s.removeObject kind guid p).isActiveObject kind' x = true ↔
      s.isActiveObject kind' x = true ∧ ¬ (kind' = kind ∧ x = guid) := by
  rw [ActivePoolData.isActiveObject_remove, or_iff_left_of_imp]
  rintro ⟨rfl, rfl⟩
  refine ⟨hlive r hx, ?_⟩
  rintro ⟨rfl, rfl⟩
  exact hm.child_ne hg rfl

theorem oneMore_activate (hg : guid ∈ m.members kind p)
    (hin : s.isActiveObject kind guid = false) (hlive : m.Live s p) :
    m.OneMore p kind guid s (s.activateObject kind guid p) where
  before := hin
  after := (isActiveObject_activate_member hlive hg).mpr (.inr ⟨rfl, rfl⟩)
  others kind' hkind' x hx hne := by
    rw [Bool.eq_iff_iff, isActiveObject_activate_member hlive hx, or_iff_left hne]

theorem oneMore_remove (hm : m.Configured) (hg : guid ∈ m.members kind p)
    (hin : s.isActiveObject kind guid = true) (hlive : m.Live s p) :
    m.OneMore p kind guid (s.removeObject kind guid p) s where
  before := by
    rw [← Bool.not_eq_true, isActiveObject_remove_member hm hg hlive hg]
    exact fun h => h.2 ⟨rfl, rfl⟩
  after := hin
  others kind' hkind' x hx hne := by
    rw [Bool.eq_iff_iff, isActiveObject_remove_member hm hg hlive hx, and_iff_left hne]

theorem sameAt_activate (hm : m.Configured) (hg : guid ∈ m.members kind p) (hlive : m.Live s p)
    {r : ℕ} (hr : r ≠ p) : m.SameAt r s (s.activateObject kind guid p) :=
  fun kind' hkind' x hx => by
  rw [Bool.eq_iff_iff, isActiveObject_activate_member hlive hx, or_iff_left]
  rintro ⟨rfl, rfl⟩
  exact hr (hm.mother_unique hkind' hx hg)

theorem sameAt_remove (hm : m.Configured) (hg : guid ∈ m.members kind p) (hlive : m.Live s p)
    {r : ℕ} (hr : r ≠ p) : m.SameAt r s (s.removeObject kind guid p) := fun kind' hkind' x hx => by
  rw [Bool.eq_iff_iff, isActiveObject_remove_member hm hg hlive hx, and_iff_left]
  rintro ⟨rfl, rfl⟩
  exact hr (hm.mother_unique hkind' hx hg)

theorem Counted.activate (hm : m.Configured) (h : m.Counted s) (hkind : kind ≠ .quest)
    (hg : guid ∈ m.members kind p) (hin : s.isActiveObject kind guid = false)
    (hlive : m.Live s p)
    (hroom : m.members .quest p = [] → (s.getActiveObjectCount p).toNat < 2 ^ 31) :
    m.Counted (s.activateObject kind guid p) := by
  have hne := hm.ne_of_member hg
  refine ⟨fun r hr => ?_, fun kind' hkind' r x hx hact => ?_⟩
  · by_cases hrp : r = p
    · subst hrp
      have hcount : (s.activateObject kind guid r).getActiveObjectCount r =
          s.getActiveObjectCount r + 1 := by
        rw [ActivePoolData.getActiveObjectCount, s.find?_activate r hne, if_pos rfl]
        rfl
      rw [hcount, (oneMore_activate hg hin hlive).activeMembers_eq hkind hg, ← h.count r hr,
        BitVec.toNat_add]
      exact Nat.mod_eq_of_lt (Nat.lt_of_le_of_lt (Nat.succ_le_of_lt (hroom hr)) (by decide))
    · rw [(sameAt_activate hm hg hlive hrp).activeMembers_eq, ← h.count r hr]
      by_cases hrg : kind = .pool ∧ r = guid
      · -- The pool that is activated had no counter, and gets one at zero.
        obtain ⟨rfl, rfl⟩ := hrg
        rw [s.getActiveObjectCount_of_not_active r hin, ActivePoolData.getActiveObjectCount,
          s.find?_activate r hne, if_neg hrp, if_pos ⟨rfl, rfl⟩]
        rfl
      · refine congrArg BitVec.toNat (getActiveObjectCount_congr ?_)
        rw [s.find?_activate r hne, if_neg hrp, if_neg hrg]
  · have hgrow : ∀ q, s.isActiveObject .pool q = true →
        (s.activateObject kind guid p).isActiveObject .pool q = true := fun q hq =>
      (s.isActiveObject_activate _ _ _ _ _).mpr (.inl hq)
    rcases (isActiveObject_activate_member hlive hx).mp hact with hact | ⟨rfl, rfl⟩
    · exact (h.enclosed kind' hkind' r x hx hact).mono (hgrow r)
    · rw [hm.mother_unique hkind hx hg]
      exact hlive.mono (hgrow p)

/-- **A removal** of a spawned member; a pool among them has no spawned members itself. -/
theorem Counted.remove (hm : m.Configured) (h : m.Counted s) (hkind : kind ≠ .quest)
    (hg : guid ∈ m.members kind p) (hin : s.isActiveObject kind guid = true)
    (hempty : kind = .pool → ∀ kind', kind' ≠ .quest → ∀ x ∈ m.members kind' guid,
      s.isActiveObject kind' x = false) : m.Counted (s.removeObject kind guid p) := by
  have hne := hm.ne_of_member hg
  have hlive := h.enclosed kind hkind p guid hg hin
  refine ⟨fun r hr => ?_, fun kind' hkind' r x hx hact => ?_⟩
  · by_cases hrp : r = p
    · subst hrp
      have hone := (oneMore_remove hm hg hin hlive).activeMembers_eq hkind hg
      have hpos : (1 : BitVec 32) ≤ s.getActiveObjectCount r := by
        rw [BitVec.le_def, h.count r hr, hone]
        exact Nat.le_add_left 1 _
      have hcount : (s.removeObject kind guid r).getActiveObjectCount r =
          s.getActiveObjectCount r - 1 := by
        rw [ActivePoolData.getActiveObjectCount, s.find?_remove r hne, if_pos rfl,
          if_pos (BitVec.lt_def.mpr (lt_of_lt_of_le (by decide) (BitVec.le_def.mp hpos)))]
        rfl
      rw [← h.count r hr] at hone
      rw [hcount, BitVec.toNat_sub_of_le hpos, hone]
      rfl
    · have hsame := (sameAt_remove hm hg hlive hrp).activeMembers_eq
      rw [hsame]
      by_cases hrg : kind = .pool ∧ r = guid
      · obtain ⟨rfl, rfl⟩ := hrg
        have hzero : ∀ kind', kind' ≠ .quest → m.activeOf kind' s r = 0 := fun kind' hkind' =>
          List.countP_eq_zero.mpr fun x hx => by
            rw [hempty rfl kind' hkind' x (List.mem_dedup.mp hx)]
            decide
        rw [activeMembers, hzero _ (by decide), hzero _ (by decide), hzero _ (by decide),
          ActivePoolData.getActiveObjectCount, s.find?_remove r hne, if_neg hrp, if_pos ⟨rfl, rfl⟩]
        rfl
      · rw [← h.count r hr]
        refine congrArg BitVec.toNat (getActiveObjectCount_congr ?_)
        rw [s.find?_remove r hne, if_neg hrp, if_neg hrg]
  · have hwas := (isActiveObject_remove_member hm hg hlive hx).mp hact
    refine (h.enclosed kind' hkind' r x hx hwas.1).mono fun hr => ?_
    refine (s.isActiveObject_remove _ _ _ _ _).mpr (.inl ⟨hr, ?_⟩)
    rintro ⟨rfl, rfl⟩
    exact Bool.false_ne_true ((hempty rfl kind' hkind' x hx).symm.trans hwas.1)

end Changes

/-! ## What is left as it was -/

/-- **Only a pool and the pools below it have changed**, with their objects; the pool itself is
still spawned if it was. -/
structure Confined (m : PoolMgr F) (q : ℕ) (s s' : ActivePoolData) : Prop where
  pools : ∀ r, ¬ m.Below r q → s'.mSpawnedPools.find? r = s.mSpawnedPools.find? r
  objects : ∀ kind, kind ≠ .quest → kind ≠ .pool → ∀ r, ¬ m.Below r q →
    ∀ guid ∈ m.members kind r, s'.isActiveObject kind guid = s.isActiveObject kind guid
  spawned : s.isActiveObject .pool q = true → s'.isActiveObject .pool q = true

namespace Confined

variable {m : PoolMgr F} {p q : ℕ} {s s' s'' : ActivePoolData} {kind : PoolKind} {guid : ℕ}

theorem refl (m : PoolMgr F) (q : ℕ) (s : ActivePoolData) : m.Confined q s s :=
  ⟨fun _ _ => rfl, fun _ _ _ _ _ _ _ => rfl, id⟩

theorem trans (h : m.Confined q s s') (h' : m.Confined q s' s'') : m.Confined q s s'' where
  pools r hr := (h'.pools r hr).trans (h.pools r hr)
  objects kind hkind hpool r hr guid hg :=
    (h'.objects kind hkind hpool r hr guid hg).trans (h.objects kind hkind hpool r hr guid hg)
  spawned := h'.spawned ∘ h.spawned

theorem live (h : m.Confined q s s') (hlive : m.Live s q) : m.Live s' q := hlive.mono h.spawned

theorem of_child (hm : m.Configured) (hq : m.IsChild q p) (h : m.Confined q s s') :
    m.Confined p s s' where
  pools r hr := h.pools r fun hrq => hr (hrq.tail hq)
  objects kind hkind hpool r hr guid hg :=
    h.objects kind hkind hpool r (fun hrq => hr (hrq.tail hq)) guid hg
  spawned hp := by
    rwa [ActivePoolData.isActiveObject_pool, OrderedMap.contains,
      h.pools p (hm.not_below_child hq)]

theorem isActiveObject_eq (hm : m.Configured) (h : m.Confined q s s') (hkind : kind ≠ .quest)
    (hp : ¬ m.Below p q) (hg : guid ∈ m.members kind p) (hne : kind = .pool → guid ≠ q) :
    s'.isActiveObject kind guid = s.isActiveObject kind guid := by
  by_cases hpool : kind = .pool
  · subst hpool
    have hbelow : ¬ m.Below guid q := fun hgq => hp (hm.below_mother hgq (hne rfl) hg)
    rw [ActivePoolData.isActiveObject_pool, OrderedMap.contains, h.pools guid hbelow]
    rfl
  · exact h.objects kind hkind hpool p hp guid hg

theorem getActiveObjectCount_eq (h : m.Confined q s s') (hp : ¬ m.Below p q) :
    s'.getActiveObjectCount p = s.getActiveObjectCount p :=
  getActiveObjectCount_congr (h.pools p hp)

theorem activate (hm : m.Configured) (hkind : kind ≠ .quest) (hg : guid ∈ m.members kind p)
    (hlive : m.Live s p) : m.Confined p s (s.activateObject kind guid p) where
  pools r hr := by
    have hrp : r ≠ p := fun h => hr (h ▸ .refl)
    have hrg : ¬ (kind = .pool ∧ r = guid) := by
      rintro ⟨rfl, rfl⟩
      exact hr (.single hg)
    rw [s.find?_activate r (hm.ne_of_member hg), if_neg hrp, if_neg hrg]
  objects kind' hkind' _ r hr x hx :=
    sameAt_activate hm hg hlive (fun h => hr (h ▸ .refl)) kind' hkind' x hx
  spawned hp := (s.isActiveObject_activate _ _ _ _ _).mpr (.inl hp)

theorem remove (hm : m.Configured) (hg : guid ∈ m.members kind p) (hlive : m.Live s p) :
    m.Confined p s (s.removeObject kind guid p) where
  pools r hr := by
    have hrp : r ≠ p := fun h => hr (h ▸ .refl)
    have hrg : ¬ (kind = .pool ∧ r = guid) := by
      rintro ⟨rfl, rfl⟩
      exact hr (.single hg)
    rw [s.find?_remove r (hm.ne_of_member hg), if_neg hrp, if_neg hrg]
  objects kind' hkind' _ r hr x hx :=
    sameAt_remove hm hg hlive (fun h => hr (h ▸ .refl)) kind' hkind' x hx
  spawned _ := (s.isActiveObject_remove _ _ _ _ _).mpr (.inr ⟨rfl, rfl⟩)

end Confined

/-- **Only the quests of a pool have changed**, and its counter. -/
structure QuestsOnly (p : ℕ) (s s' : ActivePoolData) : Prop where
  creatures : s'.mSpawnedCreatures = s.mSpawnedCreatures
  gameobjects : s'.mSpawnedGameobjects = s.mSpawnedGameobjects
  pools : ∀ r, r ≠ p → s'.mSpawnedPools.find? r = s.mSpawnedPools.find? r
  spawned : s.isActiveObject .pool p = true → s'.isActiveObject .pool p = true

namespace QuestsOnly

variable {m : PoolMgr F} {p : ℕ} {s s' s'' : ActivePoolData}

theorem refl (p : ℕ) (s : ActivePoolData) : QuestsOnly p s s := ⟨rfl, rfl, fun _ _ => rfl, id⟩

theorem trans (h : QuestsOnly p s s') (h' : QuestsOnly p s' s'') : QuestsOnly p s s'' :=
  ⟨h'.creatures.trans h.creatures, h'.gameobjects.trans h.gameobjects,
    fun r hr => (h'.pools r hr).trans (h.pools r hr), h'.spawned ∘ h.spawned⟩

theorem activate (s : ActivePoolData) (quest p : ℕ) :
    QuestsOnly p s (s.activateObject .quest quest p) :=
  have hne : PoolKind.quest = .pool → quest ≠ p := by simp
  ⟨rfl, rfl, fun r hr => by rw [s.find?_activate r hne, if_neg hr]; simp,
    fun h => (s.isActiveObject_activate _ _ _ _ _).mpr (.inl h)⟩

theorem remove (s : ActivePoolData) (quest p : ℕ) :
    QuestsOnly p s (s.removeObject .quest quest p) :=
  have hne : PoolKind.quest = .pool → quest ≠ p := by simp
  ⟨rfl, rfl, fun r hr => by rw [s.find?_remove r hne, if_neg hr]; simp,
    fun _ => (s.isActiveObject_remove _ _ _ _ _).mpr (.inr ⟨rfl, rfl⟩)⟩

theorem confined (h : QuestsOnly p s s') : m.Confined p s s' where
  pools r hr := h.pools r fun hrp => hr (hrp ▸ .refl)
  objects kind hkind hpool r _ guid _ := by
    cases kind with
    | creature => simp [ActivePoolData.isActiveObject, h.creatures]
    | gameobject => simp [ActivePoolData.isActiveObject, h.gameobjects]
    | pool => exact absurd rfl hpool
    | quest => exact absurd rfl hkind
  spawned := h.spawned

theorem isActiveObject_eq (h : QuestsOnly p s s') (hlive : m.Live s p) {kind : PoolKind}
    (hkind : kind ≠ .quest) {r guid : ℕ} (hg : guid ∈ m.members kind r) :
    s'.isActiveObject kind guid = s.isActiveObject kind guid := by
  cases kind with
  | creature => simp [ActivePoolData.isActiveObject, h.creatures]
  | gameobject => simp [ActivePoolData.isActiveObject, h.gameobjects]
  | quest => exact absurd rfl hkind
  | pool =>
    by_cases hp : guid = p
    · subst hp
      rw [hlive r hg, h.spawned (hlive r hg)]
    · rw [ActivePoolData.isActiveObject_pool, OrderedMap.contains, h.pools guid hp]
      rfl

theorem counted (h : QuestsOnly p s s') (hs : m.Counted s) (hlive : m.Live s p)
    (hp : m.members .quest p ≠ []) : m.Counted s' where
  count r hr := by
    have hsame : m.SameAt r s s' := fun kind hkind guid hg => h.isActiveObject_eq hlive hkind hg
    rw [hsame.activeMembers_eq, ← hs.count r hr]
    exact congrArg BitVec.toNat
      (getActiveObjectCount_congr (h.pools r fun hrp => hp (hrp ▸ hr)))
  enclosed kind hkind r guid hg hact := by
    rw [h.isActiveObject_eq hlive hkind hg] at hact
    exact fun mother hmother =>
      (h.isActiveObject_eq hlive (by decide) hmother).trans
        (hs.enclosed kind hkind r guid hg hact mother hmother)

end QuestsOnly

end PoolMgr

end TeraCore
