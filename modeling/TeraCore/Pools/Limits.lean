import TeraCore.Pools.Members
import TeraCore.Commons.Run

/-!
# Pools: spawn limits

However the rolls fall, the counter of a pool without quests is the number of its spawned
creatures, gameobjects and pools, and not above its limit, after every sequence of spawns and
despawns of pools that are members of none and of updates for spawned objects.

The counter of a pool with quests counts them too, and quests are activated whatever it says.

## Main results

* `PoolMgr.despawnPoolTo_spec`, `PoolMgr.spawnPoolTo_spec`: the two recursions
* `PoolMgr.limited_step`: one operation
-/

namespace TeraCore

open Commons Relation

namespace PoolMgr

variable {F : Type*} {m : PoolMgr F}

/-! ## Despawning -/

/-- **A despawn** at a pool: fewer members are spawned, there and below it. -/
structure Despawned (m : PoolMgr F) (q : ℕ) (s s' : ActivePoolData) : Prop where
  counted : m.Counted s'
  confined : m.Confined q s s'
  fewer : ∀ kind, kind ≠ .quest → ∀ p, ∀ guid ∈ m.members kind p,
    s'.isActiveObject kind guid = true → s.isActiveObject kind guid = true

variable {q p : ℕ} {s s' : ActivePoolData}

theorem Despawned.refl (hs : m.Counted s) : m.Despawned q s s :=
  ⟨hs, .refl m q s, fun _ _ _ _ _ => id⟩

theorem Despawned.trans {s'' : ActivePoolData} (h : m.Despawned q s s')
    (h' : m.Despawned q s' s'') : m.Despawned q s s'' :=
  ⟨h'.counted, h.confined.trans h'.confined, fun kind hkind p guid hg hact =>
    h.fewer kind hkind p guid hg (h'.fewer kind hkind p guid hg hact)⟩

/-- No member of a pool is spawned. -/
def NoneActive (m : PoolMgr F) (p : ℕ) (s : ActivePoolData) : Prop :=
  ∀ kind, kind ≠ .quest → ∀ guid ∈ m.members kind p, s.isActiveObject kind guid = false

/-- A member of a pool is ready to be removed: what is spawned in it is despawned. -/
structure Cleared (m : PoolMgr F) (p : ℕ) (kind : PoolKind) (guid : ℕ) (s s' : ActivePoolData) :
    Prop where
  despawned : m.Despawned p s s'
  same : m.SameAt p s s'
  empty : kind = .pool → m.NoneActive guid s'

/-- What `despawnObject` relies on: its callback clears the spawned members. -/
def Clears (m : PoolMgr F) (despawn1Object : ℕ → PoolWorld F → Option (PoolWorld F))
    (kind : PoolKind) (p : ℕ) : Prop :=
  ∀ guid ∈ m.members kind p, ∀ w : PoolWorld F, m.Counted w.mSpawnedData →
    w.mSpawnedData.isActiveObject kind guid = true →
    ∃ w', despawn1Object guid w = some w' ∧
      m.Cleared p kind guid w.mSpawnedData w'.mSpawnedData

section Despawn

variable {kind : PoolKind}

theorem Cleared.remove (hm : m.Configured) (hkind : kind ≠ .quest) {guid : ℕ}
    (hg : guid ∈ m.members kind p) {s s' : ActivePoolData} (h : m.Cleared p kind guid s s')
    (hact : s.isActiveObject kind guid = true) :
    m.Despawned p s (s'.removeObject kind guid p) ∧
      ∀ kind', kind' ≠ .quest → ∀ x ∈ m.members kind' p,
        ((s'.removeObject kind guid p).isActiveObject kind' x = true ↔
          s.isActiveObject kind' x = true ∧ ¬ (kind' = kind ∧ x = guid)) := by
  have hact' : s'.isActiveObject kind guid = true := (h.same kind hkind guid hg).trans hact
  have hlive : m.Live s' p := h.despawned.counted.enclosed kind hkind p guid hg hact'
  refine ⟨h.despawned.trans ⟨?_, .remove hm hg hlive, fun kind' _ r x hx hx' => ?_⟩,
    fun kind' hkind' x hx => ?_⟩
  · exact h.despawned.counted.remove hm hkind hg hact' h.empty
  · exact ((isActiveObject_remove_member hm hg hlive hx).mp hx').1
  · rw [isActiveObject_remove_member hm hg hlive hx, h.same kind' hkind' x hx]

variable (despawn1Object : ℕ → PoolWorld F → Option (PoolWorld F))

theorem despawnObjects_spec (hm : m.Configured) (hkind : kind ≠ .quest)
    (hclears : m.Clears despawn1Object kind p) (guid : ℕ) (objs : List (PoolObject F))
    (hobjs : ∀ obj ∈ objs, obj.guid ∈ m.members kind p) (w : PoolWorld F)
    (hw : m.Counted w.mSpawnedData) :
    ∃ w', objs.foldlM (fun w obj =>
        if w.mSpawnedData.isActiveObject kind obj.guid ∧ (guid = 0 ∨ obj.guid = guid) then
          (despawn1Object obj.guid w).map fun w => w.remove kind obj.guid p
        else some w) w = some w' ∧
      m.Despawned p w.mSpawnedData w'.mSpawnedData ∧
      ∀ kind', kind' ≠ .quest → ∀ x ∈ m.members kind' p,
        (w'.mSpawnedData.isActiveObject kind' x = true ↔
          w.mSpawnedData.isActiveObject kind' x = true ∧
            ¬ (kind' = kind ∧ x ∈ objs.map PoolObject.guid ∧ (guid = 0 ∨ x = guid))) := by
  induction objs generalizing w with
  | nil => exact ⟨w, rfl, .refl hw, by simp⟩
  | cons obj objs ih =>
    have hobj := hobjs obj List.mem_cons_self
    have hrest : ∀ o ∈ objs, o.guid ∈ m.members kind p := fun o ho =>
      hobjs o (List.mem_cons_of_mem _ ho)
    rw [List.foldlM_cons]
    by_cases hsel : w.mSpawnedData.isActiveObject kind obj.guid = true ∧
        (guid = 0 ∨ obj.guid = guid)
    · obtain ⟨w₁, hw₁, hcleared⟩ := hclears obj.guid hobj w hw hsel.1
      obtain ⟨hdes, hact⟩ := hcleared.remove hm hkind hobj hsel.1
      obtain ⟨w', hw', hdes', hact'⟩ := ih hrest (w₁.remove kind obj.guid p) hdes.counted
      refine ⟨w', by rw [if_pos hsel, hw₁]; exact hw', hdes.trans hdes',
        fun kind' hkind' x hx => ?_⟩
      rw [hact' kind' hkind' x hx, PoolWorld.remove, hact kind' hkind' x hx, List.map_cons,
        List.mem_cons]
      have hx' : x = obj.guid → guid = 0 ∨ x = guid := by
        rintro rfl
        exact hsel.2
      constructor
      · rintro ⟨⟨hin, hother⟩, hrest⟩
        refine ⟨hin, ?_⟩
        rintro ⟨hk, heq | hmem, hguid⟩
        · exact hother ⟨hk, heq⟩
        · exact hrest ⟨hk, hmem, hguid⟩
      · rintro ⟨hin, hnot⟩
        exact ⟨⟨hin, fun h => hnot ⟨h.1, .inl h.2, hx' h.2⟩⟩,
          fun h => hnot ⟨h.1, .inr h.2.1, h.2.2⟩⟩
    · obtain ⟨w', hw', hdes, hact⟩ := ih hrest w hw
      refine ⟨w', by rw [if_neg hsel]; exact hw', hdes, fun kind' hkind' x hx => ?_⟩
      rw [hact kind' hkind' x hx, List.map_cons, List.mem_cons]
      refine and_congr_right fun hin => not_congr (and_congr_right fun hk => ?_)
      subst hk
      have hx' : x = obj.guid → ¬ (guid = 0 ∨ x = guid) := by
        rintro rfl
        exact fun h => hsel ⟨hin, h⟩
      tauto

theorem mem_members_of_mem_objects {obj : PoolObject F} (h : obj ∈ (m.groups kind p).objects) :
    obj.guid ∈ m.members kind p := List.mem_map_of_mem h

/-- **`despawnObject`**: the selected members are no longer spawned, and the others as before. -/
theorem despawnObject_spec (hm : m.Configured) (hkind : kind ≠ .quest)
    (hclears : m.Clears despawn1Object kind p) (guid : ℕ) (w : PoolWorld F)
    (hw : m.Counted w.mSpawnedData) :
    ∃ w', (m.groups kind p).despawnObject despawn1Object kind guid w = some w' ∧
      m.Despawned p w.mSpawnedData w'.mSpawnedData ∧
      ∀ kind', kind' ≠ .quest → ∀ x ∈ m.members kind' p,
        (w'.mSpawnedData.isActiveObject kind' x = true ↔
          w.mSpawnedData.isActiveObject kind' x = true ∧
            ¬ (kind' = kind ∧ (guid = 0 ∨ x = guid))) := by
  by_cases hnil : m.members kind p = []
  · refine ⟨w, ?_, .refl hw, fun kind' hkind' x hx => ?_⟩
    · rw [PoolGroup.despawnObject, List.map_eq_nil_iff.mp hnil]
      rfl
    · rw [iff_self_and]
      rintro - ⟨rfl, -⟩
      exact List.not_mem_nil (hnil ▸ hx)
  · obtain ⟨w', hw', hdes, hact⟩ := despawnObjects_spec despawn1Object hm hkind hclears guid
      (m.groups kind p).objects (fun obj => mem_members_of_mem_objects) w hw
    refine ⟨w', ?_, hdes, fun kind' hkind' x hx => ?_⟩
    · rw [PoolGroup.despawnObject, hm.group kind p hnil]
      exact hw'
    · rw [hact kind' hkind' x hx]
      refine and_congr_right fun _ => not_congr (and_congr_right fun hk => and_iff_right ?_)
      subst hk
      exact hx

/-- The quests of a pool are removed without their mother or its other members. -/
theorem despawnObject_quests (hm : m.Configured) (w : PoolWorld F) :
    ∃ w', (m.groups .quest p).despawnObject (fun _ => some) .quest 0 w = some w' ∧
      QuestsOnly p w.mSpawnedData w'.mSpawnedData := by
  by_cases hnil : m.members .quest p = []
  · refine ⟨w, ?_, .refl p _⟩
    rw [PoolGroup.despawnObject, List.map_eq_nil_iff.mp hnil]
    rfl
  rw [PoolGroup.despawnObject, hm.group .quest p hnil]
  induction (m.groups .quest p).objects generalizing w with
  | nil => exact ⟨w, rfl, .refl p _⟩
  | cons obj objs ih =>
    rw [List.foldlM_cons]
    split
    · obtain ⟨w', hw', hquests⟩ := ih (w.remove .quest obj.guid p)
      exact ⟨w', hw', .trans (.remove _ _ _) hquests⟩
    · exact ih w

end Despawn

section DespawnGroup

variable (despawnPool : ℕ → PoolWorld F → Option (PoolWorld F))

/-- What the recursion into the members of a pool does. -/
def DespawnsChildren (m : PoolMgr F) (p : ℕ) : Prop :=
  ∀ c, m.IsChild c p → ∀ w : PoolWorld F, m.Counted w.mSpawnedData → m.Live w.mSpawnedData c →
    ∃ w', despawnPool c w = some w' ∧ m.Despawned c w.mSpawnedData w'.mSpawnedData ∧
      m.NoneActive c w'.mSpawnedData

theorem clears_despawn1Object (hm : m.Configured) {kind : PoolKind} (hkind : kind ≠ .quest)
    (hrec : m.DespawnsChildren despawnPool p) :
    m.Clears (despawn1Object despawnPool kind) kind p := by
  intro c hc w hw hact
  by_cases hpool : kind = .pool
  · subst hpool
    obtain ⟨w', hw', hdes, hnone⟩ := hrec c hc w hw fun _ _ => hact
    refine ⟨w', by rw [despawn1Object, if_pos rfl, hw'], ⟨⟨hdes.counted, ?_, hdes.fewer⟩,
      fun kind' hkind' x hx => ?_, fun _ => hnone⟩⟩
    · exact hdes.confined.of_child hm hc
    · by_cases hxc : kind' = .pool ∧ x = c
      · obtain ⟨rfl, rfl⟩ := hxc
        rw [hact, hdes.confined.spawned hact]
      · exact hdes.confined.isActiveObject_eq hm hkind' (hm.not_below_child hc) hx
          fun hk h => hxc ⟨hk, h⟩
  · exact ⟨w, by rw [despawn1Object, if_neg hpool], ⟨.refl hw, fun _ _ _ _ => rfl,
      fun h => absurd h hpool⟩⟩

theorem isEmpty_iff (m : PoolMgr F) (kind : PoolKind) (p : ℕ) :
    (m.groups kind p).isEmpty = true ↔ m.members kind p = [] := by
  simp [PoolGroup.isEmpty, members, PoolGroup.objects, and_comm]

theorem despawnGroup_spec (hm : m.Configured) (kind : PoolKind) (hkind : kind ≠ .quest)
    (hrec : m.DespawnsChildren despawnPool p) (w : PoolWorld F) (hw : m.Counted w.mSpawnedData) :
    ∃ w', m.despawnGroup despawnPool kind p w = some w' ∧
      m.Despawned p w.mSpawnedData w'.mSpawnedData ∧
      ∀ x ∈ m.members kind p, w'.mSpawnedData.isActiveObject kind x = false := by
  by_cases hempty : (m.groups kind p).isEmpty = true
  · refine ⟨w, by rw [despawnGroup, if_pos hempty], .refl hw, fun x hx => ?_⟩
    rw [(m.isEmpty_iff kind p).mp hempty] at hx
    exact absurd hx List.not_mem_nil
  · obtain ⟨w', hw', hdes, hact⟩ := despawnObject_spec _ hm hkind
      (clears_despawn1Object despawnPool hm hkind hrec) 0 w hw
    refine ⟨w', by rw [despawnGroup, if_neg hempty, hw'], hdes, fun x hx => ?_⟩
    rw [← Bool.not_eq_true, hact kind hkind x hx]
    exact fun h => h.2 ⟨rfl, .inl rfl⟩

theorem despawnGroup_quests (hm : m.Configured) (w : PoolWorld F)
    (hw : m.Counted w.mSpawnedData) (hlive : m.Live w.mSpawnedData p) :
    ∃ w', m.despawnGroup despawnPool .quest p w = some w' ∧
      m.Despawned p w.mSpawnedData w'.mSpawnedData := by
  by_cases hempty : (m.groups .quest p).isEmpty = true
  · exact ⟨w, by rw [despawnGroup, if_pos hempty], .refl hw⟩
  · have hcallback : despawn1Object despawnPool .quest = fun _ => some := by
      funext guid w
      rw [despawn1Object, if_neg (by decide)]
    obtain ⟨w', hw', hquests⟩ := despawnObject_quests (p := p) hm w
    refine ⟨w', by rw [despawnGroup, if_neg hempty, hcallback, hw'], ?_, hquests.confined,
      fun kind hkind r x hx hact => ?_⟩
    · exact hquests.counted hw hlive (mt (m.isEmpty_iff .quest p).mpr hempty)
    · rwa [hquests.isActiveObject_eq hlive hkind hx] at hact

end DespawnGroup

/-- **`DespawnPool`**: nothing is spawned in the pool afterwards. By induction on how deep the
recursion goes, which is not further than the pools are nested. -/
theorem despawnPoolTo_spec (hm : m.Configured) {depth : ℕ} (hdepth : m.depth p < depth)
    (w : PoolWorld F) (hw : m.Counted w.mSpawnedData) (hlive : m.Live w.mSpawnedData p) :
    ∃ w', m.despawnPoolTo depth p w = some w' ∧
      m.Despawned p w.mSpawnedData w'.mSpawnedData ∧ m.NoneActive p w'.mSpawnedData := by
  induction depth generalizing p w with
  | zero => exact absurd hdepth (Nat.not_lt_zero _)
  | succ depth ih =>
    have hrec : m.DespawnsChildren (m.despawnPoolTo depth) p := fun c hc w hw hlive =>
      ih (lt_of_lt_of_le (hm.depth_lt hc) (Nat.le_of_lt_succ hdepth)) w hw hlive
    obtain ⟨w₁, hw₁, hdes₁, hnone₁⟩ := despawnGroup_spec _ hm .creature (by decide)
      hrec w hw
    obtain ⟨w₂, hw₂, hdes₂, hnone₂⟩ := despawnGroup_spec _ hm .gameobject (by decide)
      hrec w₁ hdes₁.counted
    obtain ⟨w₃, hw₃, hdes₃, hnone₃⟩ := despawnGroup_spec _ hm .pool (by decide)
      hrec w₂ hdes₂.counted
    have hdes := (hdes₁.trans hdes₂).trans hdes₃
    obtain ⟨w', hw', hdes₄⟩ := despawnGroup_quests (m.despawnPoolTo depth) hm w₃ hdes.counted
      (hdes.confined.live hlive)
    refine ⟨w', ?_, hdes.trans hdes₄, fun kind hkind x hx => ?_⟩
    · simp only [despawnPoolTo, hw₁, hw₂, hw₃, hw', Option.bind_eq_bind, Option.bind_some]
    · rw [← Bool.not_eq_true]
      intro hact
      have hact₃ := hdes₄.fewer kind hkind p x hx hact
      have hact₂ := hdes₃.fewer kind hkind p x hx hact₃
      have hact₁ := hdes₂.fewer kind hkind p x hx hact₂
      cases kind with
      | creature => exact Bool.false_ne_true ((hnone₁ x hx).symm.trans hact₁)
      | gameobject => exact Bool.false_ne_true ((hnone₂ x hx).symm.trans hact₂)
      | pool => exact Bool.false_ne_true ((hnone₃ x hx).symm.trans hact₃)
      | quest => exact hkind rfl

/-! ## Spawning -/

variable (m p)

/-- The limit of a pool as a signed word; one that is negative stands for no member at all. -/
def ceiling : ℕ := (m.mPoolTemplate p).maxLimit.toInt.toNat

theorem ceiling_lt : m.ceiling p < 2 ^ 31 := by
  have h := BitVec.two_mul_toInt_lt (x := (m.mPoolTemplate p).maxLimit)
  rw [ceiling]
  omega

theorem ceiling_le_maxLimit : m.ceiling p ≤ (m.mPoolTemplate p).maxLimit.toNat := by
  rw [ceiling, BitVec.toInt_eq_toNat_cond]
  split <;> omega

variable {m p}

/-- **A spawn** at a pool: no counter goes above its limit, if it was not above it before. -/
structure Spawned (m : PoolMgr F) (q : ℕ) (s s' : ActivePoolData) : Prop where
  counted : m.Counted s'
  confined : m.Confined q s s'
  limited : ∀ r, m.members .quest r = [] →
    (s'.getActiveObjectCount r).toNat ≤ max (s.getActiveObjectCount r).toNat (m.ceiling r)

namespace Spawned

variable {s'' : ActivePoolData}

theorem refl (hs : m.Counted s) : m.Spawned q s s :=
  ⟨hs, .refl m q s, fun _ _ => le_max_left _ _⟩

theorem trans (h : m.Spawned q s s') (h' : m.Spawned q s' s'') : m.Spawned q s s'' :=
  ⟨h'.counted, h.confined.trans h'.confined, fun r hr =>
    (h'.limited r hr).trans (max_le (h.limited r hr) (le_max_right _ _))⟩

theorem of_child (hm : m.Configured) (hq : m.IsChild q p) (h : m.Spawned q s s') :
    m.Spawned p s s' :=
  ⟨h.counted, h.confined.of_child hm hq, h.limited⟩

theorem of_questsOnly (hs : m.Counted s) (h : QuestsOnly p s s') (hlive : m.Live s p)
    (hp : m.members .quest p ≠ []) : m.Spawned p s s' where
  counted := h.counted hs hlive hp
  confined := h.confined
  limited r hr := by
    rw [getActiveObjectCount_congr (h.pools r fun hrp => hp (hrp ▸ hr))]
    exact le_max_left _ _

end Spawned

theorem Despawned.count_le {r : ℕ} (hs : m.Counted s)
    (h : m.Despawned q s s') (hr : m.members .quest r = []) :
    (s'.getActiveObjectCount r).toNat ≤ (s.getActiveObjectCount r).toNat := by
  have hle : ∀ kind, kind ≠ .quest → m.activeOf kind s' r ≤ m.activeOf kind s r :=
    fun kind hkind => List.countP_mono_left
      fun x hx => h.fewer kind hkind r x (List.mem_dedup.mp hx)
  rw [h.counted.count r hr, hs.count r hr]
  exact Nat.add_le_add (Nat.add_le_add (hle _ (by decide)) (hle _ (by decide))) (hle _ (by decide))

/-- A member is filled: what is in it is spawned, and the other members stay. -/
structure Filled (m : PoolMgr F) (p : ℕ) (s s' : ActivePoolData) : Prop where
  spawned : m.Spawned p s s'
  same : m.SameAt p s s'
  count : s'.getActiveObjectCount p = s.getActiveObjectCount p

/-- What `spawnObject` relies on: its callback fills the members that have just been activated. -/
def Fills (m : PoolMgr F) (spawn1Object : ℕ → PoolWorld F → Option (PoolWorld F))
    (kind : PoolKind) (p : ℕ) : Prop :=
  ∀ guid ∈ m.members kind p, ∀ w : PoolWorld F, m.Counted w.mSpawnedData →
    w.mSpawnedData.isActiveObject kind guid = true →
    (kind = .pool → w.mSpawnedData.getActiveObjectCount guid = 0) →
    ∃ w', spawn1Object guid w = some w' ∧ m.Filled p w.mSpawnedData w'.mSpawnedData

/-- What there is room for, with one more member that is spawned and to be drawn again. -/
theorem room (limit count : BitVec 32) (h : count.toNat ≤ limit.toInt.toNat) (extra : ℕ)
    (hextra : extra ≤ 1) :
    count.toNat + ((limit - count).toInt + extra).toNat ≤ limit.toInt.toNat + extra := by
  have hsub := BitVec.toNat_sub limit count
  rw [BitVec.toInt_eq_toNat_cond] at h ⊢
  rw [BitVec.toInt_eq_toNat_cond]
  split_ifs at h ⊢ <;> omega

section Spawn

variable {kind : PoolKind} {spawn1Object : ℕ → PoolWorld F → Option (PoolWorld F)}

theorem activate_spec (hm : m.Configured) (hkind : kind ≠ .quest)
    (hfills : m.Fills spawn1Object kind p)
    {guid : ℕ} (hg : guid ∈ m.members kind p) (w : PoolWorld F) (hw : m.Counted w.mSpawnedData)
    (hlive : m.Live w.mSpawnedData p) (hin : w.mSpawnedData.isActiveObject kind guid = false)
    (hroom : m.members .quest p = [] →
      (w.mSpawnedData.getActiveObjectCount p).toNat ≤ m.ceiling p) :
    ∃ w', spawn1Object guid (w.activate kind guid p) = some w' ∧ m.Counted w'.mSpawnedData ∧
      m.Confined p w.mSpawnedData w'.mSpawnedData ∧
      m.OneMore p kind guid w.mSpawnedData w'.mSpawnedData ∧
      ∀ r, r ≠ p → m.members .quest r = [] →
        (w'.mSpawnedData.getActiveObjectCount r).toNat ≤
          max (w.mSpawnedData.getActiveObjectCount r).toNat (m.ceiling r) := by
  have hone := oneMore_activate hg hin hlive
  have hne := hm.ne_of_member hg
  have hcounted : m.Counted (w.activate kind guid p).mSpawnedData :=
    hw.activate hm hkind hg hin hlive fun hp => (hroom hp).trans_lt (m.ceiling_lt p)
  obtain ⟨w', hw', hfilled⟩ := hfills guid hg (w.activate kind guid p) hcounted hone.after
    fun hpool => by
      rw [PoolWorld.activate, ActivePoolData.getActiveObjectCount,
        ActivePoolData.find?_activate _ _ hne, if_neg (hne hpool), if_pos ⟨hpool, rfl⟩]
      rfl
  refine ⟨w', hw', hfilled.spawned.counted,
    (Confined.activate hm hkind hg hlive).trans hfilled.spawned.confined, ⟨hin, ?_, ?_⟩, ?_⟩
  · rw [hfilled.same kind hkind guid hg]
    exact hone.after
  · intro kind' hkind' x hx hxg
    rw [hfilled.same kind' hkind' x hx]
    exact hone.others kind' hkind' x hx hxg
  · intro r hrp hr
    refine (hfilled.spawned.limited r hr).trans (max_le_max_right _ ?_)
    rw [PoolWorld.activate, ActivePoolData.getActiveObjectCount,
      ActivePoolData.find?_activate _ _ hne, if_neg hrp]
    split
    · exact Nat.zero_le _
    · exact le_rfl

/-! ### Quests -/

theorem activateSaved_questsOnly (g : PoolGroup F) (quests : List ℕ) (limit : BitVec 32)
    (w : PoolWorld F) :
    QuestsOnly g.poolId w.mSpawnedData (g.activateSaved quests limit w).mSpawnedData := by
  induction quests generalizing limit w with
  | nil => exact .refl _ _
  | cons quest quests ih =>
    have hone : QuestsOnly g.poolId w.mSpawnedData
        (w.activate .quest quest g.poolId).mSpawnedData := .activate _ quest _
    rw [PoolGroup.activateSaved]
    split
    · exact hone
    · exact hone.trans (ih _ _)

theorem recycle_mSpawnedData (limit : BitVec 32) (turns : ℕ)
    (newQuests currentQuests : OrderedSet ℕ) (w : PoolWorld F) :
    (PoolGroup.recycle limit turns newQuests currentQuests w).2.mSpawnedData = w.mSpawnedData := by
  induction turns generalizing newQuests currentQuests w with
  | zero => rfl
  | succ turns ih =>
    rw [PoolGroup.recycle]
    split
    · exact ih _ _ _
    · rfl

theorem activateNew_questsOnly (g : PoolGroup F) (turns : ℕ) (limit : BitVec 32)
    (newQuests : OrderedSet ℕ) (w : PoolWorld F) :
    QuestsOnly g.poolId w.mSpawnedData (g.activateNew turns limit newQuests w).mSpawnedData := by
  induction turns generalizing limit newQuests w with
  | zero => exact .refl _ _
  | succ turns ih =>
    have hone : QuestsOnly g.poolId w.mSpawnedData
        (w.rolled.activate .quest (w.selectRandom newQuests) g.poolId).mSpawnedData :=
      .activate _ _ _
    rw [PoolGroup.activateNew]
    split
    · exact hone.trans (ih _ _ _)
    · exact hone

theorem activateChosen_questsOnly {g : PoolGroup F} (hpool : g.poolId = p) (limit : BitVec 32)
    (chosen : OrderedSet ℕ × PoolWorld F) {w : PoolWorld F}
    (hchosen : chosen.2.mSpawnedData = w.mSpawnedData) :
    QuestsOnly p w.mSpawnedData (if chosen.1.size = 0 then chosen.2
      else g.activateNew chosen.1.size limit chosen.1 chosen.2).mSpawnedData := by
  rw [← hchosen]
  split
  · exact .refl p _
  · exact hpool ▸ activateNew_questsOnly g chosen.1.size limit chosen.1 chosen.2

theorem spawnQuests_spec (hm : m.Configured) (hquests : m.members .quest p ≠ [])
    (limit : BitVec 32) (triggerFrom : ℕ) (w : PoolWorld F) :
    ∃ w', (m.groups .quest p).spawnQuests limit triggerFrom w = some w' ∧
      QuestsOnly p w.mSpawnedData w'.mSpawnedData := by
  have hpool := hm.group .quest p hquests
  rw [PoolGroup.spawnQuests]
  by_cases hsaved : triggerFrom = 0 ∧ (w.rolls 0).savedQuests ≠ []
  · rw [if_pos hsaved]
    have hquests := activateSaved_questsOnly (m.groups .quest p) (w.rolls 0).savedQuests limit
      w.rolled
    rw [hpool] at hquests
    exact ⟨_, rfl, hquests⟩
  rw [if_neg hsaved]
  have hdata : (if triggerFrom = 0 then w.rolled else w).mSpawnedData = w.mSpawnedData := by
    split <;> rfl
  dsimp only
  generalize (if triggerFrom = 0 then w.rolled else w) = v at hdata ⊢
  obtain ⟨w₁, hw₁, hdespawned⟩ := despawnObject_quests (p := p) hm v
  rw [hw₁, Option.map_some]
  rw [hdata] at hdespawned ⊢
  refine ⟨_, rfl, hdespawned.trans (activateChosen_questsOnly hpool limit _ ?_)⟩
  split
  · exact recycle_mSpawnedData limit _ _ _ w₁
  · rfl

/-- What the recursion into the members of a pool does, for one that has just been activated. -/
def SpawnsChildren (m : PoolMgr F) (spawnPool : ℕ → PoolWorld F → Option (PoolWorld F)) (p : ℕ) :
    Prop :=
  ∀ c, m.IsChild c p → ∀ w : PoolWorld F, m.Counted w.mSpawnedData → m.Live w.mSpawnedData c →
    w.mSpawnedData.getActiveObjectCount c = 0 →
    ∃ w', spawnPool c w = some w' ∧ m.Spawned c w.mSpawnedData w'.mSpawnedData

theorem fills_spawn1Object (hm : m.Configured)
    {spawnPool : ℕ → PoolWorld F → Option (PoolWorld F)} (hrec : m.SpawnsChildren spawnPool p) :
    m.Fills (if kind = .pool then spawnPool else fun _ => some) kind p := by
  intro c hc w hw hact hzero
  by_cases hpool : kind = .pool
  · subst hpool
    obtain ⟨w', hw', hspawned⟩ := hrec c hc w hw (fun _ _ => hact) (hzero rfl)
    refine ⟨w', by rw [if_pos rfl, hw'], hspawned.of_child hm hc, fun kind' hkind' x hx => ?_,
      hspawned.confined.getActiveObjectCount_eq (hm.not_below_child hc)⟩
    by_cases hxc : kind' = .pool ∧ x = c
    · obtain ⟨rfl, rfl⟩ := hxc
      rw [hact, hspawned.confined.spawned hact]
    · exact hspawned.confined.isActiveObject_eq hm hkind' (hm.not_below_child hc) hx
        fun hk h => hxc ⟨hk, h⟩
  · exact ⟨w, by rw [if_neg hpool], .refl hw, fun _ _ _ _ => rfl, rfl⟩

/-! ### The other members -/

variable [Sub F] [Zero F] [LT F] [DecidableLT F]

theorem rollExplicit_spec {s : ActivePoolData} {triggerFrom : ℕ} {roll : F}
    {objs : List (PoolObject F)} {obj : PoolObject F}
    (h : PoolGroup.rollExplicit s kind triggerFrom roll objs = some obj) :
    obj ∈ objs ∧ (obj.guid = triggerFrom ∨ s.isActiveObject kind obj.guid = false) := by
  induction objs generalizing roll with
  | nil => cases h
  | cons o objs ih =>
    rw [PoolGroup.rollExplicit] at h
    split at h
    · next hsel =>
      cases h
      exact ⟨List.mem_cons_self, hsel.2⟩
    · exact ⟨List.mem_cons_of_mem _ (ih h).1, (ih h).2⟩

theorem rollOne_spec {g : PoolGroup F} {s : ActivePoolData} {triggerFrom : ℕ} {roll : PoolRoll F}
    {obj : PoolObject F} (h : g.rollOne s kind triggerFrom roll = some obj) :
    obj ∈ g.objects ∧ (obj.guid = triggerFrom ∨ s.isActiveObject kind obj.guid = false) := by
  rw [PoolGroup.rollOne] at h
  split at h
  · next hexplicit =>
    cases h
    have hspec := rollExplicit_spec hexplicit
    exact ⟨List.mem_append_right _ hspec.1, hspec.2⟩
  · rw [PoolGroup.rollEqual] at h
    split at h
    · cases h
    · next hget =>
      split at h
      · next hsel =>
        cases h
        exact ⟨List.mem_append_left _ (List.mem_of_getElem? hget), hsel⟩
      · cases h

/-- **The turns of `spawnObject`**, by induction on them: with every turn that spawns a member
there is less room, and a triggering object that is not drawn makes room for the first of them. -/
theorem spawnTurns_spec (hm : m.Configured) (hkind : kind ≠ .quest)
    {despawn1Object : ℕ → PoolWorld F → Option (PoolWorld F)}
    (hfills : m.Fills spawn1Object kind p) (hclears : m.Clears despawn1Object kind p)
    (turns triggerFrom lastDespawned : ℕ) (w : PoolWorld F) (hw : m.Counted w.mSpawnedData)
    (hlive : m.Live w.mSpawnedData p) (htrigger : triggerFrom ≠ 0 → triggerFrom ∈ m.members kind p ∧
      w.mSpawnedData.isActiveObject kind triggerFrom = true)
    (hroom : m.members .quest p = [] →
      (w.mSpawnedData.getActiveObjectCount p).toNat ≤ m.ceiling p ∧
        (w.mSpawnedData.getActiveObjectCount p).toNat + turns ≤
          m.ceiling p + if triggerFrom ≠ 0 then 1 else 0) :
    ∃ w', (m.groups kind p).spawnTurns spawn1Object despawn1Object kind turns triggerFrom
        lastDespawned w = some w' ∧ m.Spawned p w.mSpawnedData w'.mSpawnedData := by
  induction turns generalizing triggerFrom lastDespawned w with
  | zero => exact ⟨w, rfl, .refl hw⟩
  | succ turns ih =>
    have hskip : m.members .quest p = [] →
        (w.mSpawnedData.getActiveObjectCount p).toNat ≤ m.ceiling p ∧
          (w.mSpawnedData.getActiveObjectCount p).toNat + turns ≤
            m.ceiling p + if triggerFrom ≠ 0 then 1 else 0 := fun hp =>
      ⟨(hroom hp).1, (Nat.le_succ _).trans (hroom hp).2⟩
    rw [PoolGroup.spawnTurns]
    split
    · exact ih triggerFrom lastDespawned w.rolled hw hlive htrigger hskip
    · next obj hroll =>
      obtain ⟨hobj, hdrawn⟩ := rollOne_spec hroll
      have hmem : obj.guid ∈ m.members kind p := List.mem_map_of_mem hobj
      have hpool : (m.groups kind p).poolId = p := hm.group kind p (List.ne_nil_of_mem hmem)
      by_cases hlast : obj.guid = lastDespawned
      · rw [if_pos hlast]
        exact ih triggerFrom lastDespawned w.rolled hw hlive htrigger hskip
      rw [if_neg hlast]
      by_cases hsame : obj.guid = triggerFrom
      · rw [if_pos hsame]
        refine ih 0 lastDespawned w.rolled hw hlive (fun h => absurd rfl h) fun hp => ?_
        have hle := (hroom hp).2
        have hextra : (if triggerFrom ≠ 0 then 1 else 0) ≤ 1 := by split <;> simp
        exact ⟨(hroom hp).1, Nat.le_of_succ_le_succ (hle.trans (Nat.add_le_add_left hextra _))⟩
      rw [if_neg hsame, hpool]
      have hin := hdrawn.resolve_left hsame
      obtain ⟨w₁, hw₁, hcounted, hconfined, hone, hothers⟩ := activate_spec hm hkind hfills hmem
        w.rolled hw hlive hin fun hp => (hroom hp).1
      rw [hw₁, Option.bind_some]
      have hcount : m.members .quest p = [] → (w₁.mSpawnedData.getActiveObjectCount p).toNat =
          (w.mSpawnedData.getActiveObjectCount p).toNat + 1 := fun hp => by
        rw [hcounted.count p hp, hw.count p hp, hone.activeMembers_eq hkind hmem]
        rfl
      by_cases htrig : triggerFrom ≠ 0
      · rw [if_pos htrig]
        obtain ⟨htmem, htact⟩ := htrigger htrig
        obtain ⟨w₂, hw₂, hdes, hact⟩ := despawnObject_spec despawn1Object hm hkind hclears
          triggerFrom w₁ hcounted
        -- The triggering object goes, so the counter is as it was before the turn.
        have hback : m.OneMore p kind triggerFrom w₂.mSpawnedData w₁.mSpawnedData := by
          refine ⟨?_, ?_, fun kind' hkind' x hx hne => ?_⟩
          · rw [← Bool.not_eq_true, hact kind hkind triggerFrom htmem]
            exact fun h => h.2 ⟨rfl, .inr rfl⟩
          · rw [hone.others kind hkind triggerFrom htmem fun h => hsame h.2.symm]
            exact htact
          · rw [Bool.eq_iff_iff, hact kind' hkind' x hx, and_iff_left]
            rintro ⟨hk, hzero | hx'⟩
            · exact htrig hzero
            · exact hne ⟨hk, hx'⟩
        have hcount' : m.members .quest p = [] → (w₂.mSpawnedData.getActiveObjectCount p).toNat =
            (w.mSpawnedData.getActiveObjectCount p).toNat := fun hp => by
          have hmore := hback.activeMembers_eq hkind htmem
          rw [← hcounted.count p hp, ← hdes.counted.count p hp, hcount hp] at hmore
          exact (Nat.succ.inj hmore).symm
        have hturn : m.Spawned p w.mSpawnedData w₂.mSpawnedData := by
          refine ⟨hdes.counted, hconfined.trans hdes.confined, fun r hr => ?_⟩
          by_cases hrp : r = p
          · subst hrp
            rw [hcount' hr]
            exact le_max_left _ _
          · exact (hdes.count_le hcounted hr).trans (hothers r hrp hr)
        obtain ⟨w', hw', hspawned⟩ := ih 0 triggerFrom w₂ hdes.counted
          (hturn.confined.live hlive) (fun h => absurd rfl h) fun hp => by
            have hle := (hroom hp).2
            rw [if_pos htrig] at hle
            rw [hcount' hp]
            exact ⟨(hroom hp).1, Nat.le_of_succ_le_succ hle⟩
        exact ⟨w', by rw [hw₂]; exact hw', hturn.trans hspawned⟩
      · rw [if_neg htrig]
        have hle : m.members .quest p = [] →
            (w.mSpawnedData.getActiveObjectCount p).toNat + (turns + 1) ≤ m.ceiling p :=
              fun hp => by
          have hle := (hroom hp).2
          rwa [if_neg htrig] at hle
        have hturn : m.Spawned p w.mSpawnedData w₁.mSpawnedData := by
          refine ⟨hcounted, hconfined, fun r hr => ?_⟩
          by_cases hrp : r = p
          · subst hrp
            rw [hcount hr]
            exact le_max_of_le_right ((Nat.add_le_add_left (Nat.le_add_left 1 turns) _).trans
              (hle hr))
          · exact hothers r hrp hr
        obtain ⟨w', hw', hspawned⟩ := ih 0 lastDespawned w₁ hcounted (hconfined.live hlive)
          (fun h => absurd rfl h) fun hp => by
            have hle := hle hp
            rw [hcount hp, if_neg (by simp)]
            omega
        exact ⟨w', hw', hturn.trans hspawned⟩

theorem spawnObject_spec (hm : m.Configured) (hkind : kind ≠ .quest)
    (hmembers : m.members kind p ≠ []) {despawn1Object : ℕ → PoolWorld F → Option (PoolWorld F)}
    (hfills : m.Fills spawn1Object kind p) (hclears : m.Clears despawn1Object kind p)
    (triggerFrom : ℕ) (w : PoolWorld F) (hw : m.Counted w.mSpawnedData)
    (hlive : m.Live w.mSpawnedData p) (htrigger : triggerFrom ≠ 0 → triggerFrom ∈ m.members kind p ∧
      w.mSpawnedData.isActiveObject kind triggerFrom = true)
    (hroom : m.members .quest p = [] →
      (w.mSpawnedData.getActiveObjectCount p).toNat ≤ m.ceiling p) :
    ∃ w', (m.groups kind p).spawnObject spawn1Object despawn1Object kind
        (m.mPoolTemplate p).maxLimit triggerFrom w = some w' ∧
      m.Spawned p w.mSpawnedData w'.mSpawnedData := by
  refine spawnTurns_spec hm hkind hfills hclears _ triggerFrom 0 w hw hlive htrigger fun hp =>
    ⟨hroom hp, ?_⟩
  rw [hm.group kind p hmembers]
  split_ifs
  · exact room _ _ (hroom hp) 1 le_rfl
  · have hle := room _ _ (hroom hp) 0 (Nat.zero_le 1)
    rwa [Int.natCast_zero, Int.add_zero] at hle

/-! ### The recursion -/

theorem spawnGroup_spec (hm : m.Configured) (kind : PoolKind)
    {spawnPool despawnPool : ℕ → PoolWorld F → Option (PoolWorld F)}
    (hspawn : m.SpawnsChildren spawnPool p) (hdespawn : m.DespawnsChildren despawnPool p)
    (triggerFrom : ℕ) (w : PoolWorld F) (hw : m.Counted w.mSpawnedData)
    (hlive : m.Live w.mSpawnedData p)
    (htrigger : triggerFrom ≠ 0 → triggerFrom ∈ m.members kind p ∧
      w.mSpawnedData.isActiveObject kind triggerFrom = true)
    (hroom : m.members .quest p = [] →
      (w.mSpawnedData.getActiveObjectCount p).toNat ≤ m.ceiling p) :
    ∃ w', m.spawnGroup spawnPool despawnPool kind p triggerFrom w = some w' ∧
      m.Spawned p w.mSpawnedData w'.mSpawnedData := by
  rw [spawnGroup]
  by_cases hempty : (m.groups kind p).isEmpty = true
  · exact ⟨w, by rw [if_pos hempty], .refl hw⟩
  have hmembers := mt (m.isEmpty_iff kind p).mpr hempty
  rw [if_neg hempty]
  by_cases hkind : kind = .quest
  · subst hkind
    obtain ⟨w', hw', hquests⟩ := spawnQuests_spec hm hmembers (m.mPoolTemplate p).maxLimit
      triggerFrom w
    exact ⟨w', by rw [if_pos rfl, hw'], .of_questsOnly hw hquests hlive hmembers⟩
  · rw [if_neg hkind]
    exact spawnObject_spec hm hkind hmembers (fills_spawn1Object hm hspawn)
      (clears_despawn1Object despawnPool hm hkind hdespawn) triggerFrom w hw hlive htrigger hroom

/-- **`SpawnPool`**, by induction on how deep the recursion goes. -/
theorem spawnPoolTo_spec (hm : m.Configured) {depth p : ℕ} (hdepth : m.depth p < depth)
    (w : PoolWorld F) (hw : m.Counted w.mSpawnedData) (hlive : m.Live w.mSpawnedData p)
    (hroom : m.members .quest p = [] →
      (w.mSpawnedData.getActiveObjectCount p).toNat ≤ m.ceiling p) :
    ∃ w', m.spawnPoolTo depth p w = some w' ∧ m.Spawned p w.mSpawnedData w'.mSpawnedData := by
  induction depth generalizing p w with
  | zero => exact absurd hdepth (Nat.not_lt_zero _)
  | succ depth ih =>
    have hle : ∀ c, m.IsChild c p → m.depth c < depth := fun c hc =>
      lt_of_lt_of_le (hm.depth_lt hc) (Nat.le_of_lt_succ hdepth)
    have hspawn : m.SpawnsChildren (m.spawnPoolTo depth) p := fun c hc w hw hlive hzero =>
      ih (hle c hc) w hw hlive fun _ => by rw [hzero]; exact Nat.zero_le _
    have hdespawn : m.DespawnsChildren (m.despawnPoolTo depth) p := fun c hc w hw hlive =>
      despawnPoolTo_spec hm (hle c hc) w hw hlive
    have hgroup := fun kind (w' : PoolWorld F)
        (h : m.Spawned p w.mSpawnedData w'.mSpawnedData) =>
      spawnGroup_spec hm kind hspawn hdespawn 0 w' h.counted (h.confined.live hlive)
        (fun h => absurd rfl h) fun hp => (h.limited p hp).trans (max_le (hroom hp) le_rfl)
    obtain ⟨w₁, hw₁, h₁⟩ := hgroup .pool w (.refl hw)
    obtain ⟨w₂, hw₂, h₂⟩ := hgroup .gameobject w₁ h₁
    obtain ⟨w₃, hw₃, h₃⟩ := hgroup .creature w₂ (h₁.trans h₂)
    obtain ⟨w', hw', h₄⟩ := hgroup .quest w₃ ((h₁.trans h₂).trans h₃)
    refine ⟨w', ?_, ((h₁.trans h₂).trans h₃).trans h₄⟩
    simp only [spawnPoolTo, hw₁, hw₂, hw₃, hw', Option.bind_eq_bind, Option.bind_some]

end Spawn

/-! ## Runs -/

/-- **What is spawned is counted, and no counter is above its limit.** -/
structure Limited (m : PoolMgr F) (s : ActivePoolData) : Prop where
  counted : m.Counted s
  limited : ∀ p, m.members .quest p = [] → (s.getActiveObjectCount p).toNat ≤ m.ceiling p

theorem limited_empty (m : PoolMgr F) : m.Limited ActivePoolData.empty := by
  have hnone : ∀ kind guid, ActivePoolData.empty.isActiveObject kind guid = false := by
    intro kind guid
    cases kind <;> simp [ActivePoolData.isActiveObject, ActivePoolData.empty, OrderedMap.contains]
  have hzero : ∀ p, ActivePoolData.empty.getActiveObjectCount p = 0 := fun p =>
    ActivePoolData.empty.getActiveObjectCount_of_not_active p (hnone .pool p)
  refine ⟨⟨fun p _ => ?_, fun kind _ p guid _ hact => ?_⟩, fun p _ => ?_⟩
  · have hof : ∀ kind, m.activeOf kind ActivePoolData.empty p = 0 := fun kind =>
      List.countP_eq_zero.mpr fun x _ => by simp [hnone]
    rw [hzero, activeMembers, hof, hof, hof]
    rfl
  · exact absurd ((hnone kind guid).symm.trans hact) (by decide)
  · rw [hzero]
    exact Nat.zero_le _

theorem Limited.of_spawned (hs : m.Limited s) (h : m.Spawned p s s') : m.Limited s' :=
  ⟨h.counted, fun r hr => (h.limited r hr).trans (max_le (hs.limited r hr) le_rfl)⟩

theorem Limited.of_despawned (hs : m.Limited s) (h : m.Despawned p s s') : m.Limited s' :=
  ⟨h.counted, fun r hr => (h.count_le hs.counted hr).trans (hs.limited r hr)⟩

/-- Tables whose pools have members of a larger number only have no pool below itself. -/
theorem acyclic_of_lt {m : PoolMgr F} (h : ∀ child mother, m.IsChild child mother → mother < child)
    (p : ℕ) : ¬ TransGen m.IsChild p p := by
  have hlt : ∀ q, TransGen m.IsChild q p → p < q := by
    intro q hq
    induction hq using TransGen.head_induction_on with
    | single hr => exact h _ _ hr
    | head hr _ ih => exact ih.trans (h _ _ hr)
  exact fun hp => lt_irrefl p (hlt p hp)

def Allowed (m : PoolMgr F) (w : Option (PoolWorld F)) : Op → Prop
  | .spawnPool poolId => m.mPoolSearchMap.find? poolId = none
  | .despawnPool poolId => m.mPoolSearchMap.find? poolId = none
  | .updatePool kind poolId guid => (kind = .creature ∨ kind = .gameobject) ∧
      (m.searchMap kind).find? guid = some poolId ∧
      (w.any fun w => w.mSpawnedData.isActiveObject kind guid) = true

instance (m : PoolMgr F) (w : Option (PoolWorld F)) : ∀ op, Decidable (m.Allowed w op)
  | .spawnPool _ => inferInstanceAs (Decidable (_ = _))
  | .despawnPool _ => inferInstanceAs (Decidable (_ = _))
  | .updatePool _ _ _ => inferInstanceAs (Decidable (_ ∧ _))

theorem live_of_root (hm : m.Configured) (hp : m.mPoolSearchMap.find? p = none)
    (s : ActivePoolData) : m.Live s p := fun mother hmother => by
  have h := (hm.search .pool (by decide) p mother).mpr hmother
  exact absurd (hp.symm.trans h) (by simp)

variable [Sub F] [Zero F] [LT F] [DecidableLT F]

theorem updatePool_spec (hm : m.Configured) {kind : PoolKind} (hkind : kind ≠ .quest)
    {guid : ℕ} (hp : (m.searchMap kind).find? guid = some p) (w : PoolWorld F)
    (hw : m.Limited w.mSpawnedData) (hact : w.mSpawnedData.isActiveObject kind guid = true) :
    ∃ w', m.updatePool kind p guid w = some w' ∧ m.Limited w'.mSpawnedData := by
  have hspawn : ∀ p, m.SpawnsChildren m.spawnPool p := fun p c _ w hw hlive hzero =>
    spawnPoolTo_spec hm (m.depth_lt_maxDepth c) w hw hlive fun _ => by
      rw [hzero]
      exact Nat.zero_le _
  have hdespawn : ∀ p, m.DespawnsChildren m.despawnPool p := fun p c _ w hw hlive =>
    despawnPoolTo_spec hm (m.depth_lt_maxDepth c) w hw hlive
  have hmem := (hm.search kind hkind guid p).mp hp
  have hlive := hw.counted.enclosed kind hkind p guid hmem hact
  rw [updatePool]
  by_cases hmother : m.isPartOfAPool .pool p ≠ 0
  · -- The object's pool is spawned, so its mother is live and draws for it.
    obtain ⟨mother, hfind⟩ : ∃ mother, m.mPoolSearchMap.find? p = some mother := by
      refine Option.ne_none_iff_exists'.mp fun hnone => hmother ?_
      rw [isPartOfAPool, searchMap, hnone]
      rfl
    have hchild : m.IsChild p mother := (hm.search .pool (by decide) p mother).mp hfind
    have hpart : m.isPartOfAPool .pool p = mother := by
      rw [isPartOfAPool, searchMap, hfind]
      rfl
    have hpact := hlive mother hchild
    rw [if_pos hmother, hpart]
    obtain ⟨w', hw', hspawned⟩ := spawnGroup_spec hm .pool (hspawn mother) (hdespawn mother) p w
      hw.counted (hw.counted.enclosed .pool (by decide) mother p hchild hpact)
      (fun _ => ⟨hchild, hpact⟩) (hw.limited mother)
    exact ⟨w', hw', hw.of_spawned hspawned⟩
  · rw [if_neg hmother]
    obtain ⟨w', hw', hspawned⟩ := spawnGroup_spec hm kind (hspawn p) (hdespawn p) guid w
      hw.counted hlive (fun _ => ⟨hmem, hact⟩) (hw.limited p)
    exact ⟨w', hw', hw.of_spawned hspawned⟩

/-- **One operation** returns, and keeps the counters right. -/
theorem limited_step (hm : m.Configured) {w : Option (PoolWorld F)} {op : Op}
    (hop : m.Allowed w op) (h : ∃ v, w = some v ∧ m.Limited v.mSpawnedData) :
    ∃ v, m.step w op = some v ∧ m.Limited v.mSpawnedData := by
  obtain ⟨w, rfl, hw⟩ := h
  cases op with
  | spawnPool p =>
    obtain ⟨w', hw', hspawned⟩ := spawnPoolTo_spec hm (m.depth_lt_maxDepth p) w hw.counted
      (live_of_root hm hop _) (hw.limited p)
    exact ⟨w', hw', hw.of_spawned hspawned⟩
  | despawnPool p =>
    obtain ⟨w', hw', hdespawned, -⟩ := despawnPoolTo_spec hm (m.depth_lt_maxDepth p) w hw.counted
      (live_of_root hm hop _)
    exact ⟨w', hw', hw.of_despawned hdespawned⟩
  | updatePool kind p guid =>
    obtain ⟨hkind, hp, hact⟩ := hop
    have hne : kind ≠ .quest := by
      rintro rfl
      exact hkind.elim (nomatch ·) (nomatch ·)
    exact updatePool_spec hm hne hp w hw hact

/-- What the server starts with: nothing is spawned. -/
def start (rolls : ℕ → PoolRoll F) : Option (PoolWorld F) := some ⟨ActivePoolData.empty, rolls⟩

/-- **Spawn limits**: after every run that returns from what it is asked, and it does, the counter
of a pool without quests is the number of its spawned creatures, gameobjects and pools, and not
above its limit. -/
theorem mSpawnedPools_eq_activeMembers (hm : m.Configured) (rolls : ℕ → PoolRoll F)
    {ops : List Op} (hops : Admissible m.step m.Allowed (start rolls) ops) :
    ∃ w, run m.step (start rolls) ops = some w ∧ ∀ p, m.members .quest p = [] →
      (w.mSpawnedData.getActiveObjectCount p).toNat = m.activeMembers w.mSpawnedData p ∧
        w.mSpawnedData.getActiveObjectCount p ≤ (m.mPoolTemplate p).maxLimit := by
  obtain ⟨w, hw, hlimited⟩ := run_invariant
    (fun w : Option (PoolWorld F) => ∃ v, w = some v ∧ m.Limited v.mSpawnedData)
    (fun _ _ h hop => limited_step hm hop h) ⟨_, rfl, limited_empty m⟩ hops
  refine ⟨w, hw, fun p hp => ⟨hlimited.counted.count p hp, ?_⟩⟩
  exact BitVec.le_def.mpr ((hlimited.limited p hp).trans (m.ceiling_le_maxLimit p))

/-! ## A pool of pools, and a pool of quests -/

/-- One of two pools is to be spawned: one of two creatures, or a gameobject. -/
def campMgr : PoolMgr ℤ where
  maxPoolId := 3
  mPoolTemplate := fun _ => ⟨1⟩
  mPoolCreatureGroups
    | 2 => ⟨2, [⟨20, 40⟩, ⟨21, 60⟩], []⟩
    | _ => .none
  mPoolGameobjectGroups
    | 3 => ⟨3, [], [⟨30, 0⟩]⟩
    | _ => .none
  mPoolPoolGroups
    | 1 => ⟨1, [], [⟨2, 0⟩, ⟨3, 0⟩]⟩
    | _ => .none
  mPoolQuestGroups := fun _ => .none
  mCreatureSearchMap := (OrderedMap.empty.set 20 2).set 21 2
  mGameobjectSearchMap := OrderedMap.empty.set 30 3
  mPoolSearchMap := (OrderedMap.empty.set 2 1).set 3 1

def questMgr : PoolMgr ℤ where
  maxPoolId := 1
  mPoolTemplate := fun _ => ⟨1⟩
  mPoolCreatureGroups := fun _ => .none
  mPoolGameobjectGroups := fun _ => .none
  mPoolPoolGroups := fun _ => .none
  mPoolQuestGroups
    | 1 => ⟨1, [], [⟨10, 0⟩]⟩
    | _ => .none
  mCreatureSearchMap := .empty
  mGameobjectSearchMap := .empty
  mPoolSearchMap := .empty

theorem configured_questMgr : questMgr.Configured where
  search kind hkind guid p := by
    cases kind with
    | quest => exact absurd rfl hkind
    | _ => simp [searchMap, questMgr, members, groups, PoolGroup.objects, PoolGroup.none]
  group kind p := by
    cases kind <;> rcases p with _ | _ | p <;>
      simp [members, groups, questMgr, PoolGroup.objects, PoolGroup.none]
  inRange child mother h := by
    simp [IsChild, members, groups, questMgr, PoolGroup.objects, PoolGroup.none] at h
  acyclic := acyclic_of_lt fun child mother h => by
    simp [IsChild, members, groups, questMgr, PoolGroup.objects, PoolGroup.none] at h

theorem isChild_campMgr {child mother : ℕ} (h : campMgr.IsChild child mother) :
    mother = 1 ∧ (child = 2 ∨ child = 3) := by
  rcases mother with _ | _ | p <;>
    simp [IsChild, members, groups, campMgr, PoolGroup.objects, PoolGroup.none] at h
  exact ⟨rfl, h⟩

theorem configured_campMgr : campMgr.Configured where
  search kind hkind guid p := by
    cases kind with
    | quest => exact absurd rfl hkind
    | _ =>
      rcases p with _ | _ | _ | _ | p <;>
        simp only [searchMap, campMgr, members, groups, PoolGroup.objects, PoolGroup.none,
          OrderedMap.find?_set, OrderedMap.find?_empty] <;>
        split_ifs <;> simp_all
  group kind p := by
    cases kind <;> rcases p with _ | _ | _ | _ | p <;>
      simp [members, groups, campMgr, PoolGroup.objects, PoolGroup.none]
  inRange child mother h := by
    show child ≤ 3
    have hchild := (isChild_campMgr h).2
    omega
  acyclic := acyclic_of_lt fun child mother h => by
    have hchild := isChild_campMgr h
    omega

/-- Rolls that are all alike. -/
def steadyRolls : ℕ → PoolRoll ℤ := fun _ => ⟨0, 0, []⟩

/-- The first camp is spawned, and its first creature draws again. -/
def campRun : List Op := [.spawnPool 1, .updatePool .creature 2 20]

theorem mSpawnedPools_eq_activeMembers_camp :
    ∃ w, run campMgr.step (start steadyRolls) campRun = some w ∧
      ∀ p, campMgr.members .quest p = [] →
        (w.mSpawnedData.getActiveObjectCount p).toNat = campMgr.activeMembers w.mSpawnedData p ∧
          w.mSpawnedData.getActiveObjectCount p ≤ (campMgr.mPoolTemplate p).maxLimit :=
  mSpawnedPools_eq_activeMembers configured_campMgr steadyRolls
    (by decide +kernel)

/-- **A pool of quests counts its quests**: with the first one, its counter is one, and none of its
creatures, gameobjects and pools is spawned. -/
theorem not_mSpawnedPools_eq_activeMembers_quest :
    ¬ ∀ (m : PoolMgr ℤ) (rolls : ℕ → PoolRoll ℤ) (ops : List Op), m.Configured →
      Admissible m.step m.Allowed (start rolls) ops →
      ∃ w, run m.step (start rolls) ops = some w ∧ ∀ p,
        (w.mSpawnedData.getActiveObjectCount p).toNat = m.activeMembers w.mSpawnedData p ∧
          w.mSpawnedData.getActiveObjectCount p ≤ (m.mPoolTemplate p).maxLimit := by
  intro h
  obtain ⟨w, hw, hcount⟩ := h questMgr steadyRolls [.spawnPool 1] configured_questMgr
    (by decide +kernel)
  have hone : (run questMgr.step (start steadyRolls) [.spawnPool 1]).map
      (fun w => w.mSpawnedData.getActiveObjectCount 1) = some 1 := by decide +kernel
  rw [hw, Option.map_some, Option.some.injEq] at hone
  have hzero : (w.mSpawnedData.getActiveObjectCount 1).toNat = 0 := (hcount 1).1
  rw [hone] at hzero
  exact absurd hzero (by decide)

end PoolMgr

end TeraCore
