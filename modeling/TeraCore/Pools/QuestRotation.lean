import Mathlib.Data.List.GetD
import TeraCore.Pools.Limits

/-!
# Pools: the rotation of quests

Every day a pool of quests gets other quests.  Those that were not active are taken first, and the
active ones are recycled when there are too few of them.  The active quests of all pools are kept
in one set, and the choice is among all of these.

So a pool that is short of quests can be given those of another pool.  They are activated and
counted for it, and its own are not.  This cannot happen when enough quests of the pool were
inactive, or no quest of another pool was active.

## Main results

* `PoolGroup.spawnQuests_eq`: a rotation removes the pool's quests and activates `recorded`
* `PoolMgr.rotates_iff`: when every rotation does what it is for
-/

namespace TeraCore

open Commons OrderedSet

variable {F : Type*}

/-! ## Random choices -/

theorem PoolWorld.selectRandom_mem (w : PoolWorld F) {quests : OrderedSet ℕ}
    (h : quests.size ≠ 0) : w.selectRandom quests ∈ quests := by
  have hlt : (w.rolls 0).index % quests.size < quests.elems.length :=
    Nat.mod_lt _ (Nat.pos_of_ne_zero h)
  rw [selectRandom, List.getD_eq_getElem _ _ hlt]
  exact List.getElem_mem hlt

namespace PoolGroup

def drawn : ℕ → OrderedSet ℕ → PoolWorld F → List ℕ
  | 0, _, _ => []
  | turns + 1, quests, w =>
    if quests.size = 0 then []
    else w.selectRandom quests :: drawn turns (quests.erase (w.selectRandom quests)) w.rolled

variable {quests : OrderedSet ℕ} {w : PoolWorld F} {turns quest : ℕ}

theorem drawn_of_size_eq_zero (h : quests.size = 0) (turns : ℕ) (w : PoolWorld F) :
    drawn turns quests w = [] := by
  cases turns with
  | zero => rfl
  | succ turns => rw [drawn, if_pos h]

theorem drawn_succ (h : quests.size ≠ 0) (turns : ℕ) (w : PoolWorld F) :
    drawn (turns + 1) quests w =
      w.selectRandom quests :: drawn turns (quests.erase (w.selectRandom quests)) w.rolled := by
  rw [drawn, if_neg h]

theorem mem_of_mem_drawn (h : quest ∈ drawn turns quests w) : quest ∈ quests := by
  induction turns generalizing quests w with
  | zero => exact absurd h List.not_mem_nil
  | succ turns ih =>
    by_cases hsize : quests.size = 0
    · rw [drawn_of_size_eq_zero hsize] at h
      exact absurd h List.not_mem_nil
    · rw [drawn_succ hsize] at h
      rcases List.mem_cons.mp h with rfl | h
      · exact w.selectRandom_mem hsize
      · exact (mem_erase.mp (ih h)).1

theorem nodup_drawn (turns : ℕ) (quests : OrderedSet ℕ) (w : PoolWorld F) :
    (drawn turns quests w).Nodup := by
  induction turns generalizing quests w with
  | zero => exact List.nodup_nil
  | succ turns ih =>
    by_cases hsize : quests.size = 0
    · rw [drawn_of_size_eq_zero hsize]
      exact List.nodup_nil
    · rw [drawn_succ hsize]
      exact List.nodup_cons.mpr ⟨fun h => (mem_erase.mp (mem_of_mem_drawn h)).2 rfl,
        ih _ _⟩

theorem length_drawn (turns : ℕ) (quests : OrderedSet ℕ) (w : PoolWorld F) :
    (drawn turns quests w).length = min turns quests.size := by
  induction turns generalizing quests w with
  | zero => simp [drawn]
  | succ turns ih =>
    by_cases hsize : quests.size = 0
    · rw [drawn_of_size_eq_zero hsize, hsize]
      rfl
    · rw [drawn_succ hsize, List.length_cons, ih, size_erase (w.selectRandom_mem hsize)]
      omega

theorem drawn_congr {w w' : PoolWorld F} (h : w.rolls = w'.rolls) (turns : ℕ)
    (quests : OrderedSet ℕ) : drawn turns quests w = drawn turns quests w' := by
  induction turns generalizing quests w w' with
  | zero => rfl
  | succ turns ih =>
    have hrolled : w.rolled.rolls = w'.rolled.rolls := by rw [PoolWorld.rolled, h]; rfl
    have hselect : w.selectRandom quests = w'.selectRandom quests := by
      rw [PoolWorld.selectRandom, h]
      rfl
    rw [drawn, drawn, hselect, ih hrolled]

theorem mem_drawn_iff (h : quests.size ≤ turns) :
    quest ∈ drawn turns quests w ↔ quest ∈ quests := by
  refine ⟨mem_of_mem_drawn, fun hmem => ?_⟩
  have hperm : (drawn turns quests w).Perm quests.elems :=
    ((nodup_drawn turns quests w).subperm fun q => mem_of_mem_drawn).perm_of_length_le (by
      rw [length_drawn, min_eq_right h]
      rfl)
  exact hperm.mem_iff.mpr hmem

theorem mem_recycle {limit : BitVec 32} {newQuests currentQuests : OrderedSet ℕ}
    (hdisjoint : ∀ q ∈ newQuests, q ∉ currentQuests) (hturns : currentQuests.size ≤ turns)
    (hsize : currentQuests.size ≠ 0) (hlt : newQuests.size < limit.toNat) :
    (quest ∈ (recycle limit turns newQuests currentQuests w).1 ↔
      quest ∈ newQuests ∨
        quest ∈ drawn (limit.toNat - newQuests.size) currentQuests w) ∧
    (recycle limit turns newQuests currentQuests w).1.size =
      newQuests.size + min (limit.toNat - newQuests.size) currentQuests.size := by
  induction turns generalizing newQuests currentQuests w with
  | zero => omega
  | succ turns ih =>
    have hmem := w.selectRandom_mem hsize
    have hnew : w.selectRandom currentQuests ∉ newQuests := fun h => hdisjoint _ h hmem
    have hinsert := size_insert hnew
    have herase := size_erase hmem
    have hdrawn : drawn (limit.toNat - newQuests.size) currentQuests w =
        w.selectRandom currentQuests ::
          drawn (limit.toNat - (newQuests.size + 1))
            (currentQuests.erase (w.selectRandom currentQuests)) w.rolled := by
      rw [show limit.toNat - newQuests.size = limit.toNat - (newQuests.size + 1) + 1 by omega,
        drawn_succ hsize]
    rw [hdrawn, recycle]
    split
    · rename_i hmore
      have hdisjoint' : ∀ q ∈ newQuests.insert (w.selectRandom currentQuests),
          q ∉ currentQuests.erase (w.selectRandom currentQuests) := by
        intro q hq hq'
        obtain ⟨hq', hne⟩ := mem_erase.mp hq'
        rcases mem_insert.mp hq with rfl | hq
        · exact hne rfl
        · exact hdisjoint q hq hq'
      obtain ⟨hmem', hsize'⟩ := ih (w := w.rolled) hdisjoint' (by omega) hmore.2 hmore.1
      rw [hmem', hsize', mem_insert, List.mem_cons, hinsert]
      refine ⟨by tauto, by omega⟩
    · rename_i hstop
      have hnil : drawn (limit.toNat - (newQuests.size + 1))
          (currentQuests.erase (w.selectRandom currentQuests)) w.rolled = [] := by
        refine List.eq_nil_of_length_eq_zero ?_
        rw [length_drawn]
        omega
      rw [hnil, mem_insert, List.mem_singleton, hinsert]
      exact ⟨or_comm, by omega⟩

variable (g : PoolGroup F)

theorem activateNew_mSpawnedData {limit : BitVec 32} {newQuests : OrderedSet ℕ}
    (hlimit : 1 ≤ limit.toNat) (hturns : newQuests.size ≤ turns) (hsize : newQuests.size ≠ 0) :
    (g.activateNew turns limit newQuests w).mSpawnedData =
      (drawn limit.toNat newQuests w).foldl
        (fun s quest => s.activateObject .quest quest g.poolId) w.mSpawnedData := by
  induction turns generalizing limit newQuests w with
  | zero => omega
  | succ turns ih =>
    have herase := size_erase (w.selectRandom_mem hsize)
    have hone : (1 : BitVec 32).toNat = 1 := rfl
    have hpred : (limit - 1).toNat = limit.toNat - 1 :=
      BitVec.toNat_sub_of_le (BitVec.le_def.mpr (hone ▸ hlimit))
    rw [show limit.toNat = (limit - 1).toNat + 1 by omega, drawn_succ hsize, List.foldl_cons,
      activateNew]
    split
    · rename_i hmore
      have hzero : (limit - 1).toNat ≠ 0 := fun h => hmore.1 (BitVec.eq_of_toNat_eq h)
      rw [ih (by omega) (by omega) hmore.2]
      have hrolls : (w.rolled.activate .quest (w.selectRandom newQuests) g.poolId).rolls =
          w.rolled.rolls := rfl
      exact congrArg _ (drawn_congr hrolls _ _)
    · rename_i hstop
      have hnil : drawn (limit - 1).toNat (newQuests.erase (w.selectRandom newQuests))
          w.rolled = [] := by
        by_cases hzero : limit - 1 = 0
        · rw [hzero]
          rfl
        · exact drawn_of_size_eq_zero (not_not.mp fun h => hstop ⟨hzero, h⟩) _ _
      rw [hnil, List.foldl_nil]
      rfl

/-! ## A rotation -/

/-- The quests that were not active. -/
def newQuests (s : ActivePoolData) : OrderedSet ℕ :=
  OrderedSet.ofList ((g.equalChanced.map PoolObject.guid).filter fun quest =>
    s.isActiveObject .quest quest = false)

/-- What is left when the quests of the group are removed. -/
def withoutQuests (s : ActivePoolData) : ActivePoolData :=
  g.objects.foldl (fun s obj =>
    if s.isActiveObject .quest obj.guid then s.removeObject .quest obj.guid g.poolId else s) s

/-- The quests among which the last choice is made, and the rolls that are left for it. -/
def chosenQuests (limit : BitVec 32) (w : PoolWorld F) : OrderedSet ℕ × PoolWorld F :=
  let newQuests := g.newQuests w.mSpawnedData
  let currentQuests := w.mSpawnedData.mActiveQuests
  let w := { w with mSpawnedData := g.withoutQuests w.mSpawnedData }
  if newQuests.size < limit.toNat ∧ currentQuests.size ≠ 0 then
    recycle limit currentQuests.size newQuests currentQuests w
  else (newQuests, w)

/-- The quests that a rotation activates, in this order. -/
def recorded (limit : BitVec 32) (w : PoolWorld F) : List ℕ :=
  drawn limit.toNat (g.chosenQuests limit w).1 (g.chosenQuests limit w).2

theorem despawnObject_quest (w : PoolWorld F) :
    g.despawnObject (fun _ => some) .quest 0 w =
      some { w with mSpawnedData := g.withoutQuests w.mSpawnedData } := by
  rw [despawnObject, withoutQuests]
  induction g.objects generalizing w with
  | nil => rfl
  | cons obj objs ih =>
    rw [List.foldlM_cons, List.foldl_cons]
    by_cases hactive : w.mSpawnedData.isActiveObject .quest obj.guid = true
    · rw [if_pos hactive, if_pos ⟨hactive, .inl rfl⟩]
      exact ih (w.remove .quest obj.guid g.poolId)
    · rw [if_neg hactive, if_neg fun h => hactive h.1]
      exact ih w

theorem chosenQuests_data (limit : BitVec 32) (w : PoolWorld F) :
    (g.chosenQuests limit w).2.mSpawnedData = g.withoutQuests w.mSpawnedData := by
  rw [chosenQuests]
  split
  · exact PoolMgr.recycle_mSpawnedData _ _ _ _ _
  · rfl

theorem spawnQuests_eq {limit : BitVec 32} (hlimit : 1 ≤ limit.toNat) {triggerFrom : ℕ}
    (htrigger : triggerFrom ≠ 0) (w : PoolWorld F) :
    ∃ w', g.spawnQuests limit triggerFrom w = some w' ∧
      w'.mSpawnedData = (g.recorded limit w).foldl
        (fun s quest => s.activateObject .quest quest g.poolId)
        (g.withoutQuests w.mSpawnedData) := by
  rw [spawnQuests, if_neg fun h => htrigger h.1]
  simp only [if_neg htrigger, despawnObject_quest, Option.map_some]
  refine ⟨_, rfl, ?_⟩
  change (if (g.chosenQuests limit w).1.size = 0 then (g.chosenQuests limit w).2
    else g.activateNew (g.chosenQuests limit w).1.size limit (g.chosenQuests limit w).1
      (g.chosenQuests limit w).2).mSpawnedData = _
  rw [← g.chosenQuests_data limit w, recorded]
  split
  · rename_i hsize
    rw [drawn_of_size_eq_zero hsize]
    rfl
  · rename_i hsize
    exact activateNew_mSpawnedData g hlimit le_rfl hsize

/-! ### What is active afterwards -/

theorem mem_newQuests {g : PoolGroup F} {s : ActivePoolData} :
    quest ∈ g.newQuests s ↔
      quest ∈ g.equalChanced.map PoolObject.guid ∧ s.isActiveObject .quest quest = false := by
  rw [newQuests, mem_ofList, List.mem_filter, decide_eq_true_eq]

theorem isActiveObject_withoutQuests (s : ActivePoolData) :
    (g.withoutQuests s).isActiveObject .quest quest = true ↔
      s.isActiveObject .quest quest = true ∧ quest ∉ g.objects.map PoolObject.guid := by
  rw [withoutQuests]
  induction g.objects generalizing s with
  | nil => simp
  | cons obj objs ih =>
    rw [List.foldl_cons, ih, List.map_cons, List.mem_cons]
    split
    · rw [s.isActiveObject_remove]
      tauto
    · rename_i hactive
      have hne : s.isActiveObject .quest quest = true → quest ≠ obj.guid := by
        rintro h rfl
        exact hactive h
      tauto

theorem isActiveObject_foldl_activate (poolId : ℕ) (quests : List ℕ) (s : ActivePoolData) :
    (quests.foldl (fun s quest => s.activateObject .quest quest poolId) s).isActiveObject
        .quest quest = true ↔
      quest ∈ quests ∨ s.isActiveObject .quest quest = true := by
  induction quests generalizing s with
  | nil => simp
  | cons q quests ih =>
    rw [List.foldl_cons, ih, s.isActiveObject_activate, List.mem_cons]
    tauto

/-! ### What is recorded -/

variable {limit : BitVec 32} (g : PoolGroup F)

theorem recorded_of_not_recycled
    (h : ¬((g.newQuests w.mSpawnedData).size < limit.toNat ∧
      w.mSpawnedData.mActiveQuests.size ≠ 0)) :
    g.recorded limit w = drawn limit.toNat (g.newQuests w.mSpawnedData)
      { w with mSpawnedData := g.withoutQuests w.mSpawnedData } := by
  have hchosen : g.chosenQuests limit w = (g.newQuests w.mSpawnedData,
      { w with mSpawnedData := g.withoutQuests w.mSpawnedData }) := by
    rw [chosenQuests]
    exact if_neg h
  rw [recorded, hchosen]

theorem recorded_of_recycled (hlt : (g.newQuests w.mSpawnedData).size < limit.toNat)
    (hsize : w.mSpawnedData.mActiveQuests.size ≠ 0) :
    (quest ∈ g.recorded limit w ↔ quest ∈ g.newQuests w.mSpawnedData ∨
      quest ∈ drawn (limit.toNat - (g.newQuests w.mSpawnedData).size)
        w.mSpawnedData.mActiveQuests w) ∧
    (g.recorded limit w).length = (g.newQuests w.mSpawnedData).size +
      min (limit.toNat - (g.newQuests w.mSpawnedData).size) w.mSpawnedData.mActiveQuests.size := by
  have hdisjoint : ∀ q ∈ g.newQuests w.mSpawnedData, q ∉ w.mSpawnedData.mActiveQuests := by
    intro q hq hactive
    have hinactive := (mem_newQuests.mp hq).2
    rw [ActivePoolData.isActiveObject, decide_eq_false_iff_not] at hinactive
    exact hinactive hactive
  have hdrawn : drawn (limit.toNat - (g.newQuests w.mSpawnedData).size)
      w.mSpawnedData.mActiveQuests { w with mSpawnedData := g.withoutQuests w.mSpawnedData } =
      drawn (limit.toNat - (g.newQuests w.mSpawnedData).size) w.mSpawnedData.mActiveQuests w :=
    drawn_congr (by rfl) _ _
  obtain ⟨hmem, hchosen⟩ := @mem_recycle F { w with mSpawnedData := g.withoutQuests w.mSpawnedData }
    w.mSpawnedData.mActiveQuests.size quest limit (g.newQuests w.mSpawnedData)
    w.mSpawnedData.mActiveQuests hdisjoint le_rfl hsize hlt
  have heq : g.chosenQuests limit w = recycle limit w.mSpawnedData.mActiveQuests.size
      (g.newQuests w.mSpawnedData) w.mSpawnedData.mActiveQuests
      { w with mSpawnedData := g.withoutQuests w.mSpawnedData } := by
    rw [chosenQuests]
    exact if_pos ⟨hlt, hsize⟩
  rw [recorded, heq, length_drawn, mem_drawn_iff (by omega), hmem, hchosen, hdrawn]
  exact ⟨Iff.rfl, by omega⟩

theorem nodup_recorded : (g.recorded limit w).Nodup := nodup_drawn _ _ _

end PoolGroup

/-! ## Pools of quests -/

namespace PoolMgr

/-- **Disjoint pools of quests**, as they are loaded: the quests of a pool are of equal chance and
different, no pool is in another, and no quest is in two of them. -/
structure QuestPools (m : PoolMgr F) : Prop where
  equal : ∀ p, (m.mPoolQuestGroups p).explicitlyChanced = []
  nodup : ∀ p, (m.members .quest p).Nodup
  mother : ∀ p, m.isPartOfAPool .pool p = 0
  disjoint : ∀ p q, p ≠ q → ∀ quest ∈ m.members .quest p, quest ∉ m.members .quest q

/-- The number of quests of a pool that are not active. -/
def inactiveQuests (m : PoolMgr F) (p : ℕ) (s : ActivePoolData) : ℕ :=
  (m.members .quest p).countP fun quest => !s.isActiveObject .quest quest

/-- The quests that a rotation of the pool records. -/
def recordedQuests (m : PoolMgr F) (p : ℕ) (w : PoolWorld F) : List ℕ :=
  if (m.mPoolQuestGroups p).isEmpty then []
  else (m.mPoolQuestGroups p).recorded (m.mPoolTemplate p).maxLimit w

/-- **What a rotation is for**: the pool gets quests of its own, as many as it may have, and keeps
one only where too few others were available; other pools keep theirs. -/
structure Rotates (m : PoolMgr F) (p : ℕ) (w w' : PoolWorld F) : Prop where
  own : ∀ quest ∈ m.recordedQuests p w, quest ∈ m.members .quest p
  active : (m.members .quest p).countP (w'.mSpawnedData.isActiveObject .quest) =
    min (m.mPoolTemplate p).maxLimit.toNat (m.members .quest p).length
  kept : ∀ quest ∈ m.members .quest p, w.mSpawnedData.isActiveObject .quest quest = true →
    w'.mSpawnedData.isActiveObject .quest quest = true →
      m.inactiveQuests p w.mSpawnedData < (m.mPoolTemplate p).maxLimit.toNat
  others : ∀ q, q ≠ p → ∀ quest ∈ m.members .quest q,
    w'.mSpawnedData.isActiveObject .quest quest = w.mSpawnedData.isActiveObject .quest quest

variable {m : PoolMgr F} {p : ℕ} {w : PoolWorld F} {s : ActivePoolData}

theorem QuestPools.members_eq (hm : m.QuestPools) (p : ℕ) :
    m.members .quest p = (m.mPoolQuestGroups p).equalChanced.map PoolObject.guid := by
  rw [members, PoolGroup.objects]
  exact congrArg (List.map PoolObject.guid)
    ((congrArg (_ ++ ·) (hm.equal p)).trans (List.append_nil _))

theorem QuestPools.mem_newQuests (hm : m.QuestPools) {quest : ℕ} :
    quest ∈ (m.mPoolQuestGroups p).newQuests s ↔
      quest ∈ m.members .quest p ∧ s.isActiveObject .quest quest = false := by
  rw [PoolGroup.mem_newQuests, hm.members_eq]

theorem QuestPools.size_newQuests (hm : m.QuestPools) (p : ℕ) (s : ActivePoolData) :
    ((m.mPoolQuestGroups p).newQuests s).size = m.inactiveQuests p s := by
  rw [PoolGroup.newQuests, ← hm.members_eq, size_ofList ((hm.nodup p).filter _),
    inactiveQuests, List.countP_eq_length_filter]
  exact congrArg List.length (List.filter_congr fun quest _ => by simp)

theorem inactiveQuests_add (m : PoolMgr F) (p : ℕ) (s : ActivePoolData) :
    (m.members .quest p).countP (s.isActiveObject .quest) + m.inactiveQuests p s =
      (m.members .quest p).length := by
  rw [List.length_eq_countP_add_countP (s.isActiveObject .quest), inactiveQuests]
  congr 1
  exact List.countP_congr fun quest _ => by simp

theorem QuestPools.size_active (hm : m.QuestPools)
    (hown : ∀ quest ∈ s.mActiveQuests, quest ∈ m.members .quest p) :
    s.mActiveQuests.size = (m.members .quest p).countP (s.isActiveObject .quest) := by
  rw [List.countP_eq_length_filter, OrderedSet.size]
  refine ((List.perm_ext_iff_of_nodup s.mActiveQuests.nodup ((hm.nodup p).filter _)).mpr
    fun quest => ?_).length_eq
  rw [List.mem_filter, ActivePoolData.isActiveObject, decide_eq_true_eq]
  exact ⟨fun h => ⟨hown quest h, h⟩, fun h => h.2⟩

/-- **Recorded quests of its own** make the rotation do what it is for, if they are enough. -/
theorem QuestPools.rotates_of_recorded (hm : m.QuestPools) {w' : PoolWorld F}
    (hactive : ∀ quest, w'.mSpawnedData.isActiveObject .quest quest = true ↔
      quest ∈ m.recordedQuests p w ∨
        (w.mSpawnedData.isActiveObject .quest quest = true ∧ quest ∉ m.members .quest p))
    (hown : ∀ quest ∈ m.recordedQuests p w, quest ∈ m.members .quest p)
    (hlength : (m.recordedQuests p w).length =
      min (m.mPoolTemplate p).maxLimit.toNat (m.members .quest p).length)
    (hnodup : (m.recordedQuests p w).Nodup)
    (hkept : ∀ quest ∈ m.recordedQuests p w, w.mSpawnedData.isActiveObject .quest quest = true →
      m.inactiveQuests p w.mSpawnedData < (m.mPoolTemplate p).maxLimit.toNat) :
    m.Rotates p w w' where
  own := hown
  active := by
    rw [← hlength, List.countP_eq_length_filter]
    refine ((List.perm_ext_iff_of_nodup ((hm.nodup p).filter _) hnodup).mpr
      fun quest => ?_).length_eq
    rw [List.mem_filter, hactive]
    constructor
    · rintro ⟨hmem, h | h⟩
      · exact h
      · exact absurd hmem h.2
    · exact fun h => ⟨hown quest h, .inl h⟩
  kept quest hmem hbefore hafter := by
    rcases (hactive quest).mp hafter with h | h
    · exact hkept quest h hbefore
    · exact absurd hmem h.2
  others q hne quest hmem := by
    have hnot : quest ∉ m.members .quest p := hm.disjoint q p hne quest hmem
    rw [Bool.eq_iff_iff, hactive]
    constructor
    · rintro (h | h)
      · exact absurd (hown quest h) hnot
      · exact h.1
    · exact fun h => .inr ⟨h, hnot⟩

section

variable (hm : m.QuestPools) {w' : PoolWorld F} (hempty : (m.mPoolQuestGroups p).isEmpty = false)
  (hactive : ∀ quest, w'.mSpawnedData.isActiveObject .quest quest = true ↔
    quest ∈ m.recordedQuests p w ∨
      (w.mSpawnedData.isActiveObject .quest quest = true ∧ quest ∉ m.members .quest p))
include hm hempty hactive

theorem QuestPools.rotates_of_not_recycled
    (hrecycle : ¬(m.inactiveQuests p w.mSpawnedData < (m.mPoolTemplate p).maxLimit.toNat ∧
      w.mSpawnedData.mActiveQuests.size ≠ 0)) :
    m.Rotates p w w' := by
  have hsum := m.inactiveQuests_add p w.mSpawnedData
  have hnone : w.mSpawnedData.mActiveQuests.size = 0 →
      (m.members .quest p).countP (w.mSpawnedData.isActiveObject .quest) = 0 := fun hsize => by
    refine List.countP_eq_zero.mpr fun quest _ hquest => ?_
    exact absurd (List.length_pos_of_mem (of_decide_eq_true hquest)) (by
      rw [← OrderedSet.size, hsize]
      exact lt_irrefl 0)
  have hrecorded : m.recordedQuests p w = PoolGroup.drawn (m.mPoolTemplate p).maxLimit.toNat
      ((m.mPoolQuestGroups p).newQuests w.mSpawnedData)
      { w with mSpawnedData := (m.mPoolQuestGroups p).withoutQuests w.mSpawnedData } := by
    rw [recordedQuests, hempty, if_neg Bool.false_ne_true, PoolGroup.recorded_of_not_recycled]
    rwa [hm.size_newQuests]
  have hnew : ∀ quest ∈ m.recordedQuests p w, quest ∈ m.members .quest p ∧
      w.mSpawnedData.isActiveObject .quest quest = false := by
    rw [hrecorded]
    exact fun quest h => hm.mem_newQuests.mp (PoolGroup.mem_of_mem_drawn h)
  refine hm.rotates_of_recorded hactive (fun quest h => (hnew quest h).1) ?_ ?_
    fun quest h htrue => absurd ((hnew quest h).2.symm.trans htrue) Bool.false_ne_true
  · rw [hrecorded, PoolGroup.length_drawn, hm.size_newQuests]
    omega
  · rw [hrecorded]
    exact PoolGroup.nodup_drawn _ _ _

theorem QuestPools.rotates_of_recycled
    (hlt : m.inactiveQuests p w.mSpawnedData < (m.mPoolTemplate p).maxLimit.toNat)
    (hsize : w.mSpawnedData.mActiveQuests.size ≠ 0)
    (hown : ∀ quest ∈ w.mSpawnedData.mActiveQuests, quest ∈ m.members .quest p) :
    m.Rotates p w w' := by
  have hsum := m.inactiveQuests_add p w.mSpawnedData
  have hcount := hm.size_active hown
  have hrecorded : m.recordedQuests p w =
      (m.mPoolQuestGroups p).recorded (m.mPoolTemplate p).maxLimit w := by
    rw [recordedQuests, hempty, if_neg Bool.false_ne_true]
  have hspec := fun quest => @PoolGroup.recorded_of_recycled F w quest
    (m.mPoolTemplate p).maxLimit (m.mPoolQuestGroups p) (by rwa [hm.size_newQuests]) hsize
  rw [hm.size_newQuests, ← hrecorded] at hspec
  refine hm.rotates_of_recorded hactive (fun quest h => ?_) ?_ ?_ fun _ _ _ => hlt
  · rcases (hspec quest).1.mp h with h | h
    · exact (hm.mem_newQuests.mp h).1
    · exact hown quest (PoolGroup.mem_of_mem_drawn h)
  · rw [(hspec 0).2]
    omega
  · rw [hrecorded]
    exact PoolGroup.nodup_recorded _

end

section Rolls

variable [Zero F]

/-- Rolls that choose one number first. -/
def rollsFrom (index : ℕ) : ℕ → PoolRoll F := fun _ => ⟨0, index, []⟩

theorem QuestPools.mem_recordedQuests_of_other (hm : m.QuestPools) {quest : ℕ}
    (hempty : (m.mPoolQuestGroups p).isEmpty = false)
    (hlt : m.inactiveQuests p s < (m.mPoolTemplate p).maxLimit.toNat)
    (hquest : quest ∈ s.mActiveQuests) :
    quest ∈ m.recordedQuests p ⟨s, rollsFrom (s.mActiveQuests.elems.idxOf quest)⟩ := by
  have hidx := List.idxOf_lt_length_of_mem hquest
  have hsize : s.mActiveQuests.size ≠ 0 := Nat.ne_of_gt (Nat.zero_lt_of_lt hidx)
  have hselect :
      (PoolWorld.mk s (rollsFrom (F := F) (s.mActiveQuests.elems.idxOf quest))).selectRandom
      s.mActiveQuests = quest := by
    have hmod : s.mActiveQuests.elems.idxOf quest % s.mActiveQuests.size =
        s.mActiveQuests.elems.idxOf quest := Nat.mod_eq_of_lt hidx
    rw [PoolWorld.selectRandom]
    change s.mActiveQuests.elems.getD (s.mActiveQuests.elems.idxOf quest % s.mActiveQuests.size) 0 =
      quest
    rw [hmod, List.getD_eq_getElem _ _ hidx]
    exact List.getElem_idxOf hidx
  rw [recordedQuests, hempty, if_neg Bool.false_ne_true]
  refine (PoolGroup.recorded_of_recycled _ (by rwa [hm.size_newQuests]) hsize).1.mpr (.inr ?_)
  rw [hm.size_newQuests, show (m.mPoolTemplate p).maxLimit.toNat - m.inactiveQuests p s =
    (m.mPoolTemplate p).maxLimit.toNat - m.inactiveQuests p s - 1 + 1 by omega,
    PoolGroup.drawn_succ hsize, hselect]
  exact List.mem_cons_self

end Rolls

section Update

variable [Sub F] [Zero F] [LT F] [DecidableLT F]

theorem QuestPools.updatePool_eq (hm : m.QuestPools)
    (hlimit : 1 ≤ (m.mPoolTemplate p).maxLimit.toNat) (w : PoolWorld F) :
    ∃ w', m.updatePool .quest p 1 w = some w' ∧ ∀ quest,
      w'.mSpawnedData.isActiveObject .quest quest = true ↔ quest ∈ m.recordedQuests p w ∨
        (w.mSpawnedData.isActiveObject .quest quest = true ∧ quest ∉ m.members .quest p) := by
  have hgroup : m.groups .quest p = m.mPoolQuestGroups p := rfl
  rw [updatePool, if_neg (not_not.mpr (hm.mother p)), spawnGroup, hgroup, recordedQuests]
  by_cases hempty : (m.mPoolQuestGroups p).isEmpty = true
  · have hmembers : m.members .quest p = [] := by
      rw [hm.members_eq]
      simp only [PoolGroup.isEmpty, Bool.and_eq_true, List.isEmpty_iff] at hempty
      rw [hempty.2, List.map_nil]
    rw [if_pos hempty, if_pos hempty]
    exact ⟨w, rfl, fun quest => by simp [hmembers]⟩
  · rw [if_neg hempty, if_neg hempty, if_pos rfl]
    obtain ⟨w', hw', hdata⟩ :=
      (m.mPoolQuestGroups p).spawnQuests_eq hlimit Nat.one_ne_zero w
    refine ⟨w', hw', fun quest => ?_⟩
    rw [hdata, PoolGroup.isActiveObject_foldl_activate, PoolGroup.isActiveObject_withoutQuests]
    rfl

/-- **Quests rotate within their pool** for every random choice, if and only if the pool has no
quests, or enough of them were inactive, or no quest of another pool was active. -/
theorem rotates_iff (hm : m.QuestPools) (p : ℕ) (hlimit : 1 ≤ (m.mPoolTemplate p).maxLimit.toNat)
    (s : ActivePoolData) :
    (∀ rolls, ∃ w', m.updatePool .quest p 1 ⟨s, rolls⟩ = some w' ∧ m.Rotates p ⟨s, rolls⟩ w') ↔
      m.members .quest p = [] ∨
        (m.mPoolTemplate p).maxLimit.toNat ≤ m.inactiveQuests p s ∨
          ∀ quest ∈ s.mActiveQuests, quest ∈ m.members .quest p := by
  have hempty_iff : (m.mPoolQuestGroups p).isEmpty = true ↔ m.members .quest p = [] := by
    rw [hm.members_eq, PoolGroup.isEmpty, hm.equal p]
    simp
  constructor
  · intro h
    by_contra hnot
    push Not at hnot
    obtain ⟨hmembers, hlt, quest, hquest, hother⟩ := hnot
    obtain ⟨w', -, hw'⟩ := h (rollsFrom (s.mActiveQuests.elems.idxOf quest))
    refine hother (hw'.own quest (hm.mem_recordedQuests_of_other ?_ hlt hquest))
    exact Bool.eq_false_iff.mpr (mt hempty_iff.mp hmembers)
  · intro h rolls
    obtain ⟨w', hw', hactive⟩ := hm.updatePool_eq hlimit ⟨s, rolls⟩
    refine ⟨w', hw', ?_⟩
    by_cases hmembers : m.members .quest p = []
    · have hrecorded : m.recordedQuests p ⟨s, rolls⟩ = [] := by
        rw [recordedQuests, if_pos (hempty_iff.mpr hmembers)]
      refine hm.rotates_of_recorded hactive ?_ ?_ ?_ ?_ <;> simp [hrecorded, hmembers]
    · have hempty : (m.mPoolQuestGroups p).isEmpty = false :=
        Bool.eq_false_iff.mpr (mt hempty_iff.mp hmembers)
      by_cases hrecycle : m.inactiveQuests p s < (m.mPoolTemplate p).maxLimit.toNat ∧
          s.mActiveQuests.size ≠ 0
      · refine hm.rotates_of_recycled hempty hactive hrecycle.1 hrecycle.2 ?_
        exact (h.resolve_left hmembers).resolve_left (not_le.mpr hrecycle.1)
      · exact hm.rotates_of_not_recycled hempty hactive hrecycle

end Update

/-! ### Two pools -/

/-- Two quests that can both be active, and a quest of another pool. -/
def dailyMgr : PoolMgr ℤ where
  maxPoolId := 2
  mPoolTemplate := fun _ => ⟨2⟩
  mPoolCreatureGroups := fun _ => .none
  mPoolGameobjectGroups := fun _ => .none
  mPoolPoolGroups := fun _ => .none
  mPoolQuestGroups
    | 1 => ⟨1, [], [⟨10, 0⟩, ⟨11, 0⟩]⟩
    | 2 => ⟨2, [], [⟨20, 0⟩]⟩
    | _ => .none
  mCreatureSearchMap := .empty
  mGameobjectSearchMap := .empty
  mPoolSearchMap := .empty

theorem questPools_dailyMgr : dailyMgr.QuestPools where
  equal p := by rcases p with _ | _ | _ | p <;> rfl
  nodup p := by
    rcases p with _ | _ | _ | p <;>
      simp [members, groups, dailyMgr, PoolGroup.objects, PoolGroup.none]
  mother _ := rfl
  disjoint p q hne := by
    rcases p with _ | _ | _ | p <;> rcases q with _ | _ | _ | q <;>
      simp [members, groups, dailyMgr, PoolGroup.objects, PoolGroup.none] at hne ⊢

/-- One quest of the first pool and that of the second are active. -/
def dailySpawns : ActivePoolData :=
  (ActivePoolData.empty.activateObject .quest 10 1).activateObject .quest 20 2

theorem rotates_iff_daily :
    (∀ rolls, ∃ w', dailyMgr.updatePool .quest 1 1 ⟨dailySpawns, rolls⟩ = some w' ∧
      dailyMgr.Rotates 1 ⟨dailySpawns, rolls⟩ w') ↔
      dailyMgr.members .quest 1 = [] ∨
        (dailyMgr.mPoolTemplate 1).maxLimit.toNat ≤ dailyMgr.inactiveQuests 1 dailySpawns ∨
          ∀ quest ∈ dailySpawns.mActiveQuests, quest ∈ dailyMgr.members .quest 1 :=
  rotates_iff questPools_dailyMgr 1 (by decide) dailySpawns

/-- **A quest of another pool is recycled**: the first pool has one active quest instead of two,
and the other pool's quest is activated for it again. -/
theorem not_rotates_daily :
    ¬ ∀ (m : PoolMgr ℤ) (p : ℕ) (w : PoolWorld ℤ), m.QuestPools →
      1 ≤ (m.mPoolTemplate p).maxLimit.toNat →
        ∃ w', m.updatePool .quest p 1 w = some w' ∧ m.Rotates p w w' := by
  intro h
  obtain ⟨w', -, hw'⟩ := h dailyMgr 1 ⟨dailySpawns, rollsFrom 1⟩ questPools_dailyMgr (by decide)
  have hmem : 20 ∈ dailyMgr.recordedQuests 1 ⟨dailySpawns, rollsFrom 1⟩ := by decide +kernel
  exact absurd (hw'.own 20 hmem) (by decide)

end PoolMgr

end TeraCore
