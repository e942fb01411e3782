import Mathlib.Algebra.Order.Group.Nat
import Mathlib.Data.List.Perm.Basic
import TeraCore.Events.GameEventMgr

/-!
# What active events do to the world

Events start and stop in any order, and may share what they do.  The relations of quests, the lists
of vendors and the objects that are spawned should be those of the world without events, and what
the active events add.

A start does not look whether another event has added the same already, and a stop does not look at
all of what it removes.  So there is a condition on each start and each stop.

## Main results

* `sideEffects_run`: it is, after every run of allowed starts and stops
-/

namespace TeraCore.GameEvents

open Commons OrderedSet

/-! ## Quests -/

section Quests

variable (quests : ℕ → List QuestRelation) (base : List QuestRelation) (active : OrderedSet ℕ)

/-- A relation that there should be. -/
def IsRelation (r : QuestRelation) : Prop :=
  r ∈ base ∨ ∃ e ∈ active.elems, r ∈ quests e

/-- **When the relations of an event are all removed that nothing else needs**: another active event
that has the quest keeps it from being removed, and one entry is removed for each in the list. -/
def RelationsStop (event_id : ℕ) (relations : List QuestRelation) : Prop :=
  ∀ r ∈ quests event_id, r ∈ base ∨ (∃ e ∈ active.elems, e ≠ event_id ∧ r ∈ quests e) ∨
    hasQuestActiveEventExcept quests active r.2 event_id = false ∧
      relations.count r ≤ (quests event_id).count r

instance (event_id : ℕ) (relations : List QuestRelation) :
    Decidable (RelationsStop quests base active event_id relations) :=
  inferInstanceAs (Decidable (∀ r ∈ _, _))

/-- The relations, with as many entries as the base and each active event need. -/
structure RelationsKept (relations : List QuestRelation) : Prop where
  ofBase : ∀ r, base.count r ≤ relations.count r
  ofActive : ∀ e ∈ active, ∀ r, base.count r + (quests e).count r ≤ relations.count r
  only : ∀ r ∈ relations, IsRelation quests base active r

variable {quests base active} {relations : List QuestRelation}

theorem RelationsKept.mem_iff (h : RelationsKept quests base active relations)
    (r : QuestRelation) : r ∈ relations ↔ IsRelation quests base active r := by
  refine ⟨h.only r, ?_⟩
  rintro (hr | ⟨e, he, hr⟩)
  · exact List.count_pos_iff.mp ((List.count_pos_iff.mpr hr).trans_le (h.ofBase r))
  · have hpos := List.count_pos_iff.mpr hr
    have hle := h.ofActive e he r
    exact List.count_pos_iff.mp (by omega)

theorem count_updateRelations_start (event_id : ℕ) (r : QuestRelation) :
    (updateRelations quests active event_id true relations).count r =
      relations.count r + (quests event_id).count r := by
  unfold updateRelations
  induction quests event_id generalizing relations with
  | nil => rfl
  | cons r' rest ih =>
    rw [List.foldl_cons, ih, if_pos rfl, List.count_append, List.count_singleton, List.count_cons]
    omega

theorem count_updateRelations_stop (event_id : ℕ) (r : QuestRelation) :
    (updateRelations quests active event_id false relations).count r =
      if hasQuestActiveEventExcept quests active r.2 event_id then relations.count r
      else relations.count r - (quests event_id).count r := by
  unfold updateRelations
  induction quests event_id generalizing relations with
  | nil =>
    rw [List.foldl_nil, List.count_nil, Nat.sub_zero, ite_self]
  | cons r' rest ih =>
    rw [List.foldl_cons, ih]
    simp only [Bool.false_eq_true, if_false]
    by_cases hsame : r' = r
    · rw [hsame]
      split
      · rfl
      · rw [List.count_erase_self, List.count_cons_self]
        omega
    · rw [List.count_cons_of_ne hsame]
      congr 1 <;>
      · split
        · rfl
        · rw [List.count_erase_of_ne (Ne.symm hsame)]

theorem hasQuestActiveEventExcept_iff {q event_id : ℕ} :
    hasQuestActiveEventExcept quests active q event_id = true ↔
      ∃ e ∈ active, e ≠ event_id ∧ ∃ r ∈ quests e, r.2 = q := by
  simp only [hasQuestActiveEventExcept, List.any_eq_true, Bool.and_eq_true, decide_eq_true_eq,
    mem_elems]

theorem RelationsKept.start (h : RelationsKept quests base active relations) (event_id : ℕ) :
    RelationsKept quests base (active.insert event_id)
      (updateRelations quests (active.insert event_id) event_id true relations) where
  ofBase r := by
    rw [count_updateRelations_start]
    exact (h.ofBase r).trans (Nat.le_add_right _ _)
  ofActive e he r := by
    rw [count_updateRelations_start]
    rcases mem_insert.mp he with rfl | he
    · have hle := h.ofBase r
      omega
    · have hle := h.ofActive e he r
      omega
  only r hr := by
    have hpos := List.count_pos_iff.mpr hr
    rw [count_updateRelations_start] at hpos
    by_cases hnew : r ∈ quests event_id
    · exact .inr ⟨event_id, mem_insert.mpr (.inl rfl), hnew⟩
    · rw [List.count_eq_zero.mpr hnew] at hpos
      refine (h.only r (List.count_pos_iff.mp hpos)).imp_right ?_
      rintro ⟨e, he, hr⟩
      exact ⟨e, mem_insert.mpr (.inr he), hr⟩

theorem RelationsKept.stop (h : RelationsKept quests base active relations) {event_id : ℕ}
    (hevent : event_id ∈ active) (hstop : RelationsStop quests base active event_id relations) :
    RelationsKept quests base (active.erase event_id)
      (updateRelations quests (active.erase event_id) event_id false relations) := by
  have hexcept : ∀ q, hasQuestActiveEventExcept quests (active.erase event_id) q event_id =
      hasQuestActiveEventExcept quests active q event_id := by
    intro q
    rw [Bool.eq_iff_iff, hasQuestActiveEventExcept_iff, hasQuestActiveEventExcept_iff]
    refine exists_congr fun e => ?_
    rw [mem_erase, and_assoc]
    exact and_congr_right fun _ => ⟨fun h => h.2, fun h => ⟨h.1, h⟩⟩
  have hcount : ∀ r, (updateRelations quests (active.erase event_id) event_id false
      relations).count r = if hasQuestActiveEventExcept quests active r.2 event_id then
        relations.count r else relations.count r - (quests event_id).count r := by
    intro r
    rw [count_updateRelations_stop, hexcept]
  refine ⟨fun r => ?_, fun e he r => ?_, fun r hr => ?_⟩
  · rw [hcount]
    have hle := h.ofActive event_id hevent r
    split <;> omega
  · obtain ⟨he, hne⟩ := mem_erase.mp he
    rw [hcount]
    split
    · exact h.ofActive e he r
    · -- no other active event has the quest
      rename_i hno
      rw [hasQuestActiveEventExcept_iff] at hno
      have hnone : (quests e).count r = 0 :=
        List.count_eq_zero.mpr fun hr => hno ⟨e, he, hne, r, hr, rfl⟩
      have hle := h.ofActive event_id hevent r
      omega
  · have hpos := List.count_pos_iff.mpr hr
    rw [hcount] at hpos
    have hbefore : r ∈ relations := by
      refine List.count_pos_iff.mp ?_
      split at hpos <;> omega
    have hother : (∃ e ∈ active.elems, e ≠ event_id ∧ r ∈ quests e) →
        IsRelation quests base (active.erase event_id) r := by
      rintro ⟨e, he, hne, hr⟩
      exact .inr ⟨e, mem_erase.mpr ⟨he, hne⟩, hr⟩
    rcases h.only r hbefore with hbase | ⟨e, he, hlists⟩
    · exact .inl hbase
    by_cases hne : e = event_id
    · subst hne
      rcases hstop r hlists with hbase | hmore | ⟨hno, hle⟩
      · exact .inl hbase
      · exact hother hmore
      · rw [hno, if_neg Bool.false_ne_true] at hpos
        omega
    · exact hother ⟨e, he, hne, hlists⟩

end Quests

/-! ## Vendors -/

section Vendors

variable (cfg : EventConfig) (base : ℕ → List VendorItem) (active : OrderedSet ℕ)

/-- What a row puts into the list of its vendor. -/
def NPCVendorEntry.toVendorItem (v : NPCVendorEntry) : VendorItem :=
  ⟨v.item, v.maxcount, v.incrtime, v.ExtendedCost⟩

/-- What an event puts into the list of a vendor. -/
def EventConfig.itemsOf (event_id entry : ℕ) : List VendorItem :=
  ((cfg.mGameEventVendors event_id).filter fun v => v.entry = entry).map NPCVendorEntry.toVendorItem

/-- **When a stop removes only what the event has put in**: neither the vendor's own list nor
another active event has an item of the same number. -/
def VendorsStop (event_id : ℕ) : Prop :=
  ∀ v ∈ cfg.mGameEventVendors event_id, (∀ i ∈ base v.entry, i.item ≠ v.item) ∧
    ∀ e ∈ active.elems, e ≠ event_id →
      ∀ u ∈ cfg.mGameEventVendors e, u.entry = v.entry → u.item ≠ v.item

instance (event_id : ℕ) : Decidable (VendorsStop cfg base active event_id) :=
  inferInstanceAs (Decidable (∀ v ∈ _, (∀ i ∈ _, _) ∧ ∀ e ∈ _, _))

/-- A vendor's list: its own items and those of the active events. -/
def VendorsKept (items : ℕ → List VendorItem) : Prop :=
  ∀ entry, (items entry).Perm (base entry ++ active.elems.flatMap fun e => cfg.itemsOf e entry)

variable {cfg base active} {items : ℕ → List VendorItem}

theorem foldl_addVendorItem (vs : List NPCVendorEntry) (entry : ℕ) :
    vs.foldl (fun items v => if true then AddVendorItem items v else RemoveVendorItem items v) items
        entry =
          items entry ++ (vs.filter fun v => v.entry = entry).map NPCVendorEntry.toVendorItem := by
  induction vs generalizing items with
  | nil => exact (List.append_nil _).symm
  | cons v vs ih =>
    rw [List.foldl_cons, ih, if_pos rfl]
    unfold AddVendorItem
    by_cases hentry : v.entry = entry
    · rw [if_pos hentry.symm, List.append_assoc, List.filter_cons, if_pos (decide_eq_true hentry)]
      rfl
    · rw [if_neg (Ne.symm hentry), List.filter_cons, if_neg (by simpa using hentry)]

theorem foldl_removeVendorItem (vs : List NPCVendorEntry) (entry : ℕ) :
    vs.foldl (fun items v => if false then AddVendorItem items v else RemoveVendorItem items v)
        items entry =
      (items entry).filter fun i => ∀ v ∈ vs, v.entry = entry → i.item ≠ v.item := by
  induction vs generalizing items with
  | nil => simp
  | cons v vs ih =>
    rw [List.foldl_cons, ih]
    simp only [Bool.false_eq_true, if_false, RemoveVendorItem]
    by_cases hentry : v.entry = entry
    · rw [if_pos hentry.symm, List.filter_filter]
      refine List.filter_congr fun i _ => ?_
      simp [hentry, Bool.and_comm]
    · rw [if_neg (Ne.symm hentry)]
      refine List.filter_congr fun i _ => ?_
      simp [hentry]

theorem perm_elems_insert {k : ℕ} (hk : k ∉ active) :
    (active.insert k).elems.Perm (k :: active.elems) := by
  refine (List.perm_ext_iff_of_nodup (active.insert k).nodup
    (List.nodup_cons.mpr ⟨hk, active.nodup⟩)).mpr fun e => ?_
  rw [List.mem_cons]
  exact mem_insert

theorem perm_elems_erase {k : ℕ} (hk : k ∈ active) :
    active.elems.Perm (k :: (active.erase k).elems) := by
  have hnot : k ∉ (active.erase k).elems := fun h => (mem_erase.mp h).2 rfl
  refine (List.perm_ext_iff_of_nodup active.nodup
    (List.nodup_cons.mpr ⟨hnot, (active.erase k).nodup⟩)).mpr fun e => ?_
  rw [List.mem_cons, mem_elems, mem_elems, mem_erase]
  refine ⟨fun he => ?_, ?_⟩
  · by_cases hek : e = k
    · exact .inl hek
    · exact .inr ⟨he, hek⟩
  · rintro (rfl | he)
    · exact hk
    · exact he.1

theorem VendorsKept.start (h : VendorsKept cfg base active items) {event_id : ℕ}
    (hevent : event_id ∉ active) :
    VendorsKept cfg base (active.insert event_id) ((cfg.mGameEventVendors event_id).foldl
      (fun items v => if true then AddVendorItem items v else RemoveVendorItem items v) items) := by
  intro entry
  rw [foldl_addVendorItem]
  have hperm := (perm_elems_insert hevent).flatMap_right fun e => cfg.itemsOf e entry
  rw [List.flatMap_cons] at hperm
  have happend : (items entry ++ cfg.itemsOf event_id entry).Perm
      (base entry ++ (cfg.itemsOf event_id entry ++
        active.elems.flatMap fun e => cfg.itemsOf e entry)) := by
    refine ((h entry).append_right _).trans ?_
    rw [List.append_assoc]
    exact List.perm_append_comm.append_left _
  exact happend.trans (hperm.symm.append_left _)

theorem VendorsKept.stop (h : VendorsKept cfg base active items) {event_id : ℕ}
    (hevent : event_id ∈ active) (hstop : VendorsStop cfg base active event_id) :
    VendorsKept cfg base (active.erase event_id) ((cfg.mGameEventVendors event_id).foldl
      (fun items v => if false then AddVendorItem items v else RemoveVendorItem items v)
      items) := by
  intro entry
  rw [foldl_removeVendorItem]
  let keeps : VendorItem → Bool := fun i =>
    ∀ v ∈ cfg.mGameEventVendors event_id, v.entry = entry → i.item ≠ v.item
  have hperm := (perm_elems_erase hevent).flatMap_right fun e => cfg.itemsOf e entry
  rw [List.flatMap_cons] at hperm
  have hbase : (base entry).filter keeps = base entry := by
    refine List.filter_eq_self.mpr fun i hi => decide_eq_true ?_
    rintro v hv rfl
    exact (hstop v hv).1 i hi
  have hothers : ((active.erase event_id).elems.flatMap fun e => cfg.itemsOf e entry).filter keeps =
      (active.erase event_id).elems.flatMap fun e => cfg.itemsOf e entry := by
    refine List.filter_eq_self.mpr fun i hi => decide_eq_true ?_
    rintro v hv rfl
    obtain ⟨e, he, hi⟩ := List.mem_flatMap.mp hi
    obtain ⟨he, hne⟩ := mem_erase.mp he
    obtain ⟨u, hu, rfl⟩ := List.mem_map.mp hi
    have hu' := List.mem_filter.mp hu
    exact (hstop v hv).2 e he hne u hu'.1 (of_decide_eq_true hu'.2)
  have hown : (cfg.itemsOf event_id entry).filter keeps = [] := by
    refine List.filter_eq_nil_iff.mpr fun i hi hkeeps => ?_
    obtain ⟨u, hu, rfl⟩ := List.mem_map.mp hi
    have hu' := List.mem_filter.mp hu
    exact of_decide_eq_true hkeeps u hu'.1 (of_decide_eq_true hu'.2) rfl
  have hall := ((h entry).trans (hperm.append_left _)).filter keeps
  rw [List.filter_append, List.filter_append, hbase, hothers, hown, List.nil_append] at hall
  exact hall

end Vendors

/-! ## Spawns -/

section Spawns

variable (cfg : EventConfig) (rule : SpawnRule) (guids : ℤ → List ℕ) (active : OrderedSet ℕ)

/-- One object, which can be found, beside some that are to be removed. -/
def Spawn.one (leaving : ℕ) : Spawn where
  grid := true
  inMap := leaving + 1
  leaving := leaving
  found := true

/-- Only objects that are to be removed. -/
def Spawn.going (leaving : ℕ) : Spawn where
  grid := false
  inMap := leaving
  leaving := leaving
  found := false

/-- **When a start spawns what it should, once**: the objects exist, and a gameobject is not one of
another active event's; what it unspawns is needed by none. -/
def SpawnsStart (event_id : ℕ) : Prop :=
  (∀ g ∈ guids event_id, (rule.hasData g = true ∧ rule.isSpawnedByDefault g = true) ∧
    (rule.looksFirst = false →
      (guids event_id).count g = 1 ∧ ∀ e ∈ active.elems, g ∉ guids e)) ∧
  ∀ g ∈ guids (-event_id), g ∉ guids event_id ∧ ∀ e ∈ active.elems, g ∉ guids e

/-- **When a stop spawns nothing of a positive list** but what another active event has spawned. -/
def SpawnsStop (event_id : ℕ) : Prop :=
  ∀ g ∈ guids (-event_id), cfg.isListed guids g = true → rule.hasData g = false ∨
    rule.looksFirst = true ∧ ∃ e ∈ active.elems, e ≠ event_id ∧ g ∈ guids e

instance (event_id : ℕ) : Decidable (SpawnsStart rule guids active event_id) :=
  inferInstanceAs (Decidable ((∀ g ∈ _, _ ∧ (_ → _ ∧ ∀ e ∈ _, _)) ∧ ∀ g ∈ _, _ ∧ ∀ e ∈ _, _))

instance (event_id : ℕ) : Decidable (SpawnsStop cfg rule guids active event_id) :=
  inferInstanceAs (Decidable (∀ g ∈ _, _ → _ ∨ _ ∧ ∃ e ∈ _, _))

/-- An active event needs the guid. -/
def NeedsGuid (g : ℕ) : Prop := ∃ e ∈ active, g ∈ guids e

/-- The objects of a guid: one if it is needed, and otherwise none, but for those that are to be
removed. -/
structure Settled (needed : Prop) (g : ℕ) (s : Spawn) : Prop where
  one : needed → s = .one s.leaving ∧ rule.hasData g = true
  other : ¬needed → s = .going s.leaving

/-- The objects of the positive lists. -/
def SpawnsKept (objects : ℕ → Spawn) : Prop :=
  ∀ g, cfg.isListed guids g = true → Settled rule (NeedsGuid guids active g) g (objects g)

variable {cfg rule guids active} {objects : ℕ → Spawn} {g : ℕ} {l : List ℕ} {needed : ℕ → Bool}

variable (rule objects) in
theorem spawnAll_of_not_mem (hg : g ∉ l) : spawnAll rule l objects g = objects g := by
  unfold spawnAll
  induction l generalizing objects with
  | nil => rfl
  | cons g' l ih =>
    rw [List.mem_cons, not_or] at hg
    rw [List.foldl_cons, ih _ hg.2, Function.update_of_ne hg.1]

variable (l : List ℕ) in
theorem spawnAll_of_fixed (hload : (objects g).load rule g = objects g) :
    spawnAll rule l objects g = objects g := by
  unfold spawnAll
  induction l generalizing objects with
  | nil => rfl
  | cons g' l ih =>
    have hsame : Function.update objects g' ((objects g').load rule g') g = objects g := by
      by_cases hg : g = g'
      · subst hg
        rw [Function.update_self, hload]
      · rw [Function.update_of_ne hg]
    rw [List.foldl_cons, ih (by rw [hsame, hload]), hsame]

theorem spawnAll_of_count (hcount : l.count g = 1) :
    spawnAll rule l objects g = (objects g).load rule g := by
  unfold spawnAll
  induction l generalizing objects with
  | nil => cases hcount
  | cons g' l ih =>
    rw [List.foldl_cons]
    by_cases hg : g' = g
    · subst hg
      rw [List.count_cons_self] at hcount
      have hrest := spawnAll_of_not_mem rule
        (Function.update objects g' ((objects g').load rule g'))
        (List.count_eq_zero.mp (Nat.succ.inj hcount))
      rw [Function.update_self] at hrest
      exact hrest
    · rw [List.count_cons_of_ne hg] at hcount
      rw [ih hcount, Function.update_of_ne (Ne.symm hg)]

theorem spawnAll_of_mem (hg : g ∈ l)
    (hload : ((objects g).load rule g).load rule g = (objects g).load rule g) :
    spawnAll rule l objects g = (objects g).load rule g := by
  unfold spawnAll
  induction l generalizing objects with
  | nil => cases hg
  | cons g' l ih =>
    rw [List.foldl_cons]
    by_cases hsame : g = g'
    · subst hsame
      have hload' : (Function.update objects g ((objects g).load rule g) g).load rule g =
          Function.update objects g ((objects g).load rule g) g := by
        rw [Function.update_self, hload]
      have hrest := spawnAll_of_fixed l hload'
      rw [Function.update_self] at hrest
      exact hrest
    · have hkept : Function.update objects g' ((objects g').load rule g') g = objects g :=
        Function.update_of_ne hsame _ _
      rw [ih ((List.mem_cons.mp hg).resolve_left hsame) (by rw [hkept, hload]), hkept]

theorem load_going (hdata : rule.hasData g = true) (hdefault : rule.isSpawnedByDefault g = true)
    (n : ℕ) : Spawn.load rule g (.going n) = .one n := by
  simp [Spawn.load, hdata, hdefault, Spawn.going, Spawn.one]

theorem load_one (hlooks : rule.looksFirst = true) (n : ℕ) :
    Spawn.load rule g (.one n) = .one n := by
  unfold Spawn.load
  split
  · rw [hlooks]
    rfl
  · rfl

theorem load_of_no_data (hdata : rule.hasData g = false) (s : Spawn) : s.load rule g = s := by
  unfold Spawn.load
  rw [hdata, if_neg Bool.false_ne_true]

theorem unspawnAll_of_needed (hg : g ∈ l → needed g = true) :
    unspawnAll rule needed l objects g = objects g := by
  unfold unspawnAll
  induction l generalizing objects with
  | nil => rfl
  | cons g' l ih =>
    rw [List.foldl_cons, ih fun h => hg (List.mem_cons_of_mem _ h)]
    split
    · rfl
    · rename_i hneeded
      refine Function.update_of_ne ?_ _ _
      rintro rfl
      exact hneeded (hg List.mem_cons_self)

theorem unspawnAll_of_fixed (needed : ℕ → Bool) (l : List ℕ)
    (hunload : (objects g).unload rule g = objects g) :
    unspawnAll rule needed l objects g = objects g := by
  unfold unspawnAll
  induction l generalizing objects with
  | nil => rfl
  | cons g' l ih =>
    have hsame : (if needed g' then objects
        else Function.update objects g' ((objects g').unload rule g')) g = objects g := by
      split
      · rfl
      · by_cases hg : g = g'
        · subst hg
          rw [Function.update_self, hunload]
        · rw [Function.update_of_ne hg]
    rw [List.foldl_cons, ih (by rw [hsame, hunload]), hsame]

theorem unspawnAll_of_mem (hg : g ∈ l) (hneeded : needed g = false)
    (hunload : ((objects g).unload rule g).unload rule g = (objects g).unload rule g) :
    unspawnAll rule needed l objects g = (objects g).unload rule g := by
  unfold unspawnAll
  induction l generalizing objects with
  | nil => cases hg
  | cons g' l ih =>
    rw [List.foldl_cons]
    by_cases hsame : g = g'
    · subst hsame
      rw [hneeded, if_neg Bool.false_ne_true]
      have hunload' : (Function.update objects g ((objects g).unload rule g) g).unload rule g =
          Function.update objects g ((objects g).unload rule g) g := by
        rw [Function.update_self, hunload]
      have hrest := unspawnAll_of_fixed needed l hunload'
      rw [Function.update_self] at hrest
      exact hrest
    · have hkept : (if needed g' then objects
          else Function.update objects g' ((objects g').unload rule g')) g = objects g := by
        split
        · rfl
        · exact Function.update_of_ne hsame _ _
      rw [ih ((List.mem_cons.mp hg).resolve_left hsame) (by rw [hkept, hunload]), hkept]

theorem unload_one (hdata : rule.hasData g = true) (n : ℕ) :
    Spawn.unload rule g (.one n) = .going (n + 1) := by
  unfold Spawn.unload
  rw [if_pos hdata]
  rfl

theorem unload_going (n : ℕ) : Spawn.unload rule g (.going n) = .going n := by
  unfold Spawn.unload
  split <;> rfl

theorem unspawnAll_of_going {n : ℕ} (h : objects g = .going n) :
    unspawnAll rule needed l objects g = objects g :=
  unspawnAll_of_fixed needed l (by rw [h, unload_going])

section

variable (h : SpawnsKept cfg rule guids active objects)
include h

/-- **A start keeps the objects of the positive lists.** -/
theorem SpawnsKept.start {event_id : ℕ} (hstart : SpawnsStart rule guids active event_id)
    (needed : ℕ → Bool) :
    SpawnsKept cfg rule guids (active.insert event_id)
      (unspawnAll rule needed (guids (-event_id)) (spawnAll rule (guids event_id) objects)) := by
  obtain ⟨hspawn, hunspawn⟩ := hstart
  intro g hlisted
  have hg := h g hlisted
  have hneeds : NeedsGuid guids (active.insert event_id) g ↔
      g ∈ guids event_id ∨ NeedsGuid guids active g := by
    constructor
    · rintro ⟨e, he, hmem⟩
      rcases mem_insert.mp he with rfl | he
      · exact .inl hmem
      · exact .inr ⟨e, he, hmem⟩
    · rintro (hmem | ⟨e, he, hmem⟩)
      · exact ⟨event_id, mem_insert.mpr (.inl rfl), hmem⟩
      · exact ⟨e, mem_insert.mpr (.inr he), hmem⟩
  have hkept : g ∈ guids event_id ∨ NeedsGuid guids active g →
      ∀ objects', unspawnAll rule needed (guids (-event_id)) objects' g = objects' g := by
    intro hneeded objects'
    refine unspawnAll_of_needed fun hneg => absurd hneeded ?_
    rintro (hmem | ⟨e, he, hmem⟩)
    · exact (hunspawn g hneg).1 hmem
    · exact (hunspawn g hneg).2 e he hmem
  refine ⟨fun hneeded => ?_, fun hnot => ?_⟩
  · rw [hneeds] at hneeded
    rw [hkept hneeded]
    by_cases hmem : g ∈ guids event_id
    · obtain ⟨⟨hdata, hdefault⟩, honce⟩ := hspawn g hmem
      by_cases hactive : NeedsGuid guids active g
      · -- a creature that is there is not loaded again
        cases hlooks : rule.looksFirst with
        | false =>
          obtain ⟨e, he, hmem'⟩ := hactive
          exact absurd hmem' ((honce hlooks).2 e he)
        | true =>
          have hone := (hg.one hactive).1
          rw [spawnAll_of_fixed _ (by rw [hone, load_one hlooks])]
          exact ⟨hone, hdata⟩
      · have hload : (objects g).load rule g = .one (objects g).leaving := by
          rw [hg.other hactive, load_going hdata hdefault]
          rfl
        have hone : spawnAll rule (guids event_id) objects g = .one (objects g).leaving := by
          cases hlooks : rule.looksFirst with
          | false => rw [spawnAll_of_count (honce hlooks).1, hload]
          | true => rw [spawnAll_of_mem hmem (by rw [hload, load_one hlooks]), hload]
        rw [hone]
        exact ⟨rfl, hdata⟩
    · rw [spawnAll_of_not_mem rule objects hmem]
      exact hg.one (hneeded.resolve_left hmem)
  · rw [hneeds, not_or] at hnot
    have hsame := spawnAll_of_not_mem rule objects hnot.1
    have hother := hg.other hnot.2
    rw [unspawnAll_of_going (hsame.trans hother), hsame]
    exact hother

theorem SpawnsKept.stop {event_id : ℕ} (hevent : event_id ∈ active)
    (hstop : SpawnsStop cfg rule guids active event_id) {keeps : ℕ → Bool}
    (hkeeps : ∀ g, keeps g = hasActiveEventExcept guids (active.erase event_id) g event_id) :
    SpawnsKept cfg rule guids (active.erase event_id)
      (spawnAll rule (guids (-event_id)) (unspawnAll rule keeps (guids event_id) objects)) := by
  intro g hlisted
  have hg := h g hlisted
  have hexcept : keeps g = true ↔ NeedsGuid guids (active.erase event_id) g := by
    rw [hkeeps]
    simp only [hasActiveEventExcept, List.any_eq_true, Bool.and_eq_true, decide_eq_true_eq,
      List.contains_iff_mem]
    refine exists_congr fun e => and_congr_right fun he => and_iff_right ?_
    exact (mem_erase.mp he).2
  have hneeds : NeedsGuid guids active g ↔
      g ∈ guids event_id ∨ NeedsGuid guids (active.erase event_id) g := by
    constructor
    · rintro ⟨e, he, hmem⟩
      by_cases hne : e = event_id
      · exact .inl (hne ▸ hmem)
      · exact .inr ⟨e, mem_erase.mpr ⟨he, hne⟩, hmem⟩
    · rintro (hmem | ⟨e, he, hmem⟩)
      · exact ⟨event_id, hevent, hmem⟩
      · exact ⟨e, (mem_erase.mp he).1, hmem⟩
  generalize hleft : unspawnAll rule keeps (guids event_id) objects = left
  refine ⟨fun hneeded => ?_, fun hnot => ?_⟩
  · -- another active event keeps it
    obtain ⟨hone, hdata⟩ := hg.one (hneeds.mpr (.inr hneeded))
    have hkept : left g = objects g := by
      rw [← hleft, unspawnAll_of_needed fun _ => hexcept.mpr hneeded]
    have hsame : spawnAll rule (guids (-event_id)) left g = left g := by
      by_cases hneg : g ∈ guids (-event_id)
      · rcases hstop g hneg hlisted with hno | ⟨hlooks, -⟩
        · rw [hno] at hdata
          cases hdata
        · exact spawnAll_of_fixed _ (by rw [hkept, hone, load_one hlooks])
      · exact spawnAll_of_not_mem rule left hneg
    rw [hsame, hkept]
    exact ⟨hone, hdata⟩
  · have hother : left g = .going (left g).leaving := by
      rw [← hleft]
      by_cases hmem : g ∈ guids event_id
      · obtain ⟨hone, hdata⟩ := hg.one (hneeds.mpr (.inl hmem))
        have hno : keeps g = false := Bool.eq_false_iff.mpr fun hyes => hnot (hexcept.mp hyes)
        have hunload : (objects g).unload rule g = .going ((objects g).leaving + 1) := by
          rw [hone, unload_one hdata]
          rfl
        rw [unspawnAll_of_mem hmem hno (by rw [hunload, unload_going]), hunload]
        rfl
      · rw [unspawnAll_of_needed fun hmem' => absurd hmem' hmem]
        exact hg.other fun hneeded => hnot ((hneeds.mp hneeded).resolve_left hmem)
    have hneg : spawnAll rule (guids (-event_id)) left g = left g := by
      by_cases hneg : g ∈ guids (-event_id)
      · rcases hstop g hneg hlisted with hno | ⟨-, e, he, hne, hmem⟩
        · exact spawnAll_of_fixed _ (load_of_no_data hno _)
        · exact absurd ⟨e, mem_erase.mpr ⟨he, hne⟩, hmem⟩ hnot
      · exact spawnAll_of_not_mem rule left hneg
    rw [hneg]
    exact hother

/-- **An update of the map** removes what is to be removed. -/
theorem SpawnsKept.update : SpawnsKept cfg rule guids active fun g => (objects g).update := by
  intro g hlisted
  change Settled rule _ g (objects g).update
  refine ⟨fun hneeded => ?_, fun hnot => ?_⟩
  · obtain ⟨hone, hdata⟩ := (h g hlisted).one hneeded
    refine ⟨?_, hdata⟩
    rw [hone, Spawn.update, Spawn.one, Nat.add_sub_cancel_left]
    rfl
  · rw [(h g hlisted).other hnot, Spawn.update, Spawn.going, Nat.sub_self]
    rfl

theorem SpawnsKept.spawned (hlisted : cfg.isListed guids g = true) :
    (NeedsGuid guids active g → (objects g).spawned = 1) ∧
      (¬NeedsGuid guids active g → (objects g).spawned = 0) := by
  refine ⟨fun hneeded => ?_, fun hnot => ?_⟩
  · rw [((h g hlisted).one hneeded).1, Spawn.spawned, Spawn.one, Nat.add_sub_cancel_left]
  · rw [(h g hlisted).other hnot, Spawn.spawned, Spawn.going, Nat.sub_self]

end

end Spawns

/-! ## Runs -/

section Runs

variable (cfg : EventConfig) (base : EventWorld)

def Proper (w : EventWorld) : EventOp → Prop
  | .start event_id => (0 < event_id ∧ event_id < cfg.size) ∧ event_id ∉ w.m_ActiveEvents
  | .stop event_id => event_id ∈ w.m_ActiveEvents
  | .updateMaps => True

def Harmless (w : EventWorld) : EventOp → Prop
  | .start event_id =>
    SpawnsStart cfg.creatureRule cfg.creatureGuids w.m_ActiveEvents event_id ∧
      SpawnsStart cfg.gameobjectRule cfg.gameobjectGuids w.m_ActiveEvents event_id
  | .stop event_id =>
    (SpawnsStop cfg cfg.creatureRule cfg.creatureGuids w.m_ActiveEvents event_id ∧
      SpawnsStop cfg cfg.gameobjectRule cfg.gameobjectGuids w.m_ActiveEvents event_id) ∧
    (RelationsStop cfg.mGameEventCreatureQuests base.creatureQuests w.m_ActiveEvents event_id
        w.creatureQuests ∧
      RelationsStop cfg.mGameEventGameObjectQuests base.gameObjectQuests w.m_ActiveEvents event_id
        w.gameObjectQuests) ∧
    VendorsStop cfg base.vendorItems w.m_ActiveEvents event_id
  | .updateMaps => True

def Allowed (w : EventWorld) (op : EventOp) : Prop := Proper cfg w op ∧ Harmless cfg base w op

instance (w : EventWorld) : ∀ op, Decidable (Proper cfg w op)
  | .start _ => inferInstanceAs (Decidable ((_ ∧ _) ∧ _))
  | .stop event_id => inferInstanceAs (Decidable (event_id ∈ w.m_ActiveEvents))
  | .updateMaps => instDecidableTrue

instance (w : EventWorld) : ∀ op, Decidable (Harmless cfg base w op)
  | .start _ => inferInstanceAs (Decidable (_ ∧ _))
  | .stop _ => inferInstanceAs (Decidable ((_ ∧ _) ∧ (_ ∧ _) ∧ _))
  | .updateMaps => instDecidableTrue

instance (w : EventWorld) (op : EventOp) : Decidable (Allowed cfg base w op) :=
  inferInstanceAs (Decidable (_ ∧ _))

/-- **The world is what the active events make of it.** -/
structure SideEffectsSound (w : EventWorld) : Prop where
  creatureQuests : ∀ r, r ∈ w.creatureQuests ↔
    r ∈ base.creatureQuests ∨ ∃ e ∈ w.m_ActiveEvents.elems, r ∈ cfg.mGameEventCreatureQuests e
  gameObjectQuests : ∀ r, r ∈ w.gameObjectQuests ↔
    r ∈ base.gameObjectQuests ∨ ∃ e ∈ w.m_ActiveEvents.elems, r ∈ cfg.mGameEventGameObjectQuests e
  vendors : VendorsKept cfg base.vendorItems w.m_ActiveEvents w.vendorItems
  creatures : ∀ g, cfg.isListed cfg.creatureGuids g = true →
    (NeedsGuid cfg.creatureGuids w.m_ActiveEvents g → (w.creatures g).spawned = 1) ∧
      (¬NeedsGuid cfg.creatureGuids w.m_ActiveEvents g → (w.creatures g).spawned = 0)
  gameobjects : ∀ g, cfg.isListed cfg.gameobjectGuids g = true →
    (NeedsGuid cfg.gameobjectGuids w.m_ActiveEvents g → (w.gameobjects g).spawned = 1) ∧
      (¬NeedsGuid cfg.gameobjectGuids w.m_ActiveEvents g → (w.gameobjects g).spawned = 0)

/-- What every allowed start and stop keeps. -/
structure Kept (w : EventWorld) : Prop where
  range : ∀ e ∈ w.m_ActiveEvents, 0 < e
  creatureQuests : RelationsKept cfg.mGameEventCreatureQuests base.creatureQuests w.m_ActiveEvents
    w.creatureQuests
  gameObjectQuests : RelationsKept cfg.mGameEventGameObjectQuests base.gameObjectQuests
    w.m_ActiveEvents w.gameObjectQuests
  vendors : VendorsKept cfg base.vendorItems w.m_ActiveEvents w.vendorItems
  creatures : SpawnsKept cfg cfg.creatureRule cfg.creatureGuids w.m_ActiveEvents w.creatures
  gameobjects : SpawnsKept cfg cfg.gameobjectRule cfg.gameobjectGuids w.m_ActiveEvents w.gameobjects

variable {cfg base} {w : EventWorld}

theorem Kept.sound (h : Kept cfg base w) : SideEffectsSound cfg base w where
  creatureQuests := h.creatureQuests.mem_iff
  gameObjectQuests := h.gameObjectQuests.mem_iff
  vendors := h.vendors
  creatures _ hg := h.creatures.spawned hg
  gameobjects _ hg := h.gameobjects.spawned hg

theorem Kept.step (h : Kept cfg base w) {op : EventOp} (hallowed : Allowed cfg base w op) :
    Kept cfg base (step cfg w op) := by
  obtain ⟨hproper, hharmless⟩ := hallowed
  cases op with
  | start event_id =>
    refine ⟨fun e he => ?_, h.creatureQuests.start event_id, h.gameObjectQuests.start event_id,
      h.vendors.start hproper.2, h.creatures.start hharmless.1 _,
      h.gameobjects.start hharmless.2 _⟩
    rcases mem_insert.mp he with rfl | he
    · exact hproper.1.1
    · exact h.range e he
  | stop event_id =>
    have hevent : event_id ∈ w.m_ActiveEvents := hproper
    have hpos : (0 : ℤ) < event_id := Int.natCast_pos.mpr (h.range event_id hevent)
    obtain ⟨⟨hcreatures, hgameobjects⟩, ⟨hcreatureQuests, hgameObjectQuests⟩, hvendors⟩ := hharmless
    refine ⟨fun e he => h.range e (mem_erase.mp he).1,
      h.creatureQuests.stop hevent hcreatureQuests,
        h.gameObjectQuests.stop hevent hgameObjectQuests,
      h.vendors.stop hevent hvendors, h.creatures.stop hevent hcreatures fun _ => ?_,
      h.gameobjects.stop hevent hgameobjects fun _ => ?_⟩
    · rw [decide_eq_true hpos, Bool.true_and]
      rfl
    · rw [decide_eq_true hpos, Bool.true_and]
      rfl
  | updateMaps =>
    exact ⟨h.range, h.creatureQuests, h.gameObjectQuests, h.vendors, h.creatures.update,
      h.gameobjects.update⟩

theorem kept_start (cfg : EventConfig) (base : EventWorld) : Kept cfg base (.start cfg base) := by
  have hnone : ∀ e, e ∉ (EventWorld.start cfg base).m_ActiveEvents :=
    not_mem_empty
  have hrelations : ∀ (quests : ℕ → List QuestRelation) (l : List QuestRelation),
      RelationsKept quests l (EventWorld.start cfg base).m_ActiveEvents l :=
    fun quests l => ⟨fun r => le_rfl, fun e he => absurd he (hnone e), fun r hr => .inl hr⟩
  have hspawns : ∀ (rule : SpawnRule) (guids : ℤ → List ℕ) (objects : ℕ → Spawn),
      SpawnsKept cfg rule guids (EventWorld.start cfg base).m_ActiveEvents
        fun g => if cfg.isListed guids g then .none else objects g := by
    intro rule guids objects g hlisted
    refine ⟨fun hneeded => ?_, fun _ => ?_⟩
    · obtain ⟨e, he, -⟩ := hneeded
      exact absurd he (hnone e)
    · dsimp only
      rw [if_pos hlisted]
      rfl
  refine ⟨fun e he => absurd he (hnone e), hrelations _ _, hrelations _ _, fun entry => ?_,
    hspawns _ _ _, hspawns _ _ _⟩
  change (base.vendorItems entry).Perm (base.vendorItems entry ++ [])
  rw [List.append_nil]

/-- **After every run of allowed starts and stops** the world is what the active events make of
it. -/
theorem sideEffects_run (cfg : EventConfig) (base : EventWorld) {ops : List EventOp}
    (h : Admissible (step cfg) (Allowed cfg base) (.start cfg base) ops) :
    SideEffectsSound cfg base (run (step cfg) (.start cfg base) ops) :=
  Kept.sound (run_invariant (Kept cfg base) (fun _ _ hw hok => hw.step hok) (kept_start cfg base) h)

/-! ## Two events that overlap -/

/-- The world without relations, items and objects. -/
def EventWorld.bare : EventWorld where
  m_ActiveEvents := .empty
  creatureQuests := []
  gameObjectQuests := []
  vendorItems _ := []
  creatures _ := .none
  gameobjects _ := .none

/-- Two events that give quests, put an item each into the list of the vendor 7, and both spawn the
creature 10. -/
def EventConfig.quests (questOf : ℕ → List QuestRelation) : EventConfig where
  size := 3
  mGameEventCreatureQuests := questOf
  mGameEventGameObjectQuests _ := []
  mGameEventVendors e := [⟨7, e, 0, 0, 0⟩]
  mGameEventCreatureGuids e := if 0 < e then [10] else []
  mGameEventGameobjectGuids _ := []
  hasCreatureData _ := true
  hasGOData _ := true
  isSpawnedByDefault _ := true

theorem sideEffects_run_overlap :
    SideEffectsSound (.quests fun e => [(1, e)]) .bare
      (run (step (.quests fun e => [(1, e)])) (.start (.quests fun e => [(1, e)]) .bare)
        [.start 1, .start 2, .stop 1, .stop 2, .start 1, .updateMaps]) := by
  have hallowed : Admissible (step (.quests fun e => [(1, e)]))
      (Allowed (.quests fun e => [(1, e)]) .bare) (.start (.quests fun e => [(1, e)]) .bare)
      [.start 1, .start 2, .stop 1, .stop 2, .start 1, .updateMaps] := by
    decide +kernel
  exact sideEffects_run _ _ hallowed

/-- The world is what the active events make of it, whatever they are. -/
def AlwaysSound : Prop :=
  ∀ cfg base ops, Admissible (step cfg) (Proper cfg) (.start cfg base) ops →
    SideEffectsSound cfg base (run (step cfg) (.start cfg base) ops)

/-- **A relation of two events stays when both have stopped.** -/
theorem relation_of_two_events_stays : ¬AlwaysSound := by
  intro hall
  have hproper : Admissible (step (.quests fun _ => [(1, 5)]))
      (Proper (.quests fun _ => [(1, 5)])) (.start (.quests fun _ => [(1, 5)]) .bare)
      [.start 1, .start 2, .stop 1, .stop 2] := by
    decide +kernel
  have hstays : (1, 5) ∈ (run (step (.quests fun _ => [(1, 5)]))
      (.start (.quests fun _ => [(1, 5)]) .bare)
      [.start 1, .start 2, .stop 1, .stop 2]).creatureQuests := by
    decide +kernel
  rcases ((hall _ _ _ hproper).creatureQuests _).mp hstays with hbase | ⟨e, he, -⟩
  · cases hbase
  · have hnone : (run (step (.quests fun _ => [(1, 5)]))
        (.start (.quests fun _ => [(1, 5)]) .bare)
        [.start 1, .start 2, .stop 1, .stop 2]).m_ActiveEvents.elems = [] := by
      decide +kernel
    rw [hnone] at he
    cases he

end Runs

end TeraCore.GameEvents
