import TeraCore.Maps.MapManager
import TeraCore.Commons.Run

/-!
# Instance ids: no id is handed out twice

The vector of bits is sized by rounding an id up to a multiple of 32, which leaves a multiple of
32 as it is.  The bit of such an id is outside of the vector.  Its id is then free for the search,
and can be handed out while it is live.

Wherever the vector gets larger than the id and an id is left for the next time, every bit is
written inside, and every id that is handed out is new.

## Main results

* `lt_roundUp_iff`: when rounding makes room for an id
* `InstanceIds.sound_after`: the ids after every run that fits
* `InstanceIds.not_sound_after_load`: a stored id that is a multiple of 32
-/

namespace TeraCore

open Commons OrderedSet

/-! ## Rounding -/

/-- Rounding makes room for an id, if it is not a multiple of 32 and not among the last ones. -/
theorem lt_roundUp_iff {id : ℕ} (h : id < 2 ^ 32) :
    id < roundUp id ↔ id % 32 ≠ 0 ∧ id < 2 ^ 32 - 32 := by
  unfold roundUp word
  split_ifs with hmod
  · constructor
    · intro hlt
      refine ⟨hmod.ne', ?_⟩
      by_contra hle
      -- The last multiple of 32 is rounded up to zero.
      have hsum : id / 32 * 32 + 32 = 2 ^ 32 := by omega
      rw [hsum, Nat.mod_self] at hlt
      exact Nat.not_lt_zero _ hlt
    · rintro ⟨-, hlt⟩
      rw [Nat.mod_eq_of_lt (by omega)]
      omega
  · rw [Nat.add_zero, Nat.mod_eq_of_lt (by omega)]
    omega

/-! ## The bits -/

theorem length_resize (bits : List Bool) (size : ℕ) : (resize bits size).length = size := by
  rw [resize, List.length_append, List.length_take, List.length_replicate]
  omega

theorem getElem?_resize_eq_true {bits : List Bool} {size : ℕ} (h : bits.length ≤ size) (i : ℕ) :
    (resize bits size)[i]? = some true ↔ bits[i]? = some true := by
  rw [resize, List.take_of_length_le h, List.getElem?_append]
  split_ifs with hi
  · rfl
  · rw [List.getElem?_replicate, List.getElem?_eq_none (Nat.le_of_not_lt hi)]
    split_ifs <;> simp

theorem getElem?_set_eq_true {bits : List Bool} {id : ℕ} (h : id < bits.length) (i : ℕ) :
    (bits.set id true)[i]? = some true ↔ i = id ∨ bits[i]? = some true := by
  rw [List.getElem?_set]
  split_ifs with hi
  · exact iff_of_true rfl (.inl hi.symm)
  · rw [or_iff_right (Ne.symm hi)]

theorem getElem?_unset_eq_true (bits : List Bool) (id i : ℕ) :
    (bits.set id false)[i]? = some true ↔ bits[i]? = some true ∧ i ≠ id := by
  rw [List.getElem?_set]
  split_ifs with hi hlt
  · simp [hi]
  · subst hi
    simp [List.getElem?_eq_none (Nat.le_of_not_lt hlt)]
  · rw [and_iff_left (Ne.symm hi)]

namespace MapManager

variable {ids : List Bool}

theorem isFree_iff {i : ℕ} : isFree ids i = true ↔ ids[i]? ≠ some true := by
  rw [isFree, Bool.or_eq_true, Bool.and_eq_true, decide_eq_true_iff, decide_eq_true_iff]
  by_cases h : i < ids.length
  · simp [h, List.getD, Nat.not_le.mpr h]
  · simp [Nat.le_of_not_lt h]

theorem searchFree_spec {id : ℕ} (hid : id < lastWord)
    (h : ∃ i, id < i ∧ i < lastWord ∧ isFree ids i = true) :
    id < searchFree ids id ∧ isFree ids (searchFree ids id) = true := by
  obtain ⟨i, hlt, hlast, hfree⟩ := h
  have hword : word (id + 1) = id + 1 := word_of_lt (by unfold lastWord at hid; omega)
  rw [searchFree, hword]
  -- The id, or the first one beyond the bits, is among those that are looked at.
  have hsome : ((List.range' (id + 1) (ids.length + 1)).find? fun i =>
      decide (i < lastWord) && isFree ids i).isSome = true := by
    rw [List.find?_isSome]
    by_cases hle : i ≤ id + 1 + ids.length
    · exact ⟨i, by rw [List.mem_range'_1]; omega, by simp [hlast, hfree]⟩
    · refine ⟨id + 1 + ids.length, by rw [List.mem_range'_1]; omega, ?_⟩
      have hbeyond : isFree ids (id + 1 + ids.length) = true := by
        rw [isFree_iff, List.getElem?_eq_none (by omega)]
        exact fun h => nomatch h
      simp only [hbeyond, Bool.and_true, decide_eq_true_eq]
      omega
  obtain ⟨j, hj⟩ := Option.isSome_iff_exists.mp hsome
  have hmem := List.mem_of_find?_eq_some hj
  have hsat := List.find?_some hj
  rw [List.mem_range'_1] at hmem
  rw [hj, Option.getD_some]
  exact ⟨hmem.1, (Bool.and_eq_true_iff.mp hsat).2⟩

theorem searchFree_last {id : ℕ} (h : id + 1 = lastWord) :
    searchFree ids id = lastWord := by
  have hword : word (id + 1) = lastWord := by rw [h]; rfl
  have hnone : ((List.range' lastWord (ids.length + 1)).find? fun i =>
      decide (i < lastWord) && isFree ids i) = none := by
    rw [List.find?_eq_none]
    intro i hi
    rw [List.mem_range'_1] at hi
    simp [Nat.not_lt.mpr hi.1]
  rw [searchFree, hword, hnone, Option.getD_none]

end MapManager

namespace InstanceIds

/-! ## What is claimed -/

/-- A write is inside of its vector, and an id that is handed out is not zero and not live. -/
def Proper : IdEvent → Prop
  | .wrote index size => index < size
  | .returned id live => id ≠ 0 ∧ id ∉ live

/-- **The ids are sound**: all that has happened is proper, and no live id is handed out next. -/
def Sound (w : InstanceIds) : Prop := (∀ e ∈ w.log, Proper e) ∧ w.mgr.nextInstanceId ∉ w.live

/-- Ids are handed out below the last word, from a vector for which something has been allocated,
and live ids are freed. -/
def Allowed (w : InstanceIds) : Op → Prop
  | .generateInstanceId capacity =>
    w.mgr.instanceIds.length ≤ capacity ∧ w.mgr.nextInstanceId < lastWord
  | .freeInstanceId id => id ∈ w.live

/-- Rounding makes room for an id. -/
def Rounds (id : ℕ) : Prop := id % 32 ≠ 0 ∧ id < 2 ^ 32 - 32

instance (w : InstanceIds) : ∀ op, Decidable (w.Allowed op)
  | .generateInstanceId _ => inferInstanceAs (Decidable (_ ∧ _))
  | .freeInstanceId _ => inferInstanceAs (Decidable (_ ∈ _))

instance (id : ℕ) : Decidable (Rounds id) := inferInstanceAs (Decidable (_ ∧ _))

/-- The largest stored id has room. -/
def FitsLoad (stored : OrderedSet ℕ) : Prop := ∀ id, stored.elems.getLast? = some id → Rounds id

/-- **The next id has room**: it is below the size, or more is allocated than the vector has and
the id is below that, or rounding makes room for it. And some id is free after it. -/
def Fits (w : InstanceIds) : Op → Prop
  | .generateInstanceId capacity =>
    (w.mgr.nextInstanceId < word w.mgr.instanceIds.length ∨
      (w.mgr.instanceIds.length < capacity ∧ w.mgr.nextInstanceId < capacity) ∨
      (capacity ≤ w.mgr.instanceIds.length ∧ w.mgr.instanceIds.length < 2 ^ 32 ∧
        Rounds w.mgr.nextInstanceId)) ∧
    (w.mgr.nextInstanceId + 1 = lastWord ∨ ∃ i, w.mgr.nextInstanceId < i ∧ i < lastWord ∧
      MapManager.isFree w.mgr.instanceIds i = true)
  | .freeInstanceId _ => True

/-! ## The invariant -/

/-- **The bits are the live ids**, and the next id is none of them. -/
structure Represented (w : InstanceIds) : Prop where
  bits : ∀ i, w.mgr.instanceIds[i]? = some true ↔ i ∈ w.live
  live : ∀ i ∈ w.live, 0 < i ∧ i < lastWord
  next_pos : 0 < w.mgr.nextInstanceId
  sound : w.Sound

variable {w : InstanceIds}

theorem Represented.lt_length (h : w.Represented) {i : ℕ} (hi : i ∈ w.live) :
    i < w.mgr.instanceIds.length :=
  (List.getElem?_eq_some_iff.mp ((h.bits i).mpr hi)).1

theorem Represented.isFree_iff (h : w.Represented) {i : ℕ} :
    MapManager.isFree w.mgr.instanceIds i = true ↔ i ∉ w.live := by
  rw [MapManager.isFree_iff, Ne, h.bits i]

theorem proper_cons {e : IdEvent} {log : List IdEvent} (he : Proper e)
    (h : ∀ e ∈ log, Proper e) : ∀ e' ∈ e :: log, Proper e' := by
  intro e' he'
  rcases List.mem_cons.mp he' with rfl | hmem
  · exact he
  · exact h e' hmem

/-! ## The startup -/

/-- **One stored id**, larger than the ones before it. -/
theorem Represented.register (h : w.Represented) {id : ℕ} (hpos : 0 < id)
    (hlt : id < w.mgr.instanceIds.length) (hbound : id + 1 < lastWord)
    (hlarger : ∀ i ∈ w.live, i < id) : (w.register id).Represented := by
  have hsucc : word (id + 1) = id + 1 := word_of_lt (hbound.trans (by decide))
  have hids : (if w.mgr.nextInstanceId = id then w.mgr.setNextInstanceId (word (id + 1))
      else w.mgr).instanceIds = w.mgr.instanceIds := by split <;> rfl
  refine ⟨fun i => ?_, fun i hi => ?_, ?_, ⟨?_, ?_⟩⟩
  · rw [InstanceIds.register, MapManager.registerInstanceId, hids, getElem?_set_eq_true hlt,
      h.bits i, mem_insert]
  · rcases mem_insert.mp hi with rfl | hi
    · exact ⟨hpos, (Nat.lt_succ_self _).trans hbound⟩
    · exact h.live i hi
  · simp only [InstanceIds.register, MapManager.registerInstanceId]
    split
    · rw [hsucc]
      exact Nat.succ_pos id
    · exact h.next_pos
  · exact proper_cons (by rw [Proper, hids]; exact hlt) h.sound.1
  · simp only [InstanceIds.register, MapManager.registerInstanceId, mem_insert]
    split
    · next hnext =>
      -- All the ids so far are below the one after the registered one.
      rw [MapManager.setNextInstanceId, hsucc]
      rintro (heq | hmem)
      · exact absurd heq (Nat.succ_ne_self id)
      · exact absurd (hlarger _ hmem) (Nat.not_lt.mpr (Nat.le_succ id))
    · next hnext =>
      rintro (heq | hmem)
      · exact hnext heq
      · exact h.sound.2 hmem

theorem represented_foldl {ids : List ℕ} (hsorted : ids.Pairwise (· < ·)) (h : w.Represented)
    (hids : ∀ id ∈ ids, 0 < id ∧ id < w.mgr.instanceIds.length ∧ id + 1 < lastWord)
    (hlarger : ∀ id ∈ ids, ∀ i ∈ w.live, i < id) :
    (ids.foldl InstanceIds.register w).Represented := by
  induction ids generalizing w with
  | nil => exact h
  | cons id ids ih =>
    obtain ⟨hpos, hlt, hbound⟩ := hids id List.mem_cons_self
    obtain ⟨hfirst, hrest⟩ := List.pairwise_cons.mp hsorted
    have hlength : (w.register id).mgr.instanceIds.length = w.mgr.instanceIds.length := by
      simp only [InstanceIds.register, MapManager.registerInstanceId, List.length_set]
      split <;> rfl
    refine ih hrest (h.register hpos hlt hbound (hlarger id List.mem_cons_self)) ?_ ?_
    · intro id' hid'
      rw [hlength]
      exact hids id' (List.mem_cons_of_mem _ hid')
    · intro id' hid' i hi
      rcases mem_insert.mp hi with rfl | hi
      · exact hfirst id' hid'
      · exact hlarger id' (List.mem_cons_of_mem _ hid') i hi

/-- **The startup**: the largest id has room, so all have. -/
theorem represented_load {stored : OrderedSet ℕ} (hpos : ∀ id ∈ stored, 0 < id)
    (hfits : FitsLoad stored) : (load stored).Represented := by
  have hstart : Represented ⟨MapManager.new.initInstanceIds (stored.elems.getLast?.getD 0),
      OrderedSet.empty, []⟩ := by
    refine ⟨fun i => ?_, fun i hi => absurd hi (not_mem_empty i), Nat.one_pos,
      fun e he => absurd he List.not_mem_nil, not_mem_empty _⟩
    rw [MapManager.initInstanceIds, getElem?_resize_eq_true (Nat.zero_le _)]
    exact iff_of_false (by simp [MapManager.new]) (not_mem_empty i)
  refine represented_foldl stored.sorted hstart (fun id hid => ?_)
    fun _ _ i hi => absurd hi (not_mem_empty i)
  obtain ⟨last, hlast⟩ := Option.isSome_iff_exists.mp (List.getLast?_isSome.mpr
    (List.ne_nil_of_mem hid))
  obtain ⟨hmod, hbound⟩ := hfits last hlast
  have hle : id ≤ last := by
    obtain ⟨init, hinit⟩ := List.getLast?_eq_some_iff.mp hlast
    have hsorted := stored.sorted
    rw [hinit, List.pairwise_append] at hsorted
    rw [hinit, List.mem_append, List.mem_singleton] at hid
    rcases hid with hid | rfl
    · exact (hsorted.2.2 id hid last (List.mem_singleton_self _)).le
    · exact le_rfl
  have hround : last < roundUp last := (lt_roundUp_iff (by omega)).mpr ⟨hmod, hbound⟩
  refine ⟨hpos id hid, ?_, ?_⟩
  · rw [hlast, Option.getD_some, MapManager.initInstanceIds, length_resize]
    exact hle.trans_lt hround
  · unfold lastWord
    omega

/-! ## Handing out and freeing -/

/-- **The vector gets large enough**, and keeps what it had. -/
theorem allocate_spec {capacity : ℕ} (hfits : w.Fits (.generateInstanceId capacity)) :
    w.mgr.nextInstanceId <
        (MapManager.allocate w.mgr.instanceIds capacity w.mgr.nextInstanceId).length ∧
      ∀ i : ℕ, (MapManager.allocate w.mgr.instanceIds capacity w.mgr.nextInstanceId)[i]? =
        some true ↔
        w.mgr.instanceIds[i]? = some true := by
  rw [MapManager.allocate]
  obtain ⟨hroom | ⟨hspare, hroom⟩ | ⟨hfull, hword, hround⟩, -⟩ := hfits
  · rw [if_neg (Nat.not_le.mpr hroom)]
    exact ⟨hroom.trans_le (Nat.mod_le _ _), fun i => Iff.rfl⟩
  · split_ifs with hle
    · rw [length_resize]
      exact ⟨hroom, getElem?_resize_eq_true hspare.le⟩
    · exact ⟨(Nat.lt_of_not_le hle).trans_le (Nat.mod_le _ _), fun i => Iff.rfl⟩
  · split_ifs with hle hspare
    · exact absurd hspare (Nat.not_lt.mpr hfull)
    · have hlt := (lt_roundUp_iff (by have h := hround.2; omega)).mpr hround
      rw [word_of_lt hword] at hle
      rw [length_resize]
      exact ⟨hlt, getElem?_resize_eq_true (hle.trans hlt.le)⟩
    · exact ⟨(Nat.lt_of_not_le hle).trans_le (Nat.mod_le _ _), fun i => Iff.rfl⟩

theorem searchFree_not_live (h : w.Represented) {capacity : ℕ}
    (hallowed : w.Allowed (.generateInstanceId capacity))
    (hfits : w.Fits (.generateInstanceId capacity)) :
    w.mgr.nextInstanceId < MapManager.searchFree w.mgr.instanceIds w.mgr.nextInstanceId ∧
      MapManager.searchFree w.mgr.instanceIds w.mgr.nextInstanceId ∉ w.live := by
  rcases hfits.2 with hlast | hsome
  · rw [MapManager.searchFree_last hlast]
    exact ⟨hallowed.2, fun hmem => lt_irrefl _ (h.live _ hmem).2⟩
  · obtain ⟨hlt, hfree⟩ := MapManager.searchFree_spec hallowed.2 hsome
    exact ⟨hlt, h.isFree_iff.mp hfree⟩

/-- **One operation** keeps the bits right. -/
theorem Represented.step {w : InstanceIds} (h : w.Represented) {op : Op} (hallowed : w.Allowed op)
    (hfits : w.Fits op) : (w.step op).Represented := by
  cases op with
  | generateInstanceId capacity =>
    obtain ⟨hroom, hbits⟩ := allocate_spec hfits
    obtain ⟨hlt, hnext⟩ := searchFree_not_live h hallowed hfits
    refine ⟨fun i => ?_, fun i hi => ?_, h.next_pos.trans hlt, ⟨?_, ?_⟩⟩
    · rw [InstanceIds.step, MapManager.generateInstanceId, getElem?_set_eq_true hroom, hbits i,
        h.bits i, mem_insert]
    · rcases mem_insert.mp hi with rfl | hi
      · exact ⟨h.next_pos, hallowed.2⟩
      · exact h.live i hi
    · refine proper_cons ?_ (proper_cons ⟨h.next_pos.ne', h.sound.2⟩ h.sound.1)
      rw [Proper, MapManager.generateInstanceId, List.length_set]
      exact hroom
    · rw [InstanceIds.step, MapManager.generateInstanceId, mem_insert]
      rintro (heq | hmem)
      · exact hlt.ne' heq
      · exact hnext hmem
  | freeInstanceId id =>
    refine ⟨fun i => ?_, fun i hi => ?_, ?_, ⟨?_, ?_⟩⟩
    · rw [InstanceIds.step, MapManager.freeInstanceId, getElem?_unset_eq_true, h.bits i,
        mem_erase]
    · exact h.live i (mem_erase.mp hi).1
    · rw [InstanceIds.step, MapManager.freeInstanceId]
      split
      · exact (h.live id hallowed).1
      · exact h.next_pos
    · exact proper_cons (h.lt_length hallowed) h.sound.1
    · rw [InstanceIds.step, MapManager.freeInstanceId, mem_erase]
      split
      · exact fun hmem => hmem.2 rfl
      · exact fun hmem => h.sound.2 hmem.1

/-- **The ids are sound** after every run that starts with ids that fit and all of whose steps
fit. -/
theorem sound_after {stored : OrderedSet ℕ} (hpos : ∀ id ∈ stored, 0 < id)
    (hload : FitsLoad stored) {ops : List Op}
    (hops : Admissible step (fun w op => w.Allowed op ∧ w.Fits op) (load stored) ops) :
    (run step (load stored) ops).Sound :=
  (run_invariant Represented (fun _ _ h hop => h.step hop.1 hop.2)
    (represented_load hpos hload) hops).sound

/-- Three stored ids. -/
def threeStored : OrderedSet ℕ := OrderedSet.ofList [1, 2, 5]

/-- An id between the stored ones is handed out, one of them is freed, and handed out again. -/
def freedAndReused : List Op := [.generateInstanceId 64, .freeInstanceId 2, .generateInstanceId 64]

theorem sound_after_threeStored : (run step (load threeStored) freedAndReused).Sound := by
  refine sound_after (by decide) ?_ ?_
  · intro id hid
    cases (show some 5 = some id from hid)
    decide
  · refine ⟨⟨by decide, .inl (by decide), .inr ⟨6, by decide⟩⟩, ⟨by decide, trivial⟩,
      ⟨by decide, .inl (by decide), .inr ⟨4, by decide⟩⟩, trivial⟩

/-- **A stored id that is a multiple of 32** is registered outside of the vector. -/
theorem not_sound_after_load :
    ¬ ∀ (stored : OrderedSet ℕ) (ops : List Op), (∀ id ∈ stored, 0 < id ∧ id < 2 ^ 32) →
      Admissible step Allowed (load stored) ops → (run step (load stored) ops).Sound := by
  intro h
  have hsound := h (OrderedSet.ofList [32]) [] (by decide) trivial
  have hlog : (run step (load (OrderedSet.ofList [32])) []).log = [.wrote 32 32] := rfl
  exact absurd (hsound.1 (.wrote 32 32) (hlog ▸ List.mem_singleton_self _)) (lt_irrefl 32)

end InstanceIds

end TeraCore
