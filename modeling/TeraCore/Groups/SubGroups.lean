import TeraCore.Groups.Machine

/-!
# The subgroups of a raid

A raid's counters are a copy of its slots' subgroup numbers in unsigned bytes: a member added,
removed or moved changes one or two of them by one, and a group that becomes a raid counts its
slots anew.  They agree with the slots, and no subgroup has more than five members, in every
state that is reached by adding members only while the group is not full.

## Main results

* `CountsMatch.push`, `CountsMatch.erase`, `CountsMatch.move`: one slot, and the counters with it
* `subGroupsCounts_eq_countP_after`: the counters after every run
-/

namespace TeraCore

open Commons

namespace Group

/-- The number of slots in a subgroup. -/
def slotsIn (slots : List MemberSlot) (i : ℕ) : ℕ := slots.countP fun s => s.group = i

/-- **Every counter is the number of slots of its subgroup.** -/
def CountsMatch (counts : SubGroupsCounts) (slots : List MemberSlot) : Prop :=
  ∀ i, (counts i).toNat = slotsIn slots i

theorem slotsIn_append (slots : List MemberSlot) (slot : MemberSlot) (i : ℕ) :
    slotsIn (slots ++ [slot]) i = slotsIn slots i + if slot.group = i then 1 else 0 := by
  simp [slotsIn, List.countP_append, List.countP_cons]

variable {p : MemberSlot → Bool} {slots : List MemberSlot} {slot : MemberSlot}

theorem slotsIn_eraseP (h : slots.find? p = some slot) (i : ℕ) :
    slotsIn (slots.eraseP p) i + (if slot.group = i then 1 else 0) = slotsIn slots i := by
  simpa [slotsIn] using countP_eraseP (fun s : MemberSlot => decide (s.group = i)) h

theorem slotsIn_move (h : slots.find? p = some slot) (group i : ℕ) :
    slotsIn (modifyFirst p (fun s => { s with group := group }) slots) i +
        (if slot.group = i then 1 else 0) =
      slotsIn slots i + if group = i then 1 else 0 := by
  simpa [slotsIn] using countP_modifyFirst (f := fun s => { s with group := group })
    (fun s : MemberSlot => decide (s.group = i)) h

theorem slotsIn_pos (h : slots.find? p = some slot) : 0 < slotsIn slots slot.group :=
  List.countP_pos_iff.mpr ⟨slot, List.mem_of_find?_eq_some h, by simp⟩

section Counters

variable {counts : SubGroupsCounts}

theorem increaseCount_toNat (counts : SubGroupsCounts) (subgroup : ℕ) (i : Fin maxRaidSubgroups)
    (h : (counts i).toNat < 255) :
    (increaseCount counts subgroup i).toNat =
      (counts i).toNat + if subgroup = i.val then 1 else 0 := by
  simp only [increaseCount, eq_comm (a := subgroup)]
  split_ifs <;> bv_omega

theorem decreaseCount_toNat (counts : SubGroupsCounts) (subgroup : ℕ) (i : Fin maxRaidSubgroups)
    (h : i.val = subgroup → 0 < (counts i).toNat) :
    (decreaseCount counts subgroup i).toNat + (if subgroup = i.val then 1 else 0) =
      (counts i).toNat := by
  simp only [decreaseCount, eq_comm (a := subgroup)]
  split_ifs with hi
  · have := h hi
    bv_omega
  · rfl

theorem CountsMatch.push (h : CountsMatch counts slots)
    (hsize : ∀ i, slotsIn slots i ≤ maxGroupSize) (slot : MemberSlot) :
    CountsMatch (increaseCount counts slot.group) (slots ++ [slot]) := by
  intro i
  have hi := h i
  have hlt := hsize i
  rw [increaseCount_toNat _ _ _ (by simp only [maxGroupSize] at hlt; omega), slotsIn_append, hi]

theorem CountsMatch.erase (h : CountsMatch counts slots) {p : MemberSlot → Bool}
    {slot : MemberSlot} (hslot : slots.find? p = some slot) :
    CountsMatch (decreaseCount counts slot.group) (slots.eraseP p) := by
  intro i
  have hpos : i.val = slot.group → 0 < (counts i).toNat := fun hi => by
    rw [h i, hi]
    exact slotsIn_pos hslot
  have hdec := decreaseCount_toNat counts slot.group i hpos
  have herase := slotsIn_eraseP hslot i
  have hi := h i
  omega

theorem CountsMatch.move (h : CountsMatch counts slots)
    (hsize : ∀ i, slotsIn slots i ≤ maxGroupSize) {p : MemberSlot → Bool} {slot : MemberSlot}
    (hslot : slots.find? p = some slot) (group : ℕ) :
    CountsMatch (decreaseCount (increaseCount counts group) slot.group)
      (modifyFirst p (fun s => { s with group := group }) slots) := by
  intro i
  have hi := h i
  have hlt := hsize i
  have hinc := increaseCount_toNat counts group i (by simp only [maxGroupSize] at hlt; omega)
  have hpos : i.val = slot.group → 0 < (increaseCount counts group i).toNat := fun heq => by
    have := slotsIn_pos hslot
    rw [← heq] at this
    omega
  have hdec := decreaseCount_toNat (increaseCount counts group) slot.group i hpos
  have hmove := slotsIn_move hslot group i
  omega

end Counters

/-! ## The invariant -/

/-- **The subgroups fit**: every slot is in a subgroup that exists, no subgroup is overfull, a
raid has its counters, and they match the slots. -/
structure SubGroupsFit (g : Group) : Prop where
  group_lt : ∀ slot ∈ g.memberSlots, slot.group < maxRaidSubgroups
  size_le : ∀ i, slotsIn g.memberSlots i ≤ maxGroupSize
  raid : g.isRaidGroup = true → g.subGroupsCounts.isSome = true
  counts : ∀ counts, g.subGroupsCounts = some counts → CountsMatch counts g.memberSlots

variable {g : Group}

/-- The invariant is about the slots' subgroups, the counters and the raid's flag. -/
theorem SubGroupsFit.congr {g' : Group} (h : g.SubGroupsFit)
    (hslots : g'.memberSlots.map (·.group) = g.memberSlots.map (·.group))
    (hcounts : g'.subGroupsCounts = g.subGroupsCounts)
    (hraid : g'.isRaidGroup = true → g.isRaidGroup = true) : g'.SubGroupsFit := by
  have hin : ∀ i, slotsIn g'.memberSlots i = slotsIn g.memberSlots i := fun i => by
    have hcount : ∀ slots : List MemberSlot, slotsIn slots i = (slots.map (·.group)).count i :=
      fun slots => by
        simp [slotsIn, List.count, List.countP_map, Function.comp_def]
        rfl
    rw [hcount, hcount, hslots]
  refine ⟨fun slot hslot => ?_, fun i => ?_, fun hr => ?_, fun counts hc i => ?_⟩
  · have hmem : slot.group ∈ g.memberSlots.map (·.group) :=
      hslots ▸ List.mem_map_of_mem hslot
    obtain ⟨slot', hslot', heq⟩ := List.mem_map.mp hmem
    exact heq ▸ h.group_lt slot' hslot'
  · exact hin i ▸ h.size_le i
  · exact hcounts ▸ h.raid (hraid hr)
  · exact (h.counts counts (hcounts ▸ hc) i).trans (hin i).symm

theorem SubGroupsFit.pushSlot (h : g.SubGroupsFit) (guid : Guid) {subgroup : ℕ}
    (hlt : subgroup < maxRaidSubgroups)
    (hfree : slotsIn g.memberSlots subgroup < maxGroupSize) :
    (g.pushSlot guid subgroup).SubGroupsFit := by
  refine ⟨fun slot hslot => ?_, fun i => ?_, fun hr => ?_, fun counts hc => ?_⟩
  · rw [pushSlot_memberSlots, List.mem_append, List.mem_singleton] at hslot
    rcases hslot with hslot | rfl
    · exact h.group_lt slot hslot
    · exact hlt
  · rw [pushSlot_memberSlots, slotsIn_append]
    have := h.size_le i
    split_ifs with hi
    · subst hi
      exact hfree
    · exact this
  · rw [pushSlot_subGroupsCounts, Option.isSome_map]
    exact h.raid (by simpa [isRaidGroup] using hr)
  · rw [pushSlot_subGroupsCounts] at hc
    obtain ⟨counts', hc', rfl⟩ := Option.map_eq_some_iff.mp hc
    rw [pushSlot_memberSlots]
    exact (h.counts counts' hc').push h.size_le ⟨guid, subgroup, 0⟩

theorem slotsIn_le_length (slots : List MemberSlot) (i : ℕ) : slotsIn slots i ≤ slots.length :=
  List.countP_le_length

theorem SubGroupsFit.addMember (h : g.SubGroupsFit) (hfull : g.isFull = false) (guid : Guid) :
    (g.addMember guid).2.SubGroupsFit := by
  cases hc : g.subGroupsCounts with
  | none =>
    have hraid : g.isRaidGroup = false := by
      by_contra hr
      have := h.raid (by simpa using hr)
      simp [hc] at this
    have hsize : g.memberSlots.length < maxGroupSize := by
      rw [isFull, if_neg (by simp [hraid])] at hfull
      exact not_le.mp (of_decide_eq_false hfull)
    rw [show (g.addMember guid).2 = g.pushSlot guid 0 by simp [Group.addMember, hc]]
    exact h.pushSlot guid (by decide) ((slotsIn_le_length _ _).trans_lt hsize)
  | some counts =>
    rcases g.addMember_cases guid with heq | ⟨subgroup, heq, hfree⟩
    · rwa [heq]
    · obtain ⟨i, rfl, hi⟩ := hfree counts hc
      rw [heq]
      exact h.pushSlot guid i.isLt (h.counts counts hc i ▸ hi)

theorem subGroupsFit_create (leader : Guid) (isBG isBF : Bool) :
    (create leader isBG isBF).SubGroupsFit := by
  rw [create_eq]
  refine SubGroupsFit.pushSlot ⟨?_, ?_, ?_, ?_⟩ leader (by decide) ?_
  · simp
  · simp [slotsIn]
  · simp only [fresh]
    split_ifs with h <;> simp_all [initRaidSubGroupsCounter]
  · intro counts hc i
    rw [fresh_subGroupsCounts hc]
    simp [slotsIn]
  · simp [slotsIn, maxGroupSize]

theorem SubGroupsFit.eraseSlot (h : g.SubGroupsFit) (guid : Guid) :
    (g.eraseSlot guid).SubGroupsFit := by
  cases hs : g.getMemberSlot guid with
  | none => simpa [Group.eraseSlot, hs] using h
  | some slot =>
    simp only [Group.eraseSlot, hs]
    refine ⟨fun slot' hslot' => ?_, fun i => ?_, fun hr => ?_, fun counts hc => ?_⟩
    · exact h.group_lt slot' (List.mem_of_mem_eraseP hslot')
    · exact (List.eraseP_sublist.countP_le).trans (h.size_le i)
    · simpa [subGroupCounterDecrease] using h.raid hr
    · obtain ⟨counts', hc', rfl⟩ := Option.map_eq_some_iff.mp hc
      exact (h.counts counts' hc').erase hs

theorem SubGroupsFit.changeLeader (h : g.SubGroupsFit) (guid : Guid) (inWorld : Guid → Bool) :
    (g.changeLeader guid inWorld).SubGroupsFit := by
  rcases g.changeLeader_cases guid inWorld with heq | ⟨heq, -⟩
  · rwa [heq]
  · rw [heq]
    exact h.congr (map_modifyFirst fun _ => rfl) rfl id

theorem SubGroupsFit.dropMember (h : g.SubGroupsFit) (guid : Guid) (inWorld : Guid → Bool) :
    (g.dropMember guid inWorld).SubGroupsFit := by
  have hdetach : (g.detachMember guid inWorld).SubGroupsFit := by
    refine SubGroupsFit.eraseSlot ?_ guid
    split_ifs
    · exact h.congr rfl rfl id
    · exact h.congr rfl rfl id
  simp only [Group.dropMember]
  split_ifs
  · unfold pickNewLeader
    split
    · exact hdetach
    · exact hdetach.changeLeader _ _
  · exact hdetach

theorem SubGroupsFit.convertToRaid (h : g.SubGroupsFit) : g.convertToRaid.SubGroupsFit := by
  refine ⟨h.group_lt, h.size_le, fun _ => rfl, fun counts hc i => ?_⟩
  have hle : slotsIn g.memberSlots i ≤ maxGroupSize := h.size_le i
  cases hc
  have hlt : slotsIn g.memberSlots i < 2 ^ 8 := by
    simp only [maxGroupSize] at hle
    omega
  exact Nat.mod_eq_of_lt hlt

theorem SubGroupsFit.handleGroupChangeSubGroup (h : g.SubGroupsFit) (sender guid : Guid)
    (groupNr : ℕ) : (g.handleGroupChangeSubGroup sender guid groupNr).SubGroupsFit := by
  rcases g.handleGroupChangeSubGroup_cases sender guid groupNr with heq | ⟨heq, hlt, hfree⟩
  · rwa [heq]
  rcases g.changeMembersGroup_cases guid groupNr with heq' | ⟨slot, hslot, hne, heq'⟩
  · rwa [heq, heq']
  rw [heq, heq']
  have hplace : slotsIn g.memberSlots groupNr < maxGroupSize := by
    simp only [hasFreeSlotSubGroup, Option.any_eq_true_iff_get, List.any_eq_true,
      Bool.and_eq_true, decide_eq_true_eq] at hfree
    obtain ⟨hsome, i, -, hi, hcount⟩ := hfree
    have := h.counts _ (Option.some_get hsome).symm i
    rw [← hi]
    omega
  have hmove := fun i => slotsIn_move hslot groupNr i
  refine ⟨fun slot' hslot' => ?_, fun i => ?_, fun hr => ?_, fun counts hc => ?_⟩
  · rcases mem_modifyFirst hslot' with hslot' | ⟨s, -, rfl⟩
    · exact h.group_lt slot' hslot'
    · exact hlt
  · have hstep := hmove i
    have := h.size_le i
    change slotsIn (modifyFirst _ _ g.memberSlots) i ≤ maxGroupSize
    have hi : groupNr = i → slotsIn g.memberSlots i < maxGroupSize := fun hi => hi ▸ hplace
    split_ifs at hstep <;> omega
  · simpa [subGroupCounterDecrease, subGroupCounterIncrease, moveSlot] using h.raid hr
  · simp only [subGroupCounterDecrease, subGroupCounterIncrease, moveSlot, Option.map_map,
      Option.map_eq_some_iff] at hc
    obtain ⟨counts', hc', rfl⟩ := hc
    exact (h.counts counts' hc').move h.size_le hslot groupNr

theorem SubGroupsFit.removeMember {g' : Group} (h : g.SubGroupsFit) {guid : Guid}
    {method : RemoveMethod} {env : RemoveEnv} (hg' : g.removeMember guid method env = some g') :
    g'.SubGroupsFit := by
  rcases g.removeMember_cases guid method env with ⟨heq, -⟩ | heq | ⟨heq, -⟩ <;>
    rw [heq] at hg' <;> cases hg'
  · exact h
  · exact h.dropMember _ _

theorem SubGroupsFit.countRollVote (h : g.SubGroupsFit) (player item : Guid)
    (rollType : BitVec 8) : (g.countRollVote player item rollType).1.SubGroupsFit := by
  rcases g.countRollVote_cases player item rollType with
    heq | ⟨roll, -, -, -, ⟨-, heq⟩ | ⟨-, heq⟩⟩ <;> rw [heq]
  · exact h
  · exact h.congr rfl rfl id
  · exact h.congr rfl rfl id

theorem convertToLFG_isRaidGroup :
    g.convertToLFG.isRaidGroup = true ↔ g.isRaidGroup = true := by
  have hmask : g.convertToLFG.groupType &&& grouptypeRaid = g.groupType &&& grouptypeRaid := by
    rw [convertToLFG, BitVec.or_assoc, BitVec.and_comm, BitVec.and_or_distrib_left,
      BitVec.and_comm grouptypeRaid,
      show grouptypeRaid &&& (grouptypeLfg ||| grouptypeUnk1) = 0#8 by decide, BitVec.or_zero]
  rw [isRaidGroup, hmask, isRaidGroup]

end Group

namespace GroupState

/-- **The caller's test**: a member is added only while the group is not full. -/
def AddsWhileNotFull (s : GroupState) : GroupOp → Prop
  | .addMember _ => s.group.all (·.isFull == false) = true
  | _ => True

instance (s : GroupState) : ∀ op, Decidable (s.AddsWhileNotFull op)
  | .addMember _ => inferInstanceAs (Decidable (_ = true))
  | .create .. | .removeMember .. | .changeLeader _ | .convertToRaid | .convertToLFG
  | .changeSubGroup .. | .setAssistant .. | .login _ | .logout _ | .enterWorld _ | .leaveWorld _
  | .startRoll .. | .lootRoll .. | .endRoll _ | .deleteLoot _ => .isTrue trivial

/-- The invariant: the subgroups of the group, if there is one, fit. -/
def SubGroupsFit (s : GroupState) : Prop := ∀ g, s.group = some g → g.SubGroupsFit

/-- **One event** keeps the counters equal to the slots. -/
theorem SubGroupsFit.step {s : GroupState} {op : GroupOp} (h : s.SubGroupsFit)
    (hok : s.AddsWhileNotFull op) : (s.step op).SubGroupsFit := by
  have h : s.GroupIs Group.SubGroupsFit := h
  cases op with
  | create leader isBG isBF => exact h.create (Group.subGroupsFit_create leader isBG isBF)
  | addMember guid =>
    refine h.update fun g hg hfit => hfit.addMember ?_ guid
    simpa [AddsWhileNotFull, hg] using hok
  | removeMember guid method dungeonMapId leaderIsAlive leaderMapId =>
    intro g' hg'
    obtain ⟨g, hg, hrem⟩ := Option.bind_eq_some_iff.mp hg'
    exact (h g hg).removeMember hrem
  | changeLeader guid => exact h.update fun g _ hfit => hfit.changeLeader guid _
  | convertToRaid => exact h.update fun g _ hfit => hfit.convertToRaid
  | convertToLFG =>
    exact h.update fun g _ hfit => hfit.congr rfl rfl Group.convertToLFG_isRaidGroup.mp
  | changeSubGroup sender guid groupNr =>
    exact h.update fun g _ hfit => hfit.handleGroupChangeSubGroup sender guid groupNr
  | setAssistant guid apply =>
    exact h.update fun g _ hfit => hfit.congr (map_modifyFirst fun _ => rfl) rfl id
  | login guid =>
    refine h.update fun g _ hfit => ?_
    split_ifs
    · exact hfit.congr rfl rfl id
    · exact hfit
  | logout guid => exact h.update fun g _ hfit => hfit.congr rfl rfl id
  | enterWorld guid => exact h
  | leaveWorld guid => exact h
  | startRoll loot lootItemsEmpty mayLoot autoPass =>
    refine h.update fun g _ hfit => ?_
    unfold Group.startRoll
    split
    · exact hfit
    · exact hfit.congr rfl rfl id
  | lootRoll player item rollType =>
    exact h.lootRoll fun g _ hfit => hfit.countRollVote player item rollType
  | endRoll loot => exact h.update fun g _ hfit => hfit.congr rfl rfl id
  | deleteLoot loot => exact h.update fun g _ hfit => hfit.congr rfl rfl id

/-- **Raid subgroup accounting.** After every run that adds members only while the group is not
full, the counters, if they are allocated, are the numbers of slots in the subgroups, none of
them exceeds the size of a group, and every slot's subgroup exists. -/
theorem subGroupsCounts_eq_countP_after (ops : List GroupOp)
    (h : Admissible step AddsWhileNotFull initial ops) (g : Group)
    (hg : (after ops).group = some g) (counts : Group.SubGroupsCounts)
    (hcounts : g.subGroupsCounts = some counts) :
    (∀ i : Fin maxRaidSubgroups,
      (counts i).toNat = (g.memberSlots.countP fun slot => slot.group = i.val) ∧
        (counts i).toNat ≤ maxGroupSize) ∧
      ∀ slot ∈ g.memberSlots, slot.group < maxRaidSubgroups := by
  have hfit : g.SubGroupsFit := run_invariant SubGroupsFit
    (fun _ _ hs hok => hs.step hok) (fun _ hg => by cases hg) h g hg
  refine ⟨fun i => ⟨hfit.counts counts hcounts i, ?_⟩, hfit.group_lt⟩
  rw [hfit.counts counts hcounts i]
  exact hfit.size_le i

/-- A group of four becomes a raid, its leader moves a member and converts it again, and another
member leaves. -/
def moveInRaid : List GroupOp :=
  [.enterWorld 1, .create 1 false false, .addMember 2, .addMember 3, .addMember 4, .convertToRaid,
    .changeSubGroup 1 2 7, .convertToRaid, .removeMember 3 .leave 0 true 0]

theorem subGroupsCounts_eq_countP_after_moveInRaid :
    ∃ g counts, (after moveInRaid).group = some g ∧ g.subGroupsCounts = some counts ∧
      (∀ i : Fin maxRaidSubgroups,
        (counts i).toNat = (g.memberSlots.countP fun slot => slot.group = i.val) ∧
          (counts i).toNat ≤ maxGroupSize) ∧
      ∀ slot ∈ g.memberSlots, slot.group < maxRaidSubgroups :=
  ⟨_, _, rfl, rfl, subGroupsCounts_eq_countP_after moveInRaid (by decide) _ rfl _ rfl⟩

end GroupState

end TeraCore
