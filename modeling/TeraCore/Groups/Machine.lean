import TeraCore.Commons.Run
import TeraCore.Groups.Group

/-!
# The life of a group

A group is created, gains and loses members, changes its leader and its kind, holds rolls, and
disbands, while its members come online and go offline.  `GroupState.step` is one such event;
a state is reached by a run of events from a world without the group.

Beside the group the state keeps who is in the world, the next item guid, and, as a record of
what happened, the rolls that were resolved early.

## Main results

* the fields of a group after each operation, as simp lemmas
* `GroupState.GroupIs.update` and its kin: what an event keeps of the group, if there is one
-/

namespace TeraCore

open Commons

namespace Group

/-! ## The fields after an operation -/

section Fields

variable (g : Group) (guid : Guid) (subgroup : ℕ)

@[simp] theorem pushSlot_leaderGuid : (g.pushSlot guid subgroup).leaderGuid = g.leaderGuid := by
  simp only [pushSlot]
  split_ifs <;> rfl

@[simp] theorem pushSlot_groupType : (g.pushSlot guid subgroup).groupType = g.groupType := by
  simp only [pushSlot]
  split_ifs <;> rfl

@[simp] theorem pushSlot_rolls : (g.pushSlot guid subgroup).rolls = g.rolls := by
  simp only [pushSlot]
  split_ifs <;> rfl

@[simp] theorem pushSlot_memberSlots :
    (g.pushSlot guid subgroup).memberSlots = g.memberSlots ++ [⟨guid, subgroup, 0⟩] := by
  simp only [pushSlot]
  split_ifs <;> rfl

@[simp] theorem pushSlot_subGroupsCounts :
    (g.pushSlot guid subgroup).subGroupsCounts =
      g.subGroupsCounts.map (increaseCount · subgroup) := by
  simp only [pushSlot]
  split_ifs <;> rfl

theorem addMember_cases :
    g.addMember guid = (false, g) ∨
      ∃ subgroup, g.addMember guid = (true, g.pushSlot guid subgroup) ∧
      ∀ counts, g.subGroupsCounts = some counts →
        ∃ i : Fin maxRaidSubgroups, i.val = subgroup ∧ (counts i).toNat < maxGroupSize := by
  cases hc : g.subGroupsCounts with
  | none => exact .inr ⟨0, by simp [addMember, hc], by simp⟩
  | some counts =>
    cases hf : firstFreeSubGroup counts with
    | none => exact .inl (by simp [addMember, hc, hf])
    | some i =>
      have hfree : (counts i).toNat < maxGroupSize := by simpa using List.find?_some hf
      refine .inr ⟨i, by simp [addMember, hc, hf], ?_⟩
      rintro _ ⟨rfl⟩
      exact ⟨i, rfl, hfree⟩

@[simp] theorem setAssistant_leaderGuid (apply : Bool) :
    (g.setAssistant guid apply).leaderGuid = g.leaderGuid := rfl

@[simp] theorem eraseSlot_leaderGuid : (g.eraseSlot guid).leaderGuid = g.leaderGuid := by
  unfold eraseSlot
  split <;> rfl

@[simp] theorem eraseSlot_memberSlots :
    (g.eraseSlot guid).memberSlots = g.memberSlots.eraseP fun s => s.guid = guid := by
  unfold eraseSlot
  split
  · next h => exact (eraseP_of_find?_eq_none h).symm
  · rfl

@[simp] theorem eraseSlot_rolls : (g.eraseSlot guid).rolls = g.rolls := by
  unfold eraseSlot
  split <;> rfl

@[simp] theorem eraseSlot_memberMgr : (g.eraseSlot guid).memberMgr = g.memberMgr := by
  unfold eraseSlot
  split <;> rfl

variable (inWorld : Guid → Bool)

@[simp] theorem detachMember_leaderGuid :
    (g.detachMember guid inWorld).leaderGuid = g.leaderGuid := by
  simp only [detachMember, eraseSlot_leaderGuid]
  split_ifs <;> rfl

@[simp] theorem detachMember_memberSlots :
    (g.detachMember guid inWorld).memberSlots = g.memberSlots.eraseP fun s => s.guid = guid := by
  simp only [detachMember, eraseSlot_memberSlots]
  split_ifs <;> rfl

@[simp] theorem detachMember_rolls :
    (g.detachMember guid inWorld).rolls = g.rolls.map fun r => r.removeVoter guid := by
  simp only [detachMember, eraseSlot_rolls]
  split_ifs <;> rfl

theorem changeLeader_cases :
    g.changeLeader guid inWorld = g ∨
      g.changeLeader guid inWorld = { g with leaderGuid := guid }.setAssistant guid false ∧
        g.isMember guid = true ∧ inWorld guid = true := by
  unfold changeLeader
  split_ifs with h
  · exact .inr ⟨rfl, by simpa using h⟩
  · exact .inl rfl

@[simp] theorem changeLeader_rolls : (g.changeLeader guid inWorld).rolls = g.rolls := by
  unfold changeLeader
  split_ifs <;> rfl

@[simp] theorem changeLeader_memberMgr : (g.changeLeader guid inWorld).memberMgr = g.memberMgr := by
  unfold changeLeader
  split_ifs <;> rfl

@[simp] theorem pickNewLeader_rolls : (g.pickNewLeader inWorld).rolls = g.rolls := by
  unfold pickNewLeader
  split <;> simp

@[simp] theorem pickNewLeader_memberMgr : (g.pickNewLeader inWorld).memberMgr = g.memberMgr := by
  unfold pickNewLeader
  split <;> simp

theorem changeMembersGroup_cases (group : ℕ) :
    g.changeMembersGroup guid group = g ∨ ∃ slot, g.getMemberSlot guid = some slot ∧
      slot.group ≠ group ∧ g.changeMembersGroup guid group =
        ((g.moveSlot guid group).subGroupCounterIncrease group).subGroupCounterDecrease
          slot.group := by
  unfold changeMembersGroup
  split_ifs with hraid
  · exact .inl rfl
  · cases hs : g.getMemberSlot guid with
    | none => exact .inl rfl
    | some slot =>
      by_cases hg : slot.group = group
      · exact .inl (by simp [hg])
      · exact .inr ⟨slot, rfl, hg, by simp [hg]⟩

end Fields

variable (leader : Guid) (isBG isBF : Bool)

@[simp] theorem fresh_leaderGuid : (fresh leader isBG isBF).leaderGuid = leader := by
  simp only [fresh]
  split_ifs <;> rfl

@[simp] theorem fresh_memberSlots : (fresh leader isBG isBF).memberSlots = [] := by
  simp only [fresh]
  split_ifs <;> rfl

@[simp] theorem fresh_rolls : (fresh leader isBG isBF).rolls = [] := by
  simp only [fresh]
  split_ifs <;> rfl

theorem fresh_subGroupsCounts {leader : Guid} {isBG isBF : Bool} {counts : SubGroupsCounts}
    (h : (fresh leader isBG isBF).subGroupsCounts = some counts) : counts = fun _ => 0 := by
  simp only [fresh] at h
  split_ifs at h
  all_goals simpa [initRaidSubGroupsCounter] using h.symm

theorem create_eq : create leader isBG isBF = (fresh leader isBG isBF).pushSlot leader 0 := by
  unfold create addMember
  cases h : (fresh leader isBG isBF).subGroupsCounts with
  | none => rfl
  | some counts =>
    rw [fresh_subGroupsCounts h]
    rfl

theorem removeMember_cases (g : Group) (guid : Guid) (method : RemoveMethod) (env : RemoveEnv) :
    (g.removeMember guid method env = some g ∧ g.isLFGGroup = true ∧ method = .kick) ∨
      g.removeMember guid method env = none ∨
      (g.removeMember guid method env = some (g.dropMember guid env.inWorld) ∧
        ¬ (g.isLFGGroup = true ∧ method = .kick) ∧
        g.minMembersToRemove < g.getMembersCount) := by
  simp only [removeMember]
  split_ifs with h₁ h₂ h₃ h₄
  · exact .inl ⟨rfl, h₁⟩
  · exact .inr (.inl rfl)
  · exact .inr (.inl rfl)
  · exact .inr (.inr ⟨rfl, h₁, h₂⟩)
  · exact .inr (.inl rfl)

theorem handleGroupChangeSubGroup_cases (g : Group) (sender guid : Guid) (groupNr : ℕ) :
    g.handleGroupChangeSubGroup sender guid groupNr = g ∨
      (g.handleGroupChangeSubGroup sender guid groupNr = g.changeMembersGroup guid groupNr ∧
        groupNr < maxRaidSubgroups ∧ g.hasFreeSlotSubGroup groupNr = true) := by
  simp only [handleGroupChangeSubGroup]
  split_ifs with h₁ h₂ h₃
  · exact .inl rfl
  · exact .inl rfl
  · exact .inl rfl
  · exact .inr ⟨rfl, by omega, by simpa using h₃⟩

theorem countRollVote_cases (g : Group) (player item : Guid) (rollType : BitVec 8) :
    g.countRollVote player item rollType = (g, none) ∨
      ∃ roll, g.rolls.find? (isRollOf item) = some roll ∧
        (∃ v, roll.playerVote.find? player = some v) ∧ roll.lootItemsEmpty = false ∧
        (((roll.vote player rollType).isComplete = true ∧
            g.countRollVote player item rollType =
              ({ g with rolls := g.rolls.eraseP (isRollOf item) },
                some (roll.vote player rollType))) ∨
          (¬ (roll.vote player rollType).isComplete = true ∧
            g.countRollVote player item rollType =
              ({ g with
                  rolls := modifyFirst (isRollOf item) (·.vote player rollType) g.rolls },
                none))) := by
  unfold countRollVote
  cases hr : g.rolls.find? (isRollOf item) with
  | none => exact .inl rfl
  | some roll =>
    cases hv : roll.playerVote.find? player with
    | none => exact .inl (by simp [hv])
    | some v =>
      cases hempty : roll.lootItemsEmpty with
      | true => exact .inl (by simp [hv, hempty])
      | false =>
        refine .inr ⟨roll, rfl, ⟨v, hv⟩, hempty, ?_⟩
        by_cases hc : (roll.vote player rollType).isComplete = true
        · exact .inl ⟨hc, by simp [hv, hempty, hc]⟩
        · exact .inr ⟨hc, by simp [hv, hempty, hc]⟩

end Group

/-! ## States and events -/

/-- The group, `none` before its creation and after it disbands; who is in the world; and the
rolls that were resolved early. -/
structure GroupState where
  group : Option Group
  inWorld : List Guid
  nextItemGuid : Guid
  resolved : List Roll

/-- What happens to a group. -/
inductive GroupOp where
  | create (leader : Guid) (isBG isBF : Bool)
  | addMember (guid : Guid)
  | removeMember (guid : Guid) (method : RemoveMethod) (dungeonMapId : ℕ) (leaderIsAlive : Bool)
      (leaderMapId : ℕ)
  | changeLeader (guid : Guid)
  | convertToRaid
  | convertToLFG
  | changeSubGroup (sender guid : Guid) (groupNr : ℕ)
  | setAssistant (guid : Guid) (apply : Bool)
  | login (guid : Guid)
  | logout (guid : Guid)
  | enterWorld (guid : Guid)
  | leaveWorld (guid : Guid)
  | startRoll (loot : ℕ) (lootItemsEmpty : Bool) (mayLoot autoPass : Guid → Bool)
  | lootRoll (player item : Guid) (rollType : BitVec 8)
  | endRoll (loot : ℕ)
  | deleteLoot (loot : ℕ)

namespace GroupState

/-- No group, and nobody in the world. -/
def initial : GroupState := ⟨none, [], 1, []⟩

/-- The group changes, if there is one. -/
def update (s : GroupState) (f : Group → Group) : GroupState :=
  { s with group := s.group.map f }

/-- **One event.** -/
def step (s : GroupState) : GroupOp → GroupState
  | .create leader isBG isBF =>
    match s.group with
    | none => { s with group := some (Group.create leader isBG isBF) }
    | some _ => s
  | .addMember guid => s.update fun g => (g.addMember guid).2
  | .removeMember guid method dungeonMapId leaderIsAlive leaderMapId =>
    { s with group := s.group.bind fun g =>
        g.removeMember guid method ⟨fun x => x ∈ s.inWorld, dungeonMapId, leaderIsAlive,
          leaderMapId⟩ }
  | .changeLeader guid => s.update fun g => g.changeLeader guid fun x => x ∈ s.inWorld
  | .convertToRaid => s.update Group.convertToRaid
  | .convertToLFG => s.update Group.convertToLFG
  | .changeSubGroup sender guid groupNr =>
    s.update fun g => g.handleGroupChangeSubGroup sender guid groupNr
  | .setAssistant guid apply => s.update fun g => g.setAssistant guid apply
  | .login guid => s.update fun g => if g.isMember guid then g.linkMember guid else g
  | .logout guid =>
    { s.update (·.delinkMember guid) with inWorld := s.inWorld.filter (· ≠ guid) }
  | .enterWorld guid => { s with inWorld := guid :: s.inWorld }
  | .leaveWorld guid => { s with inWorld := s.inWorld.filter (· ≠ guid) }
  | .startRoll loot lootItemsEmpty mayLoot autoPass =>
    { s.update (·.startRoll s.nextItemGuid loot lootItemsEmpty mayLoot autoPass) with
      nextItemGuid := s.nextItemGuid + 1 }
  | .lootRoll player item rollType =>
    match s.group with
    | none => s
    | some g =>
      let (g, resolved) := g.countRollVote player item rollType
      { s with group := some g, resolved := s.resolved ++ resolved.toList }
  | .endRoll loot => s.update (·.endRoll loot)
  | .deleteLoot loot => s.update (·.invalidateLoot loot)

/-- **The state after a run of events.** -/
def after (ops : List GroupOp) : GroupState := run step initial ops

/-! ## What an event keeps of the group -/

/-- The property holds of the group, if there is one. -/
def GroupIs (P : Group → Prop) (s : GroupState) : Prop := ∀ g, s.group = some g → P g

namespace GroupIs

variable {P : Group → Prop} {s : GroupState}

theorem update {f : Group → Group} (h : s.GroupIs P)
    (hf : ∀ g, s.group = some g → P g → P (f g)) : (s.update f).GroupIs P := by
  intro g hg
  obtain ⟨g', hg', rfl⟩ := Option.map_eq_some_iff.mp hg
  exact hf g' hg' (h g' hg')

theorem create {leader : Guid} {isBG isBF : Bool} (h : s.GroupIs P)
    (hnew : P (Group.create leader isBG isBF)) : (s.step (.create leader isBG isBF)).GroupIs P := by
  cases hg : s.group with
  | none =>
    intro g hg'
    simp only [step, hg, Option.some.injEq] at hg'
    exact hg' ▸ hnew
  | some g => simpa [step, hg] using h

theorem lootRoll {player item : Guid} {rollType : BitVec 8} (h : s.GroupIs P)
    (hvote : ∀ g, s.group = some g → P g → P (g.countRollVote player item rollType).1) :
    (s.step (.lootRoll player item rollType)).GroupIs P := by
  cases hg : s.group with
  | none => simpa [step, hg] using h
  | some g =>
    intro g' hg'
    simp only [step, hg, Option.some.injEq] at hg'
    exact hg' ▸ hvote g hg (h g hg)

end GroupIs

end GroupState

end TeraCore
