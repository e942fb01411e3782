import TeraCore.Groups.Machine

/-!
# The leader of a group is a member

A removal looks for a new leader among the members who are in the world.  When the leader is
removed and nobody who stays is in the world, the group keeps the removed leader's guid.  In a
run where that does not happen, the leader is a member in every state.

## Main results

* `Group.hasLeader_dropMember_leader_iff`: removing the leader leaves a group whose leader is a
  member exactly when the leader is replaceable
* `GroupState.leader_mem_memberSlots_after`: the leader is a member after every run of events
  that meet the condition
-/

namespace TeraCore

open Commons

namespace Group

/-- **The leader is a member.** -/
def HasLeader (g : Group) : Prop := ∃ slot ∈ g.memberSlots, slot.guid = g.leaderGuid

/-- Somebody can lead after the leader's slot is gone: a member who is in the world, or the
leader in a second slot. -/
def Replaceable (g : Group) (inWorld : Guid → Bool) : Prop :=
  ∃ slot ∈ g.memberSlots.eraseP (fun s => s.guid = g.leaderGuid),
    inWorld slot.guid = true ∨ slot.guid = g.leaderGuid

instance (g : Group) (inWorld : Guid → Bool) : Decidable (g.Replaceable inWorld) :=
  inferInstanceAs (Decidable (∃ slot ∈ _, _))

variable {g : Group}

theorem isMember_iff {guid : Guid} :
    g.isMember guid = true ↔ ∃ slot ∈ g.memberSlots, slot.guid = guid := by
  simp [isMember, getMemberSlot, List.find?_isSome]

theorem hasLeader_iff : g.HasLeader ↔ g.isMember g.leaderGuid = true := isMember_iff.symm

theorem isMember_congr {g' : Group} (h : g'.memberSlots.map (·.guid) = g.memberSlots.map (·.guid))
    (guid : Guid) : g'.isMember guid = g.isMember guid := by
  have hmem : ∀ g : Group, g.isMember guid = true ↔ guid ∈ g.memberSlots.map (·.guid) := fun g => by
    rw [isMember_iff, List.mem_map]
  rw [Bool.eq_iff_iff, hmem, hmem, h]

theorem setAssistant_map_guid (guid : Guid) (apply : Bool) :
    (g.setAssistant guid apply).memberSlots.map (·.guid) = g.memberSlots.map (·.guid) :=
  map_modifyFirst fun _ => rfl

theorem isMember_setAssistant (guid x : Guid) (apply : Bool) :
    (g.setAssistant guid apply).isMember x = g.isMember x :=
  isMember_congr (setAssistant_map_guid guid apply) x

theorem HasLeader.changeLeader (h : g.HasLeader) (guid : Guid) (inWorld : Guid → Bool) :
    (g.changeLeader guid inWorld).HasLeader := by
  rcases g.changeLeader_cases guid inWorld with heq | ⟨heq, hmem, -⟩
  · rwa [heq]
  · rw [heq, hasLeader_iff, setAssistant_leaderGuid, isMember_setAssistant]
    exact hmem

/-! ## Removal -/

/-- A group that looks for a leader has one afterwards exactly when it had one, or somebody is
in the world. -/
theorem hasLeader_pickNewLeader_iff (inWorld : Guid → Bool) :
    (g.pickNewLeader inWorld).HasLeader ↔
      ∃ slot ∈ g.memberSlots, inWorld slot.guid = true ∨ slot.guid = g.leaderGuid := by
  unfold pickNewLeader
  cases hf : g.memberSlots.find? fun s => inWorld s.guid with
  | none =>
    have hnone : ∀ slot ∈ g.memberSlots, ¬ inWorld slot.guid = true := by
      simpa using hf
    constructor
    · rintro ⟨slot, hslot, heq⟩
      exact ⟨slot, hslot, .inr heq⟩
    · rintro ⟨slot, hslot, hin | heq⟩
      · exact absurd hin (hnone slot hslot)
      · exact ⟨slot, hslot, heq⟩
  | some slot =>
    have hslot := List.mem_of_find?_eq_some hf
    have hin : inWorld slot.guid = true := by simpa using List.find?_some hf
    have hmem : g.isMember slot.guid = true := isMember_iff.mpr ⟨slot, hslot, rfl⟩
    have hlead : (g.changeLeader slot.guid inWorld).HasLeader := by
      rw [Group.changeLeader, if_pos (by simp [hmem, hin]), hasLeader_iff,
        setAssistant_leaderGuid, isMember_setAssistant]
      exact hmem
    exact ⟨fun _ => ⟨slot, hslot, .inl hin⟩, fun _ => hlead⟩

theorem hasLeader_dropMember_leader_iff (inWorld : Guid → Bool) :
    (g.dropMember g.leaderGuid inWorld).HasLeader ↔ g.Replaceable inWorld := by
  rw [dropMember, if_pos (g.detachMember_leaderGuid _ _), hasLeader_pickNewLeader_iff,
    detachMember_memberSlots, detachMember_leaderGuid, Replaceable]

theorem HasLeader.dropMember_of_ne (h : g.HasLeader) {guid : Guid} (hne : g.leaderGuid ≠ guid)
    (inWorld : Guid → Bool) : (g.dropMember guid inWorld).HasLeader := by
  obtain ⟨slot, hslot, hguid⟩ := h
  rw [dropMember, if_neg (by rwa [detachMember_leaderGuid])]
  refine ⟨slot, ?_, by rwa [detachMember_leaderGuid]⟩
  rw [detachMember_memberSlots]
  exact (List.mem_eraseP_of_neg (by simpa [hguid] using hne)).mpr hslot

end Group

namespace GroupState

/-- **The condition on an event**: if it removes the leader from a group that goes on, somebody
can lead it. -/
def LeaderReplaced (s : GroupState) : GroupOp → Prop
  | .removeMember guid method _ _ _ =>
    match s.group with
    | none => True
    | some g => g.leaderGuid = guid → ¬ (g.isLFGGroup = true ∧ method = .kick) →
        g.minMembersToRemove < g.getMembersCount → g.Replaceable fun x => x ∈ s.inWorld
  | _ => True

instance (s : GroupState) (op : GroupOp) : Decidable (s.LeaderReplaced op) := by
  unfold LeaderReplaced
  split
  · split <;> infer_instance
  · infer_instance

/-- The invariant: the leader of the group, if there is one, is a member. -/
def LeaderIsMember (s : GroupState) : Prop := ∀ g, s.group = some g → g.HasLeader

/-- An operation that keeps the leader and the guids of the slots keeps the invariant. -/
theorem hasLeader_of_eq {g g' : Group} (h : g.HasLeader) (hl : g'.leaderGuid = g.leaderGuid)
    (hs : g'.memberSlots.map (·.guid) = g.memberSlots.map (·.guid)) : g'.HasLeader := by
  rw [Group.hasLeader_iff, Group.isMember_congr hs, hl, ← Group.hasLeader_iff]
  exact h

theorem hasLeader_create (leader : Guid) (isBG isBF : Bool) :
    (Group.create leader isBG isBF).HasLeader := by
  rw [Group.create_eq]
  exact ⟨⟨leader, 0, 0⟩, by simp, by simp⟩

theorem hasLeader_addMember {g : Group} (h : g.HasLeader) (guid : Guid) :
    (g.addMember guid).2.HasLeader := by
  rcases g.addMember_cases guid with heq | ⟨subgroup, heq, -⟩
  · rwa [heq]
  · obtain ⟨slot, hslot, hguid⟩ := h
    rw [heq]
    exact ⟨slot, by simp [hslot], by simpa using hguid⟩

theorem hasLeader_changeSubGroup {g : Group} (h : g.HasLeader) (sender guid : Guid)
    (groupNr : ℕ) : (g.handleGroupChangeSubGroup sender guid groupNr).HasLeader := by
  rcases g.handleGroupChangeSubGroup_cases sender guid groupNr with heq | ⟨heq, -⟩
  · rwa [heq]
  · rw [heq]
    rcases g.changeMembersGroup_cases guid groupNr with heq | ⟨slot, -, -, heq⟩
    · rwa [heq]
    · rw [heq]
      exact hasLeader_of_eq h rfl (map_modifyFirst fun _ => rfl)

theorem hasLeader_countRollVote {g : Group} (h : g.HasLeader) (player item : Guid)
    (rollType : BitVec 8) : (g.countRollVote player item rollType).1.HasLeader := by
  rcases g.countRollVote_cases player item rollType with
    heq | ⟨roll, -, -, -, ⟨-, heq⟩ | ⟨-, heq⟩⟩ <;> rw [heq] <;> exact h

theorem hasLeader_removeMember {g g' : Group} (h : g.HasLeader) {guid : Guid}
    {method : RemoveMethod} {env : Group.RemoveEnv}
    (hrep : g.leaderGuid = guid → ¬ (g.isLFGGroup = true ∧ method = .kick) →
      g.minMembersToRemove < g.getMembersCount → g.Replaceable env.inWorld)
    (hg' : g.removeMember guid method env = some g') : g'.HasLeader := by
  rcases g.removeMember_cases guid method env with ⟨heq, -⟩ | heq | ⟨heq, hkick, hcount⟩ <;>
    rw [heq] at hg' <;> cases hg'
  · exact h
  · by_cases hl : g.leaderGuid = guid
    · subst hl
      exact (Group.hasLeader_dropMember_leader_iff _).mpr (hrep rfl hkick hcount)
    · exact h.dropMember_of_ne hl _

/-- **One event** that meets the condition keeps the leader a member. -/
theorem LeaderIsMember.step {s : GroupState} {op : GroupOp} (h : s.LeaderIsMember)
    (hok : s.LeaderReplaced op) : (s.step op).LeaderIsMember := by
  have h : s.GroupIs Group.HasLeader := h
  cases op with
  | create leader isBG isBF => exact h.create (hasLeader_create leader isBG isBF)
  | addMember guid => exact h.update fun g _ hg => hasLeader_addMember hg guid
  | removeMember guid method dungeonMapId leaderIsAlive leaderMapId =>
    intro g' hg'
    obtain ⟨g, hg, hrem⟩ := Option.bind_eq_some_iff.mp hg'
    rw [LeaderReplaced, hg] at hok
    exact hasLeader_removeMember (h g hg) hok hrem
  | changeLeader guid => exact h.update fun g _ hg => hg.changeLeader guid _
  | convertToRaid => exact h.update fun g _ hg => hg
  | convertToLFG => exact h.update fun g _ hg => hg
  | changeSubGroup sender guid groupNr =>
    exact h.update fun g _ hg => hasLeader_changeSubGroup hg sender guid groupNr
  | setAssistant guid apply =>
    exact h.update fun g _ hg => hasLeader_of_eq hg rfl (Group.setAssistant_map_guid guid apply)
  | login guid =>
    refine h.update fun g _ hg => ?_
    split_ifs
    · exact hg
    · exact hg
  | logout guid => exact h.update fun g _ hg => hg
  | enterWorld guid => exact h
  | leaveWorld guid => exact h
  | startRoll loot lootItemsEmpty mayLoot autoPass =>
    refine h.update fun g _ hg => ?_
    unfold Group.startRoll
    split
    · exact hg
    · exact hg
  | lootRoll player item rollType =>
    exact h.lootRoll fun g _ hg => hasLeader_countRollVote hg player item rollType
  | endRoll loot => exact h.update fun g _ hg => hg
  | deleteLoot loot => exact h.update fun g _ hg => hg

/-- **The leader is a member** after every run whose removals of the leader find somebody to
lead. -/
theorem leader_mem_memberSlots_after (ops : List GroupOp)
    (h : Admissible step LeaderReplaced initial ops) (g : Group)
    (hg : (after ops).group = some g) : ∃ slot ∈ g.memberSlots, slot.guid = g.leaderGuid :=
  run_invariant LeaderIsMember (fun _ _ hs hok => hs.step hok)
    (fun _ hg => by cases hg) h g hg

/-- Three players form a group, and the leader leaves it while the others are in the world. -/
def leaveOnline : List GroupOp :=
  [.enterWorld 1, .enterWorld 2, .enterWorld 3, .create 1 false false, .addMember 2, .addMember 3,
    .removeMember 1 .leave 0 true 0]

theorem leader_mem_memberSlots_after_leaveOnline :
    ∃ g, (after leaveOnline).group = some g ∧
      ∃ slot ∈ g.memberSlots, slot.guid = g.leaderGuid :=
  ⟨_, rfl, leader_mem_memberSlots_after leaveOnline (by decide) _ rfl⟩

/-- Three players form a group, the others go offline, and the leader leaves: the group keeps
the guid of a leader who is not a member. -/
def leaveOffline : List GroupOp :=
  [.enterWorld 1, .enterWorld 2, .enterWorld 3, .create 1 false false, .addMember 2, .addMember 3,
    .logout 2, .logout 3, .removeMember 1 .leave 0 true 0]

theorem leader_not_mem_memberSlots_after_leaveOffline :
    ¬ ∀ (ops : List GroupOp) (g : Group), (after ops).group = some g → g.memberSlots ≠ [] →
      ∃ slot ∈ g.memberSlots, slot.guid = g.leaderGuid := by
  intro h
  have hbad := h leaveOffline _ rfl (by decide)
  revert hbad
  decide

end GroupState

end TeraCore
