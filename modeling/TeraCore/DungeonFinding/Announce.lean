import TeraCore.DungeonFinding.LFGMgr
import TeraCore.DungeonFinding.Soundness

/-!
# Which proposals an update announces

An update that has found groups announces the proposals from the last id on, and that is the last
proposal only.  So the players of a proposal that was not the last one to be made learn nothing
of it, unless they are in the last one too.

## Main results

* `LFGMgr.announceFrom_eq`: what is announced is the last proposal
* `LFGMgr.update_announced_iff`: when an update announces every proposal it makes
-/

namespace TeraCore

open Commons

theorem ProposalPool.dropWhile_eq {pool : ProposalPool} {p : LfgProposal}
    (h : pool.find? pool.lastId = some p) :
    pool.store.entries.dropWhile (·.1 ≠ pool.lastId) = [(pool.lastId, p)] := by
  obtain ⟨pre, post, hsplit⟩ := List.append_of_mem (OrderedMap.mem_entries.mpr h)
  have hsorted := pool.store.sorted
  rw [hsplit, List.pairwise_append, List.pairwise_cons] at hsorted
  obtain ⟨-, ⟨hpost, -⟩, hpre⟩ := hsorted
  have hpost' : post = [] := by
    refine List.eq_nil_iff_forall_not_mem.mpr fun e he => ?_
    have hkey : e.1 ∈ pool.store.keys :=
      List.mem_map_of_mem (hsplit ▸ List.mem_append_right _ (List.mem_cons_of_mem _ he))
    exact absurd (pool.le_lastId e.1 hkey) (not_le.mpr (hpost e he))
  have hpre' : ∀ e ∈ pre, decide (e.1 ≠ pool.lastId) = true :=
    fun e he => decide_eq_true (hpre e he _ List.mem_cons_self).ne
  rw [hsplit, hpost', List.dropWhile_append_of_pos hpre']
  simp

namespace LFGMgr

/-! ## What an update has found -/

/-- What an update has found, before it announces anything. -/
def found (env : MgrEnv) (s : LFGMgr) : LFGMgr :=
  if s.isOptionEnabled then (s.removeOld env.now).findGroups env else s

/-- **What the searches of an update may have done**: the records are the same, and the new
proposals wait for answers. -/
structure Searched (s s' : LFGMgr) : Prop where
  records : s'.players = s.players ∧ s'.groups = s.groups
  lastId_le : s.proposals.lastId ≤ s'.proposals.lastId
  created : ∀ id, s.proposals.lastId < id → id ≤ s'.proposals.lastId →
    ∃ p, s'.proposals.find? id = some p ∧ p.state = .initiating
  kept : ∀ id ≤ s.proposals.lastId, s'.proposals.find? id = s.proposals.find? id

namespace Searched

variable {s s' s'' : LFGMgr}

theorem refl (s : LFGMgr) : Searched s s :=
  ⟨⟨rfl, rfl⟩, le_rfl, fun _ h h' => absurd h' (not_le.mpr h), fun _ _ => rfl⟩

theorem trans (h : Searched s s') (h' : Searched s' s'') : Searched s s'' where
  records := ⟨h'.records.1.trans h.records.1, h'.records.2.trans h.records.2⟩
  lastId_le := h.lastId_le.trans h'.lastId_le
  created id hid hid' := by
    by_cases hnew : s'.proposals.lastId < id
    · exact h'.created id hnew hid'
    · rw [h'.kept id (not_lt.mp hnew)]
      exact h.created id hid (not_lt.mp hnew)
  kept id hid := (h'.kept id (hid.trans h.lastId_le)).trans (h.kept id hid)

end Searched

variable (env : MgrEnv)

variable (s : LFGMgr)

theorem searched_findGroupsIn (team : ℕ) : Searched s (s.findGroupsIn env team) := by
  have hsearch := QueueEnv.searched_findGroups (s.queueEnv env) ⟨s.queue team, s.proposals⟩
  refine ⟨⟨rfl, rfl⟩, hsearch.lastId_le, fun id hid hid' => ?_, hsearch.kept⟩
  obtain ⟨p, hp, hcreated⟩ := hsearch.created id hid hid'
  obtain ⟨-, -, counted, roles, dungeons, -, heq⟩ := hcreated
  exact ⟨p, hp, heq ▸ rfl⟩

theorem searched_findGroups : Searched s (s.findGroups env) := by
  unfold findGroups
  generalize s.queues.keys = teams
  induction teams generalizing s with
  | nil => exact Searched.refl s
  | cons team teams ih => exact (searched_findGroupsIn env s team).trans (ih _)

theorem removeOldRoleCheck_proposals (now : ℕ) (s : LFGMgr) (e : Guid × LfgRoleCheck) :
    (s.removeOldRoleCheck now e).proposals = s.proposals := by
  unfold removeOldRoleCheck
  split_ifs
  · rfl
  · exact (Restated.foldl Restated.clearState e.2.roles.keys s).proposals

theorem removeOldProposal_lastId (now : ℕ) (s : LFGMgr) (e : ℕ × LfgProposal) :
    (s.removeOldProposal now e).proposals.lastId = s.proposals.lastId := by
  unfold removeOldProposal
  split_ifs
  · rw [removeProposal_proposals, ProposalPool.erase_lastId]
  · rfl

theorem removeOldBoot_proposals (now : ℕ) (s : LFGMgr) (e : Guid × LfgPlayerBoot) :
    (s.removeOldBoot now e).proposals = s.proposals := by
  unfold removeOldBoot
  split_ifs
  · have hvotes := Restated.foldl (fun s pguid => Restated.setState s pguid .dungeon)
      e.2.votes.keys s
    exact (hvotes.trans (Restated.setState _ e.1 .dungeon)).proposals
  · rfl

theorem removeOld_lastId (now : ℕ) (s : LFGMgr) :
    (s.removeOld now).proposals.lastId = s.proposals.lastId := by
  rw [removeOld, foldl_frame LFGMgr.proposals (removeOldBoot_proposals now),
    foldl_frame (fun s : LFGMgr => s.proposals.lastId) (removeOldProposal_lastId now),
    foldl_frame LFGMgr.proposals (removeOldRoleCheck_proposals now)]

theorem searched_found :
    s.proposals.lastId ≤ (s.found env).proposals.lastId ∧
      ∀ id, s.proposals.lastId < id → id ≤ (s.found env).proposals.lastId →
        ∃ p, (s.found env).proposals.find? id = some p ∧ p.state = .initiating := by
  unfold found
  split_ifs
  · have hsearch := searched_findGroups env (s.removeOld env.now)
    rw [← removeOld_lastId env.now s]
    exact ⟨hsearch.lastId_le, hsearch.created⟩
  · exact ⟨le_rfl, fun id h h' => absurd h' (not_le.mpr h)⟩

/-! ## What an update announces -/

/-- A guid is told when the players with the guids in `players` are: it is one of them, or the
group of one of them. -/
def ToldWith (players : List Guid) (guid : Guid) : Prop :=
  guid ∈ players ∨ ∃ player ∈ players, s.getGroup player ≠ 0 ∧ s.getGroup player = guid

theorem getState_announcePlayer (player guid : Guid) :
    (s.announcePlayer player).getState guid = .proposal ↔
      guid = player ∨ (s.getGroup player ≠ 0 ∧ s.getGroup player = guid) ∨
        s.getState guid = .proposal := by
  have hgroup := (Restated.setState s player .proposal).group player
  simp only [announcePlayer, hgroup]
  split_ifs with h
  · rw [getState_setState, getState_setState]
    split_ifs with hg hp
    · simp [hg, h]
    · simp [hp]
    · simp [hp, Ne.symm hg]
  · rw [getState_setState]
    split_ifs with hp <;> simp [hp, h]

theorem getState_foldl_announcePlayer (players : List Guid) (s : LFGMgr) (guid : Guid) :
    (players.foldl announcePlayer s).getState guid = .proposal ↔
      s.ToldWith players guid ∨ s.getState guid = .proposal := by
  induction players generalizing s with
  | nil => simp [ToldWith]
  | cons player players ih =>
    have hgroup : (s.announcePlayer player).getGroup = s.getGroup :=
      funext (restated_announcePlayer s player).group
    rw [List.foldl_cons, ih, getState_announcePlayer]
    simp only [ToldWith, hgroup, List.mem_cons, exists_eq_or_imp]
    generalize (∃ j ∈ players, s.getGroup j ≠ 0 ∧ s.getGroup j = guid) = grouped
    tauto

theorem announceFrom_eq {s : LFGMgr} {lastProposalId : ℕ} {p : LfgProposal}
    (hne : lastProposalId ≠ s.proposals.lastId) (hp : s.proposals.find? s.proposals.lastId = some p)
    (hwait : p.state = .initiating) :
    s.announceFrom env lastProposalId = p.players.keys.foldl announcePlayer s := by
  rw [announceFrom, if_pos hne, ProposalPool.dropWhile_eq hp]
  simp [announce, hwait]

variable (diff : ℕ)

theorem updateTimers_getState (s : LFGMgr) (guid : Guid) :
    (s.updateTimers diff).getState guid = s.getState guid := by
  unfold updateTimers
  split_ifs <;> rfl

theorem updateTimers_getGroup (s : LFGMgr) (guid : Guid) :
    (s.updateTimers diff).getGroup guid = s.getGroup guid := by
  unfold updateTimers
  split_ifs <;> rfl

theorem updateTimers_proposals (s : LFGMgr) : (s.updateTimers diff).proposals = s.proposals := by
  unfold updateTimers
  split_ifs <;> rfl

/-- Every player of a proposal made after `lastId`, and the group of every one, is as `told`
says. -/
def EveryNewPlayer (lastId : ℕ) (told : Guid → Prop) : Prop :=
  ∀ id p, lastId < id → s.proposals.find? id = some p → ∀ player ∈ p.players.keys,
    told player ∧ (s.getGroup player ≠ 0 → told (s.getGroup player))

/-- **The proposals made after `lastId` have been announced**: their players, and the players'
groups, know that there is one. -/
def Announced (lastId : ℕ) : Prop :=
  s.EveryNewPlayer lastId fun guid => s.getState guid = .proposal

/-- The players of the last proposal. -/
def lastPlayers : List Guid :=
  (s.proposals.store.get s.proposals.lastId).players.keys

/-- Every player of a proposal made after `lastId`, and the player's group, knows of a proposal
or is told with the players of the last one. -/
def ToldWithLast (lastId : ℕ) : Prop :=
  s.EveryNewPlayer lastId fun guid =>
    s.ToldWith s.lastPlayers guid ∨ s.getState guid = .proposal

theorem update_eq (s : LFGMgr) (hon : s.isOptionEnabled = true) :
    s.update env diff =
      (if s.proposals.lastId < (s.found env).proposals.lastId then
        (s.found env).lastPlayers.foldl announcePlayer (s.found env)
      else s.found env).updateTimers diff := by
  obtain ⟨hle, hcreated⟩ := searched_found env s
  have hfound : (s.removeOld env.now).findGroups env = s.found env := by rw [found, if_pos hon]
  simp only [update, if_pos hon, removeOld_lastId, hfound]
  split_ifs with hnew
  · obtain ⟨p, hp, hwait⟩ := hcreated _ hnew le_rfl
    rw [announceFrom_eq env hnew.ne hp hwait, lastPlayers, OrderedMap.get_of_find? hp]
  · rw [announceFrom, if_neg (not_not.mpr (Nat.le_antisymm hle (not_lt.mp hnew)))]

theorem update_of_off {s : LFGMgr} (hoff : ¬s.isOptionEnabled = true) :
    s.update env diff = s.found env := by
  rw [update, if_neg hoff, found, if_neg hoff]

@[simp] theorem update_proposals (s : LFGMgr) :
    (s.update env diff).proposals = (s.found env).proposals := by
  by_cases hon : s.isOptionEnabled = true
  · rw [update_eq env diff s hon, updateTimers_proposals]
    split_ifs
    · exact (Restated.foldl restated_announcePlayer _ _).proposals
    · rfl
  · rw [update_of_off env diff hon]

@[simp] theorem update_getGroup (s : LFGMgr) (guid : Guid) :
    (s.update env diff).getGroup guid = (s.found env).getGroup guid := by
  by_cases hon : s.isOptionEnabled = true
  · rw [update_eq env diff s hon, updateTimers_getGroup]
    split_ifs
    · exact (Restated.foldl restated_announcePlayer _ _).group guid
    · rfl
  · rw [update_of_off env diff hon]

theorem update_getState (s : LFGMgr) (guid : Guid) :
    (s.update env diff).getState guid = .proposal ↔
      (s.proposals.lastId < (s.found env).proposals.lastId ∧
        (s.found env).ToldWith (s.found env).lastPlayers guid) ∨
      (s.found env).getState guid = .proposal := by
  by_cases hon : s.isOptionEnabled = true
  · rw [update_eq env diff s hon, updateTimers_getState]
    split_ifs with hnew
    · simp [getState_foldl_announcePlayer, hnew]
    · simp [hnew]
  · rw [update_of_off env diff hon, found, if_neg hon]
    simp

/-- **When an update announces every proposal it makes**: if their players are told with those of
the last one, or know already. -/
theorem update_announced_iff (s : LFGMgr) :
    (s.update env diff).Announced s.proposals.lastId ↔
      (s.found env).ToldWithLast s.proposals.lastId := by
  simp only [Announced, ToldWithLast, EveryNewPlayer, update_proposals, update_getGroup,
    update_getState]
  refine forall_congr' fun id => forall_congr' fun p => forall_congr' fun hid =>
    forall_congr' fun hp => ?_
  simp only [hid.trans_le (ProposalPool.le_lastId_of_find? _ hp), true_and]

/-! ## Two groups at once -/

/-- Everybody is in the world and free to join; dungeons are plain ones. -/
def openEnv (now : ℕ) : MgrEnv where
  now := now
  findPlayer _ := true
  ignores _ _ := false
  usesBgSystem _ := false
  hasDeserter _ := false
  hasCooldown _ := false
  getLFGDungeon id := some ⟨id, 1, 0⟩
  cachedDungeonMapStore _ := OrderedSet.empty
  nextLeader _ _ := none
  leftDungeon _ := false
  random := QueueEnv.firstChoice

/-- Players join one after another, for one dungeon. -/
def joins (dungeon : ℕ) (players : List (Guid × LfgRoles)) : List LfgOp :=
  players.filterMap fun e =>
    if h : isGroup e.1 = false then
      some (.joinLfg (openEnv 0) ⟨e.1, h, e.2, OrderedSet.ofList [dungeon]⟩)
    else none

/-- The players of two groups have joined. -/
def tenPlayers : LFGMgr :=
  run step {} (joins 7 [(1, 0x02), (2, 0x04), (3, 0x08), (4, 0x08), (5, 0x08),
    (6, 0x02), (7, 0x04), (8, 0x08), (9, 0x08), (10, 0x08)])

/-- **A proposal that is not announced**: the first of the two groups learns nothing. -/
theorem update_tenPlayers_not_announced :
    (tenPlayers.update (openEnv 0) 0).proposals.lastId = tenPlayers.proposals.lastId + 2 ∧
      ¬(tenPlayers.update (openEnv 0) 0).Announced tenPlayers.proposals.lastId := by
  have hrun : (tenPlayers.update (openEnv 0) 0).proposals.lastId = tenPlayers.proposals.lastId + 2 ∧
      tenPlayers.proposals.lastId < 1 ∧
      1 ∈ (tenPlayers.update (openEnv 0) 0).proposals.store.keys ∧
      1 ∈ ((tenPlayers.update (openEnv 0) 0).proposals.store.get 1).players.keys ∧
      (tenPlayers.update (openEnv 0) 0).getState 1 ≠ .proposal := by
    decide +kernel
  obtain ⟨hlast, hnew, hmem, hplayer, hstate⟩ := hrun
  refine ⟨hlast, fun h => hstate ?_⟩
  exact (h 1 _ hnew (OrderedMap.find?_of_mem_keys hmem) 1 hplayer).1

end LFGMgr

end TeraCore
